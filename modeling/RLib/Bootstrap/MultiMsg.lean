import RLib.Common

namespace RLib.Bootstrap

open Bytes

def kMaxMsgSz : Nat := 4096

def kMaxMultiMsg : Nat := 8

structure MsgEntry where
  offset : U16 := 0
  sz : U16 := 0
deriving DecidableEq

def MsgEntry.format : Codec MsgEntry :=
  .record (.pair (.word 2) (.word 2)) (fun e => (e.offset, e.sz)) (fun p => ⟨p.1, p.2⟩)
    (fun _ => rfl) (fun _ => rfl)

namespace MsgsHeader

/-- The packed header `{u8 num; MsgEntry entries[kMaxMultiMsg];}`; its methods work in place on the
    memory `mem` it lies in. -/
def size : Nat := 1 + kMaxMultiMsg * MsgEntry.format.size

def num (mem : ByteBuffer) : Except Exit U8 := (Codec.word 1).get <$> load mem 0 1

def entryAt (i : Nat) : Nat := 1 + 4 * i

def offset (mem : ByteBuffer) (i : Nat) : Except Exit U16 := (Codec.word 2).get <$> load mem (entryAt i) 2

def sz (mem : ByteBuffer) (i : Nat) : Except Exit U16 := (Codec.word 2).get <$> load mem (entryAt i + 2) 2

def null : ByteBuffer :=
  (Codec.word 1).put 0 ++ (List.replicate kMaxMultiMsg (dump MsgEntry.format {})).flatten

/-- Where `append_one` lets the next message start. -/
def nextOffset (mem : ByteBuffer) (count : Nat) : Except Exit U16 :=
  if count = 0 then .ok (BitVec.ofNat 16 size)
  else do
    let off ← offset mem (count - 1)
    let len ← sz mem (count - 1)
    return off + len

/-- `append_one`: the header after the entry was added, or `none` when no entry is free. -/
def appendOne (mem : ByteBuffer) (len : U16) : Except Exit (Option ByteBuffer) := do
  let count ← num mem
  if kMaxMultiMsg ≤ count.toNat then
    return none
  else
    let off ← nextOffset mem count.toNat
    let filled ← write mem (entryAt count.toNat) (dump MsgEntry.format ⟨off, len⟩)
    let counted ← write filled 0 ((Codec.word 1).put (count + 1))
    return some counted

/-- The loop of `sanity_check` from entry `i` with `left` entries to go: the running offset at its
    end, or `none` when an entry does not start there. -/
def checkEntries (mem : ByteBuffer) (i : Nat) (curOff : U16) : Nat → Except Exit (Option U16)
  | 0 => .ok (some curOff)
  | left + 1 => do
    let off ← offset mem i
    if off ≠ curOff then return none
    else
      let len ← sz mem i
      checkEntries mem (i + 1) (curOff + len) left

def sanityCheck (mem : ByteBuffer) (total : Nat) : Except Exit Bool := do
  let count ← num mem
  if kMaxMultiMsg < count.toNat then return false
  else
    match ← checkEntries mem 0 (BitVec.ofNat 16 MsgsHeader.size) count.toNat with
    | none => return false
    | some curOff => return decide (curOff.toNat ≤ total)

end MsgsHeader

/-- `header` designates the front of `*buf` until `*buf` moves to new storage, which leaves it `dangling` on
    the storage that was freed. -/
structure MultiMsg (MAXSZ : Nat) where
  buf : HeapString
  dangling : Bool := false
deriving DecidableEq

namespace MultiMsg

variable {MAXSZ : Nat}

/-- The memory behind the header pointer; freed storage belongs to no object. -/
def headerMem (m : MultiMsg MAXSZ) : Except Exit ByteBuffer :=
  if m.dangling then .error .overread else .ok m.buf.bytes

theorem headerMem_live {m : MultiMsg MAXSZ} (live : m.dangling = false) : m.headerMem = .ok m.buf.bytes := by
  rw [headerMem, live]
  rfl

/-- The constructor `MultiMsg(reserve_sz)`. -/
def mk' (MAXSZ : Nat) (growth : StringGrowth) (reserveSz : Nat) : MultiMsg MAXSZ where
  buf := (HeapString.ofBytes MsgsHeader.null).reserve growth (min (max reserveSz MsgsHeader.size) MAXSZ)

def default (MAXSZ : Nat) (growth : StringGrowth) : MultiMsg MAXSZ := mk' MAXSZ growth MAXSZ

def createFrom (MAXSZ : Nat) (b : HeapString) : Except Exit (Option (MultiMsg MAXSZ)) :=
  if MAXSZ < b.bytes.length then .ok none
  else do
    let sane ← MsgsHeader.sanityCheck b.bytes b.bytes.length
    return if sane then some { buf := b } else none

/-- `create_exact`: the argument is a 32-bit `usize`. -/
def createExact (MAXSZ : Nat) (growth : StringGrowth) (sz : Nat) : Option (MultiMsg MAXSZ) :=
  if MAXSZ < sz % 2 ^ 32 + MsgsHeader.size then none
  else some (mk' MAXSZ growth (sz % 2 ^ 32 + MsgsHeader.size))

def append (growth : StringGrowth) (m : MultiMsg MAXSZ) (msg : ByteBuffer) :
    Except Exit (Bool × MultiMsg MAXSZ) :=
  if MAXSZ < m.buf.bytes.length + msg.length then .ok (false, m)
  else do
    match ← MsgsHeader.appendOne (← m.headerMem) (BitVec.ofNat 16 msg.length) with
    | none => return (false, m)
    | some mem =>
      let buf := m.buf.overwrite mem
      return (true, { buf := buf.append growth msg, dangling := buf.moves msg.length })

def numMsg (m : MultiMsg MAXSZ) : Except Exit Nat := do return (← MsgsHeader.num (← m.headerMem)).toNat

theorem numMsg_dangling {m : MultiMsg MAXSZ} (dangling : m.dangling = true) : m.numMsg = .error .overread := by
  rw [numMsg, headerMem, dangling]
  rfl

def entry (m : MultiMsg MAXSZ) (idx : Nat) : Except Exit (Nat × Nat) := do
  let mem ← m.headerMem
  let off ← MsgsHeader.offset mem idx
  let len ← MsgsHeader.sz mem idx
  return (off.toNat, len.toNat)

def queryOne (m : MultiMsg MAXSZ) (idx : Nat) : Except Exit (Option ByteBuffer) := do
  let count ← m.numMsg
  if count ≤ idx then return none
  else
    let slot ← m.entry idx
    let msg ← load m.buf.bytes slot.1 slot.2
    return some msg

end MultiMsg

structure MsgsIter (MAXSZ : Nat) where
  msgs : MultiMsg MAXSZ
  curIdx : Nat := 0

namespace MsgsIter

variable {MAXSZ : Nat}

def valid (it : MsgsIter MAXSZ) : Except Exit Bool := do
  return decide (it.curIdx < (← it.msgs.numMsg))

def next (it : MsgsIter MAXSZ) : MsgsIter MAXSZ := { it with curIdx := it.curIdx + 1 }

/-- `cur`: the pointer as an offset into `*buf`, and the size. -/
def cur (it : MsgsIter MAXSZ) : Except Exit (Nat × Nat) := do
  if ← it.valid then it.msgs.entry it.curIdx else throw .abort

def curMsg (it : MsgsIter MAXSZ) : Except Exit ByteBuffer := do
  let slot ← it.cur
  load it.msgs.buf.bytes slot.1 slot.2

/-- `for (MsgsIter iter(msgs); iter.valid(); iter.next())`, collecting what `cur_msg` returns, for at
    most `fuel` passes; `num` is a byte, so 256 passes are always enough. -/
def walk (it : MsgsIter MAXSZ) : (fuel : Nat) → Except Exit (List ByteBuffer)
  | 0 => .ok []
  | fuel + 1 => do
    if ← it.valid then
      let msg ← it.curMsg
      let rest ← it.next.walk fuel
      return msg :: rest
    else return []

end MsgsIter

end RLib.Bootstrap
