import RLib.Bootstrap.MultiMsg

namespace RLib.Bootstrap

open Bytes

/-- The entry table of messages laid out one behind the other from `off` on. -/
def table (off : Nat) : List ByteBuffer → ByteBuffer
  | [] => []
  | msg :: rest =>
    dump MsgEntry.format ⟨BitVec.ofNat 16 off, BitVec.ofNat 16 msg.length⟩ ++ table (off + msg.length) rest

def freeEntries (count : Nat) : ByteBuffer := (List.replicate count (dump MsgEntry.format {})).flatten

def encodeHeader (msgs : List ByteBuffer) : ByteBuffer :=
  (Codec.word 1).put (BitVec.ofNat 8 msgs.length) ++
    (table MsgsHeader.size msgs ++ freeEntries (kMaxMultiMsg - msgs.length))

def encode (msgs : List ByteBuffer) : ByteBuffer := encodeHeader msgs ++ msgs.flatten

theorem dump_entry (e : MsgEntry) :
    dump MsgEntry.format e = (Codec.word 2).put e.offset ++ (Codec.word 2).put e.sz := rfl

theorem table_append (off : Nat) (first second : List ByteBuffer) :
    table off (first ++ second) = table off first ++ table (off + first.flatten.length) second := by
  induction first generalizing off with
  | nil => rfl
  | cons msg rest ih =>
    have shift : off + msg.length + rest.flatten.length = off + (msg :: rest).flatten.length := by
      simp only [List.flatten_cons, List.length_append]
      omega
    simp only [List.cons_append, table, ih, shift, List.append_assoc]

theorem table_length (off : Nat) (msgs : List ByteBuffer) : (table off msgs).length = 4 * msgs.length := by
  induction msgs generalizing off with
  | nil => rfl
  | cons msg rest ih =>
    have entry : MsgEntry.format.size = 4 := rfl
    simp only [table, List.length_append, dump_length, entry, ih, List.length_cons]
    omega

theorem freeEntries_length (count : Nat) : (freeEntries count).length = 4 * count := by
  induction count with
  | zero => rfl
  | succ count ih =>
    have entry : MsgEntry.format.size = 4 := rfl
    rw [freeEntries, List.replicate_succ, List.flatten_cons, List.length_append, dump_length, entry]
    rw [freeEntries] at ih
    omega

theorem encodeHeader_length (msgs : List ByteBuffer) (room : msgs.length ≤ kMaxMultiMsg) :
    (encodeHeader msgs).length = MsgsHeader.size := by
  have size : MsgsHeader.size = 33 := rfl
  have eight : kMaxMultiMsg = 8 := rfl
  have byte : (Codec.word 1).size = 1 := rfl
  simp only [encodeHeader, List.length_append, Codec.put_length, table_length, freeEntries_length]
  omega

theorem encode_length (msgs : List ByteBuffer) (room : msgs.length ≤ kMaxMultiMsg) :
    (encode msgs).length = MsgsHeader.size + msgs.flatten.length := by
  rw [encode, List.length_append, encodeHeader_length msgs room]

theorem num_encodeHeader (msgs : List ByteBuffer) (tail : ByteBuffer) :
    MsgsHeader.num (encodeHeader msgs ++ tail) = .ok (BitVec.ofNat 8 msgs.length) := by
  have loaded := load_middle [] ((Codec.word 1).put (BitVec.ofNat 8 msgs.length))
    ((table MsgsHeader.size msgs ++ freeEntries (kMaxMultiMsg - msgs.length)) ++ tail)
  rw [List.nil_append, ← List.append_assoc, Codec.put_length] at loaded
  rw [MsgsHeader.num, encodeHeader]
  change (Codec.word 1).get <$> load _ ([] : ByteBuffer).length (Codec.word 1).size = _
  rw [loaded]
  exact congrArg Except.ok ((Codec.word 1).get_put_self _)

theorem encodeHeader_split (before after : List ByteBuffer) (msg tail : ByteBuffer) :
    ∃ left right : ByteBuffer, left.length = MsgsHeader.entryAt before.length ∧
      encodeHeader (before ++ msg :: after) ++ tail =
        left ++ ((Codec.word 2).put (BitVec.ofNat 16 (MsgsHeader.size + before.flatten.length)) ++
          ((Codec.word 2).put (BitVec.ofNat 16 msg.length) ++ right)) := by
  refine ⟨(Codec.word 1).put (BitVec.ofNat 8 (before ++ msg :: after).length) ++ table MsgsHeader.size before,
    table (MsgsHeader.size + before.flatten.length + msg.length) after ++
      freeEntries (kMaxMultiMsg - (before ++ msg :: after).length) ++ tail, ?_, ?_⟩
  · have byte : (Codec.word 1).size = 1 := rfl
    rw [List.length_append, Codec.put_length, table_length, byte, MsgsHeader.entryAt]
  · rw [encodeHeader, table_append, table, dump_entry]
    simp only [List.append_assoc]

theorem offset_encodeHeader (before after : List ByteBuffer) (msg tail : ByteBuffer) :
    MsgsHeader.offset (encodeHeader (before ++ msg :: after) ++ tail) before.length =
      .ok (BitVec.ofNat 16 (MsgsHeader.size + before.flatten.length)) := by
  obtain ⟨left, right, start, split⟩ := encodeHeader_split before after msg tail
  have loaded := load_middle left ((Codec.word 2).put (BitVec.ofNat 16 (MsgsHeader.size + before.flatten.length)))
    ((Codec.word 2).put (BitVec.ofNat 16 msg.length) ++ right)
  rw [Codec.put_length, start] at loaded
  rw [MsgsHeader.offset, split]
  change (Codec.word 2).get <$> load _ _ (Codec.word 2).size = _
  rw [loaded]
  exact congrArg Except.ok ((Codec.word 2).get_put_self _)

theorem sz_encodeHeader (before after : List ByteBuffer) (msg tail : ByteBuffer) :
    MsgsHeader.sz (encodeHeader (before ++ msg :: after) ++ tail) before.length =
      .ok (BitVec.ofNat 16 msg.length) := by
  obtain ⟨left, right, start, split⟩ := encodeHeader_split before after msg tail
  let offsetBytes := (Codec.word 2).put (BitVec.ofNat 16 (MsgsHeader.size + before.flatten.length))
  have loaded := load_middle (left ++ offsetBytes) ((Codec.word 2).put (BitVec.ofNat 16 msg.length)) right
  have two : (Codec.word 2).size = 2 := rfl
  rw [List.append_assoc, List.length_append, Codec.put_length, Codec.put_length, start, two] at loaded
  rw [MsgsHeader.sz, split, loaded]
  exact congrArg Except.ok ((Codec.word 2).get_put_self _)

theorem nextOffset_encodeHeader (msgs : List ByteBuffer) (tail : ByteBuffer) :
    MsgsHeader.nextOffset (encodeHeader msgs ++ tail) msgs.length =
      .ok (BitVec.ofNat 16 (MsgsHeader.size + msgs.flatten.length)) := by
  rcases List.eq_nil_or_concat' msgs with rfl | ⟨before, last, rfl⟩
  · rfl
  · have nonempty : (before ++ [last]).length ≠ 0 := by simp
    have index : (before ++ [last]).length - 1 = before.length := by simp
    have total : MsgsHeader.size + (before ++ [last]).flatten.length =
        MsgsHeader.size + before.flatten.length + last.length := by
      simp only [List.flatten_append, List.flatten_cons, List.flatten_nil, List.append_nil, List.length_append]
      omega
    rw [MsgsHeader.nextOffset, if_neg nonempty, index, offset_encodeHeader before [] last tail,
      sz_encodeHeader before [] last tail, total, BitVec.ofNat_add _ last.length]
    rfl

theorem freeEntries_succ (msgs : List ByteBuffer) (room : msgs.length < kMaxMultiMsg) :
    freeEntries (kMaxMultiMsg - msgs.length) =
      dump MsgEntry.format {} ++ freeEntries (kMaxMultiMsg - (msgs.length + 1)) := by
  have count : kMaxMultiMsg - msgs.length = kMaxMultiMsg - (msgs.length + 1) + 1 := by omega
  rw [freeEntries, count, List.replicate_succ, List.flatten_cons]
  rfl

theorem appendOne_encodeHeader (msgs : List ByteBuffer) (msg tail : ByteBuffer)
    (room : msgs.length < kMaxMultiMsg) :
    MsgsHeader.appendOne (encodeHeader msgs ++ tail) (BitVec.ofNat 16 msg.length) =
      .ok (some (encodeHeader (msgs ++ [msg]) ++ tail)) := by
  have eight : kMaxMultiMsg = 8 := rfl
  have byte : (Codec.word 1).size = 1 := rfl
  have count : (BitVec.ofNat 8 msgs.length).toNat = msgs.length := by
    rw [BitVec.toNat_ofNat]
    omega
  have notFull : ¬ kMaxMultiMsg ≤ msgs.length := by omega
  let left := (Codec.word 1).put (BitVec.ofNat 8 msgs.length) ++ table MsgsHeader.size msgs
  let entry := dump MsgEntry.format
    ⟨BitVec.ofNat 16 (MsgsHeader.size + msgs.flatten.length), BitVec.ofNat 16 msg.length⟩
  let rest := freeEntries (kMaxMultiMsg - (msgs.length + 1)) ++ tail
  have start : left.length = MsgsHeader.entryAt msgs.length := by
    simp only [left, List.length_append, Codec.put_length, table_length, byte, MsgsHeader.entryAt]
  have before : encodeHeader msgs ++ tail = left ++ (dump MsgEntry.format {} ++ rest) := by
    simp only [left, rest, encodeHeader, freeEntries_succ msgs room, List.append_assoc]
  have filled : write (encodeHeader msgs ++ tail) (MsgsHeader.entryAt msgs.length) entry =
      .ok (left ++ (entry ++ rest)) := by
    rw [before, ← start]
    exact write_middle left _ rest entry (by simp only [entry, dump_length])
  have counted : write (left ++ (entry ++ rest)) 0 ((Codec.word 1).put (BitVec.ofNat 8 msgs.length + 1)) =
      .ok ((Codec.word 1).put (BitVec.ofNat 8 msgs.length + 1) ++ (table MsgsHeader.size msgs ++ (entry ++ rest))) := by
    have written := write_middle [] ((Codec.word 1).put (BitVec.ofNat 8 msgs.length))
      (table MsgsHeader.size msgs ++ (entry ++ rest)) ((Codec.word 1).put (BitVec.ofNat 8 msgs.length + 1))
      (by simp only [Codec.put_length])
    simpa only [left, List.nil_append, List.length_nil, List.append_assoc] using written
  have after : encodeHeader (msgs ++ [msg]) ++ tail =
      (Codec.word 1).put (BitVec.ofNat 8 msgs.length + 1) ++ (table MsgsHeader.size msgs ++ (entry ++ rest)) := by
    have one : BitVec.ofNat 8 (msgs.length + 1) = BitVec.ofNat 8 msgs.length + 1 := BitVec.ofNat_add _ _
    simp only [encodeHeader, table_append, table, entry, rest, List.length_append, List.length_singleton, one,
      List.append_assoc, List.append_nil]
  simp only [MsgsHeader.appendOne, num_encodeHeader, count, notFull, nextOffset_encodeHeader, filled, counted, after,
    Bind.bind, Except.bind, Pure.pure, Except.pure, ↓reduceIte, entry]

theorem checkEntries_encodeHeader (before todo : List ByteBuffer) (tail : ByteBuffer) :
    MsgsHeader.checkEntries (encodeHeader (before ++ todo) ++ tail) before.length
        (BitVec.ofNat 16 (MsgsHeader.size + before.flatten.length)) todo.length =
      .ok (some (BitVec.ofNat 16 (MsgsHeader.size + (before ++ todo).flatten.length))) := by
  induction todo generalizing before with
  | nil => rw [List.append_nil, List.length_nil, MsgsHeader.checkEntries]
  | cons msg rest ih =>
    have off := offset_encodeHeader before rest msg tail
    have len := sz_encodeHeader before rest msg tail
    have tail' := ih (before ++ [msg])
    have regroup : before ++ [msg] ++ rest = before ++ msg :: rest := by simp
    have index : (before ++ [msg]).length = before.length + 1 := by simp
    have total : MsgsHeader.size + (before ++ [msg]).flatten.length =
        MsgsHeader.size + before.flatten.length + msg.length := by
      simp only [List.flatten_append, List.flatten_cons, List.flatten_nil, List.append_nil, List.length_append]
      omega
    rw [regroup, index, total, BitVec.ofNat_add _ msg.length] at tail'
    simp only [List.length_cons, MsgsHeader.checkEntries, off, len, Bind.bind, Except.bind, ne_eq,
      not_true_eq_false, ↓reduceIte]
    exact tail'

theorem sanityCheck_encodeHeader (msgs : List ByteBuffer) (tail : ByteBuffer) (total : Nat)
    (room : msgs.length ≤ kMaxMultiMsg) (short : MsgsHeader.size + msgs.flatten.length < 2 ^ 16) :
    MsgsHeader.sanityCheck (encodeHeader msgs ++ tail) total =
      .ok (decide (MsgsHeader.size + msgs.flatten.length ≤ total)) := by
  have eight : kMaxMultiMsg = 8 := rfl
  have count : (BitVec.ofNat 8 msgs.length).toNat = msgs.length := by
    rw [BitVec.toNat_ofNat]
    omega
  have few : ¬ kMaxMultiMsg < msgs.length := by omega
  have checked := checkEntries_encodeHeader [] msgs tail
  simp only [List.nil_append, List.length_nil, List.flatten_nil, Nat.add_zero] at checked
  have final : (BitVec.ofNat 16 (MsgsHeader.size + msgs.flatten.length)).toNat =
      MsgsHeader.size + msgs.flatten.length := by
    rw [BitVec.toNat_ofNat, Nat.mod_eq_of_lt short]
  simp only [MsgsHeader.sanityCheck, num_encodeHeader, count, few, checked, final, Bind.bind, Except.bind,
    Pure.pure, Except.pure, ↓reduceIte]

namespace MultiMsg

variable {MAXSZ : Nat}

theorem numMsg_encode (m : MultiMsg MAXSZ) (msgs : List ByteBuffer) (tail : ByteBuffer)
    (memory : m.headerMem = .ok (encodeHeader msgs ++ tail)) (room : msgs.length ≤ kMaxMultiMsg) :
    m.numMsg = .ok msgs.length := by
  have eight : kMaxMultiMsg = 8 := rfl
  have count : (BitVec.ofNat 8 msgs.length).toNat = msgs.length := by
    rw [BitVec.toNat_ofNat]
    omega
  simp only [numMsg, memory, num_encodeHeader, count, Bind.bind, Except.bind, Pure.pure, Except.pure]

theorem entry_encode (m : MultiMsg MAXSZ) (before after : List ByteBuffer) (msg tail : ByteBuffer)
    (memory : m.headerMem = .ok (encodeHeader (before ++ msg :: after) ++ tail))
    (short : MsgsHeader.size + (before ++ msg :: after).flatten.length < 2 ^ 16) :
    m.entry before.length = .ok (MsgsHeader.size + before.flatten.length, msg.length) := by
  have total : (before ++ msg :: after).flatten.length =
      before.flatten.length + (msg.length + after.flatten.length) := by
    simp only [List.flatten_append, List.flatten_cons, List.length_append]
  have off : (BitVec.ofNat 16 (MsgsHeader.size + before.flatten.length)).toNat =
      MsgsHeader.size + before.flatten.length := by
    rw [BitVec.toNat_ofNat, Nat.mod_eq_of_lt (by omega)]
  have len : (BitVec.ofNat 16 msg.length).toNat = msg.length := by
    rw [BitVec.toNat_ofNat, Nat.mod_eq_of_lt (by omega)]
  simp only [entry, memory, offset_encodeHeader, sz_encodeHeader, off, len, Bind.bind, Except.bind,
    Pure.pure, Except.pure]

/-- A message whose buffer starts with the encoding of `msgs` and whose header lies there. -/
structure Holds (m : MultiMsg MAXSZ) (msgs : List ByteBuffer) (rest : ByteBuffer) : Prop where
  room : msgs.length ≤ kMaxMultiMsg
  short : (encode msgs).length < 2 ^ 16
  bytes : m.buf.bytes = encode msgs ++ rest
  live : m.dangling = false

theorem Holds.headerMem {m : MultiMsg MAXSZ} {msgs : List ByteBuffer} {rest : ByteBuffer}
    (holds : m.Holds msgs rest) : m.headerMem = .ok (encodeHeader msgs ++ (msgs.flatten ++ rest)) := by
  rw [headerMem_live holds.live, holds.bytes, encode, List.append_assoc]

theorem Holds.end_lt {m : MultiMsg MAXSZ} {msgs : List ByteBuffer} {rest : ByteBuffer}
    (holds : m.Holds msgs rest) : MsgsHeader.size + msgs.flatten.length < 2 ^ 16 := by
  have short := holds.short
  rwa [encode_length msgs holds.room] at short

theorem Holds.numMsg {m : MultiMsg MAXSZ} {msgs : List ByteBuffer} {rest : ByteBuffer}
    (holds : m.Holds msgs rest) : m.numMsg = .ok msgs.length :=
  numMsg_encode m msgs _ holds.headerMem holds.room

theorem Holds.slot {m : MultiMsg MAXSZ} {msgs : List ByteBuffer} {rest : ByteBuffer}
    (holds : m.Holds msgs rest) (i : Nat) (inside : i < msgs.length) :
    ∃ off, m.entry i = .ok (off, (msgs[i]).length) ∧ load m.buf.bytes off (msgs[i]).length = .ok msgs[i] := by
  let before := msgs.take i
  let after := msgs.drop (i + 1)
  have split : msgs = before ++ msgs[i] :: after := by
    rw [List.cons_getElem_drop_succ, List.take_append_drop]
  have index : before.length = i := by
    rw [List.length_take]
    omega
  have flat : msgs.flatten = before.flatten ++ (msgs[i] ++ after.flatten) := by
    conv_lhs => rw [split]
    rw [List.flatten_append, List.flatten_cons]
  have memory : m.headerMem = .ok (encodeHeader (before ++ msgs[i] :: after) ++ (msgs.flatten ++ rest)) := by
    rw [← split]
    exact holds.headerMem
  have short : MsgsHeader.size + (before ++ msgs[i] :: after).flatten.length < 2 ^ 16 := by
    rw [← split]
    exact holds.end_lt
  refine ⟨MsgsHeader.size + before.flatten.length, ?_, ?_⟩
  · have found := entry_encode m before after msgs[i] _ memory short
    rwa [index] at found
  · have bytes : m.buf.bytes = (encodeHeader msgs ++ before.flatten) ++ (msgs[i] ++ (after.flatten ++ rest)) := by
      rw [holds.bytes, encode, flat]
      simp only [List.append_assoc]
    have start : (encodeHeader msgs ++ before.flatten).length = MsgsHeader.size + before.flatten.length := by
      rw [List.length_append, encodeHeader_length msgs holds.room]
    rw [bytes, ← start]
    exact load_middle _ _ _

theorem Holds.queryOne {m : MultiMsg MAXSZ} {msgs : List ByteBuffer} {rest : ByteBuffer}
    (holds : m.Holds msgs rest) (i : Nat) : m.queryOne i = .ok msgs[i]? := by
  by_cases inside : i < msgs.length
  · obtain ⟨off, entry, slice⟩ := holds.slot i inside
    have present : ¬ msgs.length ≤ i := by omega
    simp only [MultiMsg.queryOne, holds.numMsg, present, entry, slice, Bind.bind, Except.bind, Pure.pure,
      Except.pure, ↓reduceIte, List.getElem?_eq_getElem inside]
  · have absent : msgs.length ≤ i := by omega
    simp only [MultiMsg.queryOne, holds.numMsg, absent, Bind.bind, Except.bind, Pure.pure, Except.pure,
      ↓reduceIte, List.getElem?_eq_none absent]

theorem Holds.walk {m : MultiMsg MAXSZ} {msgs : List ByteBuffer} {rest : ByteBuffer}
    (holds : m.Holds msgs rest) (fuel i : Nat) (enough : msgs.length ≤ i + fuel) :
    MsgsIter.walk ⟨m, i⟩ fuel = .ok (msgs.drop i) := by
  induction fuel generalizing i with
  | zero =>
    rw [MsgsIter.walk, List.drop_eq_nil_of_le (by omega)]
  | succ fuel ih =>
    by_cases inside : i < msgs.length
    · obtain ⟨off, entry, slice⟩ := holds.slot i inside
      have next := ih (i + 1) (by omega)
      simp only [MsgsIter.walk, MsgsIter.valid, MsgsIter.curMsg, MsgsIter.cur, MsgsIter.next, holds.numMsg,
        inside, decide_true, entry, slice, next, Bind.bind, Except.bind, Pure.pure, Except.pure, ↓reduceIte]
      rw [List.cons_getElem_drop_succ]
    · simp only [MsgsIter.walk, MsgsIter.valid, holds.numMsg, inside, decide_false, Bind.bind, Except.bind,
        Pure.pure, Except.pure, Bool.false_eq_true, ↓reduceIte]
      rw [List.drop_eq_nil_of_le (by omega)]

theorem createFrom_encode (b : HeapString) (msgs : List ByteBuffer) (rest : ByteBuffer)
    (bytes : b.bytes = encode msgs ++ rest) (room : msgs.length ≤ kMaxMultiMsg)
    (fits : b.bytes.length ≤ MAXSZ) (small : MAXSZ < 2 ^ 16) :
    ∃ m, createFrom MAXSZ b = .ok (some m) ∧ m.buf = b ∧ m.Holds msgs rest := by
  have length : b.bytes.length = MsgsHeader.size + msgs.flatten.length + rest.length := by
    rw [bytes, List.length_append, encode_length msgs room]
  have sane : MsgsHeader.sanityCheck b.bytes b.bytes.length = .ok true := by
    have inside : MsgsHeader.size + msgs.flatten.length ≤ b.bytes.length := by omega
    have split : b.bytes = encodeHeader msgs ++ (msgs.flatten ++ rest) := by
      rw [bytes, encode, List.append_assoc]
    have checked := sanityCheck_encodeHeader msgs (msgs.flatten ++ rest) b.bytes.length room (by omega)
    rw [← split, decide_eq_true inside] at checked
    exact checked
  have notLong : ¬ MAXSZ < b.bytes.length := by omega
  refine ⟨{ buf := b }, ?_, rfl, ⟨room, ?_, bytes, rfl⟩⟩
  · simp only [createFrom, notLong, sane, Bind.bind, Except.bind, Pure.pure, Except.pure, ↓reduceIte]
  · rw [encode_length msgs room]
    omega

end MultiMsg

end RLib.Bootstrap
