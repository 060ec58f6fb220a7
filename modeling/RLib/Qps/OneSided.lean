import RLib.Foundation.Member
import RLib.Proto
import RLib.Verbs
import Mathlib.Data.BitVec

namespace RLib.OneSided

open Bytes Proto

def IBV_WR_RDMA_WRITE : U32 := 0
def IBV_WR_RDMA_WRITE_WITH_IMM : U32 := 1
def IBV_WR_RDMA_READ : U32 := 4
def IBV_WR_ATOMIC_CMP_AND_SWP : U32 := 5
def IBV_WR_ATOMIC_FETCH_AND_ADD : U32 := 6

/-- The opcodes for which the NIC reads `wr.rdma`. -/
def rdmaOpcodes : List U32 := [IBV_WR_RDMA_WRITE, IBV_WR_RDMA_WRITE_WITH_IMM, IBV_WR_RDMA_READ]

/-- The union `wr` of an `ibv_send_wr`. -/
structure Block where
  bytes : List Byte
  size : bytes.length = 32

namespace Block

def zero : Block := ⟨List.replicate 32 0, rfl⟩

def rdmaAddr : Member U64 := ⟨.word 8, 0⟩
def rdmaKey : Member U32 := ⟨.word 4, 8⟩
def atomicAddr : Member U64 := ⟨.word 8, 0⟩
def compareAdd : Member U64 := ⟨.word 8, 8⟩
def swap : Member U64 := ⟨.word 8, 16⟩
def atomicKey : Member U32 := ⟨.word 4, 24⟩

variable {α : Type} {β : Type}

def get (b : Block) (m : Member α) : α := m.get b.bytes

def Inside (m : Member α) : Prop := m.stop ≤ 32

instance (m : Member α) : Decidable (Inside m) := inferInstanceAs (Decidable (_ ≤ _))

def set (b : Block) (m : Member α) (inside : Inside m) (a : α) : Block where
  bytes := m.set a b.bytes
  size := by
    rw [Member.set_length (by rw [b.size]; exact inside), b.size]

@[simp] theorem get_set (b : Block) (m : Member α) (inside : Inside m) (a : α) : (b.set m inside a).get m = a := by
  apply Member.get_set
  rw [b.size]
  exact inside

theorem get_set_apart (b : Block) {m : Member α} {m' : Member β} (inside : Inside m') (a : β) (apart : m.Apart m') :
    (b.set m' inside a).get m = b.get m := by
  apply Member.get_set_apart _ apart
  rw [b.size]
  exact inside

end Block

/-- An `ibv_send_wr` without its links. -/
structure Wr where
  wrId : U64 := 0
  opcode : U32 := 0
  sendFlags : U32 := 0
  immData : U32 := 0
  wr : Block := .zero

structure Op (n : Nat) where
  wr : Wr := {}
  sges : Fin n → Sge := fun _ => ⟨0, 0, 0⟩

namespace Op

variable {n : Nat}

def setOp (op : U32) (o : Op n) : Op n := { o with wr := { o.wr with opcode := op } }

def setRead (o : Op n) : Op n := o.setOp IBV_WR_RDMA_READ

def setWrite (o : Op n) : Op n := o.setOp IBV_WR_RDMA_WRITE

def setImm (imm : U32) (o : Op n) : Op n := { o with wr := { o.wr with immData := imm } }

def setBlock (f : Block → Block) (o : Op n) : Op n := { o with wr := { o.wr with wr := f o.wr.wr } }

def setRdmaRbuf (ra : U64) (rk : U32) (o : Op n) : Op n :=
  o.setBlock fun b => (b.set Block.rdmaAddr (by decide) ra).set Block.rdmaKey (by decide) rk

def setRdmaAddr (off : U64) (attr : RegAttr) (o : Op n) : Op n :=
  o.setBlock fun b => (b.set Block.rdmaAddr (by decide) (off + attr.buf)).set Block.rdmaKey (by decide) attr.key

def setAtomicRbuf (ra : U64) (rk : U32) (o : Op n) : Op n :=
  (o.setBlock fun b => (b.set Block.atomicAddr (by decide) ra).set Block.atomicKey (by decide) rk).setImm 0

def setCas (comp swap : U64) (o : Op n) : Op n :=
  (o.setBlock fun b => (b.set Block.compareAdd (by decide) comp).set Block.swap (by decide) swap).setOp
    IBV_WR_ATOMIC_CMP_AND_SWP

def setFetchAdd (add : U64) (o : Op n) : Op n :=
  (o.setBlock fun b => (b.set Block.compareAdd (by decide) add).set Block.swap (by decide) 0).setOp
    IBV_WR_ATOMIC_FETCH_AND_ADD

def setFlags (flags : U32) (o : Op n) : Op n := { o with wr := { o.wr with sendFlags := flags } }

def setWrid (id : U64) (o : Op n) : Op n := { o with wr := { o.wr with wrId := id } }

def setAtomic (ra ca swap : U64) (rk : U32) (o : Op n) : Op n :=
  (o.setBlock fun b => (((b.set Block.atomicAddr (by decide) ra).set Block.compareAdd (by decide) ca).set
    Block.swap (by decide) swap).set Block.atomicKey (by decide) rk).setImm 0

/-- Whether there is an entry with this index, and the op. -/
def setPayload (addr : U64) (length lkey index : U32) (o : Op n) : Bool × Op n :=
  if small : index.toNat < n then
    (true, { o with sges := Function.update o.sges ⟨index.toNat, small⟩ ⟨addr, length, lkey⟩ })
  else (false, o)

end Op

/-- What the NIC reads of the union, which depends on the opcode. -/
inductive Remote where
  | none
  | rdma (addr : U64) (key : U32)
  | cas (addr : U64) (key : U32) (compare swap : U64)
  | fetchAdd (addr : U64) (key : U32) (add : U64)
deriving DecidableEq

structure Request where
  wrId : U64
  opcode : U32
  flags : U32
  imm : U32
  remote : Remote
  sges : List Sge
deriving DecidableEq

def remoteOf (opcode : U32) (rdmaAddr : U64) (rdmaKey : U32) (atomicAddr : U64) (atomicKey : U32)
    (compareAdd swap : U64) : Remote :=
  if opcode ∈ rdmaOpcodes then .rdma rdmaAddr rdmaKey
  else if opcode = IBV_WR_ATOMIC_CMP_AND_SWP then .cas atomicAddr atomicKey compareAdd swap
  else if opcode = IBV_WR_ATOMIC_FETCH_AND_ADD then .fetchAdd atomicAddr atomicKey compareAdd
  else .none

namespace Op

variable {n : Nat}

/-- What `execute` posts once `encode_my_wr` gave `wrId`: one request, with its own flags and entries. -/
def execute (flags : U32) (wrId : U64) (o : Op n) : Request where
  wrId := wrId
  opcode := o.wr.opcode
  flags := flags
  imm := o.wr.immData
  remote := remoteOf o.wr.opcode (o.wr.wr.get Block.rdmaAddr) (o.wr.wr.get Block.rdmaKey) (o.wr.wr.get Block.atomicAddr)
    (o.wr.wr.get Block.atomicKey) (o.wr.wr.get Block.compareAdd) (o.wr.wr.get Block.swap)
  sges := List.ofFn o.sges

end Op

inductive Setter where
  | setOp (op : U32)
  | setRead
  | setWrite
  | setRdmaRbuf (ra : U64) (rk : U32)
  | setRdmaAddr (off : U64) (attr : RegAttr)
  | setAtomicRbuf (ra : U64) (rk : U32)
  | setCas (comp swap : U64)
  | setFetchAdd (add : U64)
  | setFlags (flags : U32)
  | setWrid (id : U64)
  | setAtomic (ra ca swap : U64) (rk : U32)
  | setImm (imm : U32)
  | setPayload (addr : U64) (length lkey index : U32)

def Op.call {n : Nat} (o : Op n) : Setter → Op n
  | .setOp op => o.setOp op
  | .setRead => o.setRead
  | .setWrite => o.setWrite
  | .setRdmaRbuf ra rk => o.setRdmaRbuf ra rk
  | .setRdmaAddr off attr => o.setRdmaAddr off attr
  | .setAtomicRbuf ra rk => o.setAtomicRbuf ra rk
  | .setCas comp swap => o.setCas comp swap
  | .setFetchAdd add => o.setFetchAdd add
  | .setFlags flags => o.setFlags flags
  | .setWrid id => o.setWrid id
  | .setAtomic ra ca swap rk => o.setAtomic ra ca swap rk
  | .setImm imm => o.setImm imm
  | .setPayload addr length lkey index => (o.setPayload addr length lkey index).2

/-- What the caller asked for: every value that was given last, each on its own. -/
structure Asked (n : Nat) where
  opcode : U32 := 0
  addr : U64 := 0
  key : U32 := 0
  compareAdd : U64 := 0
  swap : U64 := 0
  imm : U32 := 0
  sges : Fin n → Sge := fun _ => ⟨0, 0, 0⟩

namespace Asked

variable {n : Nat}

def ask (a : Asked n) : Setter → Asked n
  | .setOp op => { a with opcode := op }
  | .setRead => { a with opcode := IBV_WR_RDMA_READ }
  | .setWrite => { a with opcode := IBV_WR_RDMA_WRITE }
  | .setRdmaRbuf ra rk => { a with addr := ra, key := rk }
  | .setRdmaAddr off attr => { a with addr := off + attr.buf, key := attr.key }
  | .setAtomicRbuf ra rk => { a with addr := ra, key := rk, imm := 0 }
  | .setCas comp swap => { a with compareAdd := comp, swap := swap, opcode := IBV_WR_ATOMIC_CMP_AND_SWP }
  | .setFetchAdd add => { a with compareAdd := add, swap := 0, opcode := IBV_WR_ATOMIC_FETCH_AND_ADD }
  | .setFlags _ | .setWrid _ => a
  | .setAtomic ra ca swap rk => { a with addr := ra, key := rk, compareAdd := ca, swap := swap, imm := 0 }
  | .setImm imm => { a with imm := imm }
  | .setPayload addr length lkey index =>
    if small : index.toNat < n then
      { a with sges := Function.update a.sges ⟨index.toNat, small⟩ ⟨addr, length, lkey⟩ }
    else a

def request (flags : U32) (wrId : U64) (a : Asked n) : Request where
  wrId := wrId
  opcode := a.opcode
  flags := flags
  imm := a.imm
  remote := remoteOf a.opcode a.addr a.key a.addr a.key a.compareAdd a.swap
  sges := List.ofFn a.sges

end Asked

inductive Shape where
  | op (op : U32)
  | rdma
  | atomicRbuf
  | cas
  | fetchAdd
  | atomic
  | other
deriving DecidableEq

def Setter.shape : Setter → Shape
  | .setOp op => .op op
  | .setRead => .op IBV_WR_RDMA_READ
  | .setWrite => .op IBV_WR_RDMA_WRITE
  | .setRdmaRbuf .. | .setRdmaAddr .. => .rdma
  | .setAtomicRbuf .. => .atomicRbuf
  | .setCas .. => .cas
  | .setFetchAdd .. => .fetchAdd
  | .setAtomic .. => .atomic
  | .setFlags _ | .setWrid _ | .setImm _ | .setPayload .. => .other

/-- Which members of the union hold what was asked for. `rdma.rkey` shares its bytes with `atomic.compare_add`, and
    the two keys lie apart. -/
structure Marks where
  opcode : U32 := 0
  rdmaKey : Bool := true
  atomicKey : Bool := true
  compareAdd : Bool := true
deriving DecidableEq

namespace Marks

def mark (m : Marks) : Shape → Marks
  | .op op => { m with opcode := op }
  | .rdma => { m with rdmaKey := true, atomicKey := false, compareAdd := false }
  | .atomicRbuf => { m with rdmaKey := false, atomicKey := true }
  | .cas => { m with opcode := IBV_WR_ATOMIC_CMP_AND_SWP, rdmaKey := false, compareAdd := true }
  | .fetchAdd => { m with opcode := IBV_WR_ATOMIC_FETCH_AND_ADD, rdmaKey := false, compareAdd := true }
  | .atomic => { m with rdmaKey := false, atomicKey := true, compareAdd := true }
  | .other => m

def Fits (m : Marks) : Prop :=
  if m.opcode ∈ rdmaOpcodes then m.rdmaKey = true
  else if m.opcode = IBV_WR_ATOMIC_CMP_AND_SWP ∨ m.opcode = IBV_WR_ATOMIC_FETCH_AND_ADD then
    m.atomicKey = true ∧ m.compareAdd = true
  else True

instance (m : Marks) : Decidable m.Fits :=
  inferInstanceAs <| Decidable <|
    if m.opcode ∈ rdmaOpcodes then m.rdmaKey = true
    else if m.opcode = IBV_WR_ATOMIC_CMP_AND_SWP ∨ m.opcode = IBV_WR_ATOMIC_FETCH_AND_ADD then
      m.atomicKey = true ∧ m.compareAdd = true
    else True

end Marks

section

variable {n : Nat} {m : Marks} {o : Op n} {a : Asked n}

theorem Block.atomicAddr_eq : Block.atomicAddr = Block.rdmaAddr := (rfl)

/-- The op and what was asked for agree on all but what the marks take back. -/
structure Agrees (m : Marks) (o : Op n) (a : Asked n) : Prop where
  marked : m.opcode = a.opcode
  opcode : o.wr.opcode = a.opcode
  imm : o.wr.immData = a.imm
  sges : o.sges = a.sges
  addr : o.wr.wr.get Block.rdmaAddr = a.addr
  swap : o.wr.wr.get Block.swap = a.swap
  rdmaKey : m.rdmaKey = true → o.wr.wr.get Block.rdmaKey = a.key
  atomicKey : m.atomicKey = true → o.wr.wr.get Block.atomicKey = a.key
  compareAdd : m.compareAdd = true → o.wr.wr.get Block.compareAdd = a.compareAdd

theorem start_agrees : Agrees {} ({} : Op n) {} := by
  constructor <;> first | rfl | exact fun _ => rfl

theorem Agrees.call (agrees : Agrees m o a) (s : Setter) : Agrees (m.mark s.shape) (o.call s) (a.ask s) := by
  obtain ⟨marked, opcode, imm, sges, addr, swap, rdmaKey, atomicKey, compareAdd⟩ := agrees
  cases s with
  | setOp | setRead | setWrite => exact ⟨rfl, rfl, imm, sges, addr, swap, rdmaKey, atomicKey, compareAdd⟩
  | setFlags | setWrid => exact ⟨marked, opcode, imm, sges, addr, swap, rdmaKey, atomicKey, compareAdd⟩
  | setImm => exact ⟨marked, opcode, rfl, sges, addr, swap, rdmaKey, atomicKey, compareAdd⟩
  | setRdmaRbuf ra rk =>
    refine ⟨marked, opcode, imm, sges, ?_, ?_, fun _ => ?_, nofun, nofun⟩
    all_goals simp (disch := decide) [Op.call, Op.setRdmaRbuf, Op.setBlock, Asked.ask, Block.get_set_apart, swap]
  | setRdmaAddr off attr =>
    refine ⟨marked, opcode, imm, sges, ?_, ?_, fun _ => ?_, nofun, nofun⟩
    all_goals simp (disch := decide) [Op.call, Op.setRdmaAddr, Op.setBlock, Asked.ask, Block.get_set_apart, swap]
  | setAtomicRbuf ra rk =>
    refine ⟨marked, opcode, rfl, sges, ?_, ?_, nofun, fun _ => ?_, fun kept => ?_⟩
    all_goals
      simp (disch := decide) [Op.call, Op.setAtomicRbuf, Op.setBlock, Op.setImm, Asked.ask, Block.get_set_apart,
        Block.atomicAddr_eq, swap]
    exact compareAdd kept
  | setCas comp swap' =>
    refine ⟨rfl, rfl, imm, sges, ?_, ?_, nofun, fun kept => ?_, fun _ => ?_⟩
    all_goals simp (disch := decide) [Op.call, Op.setCas, Op.setBlock, Op.setOp, Asked.ask, Block.get_set_apart, addr]
    exact atomicKey kept
  | setFetchAdd add =>
    refine ⟨rfl, rfl, imm, sges, ?_, ?_, nofun, fun kept => ?_, fun _ => ?_⟩
    all_goals
      simp (disch := decide) [Op.call, Op.setFetchAdd, Op.setBlock, Op.setOp, Asked.ask, Block.get_set_apart, addr]
    exact atomicKey kept
  | setAtomic ra ca swap' rk =>
    refine ⟨marked, opcode, rfl, sges, ?_, ?_, nofun, fun _ => ?_, fun _ => ?_⟩
    all_goals
      simp (disch := decide) [Op.call, Op.setAtomic, Op.setBlock, Op.setImm, Asked.ask, Block.get_set_apart,
        Block.atomicAddr_eq]
  | setPayload addr' length lkey index =>
    simp only [Setter.shape, Marks.mark, Op.call, Op.setPayload, Asked.ask]
    split
    · exact ⟨marked, opcode, imm, by rw [sges], addr, swap, rdmaKey, atomicKey, compareAdd⟩
    · exact ⟨marked, opcode, imm, sges, addr, swap, rdmaKey, atomicKey, compareAdd⟩

theorem Agrees.calls (agrees : Agrees m o a) (cs : List Setter) :
    Agrees ((cs.map Setter.shape).foldl Marks.mark m) (cs.foldl Op.call o) (cs.foldl Asked.ask a) := by
  induction cs generalizing m o a with
  | nil => exact agrees
  | cons c cs ih => exact ih (agrees.call c)

theorem Agrees.request (agrees : Agrees m o a) (fits : m.Fits) (flags : U32) (wrId : U64) :
    o.execute flags wrId = a.request flags wrId := by
  obtain ⟨marked, opcode, imm, sges, addr, swap, rdmaKey, atomicKey, compareAdd⟩ := agrees
  have remote : (o.execute flags wrId).remote = (a.request flags wrId).remote := by
    simp only [Op.execute, Asked.request, opcode, Block.atomicAddr_eq, addr, swap, remoteOf]
    simp only [Marks.Fits, marked] at fits
    by_cases oneSided : a.opcode ∈ rdmaOpcodes
    · rw [if_pos oneSided] at fits
      rw [if_pos oneSided, if_pos oneSided, rdmaKey fits]
    · rw [if_neg oneSided] at fits
      rw [if_neg oneSided, if_neg oneSided]
      by_cases cas : a.opcode = IBV_WR_ATOMIC_CMP_AND_SWP
      · rw [if_pos (.inl cas)] at fits
        rw [if_pos cas, if_pos cas, atomicKey fits.1, compareAdd fits.2]
      · rw [if_neg cas, if_neg cas]
        by_cases fetchAdd : a.opcode = IBV_WR_ATOMIC_FETCH_AND_ADD
        · rw [if_pos (.inr fetchAdd)] at fits
          rw [if_pos fetchAdd, if_pos fetchAdd, atomicKey fits.1, compareAdd fits.2]
        · rw [if_neg fetchAdd, if_neg fetchAdd]
  simp only [Op.execute, Asked.request, Request.mk.injEq, true_and] at remote ⊢
  exact ⟨opcode, imm, remote, by rw [sges]⟩

def Shape.sample : Shape → Setter
  | .op code => .setOp code
  | .rdma => .setRdmaRbuf 0 1
  | .atomicRbuf => .setAtomicRbuf 0 2
  | .cas => .setCas 0x300000003 0
  | .fetchAdd => .setFetchAdd 0x300000003
  | .atomic => .setAtomic 0 0x300000003 0 2
  | .other => .setWrid 0

@[simp] theorem Shape.sample_shape (s : Shape) : s.sample.shape = s := by cases s <;> rfl

theorem Block.compareAdd_low (b : Block) : (b.get compareAdd).setWidth 32 = b.get rdmaKey := by
  exact @Member.get_low b.bytes 8 4 8 (by decide) (by rw [b.size]; decide)

/-- With these values a member that is marked as lost does not hold what was asked for. -/
structure Differs (m : Marks) (o : Op n) (a : Asked n) : Prop where
  key : a.key = 0 ∨ a.key = 1 ∨ a.key = 2
  compared : a.compareAdd = 0 ∨ a.compareAdd = 0x300000003
  rdmaKeys : o.wr.wr.get Block.rdmaKey = 0 ∨ o.wr.wr.get Block.rdmaKey = 1 ∨ o.wr.wr.get Block.rdmaKey = 3
  atomicKeys : o.wr.wr.get Block.atomicKey = 0 ∨ o.wr.wr.get Block.atomicKey = 2
  rdmaKey : m.rdmaKey = false → o.wr.wr.get Block.rdmaKey ≠ a.key
  atomicKey : m.atomicKey = false → o.wr.wr.get Block.atomicKey ≠ a.key
  compareAdd : m.compareAdd = false → o.wr.wr.get Block.compareAdd ≠ a.compareAdd

theorem start_differs : Differs {} ({} : Op n) {} := by
  have key : Block.zero.get Block.rdmaKey = 0 ∧ Block.zero.get Block.atomicKey = 0 := by decide
  exact ⟨.inl rfl, .inl rfl, .inl key.1, .inl key.2, nofun, nofun, nofun⟩

theorem Differs.sample (differs : Differs m o a) (s : Shape) :
    Differs (m.mark s) (o.call s.sample) (a.ask s.sample) := by
  obtain ⟨key, compared, rdmaKeys, atomicKeys, rdmaKey, atomicKey, compareAdd⟩ := differs
  -- the low half of `compare_add` is where `rdma.rkey` lies
  have low : ∀ b : Block, b.get Block.compareAdd = 0x300000003 → b.get Block.rdmaKey = 3 := by
    intro b stored
    rw [← Block.compareAdd_low, stored]
    decide
  have asked : a.key ≠ 3 := by
    rcases key with same | same | same <;> rw [same] <;> decide
  cases s with
  | op | other => exact ⟨key, compared, rdmaKeys, atomicKeys, rdmaKey, atomicKey, compareAdd⟩
  | rdma =>
    have stored : (o.call Shape.rdma.sample).wr.wr.get Block.rdmaKey = 1 := Block.get_set _ _ (by decide) _
    have apart : (o.call Shape.rdma.sample).wr.wr.get Block.atomicKey = o.wr.wr.get Block.atomicKey := by
      simp (disch := decide) [Shape.sample, Op.call, Op.setRdmaRbuf, Op.setBlock, Block.get_set_apart]
    refine ⟨.inr (.inl rfl), compared, .inr (.inl stored), by rwa [apart], nofun, fun _ => ?_, fun _ same => ?_⟩
    · change _ ≠ (1 : U32)
      rw [apart]
      rcases atomicKeys with same | same <;> rw [same] <;> decide
    · have lows := congrArg (BitVec.setWidth 32) same
      rw [Block.compareAdd_low, stored] at lows
      change (1 : U32) = BitVec.setWidth 32 a.compareAdd at lows
      rcases compared with same | same <;> rw [same] at lows <;> cases lows
  | atomicRbuf =>
    have stored : (o.call Shape.atomicRbuf.sample).wr.wr.get Block.atomicKey = 2 := Block.get_set _ _ (by decide) _
    have apart : (o.call Shape.atomicRbuf.sample).wr.wr.get Block.rdmaKey = o.wr.wr.get Block.rdmaKey := by
      simp (disch := decide) [Shape.sample, Op.call, Op.setAtomicRbuf, Op.setBlock, Op.setImm, Block.get_set_apart]
    have apart' : (o.call Shape.atomicRbuf.sample).wr.wr.get Block.compareAdd = o.wr.wr.get Block.compareAdd := by
      simp (disch := decide) [Shape.sample, Op.call, Op.setAtomicRbuf, Op.setBlock, Op.setImm, Block.get_set_apart]
    refine ⟨.inr (.inr rfl), compared, by rwa [apart], .inr stored, fun _ => ?_, nofun, fun lost => ?_⟩
    · change _ ≠ (2 : U32)
      rw [apart]
      rcases rdmaKeys with same | same | same <;> rw [same] <;> decide
    · rw [apart']
      exact compareAdd lost
  | cas =>
    have stored : (o.call Shape.cas.sample).wr.wr.get Block.compareAdd = 0x300000003 := by
      simp (disch := decide) [Shape.sample, Op.call, Op.setCas, Op.setBlock, Op.setOp, Block.get_set_apart]
    have apart : (o.call Shape.cas.sample).wr.wr.get Block.atomicKey = o.wr.wr.get Block.atomicKey := by
      simp (disch := decide) [Shape.sample, Op.call, Op.setCas, Op.setBlock, Op.setOp, Block.get_set_apart]
    refine ⟨key, .inr rfl, .inr (.inr (low _ stored)), by rwa [apart], fun _ => ?_, fun lost => ?_, nofun⟩
    · rw [low _ stored]
      exact asked.symm
    · rw [apart]
      exact atomicKey lost
  | fetchAdd =>
    have stored : (o.call Shape.fetchAdd.sample).wr.wr.get Block.compareAdd = 0x300000003 := by
      simp (disch := decide) [Shape.sample, Op.call, Op.setFetchAdd, Op.setBlock, Op.setOp, Block.get_set_apart]
    have apart : (o.call Shape.fetchAdd.sample).wr.wr.get Block.atomicKey = o.wr.wr.get Block.atomicKey := by
      simp (disch := decide) [Shape.sample, Op.call, Op.setFetchAdd, Op.setBlock, Op.setOp, Block.get_set_apart]
    refine ⟨key, .inr rfl, .inr (.inr (low _ stored)), by rwa [apart], fun _ => ?_, fun lost => ?_, nofun⟩
    · rw [low _ stored]
      exact asked.symm
    · rw [apart]
      exact atomicKey lost
  | atomic =>
    have stored : (o.call Shape.atomic.sample).wr.wr.get Block.compareAdd = 0x300000003 := by
      simp (disch := decide) [Shape.sample, Op.call, Op.setAtomic, Op.setBlock, Op.setImm, Block.get_set_apart]
    have keyStored : (o.call Shape.atomic.sample).wr.wr.get Block.atomicKey = 2 := Block.get_set _ _ (by decide) _
    refine ⟨.inr (.inr rfl), .inr rfl, .inr (.inr (low _ stored)), .inr keyStored, fun _ => ?_, nofun, nofun⟩
    change _ ≠ (2 : U32)
    rw [low _ stored]
    decide

theorem Differs.samples (differs : Differs m o a) (σ : List Shape) :
    Differs (σ.foldl Marks.mark m) ((σ.map Shape.sample).foldl Op.call o)
      ((σ.map Shape.sample).foldl Asked.ask a) := by
  induction σ generalizing m o a with
  | nil => exact differs
  | cons s σ ih => exact ih (differs.sample s)

theorem Differs.request (differs : Differs m o a) (agrees : Agrees m o a) {flags : U32} {wrId : U64}
    (same : o.execute flags wrId = a.request flags wrId) : m.Fits := by
  have remote := congrArg Request.remote same
  have kept : ∀ {P : Prop} (flag : Bool), (flag = false → ¬P) → P → flag = true := by
    intro P flag lost holds
    cases flag with
    | true => rfl
    | false => exact absurd holds (lost rfl)
  simp only [Op.execute, Asked.request, agrees.opcode, remoteOf] at remote
  simp only [Marks.Fits, agrees.marked]
  by_cases oneSided : a.opcode ∈ rdmaOpcodes
  · rw [if_pos oneSided, if_pos oneSided] at remote
    rw [if_pos oneSided]
    injection remote with _ sameKey
    exact kept _ differs.rdmaKey sameKey
  · rw [if_neg oneSided, if_neg oneSided] at remote
    rw [if_neg oneSided]
    by_cases cas : a.opcode = IBV_WR_ATOMIC_CMP_AND_SWP
    · rw [if_pos cas, if_pos cas] at remote
      rw [if_pos (.inl cas)]
      injection remote with _ sameKey sameCompare
      exact ⟨kept _ differs.atomicKey sameKey, kept _ differs.compareAdd sameCompare⟩
    · rw [if_neg cas, if_neg cas] at remote
      by_cases fetchAdd : a.opcode = IBV_WR_ATOMIC_FETCH_AND_ADD
      · rw [if_pos fetchAdd, if_pos fetchAdd] at remote
        rw [if_pos (.inr fetchAdd)]
        injection remote with _ sameKey sameAdd
        exact ⟨kept _ differs.atomicKey sameKey, kept _ differs.compareAdd sameAdd⟩
      · rw [if_neg (not_or.mpr ⟨cas, fetchAdd⟩)]
        trivial

end

/-- Setters called in an order make a new op that asks the NIC for just the values given last, whatever the values
    are, exactly when the order keeps those members of the union that the opcode needs. -/
theorem execute_iff (n : Nat) (σ : List Shape) (flags : U32) (wrId : U64) :
    (∀ cs : List Setter, cs.map Setter.shape = σ →
      (cs.foldl Op.call ({} : Op n)).execute flags wrId = (cs.foldl Asked.ask ({} : Asked n)).request flags wrId) ↔
      (σ.foldl Marks.mark {}).Fits := by
  constructor
  · intro faithful
    have shapes : (σ.map Shape.sample).map Setter.shape = σ := by simp [Function.comp_def]
    have agrees := (start_agrees (n := n)).calls (σ.map Shape.sample)
    rw [shapes] at agrees
    exact ((start_differs (n := n)).samples σ).request agrees (faithful _ shapes)
  · rintro fits cs rfl
    exact (start_agrees.calls cs).request fits flags wrId

/-- As the comment on `Op` has it: `set_rdma_rbuf`, `set_read`, `set_imm`, `set_payload`, and for the atomics
    `set_atomic_rbuf`, `set_cas`. -/
example : ([Shape.rdma, .op IBV_WR_RDMA_READ, .other, .other].foldl Marks.mark {}).Fits := by decide
example : ([Shape.atomicRbuf, .cas, .other].foldl Marks.mark {}).Fits := by decide
example : ¬([Shape.rdma, .cas, .other].foldl Marks.mark {}).Fits := by decide

end RLib.OneSided
