import RLib.Verbs
import RLib.Foundation.Ring
import Mathlib.Data.Fintype.Pi

namespace RLib.Qps

open Ring

instance (priority := high) neZeroOne : NeZero 1 := ⟨Nat.one_ne_zero⟩
instance (priority := high) neZeroTwo : NeZero 2 := ⟨Nat.succ_ne_zero 1⟩

/-- `ibv_recv_wr` of a ring of `N`; what it points to lies in the same ring. -/
structure RecvWr (N : Nat) where
  wrId : U64
  sgList : Fin N
  numSge : Nat
  next : Option (Fin N)
deriving DecidableEq

structure Wc where
  wrId : U64
  immData : U32
deriving DecidableEq

structure RecvEntries (N : Nat) [NeZero N] where
  rs : Fin N → RecvWr N
  sges : Fin N → Sge
  wcs : Fin N → Wc
  header : Fin N := 0
deriving DecidableEq

/-- `AbsRecvAllocator`: `alloc_one` hands out a buffer and its key as long as it has any. -/
class AbsRecvAllocator (A : Type) where
  allocOne : A → U32 → Option (U64 × U32) × A

/-- The `SimpleAllocator` of the tests and examples: one registered buffer, handed out from its front. -/
structure SimpleAllocator where
  buf : U64
  totalMem : U32
  key : U32
deriving DecidableEq

instance : AbsRecvAllocator SimpleAllocator where
  allocOne a sz :=
    if a.totalMem < sz then (none, a)
    else (some (a.buf, a.key), { a with buf := a.buf + sz.setWidth 64, totalMem := a.totalMem - sz })

namespace RecvEntries

variable {N : Nat} [NeZero N]

/-- `new RecvEntries<N>`; all of it but the header is written before it is read. -/
def new : RecvEntries N where
  rs i := ⟨0, i, 0, none⟩
  sges _ := ⟨0, 0, 0⟩
  wcs _ := ⟨0, 0⟩

def next (r : RecvEntries N) (i : Fin N) : Option (Fin N) := (r.rs i).next

def setNext (r : RecvEntries N) (i : Fin N) (p : Option (Fin N)) : RecvEntries N :=
  { r with rs := Function.update r.rs i { r.rs i with next := p } }

/-- What the device copies of entry `i` when it is posted. -/
def wqe (r : RecvEntries N) (i : Fin N) : RecvWqe := ⟨(r.rs i).wrId, r.sges (r.rs i).sgList⟩

/-- The body of the loop that builds the entries. -/
def place (ret : RecvEntries N) (i : Fin N) (recvBuf : U64 × U32) (sz : U32) : RecvEntries N :=
  { ret with
    rs := Function.update ret.rs i
      ⟨recvBuf.1, i, 1, some (if inside : i + 1 < N then ⟨i + 1, inside⟩ else 0)⟩
    sges := Function.update ret.sges i ⟨recvBuf.1, sz, recvBuf.2⟩ }

/-- The loop over the entries not built yet. -/
def fill {A : Type} [AbsRecvAllocator A] (sz : U32) :
    List (Fin N) → RecvEntries N → A → Except Exit (RecvEntries N) × A
  | [], ret, allocator => (.ok ret, allocator)
  | i :: rest, ret, allocator =>
    match AbsRecvAllocator.allocOne allocator sz with
    | (none, allocator) => (.error .exception, allocator)
    | (some recvBuf, allocator) => fill sz rest (ret.place i recvBuf sz) allocator

end RecvEntries

def RecvEntriesFactory.create {A : Type} [AbsRecvAllocator A] (N : Nat) [NeZero N] (entrySz : U32) (allocator : A) :
    Except Exit (RecvEntries N) × A := RecvEntries.fill entrySz (List.finRange N) .new allocator

def RecvEntriesFactoryv2.create {A : Type} [AbsRecvAllocator A] (N : Nat) [NeZero N] (allocator : A) (msgSz : U32) :
    Except Exit (RecvEntries N) × A := RecvEntries.fill msgSz (List.finRange N) .new allocator

/-- The index of the last of `num` entries from the header on, as `post_recvs` computes it. -/
def tail {N : Nat} (header : Fin N) (num : Int) : Int :=
  let tail := header + num - 1
  if N ≤ tail then tail - N else tail

/-- `post_recvs` computes with 32-bit `usize`. As `num` is an `int`, a ring that can be posted whole has
    at most `2 ^ 31` entries, and then nothing wraps. -/
theorem tail_usize {N : Nat} (header : Fin N) {num : Nat} (positive : 0 < num) (fits : num ≤ N) (small : N ≤ 2 ^ 31) :
    let tail' := BitVec.ofNat 32 header + BitVec.ofNat 32 num - 1
    ((if N ≤ tail'.toNat then tail' - BitVec.ofNat 32 N else tail').toNat : Int) = tail header num := by
  have bound := header.isLt
  have value : (BitVec.ofNat 32 header + BitVec.ofNat 32 num - 1).toNat = header + num - 1 := by
    simp only [BitVec.toNat_sub, BitVec.toNat_add, BitVec.toNat_ofNat, show (1 : BitVec 32).toNat = 1 from rfl]
    omega
  simp only [tail, value]
  split
  · rename_i wraps
    rw [if_pos (by omega), BitVec.toNat_sub, value, BitVec.toNat_ofNat]
    omega
  · rw [if_neg (by omega), value]
    omega

/-- `Dummy::post_recvs`, where `ibvPostRecv` posts to the receive queue of the QP: the result and the
    entries after it. A `tail` that is no index of `rs` leaves the array, and so does a list that does
    not end. -/
def postRecvs {N : Nat} [NeZero N] {σ : Type} (r : RecvEntries N) (num : Int)
    (ibvPostRecv : List RecvWqe → Option σ) : Except Exit (Option σ × RecvEntries N) :=
  if inside : 0 ≤ tail r.header num ∧ tail r.header num < N then
    let last : Fin N := ⟨(tail r.header num).toNat, by omega⟩
    let temp := r.next last
    let cut := r.setNext last none
    match chain cut.next N cut.header with
    | none => .error .overread
    | some posted =>
      match ibvPostRecv (posted.map cut.wqe) with
      | none => .ok (none, cut)
      | some device => .ok (some device, { cut.setNext last temp with header := slot last 1 })
  else .error .overread

namespace RecvEntries

variable {N : Nat} [NeZero N]

@[simp] theorem place_header (ret : RecvEntries N) (i : Fin N) (recvBuf : U64 × U32) (sz : U32) :
    (ret.place i recvBuf sz).header = ret.header := rfl

@[simp] theorem setNext_header (r : RecvEntries N) (i : Fin N) (p : Option (Fin N)) :
    (r.setNext i p).header = r.header := rfl

theorem setNext_next (r : RecvEntries N) (i : Fin N) (p : Option (Fin N)) :
    (r.setNext i p).next = Function.update r.next i p := by
  funext j
  by_cases same : j = i
  · subst j
    simp only [next, setNext, Function.update_self]
  · simp only [next, setNext, Function.update_of_ne same]

theorem setNext_wqe (r : RecvEntries N) (i : Fin N) (p : Option (Fin N)) : (r.setNext i p).wqe = r.wqe := by
  funext j
  by_cases same : j = i
  · subst j
    simp only [wqe, setNext, Function.update_self]
  · simp only [wqe, setNext, Function.update_of_ne same]

theorem setNext_restore (r : RecvEntries N) (i : Fin N) : (r.setNext i none).setNext i (r.next i) = r := by
  simp only [setNext, Function.update_self, Function.update_idem, next, Function.update_eq_self]

/-- Entry `i` is built: it leads to the next one, and its id is the buffer of its own scatter entry. -/
structure Placed (r : RecvEntries N) (i : Fin N) : Prop where
  linked : r.next i = some (slot i 1)
  own : (r.rs i).sgList = i
  named : (r.sges i).addr = (r.rs i).wrId

def Ready (r : RecvEntries N) : Prop := ∀ i, r.Placed i

theorem Ready.linked {r : RecvEntries N} (ready : r.Ready) : Linked r.next := fun i => (ready i).linked

theorem Placed.wqe_addr {r : RecvEntries N} {i : Fin N} (placed : r.Placed i) :
    (r.wqe i).sge.addr = (r.rs i).wrId := by
  rw [wqe, placed.own, placed.named]

theorem successor (i : Fin N) : (if inside : i + 1 < N then ⟨i + 1, inside⟩ else 0 : Fin N) = slot i 1 := by
  apply Fin.ext
  rw [slot_val]
  split
  · rename_i inside
    exact (Nat.mod_eq_of_lt inside).symm
  · rename_i last
    have whole : (i : Nat) + 1 = N := by have := i.isLt; omega
    rw [whole, Nat.mod_self]
    rfl

theorem place_placed (ret : RecvEntries N) (i : Fin N) (recvBuf : U64 × U32) (sz : U32) :
    (ret.place i recvBuf sz).Placed i := by
  refine ⟨?_, ?_, ?_⟩
  · simp only [next, place, Function.update_self, successor]
  · simp only [place, Function.update_self]
  · simp only [place, Function.update_self]

theorem place_frame {ret : RecvEntries N} {i j : Fin N} (recvBuf : U64 × U32) (sz : U32) (apart : j ≠ i)
    (placed : ret.Placed j) : (ret.place i recvBuf sz).Placed j := by
  obtain ⟨linked, own, named⟩ := placed
  refine ⟨?_, ?_, ?_⟩
  · simpa only [next, place, Function.update_of_ne apart] using linked
  · simpa only [place, Function.update_of_ne apart] using own
  · simpa only [place, Function.update_of_ne apart] using named

theorem fill_ready {A : Type} [AbsRecvAllocator A] {sz : U32} {rest : List (Fin N)} {ret r : RecvEntries N}
    {allocator : A} (built : ∀ i, i ∉ rest → ret.Placed i) (done : (fill sz rest ret allocator).1 = .ok r) :
    r.Ready ∧ r.header = ret.header := by
  induction rest generalizing ret allocator with
  | nil =>
    cases done
    exact ⟨fun i => built i (List.not_mem_nil), rfl⟩
  | cons i rest ih =>
    rw [fill] at done
    rcases taken : AbsRecvAllocator.allocOne allocator sz with ⟨_ | recvBuf, allocator'⟩
    · rw [taken] at done
      cases done
    · rw [taken] at done
      have next : ∀ j, j ∉ rest → (ret.place i recvBuf sz).Placed j := by
        intro j outside
        by_cases same : j = i
        · subst j
          exact place_placed ret i recvBuf sz
        · apply place_frame recvBuf sz same
          apply built
          rw [List.mem_cons]
          exact fun either => either.elim same outside
      obtain ⟨ready, header⟩ := ih next done
      exact ⟨ready, header⟩

/-- `n` further calls of `alloc_one` for `sz` bytes all return a buffer. -/
def Supplies {A : Type} [AbsRecvAllocator A] (sz : U32) : Nat → A → Prop
  | 0, _ => True
  | n + 1, allocator =>
    ∃ recvBuf allocator', AbsRecvAllocator.allocOne allocator sz = (some recvBuf, allocator') ∧ Supplies sz n allocator'

theorem fill_cases {A : Type} [AbsRecvAllocator A] (sz : U32) (rest : List (Fin N)) (ret : RecvEntries N)
    (allocator : A) :
    (Supplies sz rest.length allocator ∧ ∃ r, (fill sz rest ret allocator).1 = .ok r) ∨
      (¬Supplies sz rest.length allocator ∧ (fill sz rest ret allocator).1 = .error .exception) := by
  induction rest generalizing ret allocator with
  | nil => exact .inl ⟨trivial, ret, rfl⟩
  | cons i rest ih =>
    rw [fill, List.length_cons, Supplies]
    rcases taken : AbsRecvAllocator.allocOne allocator sz with ⟨_ | recvBuf, allocator'⟩
    · refine .inr ⟨?_, rfl⟩
      intro ⟨recvBuf, allocator'', supplied, _⟩
      cases supplied
    · rcases ih (ret.place i recvBuf sz) allocator' with ⟨supplies, built⟩ | ⟨runsOut, failed⟩
      · exact .inl ⟨⟨recvBuf, allocator', rfl, supplies⟩, built⟩
      · refine .inr ⟨?_, failed⟩
        intro ⟨recvBuf', allocator'', supplied, supplies⟩
        cases supplied
        exact runsOut supplies

end RecvEntries

variable {N : Nat} [NeZero N] {A : Type} [AbsRecvAllocator A]

theorem RecvEntriesFactoryv2.create_ready {allocator : A} {msgSz : U32} {r : RecvEntries N}
    (created : (RecvEntriesFactoryv2.create N allocator msgSz).1 = .ok r) : r.Ready ∧ r.header = 0 :=
  RecvEntries.fill_ready (fun i outside => absurd (List.mem_finRange i) outside) created

theorem RecvEntriesFactory.create_ready {allocator : A} {entrySz : U32} {r : RecvEntries N}
    (created : (RecvEntriesFactory.create N entrySz allocator).1 = .ok r) : r.Ready ∧ r.header = 0 :=
  RecvEntriesFactoryv2.create_ready created

theorem tail_slot (header : Fin N) {j : Nat} (fits : j < N) : tail header (j + 1 : Nat) = (slot header j : Nat) := by
  have bound := header.isLt
  rw [tail, slot_val]
  by_cases wraps : N ≤ (header : Nat) + j
  · rw [if_pos (by omega), Nat.mod_eq_sub_mod wraps, Nat.mod_eq_of_lt (by omega)]
    omega
  · rw [if_neg (by omega), Nat.mod_eq_of_lt (by omega)]
    omega

/-- `post_recvs` posts the entries that the chain from the header leads through once it is cut at the tail. -/
theorem postRecvs_posts {σ : Type} {r : RecvEntries N} {num : Nat} (positive : 0 < num) (fits : num ≤ N)
    {posted : List (Fin N)}
    (cut : chain (Function.update r.next (slot r.header (num - 1)) none) N r.header = some posted)
    (ibvPostRecv : List RecvWqe → Option σ) :
    postRecvs r num ibvPostRecv =
      match ibvPostRecv (posted.map r.wqe) with
      | none => .ok (none, r.setNext (slot r.header (num - 1)) none)
      | some device => .ok (some device, { r with header := slot r.header num }) := by
  obtain ⟨j, rfl⟩ : ∃ j, num = j + 1 := ⟨num - 1, by omega⟩
  have place := tail_slot r.header (show j < N by omega)
  have inside : 0 ≤ tail r.header (j + 1 : Nat) ∧ tail r.header (j + 1 : Nat) < N := by
    rw [place]
    have := (slot r.header j).isLt
    omega
  have last : (⟨(tail r.header (j + 1 : Nat)).toNat, by omega⟩ : Fin N) = slot r.header j := by
    apply Fin.ext
    show (tail r.header (j + 1 : Nat)).toNat = _
    rw [place, Int.toNat_natCast]
  rw [Nat.add_sub_cancel, ← RecvEntries.setNext_next] at cut
  rw [postRecvs, dif_pos inside]
  simp only [last, RecvEntries.setNext_header, cut, RecvEntries.setNext_wqe, RecvEntries.setNext_restore, slot_slot,
    Nat.add_sub_cancel]

theorem postRecvs_linked {σ : Type} {r : RecvEntries N} (linked : Linked r.next) {num : Nat} (positive : 0 < num)
    (fits : num ≤ N) (ibvPostRecv : List RecvWqe → Option σ) :
    postRecvs r num ibvPostRecv =
      match ibvPostRecv ((window r.header num).map r.wqe) with
      | none => .ok (none, r.setNext (slot r.header (num - 1)) none)
      | some device => .ok (some device, { r with header := slot r.header num }) := by
  apply postRecvs_posts positive fits
  have posted := chain_cut linked r.header (show num - 1 < N by omega)
  rw [Nat.sub_add_cancel positive] at posted
  exact posted

theorem postRecvs_all {σ : Type} {r : RecvEntries N} (ready : r.Ready) (ibvPostRecv : List RecvWqe → Option σ) :
    postRecvs r N ibvPostRecv =
      match ibvPostRecv ((window r.header N).map r.wqe) with
      | none => .ok (none, r.setNext (slot r.header (N - 1)) none)
      | some device => .ok (some device, r) := by
  rw [postRecvs_linked ready.linked (Nat.pos_of_neZero N) (Nat.le_refl N), slot_all]

end RLib.Qps
