import RLib.Bootstrap.ReceiveBuffer
import RLib.Bootstrap.Wire

namespace RLib.Bootstrap

open Bytes SRpcHandler

/-- The bytes `d` has of entry `k` cannot be those of an entry that starts where the check expects it. -/
structure RefusedAt (d : ByteBuffer) (k : Nat) : Prop where
  linked : ∀ j < k, Linked d j
  reached : MsgsHeader.entryAt k ≤ d.length
  wrong : ¬ slice d (MsgsHeader.entryAt k) 2 <+: (Codec.word 2).put (BitVec.ofNat 16 (runningEnd d k))

/-- The header and the parameter that the table of `d` names lie in `d` itself. -/
structure OwnRequest (registered : U8 → Bool) (d : ByteBuffer) : Prop where
  header : MsgsHeader.size + SRpcHeader.format.size ≤ d.length
  first : runningEnd d 1 ≤ kMaxMsgSz
  parameter : numAt d = 1 ∨
    registered (headerAt d).id = true ∧ ((szAt d 1).toNat = 0 ∨ runningEnd d 2 ≤ d.length)

/-- The bytes of `d` settle what is made of it. -/
def Settled (registered : U8 → Bool) (d : ByteBuffer) : Prop :=
  0 < d.length ∧ (numAt d = 0 ∨ kMaxMultiMsg < numAt d ∨ (∃ k < numAt d, RefusedAt d k) ∨
    (MsgsHeader.entryAt 1 ≤ d.length ∧ (szAt d 0).toNat < SRpcHeader.format.size) ∨
    (Passes d (numAt d) ∧ (kMaxMsgSz < runningEnd d (numAt d) % 2 ^ 16 ∨ OwnRequest registered d)))

def SRpcHandler.Request.Answerable (registered : U8 → Bool) : Request → Prop
  | .call id _ _ => registered id = true
  | _ => True

/-- Every server with handlers for the ids `registered` finds the same request in `d`, whatever its
    receive buffer held. -/
def Determined (registered : U8 → Bool) (d : ByteBuffer) : Prop :=
  ∃ req : Request, req.Answerable registered ∧
    ∀ rest : ByteBuffer, (d ++ rest).length = kMaxMsgSz → request (d ++ rest) = .ok req

section Settled

variable {registered : U8 → Bool} {d : ByteBuffer}

theorem slice_append_prefix (d rest : ByteBuffer) (off len : Nat) : slice d off len <+: slice (d ++ rest) off len := by
  rw [slice, slice, List.drop_append, List.take_append]
  exact List.prefix_append _ _

theorem RefusedAt.not_linked {k : Nat} (refused : RefusedAt d k) (rest : ByteBuffer)
    (inside : MsgsHeader.entryAt k + 2 ≤ (d ++ rest).length) : ¬ Linked (d ++ rest) k := by
  intro linked
  apply refused.wrong
  have expected : slice (d ++ rest) (MsgsHeader.entryAt k) 2 =
      (Codec.word 2).put (BitVec.ofNat 16 (runningEnd d k)) := by
    have length := slice_length (d ++ rest) (MsgsHeader.entryAt k) 2 inside
    have bytes := (Codec.word 2).put_get (slice (d ++ rest) (MsgsHeader.entryAt k) 2) (Nat.le_of_eq length.symm)
    have whole : (slice (d ++ rest) (MsgsHeader.entryAt k) 2).take (Codec.word 2).size =
        slice (d ++ rest) (MsgsHeader.entryAt k) 2 := List.take_of_length_le (Nat.le_of_eq length)
    rw [whole] at bytes
    rw [← bytes, ← runningEnd_append d rest k refused.reached]
    exact congrArg (Codec.word 2).put linked
  rw [← expected]
  exact slice_append_prefix d rest _ 2

theorem OwnRequest.request_append (own : OwnRequest registered d) (present : 0 < numAt d)
    (few : numAt d ≤ kMaxMultiMsg) (passes : Passes d (numAt d)) (short : d.length ≤ kMaxMsgSz)
    (long : SRpcHeader.format.size ≤ (szAt d 0).toNat)
    (accepted : runningEnd d (numAt d) % 2 ^ 16 ≤ kMaxMsgSz) :
    ∃ req : Request, req.Answerable registered ∧
      ∀ rest : ByteBuffer, (d ++ rest).length = kMaxMsgSz → request (d ++ rest) = .ok req := by
  have nonempty : 0 < d.length := by
    have := passes.inside
    simp only [MsgsHeader.entryAt] at this
    omega
  have table := passes.inside
  have sz0 (rest : ByteBuffer) : szAt (d ++ rest) 0 = szAt d 0 := by
    apply szAt_append
    simp only [MsgsHeader.entryAt] at table ⊢
    omega
  have count (rest : ByteBuffer) := numAt_append d rest nonempty
  have end1 (rest : ByteBuffer) : runningEnd (d ++ rest) 1 = runningEnd d 1 := passes.runningEnd_append rest present
  have header (rest : ByteBuffer) : headerAt (d ++ rest) = headerAt d := by
    rw [headerAt, headerAt, slice_append_left d rest _ _ own.header]
  have opens (rest : ByteBuffer) : Opens (d ++ rest) := by
    refine ⟨?_, ?_, ?_, ?_, ?_⟩
    · rwa [count]
    · rwa [count]
    · rw [count]
      exact passes.append rest
    · rwa [count, passes.runningEnd_append rest (Nat.le_refl _)]
    · rwa [sz0]
  have fits : ¬ kMaxMsgSz < runningEnd d 1 := Nat.not_lt.mpr own.first
  by_cases one : numAt d = 1
  · refine ⟨.noParameter (headerAt d).checksum, trivial, ?_⟩
    intro rest full
    rw [request_opens full (opens rest), end1, count, header, if_neg fits, if_pos one]
  · have two : 2 ≤ numAt d := by omega
    obtain ⟨known, bound⟩ := own.parameter.resolve_left one
    have sz1 (rest : ByteBuffer) : szAt (d ++ rest) 1 = szAt d 1 := by
      apply szAt_append
      simp only [MsgsHeader.entryAt] at table ⊢
      omega
    have end2 (rest : ByteBuffer) : runningEnd (d ++ rest) 2 = runningEnd d 2 := passes.runningEnd_append rest two
    have next : runningEnd d 2 = runningEnd d 1 + (szAt d 1).toNat := rfl
    have fits' : ¬ kMaxMsgSz < runningEnd d 2 := by omega
    refine ⟨.call (headerAt d).id (headerAt d).checksum (slice d (runningEnd d 1) (szAt d 1).toNat), known, ?_⟩
    intro rest full
    rw [request_opens full (opens rest), end1, end2, count, header, sz1, if_neg fits, if_neg one, if_neg fits']
    rcases bound with empty | inside
    · rw [empty, slice_zero, slice_zero]
    · rw [slice_append_left d rest _ _ (by omega)]

theorem Settled.determined (settled : Settled registered d) (short : d.length ≤ kMaxMsgSz) :
    Determined registered d := by
  obtain ⟨nonempty, cases⟩ := settled
  have max : kMaxMsgSz = 4096 := rfl
  have eight : kMaxMultiMsg = 8 := rfl
  have count (rest : ByteBuffer) := numAt_append d rest nonempty
  by_cases shut : ∀ rest : ByteBuffer, (d ++ rest).length = kMaxMsgSz → ¬ Opens (d ++ rest)
  · exact ⟨.undecodable, trivial, fun rest full => request_shut full (shut rest full)⟩
  · push Not at shut
    obtain ⟨rest, full, opens⟩ := shut
    have present := opens.present
    have few := opens.few
    rw [count] at present few
    rcases cases with none' | many | ⟨k, bound, refused⟩ | ⟨inside, brief⟩ | ⟨passes, over' | own⟩
    · omega
    · omega
    · exfalso
      have linked := opens.passes.linked k (by rw [count]; exact bound)
      exact refused.not_linked rest (by simp only [MsgsHeader.entryAt]; omega) linked
    · have long := opens.header
      rw [szAt_append d rest 0 inside] at long
      omega
    · have accepted := opens.accepted
      rw [count, passes.runningEnd_append rest (Nat.le_refl _)] at accepted
      omega
    · have accepted := opens.accepted
      have long := opens.header
      rw [count, passes.runningEnd_append rest (Nat.le_refl _)] at accepted
      have table := passes.inside
      rw [szAt_append d rest 0 (by simp only [MsgsHeader.entryAt] at table ⊢; omega)] at long
      exact own.request_append present few passes short long accepted

theorem linked_of_not_refused {k : Nat} (linked : ∀ j < k, Linked d j) (inside : MsgsHeader.entryAt k + 2 ≤ d.length)
    (unrefused : ¬ RefusedAt d k) : Linked d k := by
  have matching : slice d (MsgsHeader.entryAt k) 2 <+: (Codec.word 2).put (BitVec.ofNat 16 (runningEnd d k)) := by
    by_contra wrong
    exact unrefused ⟨linked, by omega, wrong⟩
  have length := slice_length d (MsgsHeader.entryAt k) 2 inside
  have two : ((Codec.word 2).put (BitVec.ofNat 16 (runningEnd d k))).length = 2 := (Codec.word 2).put_length _
  have same := matching.eq_of_length (length.trans two.symm)
  rw [Linked, offsetAt, same, Codec.get_put_self]

theorem linked_before (unrefused : ∀ k < numAt d, ¬ RefusedAt d k) {count : Nat} (inTable : count ≤ numAt d)
    (inside : MsgsHeader.entryAt count ≤ d.length) : ∀ j < count, Linked d j := by
  induction count with
  | zero => exact fun j bound => absurd bound (Nat.not_lt_zero j)
  | succ count ih =>
    simp only [MsgsHeader.entryAt] at inside
    have before := ih (by omega) (by simp only [MsgsHeader.entryAt]; omega)
    intro j bound
    rcases Nat.lt_succ_iff_lt_or_eq.mp bound with earlier | rfl
    · exact before j earlier
    · exact linked_of_not_refused before (by simp only [MsgsHeader.entryAt]; omega) (unrefused j (by omega))

theorem table_step (c : ByteBuffer) (k : Nat) (len : U16) (ends : c.length = MsgsHeader.entryAt k)
    (linked : ∀ j < k, Linked c j) :
    let more := c ++ dump MsgEntry.format ⟨BitVec.ofNat 16 (runningEnd c k), len⟩
    Passes more (k + 1) ∧ more.length = MsgsHeader.entryAt (k + 1) ∧ szAt more k = len := by
  intro more
  have four : (dump MsgEntry.format ⟨BitVec.ofNat 16 (runningEnd c k), len⟩).length = 4 := dump_length _ _
  have length : more.length = MsgsHeader.entryAt (k + 1) := by
    rw [List.length_append, ends, four]
    simp only [MsgsHeader.entryAt]
    omega
  have two (w : U16) : ((Codec.word 2).put w).length = 2 := (Codec.word 2).put_length w
  have offset : offsetAt more k = BitVec.ofNat 16 (runningEnd c k) := by
    have found := slice_middle c ((Codec.word 2).put (BitVec.ofNat 16 (runningEnd c k))) ((Codec.word 2).put len)
    rw [two, ends, ← dump_entry ⟨BitVec.ofNat 16 (runningEnd c k), len⟩] at found
    rw [offsetAt, found, Codec.get_put_self]
  have sz : szAt more k = len := by
    have found := slice_middle (c ++ (Codec.word 2).put (BitVec.ofNat 16 (runningEnd c k))) ((Codec.word 2).put len) []
    rw [List.append_nil, List.append_assoc, ← dump_entry ⟨BitVec.ofNat 16 (runningEnd c k), len⟩, List.length_append,
      two, two, ends] at found
    rw [szAt, found, Codec.get_put_self]
  refine ⟨⟨?_, Nat.le_of_eq length.symm⟩, length, sz⟩
  intro j bound
  rcases Nat.lt_succ_iff_lt_or_eq.mp bound with earlier | rfl
  · rw [linked_append c _ j (by rw [ends]; simp only [MsgsHeader.entryAt]; omega)]
    exact linked j earlier
  · rw [Linked, offset, runningEnd_append c _ j (Nat.le_of_eq ends.symm)]

theorem table_run (c : ByteBuffer) (k left : Nat) (ends : c.length = MsgsHeader.entryAt k) (passes : Passes c k) :
    ∃ tail : ByteBuffer, Passes (c ++ tail) (k + left) ∧ (c ++ tail).length = MsgsHeader.entryAt (k + left) ∧
      runningEnd (c ++ tail) (k + left) = runningEnd c k := by
  induction left with
  | zero => exact ⟨[], by rwa [List.append_nil], by rwa [List.append_nil], by rw [List.append_nil, Nat.add_zero]⟩
  | succ left ih =>
    obtain ⟨tail, passes', ends', total⟩ := ih
    obtain ⟨more, length, empty⟩ := table_step (c ++ tail) (k + left) 0 ends' passes'.linked
    refine ⟨tail ++ dump MsgEntry.format ⟨BitVec.ofNat 16 (runningEnd (c ++ tail) (k + left)), 0⟩, ?_, ?_, ?_⟩
    · rw [← List.append_assoc]
      exact more
    · rw [← List.append_assoc]
      exact length
    · rw [← List.append_assoc, ← Nat.add_assoc, runningEnd, empty,
        runningEnd_append (c ++ tail) _ _ (Nat.le_of_eq ends'.symm), total]
      rfl

theorem partial_entry (p : ByteBuffer) (off : U16) (high : Nat) (short : p.length < 4)
    (matching : p.take 2 <+: (Codec.word 2).put off) :
    p <+: dump MsgEntry.format ⟨off, BitVec.ofNat 16 ((p[2]?.getD 0).toNat + 256 * high)⟩ := by
  have bytes (w : U16) : (Codec.word 2).put w = [BitVec.ofNat 8 w.toNat, BitVec.ofNat 8 (w.toNat / 256)] := rfl
  rw [dump_entry, bytes, bytes]
  rw [bytes] at matching
  match p, short, matching with
  | [], _, _ => exact List.nil_prefix
  | [a], _, matching =>
    simp only [List.take_succ_cons, List.take_nil, List.cons_prefix_cons] at matching
    simp only [List.cons_append, List.cons_prefix_cons, matching.1, List.nil_prefix, and_self]
  | [a, b], _, matching =>
    simp only [List.take_succ_cons, List.take_nil, List.cons_prefix_cons] at matching
    simp only [List.cons_append, List.cons_prefix_cons, matching.1, matching.2.1, List.nil_prefix, and_self]
  | [a, b, c], _, matching =>
    simp only [List.take_succ_cons, List.take_zero, List.cons_prefix_cons] at matching
    have low : BitVec.ofNat 8 (BitVec.ofNat 16 (c.toNat + 256 * high)).toNat = c := by
      have bound := c.isLt
      apply BitVec.eq_of_toNat_eq
      rw [BitVec.toNat_ofNat, BitVec.toNat_ofNat]
      omega
    simp only [List.cons_append, List.cons_prefix_cons, matching.1, matching.2.1, true_and]
    simp only [List.getElem?_cons_succ, List.getElem?_cons_zero, Option.getD_some, low, List.nil_append,
      List.cons_prefix_cons, List.nil_prefix, and_self]

/-- A table that breaks off inside entry `k`, in `p`, goes on to one of `count` entries with any high byte
    for the size of that entry. -/
theorem complete_table {c p : ByteBuffer} {k count : Nat} (ends : c.length = MsgsHeader.entryAt k)
    (linked : ∀ j < k, Linked c j) (inTable : k < count) (few : count ≤ kMaxMultiMsg) (short : p.length < 4)
    (matching : p.take 2 <+: (Codec.word 2).put (BitVec.ofNat 16 (runningEnd c k))) {high : Nat} (bound : high < 256) :
    ∃ rest : ByteBuffer, (c ++ p ++ rest).length = kMaxMsgSz ∧ Passes (c ++ p ++ rest) count ∧
      runningEnd (c ++ p ++ rest) count = runningEnd c k + ((p[2]?.getD 0).toNat + 256 * high) ∧
      (k = 0 → (szAt (c ++ p ++ rest) 0).toNat = (p[2]?.getD 0).toNat + 256 * high) := by
  have max : kMaxMsgSz = 4096 := rfl
  have eight : kMaxMultiMsg = 8 := rfl
  have low := (p[2]?.getD 0).isLt
  let len := BitVec.ofNat 16 ((p[2]?.getD 0).toNat + 256 * high)
  have size : len.toNat = (p[2]?.getD 0).toNat + 256 * high := by
    rw [BitVec.toNat_ofNat]
    omega
  let more := c ++ dump MsgEntry.format ⟨BitVec.ofNat 16 (runningEnd c k), len⟩
  obtain ⟨passes, ends', last⟩ : Passes more (k + 1) ∧ more.length = MsgsHeader.entryAt (k + 1) ∧ szAt more k = len :=
    table_step c k len ends linked
  obtain ⟨tail, passes', ends'', same⟩ := table_run more (k + 1) (count - (k + 1)) ends' passes
  have left : k + 1 + (count - (k + 1)) = count := by omega
  rw [left] at passes' ends'' same
  obtain ⟨fill, filled⟩ := partial_entry p (BitVec.ofNat 16 (runningEnd c k)) high short matching
  let pad : ByteBuffer := List.replicate (kMaxMsgSz - MsgsHeader.entryAt count) 0
  have whole : c ++ p ++ (fill ++ tail ++ pad) = more ++ tail ++ pad := by
    simp only [more, len, ← filled, List.append_assoc]
  refine ⟨fill ++ tail ++ pad, ?_, ?_, ?_, ?_⟩
  · rw [whole, List.length_append, ends'', List.length_replicate]
    simp only [MsgsHeader.entryAt]
    omega
  · rw [whole]
    exact passes'.append pad
  · rw [whole, passes'.runningEnd_append pad (Nat.le_refl _), same, runningEnd, last, size,
      runningEnd_append c _ k (Nat.le_of_eq ends.symm)]
  · intro first
    have inside : MsgsHeader.entryAt (0 + 1) ≤ more.length := by
      rw [ends', first]
    rw [whole, List.append_assoc, szAt_append more _ 0 inside, ← size, ← last, first]

theorem exists_complete (few : numAt d ≤ kMaxMultiMsg) (nonempty : 0 < d.length)
    (cut : d.length < MsgsHeader.entryAt (numAt d)) (unrefused : ∀ k < numAt d, ¬ RefusedAt d k) :
    ∃ k low : Nat, k < numAt d ∧ (0 < k → MsgsHeader.entryAt 1 ≤ d.length) ∧ low < 256 ∧ ∀ high < 256,
      ∃ rest : ByteBuffer, (d ++ rest).length = kMaxMsgSz ∧ Passes (d ++ rest) (numAt d) ∧
        runningEnd (d ++ rest) (numAt d) = runningEnd d k + (low + 256 * high) ∧
        (k = 0 → (szAt (d ++ rest) 0).toNat = low + 256 * high) := by
  let k := (d.length - 1) / 4
  let c := d.take (MsgsHeader.entryAt k)
  let p := d.drop (MsgsHeader.entryAt k)
  have reached : MsgsHeader.entryAt k ≤ d.length := by
    simp only [MsgsHeader.entryAt, k]
    omega
  have inTable : k < numAt d := by
    simp only [MsgsHeader.entryAt, k] at cut ⊢
    omega
  have split : c ++ p = d := List.take_append_drop _ _
  have ends : c.length = MsgsHeader.entryAt k := by
    rw [List.length_take]
    omega
  have short : p.length < 4 := by
    rw [List.length_drop]
    simp only [MsgsHeader.entryAt, k]
    omega
  have known := linked_before unrefused (Nat.le_of_lt inTable) reached
  have linked : ∀ j < k, Linked c j := by
    intro j bound
    rw [← linked_append c p j (by rw [ends]; simp only [MsgsHeader.entryAt]; omega), split]
    exact known j bound
  have total : runningEnd c k = runningEnd d k := by
    rw [← runningEnd_append c p k (Nat.le_of_eq ends.symm), split]
  have matching : p.take 2 <+: (Codec.word 2).put (BitVec.ofNat 16 (runningEnd c k)) := by
    by_contra wrong
    rw [total] at wrong
    exact unrefused k inTable ⟨known, reached, wrong⟩
  refine ⟨k, (p[2]?.getD 0).toNat, inTable, ?_, (p[2]?.getD 0).isLt, ?_⟩
  · intro later
    simp only [MsgsHeader.entryAt, k] at later ⊢
    omega
  · intro high bound
    have complete := complete_table ends linked inTable few short matching bound
    rwa [split, total] at complete

theorem exists_high (off low : Nat) :
    (∃ high < 256, (off + (low + 256 * high)) % 2 ^ 16 ≤ kMaxMsgSz) ∧
      ∃ high < 256, kMaxMsgSz < (off + (low + 256 * high)) % 2 ^ 16 := by
  have max : kMaxMsgSz = 4096 := rfl
  refine ⟨⟨(256 - (off + low) / 256 % 256) % 256, by omega, by omega⟩, ⟨(384 - (off + low) / 256 % 256) % 256, ?_, ?_⟩⟩
  · omega
  · omega

/-- A datagram that breaks off in a table not yet refused may be completed to a request or to an
    undecodable message. -/
theorem not_determined_of_cut (present : 0 < numAt d) (few : numAt d ≤ kMaxMultiMsg) (nonempty : 0 < d.length)
    (cut : d.length < MsgsHeader.entryAt (numAt d)) (unrefused : ∀ k < numAt d, ¬ RefusedAt d k)
    (long : MsgsHeader.entryAt 1 ≤ d.length → SRpcHeader.format.size ≤ (szAt d 0).toNat) :
    ¬ Determined registered d := by
  intro ⟨req, _, same⟩
  have max : kMaxMsgSz = 4096 := rfl
  have nine : SRpcHeader.format.size = 9 := rfl
  have count (rest : ByteBuffer) := numAt_append d rest nonempty
  obtain ⟨k, low, inTable, known, small, complete⟩ := exists_complete few nonempty cut unrefused
  have opening : ∃ high < 256, (runningEnd d k + (low + 256 * high)) % 2 ^ 16 ≤ kMaxMsgSz ∧
      (k = 0 → SRpcHeader.format.size ≤ low + 256 * high) := by
    by_cases first : k = 0
    · have start : runningEnd d k = 33 := by rw [first]; rfl
      exact ⟨1, by omega, by omega, by omega⟩
    · obtain ⟨high, bound, accepted⟩ := (exists_high (runningEnd d k) low).1
      exact ⟨high, bound, accepted, fun zero => absurd zero first⟩
  obtain ⟨high, bound, accepted, header⟩ := opening
  obtain ⟨rest, full, passes, total, size⟩ := complete high bound
  have opens : Opens (d ++ rest) := by
    refine ⟨?_, ?_, ?_, ?_, ?_⟩
    · rwa [count]
    · rwa [count]
    · rwa [count]
    · rwa [count, total]
    · by_cases first : k = 0
      · rw [size first]
        exact header first
      · have inside := known (Nat.pos_of_ne_zero first)
        rw [szAt_append d rest 0 inside]
        exact long inside
  obtain ⟨high', bound', refused⟩ := (exists_high (runningEnd d k) low).2
  obtain ⟨rest', full', _, total', _⟩ := complete high' bound'
  have shut : ¬ Opens (d ++ rest') := by
    intro opens'
    have accepted' := opens'.accepted
    rw [count, total'] at accepted'
    omega
  have undecodable := request_shut full' shut
  rw [same rest' full'] at undecodable
  have request := request_opens full opens
  rw [same rest full, undecodable] at request
  split at request
  · cases request
  · split at request
    · cases request
    · split at request
      · cases request
      · cases request

theorem checksum_byte (b : ByteBuffer) (full : b.length = kMaxMsgSz) :
    ((Codec.word 8).put (headerAt b).checksum)[7]? = b[41]? := by
  have max : kMaxMsgSz = 4096 := rfl
  have length : (slice b 33 9).length = 9 := slice_length b 33 9 (by omega)
  have bytes : (Codec.word 8).put (headerAt b).checksum = ((slice b 33 9).drop 1).take 8 :=
    (Codec.word 8).put_get ((slice b 33 9).drop 1) (by rw [List.length_drop, length]; decide)
  rw [bytes]
  simp only [slice, List.getElem?_take, List.getElem?_drop, Nat.reduceAdd, Nat.reduceLT, ↓reduceIte]

/-- The receive buffer after `d` when it held one value throughout. -/
def padded (d : ByteBuffer) (v : U8) : ByteBuffer := d ++ List.replicate (kMaxMsgSz - d.length) v

theorem padded_length (v : U8) (short : d.length ≤ kMaxMsgSz) : (padded d v).length = kMaxMsgSz := by
  rw [padded, List.length_append, List.length_replicate]
  omega

theorem padded_get (v : U8) {i : Nat} (behind : d.length ≤ i) (inside : i < kMaxMsgSz) : (padded d v)[i]? = some v := by
  rw [padded, List.getElem?_append_right behind, List.getElem?_replicate, if_pos (by omega)]

theorem header_inside (short : d.length ≤ kMaxMsgSz)
    (same : (headerAt (padded d 0)).checksum = (headerAt (padded d 1)).checksum) :
    MsgsHeader.size + SRpcHeader.format.size ≤ d.length := by
  have max : kMaxMsgSz = 4096 := rfl
  change 42 ≤ d.length
  by_contra outside
  have first := checksum_byte (padded d 0) (padded_length 0 short)
  have second := checksum_byte (padded d 1) (padded_length 1 short)
  rw [same, second, padded_get 0 (by omega) (by omega), padded_get 1 (by omega) (by omega)] at first
  exact absurd first (by decide)

theorem parameter_inside {off len : Nat} (inside : off + len ≤ kMaxMsgSz)
    (same : slice (padded d 0) off len = slice (padded d 1) off len) : len = 0 ∨ off + len ≤ d.length := by
  by_cases empty : len = 0
  · exact .inl empty
  refine .inr ?_
  by_contra outside
  have last := congrArg (fun bytes => bytes[len - 1]?) same
  have inner : len - 1 < len := by omega
  simp only [slice, List.getElem?_take, List.getElem?_drop, if_pos inner] at last
  rw [padded_get 0 (by omega) (by omega), padded_get 1 (by omega) (by omega)] at last
  exact absurd last (by decide)

theorem padded_opens (v : U8) (present : 0 < numAt d) (few : numAt d ≤ kMaxMultiMsg) (passes : Passes d (numAt d))
    (long : SRpcHeader.format.size ≤ (szAt d 0).toNat)
    (accepted : runningEnd d (numAt d) % 2 ^ 16 ≤ kMaxMsgSz) : Opens (padded d v) := by
  have table := passes.inside
  simp only [MsgsHeader.entryAt] at table
  have count (rest : ByteBuffer) := numAt_append d rest (by omega)
  have first (rest : ByteBuffer) : szAt (d ++ rest) 0 = szAt d 0 :=
    szAt_append d rest 0 (by simp only [MsgsHeader.entryAt]; omega)
  constructor
  · rwa [padded, count]
  · rwa [padded, count]
  · rw [padded, count]
    exact passes.append _
  · rwa [padded, count, passes.runningEnd_append _ (Nat.le_refl _)]
  · rwa [padded, first]

theorem within_of_ok {α : Type} {total limit : Nat} {e : Exit} {rest : Except Exit α} {x : α}
    (ok : .ok x = if limit < total then .error e else rest) : total ≤ limit := by
  by_contra beyond
  rw [if_pos (Nat.lt_of_not_le beyond)] at ok
  cases ok

theorem Determined.ownRequest (determined : Determined registered d) (present : 0 < numAt d)
    (few : numAt d ≤ kMaxMultiMsg) (passes : Passes d (numAt d)) (short : d.length ≤ kMaxMsgSz)
    (long : SRpcHeader.format.size ≤ (szAt d 0).toNat)
    (accepted : runningEnd d (numAt d) % 2 ^ 16 ≤ kMaxMsgSz) : OwnRequest registered d := by
  obtain ⟨req, answerable, same⟩ := determined
  have table := passes.inside
  simp only [MsgsHeader.entryAt] at table
  have count (v : U8) : numAt (padded d v) = numAt d := numAt_append d _ (by omega)
  have end1 (v : U8) : runningEnd (padded d v) 1 = runningEnd d 1 := passes.runningEnd_append _ present
  have found (v : U8) := request_opens (padded_length v short) (padded_opens v present few passes long accepted)
  have made (v : U8) : request (padded d v) = .ok req := same _ (padded_length v short)
  simp only [made, end1, count] at found
  have fits : runningEnd d 1 ≤ kMaxMsgSz := within_of_ok (found 0)
  simp only [if_neg (Nat.not_lt_of_le fits)] at found
  by_cases one : numAt d = 1
  · simp only [if_pos one] at found
    refine ⟨?_, fits, .inl one⟩
    have checksums := (found 0).symm.trans (found 1)
    injection checksums with checksums
    injection checksums with checksums
    exact header_inside short checksums
  · have two : 2 ≤ numAt d := by omega
    have end2 (v : U8) : runningEnd (padded d v) 2 = runningEnd d 2 := passes.runningEnd_append _ two
    have second (v : U8) : szAt (padded d v) 1 = szAt d 1 :=
      szAt_append d _ 1 (by simp only [MsgsHeader.entryAt]; omega)
    simp only [if_neg one, end2, second] at found
    have fits' : runningEnd d 2 ≤ kMaxMsgSz := within_of_ok (found 0)
    simp only [if_neg (Nat.not_lt_of_le fits')] at found
    have calls := (found 0).symm.trans (found 1)
    injection calls with calls
    injection calls with _ checksums parameters
    have header := header_inside short checksums
    refine ⟨header, fits, .inr ⟨?_, parameter_inside fits' parameters⟩⟩
    have first := found 0
    injection first with first
    rw [first] at answerable
    have id : (headerAt (padded d 0)).id = (headerAt d).id := by
      rw [padded, headerAt, headerAt, slice_append_left d _ _ _ header]
    rwa [Request.Answerable, id] at answerable

theorem Determined.settled (determined : Determined registered d) (short : d.length ≤ kMaxMsgSz) :
    Settled registered d := by
  have max : kMaxMsgSz = 4096 := rfl
  have nonempty : 0 < d.length := by
    by_contra empty
    have nil : d = [] := List.length_eq_zero_iff.mp (by omega)
    obtain ⟨req, _, same⟩ := determined
    have quiet := same (List.replicate kMaxMsgSz 0) (by rw [nil, List.nil_append, List.length_replicate])
    have stale := same (overlay (encode [dump SRpcHeader.format ⟨0, 0⟩, []]) (List.replicate kMaxMsgSz 0))
      (by rw [nil, List.nil_append, overlay_length, List.length_replicate])
    have called := request_encode ⟨0, 0⟩ [] (List.replicate kMaxMsgSz 0) (by decide) List.length_replicate
    have shut : ¬ Opens (List.replicate kMaxMsgSz 0) := fun opens => absurd opens.present (by decide)
    have refused := request_shut List.length_replicate shut
    rw [nil, List.nil_append] at quiet stale
    rw [quiet] at refused
    rw [stale] at called
    injection refused with refused
    injection called with called
    rw [refused] at called
    cases called
  refine ⟨nonempty, ?_⟩
  by_cases none' : numAt d = 0
  · exact .inl none'
  by_cases many : kMaxMultiMsg < numAt d
  · exact .inr (.inl many)
  by_cases refused : ∃ k < numAt d, RefusedAt d k
  · exact .inr (.inr (.inl refused))
  by_cases brief : MsgsHeader.entryAt 1 ≤ d.length ∧ (szAt d 0).toNat < SRpcHeader.format.size
  · exact .inr (.inr (.inr (.inl brief)))
  refine .inr (.inr (.inr (.inr ?_)))
  have present : 0 < numAt d := by omega
  have few : numAt d ≤ kMaxMultiMsg := by omega
  have unrefused : ∀ k < numAt d, ¬ RefusedAt d k := fun k bound at' => refused ⟨k, bound, at'⟩
  have long : MsgsHeader.entryAt 1 ≤ d.length → SRpcHeader.format.size ≤ (szAt d 0).toNat := by
    intro inside
    by_contra less
    exact brief ⟨inside, by omega⟩
  have table : MsgsHeader.entryAt (numAt d) ≤ d.length := by
    by_contra cut
    exact not_determined_of_cut present few nonempty (by omega) unrefused long determined
  have passes : Passes d (numAt d) := ⟨linked_before unrefused (Nat.le_refl _) table, table⟩
  refine ⟨passes, ?_⟩
  by_cases over' : kMaxMsgSz < runningEnd d (numAt d) % 2 ^ 16
  · exact .inl over'
  · have first : MsgsHeader.entryAt 1 ≤ d.length := by
      simp only [MsgsHeader.entryAt] at table ⊢
      omega
    exact .inr (determined.ownRequest present few passes short (long first) (by omega))

end Settled

end RLib.Bootstrap
