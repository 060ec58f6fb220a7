import RLib.Bootstrap.MultiMsgDecode
import Mathlib.Order.CompletePartialOrder
import Mathlib.Order.Interval.Set.Disjoint

namespace RLib.Bootstrap

open Bytes

/-- Message `i` is a slice behind the header and inside the buffer, returned by `query_one` and by the
    iterator, and no other message overlaps it. -/
structure SliceSafe {MAXSZ : Nat} (m : MultiMsg MAXSZ) (b : ByteBuffer) (count i : Nat) : Prop where
  slot : ∃ off len, m.entry i = .ok (off, len) ∧ MsgsHeader.size ≤ off ∧ off + len ≤ b.length ∧
    m.queryOne i = .ok (some (slice b off len)) ∧ MsgsIter.cur ⟨m, i⟩ = .ok (off, len)
  apart : ∀ j < count, j ≠ i → ∀ off len off' len', m.entry i = .ok (off, len) → m.entry j = .ok (off', len') →
    Disjoint (Set.Ico off (off + len)) (Set.Ico off' (off' + len'))

/-- Decoding `b` reads bytes of `b` only and yields nothing or a message all of whose slices are safe. -/
def DecodeSafe (MAXSZ : Nat) (b : HeapString) : Prop :=
  ∃ decoded, MultiMsg.createFrom MAXSZ b = .ok decoded ∧ ∀ m, decoded = some m →
    ∃ count, m.numMsg = .ok count ∧ ∀ i < count, SliceSafe m b.bytes count i

/-- The table is walked inside `b`, and a walk to its end finds sizes that do not add up past 16 bits
    unless their wrapped sum is refused. -/
def TableSound (MAXSZ : Nat) (b : ByteBuffer) : Prop :=
  MAXSZ < b.length ∨ 0 < b.length ∧ (kMaxMultiMsg < numAt b ∨ (∃ k < numAt b, StopsAt b k) ∨
    Passes b (numAt b) ∧ (runningEnd b (numAt b) < 2 ^ 16 ∨ b.length < runningEnd b (numAt b) % 2 ^ 16))

section Accepted

variable {MAXSZ : Nat} {b : HeapString}

def around (MAXSZ : Nat) (b : HeapString) : MultiMsg MAXSZ := { buf := b }

theorem around_numMsg (nonempty : 0 < b.bytes.length) : (around MAXSZ b).numMsg = .ok (numAt b.bytes) := by
  change BitVec.toNat <$> MsgsHeader.num b.bytes = _
  rw [num_inside b.bytes nonempty]
  refine congrArg Except.ok ?_
  rw [BitVec.toNat_ofNat, Nat.mod_eq_of_lt (numAt_bound b.bytes)]

theorem around_entry {count i : Nat} (passes : Passes b.bytes count) (inTable : i < count) :
    (around MAXSZ b).entry i = .ok (runningEnd b.bytes i % 2 ^ 16, (szAt b.bytes i).toNat) := by
  have inside : MsgsHeader.entryAt (i + 1) ≤ b.bytes.length := by
    have bound := passes.inside
    simp only [MsgsHeader.entryAt] at bound ⊢
    omega
  have offInside : MsgsHeader.entryAt i + 2 ≤ b.bytes.length := by
    simp only [MsgsHeader.entryAt] at inside ⊢
    omega
  have off := offset_inside b.bytes i offInside
  have len := sz_inside b.bytes i inside
  have linked : offsetAt b.bytes i = BitVec.ofNat 16 (runningEnd b.bytes i) := passes.linked i inTable
  change (do
    let off ← MsgsHeader.offset b.bytes i
    let len ← MsgsHeader.sz b.bytes i
    return (off.toNat, len.toNat)) = _
  simp only [off, len, linked, BitVec.toNat_ofNat, Bind.bind, Except.bind, Pure.pure, Except.pure]

theorem around_queryOne {count i : Nat} {off len : Nat} (counted : (around MAXSZ b).numMsg = .ok count)
    (inTable : i < count) (entry : (around MAXSZ b).entry i = .ok (off, len)) (inside : off + len ≤ b.bytes.length) :
    (around MAXSZ b).queryOne i = .ok (some (slice b.bytes off len)) := by
  have present : ¬ count ≤ i := by omega
  have read : load (around MAXSZ b).buf.bytes off len = .ok (slice b.bytes off len) :=
    load_inside b.bytes off len inside
  simp only [MultiMsg.queryOne, counted, present, entry, read, Bind.bind, Except.bind,
    Pure.pure, Except.pure, ↓reduceIte]

theorem around_cur {count i : Nat} {off len : Nat} (counted : (around MAXSZ b).numMsg = .ok count)
    (inTable : i < count) (entry : (around MAXSZ b).entry i = .ok (off, len)) :
    MsgsIter.cur ⟨around MAXSZ b, i⟩ = .ok (off, len) := by
  simp only [MsgsIter.cur, MsgsIter.valid, counted, inTable, entry, decide_true, Bind.bind, Except.bind, Pure.pure,
    Except.pure, ↓reduceIte]

theorem slices_safe {count : Nat} (passes : Passes b.bytes count) (counted : (around MAXSZ b).numMsg = .ok count)
    (fits : runningEnd b.bytes count ≤ b.bytes.length) (noWrap : runningEnd b.bytes count < 2 ^ 16) (i : Nat)
    (inTable : i < count) : SliceSafe (around MAXSZ b) b.bytes count i := by
  have place : ∀ j < count, (around MAXSZ b).entry j = .ok (runningEnd b.bytes j, (szAt b.bytes j).toNat) := by
    intro j bound
    have below := runningEnd_mono b.bytes (Nat.le_of_lt bound)
    rw [around_entry passes bound, Nat.mod_eq_of_lt (by omega)]
  have next : ∀ j, runningEnd b.bytes j + (szAt b.bytes j).toNat = runningEnd b.bytes (j + 1) := fun _ => rfl
  constructor
  · have entry := place i inTable
    have behind : MsgsHeader.size ≤ runningEnd b.bytes i := runningEnd_mono b.bytes (Nat.zero_le i)
    have before : runningEnd b.bytes (i + 1) ≤ runningEnd b.bytes count := runningEnd_mono b.bytes inTable
    have inside : runningEnd b.bytes i + (szAt b.bytes i).toNat ≤ b.bytes.length := by
      rw [next]
      omega
    exact ⟨_, _, entry, behind, inside, around_queryOne counted inTable entry inside, around_cur counted inTable entry⟩
  · intro j bound differs off len off' len' entry entry'
    rw [place i inTable] at entry
    rw [place j bound] at entry'
    cases entry
    cases entry'
    rw [next, next, Set.Ico_disjoint_Ico]
    rcases Nat.lt_or_gt_of_ne differs with earlier | later
    · have := runningEnd_mono b.bytes (show j + 1 ≤ i from earlier)
      omega
    · have := runningEnd_mono b.bytes (show i + 1 ≤ j from later)
      omega

theorem exists_wrap (bytes : ByteBuffer) (count : Nat) (wraps : 2 ^ 16 ≤ runningEnd bytes count) :
    ∃ i < count, runningEnd bytes i < 2 ^ 16 ∧ 2 ^ 16 ≤ runningEnd bytes (i + 1) := by
  induction count with
  | zero =>
    have start : runningEnd bytes 0 = 33 := rfl
    omega
  | succ count ih =>
    by_cases earlier : 2 ^ 16 ≤ runningEnd bytes count
    · obtain ⟨i, bound, below, above⟩ := ih earlier
      exact ⟨i, by omega, below, above⟩
    · exact ⟨count, by omega, by omega, wraps⟩

theorem safe_of_none (refused : MultiMsg.createFrom MAXSZ b = .ok none) : DecodeSafe MAXSZ b :=
  ⟨none, refused, fun _ same => by cases same⟩

theorem unsafe_of_error {e : Exit} (faults : MultiMsg.createFrom MAXSZ b = .error e) : ¬DecodeSafe MAXSZ b := by
  intro ⟨decoded, created, _⟩
  cases faults.symm.trans created

theorem createFrom_empty (empty : b.bytes = []) (short : ¬MAXSZ < b.bytes.length) :
    MultiMsg.createFrom MAXSZ b = .error .overread := by
  rw [MultiMsg.createFrom, if_neg short, empty]
  rfl

theorem wrapped_unsafe (short : b.bytes.length ≤ 65535) (passes : Passes b.bytes (numAt b.bytes))
    (counted : (around MAXSZ b).numMsg = .ok (numAt b.bytes)) (wraps : 2 ^ 16 ≤ runningEnd b.bytes (numAt b.bytes))
    (created : MultiMsg.createFrom MAXSZ b = .ok (some (around MAXSZ b))) : ¬DecodeSafe MAXSZ b := by
  intro ⟨decoded, created', safe⟩
  cases created.symm.trans created'
  obtain ⟨count, counted', slices⟩ := safe (around MAXSZ b) rfl
  cases counted.symm.trans counted'
  obtain ⟨i, inTable, below, above⟩ := exists_wrap b.bytes (numAt b.bytes) wraps
  obtain ⟨off, len, entry, _, inside, _⟩ := (slices i inTable).slot
  rw [around_entry passes inTable, Nat.mod_eq_of_lt below] at entry
  cases entry
  change 2 ^ 16 ≤ runningEnd b.bytes i + (szAt b.bytes i).toNat at above
  omega

theorem passing_safe_iff (short : b.bytes.length ≤ 65535) (passes : Passes b.bytes (numAt b.bytes))
    (counted : (around MAXSZ b).numMsg = .ok (numAt b.bytes))
    (created : MultiMsg.createFrom MAXSZ b =
      .ok (if decide (runningEnd b.bytes (numAt b.bytes) % 2 ^ 16 ≤ b.bytes.length) then some (around MAXSZ b)
        else none)) :
    DecodeSafe MAXSZ b ↔ runningEnd b.bytes (numAt b.bytes) < 2 ^ 16 ∨
      b.bytes.length < runningEnd b.bytes (numAt b.bytes) % 2 ^ 16 := by
  by_cases accepted : runningEnd b.bytes (numAt b.bytes) % 2 ^ 16 ≤ b.bytes.length
  · rw [decide_eq_true accepted] at created
    rw [or_iff_left (Nat.not_lt.mpr accepted)]
    constructor
    · intro safe
      by_contra wraps
      exact wrapped_unsafe short passes counted (Nat.not_lt.mp wraps) created safe
    · intro noWrap
      rw [Nat.mod_eq_of_lt noWrap] at accepted
      refine ⟨some (around MAXSZ b), created, ?_⟩
      intro m same
      cases same
      exact ⟨numAt b.bytes, counted, slices_safe passes counted accepted noWrap⟩
  · rw [decide_eq_false accepted] at created
    exact iff_of_true (safe_of_none created) (.inr (Nat.not_le.mp accepted))

theorem overrun_unsound {k : Nat} (bound : k < numAt b.bytes) (linked : ∀ j < k, Linked b.bytes j)
    (outside : b.bytes.length < MsgsHeader.entryAt (k + 1))
    (link : MsgsHeader.entryAt k + 2 ≤ b.bytes.length → Linked b.bytes k) :
    ¬((∃ j < numAt b.bytes, StopsAt b.bytes j) ∨ Passes b.bytes (numAt b.bytes)) := by
  rintro (⟨j, _, stops⟩ | passes)
  · rcases Nat.lt_trichotomy j k with before | rfl | behind
    · exact stops.wrong (linked j before)
    · exact stops.wrong (link stops.inside)
    · have reached := stops.inside
      simp only [MsgsHeader.entryAt] at reached outside
      omega
  · have reached := passes.inside
    simp only [MsgsHeader.entryAt] at reached outside
    omega

end Accepted

/-- `create_from` is safe on exactly the buffers whose entry table is sound. -/
theorem createFrom_safe_iff (MAXSZ : Nat) (lower : 34 ≤ MAXSZ) (upper : MAXSZ ≤ 65535) (b : HeapString) :
    DecodeSafe MAXSZ b ↔ TableSound MAXSZ b.bytes := by
  unfold TableSound
  by_cases long : MAXSZ < b.bytes.length
  · exact iff_of_true (safe_of_none (if_pos long)) (.inl long)
  rw [or_iff_right long]
  by_cases nonempty : 0 < b.bytes.length
  swap
  · have empty : b.bytes = [] := List.length_eq_zero_iff.mp (by omega)
    exact iff_of_false (unsafe_of_error (createFrom_empty empty long)) (fun present => nonempty present.1)
  rw [and_iff_right nonempty]
  have created : MultiMsg.createFrom MAXSZ b = (do
      let sane ← MsgsHeader.sanityCheck b.bytes b.bytes.length
      return if sane then some (around MAXSZ b) else none) := if_neg long
  have counted : (around MAXSZ b).numMsg = .ok (numAt b.bytes) := around_numMsg nonempty
  rcases sanityCheck_cases b.bytes b.bytes.length nonempty with
    ⟨refusal, result⟩ | ⟨few, passes, result⟩ | ⟨few, ⟨k, bound, linked, outside, link⟩, result⟩
  · rw [result] at created
    apply iff_of_true (safe_of_none created)
    rcases refusal with many | stops
    · exact .inl many
    · exact .inr (.inl stops)
  · rw [result] at created
    have stopless : ¬∃ k < numAt b.bytes, StopsAt b.bytes k := fun ⟨k, bound, stops⟩ => stops.not_passes bound passes
    rw [or_iff_right (Nat.not_lt.mpr few), or_iff_right stopless, and_iff_right passes]
    exact passing_safe_iff (by omega) passes counted created
  · rw [result] at created
    have unsound := overrun_unsound bound linked outside link
    rw [or_iff_right (Nat.not_lt.mpr few)]
    apply iff_of_false (unsafe_of_error created)
    rintro (stops | ⟨passes, _⟩)
    · exact unsound (.inl stops)
    · exact unsound (.inr passes)

def twoMessages : HeapString :=
  HeapString.ofBytes ([2] ++ dump MsgEntry.format ⟨33, 2⟩ ++ dump MsgEntry.format ⟨35, 1⟩ ++ List.replicate 24 0 ++
    [7, 8, 9])

theorem twoMessages_safe : DecodeSafe 4096 twoMessages := by
  apply (createFrom_safe_iff 4096 (by decide) (by decide) twoMessages).mpr
  exact .inr ⟨by decide, .inr (.inr ⟨⟨by decide, by decide⟩, .inl (by decide)⟩)⟩

/-- One entry of offset 33 and size 65535: the running offset wraps to 32. -/
def wrappedTable : HeapString :=
  HeapString.ofBytes ([1] ++ dump MsgEntry.format ⟨33, 65535⟩ ++ List.replicate 28 0)

theorem wrappedTable_unsafe : ¬ DecodeSafe 4096 wrappedTable := by
  intro ⟨decoded, created, safe⟩
  have accepted : MultiMsg.createFrom 4096 wrappedTable = .ok (some (around 4096 wrappedTable)) := rfl
  rw [accepted] at created
  cases created
  obtain ⟨count, counted, slices⟩ := safe _ rfl
  have one : (around 4096 wrappedTable).numMsg = .ok 1 := rfl
  rw [one] at counted
  cases counted
  obtain ⟨off, len, entry, _, inside, _⟩ := (slices 0 (by decide)).slot
  have first : (around 4096 wrappedTable).entry 0 = .ok (33, 65535) := rfl
  rw [first] at entry
  cases entry
  exact absurd inside (by decide)

end RLib.Bootstrap
