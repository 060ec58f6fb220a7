import RLib.Bootstrap.MultiMsg

namespace RLib.Bootstrap

open Bytes

def numAt (b : ByteBuffer) : Nat := ((Codec.word 1).get (slice b 0 1)).toNat

def offsetAt (b : ByteBuffer) (i : Nat) : U16 := (Codec.word 2).get (slice b (MsgsHeader.entryAt i) 2)

def szAt (b : ByteBuffer) (i : Nat) : U16 := (Codec.word 2).get (slice b (MsgsHeader.entryAt i + 2) 2)

/-- Where entry `i` would start if the offsets did not wrap at 16 bits. -/
def runningEnd (b : ByteBuffer) : Nat → Nat
  | 0 => MsgsHeader.size
  | i + 1 => runningEnd b i + (szAt b i).toNat

def Linked (b : ByteBuffer) (i : Nat) : Prop := offsetAt b i = BitVec.ofNat 16 (runningEnd b i)

instance (b : ByteBuffer) (i : Nat) : Decidable (Linked b i) := inferInstanceAs (Decidable (_ = _))

theorem num_inside (b : ByteBuffer) (inside : 0 < b.length) : 
    MsgsHeader.num b = .ok (BitVec.ofNat 8 (numAt b)) := by
  rw [MsgsHeader.num, load_inside _ _ _ (by omega), numAt, BitVec.ofNat_toNat]
  exact congrArg Except.ok (BitVec.setWidth_eq _).symm

theorem offset_inside (b : ByteBuffer) (i : Nat) (inside : MsgsHeader.entryAt i + 2 ≤ b.length) :
    MsgsHeader.offset b i = .ok (offsetAt b i) := by
  rw [MsgsHeader.offset, load_inside _ _ _ inside]
  rfl

theorem offset_outside (b : ByteBuffer) (i : Nat) (outside : b.length < MsgsHeader.entryAt i + 2) :
    MsgsHeader.offset b i = .error .overread := by
  rw [MsgsHeader.offset, load_outside _ _ _ outside]
  rfl

theorem sz_inside (b : ByteBuffer) (i : Nat) (inside : MsgsHeader.entryAt (i + 1) ≤ b.length) :
    MsgsHeader.sz b i = .ok (szAt b i) := by
  have room : MsgsHeader.entryAt i + 2 + 2 ≤ b.length := by
    simp only [MsgsHeader.entryAt] at inside ⊢
    omega
  rw [MsgsHeader.sz, load_inside _ _ _ room]
  rfl

theorem sz_outside (b : ByteBuffer) (i : Nat) (outside : b.length < MsgsHeader.entryAt (i + 1)) :
    MsgsHeader.sz b i = .error .overread := by
  have room : b.length < MsgsHeader.entryAt i + 2 + 2 := by
    simp only [MsgsHeader.entryAt] at outside ⊢
    omega
  rw [MsgsHeader.sz, load_outside _ _ _ room]
  rfl

theorem runningEnd_next (b : ByteBuffer) (i : Nat) :
    BitVec.ofNat 16 (runningEnd b i) + szAt b i = BitVec.ofNat 16 (runningEnd b (i + 1)) := by
  rw [runningEnd, BitVec.ofNat_add, BitVec.ofNat_toNat, BitVec.setWidth_eq]

theorem runningEnd_mono (b : ByteBuffer) {i j : Nat} (le : i ≤ j) : runningEnd b i ≤ runningEnd b j := by
  induction j, le using Nat.le_induction with
  | base => exact Nat.le_refl _
  | succ j _ ih => exact Nat.le_trans ih (Nat.le_add_right _ _)

/-- The walk over the entries stops at entry `k`, on bytes that are there. -/
structure StopsAt (b : ByteBuffer) (k : Nat) : Prop where
  linked : ∀ j < k, Linked b j
  inside : MsgsHeader.entryAt k + 2 ≤ b.length
  wrong : ¬ Linked b k

/-- The walk over the entries reaches the end of a table of `count` entries, on bytes that are there. -/
structure Passes (b : ByteBuffer) (count : Nat) : Prop where
  linked : ∀ j < count, Linked b j
  inside : MsgsHeader.entryAt count ≤ b.length

/-- What the loop of `sanity_check` finds from entry `i` on. -/
theorem checkEntries_cases (b : ByteBuffer) (i left : Nat) (linked : ∀ j < i, Linked b j)
    (inside : MsgsHeader.entryAt i ≤ b.length) :
    (Passes b (i + left) ∧ MsgsHeader.checkEntries b i (BitVec.ofNat 16 (runningEnd b i)) left =
      .ok (some (BitVec.ofNat 16 (runningEnd b (i + left))))) ∨
    (∃ k < i + left, StopsAt b k ∧
      MsgsHeader.checkEntries b i (BitVec.ofNat 16 (runningEnd b i)) left = .ok none) ∨
    (∃ k < i + left, (∀ j < k, Linked b j) ∧ b.length < MsgsHeader.entryAt (k + 1) ∧
      (MsgsHeader.entryAt k + 2 ≤ b.length → Linked b k) ∧
      MsgsHeader.checkEntries b i (BitVec.ofNat 16 (runningEnd b i)) left = .error .overread) := by
  induction left generalizing i with
  | zero => exact .inl ⟨⟨linked, inside⟩, rfl⟩
  | succ left ih =>
    by_cases offInside : MsgsHeader.entryAt i + 2 ≤ b.length
    · have off := offset_inside b i offInside
      by_cases link : Linked b i
      · have linkEq : offsetAt b i = BitVec.ofNat 16 (runningEnd b i) := link
        by_cases szInside : MsgsHeader.entryAt (i + 1) ≤ b.length
        · have len := sz_inside b i szInside
          have linkedNext : ∀ j < i + 1, Linked b j := by
            intro j bound
            rcases Nat.lt_succ_iff_lt_or_eq.mp bound with earlier | rfl
            · exact linked j earlier
            · exact link
          have step : MsgsHeader.checkEntries b i (BitVec.ofNat 16 (runningEnd b i)) (left + 1) =
              MsgsHeader.checkEntries b (i + 1) (BitVec.ofNat 16 (runningEnd b (i + 1))) left := by
            simp only [MsgsHeader.checkEntries, off, len, linkEq, runningEnd_next, Bind.bind, Except.bind, ne_eq,
              not_true_eq_false, ↓reduceIte]
          rw [step, show i + (left + 1) = i + 1 + left from by omega]
          exact ih (i + 1) linkedNext szInside
        · have len := sz_outside b i (by omega)
          refine .inr (.inr ⟨i, by omega, linked, by omega, fun _ => link, ?_⟩)
          simp only [MsgsHeader.checkEntries, off, len, linkEq, Bind.bind, Except.bind, ne_eq,
            not_true_eq_false, ↓reduceIte]
      · have differs : offsetAt b i ≠ BitVec.ofNat 16 (runningEnd b i) := link
        refine .inr (.inl ⟨i, by omega, ⟨linked, offInside, link⟩, ?_⟩)
        simp only [MsgsHeader.checkEntries, off, differs, Bind.bind, Except.bind, Pure.pure, Except.pure, ne_eq,
          not_false_eq_true, ↓reduceIte]
    · have off := offset_outside b i (by omega)
      have beyond : b.length < MsgsHeader.entryAt (i + 1) := by
        simp only [MsgsHeader.entryAt] at offInside ⊢
        omega
      refine .inr (.inr ⟨i, by omega, linked, beyond, fun h => absurd h offInside, ?_⟩)
      simp only [MsgsHeader.checkEntries, off, Bind.bind, Except.bind]

theorem StopsAt.not_passes {b : ByteBuffer} {k count : Nat} (stops : StopsAt b k) (inTable : k < count) :
    ¬ Passes b count := fun passes => stops.wrong (passes.linked k inTable)

theorem numAt_bound (b : ByteBuffer) : numAt b < 2 ^ 8 := BitVec.isLt _

theorem sanityCheck_cases (b : ByteBuffer) (total : Nat) (nonempty : 0 < b.length) :
    ((kMaxMultiMsg < numAt b ∨ ∃ k < numAt b, StopsAt b k) ∧ MsgsHeader.sanityCheck b total = .ok false) ∨
    (numAt b ≤ kMaxMultiMsg ∧ Passes b (numAt b) ∧
      MsgsHeader.sanityCheck b total = .ok (decide (runningEnd b (numAt b) % 2 ^ 16 ≤ total))) ∨
    (numAt b ≤ kMaxMultiMsg ∧ (∃ k < numAt b, (∀ j < k, Linked b j) ∧ b.length < MsgsHeader.entryAt (k + 1) ∧
        (MsgsHeader.entryAt k + 2 ≤ b.length → Linked b k)) ∧
      MsgsHeader.sanityCheck b total = .error .overread) := by
  have read := num_inside b nonempty
  have count : (BitVec.ofNat 8 (numAt b)).toNat = numAt b := by
    rw [BitVec.toNat_ofNat, Nat.mod_eq_of_lt (numAt_bound b)]
  by_cases many : kMaxMultiMsg < numAt b
  · refine .inl ⟨.inl many, ?_⟩
    simp only [MsgsHeader.sanityCheck, read, count, many, Bind.bind, Except.bind, Pure.pure, Except.pure, ↓reduceIte]
  · have few : numAt b ≤ kMaxMultiMsg := by omega
    have none' : ∀ j < 0, Linked b j := fun j bound => absurd bound (Nat.not_lt_zero j)
    have walk := checkEntries_cases b 0 (numAt b) none' (by simp only [MsgsHeader.entryAt]; omega)
    rw [Nat.zero_add, show runningEnd b 0 = MsgsHeader.size from rfl] at walk
    rcases walk with ⟨passes, result⟩ | ⟨k, bound, stops, result⟩ | ⟨k, bound, linked, outside, link, result⟩
    · refine .inr (.inl ⟨few, passes, ?_⟩)
      simp only [MsgsHeader.sanityCheck, read, count, many, result, Bind.bind, Except.bind, Pure.pure, Except.pure,
        ↓reduceIte, BitVec.toNat_ofNat]
    · refine .inl ⟨.inr ⟨k, bound, stops⟩, ?_⟩
      simp only [MsgsHeader.sanityCheck, read, count, many, result, Bind.bind, Except.bind, Pure.pure, Except.pure,
        ↓reduceIte]
    · refine .inr (.inr ⟨few, ⟨k, bound, linked, outside, link⟩, ?_⟩)
      simp only [MsgsHeader.sanityCheck, read, count, many, result, Bind.bind, Except.bind, ↓reduceIte]

end RLib.Bootstrap
