import Mathlib.Init

/-- The addresses from `start` on, `len` of them. -/
structure Extent where
  start : Nat
  len : Nat
deriving DecidableEq

namespace Extent

def stop (e : Extent) : Nat := e.start + e.len

def Within (e f : Extent) : Prop := f.start ≤ e.start ∧ e.stop ≤ f.stop

def Apart (e f : Extent) : Prop := e.stop ≤ f.start ∨ f.stop ≤ e.start

instance (e f : Extent) : Decidable (e.Within f) := inferInstanceAs (Decidable (_ ∧ _))
instance (e f : Extent) : Decidable (e.Apart f) := inferInstanceAs (Decidable (_ ∨ _))

/-- The first `n` addresses of `e`, and the others. -/
def front (e : Extent) (n : Nat) : Extent := ⟨e.start, n⟩

def rest (e : Extent) (n : Nat) : Extent := ⟨e.start + n, e.len - n⟩

variable {e e' f f' : Extent} {n : Nat}

theorem Within.refl (e : Extent) : e.Within e := ⟨Nat.le_refl _, Nat.le_refl _⟩

theorem Within.trans (first : e.Within e') (second : e'.Within f) : e.Within f :=
  ⟨Nat.le_trans second.1 first.1, Nat.le_trans first.2 second.2⟩

theorem Apart.symm (apart : e.Apart f) : f.Apart e := Or.symm apart

theorem Apart.mono (apart : e'.Apart f') (left : e.Within e') (right : f.Within f') : e.Apart f := by
  rcases apart with before | behind
  · exact .inl (Nat.le_trans left.2 (Nat.le_trans before right.1))
  · exact .inr (Nat.le_trans right.2 (Nat.le_trans behind left.1))

theorem front_within (fits : n ≤ e.len) : (e.front n).Within e := ⟨Nat.le_refl _, Nat.add_le_add_left fits _⟩

theorem rest_within (fits : n ≤ e.len) : (e.rest n).Within e := by
  simp only [Within, rest, stop]
  omega

theorem front_apart_rest (e : Extent) (n : Nat) : (e.front n).Apart (e.rest n) := .inl (Nat.le_refl _)

/-- Those extents of a family that are there do not share an address. -/
def Separate {ι : Type*} (f : ι → Option Extent) : Prop :=
  ∀ i j e e', f i = some e → f j = some e' → i ≠ j → e.Apart e'

/-- Extents that lie within separate ones are separate if those with the same parent are. -/
theorem Separate.refine {ι κ : Type*} {f : ι → Option Extent} {g : κ → Option Extent} (separate : Separate f)
    (parent : κ → ι) (within : ∀ k e, g k = some e → ∃ e', f (parent k) = some e' ∧ e.Within e')
    (siblings : ∀ k k' e e', g k = some e → g k' = some e' → k ≠ k' → parent k = parent k' → e.Apart e') :
    Separate g := by
  intro k k' e e' there there' other
  by_cases same : parent k = parent k'
  · exact siblings k k' e e' there there' other same
  · obtain ⟨outer, found, inside⟩ := within k e there
    obtain ⟨outer', found', inside'⟩ := within k' e' there'
    exact (separate _ _ _ _ found found' same).mono inside inside'

end Extent
