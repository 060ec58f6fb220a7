import Mathlib.Data.Fintype.Card
import Mathlib.Data.Nat.ModEq
import Mathlib.Data.List.Nodup
import Mathlib.Data.List.Range
import Mathlib.Logic.Function.Basic

namespace Ring

variable {N : Nat} [NeZero N]

/-- The place `j` steps behind `h` in a ring of `N` places. -/
def slot (h : Fin N) (j : Nat) : Fin N := Fin.ofNat N (h + j)

/-- The `k` places from `h` on, in ring order. -/
def window (h : Fin N) (k : Nat) : List (Fin N) := (List.range k).map (slot h)

theorem slot_val (h : Fin N) (j : Nat) : (slot h j : Nat) = (h + j) % N := rfl

@[simp] theorem slot_zero (h : Fin N) : slot h 0 = h := by
  apply Fin.ext
  rw [slot_val, Nat.add_zero, Nat.mod_eq_of_lt h.isLt]

theorem slot_slot (h : Fin N) (i j : Nat) : slot (slot h i) j = slot h (i + j) := by
  apply Fin.ext
  rw [slot_val, slot_val, slot_val, Nat.mod_add_mod, Nat.add_assoc]

@[simp] theorem slot_all (h : Fin N) : slot h N = h := by
  apply Fin.ext
  rw [slot_val, Nat.add_mod_right, Nat.mod_eq_of_lt h.isLt]

theorem slot_inj (h : Fin N) {i j : Nat} (first : i < N) (second : j < N) (same : slot h i = slot h j) : i = j := by
  have values := congrArg Fin.val same
  rw [slot_val, slot_val] at values
  have modular : Nat.ModEq N i j := Nat.ModEq.add_left_cancel' (h : Nat) values
  rwa [Nat.ModEq, Nat.mod_eq_of_lt first, Nat.mod_eq_of_lt second] at modular

@[simp] theorem window_length (h : Fin N) (k : Nat) : (window h k).length = k := by
  rw [window, List.length_map, List.length_range]

@[simp] theorem window_zero (h : Fin N) : window h 0 = [] := rfl

theorem window_add (h : Fin N) (j k : Nat) : window h (j + k) = window h j ++ window (slot h j) k := by
  rw [window, List.range_add, List.map_append, List.map_map, window, window]
  congr 1
  apply List.map_congr_left
  intro i _
  exact (slot_slot h j i).symm

theorem window_succ (h : Fin N) (k : Nat) : window h (k + 1) = h :: window (slot h 1) k := by
  rw [Nat.add_comm, window_add]
  exact congrArg (· :: _) (slot_zero h)

theorem window_rotate (h : Fin N) {k : Nat} (fits : k ≤ N) :
    window (slot h k) (N - k) ++ window h k = window (slot h k) N := by
  have back : slot (slot h k) (N - k) = h := by
    rw [slot_slot, Nat.add_sub_cancel' fits, slot_all]
  have split := window_add (slot h k) (N - k) k
  rw [back, Nat.sub_add_cancel fits] at split
  exact split.symm

theorem window_nodup (h : Fin N) {k : Nat} (fits : k ≤ N) : (window h k).Nodup := by
  apply List.Nodup.map_on _ List.nodup_range
  intro i first j second same
  rw [List.mem_range] at first second
  exact slot_inj h (by omega) (by omega) same

/-- Pointers that lead once around the ring. -/
def Linked (next : Fin N → Option (Fin N)) : Prop := ∀ i, next i = some (slot i 1)

instance (next : Fin N → Option (Fin N)) : Decidable (Linked next) := inferInstanceAs (Decidable (∀ _, _ = _))

/-- The places a chain of pointers leads through from `i` on. A chain that goes on behind `fuel` places,
    as many as the ring has, does not end. -/
def chain (next : Fin N → Option (Fin N)) : Nat → Fin N → Option (List (Fin N))
  | 0, _ => none
  | fuel + 1, i =>
    match next i with
    | none => some [i]
    | some j => (chain next fuel j).map (i :: ·)

variable {next : Fin N → Option (Fin N)}

theorem chain_window (i : Fin N) (k fuel : Nat) (enough : k < fuel)
    (linked : ∀ j < k, next (slot i j) = some (slot i (j + 1))) (ends : next (slot i k) = none) :
    chain next fuel i = some (window i (k + 1)) := by
  induction k generalizing i fuel with
  | zero =>
    rw [slot_zero] at ends
    cases fuel with
    | zero => omega
    | succ fuel =>
      rw [chain, ends, window_succ]
      rfl
  | succ k ih =>
    cases fuel with
    | zero => omega
    | succ fuel =>
      have now := linked 0 (by omega)
      rw [slot_zero] at now
      have rest : chain next fuel (slot i 1) = some (window (slot i 1) (k + 1)) := by
        apply ih (slot i 1) fuel (by omega)
        · intro j inside
          rw [slot_slot, slot_slot, Nat.add_comm 1 j, linked (j + 1) (by omega)]
          congr 2
          omega
        · rw [slot_slot, Nat.add_comm]
          exact ends
      rw [chain, now, window_succ]
      simp only [rest, Option.map_some]

/-- A ring cut behind `k + 1` of its places is a chain of just these places. -/
theorem chain_cut (linked : Linked next) (h : Fin N) {k : Nat} (fits : k < N) :
    chain (Function.update next (slot h k) none) N h = some (window h (k + 1)) := by
  apply chain_window h k N fits
  · intro j inside
    have apart : slot h j ≠ slot h k := by
      intro same
      have := slot_inj h (by omega) fits same
      omega
    rw [Function.update_of_ne apart, linked, slot_slot]
  · rw [Function.update_self]

end Ring
