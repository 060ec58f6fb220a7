import Mathlib.Data.Finmap

namespace Map

variable {K V : Type*} [DecidableEq K]

theorem lookup_insert (m : Finmap (fun _ : K => V)) (k n : K) (v : V) :
    (m.insert k v).lookup n = if n = k then some v else m.lookup n := by
  by_cases same : n = k
  · subst n
    rw [if_pos rfl, Finmap.lookup_insert]
  · rw [if_neg same, Finmap.lookup_insert_of_ne m same]

theorem lookup_erase (m : Finmap (fun _ : K => V)) (k n : K) :
    (m.erase k).lookup n = if n = k then none else m.lookup n := by
  by_cases same : n = k
  · subst n
    rw [if_pos rfl, Finmap.lookup_erase]
  · rw [if_neg same, Finmap.lookup_erase_ne same]

variable {m : Finmap (fun _ : K => V)} {k : K}

theorem erase_absent (absent : k ∉ m) : m.erase k = m := by
  apply Finmap.ext_lookup
  intro n
  rw [lookup_erase]
  by_cases same : n = k
  · subst n
    rw [if_pos rfl, Finmap.lookup_eq_none.mpr absent]
  · rw [if_neg same]

theorem erase_insert (absent : k ∉ m) (v : V) : (m.insert k v).erase k = m := by
  apply Finmap.ext_lookup
  intro n
  rw [lookup_erase, lookup_insert]
  by_cases same : n = k
  · subst n
    rw [if_pos rfl, Finmap.lookup_eq_none.mpr absent]
  · rw [if_neg same, if_neg same]

end Map
