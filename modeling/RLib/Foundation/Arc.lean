import Mathlib.Data.List.Nodup
import Mathlib.Data.List.Perm.Basic
import Mathlib.Logic.Function.Basic

/-! Objects under shared pointers. The members of an object that are shared pointers are fixed when it is made,
so they point to older objects. -/

namespace Arc

structure Cell (K : Type*) where
  id : Nat
  kind : K

/-- The objects that are there, the youngest first, and the count of each. -/
structure Heap (K : Type*) where
  cells : List (Cell K) := []
  count : Nat → Nat := fun _ => 0
  fresh : Nat := 0

variable {K S : Type*} {refs : K → List Nat} {cells : List (Cell K)} {h : Heap K} {roots work : List Nat} {i : Nat}

def Alive (cells : List (Cell K)) (i : Nat) : Prop := ∃ c ∈ cells, c.id = i

def without (c : Cell K) (cells : List (Cell K)) : List (Cell K) := cells.filter (fun c' => c'.id ≠ c.id)

/-- The pointers in the members of the objects. -/
def links (refs : K → List Nat) (cells : List (Cell K)) : List Nat := cells.flatMap (fun c => refs c.kind)

theorem mem_without {c c' : Cell K} : c' ∈ without c cells ↔ c' ∈ cells ∧ c'.id ≠ c.id := by simp [without]

theorem mem_links : i ∈ links refs cells ↔ ∃ c ∈ cells, i ∈ refs c.kind := by simp [links]

theorem links_cons (c : Cell K) : links refs (c :: cells) = refs c.kind ++ links refs cells := List.flatMap_cons

theorem links_without_length {c : Cell K} (member : c ∈ cells) :
    (refs c.kind).length + (links refs (without c cells)).length ≤ (links refs cells).length := by
  have fewer (cells : List (Cell K)) : (links refs (without c cells)).length ≤ (links refs cells).length := by
    induction cells with
    | nil => simp [without]
    | cons c' cells ih =>
      simp only [without, List.filter_cons] at ih ⊢
      split <;> simp only [links_cons, List.length_append] <;> omega
  induction cells with
  | nil => simp at member
  | cons c' cells ih =>
    have bound := fewer cells
    rcases List.mem_cons.mp member with rfl | member
    · simp only [without, ne_eq, not_true_eq_false, decide_false, Bool.false_eq_true, not_false_eq_true,
        List.filter_cons_of_neg, links_cons, List.length_append] at bound ⊢
      omega
    · have rest := ih member
      simp only [without, List.filter_cons] at rest bound ⊢
      split <;> simp only [links_cons, List.length_append] <;> omega

theorem perm_without {c : Cell K} (nodup : (cells.map Cell.id).Nodup) (member : c ∈ cells) :
    cells.Perm (c :: without c cells) := by
  induction cells with
  | nil => simp at member
  | cons c' cells ih =>
    obtain ⟨new, nodup⟩ := List.nodup_cons.mp nodup
    rcases List.mem_cons.mp member with rfl | member
    · have others : without c (c :: cells) = cells := by
        rw [without, List.filter_cons_of_neg (by simp)]
        apply List.filter_eq_self.mpr
        intro c' member
        simp only [decide_eq_true_eq]
        intro same
        exact new (same ▸ List.mem_map_of_mem member)
      rw [others]
    · have other : c'.id ≠ c.id := by
        intro same
        exact new (same ▸ List.mem_map_of_mem member)
      rw [without, List.filter_cons_of_pos (by simpa using other)]
      exact ((ih nodup member).cons c').trans (List.Perm.swap _ _ _)

namespace Heap

def lookup (h : Heap K) (i : Nat) : Option (Cell K) := h.cells.find? (fun c => c.id = i)

/-- A new object, with the pointer to it that its maker gets. -/
def make (refs : K → List Nat) (kind : K) (h : Heap K) : Heap K where
  cells := ⟨h.fresh, kind⟩ :: h.cells
  count i := if i = h.fresh then 1 else h.count i + (refs kind).count i
  fresh := h.fresh + 1

def clone (i : Nat) (h : Heap K) : Heap K := { h with count := Function.update h.count i (h.count i + 1) }

def drop (i : Nat) (h : Heap K) : Heap K := { h with count := Function.update h.count i (h.count i - 1) }

def remove (c : Cell K) (h : Heap K) : Heap K := { h with cells := without c h.cells }

theorem lookup_mem {c : Cell K} (found : h.lookup i = some c) : c ∈ h.cells ∧ c.id = i := by
  refine ⟨List.mem_of_find?_eq_some found, ?_⟩
  simpa using List.find?_some found

theorem lookup_none (missing : h.lookup i = none) : ¬Alive h.cells i := by
  rintro ⟨c, member, rfl⟩
  simpa using List.find?_eq_none.mp missing c member

/-- Pointers let go one after the other. An object whose count gets to zero is destroyed: its destructor runs,
    then its members let go, before anything that comes after. -/
def release (refs : K → List Nat) (destruct : Cell K → S → S) : List Nat → Heap K → S → Heap K × S
  | [], h, s => (h, s)
  | i :: work, h, s =>
    match _found : h.lookup i with
    | none => release refs destruct work h s
    | some c =>
      if h.count i = 1 then release refs destruct (refs c.kind ++ work) (h.remove c) (destruct c s)
      else release refs destruct work (h.drop i) s
termination_by work h => work.length + (links refs h.cells).length
decreasing_by
  · simp
  · have bound : (refs c.kind).length + (links refs (without c h.cells)).length ≤ (links refs h.cells).length :=
      links_without_length (lookup_mem _found).1
    simp only [remove, List.length_append, List.length_cons]
    omega
  · simp [drop]

end Heap

def holders (refs : K → List Nat) (cells : List (Cell K)) (roots : List Nat) (i : Nat) : Nat :=
  roots.count i + (links refs cells).count i

theorem holders_pos : 0 < holders refs cells roots i ↔ i ∈ roots ∨ ∃ c ∈ cells, i ∈ refs c.kind := by
  rw [holders, Nat.add_pos_iff_pos_or_pos, List.count_pos_iff, List.count_pos_iff, mem_links]

/-- The counts are right, the pointers point to objects that are there, and each object has one. -/
structure Owned (refs : K → List Nat) (h : Heap K) (roots : List Nat) : Prop where
  counted : ∀ c ∈ h.cells, h.count c.id = holders refs h.cells roots c.id
  held : ∀ c ∈ h.cells, 0 < holders refs h.cells roots c.id
  alive : ∀ i, 0 < holders refs h.cells roots i → Alive h.cells i
  nodup : (h.cells.map Cell.id).Nodup
  older : ∀ c ∈ h.cells, ∀ i ∈ refs c.kind, i < c.id
  bound : ∀ c ∈ h.cells, c.id < h.fresh

inductive Reach (refs : K → List Nat) (cells : List (Cell K)) (roots : List Nat) : Nat → Prop
  | root {i : Nat} (member : i ∈ roots) : Reach refs cells roots i
  | ref {c : Cell K} {i : Nat} (member : c ∈ cells) (reached : Reach refs cells roots c.id)
      (points : i ∈ refs c.kind) : Reach refs cells roots i

structure Dying (refs : K → List Nat) (cells : List (Cell K)) (roots : List Nat) (c : Cell K) : Prop where
  member : c ∈ cells
  rootless : c.id ∉ roots
  unreferred : ∀ c' ∈ cells, c.id ∉ refs c'.kind
  single : ∀ c' ∈ cells, c'.id = c.id → c' = c
  refs_alive : ∀ i ∈ refs c.kind, Alive cells i

theorem Dying.mono {roots' : List Nat} {c : Cell K} (dying : Dying refs cells roots c)
    (fewer : ∀ i ∈ roots', i ∈ roots) :
    Dying refs cells roots' c :=
  { dying with rootless := fun member => dying.rootless (fewer _ member) }

theorem Dying.unreached {c : Cell K} (dying : Dying refs cells roots c) : ¬Reach refs cells roots c.id := by
  intro reached
  cases reached with
  | root root => exact dying.rootless root
  | ref member _ points => exact dying.unreferred _ member points

theorem Reach.without {c : Cell K} (dying : Dying refs cells roots c) (reached : Reach refs cells roots i) :
    Reach refs (Arc.without c cells) roots i := by
  induction reached with
  | root member => exact .root member
  | @ref c' i member reached points ih =>
    refine .ref (mem_without.mpr ⟨member, ?_⟩) ih points
    intro same
    exact dying.unreached (same ▸ reached)

theorem Reach.mono {cells' : List (Cell K)} {roots' : List Nat} (more : ∀ c ∈ cells, c ∈ cells')
    (wider : ∀ i ∈ roots, i ∈ roots') (reached : Reach refs cells roots i) : Reach refs cells' roots' i := by
  induction reached with
  | root member => exact .root (wider _ member)
  | ref member _ points ih => exact .ref (more _ member) ih points

theorem Reach.of_leaf {rest : List Nat} {j : Nat} (split : ∀ k ∈ roots, k = i ∨ k ∈ rest)
    (leaf : ∀ c ∈ cells, c.id = i → refs c.kind = []) (reached : Reach refs cells roots j) :
    j = i ∨ Reach refs cells rest j := by
  induction reached with
  | root root => exact (split _ root).imp_right .root
  | ref member _ points ih =>
    rcases ih with same | reached
    · simp [leaf _ member same] at points
    · exact .inr (.ref member reached points)

theorem not_reach_nil : ¬Reach refs cells [] i := by
  intro reached
  induction reached with
  | root member => simp at member
  | ref _ _ _ ih => exact ih

namespace Owned

theorem single (owned : Owned refs h roots) {c c' : Cell K} (member : c ∈ h.cells) (member' : c' ∈ h.cells)
    (same : c'.id = c.id) : c' = c :=
  List.inj_on_of_nodup_map owned.nodup member' member same

theorem perm {roots' : List Nat} (owned : Owned refs h roots) (perm : roots.Perm roots') : Owned refs h roots' := by
  have same : holders refs h.cells roots = holders refs h.cells roots' := by
    funext i
    rw [holders, holders, perm.count_eq]
  exact { owned with
    counted := same ▸ owned.counted
    held := same ▸ owned.held
    alive := same ▸ owned.alive }

/-- Exactly what some pointer leads to is there. -/
theorem alive_iff (owned : Owned refs h roots) : Alive h.cells i ↔ Reach refs h.cells roots i := by
  constructor
  · rintro ⟨c, member, rfl⟩
    -- by the room above the object: whatever points to it is younger
    induction room : h.fresh - c.id using Nat.strongRecOn generalizing c with
    | ind room ih =>
      rcases holders_pos.mp (owned.held c member) with root | ⟨c', member', points⟩
      · exact .root root
      · have older := owned.older c' member' _ points
        have bound := owned.bound c' member'
        exact .ref member' (ih (h.fresh - c'.id) (by omega) c' member' rfl) points
  · intro reached
    apply owned.alive
    rw [holders_pos]
    cases reached with
    | root root => exact .inl root
    | ref member _ points => exact .inr ⟨_, member, points⟩

theorem empty : Owned refs ({} : Heap K) [] := by
  constructor <;> simp [holders, links]

theorem make (owned : Owned refs h roots) {kind : K} (given : ∀ i ∈ refs kind, Alive h.cells i) :
    Owned refs (h.make refs kind) (h.fresh :: roots) := by
  have older : ∀ i, Alive h.cells i → i < h.fresh := by
    rintro i ⟨c, member, rfl⟩
    exact owned.bound c member
  have unheld : holders refs h.cells roots h.fresh = 0 := by
    by_contra held
    exact Nat.lt_irrefl _ (older _ (owned.alive _ (Nat.pos_of_ne_zero held)))
  have unlisted : (refs kind).count h.fresh = 0 := by
    rw [List.count_eq_zero]
    intro member
    exact Nat.lt_irrefl _ (older _ (given _ member))
  have holders' (i : Nat) : holders refs (h.make refs kind).cells (h.fresh :: roots) i =
      (if i = h.fresh then 1 else 0) + (refs kind).count i + holders refs h.cells roots i := by
    simp only [holders, Heap.make, links_cons, List.count_cons, List.count_append, beq_iff_eq]
    by_cases new : i = h.fresh
    · rw [if_pos new, if_pos new.symm]
      omega
    · rw [if_neg new, if_neg (Ne.symm new)]
      omega
  have distinct : ∀ c ∈ h.cells, c.id ≠ h.fresh := fun c member => Nat.ne_of_lt (owned.bound c member)
  constructor
  · intro c member
    rw [holders']
    rcases List.mem_cons.mp member with rfl | member
    · simp [Heap.make, unheld, unlisted]
    · simp [Heap.make, distinct c member, owned.counted c member, Nat.add_comm]
  · intro c member
    rw [holders']
    rcases List.mem_cons.mp member with rfl | member
    · rw [if_pos rfl]
      omega
    · have := owned.held c member
      omega
  · intro i held
    rw [holders'] at held
    by_cases new : i = h.fresh
    · exact ⟨_, List.mem_cons_self, new.symm⟩
    · have there : Alive h.cells i := by
        by_cases listed : i ∈ refs kind
        · exact given i listed
        · apply owned.alive
          rw [if_neg new, List.count_eq_zero.mpr listed] at held
          omega
      obtain ⟨c, member, same⟩ := there
      exact ⟨c, List.mem_cons_of_mem _ member, same⟩
  · simp only [Heap.make, List.map_cons, List.nodup_cons, List.mem_map, not_exists, not_and]
    exact ⟨distinct, owned.nodup⟩
  · intro c member i points
    rcases List.mem_cons.mp member with rfl | member
    · exact older i (given i points)
    · exact owned.older c member i points
  · intro c member
    rcases List.mem_cons.mp member with rfl | member
    · exact Nat.lt_succ_self _
    · exact Nat.lt_succ_of_lt (owned.bound c member)

theorem holders_cons (refs : K → List Nat) (cells : List (Cell K)) (roots : List Nat) (i j : Nat) :
    holders refs cells (i :: roots) j = holders refs cells roots j + if j = i then 1 else 0 := by
  rw [holders, holders, List.count_cons]
  by_cases same : j = i
  · simp [same, Nat.add_right_comm]
  · simp [same, Ne.symm same]

theorem clone (owned : Owned refs h roots) (there : Alive h.cells i) : Owned refs (h.clone i) (i :: roots) := by
  constructor
  · intro c member
    rw [holders_cons]
    change Function.update h.count i (h.count i + 1) c.id = _
    rw [Function.update_apply]
    by_cases same : c.id = i
    · rw [if_pos same, if_pos same, ← same, owned.counted c member]
      rfl
    · rw [if_neg same, if_neg same, owned.counted c member]
      rfl
  · intro c member
    rw [holders_cons]
    exact Nat.lt_of_lt_of_le (owned.held c member) (Nat.le_add_right _ _)
  · intro j held
    rw [holders_cons] at held
    by_cases same : j = i
    · exact same ▸ there
    · rw [if_neg same] at held
      exact owned.alive j held
  · exact owned.nodup
  · exact owned.older
  · exact owned.bound

theorem drop (owned : Owned refs h (i :: roots)) (shared : ∀ c ∈ h.cells, c.id = i → h.count i ≠ 1) :
    Owned refs (h.drop i) roots := by
  have still : ∀ c ∈ h.cells, c.id = i → 0 < holders refs h.cells roots i := by
    intro c member same
    have counted := owned.counted c member
    rw [same, holders_cons, if_pos rfl] at counted
    have := shared c member same
    omega
  constructor
  · intro c member
    have counted := owned.counted c member
    rw [holders_cons] at counted
    change Function.update h.count i (h.count i - 1) c.id = holders refs h.cells roots c.id
    rw [Function.update_apply]
    by_cases same : c.id = i
    · rw [if_pos same] at counted
      rw [if_pos same, ← same, counted, Nat.add_sub_cancel]
    · rw [if_neg same] at counted
      rw [if_neg same, counted, Nat.add_zero]
  · intro c member
    have held := owned.held c member
    rw [holders_cons] at held
    by_cases same : c.id = i
    · change 0 < holders refs h.cells roots c.id
      rw [same]
      exact still c member same
    · rw [if_neg same] at held
      exact held
  · intro j held
    apply owned.alive
    rw [holders_cons]
    exact Nat.lt_of_lt_of_le held (Nat.le_add_right _ _)
  · exact owned.nodup
  · exact owned.older
  · exact owned.bound

theorem dying (owned : Owned refs h (i :: roots)) {c : Cell K} (member : c ∈ h.cells) (same : c.id = i)
    (last : h.count i = 1) : Dying refs h.cells roots c := by
  have counted := owned.counted c member
  rw [same, last, holders_cons, if_pos rfl] at counted
  have unheld : ¬0 < holders refs h.cells roots c.id := by
    rw [same]
    omega
  rw [holders_pos, not_or] at unheld
  refine ⟨member, unheld.1, ?_, fun c' member' => owned.single member member', ?_⟩
  · intro c' member' points
    exact unheld.2 ⟨c', member', points⟩
  · intro j points
    exact owned.alive j (holders_pos.mpr (.inr ⟨c, member, points⟩))

theorem remove (owned : Owned refs h (i :: roots)) {c : Cell K} (member : c ∈ h.cells) (same : c.id = i)
    (last : h.count i = 1) : Owned refs (h.remove c) (refs c.kind ++ roots) := by
  have dying := owned.dying member same last
  have holders' (j : Nat) : holders refs (h.remove c).cells (refs c.kind ++ roots) j =
      holders refs h.cells roots j := by
    have split : (links refs h.cells).Perm (refs c.kind ++ links refs (Arc.without c h.cells)) := by
      rw [← links_cons]
      exact (perm_without owned.nodup member).flatMap_right _
    simp only [holders, Heap.remove, split.count_eq, List.count_append]
    omega
  have others : ∀ c' ∈ (h.remove c).cells, c' ∈ h.cells ∧ c'.id ≠ i := by
    intro c' member'
    rw [← same]
    exact mem_without.mp member'
  constructor
  · intro c' member'
    obtain ⟨there, other⟩ := others c' member'
    have counted := owned.counted c' there
    rw [holders_cons, if_neg other] at counted
    rw [holders']
    exact counted
  · intro c' member'
    obtain ⟨there, other⟩ := others c' member'
    have held := owned.held c' there
    rw [holders_cons, if_neg other] at held
    rw [holders']
    exact held
  · intro j held
    rw [holders'] at held
    have other : j ≠ c.id := by
      rintro rfl
      rcases holders_pos.mp held with root | ⟨c', member', points⟩
      · exact dying.rootless root
      · exact dying.unreferred c' member' points
    obtain ⟨c', member', rfl⟩ : Alive h.cells j := by
      apply owned.alive
      rw [holders_cons]
      exact Nat.lt_of_lt_of_le held (Nat.le_add_right _ _)
    exact ⟨c', mem_without.mpr ⟨member', other⟩, rfl⟩
  · exact owned.nodup.sublist (List.filter_sublist.map _)
  · exact fun c' member' => owned.older c' (others c' member').1
  · exact fun c' member' => owned.bound c' (others c' member').1

/-- A property that every destructor keeps when it runs on an object nothing points to any more is kept by
    letting go. -/
theorem release {P : List (Cell K) → S → Prop} {destruct : Cell K → S → S}
    (destroys : ∀ cells s c, Dying refs cells roots c → P cells s → P (Arc.without c cells) (destruct c s))
    {s : S} (owned : Owned refs h (work ++ roots)) (start : P h.cells s) :
    Owned refs (h.release refs destruct work s).1 roots ∧
      P (h.release refs destruct work s).1.cells (h.release refs destruct work s).2 := by
  fun_induction Heap.release refs destruct work h s with
  | case1 => exact ⟨owned, start⟩
  | case2 i work h s missing =>
    refine absurd (owned.alive i ?_) (Heap.lookup_none missing)
    exact holders_pos.mpr (.inl List.mem_cons_self)
  | case3 i work h s c found last ih =>
    obtain ⟨member, same⟩ := Heap.lookup_mem found
    have fewer : ∀ j ∈ roots, j ∈ work ++ roots := fun j => List.mem_append_right work
    apply ih
    · rw [List.append_assoc]
      exact owned.remove member same last
    · exact destroys _ _ _ ((owned.dying member same last).mono fewer) start
  | case4 i work h s c found shared ih => exact ih (owned.drop (fun _ _ _ => shared)) start

end Owned

end Arc
