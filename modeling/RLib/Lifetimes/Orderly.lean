import RLib.Lifetimes

namespace RLib.Lifetimes

open Arc Run

namespace Program

variable {cells : List (Cell Obj)} {d : Device} {rest : List Nat} {p : Program}

structure Tidy (cells : List (Cell Obj)) (d : Device) : Prop where
  inOrder : d.misused = false
  kept : ∀ c ∈ cells, ∀ x ∈ items c, x ∈ d.held
  owned : ∀ x ∈ d.held, (x.verb = .targetCq ∧ x.needs = []) ∨ ∃ c ∈ cells, x ∈ items c
  unpointed : ∀ c ∈ cells, ∀ i ∈ c.kind.refs, ∀ t ∈ cells, t.id = i → t.kind.isDc = false
  nics : ∀ t ∈ cells, ∀ made nic, t.kind = .DCTarget made nic → 2 ≤ made → ∃ c ∈ cells, c.id = nic ∧ c.kind.isNic
  whole : ∀ c ∈ cells, c.kind.forsakes = false

/-- The pointers in `rest` lead to what they must for it to stay so. -/
structure Led (cells : List (Cell Obj)) (rest : List Nat) : Prop where
  nics : ∀ t ∈ cells, ∀ made nic, t.kind = .DCTarget made nic → 2 ≤ made → Reach Obj.refs cells rest nic
  faulty : ∀ t ∈ cells, t.kind.faulty → t.id ∈ rest

theorem Led.without {c : Cell Obj} (led : Led cells rest) (dying : Dying Obj.refs cells rest c) :
    Led (without c cells) rest where
  nics t member made nic is two := (led.nics t (mem_without.mp member).1 made nic is two).without dying
  faulty t member := led.faulty t (mem_without.mp member).1

theorem Led.sound {c : Cell Obj} (led : Led cells rest) (dying : Dying Obj.refs cells rest c) :
    c.kind.faulty = false := by
  by_contra faulty
  exact dying.rootless (led.faulty c dying.member (by simpa using faulty))

theorem Tidy.free {c : Cell Obj} (tidy : Tidy cells d) (led : Led cells rest) (dying : Dying Obj.refs cells rest c)
    {y : Item} (there : y ∈ d.held) (other : y ∉ doomed c) {x : Item} (member : x ∈ doomed c) :
    (x.verb, x.owner) ∉ y.needs := by
  intro needed
  rw [items_owner (doomed_items member)] at needed
  rcases tidy.owned y there with ⟨_, none⟩ | ⟨c', member', own⟩
  · simp [none] at needed
  · rcases needs_owner own needed with same | points | ⟨made, is, two⟩
    · obtain rfl := dying.single c' member' same.symm
      rcases items_doomed (tidy.whole c' member') own with gone | ⟨_, none⟩
      · exact other gone
      · simp [none] at needed
    · exact dying.unreferred c' member' points
    · exact dying.unreached (led.nics c' member' made c.id is two)

theorem Tidy.destruct_inOrder {c : Cell Obj} (tidy : Tidy cells d) (led : Led cells rest)
    (dying : Dying Obj.refs cells rest c) : (d.destruct c).misused = false := by
  have sound := led.sound dying
  have plain : ∀ x ∈ doomed c, (x.verb, x.owner) ∉ x.needs := by
    intro x member
    obtain ⟨v, _, rfl⟩ := List.mem_map.mp member
    exact item_plain c v
  rw [destruct_eq (Obj.unset_of_faulty sound)]
  apply Device.destroyAll_inOrder (doomed_nodup sound) _ _ (doomed_ordered sound) plain tidy.inOrder
  · exact fun x member => tidy.kept c dying.member x (doomed_items member)
  · exact fun y there other x member => tidy.free led dying there other member

theorem Tidy.destruct {c : Cell Obj} (tidy : Tidy cells d) (led : Led cells rest)
    (dying : Dying Obj.refs cells rest c) : Tidy (without c cells) (d.destruct c) := by
  have destroyed := destruct_eq (Obj.unset_of_faulty (led.sound dying)) d
  refine ⟨tidy.destruct_inOrder led dying, ?_, ?_, ?_, ?_, ?_⟩
  · intro c' member' x own
    obtain ⟨member', other⟩ := mem_without.mp member'
    rw [destroyed, Device.destroyAll_held]
    refine ⟨tidy.kept c' member' x own, ?_⟩
    intro gone
    exact other ((items_owner own).symm.trans (items_owner (doomed_items gone)))
  · intro x there
    rw [destroyed, Device.destroyAll_held] at there
    obtain ⟨there, stays⟩ := there
    rcases tidy.owned x there with left | ⟨c', member', own⟩
    · exact .inl left
    · by_cases same : c'.id = c.id
      · obtain rfl := dying.single c' member' same
        exact .inl ((items_doomed (tidy.whole c' member') own).resolve_left stays)
      · exact .inr ⟨c', mem_without.mpr ⟨member', same⟩, own⟩
  · intro c' member' i points t member
    exact tidy.unpointed c' (mem_without.mp member').1 i points t (mem_without.mp member).1
  · intro t member made nic is two
    obtain ⟨member, _⟩ := mem_without.mp member
    obtain ⟨c', member', rfl, isNic⟩ := tidy.nics t member made nic is two
    refine ⟨c', mem_without.mpr ⟨member', ?_⟩, rfl, isNic⟩
    intro same
    exact dying.unreached (same ▸ led.nics t member made c'.id is two)
  · exact fun c' member' => tidy.whole c' (mem_without.mp member').1

structure Inv (p : Program) : Prop where
  owned : Owned Obj.refs p.heap p.handles
  tidy : Tidy p.heap.cells p.device
  led : Led p.heap.cells p.handles

theorem Inv.orderly (inv : Inv p) : Orderly p where
  inOrder := inv.tidy.inOrder
  reached _ := inv.owned.alive_iff
  kept := inv.tidy.kept
  owned x there := (inv.tidy.owned x there).imp_left And.left
  nothing none x there := by
    rcases inv.tidy.owned x there with ⟨left, _⟩ | ⟨c, member, _⟩
    · exact left
    · have reached := inv.owned.alive_iff.mp ⟨c, member, rfl⟩
      rw [none] at reached
      exact absurd reached not_reach_nil

theorem start_inv : Inv {} := by
  refine ⟨Owned.empty, ⟨rfl, ?_, ?_, ?_, ?_, ?_⟩, ?_, ?_⟩ <;> simp

theorem handles_perm {i : Nat} (held : i ∈ p.handles) : p.handles.Perm ([i] ++ p.handles.erase i) :=
  List.perm_cons_erase held

theorem Inv.letGo (inv : Inv p) {i : Nat} (held : i ∈ p.handles)
    (led : Led p.heap.cells (p.handles.erase i)) : Inv (p.letGo i) := by
  let kept (cells : List (Cell Obj)) (d : Device) := Tidy cells d ∧ Led cells (p.handles.erase i)
  have destroys : ∀ cells d c, Dying Obj.refs cells (p.handles.erase i) c → kept cells d →
      kept (without c cells) (d.destruct c) := by
    rintro cells d c dying ⟨tidy, led⟩
    exact ⟨tidy.destruct led dying, led.without dying⟩
  obtain ⟨owned, tidy, led⟩ := (inv.owned.perm (handles_perm held)).release destroys ⟨inv.tidy, led⟩
  exact ⟨owned, tidy, led⟩

theorem Inv.dc_held (inv : Inv p) {t : Cell Obj} (member : t ∈ p.heap.cells) (dc : t.kind.isDc) : t.id ∈ p.handles := by
  rcases holders_pos.mp (inv.owned.held t member) with root | ⟨c, member', points⟩
  · exact root
  · simp [inv.tidy.unpointed c member' t.id points t member rfl] at dc

theorem Inv.led_rest (inv : Inv p) {i : Nat} (held : i ∈ p.handles) (fine : ¬p.Strands (.drop i)) :
    Led p.heap.cells (p.handles.erase i) := by
  have split : ∀ j ∈ p.handles, j = i ∨ j ∈ p.handles.erase i := by
    intro j root
    exact List.mem_cons.mp ((handles_perm held).mem_iff.mp root)
  simp only [Strands, not_or, not_exists, not_and, not_not] at fine
  constructor
  · intro t member made nic is two
    have dc : t.kind.isDc := by rw [is]; rfl
    rcases split t.id (inv.dc_held member dc) with dropped | stays
    · have leaf : ∀ c ∈ p.heap.cells, c.id = i → c.kind.refs = [] := by
        intro c member' same
        rw [inv.owned.single member member' (same.trans dropped.symm), is, Obj.refs]
      rcases (inv.led.nics t member made nic is two).of_leaf split leaf with same | reached
      · obtain ⟨c, member', same', isNic⟩ := inv.tidy.nics t member made nic is two
        obtain rfl := inv.owned.single member member' (same'.trans (same.trans dropped.symm))
        simp [is, Obj.isNic] at isNic
      · exact reached
    · exact fine.1 t member made nic is two stays
  · intro t member faulty
    rcases split t.id (inv.dc_held member (Obj.isDc_of_faulty faulty)) with dropped | stays
    · rw [dropped]
      exact fine.2 t member dropped faulty
    · exact stays

theorem Inv.stranded_nic (inv : Inv p) {i : Nat} (held : i ∈ p.handles) {t : Cell Obj} (member : t ∈ p.heap.cells)
    {made nic : Nat} (is : t.kind = .DCTarget made nic) (two : 2 ≤ made) (stays : t.id ∈ p.handles.erase i)
    (cut : ¬Reach Obj.refs p.heap.cells (p.handles.erase i) nic) : ¬(p.letGo i).Orderly := by
  obtain ⟨c, there, rfl, isNic⟩ := inv.tidy.nics t member made nic is two
  have srq : item t .srq ∈ items t := by
    obtain ⟨id, kind⟩ := t
    cases is
    obtain ⟨n, rfl⟩ := Nat.exists_eq_add_of_le' two
    simp [items, Obj.calls, Obj.made]
  have needed : (Verb.domain, c.id) ∈ (item t .srq).needs := by simp [item, is]
  let kept (cells : List (Cell Obj)) (d : Device) := (∀ c' ∈ cells, c' ∈ p.heap.cells) ∧
    (d.misused = true ∨ c ∈ cells ∧ t ∈ cells ∧ item t .srq ∈ d.held)
  have destroys : ∀ cells d c', Dying Obj.refs cells (p.handles.erase i) c' → kept cells d →
      kept (without c' cells) (d.destruct c') := by
    rintro cells d c' dying ⟨fewer, misused | ⟨nicThere, targetThere, srqHeld⟩⟩
    · exact ⟨fun _ inside => fewer _ (mem_without.mp inside).1, .inl (Device.destruct_misused misused)⟩
    · refine ⟨fun _ inside => fewer _ (mem_without.mp inside).1, ?_⟩
      by_cases unset : c'.kind.unset
      · exact .inl (by simp [Device.destruct, unset])
      by_cases same : c.id = c'.id
      · left
        obtain rfl := dying.single c nicThere same
        rw [destruct_eq (by simpa using unset), nic_doomed isNic, List.foldl_cons]
        apply Device.destroyAll_misused
        by_contra inOrder
        rw [Bool.not_eq_true, Device.destroy_misused] at inOrder
        exact inOrder.2.2 _ srqHeld needed
      · have other : t.id ≠ c'.id := fun same => dying.rootless (same ▸ stays)
        refine .inr ⟨mem_without.mpr ⟨nicThere, same⟩, mem_without.mpr ⟨targetThere, other⟩, ?_⟩
        rw [destruct_eq (by simpa using unset), Device.destroyAll_held]
        exact ⟨srqHeld, fun gone => other (items_owner (doomed_items gone))⟩
  obtain ⟨owned, fewer, left⟩ := (inv.owned.perm (handles_perm held)).release destroys
    ⟨fun _ inside => inside, .inr ⟨there, member, inv.tidy.kept t member _ srq⟩⟩
  intro orderly
  rcases left with misused | ⟨stillThere, _⟩
  · exact absurd (misused.symm.trans orderly.inOrder) (by simp)
  · apply cut
    exact (owned.alive_iff.mp ⟨c, stillThere, rfl⟩).mono fewer (fun _ root => root)

theorem Inv.stranded_faulty (inv : Inv p) {i : Nat} (held : i ∈ p.handles) {t : Cell Obj} (member : t ∈ p.heap.cells)
    (same : t.id = i) (faulty : t.kind.faulty) (last : i ∉ p.handles.erase i) : ¬(p.letGo i).Orderly := by
  have dc := Obj.isDc_of_faulty faulty
  let kept (cells : List (Cell Obj)) (d : Device) := (∀ c ∈ cells, c ∈ p.heap.cells) ∧ (d.misused = true ∨ t ∈ cells)
  have destroys : ∀ cells d c, Dying Obj.refs cells (p.handles.erase i) c → kept cells d →
      kept (without c cells) (d.destruct c) := by
    rintro cells d c dying ⟨fewer, left⟩
    refine ⟨fun _ inside => fewer _ (mem_without.mp inside).1, ?_⟩
    rcases left with misused | there
    · exact .inl (Device.destruct_misused misused)
    · by_cases own : t.id = c.id
      · obtain rfl := dying.single t there own
        exact .inl (faulty_misused faulty d)
      · exact .inr (mem_without.mpr ⟨there, own⟩)
  obtain ⟨owned, fewer, left⟩ := (inv.owned.perm (handles_perm held)).release destroys
    ⟨fun _ inside => inside, .inr member⟩
  intro orderly
  rcases left with misused | there
  · exact absurd (misused.symm.trans orderly.inOrder) (by simp)
  · have reached := owned.alive_iff.mp ⟨t, there, same⟩
    cases reached with
    | root root => exact last root
    | @ref c _ member' _ points =>
      simp [inv.tidy.unpointed c (fewer c member') i points t member same] at dc

theorem holds_cases {i : Nat} {is : Obj → Bool} (holds : p.holds i is) :
    i ∈ p.handles ∧ ∃ c ∈ p.heap.cells, c.id = i ∧ is c.kind := by
  simp only [Program.holds, Bool.and_eq_true, decide_eq_true_eq, Option.any_eq_true] at holds
  obtain ⟨held, c, found, kind⟩ := holds
  obtain ⟨member, same⟩ := Heap.lookup_mem found
  exact ⟨held, c, member, same, kind⟩

theorem given_refs {o : Obj} (given : p.given o) {i : Nat} (points : i ∈ o.refs) :
    ∃ c ∈ p.heap.cells, c.id = i ∧ c.kind.isDc = false := by
  have plain : ∀ is : Obj → Bool, (∀ o, is o → o.isDc = false) → p.holds i is →
      ∃ c ∈ p.heap.cells, c.id = i ∧ c.kind.isDc = false := by
    intro is notDc holds
    obtain ⟨_, c, member, same, kind⟩ := holds_cases holds
    exact ⟨c, member, same, notDc _ kind⟩
  have nic : ∀ o : Obj, o.isNic → o.isDc = false := by
    intro o
    cases o <;> simp [Obj.isNic, Obj.isDc]
  have mem : ∀ o : Obj, o.isMem → o.isDc = false := by
    intro o
    cases o <;> simp [Obj.isMem, Obj.isDc]
  cases o with
  | RegHandler made mem' nic' =>
    simp only [Program.given, Bool.and_eq_true] at given
    simp only [Obj.refs, List.mem_cons, List.not_mem_nil, or_false] at points
    rcases points with rfl | rfl
    · exact plain _ mem given.1
    · exact plain _ nic given.2
  | RC made recv nic' | UD made ready nic' | DC made ready nic' =>
    obtain rfl : i = nic' := by simpa [Obj.refs] using points
    exact plain _ nic given
  | _ => simp [Obj.refs] at points

theorem Inv.owned_make (inv : Inv p) {o : Obj} (given : p.given o) :
    Owned Obj.refs (p.heap.make Obj.refs o) (p.heap.fresh :: p.handles) := by
  apply inv.owned.make
  intro i points
  obtain ⟨c, member, same, _⟩ := given_refs given points
  exact ⟨c, member, same⟩

theorem Inv.tidy_make (inv : Inv p) {o : Obj} (given : p.given o) (whole : o.forsakes = false) :
    Tidy (p.heap.make Obj.refs o).cells (p.device.acquire ⟨p.heap.fresh, o⟩) := by
  have older : ∀ c ∈ p.heap.cells, c.id ≠ p.heap.fresh := fun c member => Nat.ne_of_lt (inv.owned.bound c member)
  refine ⟨inv.tidy.inOrder, ?_, ?_, ?_, ?_, List.forall_mem_cons.mpr ⟨whole, inv.tidy.whole⟩⟩
  · intro c member x own
    apply List.mem_append.mpr
    rcases List.mem_cons.mp member with rfl | member
    · exact .inl own
    · exact .inr (inv.tidy.kept c member x own)
  · intro x there
    rcases List.mem_append.mp there with own | there
    · exact .inr ⟨_, List.mem_cons_self, own⟩
    · rcases inv.tidy.owned x there with left | ⟨c, member, own⟩
      · exact .inl left
      · exact .inr ⟨c, List.mem_cons_of_mem _ member, own⟩
  · intro c member i points t member' same
    have target : ∃ c' ∈ p.heap.cells, c'.id = i ∧ (∀ t ∈ p.heap.cells, t.id = i → t.kind.isDc = false) := by
      rcases List.mem_cons.mp member with rfl | member
      · obtain ⟨c', there, same', notDc⟩ := given_refs given points
        refine ⟨c', there, same', ?_⟩
        intro t member' same
        rw [inv.owned.single there member' (same.trans same'.symm)]
        exact notDc
      · obtain ⟨c', there, same'⟩ := inv.owned.alive i (holders_pos.mpr (.inr ⟨c, member, points⟩))
        exact ⟨c', there, same', inv.tidy.unpointed c member i points⟩
    obtain ⟨c', there, same', notDc⟩ := target
    rcases List.mem_cons.mp member' with rfl | member'
    · exact absurd (same'.trans same.symm) (older c' there)
    · exact notDc t member' same
  · intro t member made nic is two
    have nicThere : ∃ c ∈ p.heap.cells, c.id = nic ∧ c.kind.isNic := by
      rcases List.mem_cons.mp member with rfl | member
      · change o = _ at is
        subst is
        exact (holds_cases given).2
      · exact inv.tidy.nics t member made nic is two
    obtain ⟨c, there, found⟩ := nicThere
    exact ⟨c, List.mem_cons_of_mem _ there, found⟩

/-- The pointers lead to what they must again when a new object joins, with a pointer to it if it is a
    `DCTarget` or a `DC`. -/
theorem Inv.led_make (inv : Inv p) {o : Obj} (given : p.given o) {roots : List Nat} (wider : ∀ i ∈ p.handles, i ∈ roots)
    (own : o.isDc → p.heap.fresh ∈ roots) : Led (p.heap.make Obj.refs o).cells roots := by
  constructor
  · intro t member made nic is two
    rcases List.mem_cons.mp member with rfl | member
    · change o = _ at is
      subst is
      exact .root (wider nic (holds_cases given).1)
    · exact (inv.led.nics t member made nic is two).mono (fun _ => List.mem_cons_of_mem _) wider
  · intro t member faulty
    rcases List.mem_cons.mp member with rfl | member
    · exact own (Obj.isDc_of_faulty faulty)
    · exact wider _ (inv.led.faulty t member faulty)

theorem Inv.make (inv : Inv p) {o : Obj} (given : p.given o) (whole : o.forsakes = false) : Inv (p.make o) where
  owned := inv.owned_make given
  tidy := inv.tidy_make given whole
  led := inv.led_make given (fun _ => List.mem_cons_of_mem _) (fun _ => List.mem_cons_self)

theorem Inv.makeValid (inv : Inv p) {o : Obj} (given : p.given o) (plain : o.isDc = false)
    (whole : o.forsakes = false) : Inv (p.makeValid o) := by
  unfold Program.makeValid
  split
  · exact inv.make given whole
  · apply (inv.make given whole).letGo List.mem_cons_self
    change Led _ ((p.heap.fresh :: p.handles).erase p.heap.fresh)
    rw [List.erase_cons_head]
    exact inv.led_make given (fun _ root => root) (fun dc => by simp [plain] at dc)

theorem Inv.lost_target (inv : Inv p) {made nic : Nat} (valid : (Obj.DCTarget made nic).valid) :
    ¬(p.makeLost (.DCTarget made nic)).Orderly := by
  intro orderly
  have three : 3 ≤ made := by simpa [Obj.valid, Obj.calls, Obj.made] using valid
  obtain ⟨n, rfl⟩ := Nat.exists_eq_add_of_le' three
  have srq : item ⟨p.heap.fresh, .DCTarget (n + 3) nic⟩ .srq ∈ items ⟨p.heap.fresh, .DCTarget (n + 3) nic⟩ := by
    simp [items, Obj.calls, Obj.made]
  rcases orderly.owned _ (List.mem_append_left _ srq) with left | ⟨c, member, own⟩
  · cases left
  · exact absurd (items_owner own).symm (Nat.ne_of_lt (inv.owned.bound c member))

theorem Inv.forsaken_cq (inv : Inv p) {made nic : Nat} {recv : Bool} (given : p.given (.RC made recv nic))
    (forsakes : (Obj.RC made recv nic).forsakes) : ¬(p.makeValid (.RC made recv nic)).Orderly := by
  obtain ⟨rfl, rfl⟩ : recv = true ∧ made = 1 := by simpa [Obj.forsakes] using forsakes
  have owned := inv.owned_make given
  let cq := item ⟨p.heap.fresh, .RC 1 true nic⟩ .recvCq
  have older : ∀ c ∈ p.heap.cells, c.id ≠ p.heap.fresh := fun c member => Nat.ne_of_lt (inv.owned.bound c member)
  let kept (cells : List (Cell Obj)) (d : Device) :=
    (∀ c ∈ cells, c ∈ (p.heap.make Obj.refs (.RC 1 true nic)).cells) ∧ (d.misused = true ∨ cq ∈ d.held)
  have destroys : ∀ cells d c, Dying Obj.refs cells p.handles c → kept cells d →
      kept (without c cells) (d.destruct c) := by
    rintro cells d c dying ⟨fewer, left⟩
    refine ⟨fun _ inside => fewer _ (mem_without.mp inside).1, ?_⟩
    rcases left with misused | there
    · exact .inl (Device.destruct_misused misused)
    by_cases unset : c.kind.unset
    · exact .inl (by simp [Device.destruct, unset])
    right
    rw [destruct_eq (by simpa using unset), Device.destroyAll_held]
    refine ⟨there, ?_⟩
    intro gone
    rcases List.mem_cons.mp (fewer c dying.member) with rfl | member
    · simp [doomed, Obj.destroys, Obj.calls, Obj.made] at gone
    · exact older c member (items_owner (doomed_items gone)).symm
  have first : kept (p.heap.make Obj.refs (.RC 1 true nic)).cells (p.make (.RC 1 true nic)).device :=
    ⟨fun _ inside => inside, .inr (List.mem_append_left _ (by simp [cq, items, Obj.calls, Obj.made]))⟩
  obtain ⟨owned', fewer, left⟩ := (owned.perm (List.Perm.refl ([p.heap.fresh] ++ p.handles))).release destroys first
  have invalid : p.makeValid (.RC 1 true nic) = (p.make (.RC 1 true nic)).letGo p.heap.fresh :=
    if_neg (by simp [Obj.valid, Obj.calls, Obj.made])
  rw [invalid]
  intro orderly
  rcases left with misused | there
  · exact absurd (misused.symm.trans orderly.inOrder) (by simp)
  rcases orderly.owned cq there with target | ⟨c, member, own⟩
  · cases target
  have same : c.id = p.heap.fresh := (items_owner own).symm
  have reached := owned'.alive_iff.mp ⟨c, member, same⟩
  cases reached with
  | root held =>
    obtain ⟨c', member', same'⟩ := inv.owned.alive_iff.mpr (.root held)
    exact older c' member' same'
  | @ref c' _ member' _ points =>
    rcases List.mem_cons.mp (fewer c' member') with rfl | member'
    · obtain ⟨c'', there'', same'', _⟩ := given_refs given points
      exact older c'' there'' same''
    · obtain ⟨c'', there'', same''⟩ := inv.owned.alive _ (holders_pos.mpr (.inr ⟨c', member', points⟩))
      exact older c'' there'' same''

theorem Inv.clone (inv : Inv p) {i : Nat} (held : i ∈ p.handles) :
    Inv { p with heap := p.heap.clone i, handles := i :: p.handles } where
  owned := inv.owned.clone (inv.owned.alive_iff.mpr (.root held))
  tidy := inv.tidy
  led := {
    nics := fun t member made nic is two =>
      (inv.led.nics t member made nic is two).mono (fun _ there => there) (fun _ => List.mem_cons_of_mem _)
    faulty := fun t member faulty => List.mem_cons_of_mem _ (inv.led.faulty t member faulty) }

theorem Inv.step (inv : Inv p) {e : Event} {p' : Program} (happens : p.step e = some p') :
    (p'.Orderly ↔ ¬p.Strands e) ∧ (¬p.Strands e → Inv p') := by
  have quiet (inv' : Inv p') (still : ¬p.Strands e) : (p'.Orderly ↔ ¬p.Strands e) ∧ (¬p.Strands e → Inv p') :=
    ⟨iff_of_true inv'.orderly still, fun _ => inv'⟩
  cases e with
  | construct o =>
    cases o with
    | RMem made =>
      cases happens
      exact quiet (inv.make rfl rfl) not_false
    | RegHandler made mem nic =>
      simp only [Program.step, Option.ite_none_right_eq_some, Option.some.injEq] at happens
      obtain ⟨given, rfl⟩ := happens
      exact quiet (inv.make given rfl) not_false
    | _ => cases happens
  | create o =>
    cases o with
    | RMem made => cases happens
    | UD made ready nic =>
      simp only [Program.step, Option.ite_none_right_eq_some, Option.some.injEq, Bool.and_eq_true] at happens
      obtain ⟨⟨given, _⟩, rfl⟩ := happens
      exact quiet (inv.makeValid given rfl rfl) not_false
    | DCTarget made nic =>
      simp only [Program.step, Option.ite_none_right_eq_some] at happens
      obtain ⟨given, happens⟩ := happens
      split at happens
      · rename_i throws
        cases happens
        have strands : p.Strands (.create (.DCTarget made nic)) := by simpa [Strands] using throws
        exact ⟨iff_of_false (inv.lost_target (by simp_all)) (not_not_intro strands), fun fine => absurd strands fine⟩
      · rename_i stays
        cases happens
        exact quiet (inv.make given rfl) (by simpa [Strands] using stays)
    | RC made recv nic =>
      simp only [Program.step, Option.ite_none_right_eq_some, Option.some.injEq] at happens
      obtain ⟨given, rfl⟩ := happens
      cases whole : (Obj.RC made recv nic).forsakes with
      | false => exact quiet (inv.makeValid given rfl whole) (by simp [Strands, whole])
      | true => exact ⟨iff_of_false (inv.forsaken_cq given whole) (not_not_intro whole), fun fine => absurd whole fine⟩
    | DC made ready nic =>
      simp only [Program.step, Option.ite_none_right_eq_some, Option.some.injEq, Bool.and_eq_true] at happens
      obtain ⟨⟨given, _⟩, rfl⟩ := happens
      exact quiet (inv.make given rfl) not_false
    | _ =>
      simp only [Program.step, Option.ite_none_right_eq_some, Option.some.injEq] at happens
      obtain ⟨given, rfl⟩ := happens
      exact quiet (inv.makeValid given rfl rfl) not_false
  | clone i =>
    simp only [Program.step, Option.ite_none_right_eq_some, Option.some.injEq] at happens
    obtain ⟨held, rfl⟩ := happens
    exact quiet (inv.clone held) not_false
  | drop i =>
    simp only [Program.step, Option.ite_none_right_eq_some, Option.some.injEq] at happens
    obtain ⟨held, rfl⟩ := happens
    have kept : ¬p.Strands (.drop i) → Inv (p.letGo i) := fun fine => inv.letGo held (inv.led_rest held fine)
    refine ⟨⟨?_, fun fine => (kept fine).orderly⟩, kept⟩
    rintro orderly (⟨t, member, made, nic, is, two, stays, cut⟩ | ⟨t, member, same, faulty, last⟩)
    · exact inv.stranded_nic held member is two stays cut orderly
    · exact inv.stranded_faulty held member same faulty last orderly

end Program

end RLib.Lifetimes
