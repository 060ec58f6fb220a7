import RLib.Foundation.Arc
import RLib.Foundation.Run

namespace RLib.Lifetimes

open Arc Run

/-- What a constructor gets from the verbs library, or from the allocator of the memory. -/
inductive Verb where
  | context | domain | buffer | region | sendCq | recvCq | queuePair | targetCq | srq | target
deriving DecidableEq

/-- The objects that programs hold by an `Arc`, with the ids of the objects they are made with. `made` of the calls
    succeeded before one failed. With `recv` the program makes a receive CQ for the `RC` alone and then gives it to
    `create`. -/
inductive Obj where
  | RNic (made : Nat) (lid : Bool)
  | RMem (made : Nat)
  | RegHandler (made mem nic : Nat)
  | RC (made : Nat) (recv : Bool) (nic : Nat)
  | UD (made : Nat) (ready : Bool) (nic : Nat)
  | DCTarget (made nic : Nat)
  | DC (made : Nat) (ready : Bool) (nic : Nat)
deriving DecidableEq

namespace Obj

def calls : Obj → List Verb
  | RNic .. => [.context, .domain]
  | RMem .. => [.buffer]
  | RegHandler .. => [.region]
  | RC _ recv _ => (if recv then [.recvCq] else []) ++ [.sendCq, .queuePair]
  | DC .. => [.sendCq, .queuePair]
  | UD .. => [.sendCq, .recvCq, .queuePair]
  | DCTarget .. => [.targetCq, .srq, .target]

def made : Obj → Nat
  | RNic made _ | RMem made | RegHandler made _ _ | RC made _ _ | UD made _ _ | DCTarget made _ | DC made _ _ => made

def valid (o : Obj) : Bool := o.calls.length ≤ o.made

/-- What the destructor destroys, in its order. An `RC` takes over its receive CQ when it has its send CQ. A `DCTarget`
    does not keep its CQ, and what `~DC` destroys `~Dummy` destroys again. -/
def destroys : Obj → List Verb
  | RNic .. => [.domain, .context]
  | RMem .. => [.buffer]
  | RegHandler .. => [.region]
  | RC made recv _ => [.queuePair, .sendCq] ++ if recv && 2 ≤ made then [.recvCq] else []
  | UD .. => [.queuePair, .sendCq, .recvCq]
  | DCTarget .. => [.target, .srq]
  | DC .. => [.queuePair, .sendCq, .queuePair, .sendCq]

/-- The members that are `Arc`s, the last one declared first. A `DCTarget` has none. -/
def refs : Obj → List Nat
  | RNic .. | RMem .. | DCTarget .. => []
  | RegHandler _ mem nic => [mem, nic]
  | RC _ _ nic | UD _ _ nic | DC _ _ nic => [nic]

def isNic : Obj → Bool
  | RNic made lid => (RNic made lid).valid
  | _ => false

def isMem : Obj → Bool
  | RMem _ => true
  | _ => false

def isDc : Obj → Bool
  | DCTarget .. | DC .. => true
  | _ => false

/-- A `DCTarget` whose constructor returned early: `dct`, and perhaps `srq`, were never set. -/
def unset : Obj → Bool
  | DCTarget made nic => !(DCTarget made nic).valid
  | _ => false

/-- An `RC` whose constructor returned before it took over its receive CQ. -/
def forsakes : Obj → Bool
  | RC made recv _ => recv && made = 1
  | _ => false

/-- An object that cannot be destroyed in order: such a `DCTarget`, or a `DC` that has a CQ. -/
def faulty : Obj → Bool
  | DC made _ _ => 0 < made
  | o => o.unset

end Obj

/-- Something that has to be given back, and what it is made in or from. -/
structure Item where
  verb : Verb
  owner : Nat
  needs : List (Verb × Nat) := []
deriving DecidableEq

/-- Nothing waits for the CQ of a `DCTarget`: the device is closed with it. -/
def item (c : Cell Obj) (v : Verb) : Item where
  verb := v
  owner := c.id
  needs := match c.kind, v with
    | .RNic .., .domain => [(.context, c.id)]
    | .RegHandler _ mem nic, .region => [(.domain, nic), (.buffer, mem)]
    | .RC _ recv nic, .queuePair => [(.domain, nic), (.sendCq, c.id)] ++ if recv then [(.recvCq, c.id)] else []
    | .RC _ _ nic, .sendCq => [(.context, nic)]
    | .RC _ _ nic, .recvCq => [(.context, nic)]
    | .UD _ _ nic, .queuePair => [(.domain, nic), (.sendCq, c.id), (.recvCq, c.id)]
    | .UD _ _ nic, .sendCq => [(.context, nic)]
    | .UD _ _ nic, .recvCq => [(.context, nic)]
    | .DC _ _ nic, .queuePair => [(.domain, nic), (.sendCq, c.id)]
    | .DC _ _ nic, .sendCq => [(.context, nic)]
    | .DCTarget _ nic, .srq => [(.domain, nic)]
    | .DCTarget _ nic, .target => [(.domain, nic), (.srq, c.id)]
    | _, _ => []

def items (c : Cell Obj) : List Item := (c.kind.calls.take c.kind.made).map (item c)

/-- What the program has of the verbs library, and whether it ever destroyed something it did not have any more or
    that something else still needed. -/
structure Device where
  held : List Item := []
  misused : Bool := false
deriving DecidableEq

namespace Device

def acquire (c : Cell Obj) (d : Device) : Device := { d with held := items c ++ d.held }

def destroy (d : Device) (x : Item) : Device where
  held := d.held.filter (fun y => y ≠ x)
  misused := d.misused || !d.held.contains x || d.held.any (fun y => y.needs.contains (x.verb, x.owner))

/-- The destructor of a `DCTarget` reads `dct` and `srq` even when they were never set. -/
def destruct (c : Cell Obj) (d : Device) : Device :=
  if c.kind.unset then { d with misused := true }
  else ((c.kind.destroys.filter (fun v => v ∈ c.kind.calls.take c.kind.made)).map (item c)).foldl destroy d

end Device

structure Program where
  heap : Heap Obj := {}
  handles : List Nat := []
  device : Device := {}

/-- `construct` is `Arc<T>(new T(..))`, `create` is `T::create`. -/
inductive Event where
  | construct (o : Obj)
  | create (o : Obj)
  | clone (i : Nat)
  | drop (i : Nat)

namespace Program

def holds (p : Program) (i : Nat) (is : Obj → Bool) : Bool :=
  i ∈ p.handles && (p.heap.lookup i).any (fun c => is c.kind)

def given (p : Program) : Obj → Bool
  | .RNic .. | .RMem .. => true
  | .RegHandler _ mem nic => p.holds mem Obj.isMem && p.holds nic Obj.isNic
  | .RC _ _ nic | .UD _ _ nic | .DCTarget _ nic | .DC _ _ nic => p.holds nic Obj.isNic

def hasLid (p : Program) (nic : Nat) : Bool :=
  (p.heap.lookup nic).any fun c => match c.kind with
    | .RNic _ lid => lid
    | _ => false

def make (o : Obj) (p : Program) : Program :=
  { p with
    heap := p.heap.make Obj.refs o
    handles := p.heap.fresh :: p.handles
    device := p.device.acquire ⟨p.heap.fresh, o⟩ }

/-- The constructor throws when it is done with the verbs library: there is no object and no destructor for what it
    got. -/
def makeLost (o : Obj) (p : Program) : Program :=
  { p with
    heap := { p.heap with fresh := p.heap.fresh + 1 }
    device := p.device.acquire ⟨p.heap.fresh, o⟩ }

def letGo (i : Nat) (p : Program) : Program :=
  let (heap, device) := p.heap.release Obj.refs Device.destruct [i] p.device
  { p with heap := heap, handles := p.handles.erase i, device := device }

/-- An object that is not valid goes again before `create` returns. -/
def makeValid (o : Obj) (p : Program) : Program :=
  if o.valid then p.make o else (p.make o).letGo p.heap.fresh

def step (p : Program) (e : Event) : Option Program :=
  match e with
  | .construct (.RMem made) => some (p.make (.RMem made))
  | .construct (.RegHandler made mem nic) =>
    if p.given (.RegHandler made mem nic) then some (p.make (.RegHandler made mem nic)) else none
  | .construct _ => none
  | .create (.RMem _) => none
  | .create (.UD made ready nic) =>
    -- the constructor aborts when a queue pair that is there does not become ready
    if p.given (.UD made ready nic) && (ready || !(Obj.UD made ready nic).valid) then
      some (p.makeValid (.UD made ready nic))
    else none
  | .create (.DCTarget made nic) =>
    if p.given (.DCTarget made nic) then
      -- `lid.value()` throws
      if (Obj.DCTarget made nic).valid && !p.hasLid nic then some (p.makeLost (.DCTarget made nic))
      else some (p.make (.DCTarget made nic))
    else none
  | .create (.DC made ready nic) =>
    -- as for a `UD`, but `create` returns what is not valid as well
    if p.given (.DC made ready nic) && (ready || !(Obj.DC made ready nic).valid) then some (p.make (.DC made ready nic))
    else none
  | .create o => if p.given o then some (p.makeValid o) else none
  | .clone i =>
    if i ∈ p.handles then some { p with heap := p.heap.clone i, handles := i :: p.handles } else none
  | .drop i => if i ∈ p.handles then some (p.letGo i) else none

/-- Everything is destroyed once, after all that is made in it or from it and as soon as no pointer leads to its
    owner. Only the CQs of `DCTarget`s stay, also when no pointer is left. -/
structure Orderly (p : Program) : Prop where
  inOrder : p.device.misused = false
  reached : ∀ i, Alive p.heap.cells i ↔ Reach Obj.refs p.heap.cells p.handles i
  kept : ∀ c ∈ p.heap.cells, ∀ x ∈ items c, x ∈ p.device.held
  owned : ∀ x ∈ p.device.held, x.verb = .targetCq ∨ ∃ c ∈ p.heap.cells, x ∈ items c
  nothing : p.handles = [] → ∀ x ∈ p.device.held, x.verb = .targetCq

/-- The pointer that goes is the last one that leads to the NIC of a `DCTarget` the program keeps, to a `DCTarget`
    whose creation failed, or to a `DC` with a CQ; an `RC` forsakes its receive CQ; or the constructor of a `DCTarget`
    throws because its NIC has no LID. -/
def Strands (p : Program) : Event → Prop
  | .drop i =>
    (∃ t ∈ p.heap.cells, ∃ made nic, t.kind = .DCTarget made nic ∧ 2 ≤ made ∧ t.id ∈ p.handles.erase i ∧
      ¬Reach Obj.refs p.heap.cells (p.handles.erase i) nic) ∨
    ∃ t ∈ p.heap.cells, t.id = i ∧ t.kind.faulty ∧ i ∉ p.handles.erase i
  | .create (.RC made recv nic) => (Obj.RC made recv nic).forsakes
  | .create (.DCTarget made nic) => (Obj.DCTarget made nic).valid ∧ ¬p.hasLid nic
  | _ => False

end Program

namespace Device

variable {d : Device}

theorem destroy_held (x y : Item) : y ∈ (d.destroy x).held ↔ y ∈ d.held ∧ y ≠ x := by simp [destroy]

theorem destroy_misused (x : Item) : (d.destroy x).misused = false ↔
    d.misused = false ∧ x ∈ d.held ∧ ∀ y ∈ d.held, (x.verb, x.owner) ∉ y.needs := by
  simp [destroy, and_assoc]

theorem destroyAll_misused {xs : List Item} (misused : d.misused = true) : (xs.foldl destroy d).misused = true := by
  induction xs generalizing d with
  | nil => exact misused
  | cons x xs ih => exact ih (by simp [destroy, misused])

theorem destroyAll_held {xs : List Item} (y : Item) :
    y ∈ (xs.foldl destroy d).held ↔ y ∈ d.held ∧ y ∉ xs := by
  induction xs generalizing d with
  | nil => simp
  | cons x xs ih => rw [List.foldl_cons, ih, destroy_held, List.mem_cons, not_or, and_assoc]

theorem destroyAll_inOrder {xs : List Item} (nodup : xs.Nodup) (held : ∀ x ∈ xs, x ∈ d.held)
    (free : ∀ y ∈ d.held, y ∉ xs → ∀ x ∈ xs, (x.verb, x.owner) ∉ y.needs)
    (ordered : xs.Pairwise (fun x y => (x.verb, x.owner) ∉ y.needs)) (plain : ∀ x ∈ xs, (x.verb, x.owner) ∉ x.needs)
    (inOrder : d.misused = false) : (xs.foldl destroy d).misused = false := by
  induction xs generalizing d with
  | nil => exact inOrder
  | cons x xs ih =>
    obtain ⟨new, nodup⟩ := List.nodup_cons.mp nodup
    obtain ⟨first, ordered⟩ := List.pairwise_cons.mp ordered
    have inOrder' : (d.destroy x).misused = false := by
      rw [destroy_misused]
      refine ⟨inOrder, held x List.mem_cons_self, ?_⟩
      intro y there
      by_cases own : y ∈ x :: xs
      · rcases List.mem_cons.mp own with rfl | own
        · exact plain y List.mem_cons_self
        · exact first y own
      · exact free y there own x List.mem_cons_self
    apply ih nodup _ _ ordered (fun y member => plain y (List.mem_cons_of_mem _ member)) inOrder'
    · intro y member
      rw [destroy_held]
      refine ⟨held y (List.mem_cons_of_mem _ member), ?_⟩
      rintro rfl
      exact new member
    · intro y there other z member
      obtain ⟨there, own⟩ := (destroy_held x y).mp there
      apply free y there _ z (List.mem_cons_of_mem _ member)
      rw [List.mem_cons, not_or]
      exact ⟨own, other⟩

theorem destruct_misused {c : Cell Obj} (misused : d.misused = true) : (d.destruct c).misused = true := by
  unfold destruct
  split
  · rfl
  · exact destroyAll_misused misused

end Device

theorem item_inj {c : Cell Obj} {v w : Verb} : item c v = item c w ↔ v = w :=
  ⟨fun same => congrArg Item.verb same, fun same => congrArg (item c) same⟩

theorem items_owner {c : Cell Obj} {x : Item} (member : x ∈ items c) : x.owner = c.id := by
  obtain ⟨v, _, rfl⟩ := List.mem_map.mp member
  rfl

def doomed (c : Cell Obj) : List Item :=
  (c.kind.destroys.filter (fun v => v ∈ c.kind.calls.take c.kind.made)).map (item c)

theorem Obj.unset_of_faulty {o : Obj} (sound : o.faulty = false) : o.unset = false := by
  cases o <;> simp_all [Obj.faulty, Obj.unset]

theorem Obj.isDc_of_faulty {o : Obj} (faulty : o.faulty) : o.isDc := by
  cases o with
  | DCTarget | DC => rfl
  | _ => simp [Obj.faulty, Obj.unset] at faulty

theorem destruct_eq {c : Cell Obj} (set : c.kind.unset = false) (d : Device) :
    d.destruct c = (doomed c).foldl Device.destroy d := by
  simp [Device.destruct, set, doomed]

theorem doomed_items {c : Cell Obj} {x : Item} (member : x ∈ doomed c) : x ∈ items c := by
  obtain ⟨v, made, rfl⟩ := List.mem_map.mp member
  apply List.mem_map_of_mem
  simpa using (List.mem_filter.mp made).2

theorem Obj.calls_destroys {o : Obj} (whole : o.forsakes = false) {v : Verb} (called : v ∈ o.calls.take o.made) :
    v ∈ o.destroys ∨ v = .targetCq := by
  cases o with
  | RC made recv nic =>
    cases recv with
    | false => cases v <;> simp [Obj.destroys] <;> simpa [Obj.calls] using List.mem_of_mem_take called
    | true =>
      rcases made with _ | _ | made
      · simp [Obj.made] at called
      · simp [Obj.forsakes] at whole
      · cases v <;> simp [Obj.destroys] <;> simpa [Obj.calls] using List.mem_of_mem_take called
  | _ =>
    have called := List.mem_of_mem_take called
    revert called
    cases v <;> simp [Obj.calls, Obj.destroys]

theorem targetCq_needs (c : Cell Obj) : (item c .targetCq).needs = [] := by
  obtain ⟨id, kind⟩ := c
  cases kind <;> rfl

theorem items_doomed {c : Cell Obj} (whole : c.kind.forsakes = false) {x : Item} (member : x ∈ items c) :
    x ∈ doomed c ∨ x.verb = .targetCq ∧ x.needs = [] := by
  obtain ⟨v, made, rfl⟩ := List.mem_map.mp member
  rcases Obj.calls_destroys whole made with destroyed | rfl
  · exact .inl (List.mem_map_of_mem (List.mem_filter.mpr ⟨destroyed, by simpa using made⟩))
  · exact .inr ⟨rfl, targetCq_needs c⟩

theorem doomed_or {c : Cell Obj} (sound : c.kind.faulty = false) :
    doomed c = [] ∨ c.kind.destroys.Nodup ∧ c.kind.destroys.Pairwise (fun v w => (v, c.id) ∉ (item c w).needs) := by
  obtain ⟨id, kind⟩ := c
  cases kind with
  | DC made ready nic =>
    left
    obtain rfl : made = 0 := by simpa [Obj.faulty] using sound
    rfl
  | RC made recv nic =>
    right
    cases recv with
    | false => simp [Obj.destroys, item]
    | true =>
      simp only [Obj.destroys]
      split <;> simp [item]
  | _ => right; simp [Obj.destroys, item]

theorem doomed_nodup {c : Cell Obj} (sound : c.kind.faulty = false) : (doomed c).Nodup := by
  rcases doomed_or sound with none | ⟨nodup, _⟩
  · rw [none]
    exact List.nodup_nil
  · exact (nodup.filter _).map (fun v w same => item_inj.mp same)

theorem doomed_ordered {c : Cell Obj} (sound : c.kind.faulty = false) :
    (doomed c).Pairwise (fun x y => (x.verb, x.owner) ∉ y.needs) := by
  rcases doomed_or sound with none | ⟨_, verbs⟩
  · rw [none]
    exact .nil
  · rw [doomed, List.pairwise_map]
    exact verbs.filter _

theorem faulty_misused {c : Cell Obj} (faulty : c.kind.faulty) (d : Device) : (d.destruct c).misused = true := by
  obtain ⟨id, kind⟩ := c
  cases kind with
  | DC made ready nic =>
    have some : 0 < made := by simpa [Obj.faulty] using faulty
    have gone (d : Device) (x : Item) (absent : x ∉ d.held) : (d.destroy x).misused = true := by
      simp [Device.destroy, absent]
    obtain ⟨n, rfl⟩ := Nat.exists_eq_add_of_le' some
    cases n with
    | zero =>
      -- the CQ alone, twice
      exact gone _ (item _ .sendCq) (by simp [Device.destroy_held])
    | succ n => exact gone _ (item _ .sendCq) (by simp [Device.destroy_held])
  | DCTarget made nic =>
    have unset : (Obj.DCTarget made nic).unset = true := faulty
    simp [Device.destruct, unset]
  | _ => simp [Obj.faulty, Obj.unset] at faulty

theorem item_plain (c : Cell Obj) (v : Verb) : (v, c.id) ∉ (item c v).needs := by
  obtain ⟨id, kind⟩ := c
  cases kind with
  | RC made recv nic => cases recv <;> cases v <;> simp [item]
  | _ => cases v <;> simp [item]

theorem nic_doomed {c : Cell Obj} (isNic : c.kind.isNic) : doomed c = [item c .domain, item c .context] := by
  obtain ⟨id, kind⟩ := c
  cases kind with
  | RNic made lid =>
    have both : 2 ≤ made := by simpa [Obj.isNic, Obj.valid, Obj.calls, Obj.made] using isNic
    obtain ⟨n, rfl⟩ := Nat.exists_eq_add_of_le' both
    simp [doomed, Obj.destroys, Obj.calls, Obj.made]
  | _ => simp [Obj.isNic] at isNic

/-- An item needs what its own object has, what the members of the object point to, or the NIC of a `DCTarget`. -/
theorem needs_owner {c : Cell Obj} {x : Item} (member : x ∈ items c) {v : Verb} {i : Nat} (needed : (v, i) ∈ x.needs) :
    i = c.id ∨ i ∈ c.kind.refs ∨ ∃ made, c.kind = .DCTarget made i ∧ 2 ≤ made := by
  obtain ⟨w, called, rfl⟩ := List.mem_map.mp member
  obtain ⟨id, kind⟩ := c
  cases kind with
  | DCTarget made nic =>
    rcases made with _ | _ | made
    · simp [Obj.made] at called
    · obtain rfl : w = .targetCq := by simpa [Obj.calls, Obj.made] using called
      simp [item] at needed
    · cases w <;> simp [item] at needed
      all_goals simp [needed]
      tauto
  | RC made recv nic => cases recv <;> cases w <;> simp [item] at needed <;> simp [needed, Obj.refs] <;> tauto
  | _ => cases w <;> simp [item] at needed <;> simp [needed, Obj.refs] <;> tauto

end RLib.Lifetimes
