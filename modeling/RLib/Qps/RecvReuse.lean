import RLib.Qps.RecvIter
import RLib.Qps.RecvRing

namespace RLib.Qps

open Run Ring

/-- An array for completions: that of some entries, or one of the caller's. -/
inductive WcArray (Q W : Type) where
  | ofEntries (e : Q)
  | passed (w : W)
deriving DecidableEq

/-- One `RecvIter` that is used again and again. The entries that were posted to a QP go by the QP's name. -/
structure Reuse (Q W : Type) (N : Nat) [NeZero N] where
  it : RecvIter Q Q (WcArray Q W) := {}
  recvCq : Q → Ptr
  entries : Q → RecvEntries N
  rq : Q → List RecvWqe
  arrays : WcArray Q W → Nat → Wc := fun _ _ => ⟨0, 0⟩
  /-- what the last `begin` polled, until `clear` -/
  batch : List Wc := []
  /-- the buffers that were polled and those that were posted again, with their QPs -/
  polled : List (Q × U64) := []
  reposted : List (Q × U64) := []

inductive ReuseEvent (Q W : Type) where
  | setMeta (qp e : Q)
  /-- a `begin` whose poll finds completions for these QPs, with these immediate data -/
  | begin (qp : Q) (wcs : WcArray Q W) (found : List (Q × U32))
  | beginFails (qp : Q) (wcs : WcArray Q W)
  | next
  | clear

variable {Q W : Type} [DecidableEq Q] {N : Nat} [NeZero N]

/-- The completions of the first posted buffers of these QPs, and the receive queues without them. -/
def consume (rq : Q → List RecvWqe) : List (Q × U32) → Option (List (Q × Wc) × (Q → List RecvWqe))
  | [] => some ([], rq)
  | (q, imm) :: rest =>
    match rq q with
    | [] => none
    | w :: ws =>
      (consume (Function.update rq q ws) rest).map fun (completions, rq) => ((q, ⟨w.wrId, imm⟩) :: completions, rq)

namespace Reuse

def store (array : Nat → Wc) (completions : List Wc) : Nat → Wc := fun n => completions[n]?.getD (array n)

def clear (s : Reuse Q W N) : Option (Reuse Q W N) :=
  match s.it.reposts with
  | none => some { s with it := { s.it with totalMsgs := -1 }, batch := [] }
  | some (qp, e, num) =>
    match postRecvs (s.entries e) num some with
    | .ok (some wqes, entries) =>
      some { s with
        it := { s.it with totalMsgs := -1 }
        entries := Function.update s.entries e entries
        rq := Function.update s.rq qp (s.rq qp ++ wqes)
        batch := []
        reposted := s.reposted ++ wqes.map fun w => (qp, w.wrId) }
    | _ => none

def afterPoll [DecidableEq W] (s : Reuse Q W N) (wcs : WcArray Q W) (completions : List (Q × Wc))
    (rq : Q → List RecvWqe) : Reuse Q W N :=
  { s with
    it := s.it.begin completions.length
    rq := rq
    arrays := Function.update s.arrays wcs (store (s.arrays wcs) (completions.map Prod.snd))
    batch := completions.map Prod.snd
    polled := s.polled ++ completions.map fun c => (c.1, c.2.wrId) }

/-- `begin` is called after a `set_meta`, and finds at most `es` completions of QPs that share the CQ of `qp`. -/
def step [DecidableEq W] (s : Reuse Q W N) : ReuseEvent Q W → Option (Reuse Q W N)
  | .setMeta qp e => some { s with it := s.it.setMeta qp e (.ofEntries e) }
  | .begin qp wcs found =>
    if s.it.wcs.isSome ∧ found.length ≤ N ∧ ∀ c ∈ found, s.recvCq c.1 = s.recvCq qp then
      (consume s.rq found).map fun polled => s.afterPoll wcs polled.1 polled.2
    else none
  | .beginFails _ _ => if s.it.wcs.isSome then some { s with it := s.it.begin (-1), batch := [] } else none
  | .next => some { s with it := s.it.next }
  | .clear => s.clear

def curMsg (s : Reuse Q W N) (it : RecvIter Q Q (WcArray Q W)) : Option (U32 × U64) :=
  it.curMsg fun array n => some (s.arrays array n.toNat)

/-- From here on `cur_msg` walks through what the last `begin` polled, in order and to its end. -/
def Walks (s : Reuse Q W N) : Prop :=
  ∀ k : Nat, s.curMsg (RecvIter.next^[k] s.it) =
    s.batch[s.it.idx.toNat + k]?.map fun wc => (wc.immData, wc.wrId)

/-- If the iterator is destroyed now, each buffer that was polled has been posted again to its QP once, in order. -/
def Returns (s : Reuse Q W N) : Prop := ∃ t, s.clear = some t ∧ t.reposted = t.polled

structure Kept (s : Reuse Q W N) : Prop where
  walks : s.Walks
  returns : s.Returns

/-- `begin` polls only after `clear`, finds completions of the QP of `set_meta` alone, whose entries were named there
    too, and polls into their array; and `set_meta` does not change what is not yet cleared. Of its own QP `begin` uses
    the CQ only. -/
def Proper (s : Reuse Q W N) : ReuseEvent Q W → Prop
  | .setMeta qp e => 0 < s.it.totalMsgs → s.it.qp = some qp ∧ s.it.entries = some e
  | .begin _ wcs found =>
    s.it.totalMsgs ≤ 0 ∧
      (found ≠ [] → ∃ q ∈ s.it.qp, s.it.entries = some q ∧ wcs = .ofEntries q ∧ ∀ c ∈ found, c.1 = q)
  | .beginFails _ _ => s.it.totalMsgs ≤ 0
  | .next => True
  | .clear => True

/-- The buffers of `q` that were polled and not yet posted again. -/
def pending (s : Reuse Q W N) (q : Q) : List U64 := if s.it.qp = some q then s.batch.map Wc.wrId else []

def owed (s : Reuse Q W N) : List (Q × U64) := s.it.qp.elim [] fun q => s.batch.map fun wc => (q, wc.wrId)

/-- The buffers of each QP go around in ring order, from the header on: first those that are pending, then those in
    its receive queue. -/
structure Sound (s : Reuse Q W N) : Prop where
  ready : ∀ q, (s.entries q).Ready
  ring : ∀ q, s.pending q ++ (s.rq q).map RecvWqe.wrId =
    (window (s.entries q).header N).map (s.entries q).buffer
  logged : s.polled = s.reposted ++ s.owed
  started : 0 ≤ s.it.idx
  total : s.it.totalMsgs.toNat = s.batch.length
  array : s.it.wcs = s.it.entries.map WcArray.ofEntries
  held : s.batch ≠ [] → ∃ q, s.it.qp = some q ∧ s.it.entries = some q ∧
    ∀ n, ∀ inside : n < s.batch.length, s.arrays (.ofEntries q) n = s.batch[n]

omit [DecidableEq Q] in
theorem next_iterate (it : RecvIter Q Q (WcArray Q W)) (k : Nat) :
    RecvIter.next^[k] it = { it with idx := it.idx + k } := by
  induction k generalizing it with
  | zero => simp
  | succ k ih =>
    rw [Function.iterate_succ_apply, ih, RecvIter.next]
    simp only [RecvIter.mk.injEq, true_and, and_true]
    omega

theorem Sound.walks {s : Reuse Q W N} (sound : s.Sound) : s.Walks := by
  intro k
  have started := sound.started
  have total := sound.total
  rw [next_iterate, curMsg, RecvIter.curMsg, RecvIter.hasMsgs]
  by_cases inside : s.it.idx.toNat + k < s.batch.length
  · have more : s.it.idx + k < s.it.totalMsgs := by omega
    have nonempty : s.batch ≠ [] := by
      intro empty
      rw [empty] at inside
      exact Nat.not_lt_zero _ inside
    obtain ⟨q, _, entries, stored⟩ := sound.held nonempty
    have place : (s.it.idx + (k : Int)).toNat = s.it.idx.toNat + k := by omega
    rw [if_pos (decide_eq_true more)]
    simp only [sound.array, entries, Option.map_some, Option.bind_some]
    rw [place, stored _ inside, List.getElem?_eq_getElem inside, Option.map_some]
  · have beyond : ¬s.it.idx + k < s.it.totalMsgs := by omega
    rw [List.getElem?_eq_none (Nat.not_lt.mp inside), if_neg (by simpa using beyond)]
    rfl

theorem pending_of_empty {s : Reuse Q W N} (empty : s.batch = []) (q : Q) : s.pending q = [] := by
  rw [pending, empty, List.map_nil, ite_self]

omit [DecidableEq Q] in
theorem owed_of_empty {s : Reuse Q W N} (empty : s.batch = []) : s.owed = [] := by
  rw [owed, empty]
  cases s.it.qp <;> rfl

theorem sound_of_empty {s : Reuse Q W N} (empty : s.batch = []) (ready : ∀ q, (s.entries q).Ready)
    (ring : ∀ q, (s.rq q).map RecvWqe.wrId = (window (s.entries q).header N).map (s.entries q).buffer)
    (logged : s.polled = s.reposted) (started : 0 ≤ s.it.idx) (idle : s.it.totalMsgs ≤ 0)
    (array : s.it.wcs = s.it.entries.map WcArray.ofEntries) : s.Sound where
  ready := ready
  ring q := by rw [pending_of_empty empty, List.nil_append, ring]
  logged := by rw [owed_of_empty empty, List.append_nil, logged]
  started := started
  total := by rw [empty, List.length_nil, Int.toNat_of_nonpos idle]
  array := array
  held nonempty := absurd empty nonempty

theorem Sound.ring_of_empty {s : Reuse Q W N} (sound : s.Sound) (empty : s.batch = []) (q : Q) :
    (s.rq q).map RecvWqe.wrId = (window (s.entries q).header N).map (s.entries q).buffer := by
  rw [← sound.ring, pending_of_empty empty, List.nil_append]

theorem Sound.logged_of_empty {s : Reuse Q W N} (sound : s.Sound) (empty : s.batch = []) : s.polled = s.reposted := by
  rw [sound.logged, owed_of_empty empty, List.append_nil]

theorem Sound.batch_of_idle {s : Reuse Q W N} (sound : s.Sound) (idle : s.it.totalMsgs ≤ 0) : s.batch = [] := by
  have total := sound.total
  rw [Int.toNat_of_nonpos idle] at total
  exact List.length_eq_zero_iff.mp total.symm

theorem Sound.split {s : Reuse Q W N} (sound : s.Sound) {q : Q} (qp : s.it.qp = some q) :
    s.batch.length ≤ N ∧
      s.batch.map Wc.wrId = (window (s.entries q).header s.batch.length).map (s.entries q).buffer ∧
      (s.rq q).map RecvWqe.wrId =
        (window (slot (s.entries q).header s.batch.length) (N - s.batch.length)).map (s.entries q).buffer := by
  have ring := sound.ring q
  rw [pending, if_pos qp] at ring
  have fits : s.batch.length ≤ N := by
    have lengths := congrArg List.length ring
    simp only [List.length_append, List.length_map, window_length] at lengths
    omega
  have around := window_add (s.entries q).header s.batch.length (N - s.batch.length)
  rw [Nat.add_sub_cancel' fits] at around
  rw [around, List.map_append] at ring
  exact ⟨fits, List.append_inj ring (by rw [List.length_map, List.length_map, window_length])⟩

theorem clear_pending {s : Reuse Q W N} (sound : s.Sound) {q : Q} (qp : s.it.qp = some q)
    (entries : s.it.entries = some q) (positive : 0 < s.batch.length) :
    s.clear = some { s with
      it := { s.it with totalMsgs := -1 }
      entries := Function.update s.entries q
        { s.entries q with header := slot (s.entries q).header s.batch.length }
      rq := Function.update s.rq q
        (s.rq q ++ (window (s.entries q).header s.batch.length).map (s.entries q).wqe)
      batch := []
      reposted := s.reposted ++
        ((window (s.entries q).header s.batch.length).map (s.entries q).wqe).map fun w => (q, w.wrId) } := by
  have total := sound.total
  have count : s.it.totalMsgs = (s.batch.length : Int) := by omega
  have reposts : s.it.reposts = some (q, q, (s.batch.length : Int)) := by
    rw [RecvIter.reposts, qp, entries, count]
    exact if_pos (by omega)
  unfold clear
  rw [reposts]
  simp only [postRecvs_linked (sound.ready q).linked positive (sound.split qp).1]

theorem clear_idle {s : Reuse Q W N} (idle : s.it.totalMsgs ≤ 0) :
    s.clear = some { s with it := { s.it with totalMsgs := -1 }, batch := [] } := by
  have reposts : s.it.reposts = none := by
    unfold RecvIter.reposts
    split
    · exact if_neg (by omega)
    · rfl
  unfold clear
  rw [reposts]

theorem Sound.clear {s : Reuse Q W N} (sound : s.Sound) :
    ∃ t, s.clear = some t ∧ t.Sound ∧ t.reposted = t.polled := by
  by_cases empty : s.batch = []
  · have total := sound.total
    have idle : s.it.totalMsgs ≤ 0 := by
      rw [empty, List.length_nil] at total
      omega
    have logged := sound.logged_of_empty empty
    exact ⟨_, clear_idle idle, sound_of_empty rfl sound.ready (sound.ring_of_empty empty) logged sound.started
      (show (-1 : Int) ≤ 0 by decide) sound.array, logged.symm⟩
  · obtain ⟨q, qp, entries, _⟩ := sound.held empty
    obtain ⟨fits, first, rest⟩ := sound.split qp
    have logs : ((window (s.entries q).header s.batch.length).map (s.entries q).wqe).map (fun w => (q, w.wrId)) =
        s.owed := by
      have paired := congrArg (List.map (Prod.mk q)) first
      rw [List.map_map, List.map_map] at paired
      rw [owed, qp, List.map_map]
      exact paired.symm
    have logged := sound.logged
    rw [← logs] at logged
    refine ⟨_, clear_pending sound qp entries (List.length_pos_of_ne_nil empty),
      sound_of_empty rfl ?_ ?_ logged sound.started (show (-1 : Int) ≤ 0 by decide) sound.array, logged.symm⟩
    · intro r
      by_cases same : r = q
      · subst r
        simp only [Function.update_self]
        intro i
        obtain ⟨linked, own, named⟩ := sound.ready q i
        exact ⟨linked, own, named⟩
      · simp only [Function.update_of_ne same]
        exact sound.ready r
    · intro r
      by_cases same : r = q
      · subst r
        simp only [Function.update_self, List.map_append, rest, List.map_map]
        have rotated := congrArg (List.map (s.entries q).buffer) (window_rotate (s.entries q).header fits)
        rw [List.map_append] at rotated
        exact rotated
      · simp only [Function.update_of_ne same]
        have ring := sound.ring r
        have other : s.it.qp ≠ some r := by
          rw [qp]
          exact fun taken => same (Option.some.inj taken).symm
        rw [pending, if_neg other, List.nil_append] at ring
        exact ring

theorem Sound.kept {s : Reuse Q W N} (sound : s.Sound) : s.Kept := by
  obtain ⟨t, cleared, _, returned⟩ := sound.clear
  exact ⟨sound.walks, t, cleared, returned⟩

theorem consume_own {q : Q} {found : List (Q × U32)} (own : ∀ c ∈ found, c.1 = q) {rq rq' : Q → List RecvWqe}
    {completions : List (Q × Wc)} (consumed : consume rq found = some (completions, rq')) :
    (∀ c ∈ completions, c.1 = q) ∧
      (completions.map Prod.snd).map Wc.wrId ++ (rq' q).map RecvWqe.wrId = (rq q).map RecvWqe.wrId ∧
      ∀ r, r ≠ q → rq' r = rq r := by
  induction found generalizing rq completions with
  | nil =>
    cases consumed
    exact ⟨nofun, rfl, fun _ _ => rfl⟩
  | cons c found ih =>
    obtain ⟨p, imm⟩ := c
    have same : p = q := own _ List.mem_cons_self
    subst p
    unfold consume at consumed
    cases posted : rq q with
    | nil =>
      rw [posted] at consumed
      cases consumed
    | cons w ws =>
      rw [posted] at consumed
      obtain ⟨⟨later, rq''⟩, rest, same⟩ := Option.map_eq_some_iff.mp consumed
      cases same
      obtain ⟨owners, ids, others⟩ := ih (fun c member => own c (List.mem_cons_of_mem _ member)) rest
      rw [Function.update_self] at ids
      refine ⟨List.forall_mem_cons.mpr ⟨rfl, owners⟩, congrArg (w.wrId :: ·) ids, ?_⟩
      intro r apart
      rw [others r apart, Function.update_of_ne apart]

theorem Sound.setMeta {s : Reuse Q W N} (sound : s.Sound) {qp e : Q} (proper : s.Proper (.setMeta qp e)) :
    Sound { s with it := s.it.setMeta qp e (.ofEntries e) } := by
  by_cases empty : s.batch = []
  · have total := sound.total
    rw [empty, List.length_nil] at total
    exact sound_of_empty empty sound.ready (sound.ring_of_empty empty) (sound.logged_of_empty empty) sound.started
      (show s.it.totalMsgs ≤ 0 by omega) rfl
  · have total := sound.total
    have positive := List.length_pos_of_ne_nil empty
    obtain ⟨sameQp, sameEntries⟩ := proper (by omega)
    have array := sound.array
    have same : s.it.setMeta qp e (.ofEntries e) = s.it := by
      rw [sameEntries, Option.map_some] at array
      rw [RecvIter.setMeta, ← sameQp, ← sameEntries, ← array]
    rw [same]
    exact sound

variable [DecidableEq W]

theorem Sound.afterPoll {s : Reuse Q W N} (sound : s.Sound) (empty : s.batch = []) {qp : Q} (sameQp : s.it.qp = some qp)
    (sameEntries : s.it.entries = some qp) {completions : List (Q × Wc)} {rq : Q → List RecvWqe}
    (owners : ∀ c ∈ completions, c.1 = qp)
    (ids : (completions.map Prod.snd).map Wc.wrId ++ (rq qp).map RecvWqe.wrId = (s.rq qp).map RecvWqe.wrId)
    (others : ∀ r, r ≠ qp → rq r = s.rq r) : (s.afterPoll (.ofEntries qp) completions rq).Sound where
  ready := sound.ready
  ring r := by
    refine Eq.trans ?_ (sound.ring_of_empty empty r)
    change (if s.it.qp = some r then _ else []) ++ (rq r).map RecvWqe.wrId = _
    by_cases same : r = qp
    · subst r
      rw [if_pos sameQp]
      exact ids
    · have other : s.it.qp ≠ some r := by
        rw [sameQp]
        exact fun taken => same (Option.some.inj taken).symm
      rw [if_neg other, List.nil_append, others r same]
  logged := by
    have paired : completions.map (fun c => (c.1, c.2.wrId)) =
        (completions.map Prod.snd).map (fun wc => (qp, wc.wrId)) := by
      rw [List.map_map]
      apply List.map_congr_left
      intro c member
      simp only [Function.comp, owners c member]
    have logged := sound.logged_of_empty empty
    simp only [Reuse.afterPoll, owed, RecvIter.begin, sameQp, Option.elim_some, paired, logged]
  started := le_refl 0
  total := by simp only [Reuse.afterPoll, RecvIter.begin, Int.toNat_natCast, List.length_map]
  array := sound.array
  held _ := by
    refine ⟨qp, sameQp, sameEntries, ?_⟩
    intro n inside
    change n < (completions.map Prod.snd).length at inside
    simp only [Reuse.afterPoll, Function.update_self, store, List.getElem?_eq_getElem inside, Option.getD_some]

theorem Sound.begin {s t : Reuse Q W N} (sound : s.Sound) {qp : Q} {wcs : WcArray Q W} {found : List (Q × U32)}
    (proper : s.Proper (.begin qp wcs found)) (happens : s.step (.begin qp wcs found) = some t) : t.Sound := by
  obtain ⟨idle, named⟩ := proper
  have empty := sound.batch_of_idle idle
  rw [step] at happens
  split at happens
  · obtain ⟨⟨completions, rq⟩, consumed, rfl⟩ := Option.map_eq_some_iff.mp happens
    by_cases nothing : found = []
    · subst found
      cases consumed
      have logged := sound.logged_of_empty empty
      exact sound_of_empty rfl sound.ready (sound.ring_of_empty empty) ((List.append_nil _).trans logged) (le_refl 0)
        (le_refl 0) sound.array
    · obtain ⟨q, sameQp, sameEntries, rfl, own⟩ := named nothing
      obtain ⟨owners, ids, others⟩ := consume_own own consumed
      exact sound.afterPoll empty sameQp sameEntries owners ids others
  · cases happens

theorem Sound.step {s t : Reuse Q W N} {e : ReuseEvent Q W} (sound : s.Sound) (proper : s.Proper e)
    (happens : s.step e = some t) : t.Sound := by
  cases e with
  | setMeta qp e =>
    cases happens
    exact sound.setMeta proper
  | begin qp wcs found => exact sound.begin proper happens
  | beginFails qp wcs =>
    have empty := sound.batch_of_idle proper
    rw [Reuse.step] at happens
    split at happens
    · cases happens
      exact sound_of_empty rfl sound.ready (sound.ring_of_empty empty) (sound.logged_of_empty empty) (le_refl 0)
        (show (-1 : Int) ≤ 0 by decide) sound.array
    · cases happens
  | next =>
    cases happens
    have started := sound.started
    exact { sound with started := show 0 ≤ s.it.idx + 1 by omega }
  | clear =>
    obtain ⟨t', cleared, sound', _⟩ := sound.clear
    cases happens.symm.trans cleared
    exact sound'

/-- A default-constructed iterator, and QPs whose entries have all been posted. -/
def start (recvCq : Q → Ptr) (entries : Q → RecvEntries N) : Reuse Q W N where
  recvCq := recvCq
  entries := entries
  rq q := (window (entries q).header N).map (entries q).wqe

omit [DecidableEq W] in
theorem start_sound (recvCq : Q → Ptr) {entries : Q → RecvEntries N} (ready : ∀ q, (entries q).Ready) :
    (start recvCq entries : Reuse Q W N).Sound :=
  sound_of_empty rfl ready (fun _ => List.map_map) rfl (le_refl 0) (show (-1 : Int) ≤ 0 by decide) rfl

/-- Through every run of proper calls each `begin` is walked as it was polled, and every buffer that was polled is
    posted again once. -/
theorem reuse_kept (recvCq : Q → Ptr) {entries : Q → RecvEntries N} (ready : ∀ q, (entries q).Ready)
    {events : List (ReuseEvent Q W)} (proper : Along step Proper (start recvCq entries : Reuse Q W N) events) :
    Throughout step Kept (start recvCq entries : Reuse Q W N) events :=
  proper.throughout (fun _ _ _ sound now happens => sound.step now happens) (fun _ sound => sound.kept)
    (start_sound recvCq ready)

instance decidableProper (s : Reuse Q W N) : (e : ReuseEvent Q W) → Decidable (s.Proper e)
  | .setMeta qp e =>
    inferInstanceAs (Decidable (0 < s.it.totalMsgs → s.it.qp = some qp ∧ s.it.entries = some e))
  | .begin _ wcs found => inferInstanceAs (Decidable (s.it.totalMsgs ≤ 0 ∧
      (found ≠ [] → ∃ q ∈ s.it.qp, s.it.entries = some q ∧ wcs = .ofEntries q ∧ ∀ c ∈ found, c.1 = q)))
  | .beginFails _ _ => inferInstanceAs (Decidable (s.it.totalMsgs ≤ 0))
  | .next => .isTrue trivial
  | .clear => .isTrue trivial

def twoReused : Reuse Unit Unit 2 := start (fun _ => 1) (fun _ => twoEntries)

theorem reuse_kept_two : Throughout step Kept twoReused
    [.setMeta () (), .begin () (.ofEntries ()) [((), 7)], .next, .clear, .begin () (.ofEntries ()) [((), 8)]] :=
  have created : (RecvEntriesFactoryv2.create 2 (⟨4096, 8192, 5⟩ : SimpleAllocator) 16).1 = .ok twoEntries := by decide
  reuse_kept _ (fun _ => (RecvEntriesFactoryv2.create_ready created).1) (by decide)

/-- Completions polled into another array are not shown, and those of a `begin` before are not posted again. -/
theorem begin_forgets :
    ¬Throughout step Kept twoReused [.setMeta () (), .begin () (.passed ()) [((), 7)]] ∧
      ¬Throughout step Kept twoReused
        [.setMeta () (), .begin () (.ofEntries ()) [((), 7)], .begin () (.ofEntries ()) [((), 8)]] := by
  constructor
  · intro kept
    have walks := (kept.run rfl).walks 0
    exact absurd walks (by decide)
  · intro kept
    obtain ⟨t, cleared, returned⟩ := (kept.run rfl).returns
    cases cleared
    exact absurd returned (by decide)

end Reuse

end RLib.Qps
