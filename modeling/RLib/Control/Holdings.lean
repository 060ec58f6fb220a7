import RLib.Control.ChannelCq

namespace RLib

open Bootstrap Proto Qps RCtrl RecvManager Run

namespace Hardware

def LiveQp (hw : Hardware) (p : Ptr) : Prop := ∃ q ∈ hw.qps, q.ptr = p

theorem liveQp_iff (hw : Hardware) (p : Ptr) : hw.LiveQp p ↔ ∃ e ∈ hw.objects.2.2, e.1 = p := by
  simp only [LiveQp, objects, List.mem_map, exists_exists_and_eq_and]

theorem Bounded.liveQp {hw : Hardware} (bounded : hw.Bounded) {p : Ptr} (live : hw.LiveQp p) : p < hw.fresh := by
  obtain ⟨q, member, rfl⟩ := live
  exact bounded.qps q member

theorem destroyCq_attached (hw : Hardware) (c : Ptr) :
    (hw.destroyCq c).fresh = hw.fresh ∧ (hw.destroyCq c).qps = hw.qps := by
  unfold destroyCq
  split
  · exact ⟨rfl, rfl⟩
  · exact ⟨rfl, rfl⟩

theorem destroyCq_elim_attached (hw : Hardware) (c : Option Ptr) :
    (c.elim hw hw.destroyCq).fresh = hw.fresh ∧ (c.elim hw hw.destroyCq).qps = hw.qps := by
  cases c with
  | none => exact ⟨rfl, rfl⟩
  | some c => exact hw.destroyCq_attached c

end Hardware

namespace Qps

/-- The verbs objects of a valid QP object: its queue pair, its send CQ and the receive CQ it was given. -/
structure Holding where
  qp : Ptr
  cq : Ptr
  recvCq : Option Ptr

def Dummy.holding (rc : Dummy) : Option Holding :=
  match rc.qp, rc.cq with
  | some qp, some cq => some ⟨qp.ptr, cq, rc.recvCq⟩
  | _, _ => none

theorem Dummy.holding_some {rc : Dummy} {h : Holding} (whole : rc.holding = some h) :
    rc.qp.map QpHandle.ptr = some h.qp ∧ rc.cq = some h.cq ∧ rc.recvCq = h.recvCq := by
  unfold holding at whole
  split at whole
  · rename_i qp cq hasQp hasCq
    cases whole
    exact ⟨by rw [hasQp, Option.map_some], hasCq, rfl⟩
  · cases whole

theorem Dummy.destroy_attached (rc : Dummy) (calls : VerbsCalls) (hw : Hardware) :
    (rc.destroy calls hw).fresh = hw.fresh ∧
      ∀ e, e ∈ (rc.destroy calls hw).objects.2.2 ↔ e ∈ hw.objects.2.2 ∧ some e.1 ≠ rc.gone calls := by
  have first : (rc.qp.elim hw (fun qp => hw.destroyQp calls.destroyQp qp.ptr)).fresh = hw.fresh ∧
      ∀ e, e ∈ (rc.qp.elim hw (fun qp => hw.destroyQp calls.destroyQp qp.ptr)).objects.2.2 ↔
        e ∈ hw.objects.2.2 ∧ some e.1 ≠ rc.gone calls := by
    unfold gone
    cases rc.qp with
    | none => simp
    | some qp =>
      cases destroys : calls.destroyQp with
      | false => simp [Hardware.destroyQp]
      | true =>
        refine ⟨rfl, ?_⟩
        intro e
        simp only [Option.elim_some, Hardware.destroyQp, ↓reduceIte, Hardware.objects, List.mem_map, List.mem_filter,
          decide_eq_true_eq, Option.map_some, ne_eq, Option.some.injEq]
        constructor
        · rintro ⟨q, ⟨member, other⟩, rfl⟩
          exact ⟨⟨q, member, rfl⟩, other⟩
        · rintro ⟨⟨q, member, rfl⟩, other⟩
          exact ⟨q, ⟨member, other⟩, rfl⟩
  unfold destroy
  simp only
  generalize rc.qp.elim hw (fun qp => hw.destroyQp calls.destroyQp qp.ptr) = hw₁ at first
  have second := hw₁.destroyCq_elim_attached rc.cq
  have third := (rc.cq.elim hw₁ hw₁.destroyCq).destroyCq_elim_attached rc.recvCq
  refine ⟨third.1.trans (second.1.trans first.1), ?_⟩
  intro e
  rw [← first.2 e, Hardware.objects, Hardware.objects, third.2, second.2]

theorem RC.resetHw_liveCq (config : QPConfig) (recvCq : Option Ptr) (qpNum : U32) (hw : Hardware) (c : Ptr) :
    (RC.resetHw config recvCq qpNum hw).LiveCq c ↔ c = hw.fresh ∨ hw.LiveCq c := by
  simp only [Hardware.LiveCq, RC.resetHw, Impl.createQp, Hardware.createQp, Hardware.createCq, List.mem_cons,
    exists_eq_or_imp, eq_comm]

theorem RC.resetHw_liveQp (config : QPConfig) (recvCq : Option Ptr) (qpNum : U32) (hw : Hardware) (p : Ptr) :
    (RC.resetHw config recvCq qpNum hw).LiveQp p ↔ p = hw.fresh + 1 ∨ hw.LiveQp p := by
  simp only [Hardware.LiveQp, RC.resetHw, Impl.createQp, Hardware.createQp, Hardware.createCq, List.mem_cons,
    exists_eq_or_imp, eq_comm]

end Qps

variable {ι : Type}

/-- The verbs objects there are: those that the holdings name, each of one holder only, and CQs in `opened`. -/
structure Kept (opened : List Ptr) (held : ι → Option Holding) (hw : Hardware) : Prop where
  bounded : hw.Bounded
  old : ∀ c ∈ opened, c < hw.fresh
  live : ∀ i h, held i = some h → hw.LiveQp h.qp ∧ hw.LiveCq h.cq
  own : ∀ i h, held i = some h → h.cq ∉ opened ∧ ∀ c, h.recvCq = some c → c ∈ opened
  attached : ∀ e ∈ hw.objects.2.2, ∃ i h, held i = some h ∧ e.1 = h.qp ∧ e.2.sendCq = h.cq ∧
    e.2.recvCq = h.recvCq.getD h.cq
  cqs : ∀ c, hw.LiveCq c → c ∉ opened → ∃ i h, held i = some h ∧ h.cq = c
  apart : ∀ i j h h', held i = some h → held j = some h' → h.qp = h'.qp ∨ h.cq = h'.cq → i = j

namespace Kept

variable {opened : List Ptr} {held : ι → Option Holding} {hw hw' : Hardware}

theorem used (kept : Kept opened held hw) {gone : Option Ptr} {c : Ptr} (used : hw.UsedBut gone c) :
    c ∈ opened ∨ ∃ i h, held i = some h ∧ some h.qp ≠ gone ∧ h.cq = c := by
  obtain ⟨e, member, other, attached⟩ := used
  obtain ⟨i, h, holds, qp, sends, receives⟩ := kept.attached e member
  rw [qp] at other
  rcases attached with rfl | rfl
  · exact .inr ⟨i, h, holds, other, sends.symm⟩
  · cases given : h.recvCq with
    | none =>
      rw [given, Option.getD_none] at receives
      exact .inr ⟨i, h, holds, other, receives.symm⟩
    | some r =>
      rw [given, Option.getD_some] at receives
      rw [receives]
      exact .inl ((kept.own i h holds).2 r given)

theorem fresh_unused (kept : Kept opened held hw) (gone : Option Ptr) : ¬hw.UsedBut gone hw.fresh := by
  intro used
  rcases kept.used used with there | ⟨i, h, holds, _, same⟩
  · exact Nat.lt_irrefl _ (kept.old _ there)
  · exact Nat.ne_of_lt (kept.bounded.live (kept.live i h holds).2) same

theorem fewer (kept : Kept opened held hw) (bounded : hw'.Bounded) (fresh : hw.fresh ≤ hw'.fresh)
    (attached : ∀ e, e ∈ hw'.objects.2.2 ↔ e ∈ hw.objects.2.2) (less : ∀ c, hw'.LiveCq c → hw.LiveCq c)
    (spared : ∀ c, hw.LiveCq c → c ∉ opened → hw'.LiveCq c) : Kept opened held hw' where
  bounded := bounded
  old c there := Nat.lt_of_lt_of_le (kept.old c there) fresh
  live i h holds := by
    obtain ⟨qp, cq⟩ := kept.live i h holds
    refine ⟨?_, spared h.cq cq (kept.own i h holds).1⟩
    rw [Hardware.liveQp_iff] at qp ⊢
    simpa only [attached] using qp
  own := kept.own
  attached e member := kept.attached e ((attached e).mp member)
  cqs c live := kept.cqs c (less c live)
  apart := kept.apart

theorem congr (kept : Kept opened held hw) (same : hw'.objects = hw.objects) : Kept opened held hw' := by
  have fresh : hw'.fresh = hw.fresh := congrArg (fun o => o.1) same
  apply kept.fewer (kept.bounded.congr same) (Nat.le_of_eq fresh.symm)
  · intro e
    rw [same]
  · exact fun c => (Hardware.liveCq_congr same c).mp
  · exact fun c live _ => (Hardware.liveCq_congr same c).mpr live

theorem openCq (kept : Kept opened held hw) (cqe : U32) : Kept (hw.fresh :: opened) held (hw.createCq cqe).2 where
  bounded := kept.bounded.createCq cqe
  old c there := by
    rcases List.mem_cons.mp there with rfl | there
    · exact Nat.lt_succ_self _
    · exact Nat.lt_succ_of_lt (kept.old c there)
  live i h holds := ⟨(kept.live i h holds).1, RC.createCq_live cqe (kept.live i h holds).2⟩
  own i h holds := by
    obtain ⟨own, given⟩ := kept.own i h holds
    have bound := kept.bounded.live (kept.live i h holds).2
    refine ⟨?_, fun c receives => List.mem_cons_of_mem _ (given c receives)⟩
    rw [List.mem_cons, not_or]
    exact ⟨Nat.ne_of_lt bound, own⟩
  attached := kept.attached
  cqs c live new := by
    rw [List.mem_cons, not_or] at new
    obtain ⟨cq, member, rfl⟩ := live
    rcases List.mem_cons.mp member with rfl | member
    · exact absurd rfl new.1
    · exact kept.cqs _ ⟨cq, member, rfl⟩ new.2
  apart := kept.apart

variable [DecidableEq ι]

theorem update_cases {i j : ι} {g h : Holding} (holds : Function.update held i (some g) j = some h) :
    (j = i ∧ h = g) ∨ held j = some h := by
  by_cases here : j = i
  · subst j
    rw [Function.update_self] at holds
    exact .inl ⟨rfl, (Option.some.inj holds).symm⟩
  · rw [Function.update_of_ne here] at holds
    exact .inr holds

theorem update_free {i j : ι} {h : Holding} (free : held i = none) (g : Option Holding) (holds : held j = some h) :
    Function.update held i g j = some h := by
  have other : j ≠ i := by
    rintro rfl
    cases free.symm.trans holds
  rw [Function.update_of_ne other, holds]

theorem reset (kept : Kept opened held hw) {i : ι} (free : held i = none) (config : QPConfig) {recvCq : Option Ptr}
    (given : ∀ c, recvCq = some c → c ∈ opened) (qpNum : U32) :
    Kept opened (Function.update held i (some ⟨hw.fresh + 1, hw.fresh, recvCq⟩))
      (RC.resetHw config recvCq qpNum hw) := by
  refine ⟨RC.resetHw_bounded config recvCq qpNum kept.bounded, ?_, ?_, ?_, ?_, ?_, ?_⟩
  · exact fun c there => Nat.lt_add_right 2 (kept.old c there)
  · intro j h holds
    rw [RC.resetHw_liveQp, RC.resetHw_liveCq]
    rcases update_cases holds with ⟨_, rfl⟩ | holds
    · exact ⟨.inl rfl, .inl rfl⟩
    · exact ⟨.inr (kept.live j h holds).1, .inr (kept.live j h holds).2⟩
  · intro j h holds
    rcases update_cases holds with ⟨_, rfl⟩ | holds
    · exact ⟨fun there => Nat.lt_irrefl _ (kept.old _ there), given⟩
    · exact kept.own j h holds
  · intro e member
    rcases List.mem_cons.mp member with rfl | member
    · exact ⟨i, _, Function.update_self _ _ _, rfl, rfl, rfl⟩
    · obtain ⟨j, h, holds, found⟩ := kept.attached e member
      exact ⟨j, h, update_free free _ holds, found⟩
  · intro c live new
    rcases (RC.resetHw_liveCq config recvCq qpNum hw c).mp live with rfl | live
    · exact ⟨i, _, Function.update_self _ _ _, rfl⟩
    · obtain ⟨j, h, holds, found⟩ := kept.cqs c live new
      exact ⟨j, h, update_free free _ holds, found⟩
  · have new : ∀ j h, held j = some h → ¬(h.qp = hw.fresh + 1 ∨ h.cq = hw.fresh) := by
      intro j h holds
      obtain ⟨qp, cq⟩ := kept.live j h holds
      rw [not_or]
      exact ⟨Nat.ne_of_lt (Nat.lt_succ_of_lt (kept.bounded.liveQp qp)), Nat.ne_of_lt (kept.bounded.live cq)⟩
    intro j k h h' holds holds' shared
    rcases update_cases holds with ⟨here, rfl⟩ | before
    · rcases update_cases holds' with ⟨here', rfl⟩ | before'
      · exact here.trans here'.symm
      · exact absurd (shared.imp Eq.symm Eq.symm) (new k h' before')
    · rcases update_cases holds' with ⟨_, rfl⟩ | before'
      · exact absurd shared (new j h before)
      · exact kept.apart j k h h' before before' shared

theorem add (kept : Kept opened held hw) {i : ι} (free : held i = none) (config : QPConfig) {recvCq : Option Ptr}
    (given : ∀ c, recvCq = some c → c ∈ opened) (qpNum : U32)
    (same : hw'.objects = (RC.resetHw config recvCq qpNum hw).objects) :
    Kept opened (Function.update held i (some ⟨hw.fresh + 1, hw.fresh, recvCq⟩)) hw' :=
  (kept.reset free config given qpNum).congr same

theorem remove (kept : Kept opened held hw) {i : ι} {h : Holding} (holds : held i = some h) (bounded : hw'.Bounded)
    (fresh : hw'.fresh = hw.fresh)
    (attached : ∀ e, e ∈ hw'.objects.2.2 ↔ e ∈ hw.objects.2.2 ∧ some e.1 ≠ some h.qp)
    (cqs : ∀ c, hw'.LiveCq c ↔ hw.LiveCq c ∧ ¬((h.cq = c ∨ h.recvCq = some c) ∧ ¬hw.UsedBut (some h.qp) c)) :
    Kept opened (Function.update held i none) hw' := by
  have others : ∀ j g, Function.update held i none j = some g → j ≠ i ∧ held j = some g := by
    intro j g rest
    by_cases here : j = i
    · subst j
      rw [Function.update_self] at rest
      cases rest
    · rw [Function.update_of_ne here] at rest
      exact ⟨here, rest⟩
  refine ⟨bounded, fun c there => fresh ▸ kept.old c there, ?_, ?_, ?_, ?_, ?_⟩
  · intro j g rest
    obtain ⟨other, rest⟩ := others j g rest
    obtain ⟨qp, cq⟩ := kept.live j g rest
    have apart : ¬(g.qp = h.qp ∨ g.cq = h.cq) := fun shared => other (kept.apart j i g h rest holds shared)
    rw [not_or] at apart
    rw [Hardware.liveQp_iff] at qp ⊢
    obtain ⟨e, member, same⟩ := qp
    refine ⟨⟨e, (attached e).mpr ⟨member, ?_⟩, same⟩, (cqs g.cq).mpr ⟨cq, ?_⟩⟩
    · rw [same, Ne, Option.some.injEq]
      exact apart.1
    · rintro ⟨own | given, _⟩
      · exact apart.2 own.symm
      · exact (kept.own j g rest).1 ((kept.own i h holds).2 g.cq given)
  · exact fun j g rest => kept.own j g (others j g rest).2
  · intro e member
    obtain ⟨member, other⟩ := (attached e).mp member
    obtain ⟨j, g, rest, found⟩ := kept.attached e member
    have elsewhere : j ≠ i := by
      rintro rfl
      cases holds.symm.trans rest
      exact other (congrArg some found.1)
    exact ⟨j, g, by rw [Function.update_of_ne elsewhere, rest], found⟩
  · intro c live new
    obtain ⟨live, spared⟩ := (cqs c).mp live
    obtain ⟨j, g, rest, found⟩ := kept.cqs c live new
    have elsewhere : j ≠ i := by
      rintro rfl
      cases holds.symm.trans rest
      apply spared
      refine ⟨.inl found, ?_⟩
      intro used
      rcases kept.used used with there | ⟨k, f, holds', other, same⟩
      · exact new there
      · cases kept.apart k j f h holds' holds (.inr (same.trans found.symm))
        cases holds.symm.trans holds'
        exact other rfl
    exact ⟨j, g, by rw [Function.update_of_ne elsewhere, rest], found⟩
  · intro j k g g' rest rest' shared
    exact kept.apart j k g g' (others j g rest).2 (others k g' rest').2 shared

end Kept

section

variable {calls : VerbsCalls} {nic : RNic} {config : QPConfig} {recvCq : Option Ptr} {opened : List Ptr}
  {held : ι → Option Holding} {hw hw' : Hardware}

theorem Kept.vain (kept : Kept opened held hw) (given : ∀ c, recvCq = some c → c ∈ opened) (qpNum : U32)
    (destroys : calls.destroyQp = true)
    (same : hw'.objects = (RC.madeHw calls nic config recvCq qpNum hw).objects) :
    Kept opened held ((RC.made nic config recvCq qpNum hw).destroy calls hw') := by
  have reset := same.trans (RC.madeHw_objects calls nic config recvCq qpNum hw)
  have gone : (RC.made nic config recvCq qpNum hw).gone calls = some (hw.fresh + 1) := if_pos destroys
  obtain ⟨fresh, attached⟩ := (RC.made nic config recvCq qpNum hw).destroy_attached calls hw'
  apply kept.fewer
  · exact Dummy.destroy_bounded _ _ ((RC.madeHw_bounded calls nic config recvCq qpNum kept.bounded).congr same)
  · rw [fresh, show hw'.fresh = _ from congrArg (fun o => o.1) reset]
    exact Nat.le_add_right hw.fresh 2
  · intro e
    rw [attached, reset, gone, RC.resetHw, Impl.createQp, Hardware.createQp, Hardware.objects, List.map_cons,
      List.mem_cons]
    constructor
    · rintro ⟨rfl | member, other⟩
      · exact absurd rfl other
      · exact member
    · intro member
      refine ⟨.inr member, ?_⟩
      have bound := kept.bounded.liveQp ((hw.liveQp_iff e.1).mpr ⟨e, member, rfl⟩)
      rw [Ne, Option.some.injEq]
      exact Nat.ne_of_lt (Nat.lt_succ_of_lt bound)
  · intro c live
    obtain ⟨live, spared⟩ := (Dummy.destroy_live _ _ _ _).mp live
    rw [Hardware.liveCq_congr reset] at live
    obtain ⟨cq, member, rfl⟩ := live
    rcases List.mem_cons.mp member with rfl | member
    · refine absurd ⟨.inl rfl, ?_⟩ spared
      rw [gone, Hardware.usedBut_congr reset, RC.resetHw_usedBut]
      rintro (⟨other, _⟩ | used)
      · exact other rfl
      · exact kept.fresh_unused _ used
    · exact ⟨cq, member, rfl⟩
  · intro c live new
    rw [RC.made_destroy_live kept.bounded live qpNum same]
    rintro ⟨receives, _⟩
    exact new (given c receives)

theorem Kept.refused (kept : Kept opened held hw) (given : ∀ c, recvCq = some c → c ∈ opened)
    (refused : calls.createCq = false ∨ calls.createQp = none) :
    Kept opened held (RC.create calls nic config recvCq hw).2 := by
  have bounded := RC.create_bounded calls nic config recvCq kept.bounded
  cases creates : calls.createCq with
  | false =>
    have same : (RC.create calls nic config recvCq hw).2 = hw := by
      simp [RC.create, RC.construct, creates, Dummy.valid, Dummy.destroy]
    rw [same]
    exact kept
  | true =>
    have none' : calls.createQp = none := refused.resolve_left (by rw [creates]; exact Bool.noConfusion)
    let rc : Dummy := { nic := nic, myConfig := config, cq := some hw.fresh, recvCq := recvCq }
    have made : (RC.create calls nic config recvCq hw).2 = rc.destroy calls (hw.createCq config.maxSendSize).2 := by
      simp only [RC.create, RC.construct, creates, none', ↓reduceIte]
      rfl
    have gone : rc.gone calls = none := by
      unfold Dummy.gone
      split <;> rfl
    obtain ⟨fresh, attached⟩ := rc.destroy_attached calls (hw.createCq config.maxSendSize).2
    apply kept.fewer bounded
    · rw [made, fresh]
      exact Nat.le_succ hw.fresh
    · intro e
      rw [made, attached, gone]
      exact and_iff_left (Option.some_ne_none e.1)
    · intro c live
      rw [made, Dummy.destroy_live] at live
      obtain ⟨⟨cq, member, rfl⟩, spared⟩ := live
      rcases List.mem_cons.mp member with rfl | member
      · refine absurd ⟨.inl rfl, ?_⟩ spared
        exact kept.fresh_unused _
      · exact ⟨cq, member, rfl⟩
    · intro c live new
      rw [RC.create_refused_live refused nic config recvCq kept.bounded live]
      rintro ⟨receives, _⟩
      exact new (given c receives)

end

section

variable {A : Type} {R : Nat} [NeZero R]

def Server.holding (s : Server A R) (name : Name) : Option Holding :=
  ((s.registeredQps.query name).bind s.qps).bind Dummy.holding

/-- Every registered name has a QP object of its own, and these hold all that was not opened by the program. -/
structure Whole (opened : List Ptr) (s : Server A R) : Prop where
  old : ∀ name p, s.registeredQps.query name = some p → p < s.fresh
  single : ∀ name name' p, s.registeredQps.query name = some p → s.registeredQps.query name' = some p → name = name'
  holds : ∀ name ∈ s.registeredQps.store, ∃ h, s.holding name = some h
  channels : ∀ channel common, s.regRecvCqs.query channel = some common → common.cq ∈ opened
  kept : Kept opened s.holding s.hw

namespace Whole

variable {opened : List Ptr} {s s' : Server A R}

theorem holding_same (whole : Whole opened s) (registered : s'.registeredQps = s.registeredQps)
    (pointed : ∀ p < s.fresh, s'.qps p = s.qps p) : s'.holding = s.holding := by
  funext name
  unfold Server.holding
  rw [registered]
  cases found : s.registeredQps.query name with
  | none => rfl
  | some p => rw [Option.bind_some, Option.bind_some, pointed p (whole.old name p found)]

theorem quiet (whole : Whole opened s) (registered : s'.registeredQps = s.registeredQps)
    (pointed : ∀ p < s.fresh, s'.qps p = s.qps p) (fresh : s.fresh ≤ s'.fresh)
    (channels : s'.regRecvCqs = s.regRecvCqs) (kept : Kept opened s.holding s'.hw) : Whole opened s' := by
  have holding := whole.holding_same registered pointed
  refine ⟨?_, ?_, ?_, ?_, ?_⟩
  · rw [registered]
    exact fun name p found => Nat.lt_of_lt_of_le (whole.old name p found) fresh
  · rw [registered]
    exact whole.single
  · rw [registered, holding]
    exact whole.holds
  · rw [channels]
    exact whole.channels
  · rw [holding]
    exact kept

theorem same (whole : Whole opened s) (registered : s'.registeredQps = s.registeredQps) (pointed : s'.qps = s.qps)
    (fresh : s.fresh ≤ s'.fresh) (channels : s'.regRecvCqs = s.regRecvCqs) (same : s'.hw.objects = s.hw.objects) :
    Whole opened s' :=
  whole.quiet registered (fun p _ => by rw [pointed]) fresh channels (whole.kept.congr same)

theorem register (whole : Whole opened s) {name : Name} (absent : name ∉ s.registeredQps.store) {key : U64}
    {rc : Dummy} {config : QPConfig} {recvCq : Option Ptr} (given : ∀ c, recvCq = some c → c ∈ opened) {qpNum : U32}
    (registered : s'.registeredQps = { store := s.registeredQps.store.insert name (s.fresh, key) })
    (pointed : s'.qps = Function.update s.qps s.fresh (some rc)) (fresh : s'.fresh = s.fresh + 1)
    (channels : s'.regRecvCqs = s.regRecvCqs) (made : rc.holding = some ⟨s.hw.fresh + 1, s.hw.fresh, recvCq⟩)
    (same : s'.hw.objects = (RC.resetHw config recvCq qpNum s.hw).objects) : Whole opened s' := by
  have holding : s'.holding =
      Function.update s.holding name (some ⟨s.hw.fresh + 1, s.hw.fresh, recvCq⟩) := by
    funext n
    unfold Server.holding
    rw [registered, Factory.query_insert, pointed]
    by_cases here : n = name
    · subst n
      rw [if_pos rfl, Option.bind_some, Function.update_self, Option.bind_some, made, Function.update_self]
    · rw [if_neg here, Function.update_of_ne here]
      cases found : s.registeredQps.query n with
      | none => rfl
      | some p =>
        rw [Option.bind_some, Option.bind_some, Function.update_of_ne (Nat.ne_of_lt (whole.old n p found))]
  have free : s.holding name = none := by
    unfold Server.holding
    rw [(s.registeredQps.query_none name).mpr absent]
    rfl
  refine ⟨?_, ?_, ?_, ?_, ?_⟩
  · rw [registered, fresh]
    exact fun n p => Factory.insert_old whole.old
  · rw [registered]
    exact fun n n' p => Factory.insert_single whole.old whole.single
  · intro n present
    rw [registered] at present
    rw [holding]
    by_cases here : n = name
    · subst n
      exact ⟨_, Function.update_self _ _ _⟩
    · rw [Function.update_of_ne here]
      exact whole.holds n ((Finmap.mem_insert.mp present).resolve_left here)
  · rw [channels]
    exact whole.channels
  · rw [holding]
    exact whole.kept.add free config given qpNum same

theorem lookup_query {f : Factory Name Ptr} {name : Name} {p : Ptr} {key : U64}
    (found : f.store.lookup name = some (p, key)) : f.query name = some p := by
  rw [Factory.query, found, Option.map_some]

theorem pointed (whole : Whole opened s) {name : Name} {p : Ptr} (found : s.registeredQps.query name = some p) :
    ∃ rc h, s.qps p = some rc ∧ rc.holding = some h ∧ s.holding name = some h := by
  obtain ⟨h, holds⟩ := whole.holds name ((s.registeredQps.query_isSome name).mp (by rw [found]; rfl))
  have same := holds
  unfold Server.holding at holds
  rw [found, Option.bind_some] at holds
  obtain ⟨rc, there, made⟩ := Option.bind_eq_some_iff.mp holds
  exact ⟨rc, h, there, made, same⟩

theorem lookup_others (whole : Whole opened s) {name : Name} {p : Ptr} {key : U64}
    (found : s.registeredQps.store.lookup name = some (p, key)) {n : Name} {q : Ptr} (other : n ≠ name)
    (found' : s.registeredQps.query n = some q) : q ≠ p := by
  rintro rfl
  exact other (whole.single n name q found' (lookup_query found))

theorem holding_drop (whole : Whole opened s) {name : Name} {p : Ptr} {key : U64}
    (found : s.registeredQps.store.lookup name = some (p, key)) :
    (drop { s with registeredQps := { store := s.registeredQps.store.erase name } } p).holding =
      Function.update s.holding name none := by
  funext n
  unfold Server.holding
  change
    ((Factory.query { store := s.registeredQps.store.erase name } n).bind (Function.update s.qps p none)).bind _ = _
  rw [Factory.query_erase]
  by_cases here : n = name
  · subst n
    rw [if_pos rfl, Function.update_self]
    rfl
  · rw [if_neg here, Function.update_of_ne here]
    cases found' : s.registeredQps.query n with
    | none => rfl
    | some q =>
      rw [Option.bind_some, Option.bind_some, Function.update_of_ne (whole.lookup_others found here found')]

theorem delete (whole : Whole opened s) {name : Name} {p : Ptr} {key : U64}
    (found : s.registeredQps.store.lookup name = some (p, key)) (destroys : s.env.calls.destroyQp = true) :
    Whole opened (drop { s with registeredQps := { store := s.registeredQps.store.erase name } } p) := by
  obtain ⟨rc, h, there, made, holds⟩ := whole.pointed (lookup_query found)
  obtain ⟨qp, cq, recvCq⟩ := Dummy.holding_some made
  have gone : rc.gone s.env.calls = some h.qp := by
    rw [Dummy.gone, if_pos destroys, qp]
  have holding := whole.holding_drop found
  generalize after : drop { s with registeredQps := { store := s.registeredQps.store.erase name } } p = s' at holding ⊢
  have registered : s'.registeredQps = { store := s.registeredQps.store.erase name } := by rw [← after]; rfl
  have hw : s'.hw = rc.destroy s.env.calls s.hw := by
    rw [← after]
    simp only [drop, there, Option.elim_some]
  have known : ∀ n q, s'.registeredQps.query n = some q → n ≠ name ∧ s.registeredQps.query n = some q := by
    intro n q found'
    rw [registered, Factory.query_erase] at found'
    split at found'
    · cases found'
    · rename_i other
      exact ⟨other, found'⟩
  refine ⟨?_, ?_, ?_, ?_, ?_⟩
  · intro n q found'
    rw [show s'.fresh = s.fresh by rw [← after]; rfl]
    exact whole.old n q (known n q found').2
  · exact fun n n' q first second => whole.single n n' q (known n q first).2 (known n' q second).2
  · intro n present
    rw [registered] at present
    obtain ⟨other, present⟩ := Finmap.mem_erase.mp present
    rw [holding, Function.update_of_ne other]
    exact whole.holds n present
  · rw [show s'.regRecvCqs = s.regRecvCqs by rw [← after]; rfl]
    exact whole.channels
  · rw [holding, hw]
    obtain ⟨fresh, attached⟩ := rc.destroy_attached s.env.calls s.hw
    apply whole.kept.remove holds (rc.destroy_bounded s.env.calls whole.kept.bounded) fresh
    · rwa [gone] at attached
    · intro c
      rw [Dummy.destroy_live, gone, cq, recvCq, Option.some.injEq]

/-- The queue pair of a name that was deleted is nobody's if it was not destroyed. -/
theorem delete_leaks (whole : Whole opened s) {name : Name} {p : Ptr} {key : U64}
    (found : s.registeredQps.store.lookup name = some (p, key)) (failed : s.env.calls.destroyQp = false) :
    ∃ q, (drop { s with registeredQps := { store := s.registeredQps.store.erase name } } p).hw.LiveQp q ∧
      ∀ n h, (drop { s with registeredQps := { store := s.registeredQps.store.erase name } } p).holding n = some h →
        h.qp ≠ q := by
  obtain ⟨rc, h, there, made, holds⟩ := whole.pointed (lookup_query found)
  refine ⟨h.qp, ?_, ?_⟩
  · obtain ⟨e, member, same⟩ := (s.hw.liveQp_iff h.qp).mp (whole.kept.live name h holds).1
    have gone : rc.gone s.env.calls = none := by
      rw [Dummy.gone, failed]
      rfl
    have attached := (rc.destroy_attached s.env.calls s.hw).2
    rw [gone] at attached
    simp only [drop, there, Option.elim_some]
    rw [Hardware.liveQp_iff]
    exact ⟨e, (attached e).mpr ⟨member, Option.some_ne_none _⟩, same⟩
  · intro n g rest
    rw [whole.holding_drop found] at rest
    by_cases here : n = name
    · subst n
      rw [Function.update_self] at rest
      cases rest
    · rw [Function.update_of_ne here] at rest
      exact fun shared => here (whole.kept.apart n name g h rest holds (.inl shared))

end Whole

/-- Each registered name has a queue pair and a send CQ that no other name has, and all else there is are
    CQs that the program opened itself. -/
structure Accounted (opened : List Ptr) (s : Server A R) : Prop where
  registered : ∀ name ∈ s.registeredQps.store, ∃ h, s.holding name = some h ∧ s.hw.LiveQp h.qp ∧ s.hw.LiveCq h.cq ∧
    h.cq ∉ opened
  qps : ∀ p, s.hw.LiveQp p → ∃! name, ∃ h, s.holding name = some h ∧ h.qp = p
  cqs : ∀ c, s.hw.LiveCq c → c ∉ opened → ∃! name, ∃ h, s.holding name = some h ∧ h.cq = c

theorem Whole.accounted {opened : List Ptr} {s : Server A R} (whole : Whole opened s) : Accounted opened s where
  registered name present := by
    obtain ⟨h, holds⟩ := whole.holds name present
    obtain ⟨qp, cq⟩ := whole.kept.live name h holds
    exact ⟨h, holds, qp, cq, (whole.kept.own name h holds).1⟩
  qps p live := by
    obtain ⟨e, member, same⟩ := (s.hw.liveQp_iff p).mp live
    obtain ⟨name, h, holds, attached, _⟩ := whole.kept.attached e member
    refine ⟨name, ⟨h, holds, attached.symm.trans same⟩, ?_⟩
    rintro name' ⟨h', holds', same'⟩
    exact whole.kept.apart name' name h' h holds' holds (.inl (same'.trans (same.symm.trans attached)))
  cqs c live new := by
    obtain ⟨name, h, holds, same⟩ := whole.kept.cqs c live new
    refine ⟨name, ⟨h, holds, same⟩, ?_⟩
    rintro name' ⟨h', holds', same'⟩
    exact whole.kept.apart name' name h' h holds' holds (.inr (same'.trans same.symm))

/-- The QP object made for the request is destroyed again before it is answered. -/
def DiscardsNew (req : RCReq) (nic : RNic) (s : Server A R) : Prop :=
  ∃ qpNum name, Makes req s qpNum name ∧
    (name ∈ s.registeredQps.store ∨ s.env.calls.queryQp = true ∧ nic.Complete ∧ ¬Connectable s.env.calls)

/-- The request destroys a QP object. -/
def Discards (op : ControlOp) (b : ByteBuffer) (s : Server A R) : Prop :=
  match op with
  | .CreateRC => ∃ req nic, Admits b s req nic ∧ DiscardsNew req nic s
  | .CreateRCM => ∃ req nic recvCq, Admits b s req nic ∧ recvCqOf req s = .ok recvCq ∧ DiscardsNew req nic s
  | .DeleteRC => ∃ req name p, dedump DelRCReq.format b = some req ∧ req.nameString = .ok name ∧
      s.registeredQps.store.lookup name = some (p, req.key)

/-- How a request ends: it ends the server, it leaves everything accounted for, or it leaves a queue pair
    that `ibv_destroy_qp` refused to destroy. -/
inductive Settles (opened : List Ptr) (s : Server A R) (discards : Prop) : Except Exit ByteBuffer × Server A R → Prop
  | ended {e : Exit} {s' : Server A R} (fatal : e ≠ .exception) (keeps : ¬discards) :
      Settles opened s discards (.error e, s')
  | whole {reply : Except Exit ByteBuffer} {s' : Server A R} (whole : Whole opened s')
      (keeps : discards → s.env.calls.destroyQp = true) : Settles opened s discards (reply, s')
  | leaked {reply : ByteBuffer} {s' : Server A R} {p : Ptr} (does : discards)
      (failed : s.env.calls.destroyQp = false) (live : s'.hw.LiveQp p)
      (nobody : ∀ name h, s'.holding name = some h → h.qp ≠ p) : Settles opened s discards (.ok reply, s')

theorem Settles.discarded {opened : List Ptr} {s s' : Server A R} {discards : Prop} {reply : ByteBuffer}
    (does : discards) (whole : s.env.calls.destroyQp = true → Whole opened s')
    (leaked : s.env.calls.destroyQp = false → ∃ p, s'.hw.LiveQp p ∧ ∀ name h, s'.holding name = some h → h.qp ≠ p) :
    Settles opened s discards (.ok reply, s') := by
  cases destroys : s.env.calls.destroyQp with
  | true => exact .whole (whole destroys) (fun _ => destroys)
  | false =>
    obtain ⟨p, live, nobody⟩ := leaked destroys
    exact .leaked does destroys live nobody

variable {opened : List Ptr} {s : Server A R}

theorem Whole.leaks (whole : Whole opened s) {s' : Server A R} {req : RCReq} {nic : RNic} {recvCq : Option Ptr}
    {qpNum : U32} {hw : Hardware} (failed : s.env.calls.destroyQp = false)
    (same : hw.objects = (RC.madeHw s.env.calls nic req.config recvCq qpNum s.hw).objects)
    (left : s'.hw = (RC.made nic req.config recvCq qpNum s.hw).destroy s.env.calls hw)
    (holding : s'.holding = s.holding) : ∃ p, s'.hw.LiveQp p ∧ ∀ name h, s'.holding name = some h → h.qp ≠ p := by
  refine ⟨s.hw.fresh + 1, ?_, ?_⟩
  · have reset := same.trans (RC.madeHw_objects s.env.calls nic req.config recvCq qpNum s.hw)
    have gone : (RC.made nic req.config recvCq qpNum s.hw).gone s.env.calls = none := by
      rw [Dummy.gone, failed]
      rfl
    have attached := ((RC.made nic req.config recvCq qpNum s.hw).destroy_attached s.env.calls hw).2
    rw [gone] at attached
    rw [left, Hardware.liveQp_iff]
    refine ⟨(s.hw.fresh + 1, ⟨s.hw.fresh, recvCq.getD s.hw.fresh, req.config.maxSendSize, req.config.maxRecvSize,
      kMaxInlinSz⟩), (attached _).mpr ⟨?_, Option.some_ne_none _⟩, rfl⟩
    rw [reset]
    exact List.mem_cons_self
  · intro name h holds
    rw [holding] at holds
    have bound := whole.kept.bounded.liveQp (whole.kept.live name h holds).1
    exact Nat.ne_of_lt (Nat.lt_succ_of_lt bound)

theorem afterCreate_settles {req : RCReq} {nic : RNic} {recvCq : Option Ptr} (whole : Whole opened s)
    (given : ∀ c, recvCq = some c → c ∈ opened) {rest : Ptr × U64 → Server A R → Except Exit ByteBuffer × Server A R}
    (goesOn : ∀ p key s' qp, (s'.qps p).bind Dummy.qp = some qp → Whole opened s' →
      (∃ e s'', rest (p, key) s' = (.error e, s'') ∧ e ≠ .exception) ∨ Whole opened (rest (p, key) s').2) :
    Settles opened s (DiscardsNew req nic s) (orWrongArg (createAndConnect req nic recvCq s) rest) := by
  have creates := createAndConnect_creates req nic recvCq s
  generalize createAndConnect req nic recvCq s = outcome at creates
  have discardsMade : ∀ {qpNum name}, Makes req s qpNum name → DiscardsNew req nic s →
      name ∈ s.registeredQps.store ∨ s.env.calls.queryQp = true ∧ nic.Complete ∧ ¬Connectable s.env.calls := by
    rintro qpNum name makes ⟨qpNum', name', makes', discards⟩
    cases makes.named.symm.trans makes'.named
    exact discards
  cases creates with
  | refused refused =>
    refine .whole (whole.quiet rfl (fun _ _ => rfl) (Nat.le_refl _) rfl (whole.kept.refused given refused)) ?_
    rintro ⟨qpNum, name, makes, _⟩
    rcases refused with refused | refused
    · cases refused.symm.trans makes.madeCq
    · cases refused.symm.trans makes.madeQp
  | unreadable madeQp unreadable =>
    refine .ended nofun ?_
    rintro ⟨qpNum, name, makes, _⟩
    cases unreadable.symm.trans makes.named
  | @taken qpNum name makes present =>
    refine .discarded ⟨qpNum, name, makes, .inl present⟩ ?_ ?_
    · intro destroys
      exact whole.quiet rfl (fun _ _ => rfl) (Nat.le_refl _) rfl (whole.kept.vain given qpNum destroys rfl)
    · exact fun failed => whole.leaks failed rfl rfl rfl
  | aborted makes absent failed =>
    refine .ended nofun (fun discards => ?_)
    rcases discardsMade makes discards with present | ⟨queried, _⟩
    · exact absent present
    · cases failed.symm.trans queried
  | @stranded qpNum name makes absent queried incomplete =>
    refine .whole (whole.register absent given rfl rfl rfl rfl rfl (RC.madeHw_objects _ nic req.config _ _ _)) ?_
    intro discards
    rcases discardsMade makes discards with present | ⟨_, complete, _⟩
    · exact absurd present absent
    · exact absurd complete incomplete
  | @undone qpNum name hw makes absent queried complete failed same =>
    have pointed : ∀ p < s.fresh, Function.update s.qps s.fresh none p = s.qps p :=
      fun p old => Function.update_of_ne (Nat.ne_of_lt old) _ _
    refine .discarded ⟨qpNum, name, makes, .inr ⟨queried, complete, failed⟩⟩ ?_ ?_
    · intro destroys
      exact whole.quiet rfl pointed (Nat.le_succ _) rfl (whole.kept.vain given qpNum destroys same)
    · exact fun refused => whole.leaks refused same rfl (whole.holding_same rfl pointed)
  | @connected qpNum name hw makes absent queried complete steps same _ =>
    have keeps : ¬DiscardsNew req nic s := by
      intro discards
      rcases discardsMade makes discards with present | ⟨_, _, failed⟩
      · exact absent present
      · exact failed steps
    have registered : Whole opened
        { afterReg req nic recvCq s qpNum name with
          hw := hw
          qps := Function.update s.qps s.fresh
            (some { RC.made nic req.config recvCq qpNum s.hw with status := .Ok }) } :=
      whole.register absent given rfl rfl rfl rfl rfl (same.trans (RC.madeHw_objects _ nic req.config _ _ _))
    have there : ((Function.update s.qps s.fresh
        (some { RC.made nic req.config recvCq qpNum s.hw with status := .Ok })) s.fresh).bind Dummy.qp =
          some ⟨s.hw.fresh + 1, qpNum⟩ := by
      rw [Function.update_self]
      rfl
    rcases goesOn s.fresh s.env.qpKey.value _ _ there registered with ⟨e, s'', ends, fatal⟩ | whole'
    · rw [orWrongArg, ends]
      exact .ended fatal keeps
    · exact .whole whole' (fun discards => absurd discards keeps)

theorem rcHandler_settles (whole : Whole opened s) (b : ByteBuffer) :
    Settles opened s (Discards .CreateRC b s) (rcHandler b s) := by
  unfold rcHandler
  rcases handleCreate_cases createRc b s with ⟨req, nic, admits, handled⟩ | ⟨idle, reply, handled, _⟩
  · have only : Discards .CreateRC b s ↔ DiscardsNew req nic s := by
      constructor
      · rintro ⟨req', nic', admits', discards⟩
        obtain ⟨rfl, rfl⟩ := admits.unique admits'
        exact discards
      · exact fun discards => ⟨req, nic, admits, discards⟩
    have given : ∀ c, (none : Option Ptr) = some c → c ∈ opened := by
      intro c none'
      cases none'
    rw [handled, propext only]
    exact afterCreate_settles whole given (fun _ _ _ _ _ whole' => .inr whole')
  · rw [handled]
    refine .whole whole ?_
    rintro ⟨req, nic, admits, _⟩
    exact absurd admits (idle req nic)

theorem armRecv_whole [AbsRecvAllocator A] (req : RCReq) {p : Ptr} {qp : QpHandle} (whole : Whole opened s)
    (made : (s.qps p).bind Dummy.qp = some qp) :
    (∃ e s', armRecv req p s = (.error e, s') ∧ e ≠ .exception) ∨ Whole opened (armRecv req p s).2 := by
  have arms := armRecv_arms req made
  generalize armRecv req p s = outcome at arms
  cases arms with
  | unreadable unreadable => exact .inr whole
  | missing namedRecv missing => exact .inr whole
  | exhausted namedRecv found runsOut => exact .inr (whole.same rfl rfl (Nat.le_refl _) rfl rfl)
  | unnamed unreadable => exact .inr whole
  | taken feeds named present => exact .inr whole
  | unposted feeds failed => exact .inl ⟨_, _, rfl, nofun⟩
  | armed feeds created named absent =>
    exact .inr (whole.same rfl rfl (Nat.le_succ _) rfl (Hardware.postRecv_objects _ _ _))

theorem msgRcHandler_settles [AbsRecvAllocator A] (whole : Whole opened s) (b : ByteBuffer) :
    Settles opened s (Discards .CreateRCM b s) (msgRcHandler b s) := by
  unfold msgRcHandler
  rcases handleCreate_cases createMsgRc b s with ⟨req, nic, admits, handled⟩ | ⟨idle, reply, handled, _⟩
  · rw [handled, createMsgRc]
    rcases recvCqOf_cases req s with ⟨recvCq, readable, _⟩ | ⟨failed, _⟩
    · have only : Discards .CreateRCM b s ↔ DiscardsNew req nic s := by
        constructor
        · rintro ⟨req', nic', recvCq', admits', _, discards⟩
          obtain ⟨rfl, rfl⟩ := admits.unique admits'
          exact discards
        · exact fun discards => ⟨req, nic, recvCq, admits, readable, discards⟩
      have given : ∀ c, recvCq = some c → c ∈ opened := by
        rintro c rfl
        obtain ⟨channel, common, found, rfl⟩ := recvCqOf_registered readable
        exact whole.channels channel common found
      rw [readable, propext only]
      apply afterCreate_settles whole given
      intro p key s' qp made whole'
      have arms := armRecv_whole req whole' made
      simp only
      generalize armRecv req p s' = outcome at arms
      rcases outcome with ⟨e | _, s''⟩
      · refine arms.imp_left ?_
        rintro ⟨e, _, ends, fatal⟩
        cases ends
        exact ⟨e, _, rfl, fatal⟩
      · refine arms.elim ?_ .inr
        rintro ⟨e, _, ends, _⟩
        cases ends
    · rw [failed]
      refine .ended (by simp) ?_
      rintro ⟨req', nic', recvCq', admits', readable, _⟩
      obtain ⟨rfl, rfl⟩ := admits.unique admits'
      cases failed.symm.trans readable
  · rw [handled]
    refine .whole whole ?_
    rintro ⟨req, nic, _, admits, _⟩
    exact absurd admits (idle req nic)

theorem deleteRc_settles (whole : Whole opened s) (b : ByteBuffer) :
    Settles opened s (Discards .DeleteRC b s) (deleteRc b s) := by
  have deletes := deleteRc_deletes b s
  generalize deleteRc b s = outcome at deletes
  cases deletes with
  | unparsed failed =>
    refine .whole whole ?_
    rintro ⟨req, name, p, parsed, _⟩
    cases parsed.symm.trans failed
  | unreadable parsed failed =>
    rw [cString_error failed]
    refine .ended nofun ?_
    rintro ⟨req, name, p, parsed', named, _⟩
    cases parsed.symm.trans parsed'
    cases named.symm.trans failed
  | unknown parsed named absent =>
    refine .whole whole ?_
    rintro ⟨req, name, p, parsed', named', found⟩
    cases parsed.symm.trans parsed'
    cases named.symm.trans named'
    exact absurd found (absent p)
  | @deleted req name p parsed named found =>
    refine .discarded ⟨req, name, p, parsed, named, found⟩ (whole.delete found) ?_
    intro refused
    exact whole.delete_leaks found refused

end

/-- A server under requests, and the CQs that the server program made with `create_cq` itself. -/
structure Ledger (A : Type) (R : Nat) [NeZero R] where
  host : Host A R
  opened : List Ptr := []

namespace Ledger

variable {A : Type} {R : Nat} [NeZero R]

/-- A server that has what its program registered, and no queue pair yet. -/
def boot (openedNics : Factory U64 RNic) (registeredMrs : Factory U64 RegHandler)
    (registeredDcs : Factory Name DCTarget) (allocators : Ptr → A) (env : Env) : Ledger A R where
  host := { server := {
    openedNics := openedNics
    registeredMrs := registeredMrs
    registeredDcs := registeredDcs
    allocators := allocators
    env := env } }

def Accounted (l : Ledger A R) : Prop := l.host.halted = none → RLib.Accounted l.opened l.host.server

/-- The request destroys a QP object whose queue pair `ibv_destroy_qp` refuses to destroy. -/
def Leaks (l : Ledger A R) : HostEvent → Prop
  | .request env op parameter =>
    env.calls.destroyQp = false ∧ Discards op parameter { l.host.server with env := env }
  | _ => False

/-- One event. A channel is registered with a CQ that the program made for it. -/
def step [AbsRecvAllocator A] (l : Ledger A R) (e : HostEvent) : Option (Ledger A R) :=
  match e with
  | .request .. => (l.host.step e).map (fun host => { l with host := host })
  | .openCq _ => (l.host.step e).map (fun host => ⟨host, l.host.server.hw.fresh :: l.opened⟩)
  | .regChannel _ _ common =>
    if common.cq ∈ l.opened then (l.host.step e).map (fun host => { l with host := host }) else none

def Inv (l : Ledger A R) : Prop := l.host.halted = none → Whole l.opened l.host.server

theorem settles_kept {opened : List Ptr} {s : Server A R} {discards : Prop}
    {outcome : Except Exit ByteBuffer × Server A R} (settles : Settles opened s discards outcome) :
    (Accounted ⟨Host.settle outcome, opened⟩ ↔ ¬(s.env.calls.destroyQp = false ∧ discards)) ∧
      (¬(s.env.calls.destroyQp = false ∧ discards) → Inv ⟨Host.settle outcome, opened⟩) := by
  unfold Accounted Inv
  cases settles with
  | @ended e s' fatal keeps =>
    have halted : (Host.settle (.error e, s')).halted ≠ none := by
      cases e
      · exact absurd rfl fatal
      all_goals exact nofun
    refine ⟨iff_of_true (fun alive => absurd alive halted) (fun both => keeps both.2), ?_⟩
    exact fun _ alive => absurd alive halted
  | whole whole keeps =>
    rw [Host.settle_server]
    refine ⟨iff_of_true (fun _ => whole.accounted) ?_, fun _ _ => whole⟩
    rintro ⟨refused, discards⟩
    cases refused.symm.trans (keeps discards)
  | leaked does failed live nobody =>
    refine ⟨iff_of_false ?_ (not_not_intro ⟨failed, does⟩), fun none' => absurd ⟨failed, does⟩ none'⟩
    intro accounted
    obtain ⟨name, ⟨h, holds, same⟩, _⟩ := (accounted rfl).qps _ live
    exact nobody name h holds same

variable [AbsRecvAllocator A]

theorem step_kept {l l' : Ledger A R} {e : HostEvent} (inv : l.Inv) (happens : l.step e = some l') :
    (l'.Accounted ↔ ¬l.Leaks e) ∧ (¬l.Leaks e → l'.Inv) := by
  have alive : l.host.halted = none := by
    cases halted : l.host.halted with
    | none => rfl
    | some exit =>
      cases e <;> simp [step, Host.step, halted] at happens
  have whole := inv alive
  cases e with
  | request env op parameter =>
    have stepped : l.host.step (.request env op parameter) =
        some (Host.serveControl op parameter { l.host.server with env := env }) := by
      rw [Host.step, alive]
      rfl
    rw [step, stepped] at happens
    cases happens
    have whole' : Whole l.opened { l.host.server with env := env } :=
      whole.same rfl rfl (Nat.le_refl _) rfl rfl
    rw [Host.serveControl_eq]
    cases op with
    | CreateRC => exact settles_kept (rcHandler_settles whole' parameter)
    | CreateRCM => exact settles_kept (msgRcHandler_settles whole' parameter)
    | DeleteRC => exact settles_kept (deleteRc_settles whole' parameter)
  | openCq cqe =>
    have stepped : l.host.step (.openCq cqe) =
        some { l.host with server := { l.host.server with hw := (l.host.server.hw.createCq cqe).2 } } := by
      simp only [Host.step, alive, Option.isSome_none, Bool.false_eq_true, ↓reduceIte]
    rw [step, stepped] at happens
    cases happens
    have whole' : Whole (l.host.server.hw.fresh :: l.opened)
        { l.host.server with hw := (l.host.server.hw.createCq cqe).2 } := by
      refine ⟨whole.old, whole.single, whole.holds, ?_, whole.kept.openCq cqe⟩
      exact fun channel common found => List.mem_cons_of_mem _ (whole.channels channel common found)
    exact ⟨iff_of_true (fun _ => whole'.accounted) not_false, fun _ _ => whole'⟩
  | regChannel key name common =>
    simp only [step] at happens
    split at happens
    · rename_i ours
      simp only [Host.step, alive, Option.isSome_none, Bool.false_eq_true, ↓reduceIte] at happens
      split at happens
      · cases happens
        have whole' : Whole l.opened
            { l.host.server with regRecvCqs := (l.host.server.regRecvCqs.reg key name common).2 } := by
          refine ⟨whole.old, whole.single, whole.holds, ?_, whole.kept⟩
          intro channel common' found
          rcases Factory.query_reg found with rfl | before
          · exact ours
          · exact whole.channels channel common' before
        exact ⟨iff_of_true (fun _ => whole'.accounted) not_false, fun _ _ => whole'⟩
      · cases happens
    · cases happens

/-- In every state of a run the queue pairs and CQs there are belong one to one to the registered names, but for
    the CQs the program opened, exactly as long as `ibv_destroy_qp` refuses no queue pair of a QP object that a
    request destroys. -/
theorem accounted_iff (openedNics : Factory U64 RNic) (registeredMrs : Factory U64 RegHandler)
    (registeredDcs : Factory Name DCTarget) (allocators : Ptr → A) (env : Env) (events : List HostEvent) :
    Throughout step Accounted (boot openedNics registeredMrs registeredDcs allocators env : Ledger A R) events ↔
      Along step (fun (l : Ledger A R) e => ¬l.Leaks e) (boot openedNics registeredMrs registeredDcs allocators env)
        events := by
  have start : Inv (boot openedNics registeredMrs registeredDcs allocators env : Ledger A R) := by
    intro _
    refine ⟨nofun, nofun, ?_, nofun, ⟨⟨nofun, nofun⟩, nofun, nofun, nofun, nofun, nofun, nofun⟩⟩
    exact fun name present => absurd present (Finmap.notMem_empty)
  have always : Along step (fun _ _ => True)
      (boot openedNics registeredMrs registeredDcs allocators env : Ledger A R) events :=
    along_of_forall (fun _ _ _ => trivial)
  have keeps : ∀ (l : Ledger A R) (e : HostEvent) (l' : Ledger A R), True → l.Inv → l.Accounted →
      step l e = some l' → (l'.Accounted ↔ ¬l.Leaks e) := fun _ _ _ _ inv _ happens => (step_kept inv happens).1
  have next : ∀ (l : Ledger A R) (e : HostEvent) (l' : Ledger A R), True → l.Inv → l.Accounted → ¬l.Leaks e →
      step l e = some l' → l'.Inv := fun _ _ _ _ inv _ met happens => (step_kept inv happens).2 met
  exact throughout_iff_along_met keeps next start (fun alive => (start alive).accounted) always

/-- A client asks for a receiving queue pair over a channel of the program, and asks for it again. -/
theorem accounted_oneNic :
    Throughout step Accounted (boot oneNic.openedNics oneNic.registeredMrs oneNic.registeredDcs oneNic.allocators
        oneNic.env : Ledger SimpleAllocator 1)
      [.openCq 16, .regChannel .first [99] ⟨0, 0⟩,
        .request oneNic.env .CreateRCM (dump RCReq.format channelRequest),
        .request oneNic.env .CreateRCM (dump RCReq.format channelRequest)] := by
  apply (accounted_iff _ _ _ _ _ _).mpr
  simp [Along, Leaks, oneNic]

end Ledger

end RLib
