import RLib.Common

namespace RLib

/-- What an `ibv_cq *`, `ibv_qp *` or shared pointer points to. Each object gets a pointer of its own,
    so that one that was destroyed is never mistaken for a later one. -/
abbrev Ptr := Nat

inductive QpState where
  | RESET | INIT | RTR | RTS
deriving DecidableEq, Repr

structure AhAttr where
  isGlobal : Bool
  dlid : U16
  sl : U8
  srcPathBits : U8
  portNum : U8
  subnetPrefix : U64
  interfaceId : U64
  sgidIndex : U8
  flowLabel : U32
  hopLimit : U8
deriving DecidableEq

/-- The attributes that the flags of one `ibv_modify_qp` select. -/
inductive QpModify where
  | toInit (pkeyIndex : U16) (portNum : U8) (accessFlags : U32)
  | toRtr (ahAttr : AhAttr) (pathMtu : Nat) (destQpNum rqPsn : U32) (maxDestRdAtomic minRnrTimer : U8)
  | toRts (sqPsn : U32) (timeout retryCnt rnrRetry maxRdAtomic : U8)
deriving DecidableEq

def QpModify.transition : QpModify → QpState × QpState
  | .toInit .. => (.RESET, .INIT)
  | .toRtr .. => (.INIT, .RTR)
  | .toRts .. => (.RTR, .RTS)

structure Sge where
  addr : U64
  length : U32
  lkey : U32
deriving DecidableEq

/-- A receive request in the receive queue of a queue pair. -/
structure RecvWqe where
  wrId : U64
  sge : Sge
deriving DecidableEq

structure QpInitAttr where
  sendCq : Ptr
  recvCq : Ptr
  maxSendWr : U32
  maxRecvWr : U32
  maxInlineData : U32
deriving DecidableEq

structure IbvQp where
  ptr : Ptr
  qpNum : U32
  init : QpInitAttr
  state : QpState := .RESET
  /-- Every accepted `ibv_modify_qp`, the last one first. -/
  modified : List QpModify := []
  rq : List RecvWqe := []
deriving DecidableEq

def IbvQp.modify (q : IbvQp) (m : QpModify) : IbvQp :=
  { q with state := m.transition.2, modified := m :: q.modified }

def IbvQp.attached (qp : IbvQp) (cq : Ptr) : Bool := qp.init.sendCq = cq || qp.init.recvCq = cq

structure IbvCq where
  ptr : Ptr
  cqe : U32
deriving DecidableEq

/-- The live objects of the verbs library; `fresh` is the next pointer it gives out. -/
structure Hardware where
  fresh : Ptr := 0
  cqs : List IbvCq := []
  qps : List IbvQp := []
deriving DecidableEq

/-- What the verbs library answers while one request is handled, which makes each call at most once.
    `ibv_create_qp` also chooses the queue pair number. -/
structure VerbsCalls where
  createCq : Bool := true
  createQp : Option U32
  toInit : Bool := true
  queryQp : Bool := true
  toRtr : Bool := true
  toRts : Bool := true
  postRecv : Bool := true
  destroyQp : Bool := true
deriving DecidableEq

/-- Every verbs call of the request succeeds. -/
structure VerbsCalls.Succeed (calls : VerbsCalls) : Prop where
  createCq : calls.createCq = true
  createQp : calls.createQp.isSome
  toInit : calls.toInit = true
  queryQp : calls.queryQp = true
  toRtr : calls.toRtr = true
  toRts : calls.toRts = true
  postRecv : calls.postRecv = true
  destroyQp : calls.destroyQp = true

namespace Hardware

def LiveCq (hw : Hardware) (cq : Ptr) : Prop := ∃ c ∈ hw.cqs, c.ptr = cq

instance (hw : Hardware) (cq : Ptr) : Decidable (hw.LiveCq cq) := inferInstanceAs (Decidable (∃ c ∈ hw.cqs, _))

def qp (hw : Hardware) (p : Ptr) : Option IbvQp := hw.qps.find? (fun q => q.ptr = p)

def createCq (hw : Hardware) (cqe : U32) : Ptr × Hardware :=
  (hw.fresh, { hw with fresh := hw.fresh + 1, cqs := ⟨hw.fresh, cqe⟩ :: hw.cqs })

def createQp (hw : Hardware) (qpNum : U32) (init : QpInitAttr) : Ptr × Hardware :=
  (hw.fresh, { hw with fresh := hw.fresh + 1, qps := { ptr := hw.fresh, qpNum, init } :: hw.qps })

def updateQp (hw : Hardware) (p : Ptr) (f : IbvQp → IbvQp) : Hardware :=
  { hw with qps := hw.qps.map (fun q => if q.ptr = p then f q else q) }

/-- `ibv_modify_qp`, where `willing` says that nothing but the state of the queue pair is in its way. -/
def modifyQp (hw : Hardware) (willing : Bool) (p : Ptr) (m : QpModify) : Bool × Hardware :=
  match hw.qp p with
  | some q =>
    if willing ∧ q.state = m.transition.1 then
      (true, hw.updateQp p (fun q => q.modify m))
    else (false, hw)
  | none => (false, hw)

/-- `ibv_post_recv` of a list of receive requests. -/
def postRecv (hw : Hardware) (p : Ptr) (wqes : List RecvWqe) : Hardware :=
  hw.updateQp p (fun q => { q with rq := q.rq ++ wqes })

def destroyQp (hw : Hardware) (willing : Bool) (p : Ptr) : Hardware :=
  if willing then { hw with qps := hw.qps.filter (fun q => q.ptr ≠ p) } else hw

/-- `ibv_destroy_cq` succeeds exactly when no live queue pair is attached. -/
def destroyCq (hw : Hardware) (cq : Ptr) : Hardware :=
  if hw.qps.any (fun q => q.attached cq) then hw else { hw with cqs := hw.cqs.filter (fun c => c.ptr ≠ cq) }

theorem updateQp_qp (hw : Hardware) (p r : Ptr) {f : IbvQp → IbvQp} (keeps : ∀ q, (f q).ptr = q.ptr) :
    (hw.updateQp p f).qp r = (hw.qp r).map (fun q => if q.ptr = p then f q else q) := by
  have tested : ((fun q : IbvQp => decide (q.ptr = r)) ∘ fun q => if q.ptr = p then f q else q) =
      fun q => decide (q.ptr = r) := by
    funext q
    simp only [Function.comp]
    split
    · rw [keeps]
    · rfl
  rw [qp, updateQp, List.find?_map, tested, qp]

theorem qp_ptr {hw : Hardware} {p : Ptr} {q : IbvQp} (found : hw.qp p = some q) : q.ptr = p := by
  have tested := List.find?_some (p := fun q : IbvQp => decide (q.ptr = p)) found
  exact of_decide_eq_true tested

theorem createQp_qp (hw : Hardware) (qpNum : U32) (init : QpInitAttr) :
    (hw.createQp qpNum init).2.qp hw.fresh = some { ptr := hw.fresh, qpNum, init } := by
  simp only [createQp, qp, List.find?_cons, decide_true]

def objects (hw : Hardware) : Ptr × List IbvCq × List (Ptr × QpInitAttr) :=
  (hw.fresh, hw.cqs, hw.qps.map (fun q => (q.ptr, q.init)))

theorem updateQp_objects (hw : Hardware) (p : Ptr) {f : IbvQp → IbvQp} (ptr : ∀ q, (f q).ptr = q.ptr)
    (init : ∀ q, (f q).init = q.init) : (hw.updateQp p f).objects = hw.objects := by
  simp only [objects, updateQp, List.map_map, Prod.mk.injEq, true_and]
  apply List.map_congr_left
  intro q _
  simp only [Function.comp]
  split
  · rw [ptr, init]
  · rfl

theorem modifyQp_objects {hw hw' : Hardware} {willing ok : Bool} {p : Ptr} {m : QpModify}
    (done : hw.modifyQp willing p m = (ok, hw')) : hw'.objects = hw.objects := by
  unfold modifyQp at done
  split at done
  · split at done
    · cases done
      exact updateQp_objects hw p (fun _ => rfl) (fun _ => rfl)
    · cases done
      rfl
  · cases done
    rfl

theorem modifyQp_cases {hw hw' : Hardware} {willing ok : Bool} {p : Ptr} {m : QpModify} {q : IbvQp}
    (found : hw.qp p = some q) (done : hw.modifyQp willing p m = (ok, hw')) :
    (ok = true ∧ willing = true ∧ q.state = m.transition.1 ∧ hw'.qp p = some (q.modify m)) ∨
      (ok = false ∧ ¬(willing = true ∧ q.state = m.transition.1) ∧ hw' = hw) := by
  simp only [modifyQp, found] at done
  by_cases accepted : willing = true ∧ q.state = m.transition.1
  · rw [if_pos accepted] at done
    cases done
    have keeps : ∀ q : IbvQp, (q.modify m).ptr = q.ptr := fun _ => rfl
    refine .inl ⟨rfl, accepted.1, accepted.2, ?_⟩
    rw [updateQp_qp hw p p keeps, found, Option.map_some, if_pos (qp_ptr found)]
  · rw [if_neg accepted] at done
    cases done
    exact .inr ⟨rfl, accepted, rfl⟩

def Unposted (hw : Hardware) (p cq : Ptr) : Prop := ∃ q, hw.qp p = some q ∧ q.rq = [] ∧ q.init.recvCq = cq

theorem Unposted.modify {hw hw' : Hardware} {r cq : Ptr} (unposted : hw.Unposted r cq) {willing ok : Bool} {p : Ptr}
    {m : QpModify} (done : hw.modifyQp willing p m = (ok, hw')) : hw'.Unposted r cq := by
  unfold modifyQp at done
  split at done
  · split at done
    · cases done
      obtain ⟨q, found, empty, receives⟩ := unposted
      have keeps : ∀ q : IbvQp, (q.modify m).ptr = q.ptr := fun _ => rfl
      have after := updateQp_qp hw p r keeps
      rw [found, Option.map_some] at after
      refine ⟨_, after, ?_, ?_⟩
      · split
        · exact empty
        · exact empty
      · split
        · exact receives
        · exact receives
    · cases done
      exact unposted
  · cases done
    exact unposted

theorem Unposted.post {hw : Hardware} {p cq : Ptr} (unposted : hw.Unposted p cq) (wqes : List RecvWqe) :
    ∃ q, (hw.postRecv p wqes).qp p = some q ∧ q.rq = wqes ∧ q.init.recvCq = cq := by
  obtain ⟨q, found, empty, receives⟩ := unposted
  have keeps : ∀ q : IbvQp, ({ q with rq := q.rq ++ wqes } : IbvQp).ptr = q.ptr := fun _ => rfl
  have after := updateQp_qp hw p p keeps
  rw [found, Option.map_some, if_pos (qp_ptr found)] at after
  refine ⟨_, after, ?_, receives⟩
  simp only [empty, List.nil_append]

theorem postRecv_objects (hw : Hardware) (p : Ptr) (wqes : List RecvWqe) : (hw.postRecv p wqes).objects = hw.objects :=
  updateQp_objects hw p (fun _ => rfl) (fun _ => rfl)

/-- A live queue pair other than `gone` is attached to `cq`. -/
def UsedBut (hw : Hardware) (gone : Option Ptr) (cq : Ptr) : Prop :=
  ∃ e ∈ hw.objects.2.2, some e.1 ≠ gone ∧ (e.2.sendCq = cq ∨ e.2.recvCq = cq)

theorem usedBut_iff (hw : Hardware) (gone : Option Ptr) (cq : Ptr) :
    hw.UsedBut gone cq ↔ ∃ q ∈ hw.qps, some q.ptr ≠ gone ∧ q.attached cq = true := by
  simp only [UsedBut, objects, List.mem_map, exists_exists_and_eq_and, IbvQp.attached,
    Bool.or_eq_true, decide_eq_true_eq]

theorem liveCq_congr {hw hw' : Hardware} (same : hw'.objects = hw.objects) (cq : Ptr) :
    hw'.LiveCq cq ↔ hw.LiveCq cq := by
  have cqs : hw'.cqs = hw.cqs := congrArg (fun o => o.2.1) same
  rw [LiveCq, LiveCq, cqs]

theorem usedBut_congr {hw hw' : Hardware} (same : hw'.objects = hw.objects) (gone : Option Ptr) (cq : Ptr) :
    hw'.UsedBut gone cq ↔ hw.UsedBut gone cq := by
  rw [UsedBut, UsedBut, same]

theorem destroyQp_live (hw : Hardware) (willing : Bool) (p cq : Ptr) :
    (hw.destroyQp willing p).LiveCq cq ↔ hw.LiveCq cq := by
  unfold destroyQp
  split <;> rfl

theorem destroyQp_usedBut (hw : Hardware) (willing : Bool) (p cq : Ptr) :
    (hw.destroyQp willing p).UsedBut none cq ↔ hw.UsedBut (if willing then some p else none) cq := by
  rw [usedBut_iff, usedBut_iff, destroyQp]
  cases willing with
  | false => rfl
  | true =>
    simp only [↓reduceIte, List.mem_filter, decide_eq_true_eq, ne_eq, reduceCtorEq, not_false_eq_true, true_and,
      Option.some.injEq, and_assoc]

theorem destroyCq_usedBut (hw : Hardware) (gone : Option Ptr) (p cq : Ptr) :
    (hw.destroyCq p).UsedBut gone cq ↔ hw.UsedBut gone cq := by
  unfold destroyCq
  split <;> rfl

theorem destroyCq_live (hw : Hardware) (p cq : Ptr) :
    (hw.destroyCq p).LiveCq cq ↔ hw.LiveCq cq ∧ ¬(p = cq ∧ ¬hw.UsedBut none cq) := by
  have used : hw.qps.any (fun q => q.attached p) = true ↔ hw.UsedBut none p := by
    simp only [usedBut_iff, List.any_eq_true, ne_eq, reduceCtorEq, not_false_eq_true, true_and]
  unfold destroyCq
  by_cases busy : hw.UsedBut none p
  · rw [if_pos (used.mpr busy)]
    constructor
    · intro live
      refine ⟨live, ?_⟩
      rintro ⟨rfl, idle⟩
      exact idle busy
    · exact And.left
  · rw [if_neg (fun any => busy (used.mp any))]
    constructor
    · rintro ⟨c, member, rfl⟩
      simp only [List.mem_filter, decide_eq_true_eq] at member
      exact ⟨⟨c, member.1, rfl⟩, fun dies => member.2 dies.1.symm⟩
    · rintro ⟨⟨c, member, rfl⟩, spared⟩
      have other : c.ptr ≠ p := by
        rintro rfl
        exact spared ⟨rfl, busy⟩
      exact ⟨c, List.mem_filter.mpr ⟨member, decide_eq_true other⟩, rfl⟩

theorem destroyCq_elim_live (hw : Hardware) (p : Option Ptr) (cq : Ptr) :
    (p.elim hw hw.destroyCq).LiveCq cq ↔ hw.LiveCq cq ∧ ¬(p = some cq ∧ ¬hw.UsedBut none cq) := by
  cases p with
  | none => simp only [Option.elim_none, reduceCtorEq, false_and, not_false_eq_true, and_true]
  | some p => simp only [Option.elim_some, Option.some.injEq, destroyCq_live]

theorem destroyCq_elim_usedBut (hw : Hardware) (p : Option Ptr) (gone : Option Ptr) (cq : Ptr) :
    (p.elim hw hw.destroyCq).UsedBut gone cq ↔ hw.UsedBut gone cq := by
  cases p with
  | none => exact Iff.rfl
  | some p => exact hw.destroyCq_usedBut gone p cq

structure Bounded (hw : Hardware) : Prop where
  cqs : ∀ c ∈ hw.cqs, c.ptr < hw.fresh
  qps : ∀ q ∈ hw.qps, q.ptr < hw.fresh

theorem Bounded.live {hw : Hardware} (bounded : hw.Bounded) {cq : Ptr} (live : hw.LiveCq cq) : cq < hw.fresh := by
  obtain ⟨c, member, rfl⟩ := live
  exact bounded.cqs c member

theorem Bounded.congr {hw hw' : Hardware} (bounded : hw.Bounded) (same : hw'.objects = hw.objects) : hw'.Bounded := by
  have fresh : hw'.fresh = hw.fresh := congrArg (fun o => o.1) same
  have cqs : hw'.cqs = hw.cqs := congrArg (fun o => o.2.1) same
  have qps : hw'.qps.map IbvQp.ptr = hw.qps.map IbvQp.ptr := by
    have := congrArg (fun o => o.2.2.map Prod.fst) same
    simpa only [objects, List.map_map, Function.comp_def] using this
  constructor
  · rw [cqs, fresh]
    exact bounded.cqs
  · intro q member
    have there : q.ptr ∈ hw.qps.map IbvQp.ptr := qps ▸ List.mem_map_of_mem member
    obtain ⟨q', member', same'⟩ := List.mem_map.mp there
    rw [fresh, ← same']
    exact bounded.qps q' member'

theorem Bounded.usedBut {hw : Hardware} (bounded : hw.Bounded) {p : Ptr} (new : hw.fresh ≤ p) (cq : Ptr) :
    hw.UsedBut (some p) cq ↔ hw.UsedBut none cq := by
  rw [usedBut_iff, usedBut_iff]
  constructor
  · intro ⟨q, member, _, attached⟩
    exact ⟨q, member, nofun, attached⟩
  · intro ⟨q, member, _, attached⟩
    have old := bounded.qps q member
    refine ⟨q, member, ?_, attached⟩
    rw [Ne, Option.some.injEq]
    exact Nat.ne_of_lt (Nat.lt_of_lt_of_le old new)

theorem Bounded.createCq {hw : Hardware} (bounded : hw.Bounded) (cqe : U32) : (hw.createCq cqe).2.Bounded := by
  constructor
  · intro c member
    rcases List.mem_cons.mp member with rfl | member
    · exact Nat.lt_succ_self _
    · exact Nat.lt_succ_of_lt (bounded.cqs c member)
  · exact fun q member => Nat.lt_succ_of_lt (bounded.qps q member)

theorem Bounded.createQp {hw : Hardware} (bounded : hw.Bounded) (qpNum : U32) (init : QpInitAttr) :
    (hw.createQp qpNum init).2.Bounded := by
  constructor
  · exact fun c member => Nat.lt_succ_of_lt (bounded.cqs c member)
  · intro q member
    rcases List.mem_cons.mp member with rfl | member
    · exact Nat.lt_succ_self _
    · exact Nat.lt_succ_of_lt (bounded.qps q member)

theorem Bounded.destroyQp {hw : Hardware} (bounded : hw.Bounded) (willing : Bool) (p : Ptr) :
    (hw.destroyQp willing p).Bounded := by
  unfold Hardware.destroyQp
  split
  · exact ⟨bounded.cqs, fun q member => bounded.qps q (List.mem_filter.mp member).1⟩
  · exact bounded

theorem Bounded.destroyCq {hw : Hardware} (bounded : hw.Bounded) (p : Ptr) : (hw.destroyCq p).Bounded := by
  unfold Hardware.destroyCq
  split
  · exact bounded
  · exact ⟨fun c member => bounded.cqs c (List.mem_filter.mp member).1, bounded.qps⟩

end Hardware

end RLib
