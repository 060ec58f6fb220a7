import RLib.Verbs

namespace RLib

/-- The address a NIC has in the network. -/
structure RAddress where
  subnetPrefix : U64
  interfaceId : U64
  localId : U32
deriving DecidableEq

def RAddress.format : Bytes.Codec RAddress :=
  .record (.pair (.word 8) (.pair (.word 8) (.word 4))) (fun a => (a.subnetPrefix, a.interfaceId, a.localId))
    (fun p => ⟨p.1, p.2.1, p.2.2⟩) (fun _ => rfl) (fun _ => rfl)

/-- An opened `RNic`; the queries that fill its address and its LID can fail. -/
structure RNic where
  portId : U32
  addr : Option RAddress
  lid : Option U64
deriving DecidableEq

/-- Both queries succeeded when the NIC was opened. -/
def RNic.Complete (nic : RNic) : Prop := nic.addr.isSome ∧ nic.lid.isSome

instance (nic : RNic) : Decidable nic.Complete := inferInstanceAs (Decidable (_ ∧ _))

namespace Qps

def kMaxInlinSz : U32 := 64
def kDefaultQKey : U32 := 0x111111
def kDefaultPSN : U32 := 3185
def kRcMaxSendSz : U32 := 128
def kRcMaxRecvSz : U32 := 2048
def kDcKey : U32 := 1024

/-- `IBV_ACCESS_REMOTE_WRITE | IBV_ACCESS_REMOTE_READ | IBV_ACCESS_REMOTE_ATOMIC`. -/
def remoteAccess : U32 := 2 ||| 4 ||| 8

structure QPConfig where
  accessFlags : U32 := remoteAccess
  maxRdAtomic : U32 := 16
  maxDestRdAtomic : U32 := 16
  rqPsn : U32 := kDefaultPSN
  sqPsn : U32 := kDefaultPSN
  timeout : U32 := 20
  maxSendSize : U32 := kRcMaxSendSz
  maxRecvSize : U32 := kRcMaxRecvSz
  qkey : U32 := kDefaultQKey
  dcKey : U32 := kDcKey
deriving DecidableEq

def QPConfig.format : Bytes.Codec QPConfig :=
  .record
    (.pair (.word 4) <| .pair (.word 4) <| .pair (.word 4) <| .pair (.word 4) <| .pair (.word 4) <|
      .pair (.word 4) <| .pair (.word 4) <| .pair (.word 4) <| .pair (.word 4) (.word 4))
    (fun c => (c.accessFlags, c.maxRdAtomic, c.maxDestRdAtomic, c.rqPsn, c.sqPsn, c.timeout, c.maxSendSize,
      c.maxRecvSize, c.qkey, c.dcKey))
    (fun (access, rd, dest, rq, sq, timeout, send, recv, qkey, dc) =>
      ⟨access, rd, dest, rq, sq, timeout, send, recv, qkey, dc⟩)
    (fun _ => rfl) (fun _ => rfl)

structure QPAttr where
  addr : RAddress
  lid : U64
  psn : U64
  portId : U64
  qpn : U64
  qkey : U64
deriving DecidableEq

def QPAttr.format : Bytes.Codec QPAttr :=
  .record
    (.pair RAddress.format <| .pair (.word 8) <| .pair (.word 8) <| .pair (.word 8) <| .pair (.word 8) (.word 8))
    (fun a => (a.addr, a.lid, a.psn, a.portId, a.qpn, a.qkey))
    (fun (addr, lid, psn, port, qpn, qkey) => ⟨addr, lid, psn, port, qpn, qkey⟩) (fun _ => rfl) (fun _ => rfl)

inductive QpKind where
  | RC | UD
deriving DecidableEq

/-- What an `ibv_qp *` points to, as far as it never changes. -/
structure QpHandle where
  ptr : Ptr
  qpNum : U32
deriving DecidableEq

/-- A queue pair object: the members of `Dummy` and those of the class derived from it. -/
structure Dummy where
  kind : QpKind := .RC
  nic : RNic
  myConfig : QPConfig
  qp : Option QpHandle := none
  cq : Option Ptr := none
  recvCq : Option Ptr := none
  status : IOCode := .NotReady
deriving DecidableEq

namespace Dummy

def valid (d : Dummy) : Bool := d.qp.isSome && d.cq.isSome

/-- `my_attr` of `RC` and of `UD`. -/
def myAttr (d : Dummy) : Except Exit QPAttr := do
  let addr ← value d.nic.addr
  let lid ← value d.nic.lid
  match d.qp with
  | none => throw .overread
  | some qp => return {
      addr := addr
      lid := lid
      psn := d.myConfig.rqPsn.signExtend 64
      portId := d.nic.portId.setWidth 64
      qpn := qp.qpNum.setWidth 64
      qkey := match d.kind with
        | .RC => 0
        | .UD => d.myConfig.qkey.signExtend 64 }

/-- `Dummy::~Dummy`. -/
def destroy (d : Dummy) (calls : VerbsCalls) (hw : Hardware) : Hardware :=
  let hw := d.qp.elim hw (fun qp => hw.destroyQp calls.destroyQp qp.ptr)
  let hw := d.cq.elim hw hw.destroyCq
  d.recvCq.elim hw hw.destroyCq

/-- `qp_status`: an `RDMA_ASSERT` on the query. -/
def qpStatus (d : Dummy) (calls : VerbsCalls) (hw : Hardware) : Except Exit (Option QpState) :=
  match d.qp, d.cq with
  | some qp, some _ =>
    if calls.queryQp then
      match hw.qp qp.ptr with
      | some q => .ok (some q.state)
      | none => .error .overread
    else .error .abort
  | _, _ => .ok none

end Dummy

namespace Impl

def bringQpToInit (calls : VerbsCalls) (qp : Ptr) (config : QPConfig) (nic : RNic) (hw : Hardware) : Bool × Hardware :=
  hw.modifyQp calls.toInit qp (.toInit 0 (nic.portId.setWidth 8) config.accessFlags)

def bringRcToRcv (calls : VerbsCalls) (qp : Ptr) (config : QPConfig) (attr : QPAttr) (portId : U32)
    (hw : Hardware) : Bool × Hardware :=
  hw.modifyQp calls.toRtr qp (.toRtr
    { isGlobal := true, dlid := attr.lid.setWidth 16, sl := 0, srcPathBits := 0, portNum := portId.setWidth 8,
      subnetPrefix := attr.addr.subnetPrefix, interfaceId := attr.addr.interfaceId, sgidIndex := 0, flowLabel := 0,
      hopLimit := 255 }
    4096 (attr.qpn.setWidth 32) config.rqPsn (config.maxDestRdAtomic.setWidth 8) 20)

def bringRcToSend (calls : VerbsCalls) (qp : Ptr) (config : QPConfig) (hw : Hardware) : Bool × Hardware :=
  hw.modifyQp calls.toRts qp
    (.toRts config.sqPsn (config.timeout.setWidth 8) 7 7 (config.maxRdAtomic.setWidth 8))

/-- `create_qp` of type `IBV_QPT_RC`. -/
def createQp (qpNum : U32) (config : QPConfig) (cq : Ptr) (recvCq : Option Ptr) (hw : Hardware) : Ptr × Hardware :=
  hw.createQp qpNum
    { sendCq := cq, recvCq := recvCq.getD cq, maxSendWr := config.maxSendSize, maxRecvWr := config.maxRecvSize,
      maxInlineData := kMaxInlinSz }

end Impl

namespace RC

/-- `RC::RC`. -/
def construct (calls : VerbsCalls) (nic : RNic) (config : QPConfig) (recvCq : Option Ptr) (hw : Hardware) :
    Dummy × Hardware :=
  if calls.createCq then
    let (cq, hw) := hw.createCq config.maxSendSize
    match calls.createQp with
    | none => ({ nic := nic, myConfig := config, cq := some cq, recvCq := recvCq }, hw)
    | some qpNum =>
      let (qp, hw) := Impl.createQp qpNum config cq recvCq hw
      -- a failure to bring it to INIT is only logged
      let (_, hw) := Impl.bringQpToInit calls qp config nic hw
      ({ nic := nic, myConfig := config, qp := some ⟨qp, qpNum⟩, cq := some cq, recvCq := recvCq }, hw)
  else ({ nic := nic, myConfig := config }, hw)

/-- `RC::create`; an object that is not valid is destroyed again. -/
def create (calls : VerbsCalls) (nic : RNic) (config : QPConfig) (recvCq : Option Ptr) (hw : Hardware) :
    Option Dummy × Hardware :=
  let (rc, hw) := construct calls nic config recvCq hw
  if rc.valid then (some rc, hw) else (none, rc.destroy calls hw)

/-- What `connect` does with a queue pair that is not connected yet. -/
def bring (calls : VerbsCalls) (rc : Dummy) (qp : Ptr) (attr : QPAttr) (hw : Hardware) :
    Except Exit (IOCode × Dummy) × Hardware :=
  match rc.myAttr with
  | .error e => (.error e, hw)
  | .ok mine =>
    match Impl.bringRcToRcv calls qp rc.myConfig attr (mine.portId.setWidth 32) hw with
    | (false, hw) => (.ok (.Err, rc), hw)
    | (true, hw) =>
      match Impl.bringRcToSend calls qp rc.myConfig hw with
      | (false, hw) => (.ok (.Err, rc), hw)
      | (true, hw) => (.ok (.Ok, { rc with status := .Ok }), hw)

def connect (calls : VerbsCalls) (rc : Dummy) (attr : QPAttr) (hw : Hardware) :
    Except Exit (IOCode × Dummy) × Hardware :=
  match rc.qpStatus calls hw, rc.qp with
  | .error e, _ => (.error e, hw)
  | .ok (some .RTS), _ => (.ok (.Ok, rc), hw)
  | .ok (some _), some qp => bring calls rc qp.ptr attr hw
  | .ok _, _ => (.ok (.Err, rc), hw)

end RC

theorem Dummy.myAttr_incomplete (d : Dummy) (incomplete : ¬d.nic.Complete) : d.myAttr = .error .exception := by
  simp only [RNic.Complete, not_and_or, Bool.not_eq_true, Option.isSome_eq_false_iff,
    Option.isNone_iff_eq_none] at incomplete
  rcases incomplete with missing | missing
  · simp only [myAttr, missing, value_none, Bind.bind, Except.bind]
  · simp only [myAttr, missing, value_none, Bind.bind, Except.bind]
    cases d.nic.addr <;> rfl

theorem Dummy.myAttr_complete (d : Dummy) {qp : QpHandle} (made : d.qp = some qp) (complete : d.nic.Complete) :
    ∃ attr, d.myAttr = .ok attr := by
  obtain ⟨addr, known⟩ := Option.isSome_iff_exists.mp complete.1
  obtain ⟨lid, known'⟩ := Option.isSome_iff_exists.mp complete.2
  simp only [myAttr, known, known', made, value_some, Bind.bind, Except.bind, Pure.pure, Except.pure]
  exact ⟨_, rfl⟩

/-- The queue pair that is gone after the destructor, if its `ibv_destroy_qp` succeeds. -/
def Dummy.gone (d : Dummy) (calls : VerbsCalls) : Option Ptr :=
  if calls.destroyQp then d.qp.map QpHandle.ptr else none

theorem Dummy.destroy_live (d : Dummy) (calls : VerbsCalls) (hw : Hardware) (c : Ptr) :
    (d.destroy calls hw).LiveCq c ↔
      hw.LiveCq c ∧ ¬((d.cq = some c ∨ d.recvCq = some c) ∧ ¬hw.UsedBut (d.gone calls) c) := by
  have live : (d.qp.elim hw (fun qp => hw.destroyQp calls.destroyQp qp.ptr)).LiveCq c ↔ hw.LiveCq c := by
    cases d.qp with
    | none => rfl
    | some qp => exact hw.destroyQp_live calls.destroyQp qp.ptr c
  have used : ∀ c, (d.qp.elim hw (fun qp => hw.destroyQp calls.destroyQp qp.ptr)).UsedBut none c ↔
      hw.UsedBut (d.gone calls) c := by
    intro c
    unfold gone
    cases d.qp with
    | none => rw [Option.map_none, ite_self, Option.elim_none]
    | some qp => exact hw.destroyQp_usedBut calls.destroyQp qp.ptr c
  unfold destroy
  simp only
  generalize d.qp.elim hw (fun qp => hw.destroyQp calls.destroyQp qp.ptr) = hw₁ at live used
  rw [Hardware.destroyCq_elim_live, Hardware.destroyCq_elim_live, Hardware.destroyCq_elim_usedBut,
    used, live, and_assoc,
    ← not_or, ← or_and_right]

theorem Dummy.destroy_bounded (d : Dummy) (calls : VerbsCalls) {hw : Hardware} (bounded : hw.Bounded) :
    (d.destroy calls hw).Bounded := by
  have first : (d.qp.elim hw (fun qp => hw.destroyQp calls.destroyQp qp.ptr)).Bounded := by
    cases d.qp with
    | none => exact bounded
    | some qp => exact bounded.destroyQp calls.destroyQp qp.ptr
  unfold destroy
  simp only
  generalize d.qp.elim hw (fun qp => hw.destroyQp calls.destroyQp qp.ptr) = hw₁ at first
  have second : (d.cq.elim hw₁ hw₁.destroyCq).Bounded := by
    cases d.cq with
    | none => exact first
    | some p => exact first.destroyCq p
  cases d.recvCq with
  | none => exact second
  | some p => exact second.destroyCq p

namespace RC

variable {calls : VerbsCalls} {nic : RNic} {config : QPConfig} {recvCq : Option Ptr} {hw : Hardware}

def made (nic : RNic) (config : QPConfig) (recvCq : Option Ptr) (qpNum : U32) (hw : Hardware) : Dummy :=
  { nic := nic, myConfig := config, qp := some ⟨hw.fresh + 1, qpNum⟩, cq := some hw.fresh, recvCq := recvCq }

theorem create_refused (refused : calls.createCq = false ∨ calls.createQp = none) (nic : RNic) (config : QPConfig)
    (recvCq : Option Ptr) (hw : Hardware) :
    (create calls nic config recvCq hw).1 = none := by
  unfold create construct
  rcases refused with refused | refused
  · simp only [refused, Bool.false_eq_true, ↓reduceIte, Dummy.valid, Option.isSome_none, Bool.false_and]
  · simp only [refused]
    split
    · simp only [Dummy.valid, Option.isSome_none, Bool.false_and, Bool.false_eq_true, ↓reduceIte]
    · simp only [Dummy.valid, Option.isSome_none, Bool.false_and, Bool.false_eq_true, ↓reduceIte]

/-- The hardware with its new queue pair, before and after that was to be brought to INIT. -/
def resetHw (config : QPConfig) (recvCq : Option Ptr) (qpNum : U32) (hw : Hardware) : Hardware :=
  (Impl.createQp qpNum config hw.fresh recvCq (hw.createCq config.maxSendSize).2).2

def madeHw (calls : VerbsCalls) (nic : RNic) (config : QPConfig) (recvCq : Option Ptr) (qpNum : U32) (hw : Hardware) :
    Hardware := (Impl.bringQpToInit calls (hw.fresh + 1) config nic (resetHw config recvCq qpNum hw)).2

theorem madeHw_objects (calls : VerbsCalls) (nic : RNic) (config : QPConfig) (recvCq : Option Ptr) (qpNum : U32)
    (hw : Hardware) :
    (madeHw calls nic config recvCq qpNum hw).objects = (resetHw config recvCq qpNum hw).objects :=
  Hardware.modifyQp_objects rfl

theorem madeHw_qp (calls : VerbsCalls) (nic : RNic) (config : QPConfig) (recvCq : Option Ptr) (qpNum : U32)
    (hw : Hardware) : ∃ q, (madeHw calls nic config recvCq qpNum hw).qp (hw.fresh + 1) = some q ∧
      q.state = if calls.toInit then .INIT else .RESET := by
  have new : (resetHw config recvCq qpNum hw).qp (hw.fresh + 1) = some _ := Hardware.createQp_qp _ _ _
  unfold madeHw
  rcases brought : Impl.bringQpToInit calls (hw.fresh + 1) config nic (resetHw config recvCq qpNum hw) with ⟨ok, hw'⟩
  rcases Hardware.modifyQp_cases new brought with ⟨_, willing, _, found⟩ | ⟨_, refused, same⟩
  · exact ⟨_, found, (if_pos willing).symm⟩
  · rw [same]
    exact ⟨_, new, (if_neg (fun willing => refused ⟨willing, rfl⟩)).symm⟩

theorem madeHw_unposted (calls : VerbsCalls) (nic : RNic) (config : QPConfig) (recvCq : Option Ptr) (qpNum : U32)
    (hw : Hardware) :
    (madeHw calls nic config recvCq qpNum hw).Unposted (hw.fresh + 1) (recvCq.getD hw.fresh) := by
  have new : (resetHw config recvCq qpNum hw).Unposted (hw.fresh + 1) (recvCq.getD hw.fresh) :=
    ⟨_, Hardware.createQp_qp _ _ _, rfl, rfl⟩
  exact new.modify rfl

theorem create_made (madeCq : calls.createCq = true) {qpNum : U32} (madeQp : calls.createQp = some qpNum)
    (nic : RNic) (config : QPConfig) (recvCq : Option Ptr) (hw : Hardware) :
    create calls nic config recvCq hw =
      (some (made nic config recvCq qpNum hw), madeHw calls nic config recvCq qpNum hw) := by
  simp only [create, construct, madeCq, madeQp, ↓reduceIte]
  rfl

theorem create_some {hw' : Hardware} {rc : Dummy}
    (created : create calls nic config recvCq hw = (some rc, hw')) :
    ∃ qpNum, rc = made nic config recvCq qpNum hw ∧ hw' = madeHw calls nic config recvCq qpNum hw := by
  by_cases refused : calls.createCq = false ∨ calls.createQp = none
  · have failed := create_refused refused nic config recvCq hw
    rw [created] at failed
    cases failed
  · simp only [not_or, Bool.not_eq_false] at refused
    obtain ⟨qpNum, madeQp⟩ := Option.ne_none_iff_exists'.mp refused.2
    cases (create_made refused.1 madeQp nic config recvCq hw).symm.trans created
    exact ⟨qpNum, rfl, rfl⟩

theorem resetHw_bounded (config : QPConfig) (recvCq : Option Ptr) (qpNum : U32) {hw : Hardware} (bounded : hw.Bounded) :
    (resetHw config recvCq qpNum hw).Bounded := (bounded.createCq _).createQp _ _

theorem madeHw_bounded (calls : VerbsCalls) (nic : RNic) (config : QPConfig) (recvCq : Option Ptr) (qpNum : U32)
    {hw : Hardware} (bounded : hw.Bounded) : (madeHw calls nic config recvCq qpNum hw).Bounded :=
  (resetHw_bounded config recvCq qpNum bounded).congr (madeHw_objects _ _ _ _ _ _)

theorem createCq_live {hw : Hardware} {c : Ptr} (cqe : U32) (live : hw.LiveCq c) : (hw.createCq cqe).2.LiveCq c := by
  obtain ⟨cq, member, rfl⟩ := live
  exact ⟨cq, List.mem_cons_of_mem _ member, rfl⟩

theorem madeHw_live (calls : VerbsCalls) (nic : RNic) (config : QPConfig) (recvCq : Option Ptr) (qpNum : U32)
    {hw : Hardware} {c : Ptr} (live : hw.LiveCq c) : (madeHw calls nic config recvCq qpNum hw).LiveCq c := by
  rw [Hardware.liveCq_congr (madeHw_objects calls nic config recvCq qpNum hw)]
  exact createCq_live config.maxSendSize live

theorem resetHw_usedBut (config : QPConfig) (recvCq : Option Ptr) (qpNum : U32) (hw : Hardware) (gone : Option Ptr)
    (c : Ptr) : (resetHw config recvCq qpNum hw).UsedBut gone c ↔
      (some (hw.fresh + 1) ≠ gone ∧ (hw.fresh = c ∨ recvCq.getD hw.fresh = c)) ∨ hw.UsedBut gone c := by
  simp only [Hardware.UsedBut, resetHw, Impl.createQp, Hardware.createQp, Hardware.createCq, Hardware.objects,
    List.map_cons, List.mem_cons, exists_eq_or_imp]

theorem made_destroy_live {hw hw' : Hardware} (bounded : hw.Bounded) {c : Ptr} (live : hw.LiveCq c) (qpNum : U32)
    (same : hw'.objects = (madeHw calls nic config recvCq qpNum hw).objects) :
    ((made nic config recvCq qpNum hw).destroy calls hw').LiveCq c ↔
      ¬(recvCq = some c ∧ calls.destroyQp = true ∧ ¬hw.UsedBut none c) := by
  have old := bounded.live live
  have alive : hw'.LiveCq c := (Hardware.liveCq_congr same c).mpr (madeHw_live calls nic config recvCq qpNum live)
  have other : (made nic config recvCq qpNum hw).cq ≠ some c := by
    intro own
    cases own
    exact Nat.lt_irrefl _ old
  have used := resetHw_usedBut config recvCq qpNum hw ((made nic config recvCq qpNum hw).gone calls) c
  rw [← Hardware.usedBut_congr (same.trans (madeHw_objects calls nic config recvCq qpNum hw))] at used
  rw [Dummy.destroy_live, and_iff_right alive, or_iff_right other, used]
  apply not_congr
  apply and_congr_right
  intro receives
  have receives' : recvCq = some c := receives
  cases destroys : calls.destroyQp with
  | true =>
    rw [Dummy.gone, if_pos destroys]
    simp only [made, Option.map_some, ne_eq, not_true_eq_false, false_and, false_or, true_and]
    rw [bounded.usedBut (Nat.le_succ _)]
  | false =>
    rw [Dummy.gone, destroys, receives']
    simp

theorem create_refused_live (refused : calls.createCq = false ∨ calls.createQp = none) (nic : RNic)
    (config : QPConfig) (recvCq : Option Ptr) {hw : Hardware} (bounded : hw.Bounded) {c : Ptr} (live : hw.LiveCq c) :
    (create calls nic config recvCq hw).2.LiveCq c ↔
      ¬(recvCq = some c ∧ calls.createCq = true ∧ ¬hw.UsedBut none c) := by
  cases creates : calls.createCq with
  | false =>
    simp only [create, construct, creates, Bool.false_eq_true, ↓reduceIte, Dummy.valid, Option.isSome_none,
      Bool.false_and, Dummy.destroy, Option.elim_none, live, false_and, and_false, not_false_eq_true]
  | true =>
    have none' : calls.createQp = none := refused.resolve_left (by rw [creates]; exact Bool.noConfusion)
    have old := bounded.live live
    have other : ¬some hw.fresh = some c := by
      intro own
      cases own
      exact Nat.lt_irrefl _ old
    have made : (create calls nic config recvCq hw).2 =
        ({ nic := nic, myConfig := config, cq := some hw.fresh, recvCq := recvCq } : Dummy).destroy calls
          (hw.createCq config.maxSendSize).2 := by
      simp only [create, construct, creates, none', ↓reduceIte]
      rfl
    rw [made, Dummy.destroy_live, and_iff_right (createCq_live _ live), or_iff_right other]
    simp [Dummy.gone, Hardware.UsedBut, Hardware.createCq, Hardware.objects]

theorem create_bounded (calls : VerbsCalls) (nic : RNic) (config : QPConfig) (recvCq : Option Ptr) {hw : Hardware}
    (bounded : hw.Bounded) : (create calls nic config recvCq hw).2.Bounded := by
  have constructed : (construct calls nic config recvCq hw).2.Bounded := by
    unfold construct
    split
    · cases calls.createQp with
      | none => exact bounded.createCq _
      | some qpNum => exact madeHw_bounded calls nic config recvCq qpNum bounded
    · exact bounded
  unfold create
  simp only
  split
  · exact constructed
  · exact Dummy.destroy_bounded _ calls constructed

/-- How `connect` ends on a queue pair that was just made. -/
inductive Connects (calls : VerbsCalls) (rc : Dummy) (hw : Hardware) : Except Exit (IOCode × Dummy) × Hardware → Prop
  | aborted (failed : calls.queryQp = false) : Connects calls rc hw (.error .abort, hw)
  | thrown (queried : calls.queryQp = true) (incomplete : ¬rc.nic.Complete) :
      Connects calls rc hw (.error .exception, hw)
  | failed {hw' : Hardware} (queried : calls.queryQp = true) (complete : rc.nic.Complete)
      (failed : ¬(calls.toInit = true ∧ calls.toRtr = true ∧ calls.toRts = true)) (same : hw'.objects = hw.objects) :
      Connects calls rc hw (.ok (.Err, rc), hw')
  | connected {hw' : Hardware} (queried : calls.queryQp = true) (complete : rc.nic.Complete)
      (steps : calls.toInit = true ∧ calls.toRtr = true ∧ calls.toRts = true) (same : hw'.objects = hw.objects)
      (unposted : ∀ p cq, hw.Unposted p cq → hw'.Unposted p cq) :
      Connects calls rc hw (.ok (.Ok, { rc with status := .Ok }), hw')

theorem connect_made (rc : Dummy) (attr : QPAttr) {qp : QpHandle} {cq : Ptr} (hasQp : rc.qp = some qp)
    (hasCq : rc.cq = some cq) {q : IbvQp} (found : hw.qp qp.ptr = some q)
    (state : q.state = if calls.toInit then .INIT else .RESET) : Connects calls rc hw (connect calls rc attr hw) := by
  cases queried : calls.queryQp with
  | false =>
    simp only [connect, Dummy.qpStatus, hasQp, hasCq, queried, Bool.false_eq_true, ↓reduceIte]
    exact .aborted queried
  | true =>
    have reached : connect calls rc attr hw = bring calls rc qp.ptr attr hw := by
      simp only [connect, Dummy.qpStatus, hasQp, hasCq, queried, ↓reduceIte, found, state]
      cases calls.toInit <;> rfl
    rw [reached]
    unfold bring
    by_cases complete : rc.nic.Complete
    · obtain ⟨mine, known⟩ := rc.myAttr_complete hasQp complete
      simp only [known]
      rcases received : Impl.bringRcToRcv calls qp.ptr rc.myConfig attr (mine.portId.setWidth 32) hw with ⟨ok, hw₁⟩
      have same₁ := Hardware.modifyQp_objects received
      rcases Hardware.modifyQp_cases found received with ⟨rfl, rtr, init, found₁⟩ | ⟨rfl, refused, _⟩
      · have brought : calls.toInit = true := by
          cases start : calls.toInit with
          | true => rfl
          | false =>
            rw [state, start] at init
            cases init
        rcases sent : Impl.bringRcToSend calls qp.ptr rc.myConfig hw₁ with ⟨ok, hw₂⟩
        have same₂ := (Hardware.modifyQp_objects sent).trans same₁
        rcases Hardware.modifyQp_cases found₁ sent with ⟨rfl, rts, _, _⟩ | ⟨rfl, refused, _⟩
        · simp only [sent]
          exact .connected queried complete ⟨brought, rtr, rts⟩ same₂ (fun _ _ new => (new.modify received).modify sent)
        · simp only [sent]
          apply Connects.failed queried complete _ same₂
          exact fun steps => refused ⟨steps.2.2, rfl⟩
      · apply Connects.failed queried complete _ same₁
        exact fun steps => refused ⟨steps.2.1, by rw [state, if_pos steps.1]; rfl⟩
    · rw [rc.myAttr_incomplete complete]
      exact .thrown queried complete

end RC

end Qps

end RLib
