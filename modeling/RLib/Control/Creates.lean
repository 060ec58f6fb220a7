import RLib.RCtrl

namespace RLib

open Proto Qps Ring

theorem Proto.cString_error {mem : ByteBuffer} {e : Exit} (failed : cString mem = .error e) : e = .overread := by
  unfold cString at failed
  split at failed
  · cases failed
  · cases failed
    rfl

variable {A : Type} {R : Nat} [NeZero R]

namespace RCtrl

theorem myAttr_not_abort (d : Dummy) : d.myAttr ≠ .error .abort := by
  unfold Dummy.myAttr
  cases d.nic.addr <;> cases d.nic.lid <;> cases d.qp <;> exact nofun

theorem fetchQpAttr_not_abort (s : Server A R) (req : RCReq) (key : U64) : fetchQpAttr s req key ≠ .error .abort := by
  unfold fetchQpAttr
  cases named : req.nameString with
  | error e =>
    rw [cString_error named]
    intro aborted
    cases aborted
  | ok name =>
    simp only [Bind.bind, Except.bind, fetchQp]
    cases s.registeredQps.query name with
    | none =>
      intro aborted
      cases aborted
    | some p =>
      simp only
      cases s.qps p with
      | none =>
        intro aborted
        cases aborted
      | some rc =>
        simp only
        cases fetched : rc.myAttr with
        | ok attr =>
          intro aborted
          cases aborted
        | error e =>
          intro aborted
          apply myAttr_not_abort rc
          rw [fetched]
          cases aborted
          rfl

/-- The request passes the checks and asks for a QP on `nic`. -/
structure Admits (b : ByteBuffer) (s : Server A R) (req : RCReq) (nic : RNic) : Prop where
  parsed : dedump RCReq.format b = some req
  creates : req.whetherCreate = 1
  known : s.openedNics.query req.nicId = some nic

theorem Admits.unique {b : ByteBuffer} {s : Server A R} {req req' : RCReq} {nic nic' : RNic}
    (admits : Admits b s req nic) (admits' : Admits b s req' nic') : req' = req ∧ nic' = nic := by
  cases admits.parsed.symm.trans admits'.parsed
  cases admits.known.symm.trans admits'.known
  exact ⟨rfl, rfl⟩

/-- A creating handler gets to its creating part, or it answers and leaves the server as it is. -/
theorem handleCreate_cases (create : RCReq → RNic → Server A R → Except Exit ByteBuffer × Server A R) (b : ByteBuffer)
    (s : Server A R) :
    (∃ req nic, Admits b s req nic ∧ handleCreate create b s = create req nic s) ∨
      (∀ req nic, ¬Admits b s req nic) ∧ ∃ reply, handleCreate create b s = (reply, s) ∧ reply ≠ .error .abort := by
  unfold handleCreate
  cases parsed : dedump RCReq.format b with
  | none =>
    refine .inr ⟨?_, _, rfl, nofun⟩
    intro req nic admits
    cases parsed.symm.trans admits.parsed
  | some req =>
    simp only
    by_cases creates : req.whetherCreate = 1
    · rw [if_neg (by rw [creates]; decide), if_pos creates]
      cases known : s.openedNics.query req.nicId with
      | none =>
        refine .inr ⟨?_, _, rfl, nofun⟩
        intro req' nic admits
        cases parsed.symm.trans admits.parsed
        cases known.symm.trans admits.known
      | some nic => exact .inl ⟨req, nic, ⟨parsed, creates, known⟩, rfl⟩
    · have idle : ∀ req' nic, ¬Admits b s req' nic := by
        intro req' nic admits
        cases parsed.symm.trans admits.parsed
        exact creates admits.creates
      rw [if_neg creates]
      split
      · exact .inr ⟨idle, _, rfl, nofun⟩
      · exact .inr ⟨idle, _, rfl, fetchQpAttr_not_abort s req 0⟩

/-- What step 1.1 needs to make a QP object that it can try to register. -/
structure Makes (req : RCReq) (s : Server A R) (qpNum : U32) (name : Name) : Prop where
  madeCq : s.env.calls.createCq = true
  madeQp : s.env.calls.createQp = some qpNum
  named : req.nameString = .ok name

/-- The state in which step 1.2 finds the QP object that step 1.1 made and registered. -/
def afterReg (req : RCReq) (nic : RNic) (recvCq : Option Ptr) (s : Server A R) (qpNum : U32) (name : Name) :
    Server A R :=
  { s with
    hw := RC.madeHw s.env.calls nic req.config recvCq qpNum s.hw
    registeredQps := { store := s.registeredQps.store.insert name (s.fresh, s.env.qpKey.value) }
    fresh := s.fresh + 1
    qps := Function.update s.qps s.fresh (some (RC.made nic req.config recvCq qpNum s.hw)) }

/-- The steps of `ibv_modify_qp` that connect a new queue pair. -/
def Connectable (calls : VerbsCalls) : Prop := calls.toInit = true ∧ calls.toRtr = true ∧ calls.toRts = true

/-- How steps 1.1 and 1.2 end, and with which state. -/
inductive Creates (req : RCReq) (nic : RNic) (recvCq : Option Ptr) (s : Server A R) :
    Except Exit (Option (Ptr × U64)) × Server A R → Prop
  | refused (refused : s.env.calls.createCq = false ∨ s.env.calls.createQp = none) :
      Creates req nic recvCq s
        (.error .exception, { s with hw := (RC.create s.env.calls nic req.config recvCq s.hw).2 })
  | unreadable {qpNum : U32} (madeQp : s.env.calls.createQp = some qpNum)
      (unreadable : req.nameString = .error .overread) :
      Creates req nic recvCq s
        (.error .overread, { s with hw := RC.madeHw s.env.calls nic req.config recvCq qpNum s.hw })
  | taken {qpNum : U32} {name : Name} (makes : Makes req s qpNum name) (present : name ∈ s.registeredQps.store) :
      Creates req nic recvCq s
        (.ok none,
          { s with
            hw := (RC.made nic req.config recvCq qpNum s.hw).destroy s.env.calls
              (RC.madeHw s.env.calls nic req.config recvCq qpNum s.hw) })
  | aborted {qpNum : U32} {name : Name} (makes : Makes req s qpNum name) (absent : name ∉ s.registeredQps.store)
      (failed : s.env.calls.queryQp = false) :
      Creates req nic recvCq s (.error .abort, afterReg req nic recvCq s qpNum name)
  | stranded {qpNum : U32} {name : Name} (makes : Makes req s qpNum name) (absent : name ∉ s.registeredQps.store)
      (queried : s.env.calls.queryQp = true) (incomplete : ¬nic.Complete) :
      Creates req nic recvCq s (.error .exception, afterReg req nic recvCq s qpNum name)
  | undone {qpNum : U32} {name : Name} {hw : Hardware} (makes : Makes req s qpNum name)
      (absent : name ∉ s.registeredQps.store) (queried : s.env.calls.queryQp = true) (complete : nic.Complete)
      (failed : ¬Connectable s.env.calls)
      (same : hw.objects = (RC.madeHw s.env.calls nic req.config recvCq qpNum s.hw).objects) :
      Creates req nic recvCq s
        (.ok none,
          { s with
            hw := (RC.made nic req.config recvCq qpNum s.hw).destroy s.env.calls hw
            fresh := s.fresh + 1
            qps := Function.update s.qps s.fresh none })
  | connected {qpNum : U32} {name : Name} {hw : Hardware} (makes : Makes req s qpNum name)
      (absent : name ∉ s.registeredQps.store) (queried : s.env.calls.queryQp = true) (complete : nic.Complete)
      (steps : Connectable s.env.calls)
      (same : hw.objects = (RC.madeHw s.env.calls nic req.config recvCq qpNum s.hw).objects)
      (unposted : hw.Unposted (s.hw.fresh + 1) (recvCq.getD s.hw.fresh)) :
      Creates req nic recvCq s
        (.ok (some (s.fresh, s.env.qpKey.value)),
          { afterReg req nic recvCq s qpNum name with
            hw := hw
            qps := Function.update s.qps s.fresh
              (some { RC.made nic req.config recvCq qpNum s.hw with status := .Ok }) })

theorem connectRegistered_creates {req : RCReq} {nic : RNic} {recvCq : Option Ptr} {s : Server A R} {qpNum : U32}
    {name : Name} (makes : Makes req s qpNum name) (absent : name ∉ s.registeredQps.store) :
    Creates req nic recvCq s
      (connectRegistered req name s.env.qpKey.value s.fresh (RC.made nic req.config recvCq qpNum s.hw)
        (afterReg req nic recvCq s qpNum name)) := by
  obtain ⟨q, found, state⟩ := RC.madeHw_qp s.env.calls nic req.config recvCq qpNum s.hw
  have connects := RC.connect_made (RC.made nic req.config recvCq qpNum s.hw) req.attr rfl rfl found state
  unfold connectRegistered
  rw [show (afterReg req nic recvCq s qpNum name).env = s.env from rfl,
    show (afterReg req nic recvCq s qpNum name).hw = RC.madeHw s.env.calls nic req.config recvCq qpNum s.hw from rfl]
  generalize RC.connect s.env.calls (RC.made nic req.config recvCq qpNum s.hw) req.attr
    (RC.madeHw s.env.calls nic req.config recvCq qpNum s.hw) = outcome at connects
  cases connects with
  | aborted failed => exact .aborted makes absent failed
  | thrown queried incomplete => exact .stranded makes absent queried incomplete
  | connected queried complete steps same unposted =>
    have whole : nic.Complete := complete
    have new := unposted _ _ (RC.madeHw_unposted s.env.calls nic req.config recvCq qpNum s.hw)
    have connected := Creates.connected makes absent queried whole steps same new
    simp only [afterReg, Function.update_idem]
    exact connected
  | failed queried complete failed same =>
    have whole : nic.Complete := complete
    have restored := s.registeredQps.dereg_insert name s.fresh s.env.qpKey.value absent
    have undone := Creates.undone makes absent queried whole failed same
    simp only [drop, afterReg, restored, Function.update_self, Function.update_idem, Option.elim_some]
    exact undone

theorem createAndConnect_creates (req : RCReq) (nic : RNic) (recvCq : Option Ptr) (s : Server A R) :
    Creates req nic recvCq s (createAndConnect req nic recvCq s) := by
  unfold createAndConnect
  by_cases refused : s.env.calls.createCq = false ∨ s.env.calls.createQp = none
  · have failed := RC.create_refused refused nic req.config recvCq s.hw
    have outcome : Creates req nic recvCq s
        (.error .exception, { s with hw := (RC.create s.env.calls nic req.config recvCq s.hw).2 }) := .refused refused
    rcases created : RC.create s.env.calls nic req.config recvCq s.hw with ⟨rc, hw⟩
    rw [created] at failed outcome
    cases failed
    exact outcome
  · simp only [not_or, Bool.not_eq_false] at refused
    obtain ⟨madeCq, notNone⟩ := refused
    obtain ⟨qpNum, madeQp⟩ := Option.ne_none_iff_exists'.mp notNone
    rw [RC.create_made madeCq madeQp]
    cases named : req.nameString with
    | error e =>
      have overread := cString_error named
      subst e
      exact .unreadable madeQp named
    | ok name =>
      have makes : Makes req s qpNum name := ⟨madeCq, madeQp, named⟩
      by_cases present : name ∈ s.registeredQps.store
      · simp only [s.registeredQps.reg_present s.env.qpKey s.fresh present]
        exact .taken makes present
      · simp only [s.registeredQps.reg_absent s.env.qpKey s.fresh present]
        exact connectRegistered_creates makes present

end RCtrl

namespace RecvManager

open RCtrl

theorem recvCqOf_cases (req : RCReq) (s : Server A R) :
    (∃ recvCq, recvCqOf req s = .ok recvCq ∧
      (req.whetherRecv = 1 → ∃ nameRecv, req.nameRecvString = .ok nameRecv)) ∨
      (recvCqOf req s = .error .overread ∧ req.whetherRecv = 1 ∧ req.nameRecvString = .error .overread) := by
  unfold recvCqOf
  by_cases receives : req.whetherRecv = 1
  · rw [if_pos receives]
    cases namedRecv : req.nameRecvString with
    | error e =>
      have overread := cString_error namedRecv
      subst e
      exact .inr ⟨rfl, receives, rfl⟩
    | ok nameRecv => exact .inl ⟨_, rfl, fun _ => ⟨nameRecv, rfl⟩⟩
  · rw [if_neg receives]
    exact .inl ⟨none, rfl, fun receives' => absurd receives' receives⟩

theorem postAll_withQps (p e : Ptr) (entries : RecvEntries R) (s : Server A R) (g : Factory Name Ptr) :
    postAll p e entries { s with registeredQps := g } =
      ((postAll p e entries s).1, { (postAll p e entries s).2 with registeredQps := g }) := by
  unfold postAll
  cases (s.qps p).bind Dummy.qp with
  | none => rfl
  | some qp =>
    simp only
    rcases postRecvs entries R
      (fun wqes => if s.env.calls.postRecv then some (s.hw.postRecv qp.ptr wqes) else none) with e | ⟨_ | hw, entries⟩
    · rfl
    · rfl
    · rfl

variable [AbsRecvAllocator A]

/-- The channel that `name_recv` names is registered and its allocator has `R` buffers left. -/
def Feeds (req : RCReq) (s : Server A R) (common : RecvCommon) : Prop :=
  ∃ nameRecv, req.nameRecvString = .ok nameRecv ∧ s.regRecvCqs.query nameRecv = some common ∧
    RecvEntries.Supplies (req.maxRecvSz.setWidth 32) R (s.allocators common.allocator)

/-- How steps 1.3 and 1.4 end, for a QP object whose queue pair is `qp`. -/
inductive Arms (req : RCReq) (qp : QpHandle) (s : Server A R) : Except Exit Unit × Server A R → Prop
  | unreadable (unreadable : req.nameRecvString = .error .overread) : Arms req qp s (.error .overread, s)
  | missing {nameRecv : Name} (namedRecv : req.nameRecvString = .ok nameRecv)
      (missing : s.regRecvCqs.query nameRecv = none) : Arms req qp s (.error .exception, s)
  | exhausted {nameRecv : Name} {common : RecvCommon} {allocators : Ptr → A}
      (namedRecv : req.nameRecvString = .ok nameRecv) (found : s.regRecvCqs.query nameRecv = some common)
      (runsOut : ¬RecvEntries.Supplies (req.maxRecvSz.setWidth 32) R (s.allocators common.allocator)) :
      Arms req qp s (.error .exception, { s with allocators := allocators })
  | unnamed (unreadable : req.nameString = .error .overread) : Arms req qp s (.error .overread, s)
  | taken {name : Name} {common : RecvCommon} (feeds : Feeds req s common) (named : req.nameString = .ok name)
      (present : name ∈ s.regRecvEntries.store) : Arms req qp s (.error .abort, s)
  | unposted {allocators : Ptr → A} {regRecvEntries : Factory Name Ptr} {fresh : Ptr}
      {entries : Ptr → Option (RecvEntries R)} {common : RecvCommon} (feeds : Feeds req s common)
      (failed : s.env.calls.postRecv = false) :
      Arms req qp s
        (.error .abort,
          { s with
            allocators := allocators
            regRecvEntries := regRecvEntries
            fresh := fresh
            entries := entries })
  | armed {name : Name} {common : RecvCommon} {allocator : A} {r : RecvEntries R} (feeds : Feeds req s common)
      (created : RecvEntriesFactoryv2.create R (s.allocators common.allocator) (req.maxRecvSz.setWidth 32) =
        (.ok r, allocator))
      (named : req.nameString = .ok name) (absent : name ∉ s.regRecvEntries.store) :
      Arms req qp s
        (.ok (),
          { s with
            hw := s.hw.postRecv qp.ptr ((window 0 R).map r.wqe)
            allocators := Function.update s.allocators common.allocator allocator
            regRecvEntries := { store := s.regRecvEntries.store.insert name (s.fresh, s.env.entriesKey.value) }
            fresh := s.fresh + 1
            entries := Function.update s.entries s.fresh (some r) })

theorem armRecv_arms (req : RCReq) {p : Ptr} {s : Server A R} {qp : QpHandle}
    (made : (s.qps p).bind Dummy.qp = some qp) :
    Arms req qp s (armRecv req p s) := by
  unfold armRecv
  cases namedRecv : req.nameRecvString with
  | error e =>
    have overread := cString_error namedRecv
    subst e
    exact .unreadable namedRecv
  | ok nameRecv =>
    simp only
    cases found : s.regRecvCqs.query nameRecv with
    | none => exact .missing namedRecv found
    | some common =>
      simp only
      have supply := RecvEntries.fill_cases (req.maxRecvSz.setWidth 32) (List.finRange R) .new
        (s.allocators common.allocator)
      rw [List.length_finRange] at supply
      rcases created : RecvEntriesFactoryv2.create R (s.allocators common.allocator) (req.maxRecvSz.setWidth 32) with
        ⟨e | r, allocator⟩
      · have failed := congrArg Prod.fst created
        rcases supply with ⟨_, r, built⟩ | ⟨runsOut, thrown⟩
        · cases built.symm.trans failed
        · cases thrown.symm.trans failed
          exact .exhausted namedRecv found runsOut
      · obtain ⟨ready, header⟩ := RecvEntriesFactoryv2.create_ready (congrArg Prod.fst created)
        have feeds : Feeds req s common := by
          rcases supply with ⟨supplies, _⟩ | ⟨_, thrown⟩
          · exact ⟨nameRecv, namedRecv, found, supplies⟩
          · cases thrown.symm.trans (congrArg Prod.fst created)
        simp only
        cases named : req.nameString with
        | error e =>
          have overread := cString_error named
          subst e
          exact .unnamed named
        | ok name =>
          simp only
          by_cases present : name ∈ s.regRecvEntries.store
          · simp only [s.regRecvEntries.reg_present s.env.entriesKey s.fresh present]
            exact .taken feeds named present
          · simp only [s.regRecvEntries.reg_absent s.env.entriesKey s.fresh present, postAll, made]
            cases posts : s.env.calls.postRecv with
            | false =>
              simp only [Bool.false_eq_true, ↓reduceIte, postRecvs_all ready]
              exact .unposted feeds posts
            | true =>
              simp only [↓reduceIte, postRecvs_all ready, Function.update_idem, header]
              exact .armed feeds created named present

theorem armRecv_withQps (req : RCReq) (p : Ptr) (s : Server A R) (g : Factory Name Ptr) :
    armRecv req p { s with registeredQps := g } =
      ((armRecv req p s).1, { (armRecv req p s).2 with registeredQps := g }) := by
  unfold armRecv
  cases req.nameRecvString with
  | error exit => rfl
  | ok nameRecv =>
    simp only
    cases s.regRecvCqs.query nameRecv with
    | none => rfl
    | some common =>
      simp only
      rcases RecvEntriesFactoryv2.create R (s.allocators common.allocator) (req.maxRecvSz.setWidth 32) with
        ⟨exit | entries, allocator⟩
      · rfl
      · simp only
        cases req.nameString with
        | error exit => rfl
        | ok name =>
          simp only
          rcases s.regRecvEntries.reg s.env.entriesKey name s.fresh with ⟨_ | key, regRecvEntries⟩
          · rfl
          · exact postAll_withQps p s.fresh entries
              { s with
                allocators := Function.update s.allocators common.allocator allocator
                regRecvEntries := regRecvEntries
                fresh := s.fresh + 1
                entries := Function.update s.entries s.fresh (some entries) } g

theorem armRecv_registeredQps (req : RCReq) (p : Ptr) (s : Server A R) :
    (armRecv req p s).2.registeredQps = s.registeredQps := by
  have same := armRecv_withQps req p s s.registeredQps
  exact congrArg (fun outcome => outcome.2.registeredQps) same

def oneNic : Server SimpleAllocator 1 where
  openedNics := { store := Finmap.singleton 0 (⟨1, some ⟨0, 0, 0⟩, some 7⟩, 1) }
  allocators _ := ⟨4096, 8192, 5⟩
  env := { calls := { createQp := some 9 }, qpKey := .first, entriesKey := .second }

def nameField (c : U8) : NameField := ⟨c :: List.replicate kMaxQPNameLen 0, rfl⟩

def channelRequest : RCReq :=
  { name := nameField 113, nameRecv := nameField 99, whetherCreate := 1, whetherRecv := 1 }

end RecvManager

end RLib
