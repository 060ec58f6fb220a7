import RLib.Foundation.Run
import RLib.Qps.Connect

namespace RLib.Qps.RC

/-- How `connect` ends on the queue pair `q`, and what it leaves of it. -/
inductive Tries (calls : VerbsCalls) (rc : Dummy) (attr : QPAttr) (qp : QpHandle) (q : IbvQp) (hw : Hardware) :
    Except Exit (IOCode × Dummy) × Hardware → Prop
  | aborted (failed : calls.queryQp = false) : Tries calls rc attr qp q hw (.error .abort, hw)
  | already (up : q.state = .RTS) : Tries calls rc attr qp q hw (.ok (.Ok, rc), hw)
  | thrown (apart : q.state ≠ .RTS) (incomplete : ¬rc.nic.Complete) :
      Tries calls rc attr qp q hw (.error .exception, hw)
  | kept (apart : q.state ≠ .RTS) (refused : ¬(calls.toRtr = true ∧ q.state = .INIT)) :
      Tries calls rc attr qp q hw (.ok (.Err, rc), hw)
  | halfway {mine : QPAttr} {hw' : Hardware} (init : q.state = .INIT) (refused : calls.toRts ≠ true)
      (found : hw'.qp qp.ptr = some (q.modify (rtr rc.myConfig attr (mine.portId.setWidth 32)))) :
      Tries calls rc attr qp q hw (.ok (.Err, rc), hw')
  | connected {mine : QPAttr} {hw' : Hardware} (init : q.state = .INIT) (complete : rc.nic.Complete)
      (found : hw'.qp qp.ptr = some (connected rc attr mine q)) :
      Tries calls rc attr qp q hw (.ok (.Ok, { rc with status := .Ok }), hw')

section

variable {calls : VerbsCalls} {rc : Dummy} {qp : QpHandle} {q : IbvQp} {hw : Hardware}

theorem bring_tries (attr : QPAttr) (owns : Owns rc hw qp q) (apart : q.state ≠ .RTS) :
    Tries calls rc attr qp q hw (bring calls rc qp.ptr attr hw) := by
  unfold bring
  by_cases complete : rc.nic.Complete
  · obtain ⟨mine, known⟩ := rc.myAttr_complete owns.hasQp complete
    simp only [known]
    rcases received : Impl.bringRcToRcv calls qp.ptr rc.myConfig attr (mine.portId.setWidth 32) hw with ⟨ok, hw₁⟩
    rcases Hardware.modifyQp_cases owns.found received with ⟨rfl, _, init, found₁⟩ | ⟨rfl, refused, rfl⟩
    · rcases sent : Impl.bringRcToSend calls qp.ptr rc.myConfig hw₁ with ⟨ok, hw₂⟩
      rcases Hardware.modifyQp_cases found₁ sent with ⟨rfl, _, _, found₂⟩ | ⟨rfl, refused, rfl⟩
      · simp only [sent]
        exact .connected init complete found₂
      · simp only [sent]
        exact .halfway init (fun willing => refused ⟨willing, rfl⟩) found₁
    · exact .kept apart refused
  · rw [rc.myAttr_incomplete complete]
    exact .thrown apart complete

theorem connect_tries (calls : VerbsCalls) (attr : QPAttr) (owns : Owns rc hw qp q) :
    Tries calls rc attr qp q hw (connect calls rc attr hw) := by
  obtain ⟨cq, hasCq⟩ := Option.isSome_iff_exists.mp owns.hasCq
  cases queried : calls.queryQp with
  | false =>
    have aborted : connect calls rc attr hw = (.error .abort, hw) := by
      simp only [connect, Dummy.qpStatus, owns.hasQp, hasCq, queried, Bool.false_eq_true, ↓reduceIte]
    rw [aborted]
    exact .aborted queried
  | true =>
    by_cases up : q.state = .RTS
    · have already : connect calls rc attr hw = (.ok (.Ok, rc), hw) := by
        simp only [connect, Dummy.qpStatus, owns.hasQp, hasCq, queried, ↓reduceIte, owns.found, up]
      rw [already]
      exact .already up
    · have reached : connect calls rc attr hw = bring calls rc qp.ptr attr hw := by
        simp only [connect, Dummy.qpStatus, owns.hasQp, hasCq, queried, ↓reduceIte, owns.found]
      rw [reached]
      exact bring_tries attr owns up

end

/-- A call of `connect`, and whether the driver is willing to make its two steps. -/
structure ConnectCall where
  attr : QPAttr
  toRtr : Bool := true
  toRts : Bool := true
deriving DecidableEq

namespace ConnectCall

def Undisturbed (c : ConnectCall) : Prop := c.toRtr = true ∧ c.toRts = true

instance (c : ConnectCall) : Decidable c.Undisturbed := inferInstanceAs (Decidable (_ ∧ _))

def calls (c : ConnectCall) : VerbsCalls := { createQp := none, toRtr := c.toRtr, toRts := c.toRts }

end ConnectCall

structure Connection where
  rc : Dummy
  hw : Hardware

namespace Connection

def connect (s : Connection) (c : ConnectCall) : Except Exit (IOCode × Dummy) × Hardware :=
  RC.connect c.calls s.rc c.attr s.hw

/-- What the caller goes on with; an exception of `connect` leaves the object as it is. -/
def after (s : Connection) (c : ConnectCall) : Connection :=
  match s.connect c with
  | (.error _, hw) => { s with hw := hw }
  | (.ok (_, rc), hw) => ⟨rc, hw⟩

def step (s : Connection) (c : ConnectCall) : Option Connection := some (s.after c)

def Faithful (s : Connection) : Prop := ∃ qp q, Owns s.rc s.hw qp q ∧ (s.rc.status = .Ok ↔ q.state = .RTS)

def Connected (s : Connection) : Prop := ∃ qp q, Owns s.rc s.hw qp q ∧ q.state = .RTS ∧ s.rc.status = .Ok

/-- The call ends connected, and says so, unless a step of it fails for a while. -/
def Retries (s : Connection) (c : ConnectCall) : Prop :=
  c.Undisturbed → (∃ rc, (s.connect c).1 = .ok (.Ok, rc)) ∧ (s.after c).Connected

/-- The queue pair is connected, or there is nothing before RTS but the two steps of `connect`. -/
def Ready (s : Connection) : Prop :=
  ∃ qp q, Owns s.rc s.hw qp q ∧ (q.state = .RTS ∨ q.state = .INIT ∧ s.rc.nic.Complete)

/-- Each call without a failure is made on a queue pair that is ready for it. -/
def MadeReady (s : Connection) (c : ConnectCall) : Prop := c.Undisturbed → s.Ready

theorem after_faithful {s : Connection} (c : ConnectCall) (faithful : s.Faithful) : (s.after c).Faithful := by
  obtain ⟨qp, q, owns, status⟩ := faithful
  have tries := connect_tries c.calls c.attr owns
  unfold after Connection.connect
  generalize RC.connect c.calls s.rc c.attr s.hw = outcome at tries
  cases tries with
  | aborted failed => cases failed
  | already => exact ⟨qp, q, owns, status⟩
  | thrown => exact ⟨qp, q, owns, status⟩
  | kept => exact ⟨qp, q, owns, status⟩
  | @halfway mine hw' init _ found =>
    have down : s.rc.status ≠ .Ok := by
      intro ok
      cases init.symm.trans (status.mp ok)
    exact ⟨qp, _, ⟨owns.hasQp, owns.hasCq, found⟩, iff_of_false down nofun⟩
  | @connected mine hw' _ _ found => exact ⟨qp, _, ⟨owns.hasQp, owns.hasCq, found⟩, iff_of_true rfl rfl⟩

theorem retries_iff {s : Connection} (c : ConnectCall) (faithful : s.Faithful) : s.Retries c ↔ s.MadeReady c := by
  apply imp_congr_right
  intro undisturbed
  obtain ⟨qp, q, owns, status⟩ := faithful
  have tries := connect_tries c.calls c.attr owns
  unfold after Connection.connect
  generalize RC.connect c.calls s.rc c.attr s.hw = outcome at tries
  have ready : s.Ready ↔ q.state = .RTS ∨ q.state = .INIT ∧ s.rc.nic.Complete := by
    constructor
    · intro ⟨qp', q', owns', ready⟩
      obtain ⟨rfl, rfl⟩ := owns.unique owns'
      exact ready
    · exact fun ready => ⟨qp, q, owns, ready⟩
  rw [ready]
  cases tries with
  | aborted failed => cases failed
  | already up => exact iff_of_true ⟨⟨_, rfl⟩, qp, q, owns, up, status.mpr up⟩ (.inl up)
  | thrown apart incomplete =>
    exact iff_of_false (fun ⟨⟨_, ok⟩, _⟩ => by cases ok) (fun ready => ready.elim apart fun init => incomplete init.2)
  | kept apart refused =>
    exact iff_of_false (fun ⟨⟨_, ok⟩, _⟩ => by cases ok)
      (fun ready => ready.elim apart fun init => refused ⟨undisturbed.1, init.1⟩)
  | halfway _ refused => exact absurd undisturbed.2 refused
  | @connected mine hw' init complete found =>
    exact iff_of_true ⟨⟨_, rfl⟩, qp, _, ⟨owns.hasQp, owns.hasCq, found⟩, rfl, rfl⟩ (.inr ⟨init, complete⟩)

/-- Through all calls the status is right, and each call that no failure disturbs ends connected. -/
structure Retryable (s : Connection) (cs : List ConnectCall) : Prop where
  status : Run.Throughout step Faithful s cs
  retries : Run.Along step Retries s cs

end Connection

open Connection

theorem create_faithful {calls : VerbsCalls} {nic : RNic} {config : QPConfig} {recvCq : Option Ptr}
    {hw hw' : Hardware} {rc : Dummy} (created : create calls nic config recvCq hw = (some rc, hw')) :
    Faithful ⟨rc, hw'⟩ := by
  obtain ⟨qpNum, rfl, rfl⟩ := create_some created
  obtain ⟨q, found, state⟩ := madeHw_qp calls nic config recvCq qpNum hw
  refine ⟨_, q, ⟨rfl, rfl, found⟩, iff_of_false nofun ?_⟩
  rw [state]
  split
  · exact nofun
  · exact nofun

/-- `connect` can be retried exactly as long as it is, without a failure, only on a queue pair that is ready. -/
theorem retryable_iff {calls : VerbsCalls} {nic : RNic} {config : QPConfig} {recvCq : Option Ptr}
    {hw hw' : Hardware} {rc : Dummy} (created : create calls nic config recvCq hw = (some rc, hw'))
    (cs : List ConnectCall) : Retryable ⟨rc, hw'⟩ cs ↔ Run.Along step MadeReady ⟨rc, hw'⟩ cs := by
  have start := create_faithful created
  have preserved : Run.Preserves step Faithful := by
    intro s c t faithful happens
    cases happens
    exact after_faithful c faithful
  constructor
  · exact fun retryable => preserved.along (fun s c _ faithful _ => (retries_iff c faithful).mp) start retryable.retries
  · intro ready
    exact ⟨preserved.throughout (fun _ => id) start cs,
      preserved.along (fun s c _ faithful _ => (retries_iff c faithful).mpr) start ready⟩

def openedNic : RNic := ⟨1, some ⟨0, 0, 0⟩, some 7⟩

def peerAttr : QPAttr := ⟨⟨0, 0, 0⟩, 5, 3185, 1, 8, 0⟩

def createdConnection (toInit : Bool) (config : QPConfig) : Connection where
  rc := made openedNic config none 7 {}
  hw := madeHw { createQp := some 7, toInit := toInit } openedNic config none 7 {}

theorem createdConnection_create (toInit : Bool) (config : QPConfig) :
    create { createQp := some 7, toInit := toInit } openedNic config none {} =
      (some (createdConnection toInit config).rc, (createdConnection toInit config).hw) :=
  create_made rfl rfl openedNic config none {}

theorem retryable_transient :
    Retryable (createdConnection true {})
      [⟨peerAttr, false, true⟩, ⟨peerAttr, true, true⟩, ⟨peerAttr, true, true⟩] := by
  refine (retryable_iff (createdConnection_create true {}) _).mpr ?_
  rintro _ ⟨⟩
  refine ⟨fun undisturbed => absurd undisturbed.1 nofun, ?_⟩
  rintro _ ⟨⟩
  refine ⟨fun _ => ⟨_, _, ⟨rfl, rfl, rfl⟩, .inr ⟨rfl, by decide⟩⟩, ?_⟩
  rintro _ ⟨⟩
  exact ⟨fun _ => ⟨_, _, ⟨rfl, rfl, rfl⟩, .inl rfl⟩, trivial⟩

/-- After a step to INIT or to RTS that failed once, `connect` fails without any further failure. -/
theorem failedStep_stays :
    ¬Retryable (createdConnection false {}) [⟨peerAttr, true, true⟩] ∧
      ¬Retryable (createdConnection true {}) [⟨peerAttr, true, false⟩, ⟨peerAttr, true, true⟩] := by
  constructor
  · intro retryable
    obtain ⟨⟨rc, ok⟩, _⟩ := (retryable.retries _ rfl).1 ⟨rfl, rfl⟩
    cases ok
  · intro retryable
    obtain ⟨⟨rc, ok⟩, _⟩ := ((retryable.retries _ rfl).2 _ rfl).1 ⟨rfl, rfl⟩
    cases ok

end RLib.Qps.RC
