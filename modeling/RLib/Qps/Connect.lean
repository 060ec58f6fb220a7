import RLib.Qps.Rc

namespace RLib

open Qps

/-- Where a queue pair was told to send, and the packet sequence numbers it receives and sends first. -/
structure Programmed where
  destQpNum : U32
  dlid : U16
  dgid : U64 × U64
  rqPsn : U32
  sqPsn : U32
deriving DecidableEq

def QpModify.destination : QpModify → Option (AhAttr × U32 × U32)
  | .toRtr ahAttr _ destQpNum rqPsn _ _ => some (ahAttr, destQpNum, rqPsn)
  | _ => none

def QpModify.sends : QpModify → Option U32
  | .toRts sqPsn _ _ _ _ => some sqPsn
  | _ => none

/-- What the last step to RTR and the last to RTS set. -/
def IbvQp.programmed (q : IbvQp) : Option Programmed := do
  let (ahAttr, destQpNum, rqPsn) ← q.modified.findSome? QpModify.destination
  let sqPsn ← q.modified.findSome? QpModify.sends
  return ⟨destQpNum, ahAttr.dlid, (ahAttr.subnetPrefix, ahAttr.interfaceId), rqPsn, sqPsn⟩

/-- What reaches the queue pair of that number: the number, the LID and the GID. -/
def RNic.reach (nic : RNic) (qpNum : U32) : Option (U32 × U16 × U64 × U64) := do
  let lid ← nic.lid
  let addr ← nic.addr
  return (qpNum, lid.setWidth 16, addr.subnetPrefix, addr.interfaceId)

/-- Where it sends to, in the same terms. -/
def Programmed.aim (p : Programmed) : U32 × U16 × U64 × U64 := (p.destQpNum, p.dlid, p.dgid)

namespace Qps

def Dummy.identity (d : Dummy) : Option (U32 × U16 × U64 × U64) := do
  let qp ← d.qp
  d.nic.reach qp.qpNum

theorem Dummy.myAttr_ok {d : Dummy} {mine : QPAttr} (known : d.myAttr = .ok mine) :
    d.nic.Complete ∧ (∃ qp, d.qp = some qp) ∧
      d.identity = some (mine.qpn.setWidth 32, mine.lid.setWidth 16,
        mine.addr.subnetPrefix, mine.addr.interfaceId) := by
  unfold myAttr at known
  cases address : d.nic.addr with
  | none =>
    simp only [address, value_none, Bind.bind, Except.bind] at known
    cases known
  | some addr =>
    cases local' : d.nic.lid with
    | none =>
      simp only [address, local', value_some, value_none, Bind.bind, Except.bind] at known
      cases known
    | some lid =>
      cases made : d.qp with
      | none =>
        simp only [address, local', made, value_some, Bind.bind, Except.bind] at known
        cases known
      | some qp =>
        simp only [address, local', made, value_some, Bind.bind, Except.bind, Pure.pure, Except.pure,
          Except.ok.injEq] at known
        subst mine
        have complete : d.nic.Complete := ⟨by rw [address]; rfl, by rw [local']; rfl⟩
        refine ⟨complete, ⟨qp, rfl⟩, ?_⟩
        simp [identity, RNic.reach, made, address, local']

namespace RC

variable {calls : VerbsCalls} {rc : Dummy} {hw : Hardware}

def rtr (config : QPConfig) (attr : QPAttr) (portId : U32) : QpModify :=
  .toRtr
    { isGlobal := true, dlid := attr.lid.setWidth 16, sl := 0, srcPathBits := 0, portNum := portId.setWidth 8,
      subnetPrefix := attr.addr.subnetPrefix, interfaceId := attr.addr.interfaceId, sgidIndex := 0, flowLabel := 0,
      hopLimit := 255 }
    4096 (attr.qpn.setWidth 32) config.rqPsn (config.maxDestRdAtomic.setWidth 8) 20

def rts (config : QPConfig) : QpModify :=
  .toRts config.sqPsn (config.timeout.setWidth 8) 7 7 (config.maxRdAtomic.setWidth 8)

def connected (rc : Dummy) (attr mine : QPAttr) (q : IbvQp) : IbvQp :=
  (q.modify (rtr rc.myConfig attr (mine.portId.setWidth 32))).modify (rts rc.myConfig)

theorem connected_state (rc : Dummy) (attr mine : QPAttr) (q : IbvQp) : (connected rc attr mine q).state = .RTS := rfl

theorem connected_programmed (rc : Dummy) (attr mine : QPAttr) (q : IbvQp) :
    (connected rc attr mine q).programmed =
      some ⟨attr.qpn.setWidth 32, attr.lid.setWidth 16, (attr.addr.subnetPrefix, attr.addr.interfaceId),
        rc.myConfig.rqPsn, rc.myConfig.sqPsn⟩ := rfl

structure Owns (rc : Dummy) (hw : Hardware) (qp : QpHandle) (q : IbvQp) : Prop where
  hasQp : rc.qp = some qp
  hasCq : rc.cq.isSome
  found : hw.qp qp.ptr = some q

theorem Owns.unique {qp qp' : QpHandle} {q q' : IbvQp} (owns : Owns rc hw qp q) (owns' : Owns rc hw qp' q') :
    qp' = qp ∧ q' = q := by
  cases owns.hasQp.symm.trans owns'.hasQp
  cases owns.found.symm.trans owns'.found
  exact ⟨rfl, rfl⟩

/-- `connect` does not return: the query fails, or there is nothing left to query. -/
def Leaves (calls : VerbsCalls) (rc : Dummy) (hw : Hardware) : Prop :=
  ∃ qp, rc.qp = some qp ∧ rc.cq.isSome ∧ (calls.queryQp = false ∨ hw.qp qp.ptr = none)

/-- `connect` reports success: the queue pair is connected already, or in INIT and both steps go through. -/
def Succeeds (calls : VerbsCalls) (rc : Dummy) (hw : Hardware) : Prop :=
  calls.queryQp = true ∧ ∃ qp q, Owns rc hw qp q ∧
    (q.state = .RTS ∨ q.state = .INIT ∧ calls.toRtr = true ∧ calls.toRts = true)

theorem Succeeds.stays (succeeds : Succeeds calls rc hw) : ¬Leaves calls rc hw := by
  obtain ⟨queried, qp, q, owns, _⟩ := succeeds
  intro ⟨qp', made, _, gone⟩
  cases owns.hasQp.symm.trans made
  rcases gone with unqueried | missing
  · cases queried.symm.trans unqueried
  · cases owns.found.symm.trans missing

/-- How `connect` ends on an object whose own attributes can be read. -/
inductive Ends (calls : VerbsCalls) (rc : Dummy) (attr mine : QPAttr) (hw : Hardware) :
    Except Exit (IOCode × Dummy) × Hardware → Prop
  | left {e : Exit} (leaves : Leaves calls rc hw) (ends : e ≠ .exception) : Ends calls rc attr mine hw (.error e, hw)
  | already {qp : QpHandle} {q : IbvQp} (succeeds : Succeeds calls rc hw) (owns : Owns rc hw qp q)
      (state : q.state = .RTS) : Ends calls rc attr mine hw (.ok (.Ok, rc), hw)
  | programmed {qp : QpHandle} {q : IbvQp} {hw' : Hardware} (succeeds : Succeeds calls rc hw) (owns : Owns rc hw qp q)
      (state : q.state = .INIT) (found : hw'.qp qp.ptr = some (connected rc attr mine q)) :
      Ends calls rc attr mine hw (.ok (.Ok, { rc with status := .Ok }), hw')
  | failed {hw' : Hardware} (stays : ¬Leaves calls rc hw) (fails : ¬Succeeds calls rc hw) :
      Ends calls rc attr mine hw (.ok (.Err, rc), hw')

theorem bring_ends (attr : QPAttr) {mine : QPAttr} (known : rc.myAttr = .ok mine) {qp : QpHandle} {q : IbvQp}
    (owns : Owns rc hw qp q) (queried : calls.queryQp = true) (apart : q.state ≠ .RTS) :
    Ends calls rc attr mine hw (bring calls rc qp.ptr attr hw) := by
  have stays : ¬Leaves calls rc hw := by
    intro ⟨qp', made, _, gone⟩
    cases owns.hasQp.symm.trans made
    rcases gone with unqueried | missing
    · cases queried.symm.trans unqueried
    · cases owns.found.symm.trans missing
  have steps : Succeeds calls rc hw → q.state = .INIT ∧ calls.toRtr = true ∧ calls.toRts = true := by
    intro ⟨_, qp', q', owns', ready⟩
    obtain ⟨rfl, rfl⟩ := owns.unique owns'
    exact ready.resolve_left apart
  unfold bring
  simp only [known]
  rcases received : Impl.bringRcToRcv calls qp.ptr rc.myConfig attr (mine.portId.setWidth 32) hw with ⟨ok, hw₁⟩
  rcases Hardware.modifyQp_cases owns.found received with ⟨rfl, toRtr, init, found₁⟩ | ⟨rfl, refused, _⟩
  · rcases sent : Impl.bringRcToSend calls qp.ptr rc.myConfig hw₁ with ⟨ok, hw₂⟩
    rcases Hardware.modifyQp_cases found₁ sent with ⟨rfl, toRts, _, found₂⟩ | ⟨rfl, refused, _⟩
    · simp only [sent]
      exact .programmed ⟨queried, qp, q, owns, .inr ⟨init, toRtr, toRts⟩⟩ owns init found₂
    · simp only [sent]
      exact .failed stays fun succeeds => refused ⟨(steps succeeds).2.2, rfl⟩
  · exact .failed stays fun succeeds => refused ⟨(steps succeeds).2.1, (steps succeeds).1⟩

theorem connect_ends (calls : VerbsCalls) (attr : QPAttr) {mine : QPAttr} (known : rc.myAttr = .ok mine)
    (hw : Hardware) : Ends calls rc attr mine hw (connect calls rc attr hw) := by
  obtain ⟨_, ⟨qp, made⟩, _⟩ := Dummy.myAttr_ok known
  cases completes : rc.cq with
  | none =>
    have noCq : ¬rc.cq.isSome := by rw [completes]; exact Bool.noConfusion
    have invalid : connect calls rc attr hw = (.ok (.Err, rc), hw) := by
      simp only [connect, Dummy.qpStatus, made, completes]
    rw [invalid]
    refine .failed ?_ ?_
    · rintro ⟨_, _, cq, _⟩
      exact noCq cq
    · rintro ⟨_, _, _, owns, _⟩
      exact noCq owns.hasCq
  | some cq =>
    have hasCq : rc.cq.isSome := by rw [completes]; rfl
    cases queried : calls.queryQp with
    | false =>
      have aborted : connect calls rc attr hw = (.error .abort, hw) := by
        simp only [connect, Dummy.qpStatus, made, completes, queried, Bool.false_eq_true, ↓reduceIte]
      rw [aborted]
      exact .left ⟨qp, made, hasCq, .inl queried⟩ (fun same => by cases same)
    | true =>
      cases found : hw.qp qp.ptr with
      | none =>
        have gone : connect calls rc attr hw = (.error .overread, hw) := by
          simp only [connect, Dummy.qpStatus, made, completes, queried, ↓reduceIte, found]
        rw [gone]
        exact .left ⟨qp, made, hasCq, .inr found⟩ (fun same => by cases same)
      | some q =>
        have owns : Owns rc hw qp q := ⟨made, hasCq, found⟩
        by_cases state : q.state = .RTS
        · have up : connect calls rc attr hw = (.ok (.Ok, rc), hw) := by
            simp only [connect, Dummy.qpStatus, made, completes, queried, ↓reduceIte, found, state]
          rw [up]
          exact .already ⟨queried, qp, q, owns, .inl state⟩ owns state
        · have reached : connect calls rc attr hw = bring calls rc qp.ptr attr hw := by
            simp only [connect, Dummy.qpStatus, made, completes, queried, ↓reduceIte, found]
          rw [reached]
          exact bring_ends attr known owns queried state

theorem connect_programs (attr : QPAttr) {mine : QPAttr} (known : rc.myAttr = .ok mine) {qp : QpHandle} {q : IbvQp}
    (owns : Owns rc hw qp q) (queried : calls.queryQp = true) (init : q.state = .INIT) (toRtr : calls.toRtr = true)
    (toRts : calls.toRts = true) :
    ∃ hw', connect calls rc attr hw = (.ok (.Ok, { rc with status := .Ok }), hw') ∧
      hw'.qp qp.ptr = some (connected rc attr mine q) := by
  have succeeds : Succeeds calls rc hw := ⟨queried, qp, q, owns, .inr ⟨init, toRtr, toRts⟩⟩
  have ends := connect_ends calls attr known hw
  generalize connect calls rc attr hw = outcome at ends
  cases ends with
  | left leaves _ => exact absurd leaves succeeds.stays
  | already _ owns' up =>
    obtain ⟨_, rfl⟩ := owns.unique owns'
    cases up.symm.trans init
  | @programmed qp' q' hw' _ owns' _ found =>
    obtain ⟨rfl, rfl⟩ := owns.unique owns'
    exact ⟨hw', rfl, found⟩
  | failed _ fails => exact absurd succeeds fails

end RC

end Qps

end RLib
