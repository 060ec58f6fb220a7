import RLib.Control.Mirror
import RLib.Qps.Config
import RLib.Qps.Retry

namespace RLib

open Bytes Bootstrap Proto Qps RCtrl

/-- What `ibv_modify_qp` is passed is what the configuration holds, as far as it fits the attribute. -/
def QpModify.Of (config : QPConfig) : QpModify → Prop
  | .toInit _ _ accessFlags => accessFlags = config.accessFlags
  | .toRtr _ _ _ rqPsn maxDestRdAtomic _ =>
    rqPsn = config.rqPsn ∧ maxDestRdAtomic = config.maxDestRdAtomic.setWidth 8
  | .toRts sqPsn timeout _ _ maxRdAtomic =>
    sqPsn = config.sqPsn ∧ timeout = config.timeout.setWidth 8 ∧ maxRdAtomic = config.maxRdAtomic.setWidth 8

structure IbvQp.Of (config : QPConfig) (q : IbvQp) : Prop where
  maxSendWr : q.init.maxSendWr = config.maxSendSize
  maxRecvWr : q.init.maxRecvWr = config.maxRecvSize
  modified : ∀ m ∈ q.modified, m.Of config

theorem IbvQp.Of.modify {config : QPConfig} {q : IbvQp} {m : QpModify} (of : q.Of config) (programs : m.Of config) :
    (q.modify m).Of config :=
  ⟨of.maxSendWr, of.maxRecvWr, List.forall_mem_cons.mpr ⟨programs, of.modified⟩⟩

namespace Qps.RC

def Follows (rc : Dummy) (hw : Hardware) : Prop := ∃ qp q, Owns rc hw qp q ∧ q.Of rc.myConfig

theorem rtr_of (config : QPConfig) (attr : QPAttr) (portId : U32) : (rtr config attr portId).Of config := ⟨rfl, rfl⟩

theorem rts_of (config : QPConfig) : (rts config).Of config := ⟨rfl, rfl, rfl⟩

theorem connected_of {rc : Dummy} {q : IbvQp} (attr mine : QPAttr) (of : q.Of rc.myConfig) :
    (connected rc attr mine q).Of rc.myConfig :=
  (of.modify (rtr_of _ attr _)).modify (rts_of _)

theorem madeHw_of (calls : VerbsCalls) (nic : RNic) (config : QPConfig) (recvCq : Option Ptr) (qpNum : U32)
    (hw : Hardware) : Follows (made nic config recvCq qpNum hw) (madeHw calls nic config recvCq qpNum hw) := by
  have new : (resetHw config recvCq qpNum hw).qp (hw.fresh + 1) = some _ := Hardware.createQp_qp _ _ _
  unfold madeHw
  rcases brought : Impl.bringQpToInit calls (hw.fresh + 1) config nic (resetHw config recvCq qpNum hw) with ⟨ok, hw'⟩
  rcases Hardware.modifyQp_cases new brought with ⟨_, _, _, found⟩ | ⟨_, _, rfl⟩
  · exact ⟨_, _, ⟨rfl, rfl, found⟩, IbvQp.Of.modify ⟨rfl, rfl, nofun⟩ rfl⟩
  · exact ⟨_, _, ⟨rfl, rfl, new⟩, ⟨rfl, rfl, nofun⟩⟩

theorem create_follows {calls : VerbsCalls} {nic : RNic} {config : QPConfig} {recvCq : Option Ptr} {hw hw' : Hardware}
    {rc : Dummy} (created : create calls nic config recvCq hw = (some rc, hw')) :
    rc.myConfig = config ∧ Follows rc hw' := by
  obtain ⟨qpNum, rfl, rfl⟩ := create_some created
  exact ⟨rfl, madeHw_of calls nic config recvCq qpNum hw⟩

/-- `connect` programs the queue pair from the object's configuration only. -/
theorem connect_follows (calls : VerbsCalls) (attr : QPAttr) {rc : Dummy} {hw : Hardware} (follows : Follows rc hw) :
    (∀ e hw', connect calls rc attr hw = (.error e, hw') → Follows rc hw') ∧
      ∀ code rc' hw', connect calls rc attr hw = (.ok (code, rc'), hw') →
        rc'.myConfig = rc.myConfig ∧ Follows rc' hw' := by
  obtain ⟨qp, q, owns, of⟩ := follows
  have tries := connect_tries calls attr owns
  generalize connect calls rc attr hw = outcome at tries
  constructor
  · rintro e hw' rfl
    cases tries with
    | aborted => exact ⟨qp, q, owns, of⟩
    | thrown => exact ⟨qp, q, owns, of⟩
  · rintro code rc' hw' rfl
    cases tries with
    | already => exact ⟨rfl, qp, q, owns, of⟩
    | kept => exact ⟨rfl, qp, q, owns, of⟩
    | halfway _ _ found => exact ⟨rfl, qp, _, ⟨owns.hasQp, owns.hasCq, found⟩, of.modify (rtr_of _ attr _)⟩
    | connected _ _ found => exact ⟨rfl, qp, _, ⟨owns.hasQp, owns.hasCq, found⟩, connected_of attr _ of⟩

theorem Follows.postRecv {rc : Dummy} {hw : Hardware} (follows : Follows rc hw) (p : Ptr) (wqes : List RecvWqe) :
    Follows rc (hw.postRecv p wqes) := by
  obtain ⟨qp, q, owns, of⟩ := follows
  have keeps : ∀ q : IbvQp, ({ q with rq := q.rq ++ wqes } : IbvQp).ptr = q.ptr := fun _ => rfl
  have found := hw.updateQp_qp p qp.ptr keeps
  rw [owns.found, Option.map_some] at found
  refine ⟨qp, _, ⟨owns.hasQp, owns.hasCq, found⟩, ?_⟩
  split
  · exact ⟨of.maxSendWr, of.maxRecvWr, of.modified⟩
  · exact of

namespace Connection

theorem after_follows {s : Connection} (c : ConnectCall) (follows : Follows s.rc s.hw) :
    (s.after c).rc.myConfig = s.rc.myConfig ∧ Follows (s.after c).rc (s.after c).hw := by
  have kept := connect_follows c.calls c.attr follows
  unfold after Connection.connect
  rcases connects : RC.connect c.calls s.rc c.attr s.hw with ⟨e | ⟨code, rc⟩, hw⟩
  · exact ⟨rfl, kept.1 e hw connects⟩
  · exact kept.2 code rc hw connects

end Connection

end Qps.RC

namespace RCtrl

variable {A : Type} {R : Nat} [NeZero R]

def Follows (s : Server A R) (name : Name) (config : QPConfig) : Prop :=
  ∃ p rc, s.registeredQps.query name = some p ∧ s.qps p = some rc ∧ rc.myConfig = config ∧ RC.Follows rc s.hw

theorem connectRegistered_follows {req : RCReq} {name : Name} {key key' : U64} {p p' : Ptr} {rc : Dummy}
    {s s' : Server A R} (registered : s.registeredQps.query name = some p) (config : rc.myConfig = req.config)
    (follows : RC.Follows rc s.hw)
    (connected : connectRegistered req name key p rc s = (.ok (some (p', key')), s')) :
    s'.registeredQps.query name = some p' ∧ Follows s' name req.config := by
  unfold connectRegistered at connected
  have kept := RC.connect_follows s.env.calls req.attr follows
  rcases connects : RC.connect s.env.calls rc req.attr s.hw with ⟨e | ⟨code, rc'⟩, hw⟩
  · rw [connects] at connected
    cases connected
  · rw [connects] at connected
    obtain ⟨same, follows'⟩ := kept.2 code rc' hw connects
    cases code with
    | Ok =>
      cases connected
      exact ⟨registered, p, rc', registered, Function.update_self _ _ _, same.trans config, follows'⟩
    | _ => cases connected

theorem createAndConnect_follows {req : RCReq} {nic : RNic} {recvCq : Option Ptr} {s s' : Server A R} {name : Name}
    {p : Ptr} {key : U64} (named : req.nameString = .ok name)
    (created : createAndConnect req nic recvCq s = (.ok (some (p, key)), s')) :
    s'.registeredQps.query name = some p ∧ Follows s' name req.config := by
  unfold createAndConnect at created
  rcases made : RC.create s.env.calls nic req.config recvCq s.hw with ⟨_ | rc, hw⟩
  · rw [made] at created
    cases created
  · obtain ⟨config, follows⟩ := RC.create_follows made
    rw [made, named] at created
    simp only at created
    by_cases present : name ∈ s.registeredQps.store
    · rw [s.registeredQps.reg_present s.env.qpKey s.fresh present] at created
      cases created
    · rw [s.registeredQps.reg_absent s.env.qpKey s.fresh present] at created
      have registered : Factory.query { store := s.registeredQps.store.insert name (s.fresh, s.env.qpKey.value) } name =
          some s.fresh := by
        rw [Factory.query_insert, if_pos rfl]
      exact connectRegistered_follows registered config follows created

theorem wrongArg_rejected : ¬RCReply.Accepted wrongArg := by
  rw [wrongArg, RCReply.bare_accepted]
  intro same
  cases same

theorem createRc_follows {req : RCReq} {nic : RNic} {s s' : Server A R} {name : Name} {reply : ByteBuffer}
    (named : req.nameString = .ok name) (replied : createRc req nic s = (.ok reply, s'))
    (accepted : RCReply.Accepted reply) : Follows s' name req.config := by
  unfold createRc at replied
  rcases created : createAndConnect req nic none s with ⟨e | _ | ⟨p, key⟩, s₁⟩
  · rw [created] at replied
    cases replied
  · rw [created] at replied
    cases replied
    exact absurd accepted wrongArg_rejected
  · rw [created] at replied
    cases congrArg Prod.snd replied
    exact (createAndConnect_follows named created).2

end RCtrl

namespace RecvManager

variable {A : Type} {R : Nat} [NeZero R] [AbsRecvAllocator A]

theorem armRecv_follows {req : RCReq} {p : Ptr} {s s' : Server A R} {name : Name} {config : QPConfig}
    (follows : Follows s name config) (registered : s.registeredQps.query name = some p)
    (armed : armRecv req p s = (.ok (), s')) : Follows s' name config := by
  obtain ⟨p', rc, registered', object, same, qp, q, owns, of⟩ := follows
  cases registered.symm.trans registered'
  have arms := armRecv_arms req (p := p) (s := s) (by rw [object]; exact owns.hasQp)
  rw [armed] at arms
  cases arms with
  | armed => exact ⟨p, rc, registered, object, same, RC.Follows.postRecv ⟨qp, q, owns, of⟩ _ _⟩

theorem createMsgRcOn_follows {req : RCReq} {nic : RNic} {recvCq : Option Ptr} {s s' : Server A R} {name : Name}
    {reply : ByteBuffer} (named : req.nameString = .ok name)
    (replied : createMsgRcOn req nic recvCq s = (.ok reply, s')) (accepted : RCReply.Accepted reply) :
    Follows s' name req.config := by
  unfold createMsgRcOn at replied
  rcases created : createAndConnect req nic recvCq s with ⟨e | _ | ⟨p, key⟩, s₁⟩
  · rw [created] at replied
    cases replied
  · rw [created] at replied
    cases replied
    exact absurd accepted wrongArg_rejected
  · obtain ⟨registered, follows⟩ := createAndConnect_follows named created
    rw [created] at replied
    simp only [orWrongArg] at replied
    rcases armed : armRecv req p s₁ with ⟨e | _, s₂⟩
    · rw [armed] at replied
      cases replied
    · rw [armed] at replied
      cases congrArg Prod.snd replied
      exact armRecv_follows follows registered armed

theorem createMsgRc_follows {req : RCReq} {nic : RNic} {s s' : Server A R} {name : Name} {reply : ByteBuffer}
    (named : req.nameString = .ok name) (replied : createMsgRc req nic s = (.ok reply, s'))
    (accepted : RCReply.Accepted reply) : Follows s' name req.config := by
  unfold createMsgRc at replied
  rcases receives : recvCqOf req s with e | recvCq
  · rw [receives] at replied
    cases replied
  · rw [receives] at replied
    exact createMsgRcOn_follows named replied accepted

end RecvManager

theorem RCtrl.handleCreate_follows {A : Type} {R : Nat} [NeZero R]
    {create : RCReq → RNic → Server A R → Except Exit ByteBuffer × Server A R} {req : RCReq} {s s' : Server A R}
    {name : Name} {reply : ByteBuffer} (creates : req.whetherCreate = 1)
    (follows : ∀ nic, create req nic s = (.ok reply, s') → Follows s' name req.config)
    (replied : handleCreate create (dump RCReq.format req) s = (.ok reply, s')) (accepted : RCReply.Accepted reply) :
    Follows s' name req.config := by
  unfold handleCreate at replied
  rw [dedump_self] at replied
  simp only at replied
  rw [if_neg (by rw [creates]; decide), if_pos creates] at replied
  cases known : s.openedNics.query req.nicId with
  | none =>
    rw [known] at replied
    cases replied
    exact absurd accepted wrongArg_rejected
  | some nic =>
    rw [known] at replied
    exact follows nic replied

namespace Creation

theorem answer_follows {A : Type} {R : Nat} [NeZero R] [AbsRecvAllocator A] {c : Creation} (fits : c.Fits)
    {attr : QPAttr} {s s' : Server A R} {reply : ByteBuffer}
    (replied : RPCFactory.callOne RecvManager.handlers c.id (dump RCReq.format (c.request attr)) s = (.ok reply, s'))
    (accepted : RCReply.Accepted reply) : Follows s' (readName c.name) c.config := by
  have named := request_name fits attr
  have serves := RecvManager.serves_creation (A := A) (R := R)
  cases c with
  | ccRc =>
    rw [RPCFactory.callOne, id, serves.createRc] at replied
    exact handleCreate_follows rfl (fun nic created => createRc_follows named created accepted) replied accepted
  | ccRcMsg =>
    rw [RPCFactory.callOne, id, serves.createMsgRc] at replied
    exact handleCreate_follows rfl (fun nic created => RecvManager.createMsgRc_follows named created accepted) replied
      accepted

end Creation

section Setters

open QPConfig RC

def QpModify.Gives (asked : Attributes) : QpModify → Prop
  | .toInit _ _ accessFlags => accessFlags = asked.accessFlags
  | .toRtr _ _ _ rqPsn maxDestRdAtomic _ =>
    rqPsn = asked.rqPsn ∧ maxDestRdAtomic.setWidth 32 = asked.maxDestRdAtomic
  | .toRts sqPsn timeout _ _ maxRdAtomic =>
    sqPsn = asked.sqPsn ∧ timeout.setWidth 32 = asked.timeout ∧ maxRdAtomic.setWidth 32 = asked.maxRdAtomic

def Given (asked : Attributes) (rc : Dummy) (hw : Hardware) : Prop :=
  ∃ qp q, RC.Owns rc hw qp q ∧ q.init.maxSendWr = asked.maxSendWr ∧ q.init.maxRecvWr = asked.maxRecvWr ∧
    ∀ m ∈ q.modified, m.Gives asked

/-- A configuration that these setters build takes effect on a local QP through all calls of `connect`, and on the
    QP that a server reports for a request with it. -/
structure TakesEffect (setters : List Setter) : Prop where
  here : ∀ calls nic recvCq hw rc hw', RC.create calls nic (build setters) recvCq hw = (some rc, hw') →
    ∀ cs, Run.Throughout RC.Connection.step (fun s => Given (asked setters) s.rc s.hw) ⟨rc, hw'⟩ cs
  remote : ∀ (A : Type) (R : Nat) [NeZero R] [AbsRecvAllocator A] (c : Creation) (attr : QPAttr) (s s' : Server A R)
    (reply : ByteBuffer), c.config = build setters → c.Fits →
    RPCFactory.callOne RecvManager.handlers c.id (dump RCReq.format (c.request attr)) s = (.ok reply, s') →
    RCReply.Accepted reply → ∃ p rc, s'.registeredQps.query (readName c.name) = some p ∧ s'.qps p = some rc ∧
      Given (asked setters) rc s'.hw

/-- No timeout other than the default was asked for, and no depth that 8 bits do not hold. -/
structure Settable (setters : List Setter) : Prop where
  timeout : ∀ timeout, lastNamed Setter.timeout? setters = some timeout → timeout = 20
  depth : ∀ maxRd, lastNamed Setter.maxRdOps? setters = some maxRd → maxRd.toNat < 256

theorem Settable.timeout_eq {setters : List Setter} (settable : Settable setters) : (asked setters).timeout = 20 := by
  have named := settable.timeout
  unfold asked
  cases last : lastNamed Setter.timeout? setters with
  | none => rfl
  | some timeout => exact named timeout last

theorem Settable.depth_lt {setters : List Setter} (settable : Settable setters) :
    (asked setters).maxRdAtomic.toNat < 256 := by
  have named := settable.depth
  unfold asked
  cases last : lastNamed Setter.maxRdOps? setters with
  | none => exact show (16 : U32).toNat < 256 by decide
  | some maxRd => exact named maxRd last

theorem settable_of_asked {setters : List Setter} (timeout : (asked setters).timeout = 20)
    (depth : (asked setters).maxRdAtomic.toNat < 256) : Settable setters := by
  constructor
  · intro last named
    rwa [asked, named] at timeout
  · intro last named
    rwa [asked, named] at depth

theorem narrowed_iff (x : U32) : (x.setWidth 8).setWidth 32 = x ↔ x.toNat < 256 := by
  rw [← BitVec.toNat_inj, BitVec.toNat_setWidth, BitVec.toNat_setWidth]
  omega

theorem QpModify.Of.gives {setters : List Setter} (settable : Settable setters) {m : QpModify}
    (of : m.Of (build setters)) : m.Gives (asked setters) := by
  have depth := settable.depth_lt
  cases m with
  | toInit _ _ accessFlags => exact Eq.trans of (build_accessFlags setters)
  | toRtr _ _ _ rqPsn maxDestRdAtomic _ =>
    obtain ⟨psn, narrowed⟩ := of
    refine ⟨psn.trans (build_rqPsn setters), ?_⟩
    rw [narrowed, build_maxDestRdAtomic]
    exact (narrowed_iff _).mpr depth
  | toRts sqPsn timeout _ _ maxRdAtomic =>
    obtain ⟨psn, default, narrowed⟩ := of
    refine ⟨psn.trans (build_sqPsn setters), ?_, ?_⟩
    · rw [default, build_timeout, settable.timeout_eq]
      rfl
    · rw [narrowed, build_maxRdAtomic]
      exact (narrowed_iff _).mpr depth

theorem given_of_follows {setters : List Setter} (settable : Settable setters) {rc : Dummy} {hw : Hardware}
    (config : rc.myConfig = build setters) (follows : RC.Follows rc hw) : Given (asked setters) rc hw := by
  obtain ⟨qp, q, owns, of⟩ := follows
  rw [config] at of
  exact ⟨qp, q, owns, of.maxSendWr.trans (build_maxSendSize setters), of.maxRecvWr.trans (build_maxRecvSize setters),
    fun m member => (of.modified m member).gives settable⟩

theorem settable_of_given {setters : List Setter}
    (given : Given (asked setters) ((createdConnection true (build setters)).after ⟨peerAttr, true, true⟩).rc
      ((createdConnection true (build setters)).after ⟨peerAttr, true, true⟩).hw) : Settable setters := by
  obtain ⟨qp, q, owns, _, _, modified⟩ := given
  cases owns.hasQp
  cases owns.found
  obtain ⟨_, timeout, depth⟩ := modified (RC.rts (build setters)) List.mem_cons_self
  rw [build_timeout] at timeout
  rw [build_maxRdAtomic, narrowed_iff] at depth
  exact settable_of_asked timeout.symm depth

theorem TakesEffect.settable {setters : List Setter} (effect : TakesEffect setters) : Settable setters := by
  have throughout := effect.here _ openedNic none {} _ _ (createdConnection_create true (build setters))
    [⟨peerAttr, true, true⟩]
  exact settable_of_given (throughout.2 _ rfl)

/-- A configuration takes effect as it was built exactly when its timeout stays the default and its depths are bytes. -/
theorem takesEffect_iff (setters : List Setter) : TakesEffect setters ↔ Settable setters := by
  constructor
  · exact TakesEffect.settable
  · intro settable
    constructor
    · intro calls nic recvCq hw rc hw' created cs
      have preserved : Run.Preserves RC.Connection.step
          fun s => s.rc.myConfig = build setters ∧ RC.Follows s.rc s.hw := by
        intro s c t ⟨config, follows⟩ happens
        cases happens
        obtain ⟨same, follows'⟩ := Connection.after_follows c follows
        exact ⟨same.trans config, follows'⟩
      exact preserved.throughout (fun s follows => given_of_follows settable follows.1 follows.2)
        (RC.create_follows created) cs
    · intro A R _ _ c attr s s' reply config fits replied accepted
      obtain ⟨p, rc, registered, object, same, follows⟩ := Creation.answer_follows fits replied accepted
      exact ⟨p, rc, registered, object, given_of_follows settable (same.trans config) follows⟩

/-- A timeout that was asked for is not set, and a depth of 300 is cut down to 44. -/
theorem timeout_ignored :
    (build [.setTimeout 14]).timeout = 20 ∧ ¬TakesEffect [.setTimeout 14] ∧ ¬TakesEffect [.setMaxRdOps 300] := by
  refine ⟨rfl, ?_, ?_⟩
  · intro effect
    exact absurd (effect.settable.timeout 14 rfl) (by decide)
  · intro effect
    exact absurd (effect.settable.depth 300 rfl) (by decide)

end Setters

end RLib
