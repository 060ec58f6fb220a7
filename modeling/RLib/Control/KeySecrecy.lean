import RLib.Bootstrap.MultiMsgEncode
import RLib.Control.Creates

namespace RLib

open Bootstrap Proto Qps RCtrl RecvManager Factory

variable {A : Type} {R : Nat} [NeZero R]

/-- Two servers that differ at most in the keys of the QPs registered under the names in `old`. -/
structure SameBut (old : Set Name) (s s' : Server A R) : Prop where
  agree : AgreeBut old s.registeredQps s'.registeredQps
  rest : s' = { s with registeredQps := s'.registeredQps }

/-- Two ways to end with the same result and with such servers. -/
structure Alike {α : Type} (old : Set Name) (outcome outcome' : α × Server A R) : Prop where
  result : outcome'.1 = outcome.1
  servers : SameBut old outcome.2 outcome'.2

variable {old : Set Name} {s s' : Server A R}

namespace SameBut

theorem fetchMr (same : SameBut old s s') (b : ByteBuffer) : Alike old (fetchMrHandler b s) (fetchMrHandler b s') := by
  obtain ⟨agree, rest⟩ := same
  rw [rest]
  generalize s'.registeredQps = g at agree
  unfold fetchMrHandler
  cases dedump MRReq.format b with
  | none => exact ⟨rfl, agree, rfl⟩
  | some req =>
    simp only
    cases s.registeredMrs.query req.id with
    | none => exact ⟨rfl, agree, rfl⟩
    | some mr => exact ⟨rfl, agree, rfl⟩

theorem fetchQpAttr (same : SameBut old s s') (req : RCReq) (key : U64) :
    RCtrl.fetchQpAttr s' req key = RCtrl.fetchQpAttr s req key := by
  obtain ⟨agree, rest⟩ := same
  rw [rest]
  simp only [RCtrl.fetchQpAttr, fetchQp, agree.values]

theorem fetchQpAttrWrapper (same : SameBut old s s') (b : ByteBuffer) :
    Alike old (RCtrl.fetchQpAttrWrapper b s) (RCtrl.fetchQpAttrWrapper b s') := by
  unfold RCtrl.fetchQpAttrWrapper
  cases dedump QPReq.format b with
  | none => exact ⟨rfl, same⟩
  | some req => exact ⟨same.fetchQpAttr _ _, same⟩

theorem fetchDcAttrWrapper (same : SameBut old s s') (b : ByteBuffer) :
    Alike old (RCtrl.fetchDcAttrWrapper b s) (RCtrl.fetchDcAttrWrapper b s') := by
  unfold RCtrl.fetchDcAttrWrapper
  cases dedump QPReq.format b with
  | none => exact ⟨rfl, same⟩
  | some req =>
    refine ⟨?_, same⟩
    rw [same.rest]
    rfl

theorem connectRegistered (same : SameBut old s s') (req : RCReq) {name : Name} (key : U64) (p : Ptr) (rc : Dummy)
    (entry : s'.registeredQps.store.lookup name = s.registeredQps.store.lookup name) :
    Alike old (RCtrl.connectRegistered req name key p rc s) (RCtrl.connectRegistered req name key p rc s') := by
  obtain ⟨agree, rest⟩ := same
  rw [rest]
  generalize s'.registeredQps = g at agree entry
  unfold RCtrl.connectRegistered
  simp only
  obtain ⟨_, removed⟩ := agree.dereg entry key
  rcases RC.connect s.env.calls rc req.attr s.hw with ⟨e | ⟨code, rc'⟩, hw⟩
  · exact ⟨rfl, agree, rfl⟩
  · cases code with
    | Ok => exact ⟨rfl, agree, rfl⟩
    | Err => exact ⟨rfl, removed, rfl⟩
    | Timeout => exact ⟨rfl, removed, rfl⟩
    | NearOk => exact ⟨rfl, removed, rfl⟩
    | NotReady => exact ⟨rfl, removed, rfl⟩

theorem createAndConnect (same : SameBut old s s') (req : RCReq) (nic : RNic) (recvCq : Option Ptr) :
    Alike old (RCtrl.createAndConnect req nic recvCq s) (RCtrl.createAndConnect req nic recvCq s') := by
  obtain ⟨agree, rest⟩ := same
  rw [rest]
  generalize s'.registeredQps = g at agree
  unfold RCtrl.createAndConnect
  simp only
  rcases RC.create s.env.calls nic req.config recvCq s.hw with ⟨_ | rc, hw⟩
  · exact ⟨rfl, agree, rfl⟩
  · simp only
    cases req.nameString with
    | error e => exact ⟨rfl, agree, rfl⟩
    | ok name =>
      simp only
      by_cases present : name ∈ s.registeredQps.store
      · rw [reg_present _ s.env.qpKey s.fresh present,
          reg_present _ s.env.qpKey s.fresh ((agree.mem_iff name).mpr present)]
        exact ⟨rfl, agree, rfl⟩
      · have absent : name ∉ g.store := fun there => present ((agree.mem_iff name).mp there)
        rw [reg_absent _ s.env.qpKey s.fresh present, reg_absent _ s.env.qpKey s.fresh absent]
        apply connectRegistered
        · exact ⟨agree.insert name s.fresh s.env.qpKey.value, rfl⟩
        · simp only [Finmap.lookup_insert]

theorem orWrongArg {α : Type} {step step' : Except Exit (Option α) × Server A R}
    {rest : α → Server A R → Except Exit ByteBuffer × Server A R} (alike : Alike old step step')
    (continues : ∀ (a : α) (t t' : Server A R), SameBut old t t' → Alike old (rest a t) (rest a t')) :
    Alike old (RCtrl.orWrongArg step rest) (RCtrl.orWrongArg step' rest) := by
  obtain ⟨outcome, t⟩ := step
  obtain ⟨outcome', t'⟩ := step'
  obtain ⟨result, servers⟩ := alike
  cases result
  rcases outcome with e | _ | a
  · exact ⟨rfl, servers⟩
  · exact ⟨rfl, servers⟩
  · exact continues a t t' servers

theorem handleCreate {create : RCReq → RNic → Server A R → Except Exit ByteBuffer × Server A R}
    (same : SameBut old s s') (b : ByteBuffer)
    (creates : ∀ req nic, Alike old (create req nic s) (create req nic s')) :
    Alike old (RCtrl.handleCreate create b s) (RCtrl.handleCreate create b s') := by
  unfold RCtrl.handleCreate
  cases dedump RCReq.format b with
  | none => exact ⟨rfl, same⟩
  | some req =>
    have nics : s'.openedNics = s.openedNics := by rw [same.rest]
    simp only [nics]
    split
    · exact ⟨rfl, same⟩
    · split
      · cases s.openedNics.query req.nicId with
        | none => exact ⟨rfl, same⟩
        | some nic => exact creates req nic
      · exact ⟨same.fetchQpAttr req 0, same⟩

theorem rcHandler (same : SameBut old s s') (b : ByteBuffer) :
    Alike old (RCtrl.rcHandler b s) (RCtrl.rcHandler b s') := by
  apply same.handleCreate
  intro req nic
  apply orWrongArg (same.createAndConnect req nic none)
  intro made t t' same
  exact ⟨same.fetchQpAttr req made.2, same⟩

variable [AbsRecvAllocator A]

theorem armRecv (same : SameBut old s s') (req : RCReq) (p : Ptr) :
    Alike old (RecvManager.armRecv req p s) (RecvManager.armRecv req p s') := by
  have agree : AgreeBut old (RecvManager.armRecv req p s).2.registeredQps s'.registeredQps := by
    rw [armRecv_registeredQps]
    exact same.agree
  rw [same.rest, armRecv_withQps req p s s'.registeredQps]
  exact ⟨rfl, agree, rfl⟩

theorem msgRcHandler (same : SameBut old s s') (b : ByteBuffer) :
    Alike old (RecvManager.msgRcHandler b s) (RecvManager.msgRcHandler b s') := by
  apply same.handleCreate
  intro req nic
  unfold createMsgRc
  have found : recvCqOf req s' = recvCqOf req s := by
    rw [same.rest]
    rfl
  rw [found]
  cases recvCqOf req s with
  | error e => exact ⟨rfl, same⟩
  | ok recvCq =>
    apply orWrongArg (same.createAndConnect req nic recvCq)
    intro made t t' same
    obtain ⟨result, servers⟩ := same.armRecv req made.1
    simp only
    generalize RecvManager.armRecv req made.1 t = armed at result servers
    generalize RecvManager.armRecv req made.1 t' = armed' at result servers
    obtain ⟨outcome, u⟩ := armed
    obtain ⟨outcome', u'⟩ := armed'
    cases result
    cases outcome with
    | error e => exact ⟨rfl, servers⟩
    | ok done => exact ⟨servers.fetchQpAttr req made.2, servers⟩

end SameBut

variable [AbsRecvAllocator A]

theorem RecvManager.handlers_eq (id : U8) : (handlers : RegisteredHandlers (Server A R)) id =
    if id = CreateRCM then some msgRcHandler
    else if id = FetchDCAttr then some fetchDcAttrWrapper
    else if id = FetchQPAttr then some fetchQpAttrWrapper
    else if id = DeleteRC then some deleteRc
    else if id = CreateRC then some rcHandler
    else if id = FetchMr then some fetchMrHandler
    else if id = HeartBeat then some RPCFactory.heartbeatHandler
    else none := rfl

theorem SameBut.callOne (same : SameBut old s s') {id : U8} (spares : id ≠ DeleteRC) (b : ByteBuffer) :
    Alike old (RPCFactory.callOne handlers id b s) (RPCFactory.callOne handlers id b s') := by
  unfold RPCFactory.callOne
  rw [handlers_eq]
  by_cases createM : id = CreateRCM
  · rw [if_pos createM]
    exact same.msgRcHandler b
  by_cases fetchDc : id = FetchDCAttr
  · rw [if_neg createM, if_pos fetchDc]
    exact same.fetchDcAttrWrapper b
  by_cases fetchQp : id = FetchQPAttr
  · rw [if_neg createM, if_neg fetchDc, if_pos fetchQp]
    exact same.fetchQpAttrWrapper b
  rw [if_neg createM, if_neg fetchDc, if_neg fetchQp, if_neg spares]
  by_cases create : id = CreateRC
  · rw [if_pos create]
    exact same.rcHandler b
  by_cases fetchMr : id = FetchMr
  · rw [if_neg create, if_pos fetchMr]
    exact same.fetchMr b
  rw [if_neg create, if_neg fetchMr]
  by_cases heartbeat : id = HeartBeat
  · rw [if_pos heartbeat]
    exact ⟨rfl, same⟩
  · rw [if_neg heartbeat]
    exact ⟨rfl, same⟩

def asksDelete (msg : ByteBuffer) : Bool :=
  match SRpcHandler.request msg with
  | .ok (.call id _ _) => id = DeleteRC
  | _ => false

theorem SameBut.serve (same : SameBut old s s') (growth : StringGrowth) {msg : ByteBuffer}
    (spares : asksDelete msg = false) :
    Alike old (SRpcHandler.serve growth handlers msg s) (SRpcHandler.serve growth handlers msg s') := by
  unfold SRpcHandler.serve
  unfold asksDelete at spares
  generalize SRpcHandler.request msg = decoded at spares
  rcases decoded with e | req
  · exact ⟨rfl, same⟩
  · cases req with
    | undecodable => exact ⟨rfl, same⟩
    | noParameter checksum => exact ⟨rfl, same⟩
    | call id checksum parameter =>
      obtain ⟨result, servers⟩ := same.callOne (of_decide_eq_false spares) parameter
      simp only
      generalize RPCFactory.callOne handlers id parameter s = called at result servers
      generalize RPCFactory.callOne handlers id parameter s' = called' at result servers
      obtain ⟨outcome, t⟩ := called
      obtain ⟨outcome', t'⟩ := called'
      cases result
      rcases outcome with e | reply
      · cases e with
        | exception => exact ⟨rfl, servers⟩
        | abort => exact ⟨rfl, servers⟩
        | overread => exact ⟨rfl, servers⟩
        | badIterator => exact ⟨rfl, servers⟩
      · exact ⟨rfl, servers⟩

/-- What the server replies to one message after the other, with what comes from outside meanwhile. -/
def replies (growth : StringGrowth) : List (Env × ByteBuffer) → Server A R → List (Except Exit ByteBuffer) × Server A R
  | [], s => ([], s)
  | (env, msg) :: rest, s =>
    match SRpcHandler.serve growth handlers msg { s with env := env } with
    | (.error e, s) => ([.error e], s)
    | (.ok served, s) => ((replies growth rest s).1.cons (.ok served.reply), (replies growth rest s).2)

theorem SameBut.replies (same : SameBut old s s') (growth : StringGrowth) (requests : List (Env × ByteBuffer))
    (spare : ∀ r ∈ requests, asksDelete r.2 = false) :
    Alike old (RLib.replies growth requests s) (RLib.replies growth requests s') := by
  induction requests generalizing s s' with
  | nil => exact ⟨rfl, same⟩
  | cons r rest ih =>
    obtain ⟨env, msg⟩ := r
    have now : SameBut old { s with env := env } { s' with env := env } := by
      refine ⟨same.agree, ?_⟩
      rw [same.rest]
    obtain ⟨result, servers⟩ := now.serve growth (spare (env, msg) List.mem_cons_self)
    unfold RLib.replies
    generalize SRpcHandler.serve growth handlers msg { s with env := env } = served at result servers
    generalize SRpcHandler.serve growth handlers msg { s' with env := env } = served' at result servers
    obtain ⟨outcome, t⟩ := served
    obtain ⟨outcome', t'⟩ := served'
    cases result
    cases outcome with
    | error e => exact ⟨rfl, servers⟩
    | ok done =>
      obtain ⟨result, servers⟩ := ih servers (fun r member => spare r (List.mem_cons_of_mem _ member))
      exact ⟨congrArg (List.cons (.ok done.reply)) result, servers⟩

/-- Requests that delete nothing get replies that do not depend on the keys of the QPs that are registered,
    and leave servers that differ in these keys only. -/
theorem keys_not_revealed (growth : StringGrowth) {s s' : Server A R}
    (same : SameBut (fun n => n ∈ s.registeredQps.store) s s') (requests : List (Env × ByteBuffer))
    (spare : ∀ r ∈ requests, asksDelete r.2 = false) :
    (replies growth requests s').1 = (replies growth requests s).1 ∧
      SameBut (fun n => n ∈ s.registeredQps.store) (replies growth requests s).2 (replies growth requests s').2 := by
  obtain ⟨result, servers⟩ := same.replies growth requests spare
  exact ⟨result, servers⟩

def withQ (key : U64) : Server SimpleAllocator 1 :=
  { oneNic with
    registeredQps := { store := Finmap.insert [113] (0, key) ∅ }
    fresh := 1
    qps := fun _ => some { nic := ⟨1, some ⟨0, 0, 0⟩, some 7⟩, myConfig := {}, qp := some ⟨0, 9⟩ } }

theorem withQ_same (key key' : U64) :
    SameBut (fun n => n ∈ (withQ key).registeredQps.store) (withQ key) (withQ key') := by
  refine ⟨⟨?_, ?_⟩, rfl⟩
  · intro n
    exact (query_insert {} [113] n 0 key').trans (query_insert {} [113] n 0 key).symm
  · intro n new
    have other : n ≠ [113] := by
      intro same
      apply new
      rw [same]
      exact Finmap.mem_insert.mpr (.inl rfl)
    simp only [withQ, Finmap.lookup_insert_of_ne _ other]

def fetchAndCreate : List (Env × ByteBuffer) :=
  [(oneNic.env, encode
      [dump SRpcHeader.format ⟨FetchQPAttr, 1⟩, dump QPReq.format ⟨nameField 113, 0⟩]),
    (oneNic.env, encode
      [dump SRpcHeader.format ⟨CreateRC, 2⟩, dump RCReq.format channelRequest])]

theorem keys_not_revealed_q :
    (replies libstdcxx fetchAndCreate (withQ 6)).1 = (replies libstdcxx fetchAndCreate (withQ 5)).1 ∧
    SameBut (fun n => n ∈ (withQ 5).registeredQps.store) (replies libstdcxx fetchAndCreate (withQ 5)).2
      (replies libstdcxx fetchAndCreate (withQ 6)).2 :=
  keys_not_revealed libstdcxx (withQ_same 5 6) fetchAndCreate (by decide +kernel)

end RLib
