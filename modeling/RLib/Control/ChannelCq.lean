import RLib.Control.Creates
import RLib.Control.Host

namespace RLib

open Bootstrap Proto Qps RCtrl RecvManager Run

variable {A : Type} {R : Nat} [NeZero R]

/-- The CQ of every registered channel is there, and so is every receive CQ that a creation takes from one. -/
structure ChannelsAlive (s : Server A R) : Prop where
  registered : ∀ channel common, s.regRecvCqs.query channel = some common → s.hw.LiveCq common.cq
  taken : ∀ req cq, recvCqOf req s = .ok (some cq) → s.hw.LiveCq cq

theorem recvCqOf_registered {req : RCReq} {s : Server A R} {cq : Ptr} (taken : recvCqOf req s = .ok (some cq)) :
    ∃ channel common, s.regRecvCqs.query channel = some common ∧ common.cq = cq := by
  unfold recvCqOf at taken
  split at taken
  · cases named : req.nameRecvString with
    | error e =>
      rw [named] at taken
      cases taken
    | ok nameRecv =>
      rw [named] at taken
      simp only [Bind.bind, Except.bind, Pure.pure, Except.pure, Except.ok.injEq, Option.map_eq_some_iff] at taken
      obtain ⟨common, found, same⟩ := taken
      exact ⟨nameRecv, common, found, same⟩
  · cases taken

theorem channelsAlive_iff (s : Server A R) :
    ChannelsAlive s ↔ ∀ channel common, s.regRecvCqs.query channel = some common → s.hw.LiveCq common.cq := by
  refine ⟨fun alive => alive.registered, fun registered => ⟨registered, ?_⟩⟩
  intro req cq taken
  obtain ⟨channel, common, found, rfl⟩ := recvCqOf_registered taken
  exact registered channel common found

/-- A QP object that was made for the request is destroyed again before it is answered. -/
def MadeInVain (req : RCReq) (nic : RNic) (s : Server A R) : Prop :=
  s.env.calls.createCq = true ∧
    (s.env.calls.createQp = none ∨
      s.env.calls.createQp.isSome ∧ s.env.calls.destroyQp = true ∧ ∃ name, req.nameString = .ok name ∧
        (name ∈ s.registeredQps.store ∨
          s.env.calls.queryQp = true ∧ nic.Complete ∧ ¬Connectable s.env.calls))

/-- Between two states of a request every CQ in use stays, but for one that `lost` says goes. -/
structure Keeps (s s' : Server A R) (lost : Ptr → Prop) : Prop where
  channels : s'.regRecvCqs = s.regRecvCqs
  bounded : s.hw.Bounded → s'.hw.Bounded
  live : s.hw.Bounded → ∀ c, s.hw.LiveCq c → (s'.hw.LiveCq c ↔ ¬lost c)

theorem madeInVain_iff {req : RCReq} {nic : RNic} {s : Server A R} {qpNum : U32} {name : Name}
    (makes : Makes req s qpNum name) :
    MadeInVain req nic s ↔ s.env.calls.destroyQp = true ∧
      (name ∈ s.registeredQps.store ∨ s.env.calls.queryQp = true ∧ nic.Complete ∧ ¬Connectable s.env.calls) := by
  simp only [MadeInVain, makes.madeCq, makes.madeQp, makes.named, reduceCtorEq, Option.isSome_some, Except.ok.injEq,
    exists_eq_left', true_and, false_or]

theorem Keeps.of_made {req : RCReq} {nic : RNic} {recvCq : Option Ptr} {s s' : Server A R} {qpNum : U32}
    {lost : Ptr → Prop} (channels : s'.regRecvCqs = s.regRecvCqs)
    (same : s'.hw.objects = (RC.madeHw s.env.calls nic req.config recvCq qpNum s.hw).objects) (none' : ∀ c, ¬lost c) :
    Keeps s s' lost := by
  refine ⟨channels, ?_, ?_⟩
  · exact fun bounded => (RC.madeHw_bounded s.env.calls nic req.config recvCq qpNum bounded).congr same
  · intro bounded c live
    rw [Hardware.liveCq_congr same]
    exact iff_of_true (RC.madeHw_live s.env.calls nic req.config recvCq qpNum live) (none' c)

theorem Keeps.of_destroyed {req : RCReq} {nic : RNic} {recvCq : Option Ptr} {s s' : Server A R} {qpNum : U32}
    {hw : Hardware} (vain : MadeInVain req nic s ↔ s.env.calls.destroyQp = true)
    (channels : s'.regRecvCqs = s.regRecvCqs)
    (same : hw.objects = (RC.madeHw s.env.calls nic req.config recvCq qpNum s.hw).objects)
    (destroyed : s'.hw = (RC.made nic req.config recvCq qpNum s.hw).destroy s.env.calls hw) :
    Keeps s s' (fun c => recvCq = some c ∧ ¬s.hw.UsedBut none c ∧ MadeInVain req nic s) := by
  refine ⟨channels, ?_, ?_⟩
  · intro bounded
    rw [destroyed]
    exact Dummy.destroy_bounded _ _ ((RC.madeHw_bounded s.env.calls nic req.config recvCq qpNum bounded).congr same)
  · intro bounded c live
    rw [destroyed, RC.made_destroy_live bounded live qpNum same, vain, and_comm (a := ¬_)]

theorem createAndConnect_keeps (req : RCReq) (nic : RNic) (recvCq : Option Ptr) (s : Server A R) :
    Keeps s (createAndConnect req nic recvCq s).2
      (fun c => recvCq = some c ∧ ¬s.hw.UsedBut none c ∧ MadeInVain req nic s) := by
  have creates := createAndConnect_creates req nic recvCq s
  generalize createAndConnect req nic recvCq s = outcome at creates
  cases creates with
  | refused refused =>
    have vain : MadeInVain req nic s ↔ s.env.calls.createCq = true := by
      refine ⟨And.left, fun madeCq => ⟨madeCq, .inl ?_⟩⟩
      exact refused.resolve_left (by rw [madeCq]; exact Bool.noConfusion)
    refine ⟨rfl, fun bounded => RC.create_bounded _ _ _ _ bounded, ?_⟩
    intro bounded c live
    rw [RC.create_refused_live refused nic req.config recvCq bounded live, vain, and_comm (a := ¬_)]
  | unreadable madeQp unreadable =>
    refine Keeps.of_made rfl rfl ?_
    rintro c ⟨_, _, _, refused | ⟨_, _, name, named, _⟩⟩
    · cases refused.symm.trans madeQp
    · cases unreadable.symm.trans named
  | taken makes present =>
    refine Keeps.of_destroyed ?_ rfl rfl rfl
    rw [madeInVain_iff makes]
    exact and_iff_left (.inl present)
  | aborted makes absent failed =>
    refine Keeps.of_made rfl rfl ?_
    intro c ⟨_, _, vain⟩
    rcases ((madeInVain_iff makes).mp vain).2 with present | ⟨queried, _⟩
    · exact absent present
    · cases failed.symm.trans queried
  | stranded makes absent queried incomplete =>
    refine Keeps.of_made rfl rfl ?_
    intro c ⟨_, _, vain⟩
    rcases ((madeInVain_iff makes).mp vain).2 with present | ⟨_, complete, _⟩
    · exact absent present
    · exact incomplete complete
  | undone makes absent queried complete failed same =>
    refine Keeps.of_destroyed ?_ rfl same rfl
    rw [madeInVain_iff makes]
    exact and_iff_left (.inr ⟨queried, complete, failed⟩)
  | connected makes absent queried complete steps same unposted =>
    refine Keeps.of_made rfl same ?_
    intro c ⟨_, _, vain⟩
    rcases ((madeInVain_iff makes).mp vain).2 with present | ⟨_, _, failed⟩
    · exact absent present
    · exact failed steps

theorem Keeps.refl (s : Server A R) : Keeps s s (fun _ => False) :=
  ⟨rfl, id, fun _ _ live => iff_of_true live not_false⟩

theorem Keeps.quiet {s s₁ s₂ : Server A R} {lost : Ptr → Prop} (keeps : Keeps s s₁ lost)
    (channels : s₂.regRecvCqs = s₁.regRecvCqs) (same : s₂.hw.objects = s₁.hw.objects) : Keeps s s₂ lost := by
  refine ⟨channels.trans keeps.channels, fun bounded => (keeps.bounded bounded).congr same, ?_⟩
  intro bounded c live
  rw [Hardware.liveCq_congr same]
  exact keeps.live bounded c live

theorem Keeps.alive {s s' : Server A R} {lost : Ptr → Prop} (keeps : Keeps s s' lost) (bounded : s.hw.Bounded)
    (alive : ChannelsAlive s) :
    ChannelsAlive s' ↔ ∀ channel common, s.regRecvCqs.query channel = some common → ¬lost common.cq := by
  rw [channelsAlive_iff, keeps.channels]
  constructor
  · intro alive' channel common found
    exact (keeps.live bounded common.cq (alive.registered channel common found)).mp (alive' channel common found)
  · intro spared channel common found
    exact (keeps.live bounded common.cq (alive.registered channel common found)).mpr (spared channel common found)

theorem afterCreate_keeps {req : RCReq} {nic : RNic} {recvCq : Option Ptr} {s : Server A R}
    {rest : Ptr × U64 → Server A R → Except Exit ByteBuffer × Server A R}
    (quiet : ∀ p key s' qp, (s'.qps p).bind Dummy.qp = some qp →
      (rest (p, key) s').2.regRecvCqs = s'.regRecvCqs ∧ (rest (p, key) s').2.hw.objects = s'.hw.objects) :
    Keeps s (orWrongArg (createAndConnect req nic recvCq s) rest).2
      (fun c => recvCq = some c ∧ ¬s.hw.UsedBut none c ∧ MadeInVain req nic s) := by
  have keeps := createAndConnect_keeps req nic recvCq s
  have creates := createAndConnect_creates req nic recvCq s
  generalize createAndConnect req nic recvCq s = outcome at keeps creates
  cases creates with
  | refused refused => exact keeps
  | unreadable madeQp unreadable => exact keeps
  | taken makes present => exact keeps
  | aborted makes absent failed => exact keeps
  | stranded makes absent queried incomplete => exact keeps
  | undone makes absent queried complete failed same => exact keeps
  | @connected qpNum name hw makes absent queried complete steps same _ =>
    have silent := quiet s.fresh s.env.qpKey.value
      { afterReg req nic recvCq s qpNum name with
        hw := hw
        qps := Function.update s.qps s.fresh
          (some { RC.made nic req.config recvCq qpNum s.hw with status := .Ok }) } ⟨s.hw.fresh + 1, qpNum⟩
      (by simp only [Function.update_self]; rfl)
    exact keeps.quiet silent.1 silent.2

theorem rcHandler_keeps (b : ByteBuffer) (s : Server A R) : Keeps s (rcHandler b s).2 (fun _ => False) := by
  unfold rcHandler
  rcases handleCreate_cases createRc b s with ⟨req, nic, _, handled⟩ | ⟨_, reply, handled, _⟩
  · rw [handled]
    have keeps : Keeps s (createRc req nic s).2
      (fun c => none = some c ∧ ¬s.hw.UsedBut none c ∧ MadeInVain req nic s) :=
      afterCreate_keeps (fun _ _ _ _ _ => ⟨rfl, rfl⟩)
    simpa only [reduceCtorEq, false_and] using keeps
  · rw [handled]
    exact .refl s

/-- The request deletes a QP object that would take down `c` with it: `c` is one of its CQs and nothing
    else is attached to it. -/
def DeleteFrees (b : ByteBuffer) (s : Server A R) (c : Ptr) : Prop :=
  ∃ req name p rc, dedump DelRCReq.format b = some req ∧ req.nameString = .ok name ∧
    s.registeredQps.store.lookup name = some (p, req.key) ∧ s.qps p = some rc ∧
    (rc.cq = some c ∨ rc.recvCq = some c) ∧ ¬s.hw.UsedBut (rc.gone s.env.calls) c

theorem drop_keeps (s : Server A R) (p : Ptr) :
    Keeps s (drop s p) (fun c => ∃ rc, s.qps p = some rc ∧ (rc.cq = some c ∨ rc.recvCq = some c) ∧
      ¬s.hw.UsedBut (rc.gone s.env.calls) c) := by
  cases found : s.qps p with
  | none =>
    have same : (drop s p).hw = s.hw := by simp only [drop, found, Option.elim_none]
    refine ⟨rfl, fun bounded => same ▸ bounded, ?_⟩
    intro bounded c live
    rw [same]
    refine iff_of_true live ?_
    rintro ⟨rc, missing, _⟩
    cases missing
  | some rc =>
    have same : (drop s p).hw = rc.destroy s.env.calls s.hw := by simp only [drop, found, Option.elim_some]
    refine ⟨rfl, fun bounded => same ▸ rc.destroy_bounded s.env.calls bounded, ?_⟩
    intro bounded c live
    rw [same, rc.destroy_live, and_iff_right live]
    simp only [Option.some.injEq, exists_eq_left']

theorem deleteRc_keeps (b : ByteBuffer) (s : Server A R) : Keeps s (deleteRc b s).2 (DeleteFrees b s) := by
  have idle (none' : ∀ c, ¬DeleteFrees b s c) : Keeps s s (DeleteFrees b s) :=
    ⟨rfl, id, fun _ c live => iff_of_true live (none' c)⟩
  have deletes := deleteRc_deletes b s
  generalize deleteRc b s = outcome at deletes
  cases deletes with
  | unparsed failed =>
    apply idle
    rintro c ⟨req, name, p, rc, parsed, _⟩
    cases parsed.symm.trans failed
  | unreadable parsed failed =>
    apply idle
    rintro c ⟨req, name, p, rc, parsed', named, _⟩
    cases parsed.symm.trans parsed'
    cases named.symm.trans failed
  | unknown parsed named absent =>
    apply idle
    rintro c ⟨req, name, p, rc, parsed', named', found, _⟩
    cases parsed.symm.trans parsed'
    cases named.symm.trans named'
    exact absent p found
  | @deleted req name p parsed named found =>
    have only : DeleteFrees b s = fun c => ∃ rc, s.qps p = some rc ∧ (rc.cq = some c ∨ rc.recvCq = some c) ∧
        ¬s.hw.UsedBut (rc.gone s.env.calls) c := by
      funext c
      apply propext
      constructor
      · rintro ⟨req', name', p', rc, parsed', named', found', frees⟩
        cases parsed.symm.trans parsed'
        cases named.symm.trans named'
        cases found.symm.trans found'
        exact ⟨rc, frees⟩
      · exact fun ⟨rc, frees⟩ => ⟨req, name, p, rc, parsed, named, found, frees⟩
    rw [only]
    obtain ⟨channels, bounded, live⟩ :=
      drop_keeps { s with registeredQps := { store := s.registeredQps.store.erase name } } p
    exact ⟨channels, bounded, live⟩

theorem Host.regChannel_alive {s : Server A R} (key : AuthKey) (name : Name) {common : RecvCommon}
    (alive : ChannelsAlive s)
    (live : s.hw.LiveCq common.cq) :
    ChannelsAlive { s with regRecvCqs := (s.regRecvCqs.reg key name common).2 } := by
  rw [channelsAlive_iff]
  intro channel common' found
  rcases Factory.query_reg found with rfl | before
  · exact live
  · exact alive.registered channel common' before

variable [AbsRecvAllocator A]

theorem armRecv_quiet (req : RCReq) {p : Ptr} {s : Server A R} {qp : QpHandle}
    (made : (s.qps p).bind Dummy.qp = some qp) :
    (armRecv req p s).2.regRecvCqs = s.regRecvCqs ∧ (armRecv req p s).2.hw.objects = s.hw.objects := by
  have arms := armRecv_arms req made
  generalize armRecv req p s = outcome at arms
  cases arms with
  | armed feeds created named absent => exact ⟨rfl, Hardware.postRecv_objects _ _ _⟩
  | _ => exact ⟨rfl, rfl⟩

theorem createMsgRcOn_keeps (req : RCReq) (nic : RNic) (recvCq : Option Ptr) (s : Server A R) :
    Keeps s (createMsgRcOn req nic recvCq s).2
      (fun c => recvCq = some c ∧ ¬s.hw.UsedBut none c ∧ MadeInVain req nic s) := by
  apply afterCreate_keeps
  intro p key s' qp made
  obtain ⟨channels, same⟩ := armRecv_quiet req made
  simp only
  rcases armed : armRecv req p s' with ⟨e | _, s''⟩
  · rw [armed] at channels same
    exact ⟨channels, same⟩
  · rw [armed] at channels same
    exact ⟨channels, same⟩

/-- The request makes a QP object on the CQ `c` of a channel that nothing else is attached to, and destroys
    it again. -/
def CreateFrees (b : ByteBuffer) (s : Server A R) (c : Ptr) : Prop :=
  ∃ req nic, Admits b s req nic ∧ recvCqOf req s = .ok (some c) ∧ ¬s.hw.UsedBut none c ∧ MadeInVain req nic s

theorem msgRcHandler_keeps (b : ByteBuffer) (s : Server A R) : Keeps s (msgRcHandler b s).2 (CreateFrees b s) := by
  unfold msgRcHandler
  rcases handleCreate_cases createMsgRc b s with ⟨req, nic, admits, handled⟩ | ⟨idle, reply, handled, _⟩
  · have only : CreateFrees b s = fun c =>
        recvCqOf req s = .ok (some c) ∧ ¬s.hw.UsedBut none c ∧ MadeInVain req nic s := by
      funext c
      apply propext
      constructor
      · intro ⟨req', nic', admits', frees⟩
        obtain ⟨rfl, rfl⟩ := admits.unique admits'
        exact frees
      · exact fun frees => ⟨req, nic, admits, frees⟩
    rw [handled, only, createMsgRc]
    rcases recvCqOf_cases req s with ⟨recvCq, readable, _⟩ | ⟨failed, _⟩
    · rw [readable]
      simp only [Except.ok.injEq]
      exact createMsgRcOn_keeps req nic recvCq s
    · rw [failed]
      simp only [reduceCtorEq, false_and]
      exact .refl s
  · have none' : CreateFrees b s = fun _ => False := by
      funext c
      apply propext
      exact iff_false_intro (fun ⟨req, nic, admits, _⟩ => idle req nic admits)
    rw [handled, none']
    exact .refl s

namespace Host

/-- The CQs that the event takes down although they may belong to a channel. -/
def Frees (h : Host A R) (e : HostEvent) (c : Ptr) : Prop :=
  match e with
  | .request env .CreateRCM parameter => CreateFrees parameter { h.server with env := env } c
  | .request env .DeleteRC parameter => DeleteFrees parameter { h.server with env := env } c
  | _ => False

def SparesChannels (h : Host A R) (e : HostEvent) : Prop :=
  ∀ channel common, h.server.regRecvCqs.query channel = some common → ¬h.Frees e common.cq

theorem serve_keeps (env : Env) (op : ControlOp) (parameter : ByteBuffer) (h : Host A R) :
    Keeps { h.server with env := env } (serveControl op parameter { h.server with env := env }).server
      (h.Frees (.request env op parameter)) := by
  rw [serveControl_eq, settle_server]
  cases op with
  | CreateRC => exact rcHandler_keeps parameter { h.server with env := env }
  | CreateRCM => exact msgRcHandler_keeps parameter { h.server with env := env }
  | DeleteRC => exact deleteRc_keeps parameter { h.server with env := env }

theorem step_bounded {h h' : Host A R} {e : HostEvent} (bounded : h.server.hw.Bounded)
    (happens : step h e = some h') : h'.server.hw.Bounded := by
  unfold step at happens
  split at happens
  · cases happens
  · cases e with
    | request env op parameter =>
      cases happens
      exact (serve_keeps env op parameter h).bounded bounded
    | openCq cqe =>
      cases happens
      exact bounded.createCq cqe
    | regChannel key name common =>
      simp only at happens
      split at happens
      · cases happens
        exact bounded
      · cases happens

theorem step_alive {h h' : Host A R} {e : HostEvent} (bounded : h.server.hw.Bounded) (alive : ChannelsAlive h.server)
    (happens : step h e = some h') : ChannelsAlive h'.server ↔ h.SparesChannels e := by
  unfold step at happens
  split at happens
  · cases happens
  · cases e with
    | request env op parameter =>
      cases happens
      have alive' : ChannelsAlive { h.server with env := env } := (channelsAlive_iff _).mpr alive.registered
      exact (serve_keeps env op parameter h).alive bounded alive'
    | openCq cqe =>
      cases happens
      apply iff_of_true _ (fun _ _ _ => not_false)
      rw [channelsAlive_iff]
      intro channel common found
      exact RC.createCq_live cqe (alive.registered channel common found)
    | regChannel key name common =>
      simp only at happens
      split at happens
      · rename_i live
        cases happens
        exact iff_of_true (regChannel_alive key name alive live) (fun _ _ _ => not_false)
      · cases happens

/-- From a server without channels the CQ of every registered channel stays alive exactly as long as no
    event takes one down. -/
theorem channels_alive_iff (s : Server A R) (bounded : s.hw.Bounded) (fresh : s.regRecvCqs.store = ∅)
    (events : List HostEvent) :
    Throughout step (fun h => ChannelsAlive h.server) { server := s } events ↔
      Along step SparesChannels { server := s } events := by
  have start : ChannelsAlive s := by
    rw [channelsAlive_iff]
    intro channel common found
    rw [Factory.query, fresh] at found
    cases found
  have keeps : ∀ (h : Host A R) (e : HostEvent) (h' : Host A R), True → h.server.hw.Bounded → ChannelsAlive h.server →
      step h e = some h' → (ChannelsAlive h'.server ↔ h.SparesChannels e) :=
    fun _ _ _ _ bounded alive happens => step_alive bounded alive happens
  exact throughout_iff_along keeps (fun _ _ _ _ bounded happens => step_bounded bounded happens) bounded start
    (along_of_forall (fun _ _ _ => trivial))

theorem empty_bounded : oneNic.hw.Bounded := ⟨nofun, nofun⟩

theorem first_spares {h : Host SimpleAllocator 1} (first : h.server.registeredQps.store = ∅) :
    h.SparesChannels (.request oneNic.env .CreateRCM (dump RCReq.format channelRequest)) := by
  intro channel common _ ⟨req, nic, admits, _, _, _, vain⟩
  have parsed := admits.parsed
  rw [dedump_self] at parsed
  cases parsed
  rcases vain with unmade | ⟨_, _, name, _, taken | ⟨_, _, unconnected⟩⟩
  · cases unmade
  · have taken : name ∈ h.server.registeredQps.store := taken
    rw [first] at taken
    exact Finmap.notMem_empty taken
  · exact unconnected ⟨rfl, rfl, rfl⟩

theorem channels_alive_create : Throughout step (fun h => ChannelsAlive h.server) { server := oneNic }
    [.openCq 1, .regChannel .third [99] ⟨0, 0⟩, .request oneNic.env .CreateRCM (dump RCReq.format channelRequest)] := by
  apply (channels_alive_iff oneNic empty_bounded rfl _).mpr
  intro h₁ opened
  refine ⟨fun _ _ _ => not_false, ?_⟩
  intro h₂ registered
  refine ⟨fun _ _ _ => not_false, ?_⟩
  intro h₃ _
  cases opened
  cases registered
  exact ⟨first_spares rfl, trivial⟩

def lastUser : List HostEvent :=
  [.openCq 1, .regChannel .third [99] ⟨0, 0⟩,
    .request oneNic.env .CreateRCM (dump RCReq.format channelRequest),
    .request oneNic.env .DeleteRC (dump DelRCReq.format ⟨nameField 113, 1⟩)]

theorem lastUser_kills :
    (run step { server := oneNic } lastUser).map
        (fun h => (h.server.regRecvCqs.query [99], decide (h.server.hw.LiveCq 0))) = some (some ⟨0, 0⟩, false) := by
  decide +kernel

/-- Deleting the only QP of a channel destroys the channel's CQ, which stays registered. -/
theorem lastUser_destroys_channel :
    ¬Throughout step (fun h => ChannelsAlive h.server) { server := oneNic } lastUser := by
  intro throughout
  obtain ⟨h, ran, outcome⟩ := Option.map_eq_some_iff.mp lastUser_kills
  have alive := throughout.run ran
  obtain ⟨registered, dead⟩ := Prod.mk.inj outcome
  exact of_decide_eq_false dead (alive.registered [99] ⟨0, 0⟩ registered)

end Host

end RLib
