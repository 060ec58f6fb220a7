import RLib.Control.TwoEnds
import RLib.Qps.Config

namespace RLib

open Bytes Bootstrap Proto Qps RCtrl ConnectManager

variable {A : Type} {R : Nat} [NeZero R]

/-- Each of two queue pairs sends to the other, and expects the packet sequence number that the other starts with. -/
structure Mirrored (mine theirs : Dummy) (here there : Programmed) : Prop where
  aimed : theirs.identity = some here.aim
  back : mine.identity = some there.aim
  receives : here.rqPsn = there.sqPsn
  sends : there.rqPsn = here.sqPsn

/-- The client's queue pair and the one registered under the name with that key are programmed as mirror images. -/
def MirrorImages (loc : LocalEnd) (s : Server A R) (name : Name) (key : U64) : Prop :=
  ∃ qp q here, RC.Owns loc.rc loc.hw qp q ∧ q.programmed = some here ∧
    ∃ p rc qp' q' there, s.registeredQps.store.lookup name = some (p, key) ∧ s.qps p = some rc ∧
      RC.Owns rc s.hw qp' q' ∧ q'.programmed = some there ∧ Mirrored loc.rc rc here there

section Exchanged

variable {ω : Type} {growth : StringGrowth} {net : Network ω} {cm : ConnectManager ω} {id : U8}
  {resReply : Result ByteBuffer}

theorem exchange_replied {α : Type} {parameter : ByteBuffer} (given : cm.Replied growth net id parameter resReply)
    (refused : ByteBuffer → α) (replied : Result ByteBuffer → α) :
    ∃ cm', cm.exchange growth net id parameter refused replied = (.ok (replied resReply), cm') := by
  obtain ⟨res, sent, called, ok, received⟩ := given
  unfold exchange
  rw [called]
  dsimp only
  rw [if_neg (not_not_intro ok)]
  generalize sent.receiveReply = outcome at received
  obtain ⟨outcome, after⟩ := outcome
  dsimp only at received
  rw [received]
  exact ⟨after, rfl⟩

theorem requestConnect_replied (req : RCReq) {loc : LocalEnd} {mine : QPAttr} (known : loc.rc.myAttr = .ok mine)
    (given : cm.Replied growth net id (dump RCReq.format { req with attr := mine }) resReply) :
    ∃ cm', requestConnect growth net id req loc cm = (connectReplied resReply loc, cm') := by
  obtain ⟨cm', exchanged⟩ := exchange_replied given
    (fun desc => ((.ok (errCase desc), loc) : Except Exit (Result (ByteBuffer × U64)) × LocalEnd))
    (fun resReply => connectReplied resReply loc)
  unfold requestConnect
  rw [known]
  dsimp only
  rw [exchanged]
  exact ⟨cm', rfl⟩

/-- The reply that the call takes for its own is the server's answer to its request. -/
def Creation.Answered (c : Creation) (growth : StringGrowth) (net : Network ω)
    (handlers : RegisteredHandlers (Server A R)) (loc : LocalEnd) (cm : ConnectManager ω) (s s' : Server A R) : Prop :=
  ∃ mine, loc.rc.myAttr = .ok mine ∧
    cm.Answered growth net c.id (dump RCReq.format (c.request mine)) handlers s s'

end Exchanged

theorem mirrorImages_iff {loc : LocalEnd} {s : Server A R} {name : Name} {key : U64} {qp qp' : QpHandle} {q q' : IbvQp}
    {p : Ptr} {rc : Dummy} {there : Programmed} (owns : RC.Owns loc.rc loc.hw qp q)
    (entry : s.registeredQps.store.lookup name = some (p, key)) (object : s.qps p = some rc)
    (owns' : RC.Owns rc s.hw qp' q') (programmed : q'.programmed = some there) :
    MirrorImages loc s name key ↔ ∃ here, q.programmed = some here ∧ Mirrored loc.rc rc here there := by
  constructor
  · intro ⟨_, _, here, ownsOther, told, _, _, _, _, _, entryOther, objectOther, ownsOther', toldOther, mirrored⟩
    obtain ⟨rfl, rfl⟩ := owns.unique ownsOther
    cases entry.symm.trans entryOther
    cases object.symm.trans objectOther
    obtain ⟨rfl, rfl⟩ := owns'.unique ownsOther'
    cases programmed.symm.trans toldOther
    exact ⟨here, told, mirrored⟩
  · exact fun ⟨here, told, mirrored⟩ =>
      ⟨qp, q, here, owns, told, p, rc, qp', q', there, entry, object, owns', programmed, mirrored⟩

/-- What an end whose `connect` succeeded was and has become. -/
inductive Joined (attr mine : QPAttr) (loc loc' : LocalEnd) : Prop
  | already {qp : QpHandle} {q : IbvQp} (owns : RC.Owns loc.rc loc.hw qp q) (state : q.state = .RTS)
      (owns' : RC.Owns loc'.rc loc'.hw qp q) (identity : loc'.rc.identity = loc.rc.identity)
  | programmed {qp : QpHandle} {q : IbvQp} (owns : RC.Owns loc.rc loc.hw qp q) (state : q.state = .INIT)
      (owns' : RC.Owns loc'.rc loc'.hw qp (RC.connected loc.rc attr mine q))
      (identity : loc'.rc.identity = loc.rc.identity)

def Creation.config : Creation → QPConfig
  | .ccRc _ _ config => config
  | .ccRcMsg _ _ _ _ config => config

def Creation.nicId : Creation → U64
  | .ccRc _ nicId _ => nicId
  | .ccRcMsg _ _ _ nicId _ => nicId

/-- Each configuration receives from where the other sends. -/
def Crosses (mine theirs : QPConfig) : Prop := mine.rqPsn = theirs.sqPsn ∧ theirs.rqPsn = mine.sqPsn

/-- The client's queue pair was connected before, to where the server is about to make one, and receives from where the
    configuration sends. -/
def AlreadyAimed (c : Creation) (q : IbvQp) (s : Server A R) : Prop :=
  ∃ here, q.programmed = some here ∧ nextIdentity s c.nicId = some here.aim ∧ here.rqPsn = c.config.sqPsn ∧
    c.config.rqPsn = here.sqPsn

def Agrees (c : Creation) (loc : LocalEnd) (s : Server A R) : Prop :=
  ∃ qp q, RC.Owns loc.rc loc.hw qp q ∧
    (q.state = .INIT ∧ Crosses loc.rc.myConfig c.config ∨ q.state = .RTS ∧ AlreadyAimed c q s)

theorem joined_mirrors_iff {c : Creation} {loc loc' : LocalEnd} {s s' : Server A R} {mine attr : QPAttr} {p : Ptr}
    {rc : Dummy} {q : IbvQp} (known : loc.rc.myAttr = .ok mine)
    (done : Committed (c.request mine) s s' (readName c.name) p rc q attr) (joined : Joined attr mine loc loc') :
    MirrorImages loc' s' (readName c.name) s.env.qpKey.value ↔ Agrees c loc s := by
  have config : (c.request mine).config = c.config := by cases c <;> rfl
  have nicId : (c.request mine).nicId = c.nicId := by cases c <;> rfl
  obtain ⟨_, _, reached⟩ := Dummy.myAttr_ok known
  obtain ⟨_, _, aimed⟩ := Dummy.myAttr_ok done.attr
  obtain ⟨qpTheirs, ownsTheirs⟩ := done.owns
  have programmed := done.programmed
  have identity := done.identity
  rw [config] at programmed
  rw [nicId] at identity
  cases joined with
  | @already qp q owns up owns' same =>
    rw [mirrorImages_iff owns' done.entry done.object ownsTheirs programmed]
    constructor
    · intro ⟨here, told, mirrored⟩
      exact ⟨qp, q, owns, .inr ⟨up, here, told, identity.symm.trans mirrored.aimed, mirrored.receives, mirrored.sends⟩⟩
    · intro ⟨_, _, ownsOther, agrees⟩
      obtain ⟨rfl, rfl⟩ := owns.unique ownsOther
      rcases agrees with ⟨init, _⟩ | ⟨_, here, told, aimedHere, receives, sends⟩
      · cases up.symm.trans init
      · exact ⟨here, told, identity.trans aimedHere, same.trans reached, receives, sends⟩
  | @programmed qp q owns init owns' same =>
    rw [mirrorImages_iff owns' done.entry done.object ownsTheirs programmed]
    constructor
    · intro ⟨here, told, mirrored⟩
      cases (RC.connected_programmed loc.rc attr mine q).symm.trans told
      exact ⟨qp, q, owns, .inl ⟨init, mirrored.receives, mirrored.sends⟩⟩
    · intro ⟨_, _, ownsOther, agrees⟩
      obtain ⟨rfl, rfl⟩ := owns.unique ownsOther
      rcases agrees with ⟨_, receives, sends⟩ | ⟨up, _⟩
      · exact ⟨_, RC.connected_programmed loc.rc attr mine q, aimed, same.trans reached, receives, sends⟩
      · cases init.symm.trans up

variable [AbsRecvAllocator A] {ω : Type} {growth : StringGrowth} {net : Network ω} {cm cm' : ConnectManager ω}
  {handlers : RegisteredHandlers (Server A R)} {s s' : Server A R}

theorem connectReplied_joins {attr mine : QPAttr} {loc loc' : LocalEnd} (known : loc.rc.myAttr = .ok mine)
    {key key' : U64} {desc : ByteBuffer}
    (replied : connectReplied ⟨.Ok, dump RCReply.format ⟨CallbackStatus.Ok.byte, attr, key⟩⟩ loc =
      (.ok ⟨.Ok, (desc, key')⟩, loc')) : key' = key ∧ Joined attr mine loc loc' := by
  have ends := RC.connect_ends loc.calls attr known loc.hw
  rw [connectReplied_accepted] at replied
  generalize RC.connect loc.calls loc.rc attr loc.hw = outcome at ends replied
  cases ends with
  | @left e leaves ends =>
    cases e with
    | exception => exact absurd rfl ends
    | abort => cases replied
    | overread => cases replied
    | badIterator => cases replied
  | already succeeds owns up =>
    cases replied
    exact ⟨rfl, .already owns up owns rfl⟩
  | programmed succeeds owns init found =>
    cases replied
    exact ⟨rfl, .programmed owns init ⟨owns.hasQp, owns.hasCq, found⟩ rfl⟩
  | failed => cases replied

/-- A call that returns `Ok` for the server's answer found its request committed, and its own end joined that. -/
theorem Creation.returned_committed (serves : Creation.Serves handlers) {c : Creation} {loc loc' : LocalEnd}
    (answered : c.Answered growth net handlers loc cm s s') {desc : ByteBuffer} {key : U64}
    (returned : c.run growth net loc cm = ((.ok ⟨.Ok, (desc, key)⟩, loc'), cm')) :
    ∃ mine p rc q attr, loc.rc.myAttr = .ok mine ∧ Committed (c.request mine) s s' (readName c.name) p rc q attr ∧
      key = s.env.qpKey.value ∧ Joined attr mine loc loc' := by
  have fits : c.Fits := by
    by_contra unfit
    rcases Creation.run_unfit growth net loc cm unfit with refused | overread
    · cases refused.symm.trans returned
    · cases overread.symm.trans returned
  obtain ⟨mine, known, reply, given, outcome⟩ := answered
  obtain ⟨cm₁, runs⟩ := requestConnect_replied c.bare known given
  rw [Creation.run_fits growth net loc cm fits, runs] at returned
  have replied := congrArg Prod.fst returned
  have answers := Creation.answers serves fits mine s
  rw [outcome] at answers
  cases answers with
  | committed commit clean done =>
    obtain ⟨same, joined⟩ := connectReplied_joins known replied
    exact ⟨mine, _, _, _, _, known, done, same, joined⟩
  | refused idle clean brief rejected same =>
    obtain ⟨desc, errs⟩ := connectReplied_rejected rejected loc
    cases errs.symm.trans replied

/-- Where a call returns `Ok` for the server's answer to it, the two queue pairs are mirror images exactly when the two
    configurations cross, or the client's queue pair, which is then left alone, was connected that way before. -/
theorem mirror_iff (serves : Creation.Serves handlers) (c : Creation) {loc loc' : LocalEnd}
    (answered : c.Answered growth net handlers loc cm s s') {desc : ByteBuffer} {key : U64}
    (returned : c.run growth net loc cm = ((.ok ⟨.Ok, (desc, key)⟩, loc'), cm')) :
    MirrorImages loc' s' (readName c.name) key ↔ Agrees c loc s := by
  obtain ⟨mine, p, rc, q, attr, known, done, rfl, joined⟩ := Creation.returned_committed serves answered returned
  exact joined_mirrors_iff known done joined

section Client

open RecvManager

theorem Creation.committed_returns (growth : StringGrowth) (serves : Creation.Serves handlers)
    {cm : ConnectManager (ServerEnd (Server A R))} (synced : cm.Synced s) {c : Creation} (fits : c.Fits)
    {loc : LocalEnd} {mine : QPAttr} (known : loc.rc.myAttr = .ok mine) (commits : c.Commits (c.request mine) s)
    (succeeds : RC.Succeeds loc.calls loc.rc loc.hw) :
    ∃ loc' cm', c.run growth (exactlyOnce growth handlers) loc cm = ((.ok ⟨.Ok, ([], s.env.qpKey.value)⟩, loc'), cm') ∧
      c.Answered growth (exactlyOnce growth handlers) handlers loc cm s cm'.peer.server := by
  have answers := Creation.answers serves fits mine s
  obtain ⟨cm', runs, server, _⟩ := Creation.requestConnect_answered growth serves synced fits known
  rw [runs]
  generalize outcome : RPCFactory.callOne handlers c.id (dump RCReq.format (c.request mine)) s = answer
    at answers server
  cases answers with
  | @committed s' _ _ _ attr _ _ done =>
    rw [← synced.server] at outcome
    have own := exactlyOnce_answered growth handlers synced.waits synced.empty c.id_plain (c.request_brief mine) outcome
      (by rw [dump_length]; decide)
    rw [synced.server, show s' = cm'.peer.server from server.symm] at own
    have ends := RC.connect_ends loc.calls attr known loc.hw
    rw [answerTo, connectReplied_accepted]
    generalize RC.connect loc.calls loc.rc attr loc.hw = connected at ends
    cases ends with
    | left leaves _ => exact absurd leaves succeeds.stays
    | already => exact ⟨_, cm', rfl, mine, known, own⟩
    | programmed => exact ⟨_, cm', rfl, mine, known, own⟩
    | failed _ fails => exact absurd succeeds fails
  | refused idle => exact absurd commits idle
  | thrown idle => exact absurd commits idle
  | stranded idle => exact absurd commits idle
  | halted idle => exact absurd commits idle

theorem client_crosses {config : QPConfig} :
    Agrees (Creation.ccRc [113] 0 config) (client true) oneNic ↔ Crosses {} config := by
  obtain ⟨qp, q, owns, init⟩ := client_owns true
  constructor
  · intro ⟨_, _, ownsOther, agrees⟩
    obtain ⟨_, rfl⟩ := owns.unique ownsOther
    rcases agrees with ⟨_, crosses⟩ | ⟨up, _⟩
    · exact crosses
    · cases init.symm.trans up
  · exact fun crosses => ⟨qp, q, owns, .inl ⟨init, crosses⟩⟩

theorem client_returns (config : QPConfig) :
    ∃ loc' cm', (Creation.ccRc [113] 0 config).run libstdcxx (exactlyOnce libstdcxx RecvManager.handlers) (client true)
        besideOneNic = ((.ok ⟨.Ok, ([], 1)⟩, loc'), cm') ∧
      (Creation.ccRc [113] 0 config).Answered libstdcxx (exactlyOnce libstdcxx RecvManager.handlers)
        RecvManager.handlers (client true) besideOneNic oneNic cm'.peer.server := by
  obtain ⟨mine, known⟩ := client_known true
  have commits : (Creation.ccRc [113] 0 config).Commits ((Creation.ccRc [113] 0 config).request mine) oneNic :=
    ⟨_, oneNic_known, ⟨rfl, rfl, Finmap.notMem_empty, rfl⟩, ⟨rfl, rfl⟩, rfl, rfl, rfl⟩
  have fits : (Creation.ccRc [113] 0 config).Fits := show [113].length ≤ kMaxQPNameLen by decide
  exact Creation.committed_returns libstdcxx RecvManager.serves_creation besideOneNic_synced fits known commits
    ((client_succeeds true).mpr rfl)

theorem mirror_client :
    ∃ loc' cm', createsQ.run libstdcxx (exactlyOnce libstdcxx RecvManager.handlers) (client true) besideOneNic =
        ((.ok ⟨.Ok, ([], 1)⟩, loc'), cm') ∧
      MirrorImages loc' cm'.peer.server (readName createsQ.name) 1 := by
  obtain ⟨loc', cm', returned, answered⟩ := client_returns {}
  have mirrors := mirror_iff RecvManager.serves_creation createsQ answered returned
  exact ⟨loc', cm', returned, mirrors.mpr (client_crosses.mpr ⟨rfl, rfl⟩)⟩

/-- The remote end is given 7 by `set_psn`, the local one starts from and expects the default 3185. -/
theorem psn_mismatch :
    ∃ loc' cm', (Creation.ccRc [113] 0 (QPConfig.setPsn {} 7)).run libstdcxx
        (exactlyOnce libstdcxx RecvManager.handlers) (client true) besideOneNic =
          ((.ok ⟨.Ok, ([], 1)⟩, loc'), cm') ∧
      ¬MirrorImages loc' cm'.peer.server (readName [113]) 1 := by
  obtain ⟨loc', cm', returned, answered⟩ := client_returns (QPConfig.setPsn {} 7)
  obtain ⟨mine, p, rc, q, attr, known, done, _, joined⟩ :=
    Creation.returned_committed RecvManager.serves_creation answered returned
  refine ⟨loc', cm', returned, ?_⟩
  intro mirrors
  have crosses := client_crosses.mp ((joined_mirrors_iff known done joined).mp mirrors)
  exact absurd crosses.1 (by decide)

end Client

end RLib
