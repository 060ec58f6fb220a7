import RLib.Control.Committed
import RLib.Control.Fetch

namespace RLib

open Bytes Bootstrap Proto Qps RCtrl ConnectManager

inductive Creation where
  | ccRc (name : ByteBuffer) (nicId : U64) (config : QPConfig)
  | ccRcMsg (qpName channelName : ByteBuffer) (msgSz : U32) (nicId : U64) (config : QPConfig)

namespace Creation

def run {ω : Type} (growth : StringGrowth) (net : Network ω) : Creation → LocalEnd → ConnectManager ω →
    (Except Exit (Result (ByteBuffer × U64)) × LocalEnd) × ConnectManager ω
  | .ccRc name nicId config => ConnectManager.ccRc growth net name nicId config
  | .ccRcMsg qpName channelName msgSz nicId config =>
    ConnectManager.ccRcMsg growth net qpName channelName msgSz nicId config

def name : Creation → ByteBuffer
  | .ccRc name _ _ => name
  | .ccRcMsg qpName _ _ _ _ => qpName

def bare : Creation → RCReq
  | .ccRc name nicId config => rcRequest name nicId config
  | .ccRcMsg qpName channelName msgSz nicId config => msgRequest qpName channelName msgSz nicId config

def request (c : Creation) (attr : QPAttr) : RCReq := { c.bare with attr := attr }

def Fits : Creation → Prop
  | .ccRc name _ _ => name.length ≤ kMaxQPNameLen
  | .ccRcMsg qpName channelName _ _ _ =>
    qpName.length ≤ kMaxQPNameLen ∧ kMaxQPNameLen + 1 + channelName.length ≤ RCReq.format.size

instance : DecidablePred Fits
  | .ccRc name _ _ => inferInstanceAs (Decidable (name.length ≤ kMaxQPNameLen))
  | .ccRcMsg qpName channelName _ _ _ =>
    inferInstanceAs
      (Decidable (qpName.length ≤ kMaxQPNameLen ∧ kMaxQPNameLen + 1 + channelName.length ≤ RCReq.format.size))

def id : Creation → U8
  | .ccRc .. => CreateRC
  | .ccRcMsg .. => CreateRCM

theorem Fits.short {c : Creation} (fits : c.Fits) : c.name.length ≤ kMaxQPNameLen := by
  cases c with
  | ccRc => exact fits
  | ccRcMsg => exact fits.1

theorem request_name {c : Creation} (fits : c.Fits) (attr : QPAttr) :
    (c.request attr).nameString = .ok (readName c.name) := by
  have short := fits.short
  cases c with
  | ccRc => exact nameString_nameField short rfl
  | ccRcMsg => exact nameString_nameField short rfl

section Sending

variable {ω : Type} (growth : StringGrowth) (net : Network ω) (loc : LocalEnd) (cm : ConnectManager ω)

theorem run_fits {c : Creation} (fits : c.Fits) :
    c.run growth net loc cm = requestConnect growth net c.id c.bare loc cm := by
  cases c with
  | ccRc => exact if_neg (Nat.not_lt.mpr fits)
  | ccRcMsg => exact (if_neg (Nat.not_lt.mpr fits.1)).trans (if_neg (Nat.not_lt.mpr fits.2))

theorem run_unfit {c : Creation} (unfit : ¬c.Fits) :
    c.run growth net loc cm = ((.ok (errCase errNameToLong), loc), cm) ∨
      c.run growth net loc cm = ((.error .overread, loc), cm) := by
  cases c with
  | ccRc => exact .inl (if_pos (Nat.not_le.mp unfit))
  | ccRcMsg qpName =>
    by_cases short : qpName.length ≤ kMaxQPNameLen
    · right
      exact (if_neg (Nat.not_lt.mpr short)).trans (if_pos (Nat.not_le.mp fun room => unfit ⟨short, room⟩))
    · exact .inl (if_pos (Nat.not_le.mp short))

theorem requestConnect_unreadable {id : U8} {req : RCReq} {e : Exit} (unreadable : loc.rc.myAttr = .error e) :
    requestConnect growth net id req loc cm = ((.error e, loc), cm) := by
  unfold requestConnect
  rw [unreadable]

end Sending

section Answering

variable {A : Type} {R : Nat} [NeZero R]

/-- The server has the handlers of `RCtrl` and `RecvManager` for creating. -/
structure Serves [AbsRecvAllocator A] (handlers : RegisteredHandlers (Server A R)) : Prop where
  createRc : handlers CreateRC = some rcHandler
  createMsgRc : handlers CreateRCM = some RecvManager.msgRcHandler

variable [AbsRecvAllocator A]

/-- The server creates, connects and registers what is asked of it, and goes wrong after it registered that. -/
def Commits (c : Creation) (req : RCReq) (s : Server A R) : Prop :=
  ∃ nic, s.openedNics.query req.nicId = some nic ∧
    match c with
    | .ccRc .. => RCtrl.Commits nic s (readName c.name)
    | .ccRcMsg .. => RecvManager.Commits req nic s (readName c.name)

def Strands (c : Creation) (req : RCReq) (s : Server A R) : Prop :=
  ∃ nic, s.openedNics.query req.nicId = some nic ∧
    match c with
    | .ccRc .. => Blind nic s (readName c.name)
    | .ccRcMsg .. => RecvManager.Loses req nic s (readName c.name)

theorem answers {handlers : RegisteredHandlers (Server A R)} (serves : Serves handlers) {c : Creation} (fits : c.Fits)
    (attr : QPAttr) (s : Server A R) :
    Answers (c.Commits (c.request attr) s) (c.Strands (c.request attr) s) (c.request attr) s (readName c.name)
      (RPCFactory.callOne handlers c.id (dump RCReq.format (c.request attr)) s) := by
  have named := request_name fits attr
  cases c with
  | ccRc =>
    rw [RPCFactory.callOne, id, serves.createRc]
    exact handleCreate_answers (dedump_self _ _) rfl fun nic opened => createRc_answers opened named
  | ccRcMsg =>
    rw [RPCFactory.callOne, id, serves.createMsgRc]
    exact handleCreate_answers (dedump_self _ _) rfl fun nic opened => RecvManager.createMsgRc_answers opened named

theorem id_plain (c : Creation) : c.id ≠ HeartBeat := by
  cases c with
  | ccRc => exact show CreateRC ≠ HeartBeat by decide
  | ccRcMsg => exact show CreateRCM ≠ HeartBeat by decide

theorem request_brief (c : Creation) (attr : QPAttr) : (dump RCReq.format (c.request attr)).length ≤ 4054 := by
  rw [dump_length]
  decide

theorem requestConnect_answered (growth : StringGrowth) {handlers : RegisteredHandlers (Server A R)}
    (serves : Serves handlers) {s : Server A R} {cm : ConnectManager (ServerEnd (Server A R))} (synced : cm.Synced s)
    {c : Creation} (fits : c.Fits) {loc : LocalEnd} {attr : QPAttr} (known : loc.rc.myAttr = .ok attr) :
    let outcome := RPCFactory.callOne handlers c.id (dump RCReq.format (c.request attr)) s
    ∃ cm', c.run growth (exactlyOnce growth handlers) loc cm = (connectReplied (answerTo outcome.1) loc, cm') ∧
      cm'.peer.server = outcome.2 ∧ cm'.peer.halted = haltedBy outcome.1 := by
  have short : ∀ reply, (RPCFactory.callOne handlers c.id (dump RCReq.format (c.request attr)) cm.peer.server).1 =
      .ok reply → reply.length ≤ 4053 := by
    rw [synced.server]
    exact fun reply => (answers serves fits attr s).brief
  have answered :=
    call_answered growth handlers synced.waits synced.empty c.id _ c.id_plain (c.request_brief attr) short
  rw [synced.server] at answered
  obtain ⟨sent, cm', calls, receives, server, _, halted, _⟩ := answered
  refine ⟨cm', ?_, server, halted⟩
  rw [run_fits growth _ loc cm fits]
  unfold requestConnect exchange
  rw [known]
  dsimp only
  rw [show ({ c.bare with attr := attr } : RCReq) = c.request attr from rfl, calls]
  dsimp only
  rw [if_neg (not_not_intro rfl), receives]

end Answering

end Creation

section Replies

theorem ConnectManager.connectReplied_notOk {resReply : Result ByteBuffer} (failed : resReply.code ≠ .Ok)
    (loc : LocalEnd) : connectReplied resReply loc = (.ok (errCase (text "unknown error")), loc) := if_neg failed

theorem ConnectManager.connectReplied_rejected {reply : ByteBuffer} (rejected : ¬RCReply.Accepted reply)
    (loc : LocalEnd) : ∃ desc, connectReplied ⟨.Ok, reply⟩ loc = (.ok (errCase desc), loc) := by
  unfold connectReplied
  rw [if_pos rfl]
  dsimp only
  cases decoded : dedump RCReply.format reply with
  | none => exact ⟨_, rfl⟩
  | some qpReply =>
    have status : qpReply.status ≠ CallbackStatus.Ok.byte := fun ok => rejected ⟨qpReply, decoded, ok⟩
    dsimp only
    rw [if_neg status]
    split
    · exact ⟨_, rfl⟩
    · split
      · exact ⟨_, rfl⟩
      · exact ⟨_, rfl⟩

theorem ConnectManager.connectReplied_accepted (attr : QPAttr) (key : U64) (loc : LocalEnd) :
    connectReplied ⟨.Ok, dump RCReply.format ⟨CallbackStatus.Ok.byte, attr, key⟩⟩ loc =
      match RC.connect loc.calls loc.rc attr loc.hw with
      | (.error .exception, hw) => (.ok (errCase errDecodeReply), { loc with hw := hw })
      | (.error e, hw) => (.error e, { loc with hw := hw })
      | (.ok (.Ok, rc), hw) => (.ok ⟨.Ok, ([], key)⟩, { loc with rc := rc, hw := hw })
      | (.ok (_, rc), hw) => (.ok (errCase loc.connectError), { loc with rc := rc, hw := hw }) := by
  unfold connectReplied
  rw [if_pos rfl, dedump_self]
  dsimp only
  exact if_pos rfl

end Replies

section WholeOrNothing

variable {A : Type} {R : Nat} [NeZero R]

/-- This call registered a connected QP under the name, with this key. -/
def ServerConnected (s s' : Server A R) (name : Name) (key : U64) : Prop :=
  name ∉ s.registeredQps.store ∧ ∃ p rc qp q, s'.registeredQps.store.lookup name = some (p, key) ∧
    s'.qps p = some rc ∧ RC.Owns rc s'.hw qp q ∧ q.state = .RTS

def ConnectManager.LocalEnd.Connected (loc : LocalEnd) : Prop := ∃ qp q, RC.Owns loc.rc loc.hw qp q ∧ q.state = .RTS

/-- What `Ok` promises holds of both ends, and `Err` leaves no QP of this call at the server, or no server. A call that
    does not return promises nothing. -/
def WholeOrNothing (s : Server A R) (name : Name) :
    (Except Exit (Result (ByteBuffer × U64)) × LocalEnd) × ConnectManager (ServerEnd (Server A R)) → Prop
  | ((.ok ⟨.Ok, (_, key)⟩, loc), cm) => ServerConnected s cm.peer.server name key ∧ loc.Connected
  | ((.ok _, _), cm) => cm.peer.halted.isSome ∨ NothingNew s cm.peer.server
  | ((.error _, _), _) => True

theorem RCtrl.Committed.serverConnected_iff {req : RCReq} {s s' : Server A R} {name : ByteBuffer} {p : Ptr} {rc : Dummy}
    {q : IbvQp} {attr : QPAttr} (done : Committed req s s' (readName name) p rc q attr) :
    ServerConnected s s' name s.env.qpKey.value ↔ 0 ∉ name := by
  constructor
  · intro ⟨absent, p', _, _, _, entry, _⟩ nul
    have apart : name ≠ readName name := (readName_nul nul).symm
    rw [done.registered, Finmap.lookup_insert_of_ne _ apart, Finmap.lookup_eq_none.mpr absent] at entry
    cases entry
  · intro free
    have entry := done.entry
    have absent := done.absent
    rw [readName_free free] at entry absent
    obtain ⟨qp, owns⟩ := done.owns
    exact ⟨absent, p, rc, qp, q, entry, done.object, owns, done.state⟩

theorem wholeOrNothing_err {s : Server A R} {name : Name} {desc : ByteBuffer} {loc : LocalEnd}
    {cm : ConnectManager (ServerEnd (Server A R))} :
    WholeOrNothing s name ((.ok (errCase desc), loc), cm) ↔
      cm.peer.halted.isSome ∨ NothingNew s cm.peer.server := Iff.rfl

/-- The server committed: the call is whole unless the client's own end fails, or the name was cut. -/
theorem committed_whole_iff {req : RCReq} {s : Server A R} {name : ByteBuffer} {p : Ptr} {rc : Dummy} {q : IbvQp}
    {attr mine : QPAttr} {loc : LocalEnd} {cm : ConnectManager (ServerEnd (Server A R))}
    (done : Committed req s cm.peer.server (readName name) p rc q attr) (running : cm.peer.halted = none)
    (known : loc.rc.myAttr = .ok mine) :
    WholeOrNothing s name
        (connectReplied ⟨.Ok, dump RCReply.format ⟨CallbackStatus.Ok.byte, attr, s.env.qpKey.value⟩⟩ loc, cm) ↔
      RC.Leaves loc.calls loc.rc loc.hw ∨ RC.Succeeds loc.calls loc.rc loc.hw ∧ 0 ∉ name := by
  have ends := RC.connect_ends loc.calls attr known loc.hw
  rw [connectReplied_accepted]
  generalize RC.connect loc.calls loc.rc attr loc.hw = outcome at ends
  cases ends with
  | @left e leaves ends =>
    cases e with
    | exception => exact absurd rfl ends
    | abort => exact iff_of_true trivial (.inl leaves)
    | overread => exact iff_of_true trivial (.inl leaves)
    | badIterator => exact iff_of_true trivial (.inl leaves)
  | already succeeds owns up =>
    have connected : ({ loc with rc := loc.rc, hw := loc.hw } : LocalEnd).Connected := ⟨_, _, owns, up⟩
    rw [or_iff_right succeeds.stays, and_iff_right succeeds, ← done.serverConnected_iff]
    exact and_iff_left connected
  | @programmed qp q' hw' succeeds owns _ found =>
    have connected : ({ loc with rc := { loc.rc with status := .Ok }, hw := hw' } : LocalEnd).Connected :=
      ⟨qp, _, ⟨owns.hasQp, owns.hasCq, found⟩, rfl⟩
    rw [or_iff_right succeeds.stays, and_iff_right succeeds, ← done.serverConnected_iff]
    exact and_iff_left connected
  | failed stays fails =>
    apply iff_of_false
    · intro promised
      rcases wholeOrNothing_err.mp promised with halted | nothing
      · rw [running] at halted
        cases halted
      · exact done.new nothing
    · rintro (leaves | ⟨succeeds, _⟩)
      · exact stays leaves
      · exact fails succeeds

variable [AbsRecvAllocator A]

/-- What the client's own end makes of a QP that the server committed: it stays on its way there, or it connects and
    knows the QP by the name it gave. -/
def LocalEnd.Follows (loc : LocalEnd) (name : ByteBuffer) : Prop :=
  RC.Leaves loc.calls loc.rc loc.hw ∨ RC.Succeeds loc.calls loc.rc loc.hw ∧ 0 ∉ name

theorem Creation.sent_whole_iff (growth : StringGrowth) {handlers : RegisteredHandlers (Server A R)}
    (serves : Serves handlers) {s : Server A R} {cm : ConnectManager (ServerEnd (Server A R))} (synced : cm.Synced s)
    {c : Creation} (fits : c.Fits) {loc : LocalEnd} {mine : QPAttr} (known : loc.rc.myAttr = .ok mine) :
    WholeOrNothing s c.name (c.run growth (exactlyOnce growth handlers) loc cm) ↔
      ¬(c.Strands (c.request mine) s ∨ c.Commits (c.request mine) s ∧ ¬LocalEnd.Follows loc c.name) := by
  have answers := answers serves fits mine s
  have answered := requestConnect_answered growth serves synced fits known
  generalize RPCFactory.callOne handlers c.id (dump RCReq.format (c.request mine)) s = outcome at answers answered
  obtain ⟨reply, s'⟩ := outcome
  obtain ⟨cm', runs, server, halted⟩ := answered
  dsimp only at runs server halted
  subst server
  rw [runs]
  cases answers with
  | committed commit clean done =>
    rw [answerTo, committed_whole_iff done halted known, LocalEnd.Follows, or_iff_right clean, and_iff_right commit,
      not_not]
  | refused idle clean brief rejected same =>
    obtain ⟨desc, replied⟩ := connectReplied_rejected rejected loc
    rw [answerTo, replied]
    apply iff_of_true
    · exact wholeOrNothing_err.mpr (.inr (nothingNew_of_same same))
    · rintro (strand | ⟨commit, _⟩)
      · exact clean strand
      · exact idle commit
  | thrown idle clean same =>
    rw [answerTo, connectReplied_notOk (by decide)]
    apply iff_of_true
    · exact wholeOrNothing_err.mpr (.inr (nothingNew_of_same same))
    · rintro (strand | ⟨commit, _⟩)
      · exact clean strand
      · exact idle commit
  | stranded idle strand new =>
    rw [answerTo, connectReplied_notOk (by decide)]
    apply iff_of_false
    · intro promised
      rcases wholeOrNothing_err.mp promised with stopped | nothing
      · rw [halted] at stopped
        cases stopped
      · exact new nothing
    · exact not_not_intro (.inl strand)
  | @halted e _ idle clean halts =>
    have stopped : cm'.peer.halted.isSome := by
      rw [halted, haltedBy_halts halts]
      rfl
    rw [answerTo_halts halts, connectReplied_notOk (by decide)]
    apply iff_of_true
    · exact wholeOrNothing_err.mpr (.inl stopped)
    · rintro (strand | ⟨commit, _⟩)
      · exact clean strand
      · exact idle commit

/-- The request is sent, and the server registers a QP that it does not get connected and answered for, or commits one
    that the client's own end does not follow. -/
def Creation.LeavesHalf (c : Creation) (loc : LocalEnd) (s : Server A R) : Prop :=
  c.Fits ∧ ∃ mine, loc.rc.myAttr = .ok mine ∧
    (c.Strands (c.request mine) s ∨ c.Commits (c.request mine) s ∧ ¬LocalEnd.Follows loc c.name)

/-- A call that creates a QP at the server is all-or-nothing across the two machines exactly when nothing goes wrong
    after the server registered it: neither at the server nor, after its reply, at the client. -/
theorem creation_whole_iff (growth : StringGrowth) {handlers : RegisteredHandlers (Server A R)}
    (serves : Creation.Serves handlers) {s : Server A R} {cm : ConnectManager (ServerEnd (Server A R))}
    (synced : cm.Synced s) (c : Creation) (loc : LocalEnd) :
    WholeOrNothing s c.name (c.run growth (exactlyOnce growth handlers) loc cm) ↔ ¬c.LeavesHalf loc s := by
  have unsent : ∀ desc, WholeOrNothing s c.name ((.ok (errCase desc), loc), cm) := by
    intro desc
    have same : cm.peer.server.registeredQps = s.registeredQps := by rw [synced.server]
    exact wholeOrNothing_err.mpr (.inr (nothingNew_of_same same))
  by_cases fits : c.Fits
  · cases known : loc.rc.myAttr with
    | error e =>
      rw [Creation.run_fits growth _ loc cm fits, Creation.requestConnect_unreadable growth _ loc cm known]
      apply iff_of_true trivial
      intro ⟨_, mine, known', _⟩
      cases known.symm.trans known'
    | ok mine =>
      rw [Creation.sent_whole_iff growth serves synced fits known]
      apply not_congr
      constructor
      · exact fun half => ⟨fits, mine, known, half⟩
      · intro ⟨_, mine', known', half⟩
        cases known.symm.trans known'
        exact half
  · apply iff_of_true
    · rcases Creation.run_unfit growth (exactlyOnce growth handlers) loc cm fits with refused | overread
      · rw [refused]
        exact unsent errNameToLong
      · rw [overread]
        trivial
    · exact fun half => fits half.1

end WholeOrNothing

section Client

open RecvManager

theorem RecvManager.serves_creation {A : Type} {R : Nat} [NeZero R] [AbsRecvAllocator A] :
    Creation.Serves (RecvManager.handlers : RegisteredHandlers (Server A R)) := ⟨rfl, rfl⟩

def client (toRtr : Bool) : LocalEnd where
  rc := { nic := ⟨1, some ⟨0, 0, 0⟩, some 5⟩, myConfig := {}, qp := some ⟨1, 4⟩, cq := some 0 }
  hw := { fresh := 2, qps := [{ ptr := 1, qpNum := 4, init := ⟨0, 0, 128, 2048, 64⟩, state := .INIT }] }
  calls := { createQp := none, toRtr := toRtr }
  connectError := []

def besideOneNic : ConnectManager (ServerEnd (Server SimpleAllocator 1)) where
  peer := { channel := RecvChannel.create, server := oneNic }

theorem besideOneNic_synced : besideOneNic.Synced oneNic := ⟨⟨rfl, rfl⟩, rfl, rfl⟩

theorem client_known (toRtr : Bool) : ∃ attr, (client toRtr).rc.myAttr = .ok attr :=
  Dummy.myAttr_complete _ rfl ⟨rfl, rfl⟩

theorem client_owns (toRtr : Bool) : ∃ qp q, RC.Owns (client toRtr).rc (client toRtr).hw qp q ∧ q.state = .INIT :=
  ⟨⟨1, 4⟩, _, ⟨rfl, rfl, rfl⟩, rfl⟩

theorem client_stays (toRtr : Bool) : ¬RC.Leaves (client toRtr).calls (client toRtr).rc (client toRtr).hw := by
  intro ⟨qp, made, _, gone⟩
  cases made
  rcases gone with unqueried | missing
  · cases unqueried
  · cases missing

theorem client_succeeds (toRtr : Bool) :
    RC.Succeeds (client toRtr).calls (client toRtr).rc (client toRtr).hw ↔ toRtr = true := by
  obtain ⟨qp, q, owns, init⟩ := client_owns toRtr
  constructor
  · intro ⟨_, qp', q', owns', ready⟩
    obtain ⟨_, rfl⟩ := owns.unique owns'
    rcases ready with up | ⟨_, accepted, _⟩
    · cases init.symm.trans up
    · exact accepted
  · exact fun accepted => ⟨rfl, qp, q, owns, .inr ⟨init, accepted, rfl⟩⟩

theorem oneNic_known : oneNic.openedNics.query 0 = some ⟨1, some ⟨0, 0, 0⟩, some 7⟩ := by decide

def createsQ : Creation := .ccRc [113] 0 {}

theorem oneNic_commits (attr : QPAttr) : createsQ.Commits (createsQ.request attr) oneNic :=
  ⟨_, oneNic_known, ⟨rfl, rfl, Finmap.notMem_empty, rfl⟩, ⟨rfl, rfl⟩, rfl, rfl, rfl⟩

theorem creation_whole_client :
    WholeOrNothing oneNic createsQ.name
      (createsQ.run libstdcxx (exactlyOnce libstdcxx RecvManager.handlers) (client true) besideOneNic) := by
  have whole := creation_whole_iff libstdcxx RecvManager.serves_creation besideOneNic_synced createsQ (client true)
  rw [whole]
  intro ⟨_, mine, _, half⟩
  rcases half with ⟨nic, known, _, incomplete⟩ | ⟨_, lost⟩
  · cases oneNic_known.symm.trans known
    exact incomplete ⟨rfl, rfl⟩
  · exact lost (.inr ⟨(client_succeeds true).mpr rfl, by decide⟩)

/-- The client's step to RTR fails after the server committed. -/
theorem creation_orphans :
    ¬WholeOrNothing oneNic createsQ.name
      (createsQ.run libstdcxx (exactlyOnce libstdcxx RecvManager.handlers) (client false) besideOneNic) := by
  obtain ⟨mine, known⟩ := client_known false
  have whole := Creation.sent_whole_iff libstdcxx RecvManager.serves_creation besideOneNic_synced
    (show createsQ.Fits by decide) known
  rw [whole]
  apply not_not_intro
  refine .inr ⟨oneNic_commits mine, ?_⟩
  rintro (leaves | ⟨succeeds, _⟩)
  · exact client_stays false leaves
  · cases (client_succeeds false).mp succeeds

end Client

end RLib
