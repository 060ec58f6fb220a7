import RLib.Bootstrap.EventLoop
import RLib.Bootstrap.ReceiveBuffer
import RLib.Bootstrap.ReplyMatching

namespace RLib.Bootstrap

open Bytes SRpcHandler

section Requests

/-- The entries of a message that the check may let through lie inside its buffer. -/
def EntriesInside (b : ByteBuffer) : Prop :=
  numAt b ≤ kMaxMultiMsg → ∀ i < numAt b, (offsetAt b i).toNat + (szAt b i).toNat ≤ b.length

instance (b : ByteBuffer) : Decidable (EntriesInside b) := inferInstanceAs (Decidable (_ → ∀ i < numAt b, _))

theorem end_inside {b : ByteBuffer} (full : b.length = kMaxMsgSz) (opens : Opens b) (inside : EntriesInside b) {i : Nat}
    (inTable : i < numAt b) : runningEnd b (i + 1) ≤ kMaxMsgSz := by
  have max : kMaxMsgSz = 4096 := rfl
  induction i with
  | zero =>
    have first := inside opens.few 0 inTable
    rw [opens.passes.linked 0 inTable, BitVec.toNat_ofNat] at first
    have start : runningEnd b 0 = 33 := rfl
    rw [runningEnd]
    omega
  | succ i ih =>
    have before := ih (by omega)
    have next := inside opens.few (i + 1) inTable
    rw [opens.passes.linked (i + 1) inTable, BitVec.toNat_ofNat] at next
    rw [runningEnd]
    omega

theorem request_inside {b : ByteBuffer} (full : b.length = kMaxMsgSz) (inside : EntriesInside b) :
    ∃ req, request b = .ok req := by
  by_cases opens : Opens b
  · rw [request_opens full opens]
    have first : runningEnd b 1 ≤ kMaxMsgSz := end_inside full opens inside opens.present
    rw [if_neg (by omega)]
    by_cases one : numAt b = 1
    · rw [if_pos one]
      exact ⟨_, rfl⟩
    · have present := opens.present
      have second : runningEnd b 2 ≤ kMaxMsgSz := end_inside full opens inside (by omega)
      rw [if_neg one, if_neg (by omega)]
      exact ⟨_, rfl⟩
  · exact ⟨.undecodable, request_shut full opens⟩

end Requests

variable {α σ : Type}

/-- A handler returns a string of fewer than `2 ^ 32 - 64` bytes or throws. -/
def Behaved (handlers : RegisteredHandlers σ) : Prop :=
  ∀ id fn, handlers id = some fn → ∀ parameter s,
    (∃ reply s', fn parameter s = (.ok reply, s') ∧ reply.length < 2 ^ 32 - 64) ∨
      ∃ s', fn parameter s = (.error .exception, s')

/-- A registered handler runs on the call and returns `reply`, which fits in a message. -/
def Handles (handlers : RegisteredHandlers σ) (id : U8) (parameter : ByteBuffer) (s : σ) (reply : ByteBuffer) : Prop :=
  (∃ fn s', handlers id = some fn ∧ fn parameter s = (.ok reply, s')) ∧
    MsgsHeader.size + SReplyHeader.format.size + reply.length ≤ kMaxMsgSz

def Due (handlers : RegisteredHandlers σ) (s : σ) (header : SReplyHeader) (result : Option ByteBuffer) : Request → Prop
  | .undecodable => header.callstatus = CallStatus.FatalErr.byte ∧ header.checksum = SRpc.invalidChecksum
  | .noParameter checksum => header.callstatus = CallStatus.Nop.byte ∧ header.checksum = checksum
  | .call id checksum parameter => header.checksum = checksum ∧
      ((∃ reply, Handles handlers id parameter s reply ∧ header.callstatus = CallStatus.Ok.byte ∧ result = some reply) ∨
        (¬∃ reply, Handles handlers id parameter s reply) ∧ header.callstatus = CallStatus.Nop.byte)

def Answers (handlers : RegisteredHandlers σ) (msg : ByteBuffer) (s : σ) (d : ByteBuffer) : Prop :=
  ∃ req header result, request msg = .ok req ∧ IsReply d header result ∧ Due handlers s header result req

def Registered (handlers : RegisteredHandlers σ) (msg : ByteBuffer) : Prop :=
  ∀ id checksum parameter, request msg = .ok (.call id checksum parameter) → (handlers id).isSome

def stateAfter (handlers : RegisteredHandlers σ) (msg : ByteBuffer) (s : σ) : σ :=
  match request msg with
  | .ok (.call id _ parameter) => (RPCFactory.callOne handlers id parameter s).2
  | _ => s

theorem bareReply_isReply (growth : StringGrowth) (header : SReplyHeader) :
    ∃ d, bareReply growth header = .ok d ∧ IsReply d header none :=
  ⟨_, bareReply_sends growth header, rfl, nofun⟩

theorem codedReply_over (growth : StringGrowth) (header : SReplyHeader) {reply : ByteBuffer}
    (long : 4053 < reply.length)
    (bounded : reply.length < 2 ^ 32 - 64) : codedReply growth header reply = .error .exception := by
  have size : MsgsHeader.size = 33 := rfl
  have max : kMaxMsgSz = 4096 := rfl
  have ten : SReplyHeader.format.size = 10 := rfl
  have refused : MultiMsg.createExact kMaxMsgSz growth (SReplyHeader.format.size + reply.length) = none :=
    if_pos (by omega)
  rw [codedReply, refused]
  rfl

theorem serve_answers (growth : StringGrowth) {handlers : RegisteredHandlers σ} (behaved : Behaved handlers)
    {msg : ByteBuffer} (s : σ) {req : Request} (made : request msg = .ok req) (registered : Registered handlers msg) :
    ∃ served, serve growth handlers msg s = (.ok served, stateAfter handlers msg s) ∧
      Answers handlers msg s served.reply := by
  cases req with
  | undecodable =>
    obtain ⟨d, sent, reply⟩ := bareReply_isReply growth ⟨CallStatus.FatalErr.byte, SRpc.invalidChecksum, 0⟩
    refine ⟨⟨none, d⟩, ?_, .undecodable, _, none, made, reply, rfl, rfl⟩
    simp only [serve, stateAfter, made, sent]
    rfl
  | noParameter checksum =>
    obtain ⟨d, sent, reply⟩ := bareReply_isReply growth ⟨CallStatus.Nop.byte, checksum, 0⟩
    refine ⟨⟨none, d⟩, ?_, .noParameter checksum, _, none, made, reply, rfl, rfl⟩
    simp only [serve, stateAfter, made, sent]
    rfl
  | call id checksum parameter =>
    have size : MsgsHeader.size = 33 := rfl
    have max : kMaxMsgSz = 4096 := rfl
    have ten : SReplyHeader.format.size = 10 := rfl
    obtain ⟨fn, found⟩ := Option.isSome_iff_exists.mp (registered id checksum parameter made)
    have runs : RPCFactory.callOne handlers id parameter s = fn parameter s := by rw [RPCFactory.callOne, found]
    obtain ⟨nop, sentNop, nopReply⟩ := bareReply_isReply growth ⟨CallStatus.Nop.byte, checksum, 0⟩
    -- every way but that of a result that fits ends in this reply
    have refused : (¬∃ reply, Handles handlers id parameter s reply) → Answers handlers msg s nop :=
      fun none => ⟨_, _, _, made, nopReply, rfl, .inr ⟨none, rfl⟩⟩
    rcases behaved id fn found parameter s with ⟨reply, s', returns, bounded⟩ | ⟨s', throws⟩
    · have only : ∀ other, Handles handlers id parameter s other → other = reply := by
        rintro other ⟨⟨fn', t, found', returns'⟩, _⟩
        rw [found] at found'
        cases found'
        rw [returns] at returns'
        cases returns'
        rfl
      by_cases short : reply.length ≤ 4053
      · let header : SReplyHeader := ⟨CallStatus.Ok.byte, checksum, if id = HeartBeat then 1 else 0⟩
        have sent := codedReply_sends growth header reply short
        refine ⟨⟨some (id, parameter), _⟩, ?_, .call id checksum parameter, header, some reply, made,
          ⟨rfl, fun data same => by cases same; exact short⟩, rfl,
          .inl ⟨reply, ⟨⟨fn, s', found, returns⟩, by omega⟩, rfl, rfl⟩⟩
        simp only [serve, stateAfter, made, runs, returns, sent, header, catching]
        rfl
      · have sent := codedReply_over growth ⟨CallStatus.Ok.byte, checksum, if id = HeartBeat then 1 else 0⟩
          (by omega : 4053 < reply.length) bounded
        have none : ¬∃ reply, Handles handlers id parameter s reply := by
          rintro ⟨other, handles⟩
          have fits := handles.2
          rw [only other handles] at fits
          omega
        refine ⟨⟨some (id, parameter), nop⟩, ?_, refused none⟩
        simp only [serve, stateAfter, made, runs, returns, sent, sentNop, catching]
        rfl
    · have none : ¬∃ reply, Handles handlers id parameter s reply := by
        rintro ⟨other, ⟨fn', t, found', returns⟩, _⟩
        rw [found] at found'
        cases found'
        rw [throws] at returns
        cases returns
      refine ⟨⟨some (id, parameter), nop⟩, ?_, refused none⟩
      simp only [serve, stateAfter, made, runs, throws, sentNop]
      rfl

theorem serve_unregistered (growth : StringGrowth) (handlers : RegisteredHandlers σ) {msg : ByteBuffer} (s : σ)
    (unregistered : ¬Registered handlers msg) : serve growth handlers msg s = (.error .badIterator, s) := by
  unfold Registered at unregistered
  simp only [not_forall] at unregistered
  obtain ⟨id, checksum, parameter, made, missing⟩ := unregistered
  have none : handlers id = none := Option.not_isSome_iff_eq_none.mp missing
  simp only [serve, made, RPCFactory.callOne, none]

def Buffered (P : ByteBuffer → Prop) : ByteBuffer → List (α × ByteBuffer) → Prop
  | _, [] => True
  | old, (_, d) :: ds => P (overlay d old) ∧ Buffered P (overlay d old) ds

/-- Each datagram is answered once, in order and to its sender. -/
def AllAnswered (handlers : RegisteredHandlers σ) :
    ByteBuffer → σ → List (α × ByteBuffer) → List (α × Served) → Prop
  | _, _, [], [] => True
  | old, s, (sender, d) :: ds, (client, served) :: rest =>
    client = sender ∧ Answers handlers (overlay d old) s served.reply ∧
      AllAnswered handlers (overlay d old) (stateAfter handlers (overlay d old) s) ds rest
  | _, _, _, _ => False

def arriving (ds : List (α × ByteBuffer)) : List (Poll α) := ds.map fun (sender, d) => .datagram sender d

/-- The calls of `run_one_event_loop` of a server thread, each with the datagrams that arrive until one of its
    `try_recv` calls finds none. -/
def runEventLoops (growth : StringGrowth) (handlers : RegisteredHandlers σ) :
    List (List (α × ByteBuffer)) → RecvChannel α → σ → LoopRun α σ
  | [], ch, s => ⟨[], ch, s, none⟩
  | burst :: calls, ch, s =>
    let run := runOneEventLoop growth handlers ch s (arriving burst)
    if run.stopped.isSome then run
    else
      let more := runEventLoops growth handlers calls run.channel run.state
      { more with served := run.served ++ more.served }

section Loop

variable (growth : StringGrowth) {handlers : RegisteredHandlers σ}

theorem runOneEventLoop_cons {ch : RecvChannel α} (idle : ch.curMsgClient = none) (s : σ) (sender : α) (d : ByteBuffer)
    (polls : List (Poll α)) :
    runOneEventLoop growth handlers ch s (.datagram sender d :: polls) =
      match serve growth handlers (overlay d ch.curMsg) s with
      | (.error e, s') => ⟨[], ch.tryRecv (.datagram sender d), s', some e⟩
      | (.ok served, s') =>
        (runOneEventLoop growth handlers (ch.tryRecv (.datagram sender d)).reset s' polls).after (sender, served) := by
  have start : ∀ (ch : RecvChannel α) poll polls, ch.curMsgClient = none →
      ch.start (poll :: polls) = (ch.tryRecv poll, polls) := by
    intro ch poll polls idle
    simp only [RecvChannel.start, RecvChannel.hasMsg, idle, Option.isSome_none, Bool.false_eq_true, ↓reduceIte]
  rw [runOneEventLoop, start ch _ polls idle]
  cases polls with
  | nil =>
    simp only [eventLoop, SRpcHandler.pass, RecvChannel.tryRecv]
    rcases serve growth handlers (overlay d ch.curMsg) s with ⟨e | served, s'⟩
    · rfl
    · rfl
  | cons poll polls =>
    simp only [eventLoop, SRpcHandler.pass, RecvChannel.tryRecv]
    rcases serve growth handlers (overlay d ch.curMsg) s with ⟨e | served, s'⟩
    · rfl
    · simp only
      rw [runOneEventLoop, start _ poll polls rfl]
      rfl

theorem runOneEventLoop_idle {ch : RecvChannel α} (idle : ch.curMsgClient = none) (s : σ) :
    runOneEventLoop growth handlers ch s [] = ⟨[], ch, s, none⟩ := by
  simp only [runOneEventLoop, RecvChannel.start, eventLoop, SRpcHandler.pass, idle]

theorem runOneEventLoop_append {ch : RecvChannel α} (idle : ch.curMsgClient = none) (s : σ)
    (ds es : List (α × ByteBuffer)) :
    let run := runOneEventLoop growth handlers ch s (arriving ds)
    (run.stopped = none → run.channel.curMsgClient = none) ∧
      runOneEventLoop growth handlers ch s (arriving (ds ++ es)) =
        if run.stopped.isSome then run
        else
          let more := runOneEventLoop growth handlers run.channel run.state (arriving es)
          { more with served := run.served ++ more.served } := by
  induction ds generalizing ch s with
  | nil =>
    have nothing : runOneEventLoop growth handlers ch s (arriving []) = ⟨[], ch, s, none⟩ :=
      runOneEventLoop_idle growth idle s
    rw [nothing]
    exact ⟨fun _ => idle, rfl⟩
  | cons first ds ih =>
    obtain ⟨sender, d⟩ := first
    have split : ∀ rest, arriving ((sender, d) :: rest) = .datagram sender d :: arriving rest := fun _ => rfl
    rw [List.cons_append, split, split, runOneEventLoop_cons growth idle, runOneEventLoop_cons growth idle]
    rcases serve growth handlers (overlay d ch.curMsg) s with ⟨e | served, s'⟩
    · exact ⟨nofun, rfl⟩
    · obtain ⟨idles, rest⟩ := ih (rfl : (ch.tryRecv (.datagram sender d)).reset.curMsgClient = none) s'
      constructor
      · exact idles
      · simp only
        rw [rest]
        simp only [LoopRun.after]
        split
        · rename_i stops
          exact (if_pos stops).symm
        · rename_i runs
          exact (if_neg runs).symm

theorem runEventLoops_flatten {ch : RecvChannel α} (idle : ch.curMsgClient = none) (s : σ)
    (calls : List (List (α × ByteBuffer))) :
    runEventLoops growth handlers calls ch s = runOneEventLoop growth handlers ch s (arriving calls.flatten) := by
  induction calls generalizing ch s with
  | nil => exact (runOneEventLoop_idle growth idle s).symm
  | cons burst calls ih =>
    obtain ⟨idles, split⟩ := runOneEventLoop_append growth idle s burst calls.flatten
    rw [List.flatten_cons, split, runEventLoops]
    simp only
    split
    · rfl
    · rename_i running
      rw [ih (idles (Option.not_isSome_iff_eq_none.mp running))]

theorem runOneEventLoop_answers (behaved : Behaved handlers) {ch : RecvChannel α} (idle : ch.curMsgClient = none)
    (s : σ)
    {ds : List (α × ByteBuffer)} (inside : Buffered EntriesInside ch.curMsg ds) :
    (runOneEventLoop growth handlers ch s (arriving ds)).stopped = none ∧
        AllAnswered handlers ch.curMsg s ds (runOneEventLoop growth handlers ch s (arriving ds)).served ↔
      Buffered (Registered handlers) ch.curMsg ds := by
  induction ds generalizing ch s with
  | nil =>
    rw [show arriving [] = ([] : List (Poll α)) from rfl, runOneEventLoop_idle growth idle]
    exact iff_of_true ⟨rfl, trivial⟩ trivial
  | cons first ds ih =>
    obtain ⟨sender, d⟩ := first
    obtain ⟨now, later⟩ := inside
    have full : (overlay d ch.curMsg).length = kMaxMsgSz := by rw [overlay_length, ch.full]
    have split : arriving ((sender, d) :: ds) = .datagram sender d :: arriving ds := rfl
    rw [split, runOneEventLoop_cons growth idle]
    by_cases registered : Registered handlers (overlay d ch.curMsg)
    · obtain ⟨req, made⟩ := request_inside full now
      obtain ⟨served, done, answers⟩ := serve_answers growth behaved s made registered
      have rest := ih (rfl : (ch.tryRecv (.datagram sender d)).reset.curMsgClient = none)
        (stateAfter handlers (overlay d ch.curMsg) s) later
      rw [done]
      constructor
      · intro ⟨running, _, _, others⟩
        exact ⟨registered, rest.mp ⟨running, others⟩⟩
      · intro ⟨_, others⟩
        obtain ⟨running, more⟩ := rest.mpr others
        exact ⟨running, rfl, answers, more⟩
    · rw [serve_unregistered growth handlers s registered]
      exact iff_of_false (fun both => Option.some_ne_none _ both.1) (fun both => registered both.1)

/-- Every datagram is answered and the server runs on exactly when no datagram calls an id without a handler. -/
theorem every_datagram_answered_iff (behaved : Behaved handlers) {ch : RecvChannel α} (idle : ch.curMsgClient = none)
    (s : σ) (calls : List (List (α × ByteBuffer))) (inside : Buffered EntriesInside ch.curMsg calls.flatten) :
    (runEventLoops growth handlers calls ch s).stopped = none ∧
        AllAnswered handlers ch.curMsg s calls.flatten (runEventLoops growth handlers calls ch s).served ↔
      Buffered (Registered handlers) ch.curMsg calls.flatten := by
  rw [runEventLoops_flatten growth idle]
  exact runOneEventLoop_answers growth behaved idle s inside

end Loop

section Heartbeat

theorem init_behaved : Behaved (RPCFactory.init : RegisteredHandlers Unit) := by
  intro id fn found parameter s
  have registered : (if id = HeartBeat then some RPCFactory.heartbeatHandler else none) = some fn := found
  split at registered
  · cases registered
    exact .inl ⟨_, _, rfl, by decide⟩
  · cases registered

def calling (id : U8) : ByteBuffer := encode [dump SRpcHeader.format ⟨id, 5⟩, []]

theorem request_calling (id : U8) :
    request (overlay (calling id) (RecvChannel.create : RecvChannel Unit).curMsg) = .ok (.call id 5 []) :=
  request_encode ⟨id, 5⟩ [] _ (by decide) RecvChannel.create.full

theorem every_datagram_answered_heartbeat :
    (runEventLoops libstdcxx RPCFactory.init [[((), calling HeartBeat)], []] RecvChannel.create ()).stopped = none ∧
      AllAnswered RPCFactory.init (RecvChannel.create : RecvChannel Unit).curMsg () [((), calling HeartBeat)]
        (runEventLoops libstdcxx RPCFactory.init [[((), calling HeartBeat)], []] RecvChannel.create ()).served := by
  apply (every_datagram_answered_iff libstdcxx init_behaved rfl () [[((), calling HeartBeat)], []]
    ⟨by decide +kernel, trivial⟩).mpr
  refine ⟨?_, trivial⟩
  intro id checksum parameter made
  rw [request_calling] at made
  cases made
  rfl

theorem unregistered_stops :
    Behaved (RPCFactory.init : RegisteredHandlers Unit) ∧
      Buffered EntriesInside (RecvChannel.create : RecvChannel Unit).curMsg [((), calling 9)] ∧
      (runEventLoops libstdcxx RPCFactory.init [[((), calling 9)]] RecvChannel.create ()).stopped = some .badIterator ∧
      (runEventLoops libstdcxx RPCFactory.init [[((), calling 9)]] RecvChannel.create ()).served = [] := by
  have unregistered : ¬Registered (RPCFactory.init : RegisteredHandlers Unit)
      (overlay (calling 9) (RecvChannel.create : RecvChannel Unit).curMsg) :=
    fun registered => absurd (registered 9 5 [] (request_calling 9)) (by decide)
  have run : runEventLoops libstdcxx RPCFactory.init [[((), calling 9)]] RecvChannel.create () =
      ⟨[], RecvChannel.create.tryRecv (.datagram () (calling 9)), (), some .badIterator⟩ := by
    rw [runEventLoops_flatten libstdcxx rfl]
    change runOneEventLoop _ _ _ _ [.datagram () (calling 9)] = _
    rw [runOneEventLoop_cons libstdcxx rfl, serve_unregistered libstdcxx RPCFactory.init () unregistered]
  rw [run]
  exact ⟨init_behaved, ⟨by decide +kernel, trivial⟩, rfl, rfl⟩

end Heartbeat

end RLib.Bootstrap
