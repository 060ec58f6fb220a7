import RLib.Bootstrap.RpcNetwork

namespace RLib.Bootstrap

open Bytes SRpcHandler Run

section Replies

/-- The bytes `d` are a reply with this header and either one result or none. -/
structure IsReply (d : ByteBuffer) (header : SReplyHeader) (result : Option ByteBuffer) : Prop where
  bytes : d = encode (dump SReplyHeader.format header :: result.toList)
  short : ∀ data, result = some data → data.length ≤ 4053

theorem IsReply.decodes {d : ByteBuffer} {header : SReplyHeader} {result : Option ByteBuffer}
    (reply : IsReply d header result) :
    ∃ m : MMsg, decodeReply (recvBuffer d) = .ok (m, header) ∧ m.queryOne 1 = .ok result := by
  have room : result.toList.length < kMaxMultiMsg := by
    cases result with
    | none => decide
    | some data => exact show 1 < kMaxMultiMsg by decide
  have short : result.toList.flatten.length ≤ 4053 := by
    cases result with
    | none => decide
    | some data => simpa using reply.short data rfl
  obtain ⟨m, decoded, second⟩ := decodeReply_encode header result.toList room short
  rw [← reply.bytes] at decoded
  refine ⟨m, decoded, ?_⟩
  cases result with
  | none => exact second
  | some data => exact second

theorem IsReply.judge {d : ByteBuffer} {header : SReplyHeader} {result : Option ByteBuffer}
    (reply : IsReply d header result) (rpc : SRpc) :
    rpc.judge false (recvBuffer d) =
      if header.dummy ≠ 0 then .ok .retry
      else if header.checksum = rpc.checksum then
        if header.callstatus = CallStatus.Ok.byte then
          result.elim (decodeError (rpc.checksum + 1)) (fun data => .ok (.done ⟨.Ok, data⟩ (rpc.checksum + 1)))
        else if header.callstatus = CallStatus.Nop.byte then
          .ok (.done ⟨.Err, text "Not ready"⟩ (rpc.checksum + 1))
        else .ok (.done ⟨.Err, text "unknown error"⟩ (rpc.checksum + 1))
      else .ok (.done ⟨.Err, text "Fatal checksum error"⟩ rpc.checksum) := by
  obtain ⟨m, decoded, second⟩ := reply.decodes
  rw [SRpc.judge, decoded]
  dsimp only
  by_cases dummy : header.dummy = 0
  · have plain : ¬ header.dummy ≠ 0 := fun differs => differs dummy
    rw [if_neg plain, if_neg plain]
    cases result with
    | none =>
      simp only [second, value_none, Bind.bind, Except.bind, Option.elim_none]
    | some data =>
      simp only [second, value_some, Bind.bind, Except.bind, Option.elim_some]
  · rw [if_pos dummy, if_pos dummy, if_neg (by decide)]

theorem IsReply.accepted_iff {d : ByteBuffer} {header : SReplyHeader} {result : Option ByteBuffer}
    (reply : IsReply d header result) (rpc : SRpc) (data : ByteBuffer) (checksum : U64) :
    rpc.judge false (recvBuffer d) = .ok (.done ⟨.Ok, data⟩ checksum) ↔
      header.dummy = 0 ∧ header.checksum = rpc.checksum ∧ header.callstatus = CallStatus.Ok.byte ∧
        result = some data ∧ checksum = rpc.checksum + 1 := by
  rw [reply.judge rpc]
  by_cases dummy : header.dummy = 0
  · have plain : ¬ header.dummy ≠ 0 := fun differs => differs dummy
    rw [if_neg plain]
    by_cases same : header.checksum = rpc.checksum
    · rw [if_pos same]
      by_cases ok : header.callstatus = CallStatus.Ok.byte
      · rw [if_pos ok]
        cases result with
        | none =>
          simp only [Option.elim_none, decodeError, Except.ok.injEq, Verdict.done.injEq, Result.mk.injEq,
            reduceCtorEq, false_and, and_false]
        | some found =>
          simp only [Option.elim_some, Except.ok.injEq, Verdict.done.injEq, Result.mk.injEq, true_and, dummy, same, ok,
            Option.some.injEq]
          exact and_congr_right fun _ => eq_comm
      · rw [if_neg ok]
        split
        · simp only [Except.ok.injEq, Verdict.done.injEq, Result.mk.injEq, reduceCtorEq, false_and, ok, and_false]
        · simp only [Except.ok.injEq, Verdict.done.injEq, Result.mk.injEq, reduceCtorEq, false_and, ok, and_false]
    · rw [if_neg same]
      simp only [Except.ok.injEq, Verdict.done.injEq, Result.mk.injEq, reduceCtorEq, false_and, same, and_false]
  · rw [if_pos dummy]
    simp only [Except.ok.injEq, reduceCtorEq, dummy, false_and]

theorem receiveReply_ok (rpc client : SRpc) (arrivals rest : List Arrival) (data : ByteBuffer)
    (received : rpc.receiveReply false arrivals = .ok (⟨.Ok, data⟩, client, rest)) :
    ∃ before d, arrivals = before ++ .datagram d :: rest ∧
      rpc.judge false (recvBuffer d) = .ok (.done ⟨.Ok, data⟩ client.checksum) := by
  induction arrivals with
  | nil => cases received
  | cons arrival others ih =>
    cases arrival with
    | failure code failed =>
      simp only [SRpc.receiveReply, Except.ok.injEq, Prod.mk.injEq, Result.mk.injEq] at received
      exact absurd received.1.1 failed
    | datagram d =>
      cases verdict : rpc.judge false (recvBuffer d) with
      | error e =>
        simp only [SRpc.receiveReply, SRpc.conclude, verdict, reduceCtorEq] at received
      | ok verdict' =>
        cases verdict' with
        | retry =>
          simp only [SRpc.receiveReply, SRpc.conclude, verdict] at received
          obtain ⟨before, d', split, judged⟩ := ih received
          exact ⟨.datagram d :: before, d', by rw [split, List.cons_append], judged⟩
        | done res checksum =>
          simp only [SRpc.receiveReply, SRpc.conclude, verdict, Except.ok.injEq, Prod.mk.injEq] at received
          obtain ⟨rfl, rfl, rfl⟩ := received
          exact ⟨[], d, rfl, verdict⟩

variable {σ : Type}

theorem serve_call (growth : StringGrowth) (handlers : RegisteredHandlers σ) (msg : ByteBuffer) (s server : σ)
    (id : U8) (checksum : U64) (parameter : ByteBuffer) (served : Served)
    (made : request msg = .ok (.call id checksum parameter))
    (done : serve growth handlers msg s = (.ok served, server)) :
    ∃ header result, IsReply served.reply header result ∧ header.checksum = checksum ∧
      ∀ data, (header.dummy = 0 ∧ header.callstatus = CallStatus.Ok.byte ∧ result = some data) ↔
        ((RPCFactory.callOne handlers id parameter s).1 = .ok data ∧ id ≠ HeartBeat ∧ data.length ≤ 4053) := by
  have nop := bareReply_sends growth ⟨CallStatus.Nop.byte, checksum, 0⟩
  have nothing : IsReply (encode [dump SReplyHeader.format ⟨CallStatus.Nop.byte, checksum, 0⟩])
      ⟨CallStatus.Nop.byte, checksum, 0⟩ none := ⟨rfl, by simp⟩
  rcases outcome : RPCFactory.callOne handlers id parameter s with ⟨e | reply, s'⟩
  · cases e with
    | exception =>
      simp only [serve, made, outcome, nop] at done
      cases done
      exact ⟨_, _, nothing, rfl, by simp⟩
    | abort =>
      simp only [serve, made, outcome] at done
      cases done
    | overread =>
      simp only [serve, made, outcome] at done
      cases done
    | badIterator =>
      simp only [serve, made, outcome] at done
      cases done
  · let header : SReplyHeader := ⟨CallStatus.Ok.byte, checksum, if id = HeartBeat then 1 else 0⟩
    have dummy : header.dummy = 0 ↔ id ≠ HeartBeat := by
      by_cases beat : id = HeartBeat
      · simp [header, beat]
      · simp [header, beat]
    have body : (serve growth handlers msg s).1 =
        (Served.mk (some (id, parameter))) <$> catching (codedReply growth header reply)
          (bareReply growth ⟨CallStatus.Nop.byte, checksum, 0⟩) := by
      simp only [serve, made, outcome, header]
    rw [done] at body
    by_cases short : reply.length ≤ 4053
    · rw [codedReply_sends growth header reply short] at body
      cases body
      refine ⟨header, some reply, ⟨rfl, fun data same => by cases same; exact short⟩, rfl, ?_⟩
      intro data
      simp only [dummy, header, true_and, Option.some.injEq, Except.ok.injEq]
      constructor
      · rintro ⟨plain, rfl⟩
        exact ⟨rfl, plain, short⟩
      · rintro ⟨rfl, plain, _⟩
        exact ⟨plain, rfl⟩
    · have unfit : ∀ data, ¬
          (Except.ok reply = (.ok data : Except Exit ByteBuffer) ∧ id ≠ HeartBeat ∧ data.length ≤ 4053) := by
        intro data ⟨same, _, fits⟩
        cases same
        exact short fits
      rcases codedReply_long growth header reply (by omega) with refused | sent
      · rw [refused, catching, nop] at body
        cases body
        exact ⟨_, _, nothing, rfl, fun data => ⟨fun sent => absurd sent.2.2 (Option.some_ne_none _).symm,
          fun fits => absurd fits (unfit data)⟩⟩
      · rw [sent] at body
        cases body
        exact ⟨header, none, ⟨rfl, by simp⟩, rfl,
          fun data => ⟨fun sent => absurd sent.2.2 (Option.some_ne_none _).symm, fun fits => absurd fits (unfit data)⟩⟩

end Replies

namespace RpcNetwork

variable {σ : Type}

/-- The server's handler returned for the call, and with a result that a reply can hold. -/
structure Answered (handlers : RegisteredHandlers σ) (r : SentReply) (issued : Issued) (data : ByteBuffer) : Prop where
  handled : r.handled = some (issued.id, issued.parameter, .ok data)
  handler : ∃ s, (RPCFactory.callOne handlers issued.id issued.parameter s).1 = .ok data
  plain : issued.id ≠ HeartBeat
  short : data.length ≤ 4053

/-- Every datagram in flight belongs to a call the client made. -/
structure Sound (handlers : RegisteredHandlers σ) (net : RpcNetwork σ) : Prop where
  requests : ∀ sent ∈ net.requests, ∃ issued, net.calls[sent.call]? = some issued ∧
    issued.parameter.length ≤ 4054 ∧
    sent.datagram = encode [dump SRpcHeader.format ⟨issued.id, issued.checksum⟩, issued.parameter]
  replies : ∀ r ∈ net.replies, ∃ issued header result, net.calls[r.call]? = some issued ∧
    IsReply r.datagram header result ∧ header.checksum = issued.checksum ∧
    ∀ data, (header.dummy = 0 ∧ header.callstatus = CallStatus.Ok.byte ∧ result = some data) ↔
      Answered handlers r issued data

theorem start_sound (handlers : RegisteredHandlers σ) (server : σ) (channel : RecvChannel Unit) :
    (start server channel).Sound handlers where
  requests := fun _ member => nomatch member
  replies := fun _ member => nomatch member

theorem Sound.call {handlers : RegisteredHandlers σ} {net : RpcNetwork σ} (sound : net.Sound handlers)
    (issued : Issued) : Sound handlers { net with calls := net.calls ++ [issued] } where
  requests := by
    intro sent member
    obtain ⟨issued', found, rest⟩ := sound.requests sent member
    have inside := (List.getElem?_eq_some_iff.mp found).1
    exact ⟨issued', by rw [List.getElem?_append_left inside]; exact found, rest⟩
  replies := by
    intro r member
    obtain ⟨issued', header, result, found, rest⟩ := sound.replies r member
    have inside := (List.getElem?_eq_some_iff.mp found).1
    exact ⟨issued', header, result, by rw [List.getElem?_append_left inside]; exact found, rest⟩

theorem Sound.send {handlers : RegisteredHandlers σ} {net : RpcNetwork σ} (sound : net.Sound handlers)
    (sent : SentRequest) (issued : Issued) (found : net.calls[sent.call]? = some issued)
    (short : issued.parameter.length ≤ 4054)
    (datagram : sent.datagram = encode [dump SRpcHeader.format ⟨issued.id, issued.checksum⟩, issued.parameter]) :
    Sound handlers { net with requests := net.requests ++ [sent] } where
  requests := by
    intro sent' member
    rcases List.mem_append.mp member with earlier | now
    · exact sound.requests sent' earlier
    · cases List.mem_singleton.mp now
      exact ⟨issued, found, short, datagram⟩
  replies := sound.replies

theorem Sound.serve {handlers : RegisteredHandlers σ} {net : RpcNetwork σ} (sound : net.Sound handlers)
    (growth : StringGrowth) (sent : SentRequest) (member : sent ∈ net.requests) (served : Served) (server : σ)
    (channel channel' : RecvChannel Unit) (received : channel = net.channel.tryRecv (.datagram () sent.datagram))
    (done : SRpcHandler.serve growth handlers channel.curMsg net.server = (.ok served, server)) :
    Sound handlers { net with
      replies := net.replies ++ [⟨sent.call, served.reply, handledBy handlers channel.curMsg net.server⟩]
      server := server
      channel := channel' } where
  requests := sound.requests
  replies := by
    intro r member'
    rcases List.mem_append.mp member' with earlier | now
    · exact sound.replies r earlier
    · cases List.mem_singleton.mp now
      obtain ⟨issued, found, short, datagram⟩ := sound.requests sent member
      have made : request channel.curMsg = .ok (.call issued.id issued.checksum issued.parameter) := by
        rw [received, RecvChannel.tryRecv, datagram]
        exact request_encode ⟨issued.id, issued.checksum⟩ issued.parameter net.channel.curMsg short net.channel.full
      obtain ⟨header, result, reply, checksum, answers⟩ := serve_call growth handlers _ _ _ _ _ _ _ made done
      refine ⟨issued, header, result, found, reply, checksum, ?_⟩
      intro data
      rw [answers]
      have handled : handledBy handlers channel.curMsg net.server =
          some (issued.id, issued.parameter,
            (RPCFactory.callOne handlers issued.id issued.parameter net.server).1) := by
        rw [handledBy, made]
      constructor
      · rintro ⟨returned, plain, fits⟩
        exact ⟨by rw [handled, returned], ⟨net.server, returned⟩, plain, fits⟩
      · intro answered
        have same := answered.handled
        rw [handled] at same
        simp only [Option.some.injEq, Prod.mk.injEq, true_and] at same
        exact ⟨same, answered.plain, answered.short⟩

theorem step_serve (growth : StringGrowth) {handlers : RegisteredHandlers σ} (net : RpcNetwork σ) (index : Nat)
    (sent : SentRequest) {served : Served} {server : σ} (found : net.requests[index]? = some sent)
    (done : serve growth handlers (net.channel.tryRecv (.datagram () sent.datagram)).curMsg net.server =
      (.ok served, server)) :
    step growth handlers net (.serve index) = some { net with
      replies := net.replies ++ [⟨sent.call, served.reply,
        handledBy handlers (net.channel.tryRecv (.datagram () sent.datagram)).curMsg net.server⟩]
      server := server
      channel := (net.channel.tryRecv (.datagram () sent.datagram)).reset } := by
  simp only [step, found, done]

theorem sound_step (growth : StringGrowth) (handlers : RegisteredHandlers σ) :
    Preserves (step growth handlers) (Sound handlers) := by
  intro net event next sound happens
  cases event with
  | call id parameter sent =>
    simp only [step] at happens
    cases called : net.client.call growth sent id parameter with
    | error e =>
      rw [called] at happens
      cases happens
    | ok outcome =>
      obtain ⟨res, datagram⟩ := outcome
      have issued := sound.call ⟨id, parameter, net.client.checksum⟩
      rw [called] at happens
      cases datagram with
      | none =>
        cases happens
        exact issued
      | some d =>
        obtain ⟨short, bytes⟩ := call_sent called
        dsimp only at happens
        by_cases transmitted : sent.code = .Ok
        · rw [if_pos transmitted] at happens
          cases happens
          exact issued.send ⟨net.calls.length, d⟩ ⟨id, parameter, net.client.checksum⟩ List.getElem?_concat_length short
            bytes
        · rw [if_neg transmitted] at happens
          cases happens
          exact issued
  | serve index =>
    simp only [step] at happens
    cases found : net.requests[index]? with
    | none =>
      rw [found] at happens
      cases happens
    | some sent =>
      rw [found] at happens
      dsimp only at happens
      have member := List.mem_of_getElem? found
      rcases done : serve growth handlers (net.channel.tryRecv (.datagram () sent.datagram)).curMsg net.server with
        ⟨e | served, server⟩
      · rw [done] at happens
        cases happens
      · rw [done] at happens
        cases happens
        exact sound.serve growth sent member served server _ _ rfl done
  | receive heartbeat deliveries =>
    simp only [step] at happens
    cases received : net.client.receiveReply heartbeat ((net.delivered deliveries).map Delivered.arrival) with
    | error e =>
      rw [received] at happens
      cases happens
    | ok outcome =>
      rw [received] at happens
      cases happens
      exact ⟨sound.requests, sound.replies⟩

/-- Data that `receive_reply` returns on these deliveries is what the handler made of the latest call. -/
def Matched (handlers : RegisteredHandlers σ) (net : RpcNetwork σ) (deliveries : List Delivery) : Prop :=
  ∀ data client rest,
    net.client.receiveReply false ((net.delivered deliveries).map Delivered.arrival) = .ok (⟨.Ok, data⟩, client, rest) →
    ∃ before r after issued, net.delivered deliveries = before ++ .reply r :: after ∧
      rest = after.map Delivered.arrival ∧ r.call + 1 = net.calls.length ∧ net.calls[r.call]? = some issued ∧
      Answered handlers r issued data

/-- No call but the latest was answered with the checksum the client still holds. -/
def Fresh (handlers : RegisteredHandlers σ) (net : RpcNetwork σ) : Prop :=
  ∀ r ∈ net.replies, ∀ issued data, net.calls[r.call]? = some issued → Answered handlers r issued data →
    issued.checksum = net.client.checksum → r.call + 1 = net.calls.length

theorem delivered_mem {net : RpcNetwork σ} {deliveries : List Delivery} {r : SentReply}
    (member : Delivered.reply r ∈ net.delivered deliveries) : r ∈ net.replies := by
  obtain ⟨delivery, _, is⟩ := List.mem_filterMap.mp member
  cases delivery with
  | reply index =>
    cases found : net.replies[index]? with
    | none =>
      simp only [found] at is
      cases is
    | some r' =>
      simp only [found] at is
      cases is
      exact List.mem_of_getElem? found
  | failure code failed => cases is

/-- Whatever is delivered, the client takes a reply to its latest call, provided no other was answered
with its checksum. -/
theorem Sound.matched {handlers : RegisteredHandlers σ} {net : RpcNetwork σ} (sound : net.Sound handlers)
    (fresh : net.Fresh handlers) (deliveries : List Delivery) : net.Matched handlers deliveries := by
  intro data client rest received
  obtain ⟨before, d, split, judged⟩ := receiveReply_ok _ _ _ _ _ received
  obtain ⟨before', suffix, split', _, tail⟩ := List.map_eq_append_iff.mp split
  obtain ⟨taken, after, rfl, arrival, rfl⟩ := List.map_eq_cons_iff.mp tail
  cases taken with
  | failure code failed => cases arrival
  | reply r =>
    cases arrival
    have member : r ∈ net.replies := delivered_mem (by rw [split']; simp)
    obtain ⟨issued, header, result, found, reply, checksum, answers⟩ := sound.replies r member
    obtain ⟨dummy, same, status, held, _⟩ := (reply.accepted_iff _ _ _).mp judged
    have answered := (answers data).mp ⟨dummy, status, held⟩
    have latest := fresh r member issued data found answered (checksum.symm.trans same)
    exact ⟨before', r, after, issued, split', rfl, latest, found, answered⟩

theorem delivered_reply {net : RpcNetwork σ} {index : Nat} {r : SentReply} (at' : net.replies[index]? = some r) :
    net.delivered [.reply index] = [.reply r] := by
  simp only [RpcNetwork.delivered, List.filterMap_cons, at', Option.map_eq_map, Option.map_some, List.filterMap_nil]

/-- A reply to a call with the checksum the client holds is accepted, be it the latest call or not. -/
theorem Sound.accepts {handlers : RegisteredHandlers σ} {net : RpcNetwork σ} (sound : net.Sound handlers)
    {index : Nat} {r : SentReply} (at' : net.replies[index]? = some r) {issued : Issued} {data : ByteBuffer}
    (found : net.calls[r.call]? = some issued) (answered : Answered handlers r issued data)
    (checksum : issued.checksum = net.client.checksum) :
    net.client.receiveReply false ((net.delivered [.reply index]).map Delivered.arrival) =
      .ok (⟨.Ok, data⟩, ⟨net.client.checksum + 1⟩, []) := by
  obtain ⟨issued', header, result, found', reply, checksum', answers⟩ := sound.replies r (List.mem_of_getElem? at')
  rw [found] at found'
  cases found'
  obtain ⟨dummy, status, held⟩ := (answers data).mpr answered
  have judged := (reply.accepted_iff net.client data (net.client.checksum + 1)).mpr
    ⟨dummy, checksum'.trans checksum, status, held, rfl⟩
  simp only [delivered_reply at', List.map_cons, List.map_nil, Delivered.arrival, SRpc.receiveReply, judged,
    SRpc.conclude]

theorem Sound.latest_of_matched {handlers : RegisteredHandlers σ} {net : RpcNetwork σ} (sound : net.Sound handlers)
    {index : Nat} {r : SentReply} (at' : net.replies[index]? = some r) {issued : Issued} {data : ByteBuffer}
    (found : net.calls[r.call]? = some issued) (answered : Answered handlers r issued data)
    (checksum : issued.checksum = net.client.checksum) (matched : net.Matched handlers [.reply index]) :
    r.call + 1 = net.calls.length := by
  obtain ⟨before, r', after, _, split, _, latest, _⟩ := matched data _ _ (sound.accepts at' found answered checksum)
  rw [delivered_reply at'] at split
  cases before with
  | nil =>
    cases split
    exact latest
  | cons first others =>
    exfalso
    have lengths := congrArg List.length split
    simp only [List.cons_append, List.length_cons, List.length_append, List.length_nil] at lengths
    omega

theorem Sound.fresh {handlers : RegisteredHandlers σ} {net : RpcNetwork σ} (sound : net.Sound handlers)
    (matched : ∀ deliveries, net.Matched handlers deliveries) : net.Fresh handlers := by
  intro r member issued data found answered checksum
  obtain ⟨index, at'⟩ := List.mem_iff_getElem?.mp member
  exact sound.latest_of_matched at' found answered checksum (matched [.reply index])

/-- In every run a `receive_reply` that finds no earlier call answered with its checksum returns the
    result of the latest call; in a reached state where one was, some deliveries make it return that. -/
theorem reply_matching (growth : StringGrowth) (handlers : RegisteredHandlers σ) (server : σ)
    (channel : RecvChannel Unit) (events : List RpcEvent) :
    (Along (step growth handlers)
        (fun net event => ∀ deliveries, event = .receive false deliveries → net.Fresh handlers)
        (start server channel) events →
      Along (step growth handlers)
        (fun net event => ∀ deliveries, event = .receive false deliveries → net.Matched handlers deliveries)
        (start server channel) events) ∧
    ∀ net, run (step growth handlers) (start server channel) events = some net →
      ((∀ deliveries, net.Matched handlers deliveries) ↔ net.Fresh handlers) := by
  have preserved := sound_step growth handlers
  have initial := start_sound handlers server channel
  constructor
  · apply preserved.along _ initial
    intro net event _ sound _ fresh deliveries is
    exact sound.matched (fresh deliveries is) deliveries
  · intro net ran
    have sound := preserved.run initial ran
    exact ⟨sound.fresh, sound.matched⟩

def echo : RegisteredHandlers Unit := fun _ => some fun parameter s => (.ok parameter, s)

def echoCalled : RpcNetwork Unit :=
  { calls := [⟨3, [1], 1⟩], requests := [⟨0, encode [dump SRpcHeader.format ⟨3, 1⟩, [1]]⟩], server := ()
    channel := RecvChannel.create }

def echoReply : SentReply :=
  ⟨0, encode [dump SReplyHeader.format ⟨CallStatus.Ok.byte, 1, 0⟩, [1]], some (3, [1], .ok [1])⟩

def echoServed : RpcNetwork Unit :=
  let received := echoCalled.channel.tryRecv (.datagram () (encode [dump SRpcHeader.format ⟨3, 1⟩, [1]]))
  { echoCalled with replies := [echoReply], channel := received.reset }

theorem echo_call :
    step libstdcxx echo (start () RecvChannel.create) (.call 3 [1] ⟨.Ok, []⟩) = some echoCalled := by
  simp only [step, call_sends libstdcxx _ _ 3 [1] (by decide)]
  rfl

theorem echo_serve : step libstdcxx echo echoCalled (.serve 0) = some echoServed := by
  let channel : RecvChannel Unit := RecvChannel.create
  let received := channel.tryRecv (.datagram () (encode [dump SRpcHeader.format ⟨3, 1⟩, [1]]))
  have made : request received.curMsg = .ok (.call 3 1 [1]) :=
    request_encode ⟨3, 1⟩ [1] channel.curMsg (by decide) channel.full
  have sent := codedReply_sends libstdcxx ⟨CallStatus.Ok.byte, 1, 0⟩ [1] (by decide)
  have done : serve libstdcxx echo received.curMsg () = (.ok ⟨some (3, [1]), echoReply.datagram⟩, ()) := by
    simp only [serve, made, RPCFactory.callOne, echo]
    change ((Served.mk (some (3, [1]))) <$> catching (codedReply libstdcxx ⟨CallStatus.Ok.byte, 1, 0⟩ [1]) _, ()) = _
    rw [sent]
    rfl
  have handled : handledBy echo received.curMsg () = some (3, [1], .ok [1]) := by
    rw [handledBy, made]
    rfl
  have stepped := step_serve libstdcxx echoCalled 0 ⟨0, encode [dump SRpcHeader.format ⟨3, 1⟩, [1]]⟩ rfl done
  rw [stepped]
  exact congrArg (fun handled => some { echoCalled with
    replies := [(⟨0, echoReply.datagram, handled⟩ : SentReply)], channel := received.reset }) handled

theorem echo_answered : Answered echo echoReply ⟨3, [1], 1⟩ [1] :=
  ⟨rfl, ⟨(), rfl⟩, by decide, by decide⟩

/-- The echoed parameter is received as the answer to the call. -/
theorem reply_matching_first :
    run (step libstdcxx echo) (start () RecvChannel.create) [.call 3 [1] ⟨.Ok, []⟩, .serve 0] = some echoServed ∧
    echoServed.client.receiveReply false ((echoServed.delivered [.reply 0]).map Delivered.arrival) =
      .ok (⟨.Ok, [1]⟩, ⟨2⟩, []) ∧
    Along (step libstdcxx echo)
      (fun net event => ∀ deliveries, event = .receive false deliveries → net.Matched echo deliveries)
      (start () RecvChannel.create) [.call 3 [1] ⟨.Ok, []⟩, .serve 0, .receive false [.reply 0]] := by
  have stopped : run (step libstdcxx echo) echoServed [] = some echoServed := rfl
  have ran := run_cons echo_call (run_cons echo_serve stopped)
  have sound : echoServed.Sound echo :=
    (sound_step libstdcxx echo).run (start_sound echo () RecvChannel.create) ran
  have fresh : echoServed.Fresh echo := by
    intro r member issued data found answered checksum
    cases List.mem_singleton.mp member
    rfl
  refine ⟨ran, sound.accepts (r := echoReply) rfl rfl echo_answered rfl, ?_⟩
  apply (reply_matching libstdcxx echo () RecvChannel.create _).1
  intro called calls
  cases echo_call.symm.trans calls
  constructor
  · intro deliveries is
    cases is
  intro served serves
  cases echo_serve.symm.trans serves
  constructor
  · intro deliveries is
    cases is
  intro received receives
  exact ⟨fun _ _ => fresh, trivial⟩

/-- The client calls, times out and calls again; the answer to the first call is taken for the second's. -/
theorem late_reply_accepted : ∃ net, run (step libstdcxx echo) (start () RecvChannel.create)
    [.call 3 [1] ⟨.Ok, []⟩, .receive false [], .serve 0, .call 3 [2] ⟨.Ok, []⟩] = some net ∧
      ¬ net.Matched echo [.reply 0] := by
  let second := encode [dump SRpcHeader.format ⟨3, 1⟩, [2]]
  let net : RpcNetwork Unit :=
    { echoServed with
      calls := [⟨3, [1], 1⟩, ⟨3, [2], 1⟩], requests := echoCalled.requests ++ [⟨1, second⟩] }
  have timeout : step libstdcxx echo echoCalled (.receive false []) = some echoCalled := rfl
  have again : step libstdcxx echo echoServed (.call 3 [2] ⟨.Ok, []⟩) = some net := by
    simp only [step, call_sends libstdcxx _ _ 3 [2] (by decide)]
    rfl
  have stopped : run (step libstdcxx echo) net [] = some net := rfl
  have ran := run_cons echo_call (run_cons timeout (run_cons echo_serve (run_cons again stopped)))
  refine ⟨net, ran, ?_⟩
  · intro matched
    have sound : net.Sound echo :=
      (sound_step libstdcxx echo).run (start_sound echo () RecvChannel.create) ran
    have latest := sound.latest_of_matched (r := echoReply) rfl rfl echo_answered rfl matched
    exact absurd latest (by decide)

end RpcNetwork

end RLib.Bootstrap
