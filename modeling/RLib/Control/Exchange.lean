import RLib.Bootstrap.Answering
import RLib.ConnectManager

namespace RLib

open Bytes Bootstrap SRpcHandler

variable {σ : Type}

structure ServerEnd.Waits (peer : ServerEnd σ) : Prop where
  running : peer.halted = none
  idle : peer.channel.curMsgClient = none

/-- What a handler's outcome is to the client that called it. -/
def answerTo : Except Exit ByteBuffer → Result ByteBuffer
  | .ok reply => ⟨.Ok, reply⟩
  | .error .exception => ⟨.Err, text "Not ready"⟩
  | .error _ => ⟨.Timeout, []⟩

def haltedBy : Except Exit ByteBuffer → Option Exit
  | .ok _ => none
  | .error .exception => none
  | .error e => some e

theorem answerTo_halts {e : Exit} (halts : e ≠ .exception) : answerTo (.error e) = ⟨.Timeout, []⟩ := by
  cases e with
  | exception => exact absurd rfl halts
  | abort => rfl
  | overread => rfl
  | badIterator => rfl

theorem haltedBy_halts {e : Exit} (halts : e ≠ .exception) : haltedBy (.error e) = some e := by
  cases e with
  | exception => exact absurd rfl halts
  | abort => rfl
  | overread => rfl
  | badIterator => rfl

theorem serve_outcome (growth : StringGrowth) (handlers : RegisteredHandlers σ) {msg : ByteBuffer} {s : σ} {id : U8}
    {checksum : U64} {parameter : ByteBuffer} (made : request msg = .ok (.call id checksum parameter))
    (plain : id ≠ HeartBeat)
    (short : ∀ reply, (RPCFactory.callOne handlers id parameter s).1 = .ok reply → reply.length ≤ 4053) :
    match RPCFactory.callOne handlers id parameter s with
    | (.ok reply, s') => ∃ served, serve growth handlers msg s = (.ok served, s') ∧
        IsReply served.reply ⟨CallStatus.Ok.byte, checksum, 0⟩ (some reply)
    | (.error .exception, s') => ∃ served, serve growth handlers msg s = (.ok served, s') ∧
        IsReply served.reply ⟨CallStatus.Nop.byte, checksum, 0⟩ none
    | (.error e, s') => serve growth handlers msg s = (.error e, s') := by
  rcases outcome : RPCFactory.callOne handlers id parameter s with ⟨e | reply, s'⟩
  · cases e with
    | exception =>
      have sent := bareReply_sends growth ⟨CallStatus.Nop.byte, checksum, 0⟩
      refine ⟨⟨some (id, parameter), _⟩, ?_, rfl, nofun⟩
      simp only [serve, made, outcome, sent]
      rfl
    | abort => simp only [serve, made, outcome]
    | overread => simp only [serve, made, outcome]
    | badIterator => simp only [serve, made, outcome]
  · have fits : reply.length ≤ 4053 := short reply (by rw [outcome])
    have sent := codedReply_sends growth ⟨CallStatus.Ok.byte, checksum, 0⟩ reply fits
    refine ⟨⟨some (id, parameter), _⟩, ?_, rfl, fun data same => by cases same; exact fits⟩
    simp only [serve, made, outcome, plain, ↓reduceIte, sent, catching]
    rfl

section Delivery

variable (growth : StringGrowth) {handlers : RegisteredHandlers σ} {peer : ServerEnd σ}

theorem exactlyOnce_replied (waits : peer.Waits) {d : ByteBuffer} {served : Served} {s' : σ}
    (done : serve growth handlers (overlay d peer.channel.curMsg) peer.server = (.ok served, s')) :
    exactlyOnce growth handlers d peer =
      (⟨.Ok, []⟩, [.datagram served.reply],
        { channel := (peer.channel.tryRecv (.datagram () d)).reset, server := s', halted := none,
          requests := d :: peer.requests }) := by
  have run : runOneEventLoop growth handlers peer.channel peer.server [.datagram () d] =
      ⟨[((), served)], (peer.channel.tryRecv (.datagram () d)).reset, s', none⟩ := by
    rw [runOneEventLoop_cons growth waits.idle, done]
    simp only
    rw [runOneEventLoop_idle growth rfl]
    rfl
  simp only [exactlyOnce, waits.running, Option.isSome_none, Bool.false_eq_true, ↓reduceIte, run, List.map_cons,
    List.map_nil]

theorem exactlyOnce_halts (waits : peer.Waits) {d : ByteBuffer} {e : Exit} {s' : σ}
    (done : serve growth handlers (overlay d peer.channel.curMsg) peer.server = (.error e, s')) :
    exactlyOnce growth handlers d peer =
      (⟨.Ok, []⟩, [],
        { channel := peer.channel.tryRecv (.datagram () d), server := s', halted := some e,
          requests := d :: peer.requests }) := by
  have run : runOneEventLoop growth handlers peer.channel peer.server [.datagram () d] =
      ⟨[], peer.channel.tryRecv (.datagram () d), s', some e⟩ := by
    rw [runOneEventLoop_cons growth waits.idle, done]
  simp only [exactlyOnce, waits.running, Option.isSome_none, Bool.false_eq_true, ↓reduceIte, run, List.map_nil]

end Delivery

namespace ConnectManager

section Replies

variable {ω : Type} (growth : StringGrowth) (net : Network ω) (cm : ConnectManager ω) (id : U8) (parameter : ByteBuffer)

/-- The call goes out, and this is what `receive_reply` gives for it. -/
def Replied (resReply : Result ByteBuffer) : Prop :=
  ∃ res sent, cm.call growth net id parameter = (.ok res, sent) ∧ res.code = .Ok ∧ sent.receiveReply.1 = .ok resReply

/-- The reply that is taken for the one to this call is what the handlers answer to it in state `s`, which leaves
    them in `s'`; a late reply to an earlier call is not. -/
def Answered (handlers : RegisteredHandlers σ) (s s' : σ) : Prop :=
  ∃ reply, cm.Replied growth net id parameter ⟨.Ok, reply⟩ ∧
    RPCFactory.callOne handlers id parameter s = (.ok reply, s')

end Replies

variable (growth : StringGrowth) (handlers : RegisteredHandlers σ)

theorem receiveReply_judged {cm : ConnectManager (ServerEnd σ)} {d : ByteBuffer} {res : Result ByteBuffer}
    {checksum : U64}
    (arrived : cm.arrived = [.datagram d])
    (judged : cm.rpc.judge false (recvBuffer d) = .ok (.done res checksum)) :
    cm.receiveReply = (.ok res, { cm with rpc := { checksum := checksum }, arrived := [] }) := by
  simp only [receiveReply, arrived, SRpc.receiveReply, judged, SRpc.conclude]

/-- A call that reaches a waiting server and its reply: the client gets what the handler's outcome is to it, and is
    in step with the server again. -/
theorem call_answered {cm : ConnectManager (ServerEnd σ)} (waits : cm.peer.Waits) (empty : cm.arrived = []) (id : U8)
    (parameter : ByteBuffer) (plain : id ≠ HeartBeat) (brief : parameter.length ≤ 4054)
    (short : ∀ reply, (RPCFactory.callOne handlers id parameter cm.peer.server).1 = .ok reply → reply.length ≤ 4053) :
    let outcome := RPCFactory.callOne handlers id parameter cm.peer.server
    ∃ sent cm', cm.call growth (exactlyOnce growth handlers) id parameter = (.ok ⟨.Ok, []⟩, sent) ∧
      sent.receiveReply = (.ok (answerTo outcome.1), cm') ∧ cm'.peer.server = outcome.2 ∧ cm'.arrived = [] ∧
      cm'.peer.halted = haltedBy outcome.1 ∧ (cm'.peer.halted = none → cm'.peer.channel.curMsgClient = none) ∧
      cm'.peer.requests.length = cm.peer.requests.length + 1 := by
  have sends := call_sends growth cm.rpc ⟨.Ok, []⟩ id parameter brief
  generalize datagram : encode [dump SRpcHeader.format ⟨id, cm.rpc.checksum⟩, parameter] = d at sends
  have made : request (overlay d cm.peer.channel.curMsg) = .ok (.call id cm.rpc.checksum parameter) := by
    rw [← datagram]
    exact request_encode ⟨id, cm.rpc.checksum⟩ parameter cm.peer.channel.curMsg brief cm.peer.channel.full
  have served := serve_outcome growth handlers made plain short
  have called : ∀ arrivals peer, exactlyOnce growth handlers d cm.peer = (⟨.Ok, []⟩, arrivals, peer) →
      cm.call growth (exactlyOnce growth handlers) id parameter =
        (.ok ⟨.Ok, []⟩, { cm with arrived := arrivals, peer := peer }) := by
    intro arrivals peer delivered
    simp only [call, sends, delivered, empty, List.nil_append]
  have halts : ∀ e s', serve growth handlers (overlay d cm.peer.channel.curMsg) cm.peer.server = (.error e, s') →
      ∃ sent cm', cm.call growth (exactlyOnce growth handlers) id parameter = (.ok ⟨.Ok, []⟩, sent) ∧
        sent.receiveReply = (.ok ⟨.Timeout, []⟩, cm') ∧ cm'.peer.server = s' ∧ cm'.arrived = [] ∧
        cm'.peer.halted = some e ∧ (cm'.peer.halted = none → cm'.peer.channel.curMsgClient = none) ∧
        cm'.peer.requests.length = cm.peer.requests.length + 1 :=
    fun e s' done => ⟨_, _, called _ _ (exactlyOnce_halts growth waits done), rfl, rfl, rfl, rfl, nofun, rfl⟩
  have zero : ¬(0 : U8) ≠ 0 := by decide
  simp only
  rcases outcome : RPCFactory.callOne handlers id parameter cm.peer.server with ⟨e | reply, s'⟩
  · rw [outcome] at served
    cases e with
    | exception =>
      obtain ⟨served, done, isReply⟩ := served
      have judged := isReply.judge cm.rpc
      rw [if_neg zero, if_pos rfl, if_neg (show ¬CallStatus.Nop.byte = CallStatus.Ok.byte by decide),
        if_pos rfl] at judged
      exact ⟨_, _, called _ _ (exactlyOnce_replied growth waits done), receiveReply_judged rfl judged, rfl, rfl, rfl,
        fun _ => rfl, rfl⟩
    | abort => exact halts .abort s' served
    | overread => exact halts .overread s' served
    | badIterator => exact halts .badIterator s' served
  · rw [outcome] at served
    obtain ⟨served, done, isReply⟩ := served
    have judged := isReply.judge cm.rpc
    rw [if_neg zero, if_pos rfl, if_pos rfl] at judged
    exact ⟨_, _, called _ _ (exactlyOnce_replied growth waits done), receiveReply_judged rfl judged, rfl, rfl, rfl,
      fun _ => rfl, rfl⟩

/-- A network that delivers each datagram once gives the call the server's own answer. -/
theorem exactlyOnce_answered {cm : ConnectManager (ServerEnd σ)} (waits : cm.peer.Waits) (empty : cm.arrived = [])
    {id : U8} {parameter reply : ByteBuffer} (plain : id ≠ HeartBeat) (brief : parameter.length ≤ 4054) {s' : σ}
    (outcome : RPCFactory.callOne handlers id parameter cm.peer.server = (.ok reply, s'))
    (short : reply.length ≤ 4053) :
    cm.Answered growth (exactlyOnce growth handlers) id parameter handlers cm.peer.server s' := by
  have answered := call_answered growth handlers waits empty id parameter plain brief
  rw [outcome] at answered
  obtain ⟨sent, _, called, received, _⟩ := answered fun data same => by
    cases same
    exact short
  exact ⟨reply, ⟨_, sent, called, rfl, by rw [received]; rfl⟩, outcome⟩

end ConnectManager

end RLib
