import RLib.Bootstrap.MultiMsg

namespace RLib.Bootstrap

open Bytes

inductive CallStatus where
  | Ok | Nop | WrongReply | NotMatch | FatalErr
deriving DecidableEq, Repr

def CallStatus.byte : CallStatus → U8
  | .Ok => 0
  | .Nop => 1
  | .WrongReply => 2
  | .NotMatch => 3
  | .FatalErr => 4

structure SRpcHeader where
  id : U8
  checksum : U64
deriving DecidableEq

def SRpcHeader.format : Codec SRpcHeader :=
  .record (.pair (.word 1) (.word 8)) (fun h => (h.id, h.checksum)) (fun p => ⟨p.1, p.2⟩)
    (fun _ => rfl) (fun _ => rfl)

structure SReplyHeader where
  callstatus : U8
  checksum : U64
  dummy : U8 := 0
deriving DecidableEq

def SReplyHeader.format : Codec SReplyHeader :=
  .record (.pair (.word 1) (.pair (.word 8) (.word 1))) (fun h => (h.callstatus, h.checksum, h.dummy))
    (fun p => ⟨p.1, p.2.1, p.2.2⟩) (fun _ => rfl) (fun _ => rfl)

def text (s : String) : ByteBuffer := s.toList.map (fun c => BitVec.ofNat 8 c.toNat)

abbrev MMsg := MultiMsg kMaxMsgSz

/-- `RDMA_ASSERT(mmsg.append(msg))`. -/
def assertAppend (growth : StringGrowth) (mmsg : MMsg) (msg : ByteBuffer) : Except Exit MMsg := do
  let appended ← mmsg.append growth msg
  if appended.1 then return appended.2 else throw .abort

def SRpc.invalidChecksum : U64 := 0

structure SRpc where
  checksum : U64 := SRpc.invalidChecksum + 1
deriving DecidableEq

/-- `SRpc::call`, with the datagram it hands to `channel->send` when it gets that far; `sent` is what
    the send reports. -/
def SRpc.call (growth : StringGrowth) (rpc : SRpc) (sent : Result ByteBuffer) (id : U8) (parameter : ByteBuffer) :
    Except Exit (Result ByteBuffer × Option ByteBuffer) :=
  match MultiMsg.createExact kMaxMsgSz growth (1 + parameter.length) with
  | some mmsg => do
    let mmsg ← assertAppend growth mmsg (dump SRpcHeader.format { id := id, checksum := rpc.checksum })
    let mmsg ← assertAppend growth mmsg parameter
    return (sent, some mmsg.buf.bytes)
  | none => .ok (⟨.Err, text "Msg too large!, only kMaxMsgSz supported"⟩, none)

/-- What one `channel->recv` can find: a datagram, or the code it fails with. -/
inductive Arrival where
  | datagram (d : ByteBuffer)
  | failure (code : IOCode) (failed : code ≠ .Ok)
deriving DecidableEq

/-- The zero-filled buffer of `SendChannel::recv` after a datagram was received into it. -/
def recvBuffer (d : ByteBuffer) : ByteBuffer := overlay d (List.replicate kMaxMsgSz 0)

inductive Verdict where
  | retry
  | done (res : Result ByteBuffer) (checksum : U64)
deriving DecidableEq

/-- The header of a reply, or an exception when it does not decode. -/
def decodeReply (buf : ByteBuffer) : Except Exit (MMsg × SReplyHeader) := do
  let decoded ← MultiMsg.createFrom kMaxMsgSz (HeapString.ofBytes buf)
  let reply ← value decoded
  let first ← reply.queryOne 0
  let bytes ← value first
  let header ← value (dedump SReplyHeader.format bytes)
  return (reply, header)

def decodeError (checksum : U64) : Except Exit Verdict := .ok (.done ⟨.Err, text "decode reply error"⟩ checksum)

/-- The try block of `receive_reply`; the checksum has already advanced when `query_one(1)` throws. -/
def SRpc.judge (rpc : SRpc) (heartbeat : Bool) (buf : ByteBuffer) : Except Exit Verdict :=
  match decodeReply buf with
  | .error .exception => decodeError rpc.checksum
  | .error e => .error e
  | .ok (reply, header) =>
    if header.dummy ≠ 0 then
      .ok (if heartbeat then .done ⟨.Ok, []⟩ rpc.checksum else .retry)
    else if header.checksum = rpc.checksum then
      if header.callstatus = CallStatus.Ok.byte then
        match (do value (← reply.queryOne 1)) with
        | .ok data => .ok (.done ⟨.Ok, data⟩ (rpc.checksum + 1))
        | .error .exception => decodeError (rpc.checksum + 1)
        | .error e => .error e
      else if header.callstatus = CallStatus.Nop.byte then
        .ok (.done ⟨.Err, text "Not ready"⟩ (rpc.checksum + 1))
      else
        .ok (.done ⟨.Err, text "unknown error"⟩ (rpc.checksum + 1))
    else
      .ok (.done ⟨.Err, text "Fatal checksum error"⟩ rpc.checksum)

/-- How a pass of `receive_reply` ends: by a return, or by the `retry`. -/
def SRpc.conclude (verdict : Except Exit Verdict) (rest : List Arrival)
    (retry : Except Exit (Result ByteBuffer × SRpc × List Arrival)) :
    Except Exit (Result ByteBuffer × SRpc × List Arrival) :=
  match verdict with
  | .error e => .error e
  | .ok .retry => retry
  | .ok (.done res checksum) => .ok (res, { checksum := checksum }, rest)

/-- `SRpc::receive_reply` over the arrivals its `recv` calls find: the result, the client after it and
    the arrivals left. Nothing more to arrive is a timeout. -/
def SRpc.receiveReply (rpc : SRpc) (heartbeat : Bool) :
    List Arrival → Except Exit (Result ByteBuffer × SRpc × List Arrival)
  | [] => .ok (⟨.Timeout, []⟩, rpc, [])
  | .failure code _ :: rest => .ok (⟨code, []⟩, rpc, rest)
  | .datagram d :: rest => conclude (rpc.judge heartbeat (recvBuffer d)) rest (rpc.receiveReply heartbeat rest)

/-- A registered handler: what it returns or how it is left, and the server state after it. -/
abbrev ReqHandler (σ : Type) := ByteBuffer → σ → Except Exit ByteBuffer × σ

abbrev RegisteredHandlers (σ : Type) := U8 → Option (ReqHandler σ)

def HeartBeat : U8 := 0

namespace RPCFactory

variable {σ : Type}

def registerHandler (handlers : RegisteredHandlers σ) (id : U8) (f : ReqHandler σ) : Bool × RegisteredHandlers σ :=
  if (handlers id).isSome then (false, handlers) else (true, fun i => if i = id then some f else handlers i)

def heartbeatHandler : ReqHandler σ := fun _ s => (.ok (text "1"), s)

def init : RegisteredHandlers σ := (registerHandler (fun _ => none) HeartBeat heartbeatHandler).2

/-- `call_one`: `find(id)->second` follows the end iterator when no handler is registered. -/
def callOne (handlers : RegisteredHandlers σ) (id : U8) (parameter : ByteBuffer) (s : σ) :
    Except Exit ByteBuffer × σ :=
  match handlers id with
  | none => (.error .badIterator, s)
  | some fn => fn parameter s

end RPCFactory

namespace SRpcHandler

/-- The innermost try block: the request's segments and header, or `none` after its catch. -/
def decodeHeader (msg : ByteBuffer) : Except Exit (Option (MMsg × SRpcHeader)) :=
  catching
    (do
      let decoded ← MultiMsg.createFrom kMaxMsgSz (HeapString.ofBytes msg)
      let segmented ← value decoded
      let first ← segmented.queryOne 0
      let bytes ← value first
      let header ← value (dedump SRpcHeader.format bytes)
      return some (segmented, header))
    (.ok none)

inductive Request where
  | undecodable
  | noParameter (checksum : U64)
  | call (id : U8) (checksum : U64) (parameter : ByteBuffer)
deriving DecidableEq

def request (msg : ByteBuffer) : Except Exit Request := do
  match ← decodeHeader msg with
  | none => return .undecodable
  | some (segmented, header) =>
    match ← segmented.queryOne 1 with
    | none => return .noParameter header.checksum
    | some parameter => return .call header.id header.checksum parameter

/-- A reply that is a header only, as both catch blocks send it. -/
def bareReply (growth : StringGrowth) (header : SReplyHeader) : Except Exit ByteBuffer := do
  let coded ← value (MultiMsg.createExact kMaxMsgSz growth SReplyHeader.format.size)
  let first ← coded.append growth (dump SReplyHeader.format header)
  return first.2.buf.bytes

/-- A reply with a result; whether its appends succeed is not looked at. -/
def codedReply (growth : StringGrowth) (header : SReplyHeader) (reply : ByteBuffer) : Except Exit ByteBuffer := do
  let coded ← value (MultiMsg.createExact kMaxMsgSz growth (SReplyHeader.format.size + reply.length))
  let first ← coded.append growth (dump SReplyHeader.format header)
  let second ← first.2.append growth reply
  return second.2.buf.bytes

/-- What the loop body did with one message: the handler it called, if any, and the reply it sent. -/
structure Served where
  called : Option (U8 × ByteBuffer)
  reply : ByteBuffer
deriving DecidableEq

variable {σ : Type}

/-- The loop body of `run_one_event_loop` on the message in the receive buffer. -/
def serve (growth : StringGrowth) (handlers : RegisteredHandlers σ) (msg : ByteBuffer) (s : σ) :
    Except Exit Served × σ :=
  match request msg with
  | .error e => (.error e, s)
  | .ok .undecodable =>
    ((Served.mk none) <$> bareReply growth ⟨CallStatus.FatalErr.byte, SRpc.invalidChecksum, 0⟩, s)
  | .ok (.noParameter checksum) => ((Served.mk none) <$> bareReply growth ⟨CallStatus.Nop.byte, checksum, 0⟩, s)
  | .ok (.call id checksum parameter) =>
    let nop := bareReply growth ⟨CallStatus.Nop.byte, checksum, 0⟩
    match RPCFactory.callOne handlers id parameter s with
    | (.ok reply, s') =>
      let header : SReplyHeader := ⟨CallStatus.Ok.byte, checksum, if id = HeartBeat then 1 else 0⟩
      ((Served.mk (some (id, parameter))) <$> catching (codedReply growth header reply) nop, s')
    | (.error .exception, s') => ((Served.mk (some (id, parameter))) <$> nop, s')
    | (.error e, s') => (.error e, s')

end SRpcHandler

end RLib.Bootstrap
