import RLib.Bootstrap.EventLoop
import RLib.Bootstrap.Wire
import RLib.Foundation.Run

namespace RLib.Bootstrap

open Bytes SRpcHandler

/-- One `call` of the client, with the checksum it had then. -/
structure Issued where
  id : U8
  parameter : ByteBuffer
  checksum : U64

/-- A request datagram and the number of the call that sent it. -/
structure SentRequest where
  call : Nat
  datagram : ByteBuffer

/-- A reply datagram, the number of the call whose request the server handled, and what its handler
    made of which parameter. -/
structure SentReply where
  call : Nat
  datagram : ByteBuffer
  handled : Option (U8 × ByteBuffer × Except Exit ByteBuffer)

/-- One client and one server. What was sent stays deliverable: it may be late, lost, out of order and
    delivered again. -/
structure RpcNetwork (σ : Type) where
  client : SRpc := {}
  calls : List Issued := []
  requests : List SentRequest := []
  replies : List SentReply := []
  server : σ
  channel : RecvChannel Unit

inductive Delivered where
  | reply (r : SentReply)
  | failure (code : IOCode) (failed : code ≠ .Ok)

def Delivered.arrival : Delivered → Arrival
  | .reply r => .datagram r.datagram
  | .failure code failed => .failure code failed

/-- A delivery of the reply sent as number `index`, or a failing `recv`. -/
inductive Delivery where
  | reply (index : Nat)
  | failure (code : IOCode) (failed : code ≠ .Ok)

inductive RpcEvent where
  | call (id : U8) (parameter : ByteBuffer) (sent : Result ByteBuffer)
  | serve (index : Nat)
  | receive (heartbeat : Bool) (deliveries : List Delivery)

namespace RpcNetwork

variable {σ : Type}

def start (server : σ) (channel : RecvChannel Unit) : RpcNetwork σ := { server := server, channel := channel }

def delivered (net : RpcNetwork σ) (deliveries : List Delivery) : List Delivered :=
  deliveries.filterMap fun
    | .reply index => Delivered.reply <$> net.replies[index]?
    | .failure code failed => some (.failure code failed)

def handledBy (handlers : RegisteredHandlers σ) (msg : ByteBuffer) (s : σ) :
    Option (U8 × ByteBuffer × Except Exit ByteBuffer) :=
  match request msg with
  | .ok (.call id _ parameter) => some (id, parameter, (RPCFactory.callOne handlers id parameter s).1)
  | _ => none

/-- A party that is left by an exit takes no further step. -/
def step (growth : StringGrowth) (handlers : RegisteredHandlers σ) (net : RpcNetwork σ) :
    RpcEvent → Option (RpcNetwork σ)
  | .call id parameter sent =>
    match net.client.call growth sent id parameter with
    | .error _ => none
    | .ok (_, datagram) =>
      let issued := { net with calls := net.calls ++ [⟨id, parameter, net.client.checksum⟩] }
      match datagram with
      | none => some issued
      | some d =>
        if sent.code = .Ok then some { issued with requests := net.requests ++ [⟨net.calls.length, d⟩] }
        else some issued
  | .serve index =>
    match net.requests[index]? with
    | none => none
    | some sent =>
      let channel := net.channel.tryRecv (.datagram () sent.datagram)
      match serve growth handlers channel.curMsg net.server with
      | (.error _, _) => none
      | (.ok served, server) =>
        let reply := ⟨sent.call, served.reply, handledBy handlers channel.curMsg net.server⟩
        some { net with replies := net.replies ++ [reply], server := server, channel := channel.reset }
  | .receive heartbeat deliveries =>
    match net.client.receiveReply heartbeat ((net.delivered deliveries).map Delivered.arrival) with
    | .error _ => none
    | .ok (_, client, _) => some { net with client := client }

end RpcNetwork

end RLib.Bootstrap
