import RLib.RCtrl
import RLib.Foundation.Run

namespace RLib

open Bootstrap Proto Qps RCtrl RecvManager

/-- The requests that change what is registered. -/
inductive ControlOp where
  | CreateRC | CreateRCM | DeleteRC
deriving DecidableEq

def ControlOp.id : ControlOp → U8
  | .CreateRC => Proto.CreateRC
  | .CreateRCM => Proto.CreateRCM
  | .DeleteRC => Proto.DeleteRC

/-- A request of some client, or the server program opening a CQ or registering a channel with one. -/
inductive HostEvent where
  | request (env : Env) (op : ControlOp) (parameter : ByteBuffer)
  | openCq (cqe : U32)
  | regChannel (key : AuthKey) (name : Name) (common : RecvCommon)

/-- The server, and the exit that ended it if one did. -/
structure Host (A : Type) (R : Nat) [NeZero R] where
  server : Server A R
  halted : Option Exit := none

namespace Host

variable {A : Type} {R : Nat} [NeZero R]

/-- What is left of a handler: an exception becomes a `Nop`, any other exit ends the server. -/
def settle : Except Exit ByteBuffer × Server A R → Host A R
  | (.ok _, s) => { server := s }
  | (.error .exception, s) => { server := s }
  | (.error e, s) => { server := s, halted := some e }

theorem settle_server (outcome : Except Exit ByteBuffer × Server A R) : (settle outcome).server = outcome.2 := by
  rcases outcome with ⟨e | reply, s⟩
  · cases e <;> rfl
  · rfl

theorem settle_halted (outcome : Except Exit ByteBuffer × Server A R) :
    (settle outcome).halted = some .abort ↔ outcome.1 = .error .abort := by
  rcases outcome with ⟨e | reply, s⟩
  · cases e <;> simp [settle]
  · simp [settle]

variable [AbsRecvAllocator A]

def serveControl (op : ControlOp) (parameter : ByteBuffer) (s : Server A R) : Host A R :=
  settle (RPCFactory.callOne handlers op.id parameter s)

/-- One event. A channel is registered with a CQ that is there. -/
def step (h : Host A R) (e : HostEvent) : Option (Host A R) :=
  if h.halted.isSome then none
  else match e with
    | .request env op parameter => some (serveControl op parameter { h.server with env := env })
    | .openCq cqe => some { h with server := { h.server with hw := (h.server.hw.createCq cqe).2 } }
    | .regChannel key name common =>
      if h.server.hw.LiveCq common.cq then
        some { h with server := { h.server with regRecvCqs := (h.server.regRecvCqs.reg key name common).2 } }
      else none

theorem serveControl_eq (op : ControlOp) (parameter : ByteBuffer) (s : Server A R) :
    serveControl op parameter s = settle (match op with
      | .CreateRC => rcHandler parameter s
      | .CreateRCM => msgRcHandler parameter s
      | .DeleteRC => deleteRc parameter s) := by
  cases op <;> rfl

end Host

end RLib
