import RLib.Control.Host
import RLib.Control.KeySecrecy

namespace RLib

open Bootstrap Proto Qps RCtrl RecvManager Run

variable {A : Type} {R : Nat} [NeZero R]

/-- A QP that a create request has registered and is about to connect. -/
structure Registered where
  name : Name
  key : U64
  p : Ptr
  rc : Dummy

/-- Step 1.1 alone. -/
def RCtrl.registerRc (req : RCReq) (nic : RNic) (recvCq : Option Ptr) (s : Server A R) :
    Except Exit (Option Registered) × Server A R :=
  match RC.create s.env.calls nic req.config recvCq s.hw with
  | (none, hw) => (.error .exception, { s with hw := hw })
  | (some rc, hw) =>
    match req.nameString with
    | .error e => (.error e, { s with hw := hw })
    | .ok name =>
      match s.registeredQps.reg s.env.qpKey name s.fresh with
      | (none, _) => (.ok none, { s with hw := rc.destroy s.env.calls hw })
      | (some key, registeredQps) =>
        (.ok (some ⟨name, key, s.fresh, rc⟩),
          { s with
            hw := hw
            registeredQps := registeredQps
            fresh := s.fresh + 1
            qps := Function.update s.qps s.fresh (some rc) })

inductive CreateOp where
  | CreateRC | CreateRCM
deriving DecidableEq

/-- A create request that the server thread has taken as far as step 1.1. -/
structure Pending where
  op : CreateOp
  req : RCReq
  made : Registered

variable [AbsRecvAllocator A]

/-- What a create request goes on with once its QP is connected. -/
def CreateOp.rest (op : CreateOp) (req : RCReq) (made : Ptr × U64) (s : Server A R) :
    Except Exit ByteBuffer × Server A R :=
  match op with
  | .CreateRC => (fetchQpAttr s req made.2, s)
  | .CreateRCM =>
    match armRecv req made.1 s with
    | (.error e, s) => (.error e, s)
    | (.ok (), s) => (fetchQpAttr s req made.2, s)

def Pending.resume (q : Pending) (s : Server A R) : Except Exit ByteBuffer × Server A R :=
  orWrongArg (connectRegistered q.req q.made.name q.made.key q.made.p q.made.rc s) (q.op.rest q.req)

def CreateOp.recvCqOf (op : CreateOp) (req : RCReq) (s : Server A R) : Except Exit (Option Ptr) :=
  match op with
  | .CreateRC => .ok none
  | .CreateRCM => RecvManager.recvCqOf req s

/-- The create request in `b` as far as step 1.1, if it gets there and registers its QP. -/
def CreateOp.registers (op : CreateOp) (b : ByteBuffer) (s : Server A R) : Option (Pending × Server A R) :=
  match dedump RCReq.format b with
  | none => none
  | some req =>
    if req.whetherCreate = 1 then
      match s.openedNics.query req.nicId, op.recvCqOf req s with
      | some nic, .ok recvCq =>
        match registerRc req nic recvCq s with
        | (.ok (some made), s) => some (⟨op, req, made⟩, s)
        | _ => none
      | _, _ => none
    else none

def CreateOp.handler (op : CreateOp) : ReqHandler (Server A R) :=
  match op with
  | .CreateRC => rcHandler
  | .CreateRCM => msgRcHandler

namespace CreateOp

end CreateOp

/-- What happens to the registry: requests of clients, each create in two parts so that other threads may
    come between them, and the calls of other threads. -/
inductive RegistryEvent where
  | request (env : Env) (id : U8) (parameter : ByteBuffer)
  | resume
  | reg (key : AuthKey) (name : Name) (p : Ptr)
  | dereg (name : Name) (key : U64)

/-- The server with the create request its thread is at. -/
structure Daemon (A : Type) (R : Nat) [NeZero R] where
  host : Host A R
  pending : Option Pending := none

namespace Daemon

def createOp (id : U8) : Option CreateOp :=
  if id = CreateRC then some .CreateRC else if id = CreateRCM then some .CreateRCM else none

def registry (d : Daemon A R) : Factory Name Ptr := d.host.server.registeredQps

def setRegistry (d : Daemon A R) (registry : Factory Name Ptr) : Daemon A R :=
  { d with host := { d.host with server := { d.host.server with registeredQps := registry } } }

def handle (d : Daemon A R) (env : Env) (id : U8) (parameter : ByteBuffer) : Daemon A R :=
  let s := { d.host.server with env := env }
  match (createOp id).bind (fun op => op.registers parameter s) with
  | some (q, s) => { host := { server := s }, pending := some q }
  | none => { host := Host.settle (RPCFactory.callOne handlers id parameter s) }

def step (d : Daemon A R) (e : RegistryEvent) : Option (Daemon A R) :=
  if d.host.halted.isSome then none
  else match e with
    | .request env id parameter => if d.pending.isSome then none else some (d.handle env id parameter)
    | .resume => d.pending.map (fun q => { host := Host.settle (q.resume d.host.server) })
    | .reg key name p => some (d.setRegistry (d.registry.reg key name p).2)
    | .dereg name key => some (d.setRegistry (d.registry.dereg name key).2)

end Daemon

end RLib
