import RLib.Qps.Rc

namespace RLib.Proto

open Bytes Qps

def FetchMr : U8 := 1
def CreateRC : U8 := 2
def CreateRCM : U8 := 3
def DeleteRC : U8 := 4
def FetchQPAttr : U8 := 5
def FetchDCAttr : U8 := 6

inductive CallbackStatus where
  | Ok | Err | NotFound | WrongArg | ConnectErr | AuthErr
deriving DecidableEq, Repr

def CallbackStatus.byte : CallbackStatus → U8
  | .Ok => 0
  | .Err => 1
  | .NotFound => 2
  | .WrongArg => 3
  | .ConnectErr => 4
  | .AuthErr => 5

theorem CallbackStatus.byte_injective : Function.Injective CallbackStatus.byte := by
  intro a b same
  cases a <;> cases b <;> first | rfl | cases same

abbrev Name := ByteBuffer

def kMaxQPNameLen : Nat := 63

abbrev NameField := List.Vector Byte (kMaxQPNameLen + 1)

/-- A `std::string` made of the characters from the front of `mem` on; without a terminator before the
    end of the object it reads on outside. -/
def cString (mem : ByteBuffer) : Except Exit Name :=
  if 0 ∈ mem then .ok (mem.takeWhile (· ≠ 0)) else .error .overread

structure MRReq where
  id : U64
deriving DecidableEq

def MRReq.format : Codec MRReq := .record (.word 8) (fun r => r.id) (fun id => ⟨id⟩) (fun _ => rfl) (fun _ => rfl)

structure RegAttr where
  buf : U64
  sz : U64
  key : U32
  lkey : U32
deriving DecidableEq

def RegAttr.format : Codec RegAttr :=
  .record (.pair (.word 8) <| .pair (.word 8) <| .pair (.word 4) (.word 4)) (fun a => (a.buf, a.sz, a.key, a.lkey))
    (fun (buf, sz, key, lkey) => ⟨buf, sz, key, lkey⟩) (fun _ => rfl) (fun _ => rfl)

structure MRReply where
  status : U8
  attr : RegAttr := ⟨0, 0, 0, 0⟩
deriving DecidableEq

def MRReply.format : Codec MRReply :=
  .record (.pair (.word 1) RegAttr.format) (fun r => (r.status, r.attr)) (fun (status, attr) => ⟨status, attr⟩)
    (fun _ => rfl) (fun _ => rfl)

structure QPReq where
  name : NameField
  key : U64
deriving DecidableEq

def QPReq.format : Codec QPReq :=
  .record (.pair (.chars (kMaxQPNameLen + 1)) (.word 8)) (fun r => (r.name, r.key)) (fun (name, key) => ⟨name, key⟩)
    (fun _ => rfl) (fun _ => rfl)

def QPAttr.zero : QPAttr := ⟨⟨0, 0, 0⟩, 0, 0, 0, 0, 0⟩

structure RCReq where
  name : NameField
  nameRecv : NameField := .replicate _ 0
  whetherCreate : U8 := 0
  whetherRecv : U8 := 0
  nicId : U64 := 0
  config : QPConfig := {}
  attr : QPAttr := QPAttr.zero
  maxRecvSz : U64 := 4096
deriving DecidableEq

def RCReq.format : Codec RCReq :=
  .record
    (.pair (.chars (kMaxQPNameLen + 1)) <| .pair (.chars (kMaxQPNameLen + 1)) <| .pair (.word 1) <| .pair (.word 1) <|
      .pair (.word 8) <| .pair QPConfig.format <| .pair QPAttr.format (.word 8))
    (fun r => (r.name, r.nameRecv, r.whetherCreate, r.whetherRecv, r.nicId, r.config, r.attr, r.maxRecvSz))
    (fun (name, nameRecv, create, recv, nicId, config, attr, maxRecvSz) =>
      ⟨name, nameRecv, create, recv, nicId, config, attr, maxRecvSz⟩)
    (fun _ => rfl) (fun _ => rfl)

namespace RCReq

/-- The strings a handler makes of `req.name` and `req.name_recv`. -/
def nameString (req : RCReq) : Except Exit Name := cString (dump format req)

def nameRecvString (req : RCReq) : Except Exit Name := cString ((dump format req).drop (kMaxQPNameLen + 1))

end RCReq

structure RCReply where
  status : U8
  attr : QPAttr := QPAttr.zero
  key : U64 := 0
deriving DecidableEq

def RCReply.format : Codec RCReply :=
  .record (.pair (.word 1) <| .pair QPAttr.format (.word 8)) (fun r => (r.status, r.attr, r.key))
    (fun (status, attr, key) => ⟨status, attr, key⟩) (fun _ => rfl) (fun _ => rfl)

structure DCAttr where
  lid : U64
  dctNum : U32
  dcKey : U32
deriving DecidableEq

def DCAttr.format : Codec DCAttr :=
  .record (.pair (.word 8) <| .pair (.word 4) (.word 4)) (fun a => (a.lid, a.dctNum, a.dcKey))
    (fun (lid, dctNum, dcKey) => ⟨lid, dctNum, dcKey⟩) (fun _ => rfl) (fun _ => rfl)

structure DCReply where
  status : U8
  attr : DCAttr := ⟨0, 0, 0⟩
  key : U64 := 0
deriving DecidableEq

def DCReply.format : Codec DCReply :=
  .record (.pair (.word 1) <| .pair DCAttr.format (.word 8)) (fun r => (r.status, r.attr, r.key))
    (fun (status, attr, key) => ⟨status, attr, key⟩) (fun _ => rfl) (fun _ => rfl)

structure DelRCReq where
  name : NameField
  key : U64
deriving DecidableEq

def DelRCReq.format : Codec DelRCReq :=
  .record (.pair (.chars (kMaxQPNameLen + 1)) (.word 8)) (fun r => (r.name, r.key)) (fun (name, key) => ⟨name, key⟩)
    (fun _ => rfl) (fun _ => rfl)

def DelRCReq.nameString (req : DelRCReq) : Except Exit Name := cString (dump format req)

/-- The replies that carry a status only. -/
def RCReply.bare (status : CallbackStatus) : ByteBuffer := dump format { status := status.byte }
def MRReply.bare (status : CallbackStatus) : ByteBuffer := dump format { status := status.byte }
def DCReply.bare (status : CallbackStatus) : ByteBuffer := dump format { status := status.byte }

/-- A client takes the bytes for an `RCReply` that reports success. -/
def RCReply.Accepted (reply : ByteBuffer) : Prop :=
  ∃ r, dedump format reply = some r ∧ r.status = CallbackStatus.Ok.byte

theorem RCReply.accepted_dump (r : RCReply) : Accepted (dump format r) ↔ r.status = CallbackStatus.Ok.byte := by
  have decoded := dedump_self format r
  constructor
  · intro ⟨s, same, ok⟩
    rw [decoded] at same
    cases same
    exact ok
  · exact fun ok => ⟨r, decoded, ok⟩

theorem RCReply.dump_injective : Function.Injective (dump RCReply.format) := by
  intro a b same
  have parsed := congrArg (dedump RCReply.format) same
  rw [dedump_self, dedump_self] at parsed
  exact Option.some.inj parsed

theorem RCReply.bare_ne {a b : CallbackStatus} (differ : a ≠ b) :
    (Except.ok (RCReply.bare a) : Except Exit ByteBuffer) ≠ .ok (RCReply.bare b) := by
  intro same
  injection same with same
  exact differ (CallbackStatus.byte_injective (congrArg RCReply.status (RCReply.dump_injective same)))

theorem RCReply.bare_accepted (status : CallbackStatus) : Accepted (bare status) ↔ status = .Ok := by
  rw [bare, accepted_dump]
  exact CallbackStatus.byte_injective.eq_iff

end RLib.Proto
