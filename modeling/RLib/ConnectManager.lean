import RLib.Bootstrap.EventLoop
import RLib.RCtrl

namespace RLib

open Bytes Bootstrap Proto Qps

def Proto.RegAttr.zero : RegAttr := ⟨0, 0, 0, 0⟩
def Proto.DCAttr.zero : DCAttr := ⟨0, 0, 0⟩

/-- What a datagram does once it is sent: what the send reports, what arrives at the sender because of it, and what
    is behind the channel from then on. -/
abbrev Network (ω : Type) := ByteBuffer → ω → Result ByteBuffer × List Arrival × ω

/-- `ConnectManager`, with what has arrived at its channel and what is behind that. -/
structure ConnectManager (ω : Type) where
  rpc : SRpc := {}
  arrived : List Arrival := []
  peer : ω

namespace ConnectManager

def errNameToLong : ByteBuffer := text "Name to long"
def errDecodeReply : ByteBuffer := text "Decode reply error"
def errNotFound : ByteBuffer := text "attribute not found"
def errUnknownStatus : ByteBuffer := text "Unknown status code"

variable {ω α : Type} (growth : StringGrowth) (net : Network ω)

def call (id : U8) (parameter : ByteBuffer) (cm : ConnectManager ω) :
    Except Exit (Result ByteBuffer) × ConnectManager ω :=
  match cm.rpc.call growth ⟨.Ok, []⟩ id parameter with
  | .error e => (.error e, cm)
  | .ok (res, none) => (.ok res, cm)
  | .ok (_, some d) =>
    let (sent, arrivals, peer) := net d cm.peer
    (.ok sent, { cm with arrived := cm.arrived ++ arrivals, peer := peer })

def receiveReply (cm : ConnectManager ω) : Except Exit (Result ByteBuffer) × ConnectManager ω :=
  match cm.rpc.receiveReply false cm.arrived with
  | .error e => (.error e, cm)
  | .ok (res, rpc, rest) => (.ok res, { cm with rpc := rpc, arrived := rest })

/-- `wait_ready` with `retry` rounds to go. -/
def waitReady (retry : Nat) (cm : ConnectManager ω) : Except Exit (Result ByteBuffer) × ConnectManager ω :=
  match retry with
  | 0 => (.ok ⟨.Timeout, text "retry exceeds num"⟩, cm)
  | retry + 1 =>
    match cm.call growth net HeartBeat (text "0") with
    | (.error e, cm) => (.error e, cm)
    | (.ok res, cm) =>
      if res.code ≠ .Ok ∧ res.code ≠ .Timeout then (.ok res, cm)
      else
        match cm.rpc.receiveReply true cm.arrived with
        | .error e => (.error e, cm)
        | .ok (resReply, rpc, rest) =>
          let cm := { cm with rpc := rpc, arrived := rest }
          if resReply.code = .Ok ∨ resReply.code = .Err then (.ok resReply, cm) else waitReady retry cm

/-- A call whose sending can be refused, and what becomes of its reply. -/
def exchange (id : U8) (parameter : ByteBuffer) (refused : ByteBuffer → α) (replied : Result ByteBuffer → α)
    (cm : ConnectManager ω) : Except Exit α × ConnectManager ω :=
  match cm.call growth net id parameter with
  | (.error e, cm) => (.error e, cm)
  | (.ok res, cm) =>
    if res.code ≠ .Ok then (.ok (refused res.desc), cm)
    else
      match cm.receiveReply with
      | (.error e, cm) => (.error e, cm)
      | (.ok resReply, cm) => (.ok (replied resReply), cm)

/-- What a fetch makes of a reply that carries a status and an attribute. -/
def fetched (decode : ByteBuffer → Option (U8 × α)) (zero : α) (notFound : ByteBuffer) (resReply : Result ByteBuffer) :
    Result (ByteBuffer × α) :=
  if resReply.code = .Ok then
    match decode resReply.desc with
    | none => ⟨.Err, (errDecodeReply, zero)⟩
    | some (status, attr) =>
      if status = CallbackStatus.Ok.byte then ⟨.Ok, ([], attr)⟩
      else if status = CallbackStatus.NotFound.byte then ⟨.NotReady, (notFound, zero)⟩
      else ⟨.Err, (errUnknownStatus, zero)⟩
  else ⟨resReply.code, (resReply.desc, zero)⟩

def decodeMr (b : ByteBuffer) : Option (U8 × RegAttr) := (dedump MRReply.format b).map fun r => (r.status, r.attr)
def decodeQp (b : ByteBuffer) : Option (U8 × QPAttr) := (dedump RCReply.format b).map fun r => (r.status, r.attr)
def decodeDc (b : ByteBuffer) : Option (U8 × DCAttr) := (dedump DCReply.format b).map fun r => (r.status, r.attr)

/-- Unlike the other two this does not look at what `rpc.call` reports. -/
def fetchRemoteMr (id : U64) (cm : ConnectManager ω) :
    Except Exit (Result (ByteBuffer × RegAttr)) × ConnectManager ω :=
  match cm.call growth net FetchMr (dump MRReq.format ⟨id⟩) with
  | (.error e, cm) => (.error e, cm)
  | (.ok _, cm) =>
    match cm.receiveReply with
    | (.error e, cm) => (.error e, cm)
    | (.ok resReply, cm) => (.ok (fetched decodeMr RegAttr.zero [] resReply), cm)

/-- A zeroed name with the bytes of `name` copied to its front. -/
def nameField (name : ByteBuffer) : NameField :=
  ⟨overlay name (List.replicate (kMaxQPNameLen + 1) 0), by rw [overlay_length, List.length_replicate]⟩

/-- `fetch_qp_attr` and `fetch_dc_attr`. -/
def fetchNamed (id : U8) (decode : ByteBuffer → Option (U8 × α)) (zero : α) (name : ByteBuffer)
    (cm : ConnectManager ω) : Except Exit (Result (ByteBuffer × α)) × ConnectManager ω :=
  if kMaxQPNameLen < name.length then (.ok ⟨.Err, (errNameToLong, zero)⟩, cm)
  else
    cm.exchange growth net id (dump QPReq.format ⟨nameField name, 0⟩) (fun desc => ⟨.Err, (desc, zero)⟩)
      (fetched decode zero errNotFound)

def fetchQpAttr (name : ByteBuffer) (cm : ConnectManager ω) :
    Except Exit (Result (ByteBuffer × QPAttr)) × ConnectManager ω :=
  fetchNamed growth net FetchQPAttr decodeQp QPAttr.zero name cm

def fetchDcAttr (name : ByteBuffer) (cm : ConnectManager ω) :
    Except Exit (Result (ByteBuffer × DCAttr)) × ConnectManager ω :=
  fetchNamed growth net FetchDCAttr decodeDc DCAttr.zero name cm

section Deleting

/-- What `delete_remote_rc` returns for a reply; with `none` it runs off its end, where it builds an `Err` that it does
    not return. -/
def deleteReplied (resReply : Result ByteBuffer) : Option (Result ByteBuffer) :=
  if resReply.code = .Ok then
    match dedump RCReply.format resReply.desc with
    | none => none
    | some qpReply =>
      if qpReply.status = CallbackStatus.Ok.byte then some ⟨.Ok, []⟩
      else if qpReply.status = CallbackStatus.WrongArg.byte then some ⟨.Err, text "wrong arg"⟩
      else if qpReply.status = CallbackStatus.AuthErr.byte then some ⟨.Err, text "auth failure"⟩
      else none
  else none

def deleteRemoteRc (name : ByteBuffer) (key : U64) (cm : ConnectManager ω) :
    Except Exit (Option (Result ByteBuffer)) × ConnectManager ω :=
  if kMaxQPNameLen < name.length then (.ok (some ⟨.Err, errNameToLong⟩), cm)
  else
    match cm.call growth net DeleteRC (dump DelRCReq.format ⟨nameField name, key⟩) with
    | (.error e, cm) => (.error e, cm)
    | (.ok res, cm) =>
      if res.code ≠ .Ok then (.ok (some res), cm)
      else
        match cm.receiveReply with
        | (.error e, cm) => (.error e, cm)
        | (.ok resReply, cm) => (.ok (deleteReplied resReply), cm)

end Deleting

section Creating

/-- The client's own end of a connection, with what its verbs calls will answer and the text that a failing
    `connect` leaves. -/
structure LocalEnd where
  rc : Dummy
  hw : Hardware
  calls : VerbsCalls
  connectError : ByteBuffer

/-- `cc_rc_ret_t` at the label `ErrCase`. -/
def errCase (errStr : ByteBuffer) : Result (ByteBuffer × U64) := ⟨.Err, (errStr, 0)⟩

/-- What `cc_rc` and `cc_rc_msg` do with a reply; exceptions in it are caught. -/
def connectReplied (resReply : Result ByteBuffer) (loc : LocalEnd) :
    Except Exit (Result (ByteBuffer × U64)) × LocalEnd :=
  if resReply.code = .Ok then
    match dedump RCReply.format resReply.desc with
    | none => (.ok (errCase errDecodeReply), loc)
    | some qpReply =>
      if qpReply.status = CallbackStatus.Ok.byte then
        match RC.connect loc.calls loc.rc qpReply.attr loc.hw with
        | (.error .exception, hw) => (.ok (errCase errDecodeReply), { loc with hw := hw })
        | (.error e, hw) => (.error e, { loc with hw := hw })
        | (.ok (.Ok, rc), hw) => (.ok ⟨.Ok, ([], qpReply.key)⟩, { loc with rc := rc, hw := hw })
        | (.ok (_, rc), hw) => (.ok (errCase loc.connectError), { loc with rc := rc, hw := hw })
      else if qpReply.status = CallbackStatus.ConnectErr.byte then (.ok (errCase (text "Remote connect error")), loc)
      else if qpReply.status = CallbackStatus.WrongArg.byte then
        (.ok (errCase (text "Wrong arguments, possible the QP has exsists")), loc)
      else (.ok (errCase errUnknownStatus), loc)
  else (.ok (errCase (text "unknown error")), loc)

/-- The part that `cc_rc` and `cc_rc_msg` share, once the request is filled in but for `attr`. -/
def requestConnect (id : U8) (req : RCReq) (loc : LocalEnd) (cm : ConnectManager ω) :
    (Except Exit (Result (ByteBuffer × U64)) × LocalEnd) × ConnectManager ω :=
  match loc.rc.myAttr with
  | .error e => ((.error e, loc), cm)
  | .ok attr =>
    match cm.exchange growth net id (dump RCReq.format { req with attr := attr })
        (fun desc => (.ok (errCase desc), loc)) (fun resReply => connectReplied resReply loc) with
    | (.error e, cm) => ((.error e, loc), cm)
    | (.ok outcome, cm) => (outcome, cm)

def rcRequest (name : ByteBuffer) (nicId : U64) (config : QPConfig) : RCReq :=
  { name := nameField name, whetherCreate := 1, whetherRecv := 0, nicId := nicId, config := config }

def ccRc (name : ByteBuffer) (nicId : U64) (config : QPConfig) (loc : LocalEnd) (cm : ConnectManager ω) :
    (Except Exit (Result (ByteBuffer × U64)) × LocalEnd) × ConnectManager ω :=
  if kMaxQPNameLen < name.length then ((.ok (errCase errNameToLong), loc), cm)
  else requestConnect growth net CreateRC (rcRequest name nicId config) loc cm

/-- The request of `cc_rc_msg` but for `attr`. What of the channel name is copied past `name_recv` the assignments
    that follow overwrite. -/
def msgRequest (qpName channelName : ByteBuffer) (msgSz : U32) (nicId : U64) (config : QPConfig) : RCReq :=
  { name := nameField qpName, nameRecv := nameField channelName, whetherCreate := 1, whetherRecv := 1, nicId := nicId,
    config := config, maxRecvSz := msgSz.setWidth 64 }

/-- The length of the channel name is not checked: a long one is copied past the end of the request. -/
def ccRcMsg (qpName channelName : ByteBuffer) (msgSz : U32) (nicId : U64) (config : QPConfig) (loc : LocalEnd)
    (cm : ConnectManager ω) : (Except Exit (Result (ByteBuffer × U64)) × LocalEnd) × ConnectManager ω :=
  if kMaxQPNameLen < qpName.length then ((.ok (errCase errNameToLong), loc), cm)
  else if RCReq.format.size < kMaxQPNameLen + 1 + channelName.length then ((.error .overread, loc), cm)
  else requestConnect growth net CreateRCM (msgRequest qpName channelName msgSz nicId config) loc cm

end Creating

end ConnectManager

/-- The server end of a network: its receiving channel, its state, how its loop was left if it was, and the datagrams
    that reached it. -/
structure ServerEnd (σ : Type) where
  channel : RecvChannel Unit := RecvChannel.create
  server : σ
  halted : Option Exit := none
  requests : List ByteBuffer := []

/-- Each datagram is delivered once, and so is the reply to it. -/
def exactlyOnce {σ : Type} (growth : StringGrowth) (handlers : RegisteredHandlers σ) : Network (ServerEnd σ) :=
  fun d peer =>
    let arrived := { peer with requests := d :: peer.requests }
    if peer.halted.isSome then (⟨.Ok, []⟩, [], arrived)
    else
      let run := SRpcHandler.runOneEventLoop growth handlers peer.channel peer.server [.datagram () d]
      (⟨.Ok, []⟩, run.served.map (fun served => .datagram served.2.reply),
        { arrived with channel := run.channel, server := run.state, halted := run.stopped })

end RLib
