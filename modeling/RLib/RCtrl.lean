import RLib.Bootstrap.SRpc
import RLib.Proto
import RLib.Qps.Recv
import RLib.Utils.AbsFactory

namespace RLib

open Bootstrap Proto Qps

/-- `rmem::RegHandler`; `mr` is what `ibv_reg_mr` gave, its two keys. -/
structure RegHandler where
  mr : Option (U32 × U32)
  rawPtr : U64
  sz : U64
deriving DecidableEq

def RegHandler.getRegAttr (h : RegHandler) : Option RegAttr := h.mr.map (fun keys => ⟨h.rawPtr, h.sz, keys.1, keys.2⟩)

structure DCTarget where
  remoteDctAttr : DCAttr
deriving DecidableEq

/-- `qp::RecvCommon`: what the QPs of one channel share. -/
structure RecvCommon where
  cq : Ptr
  allocator : Ptr
deriving DecidableEq

/-- What comes from outside while one request is handled: the answers of the verbs library and the keys
    that `generate_key` draws. -/
structure Env where
  calls : VerbsCalls
  qpKey : AuthKey
  entriesKey : AuthKey

/-- `RCtrl` and the `RecvManager<R>` on top of it, with the objects behind their pointers. -/
structure Server (A : Type) (R : Nat) [NeZero R] where
  openedNics : Factory U64 RNic := {}
  registeredMrs : Factory U64 RegHandler := {}
  registeredQps : Factory Name Ptr := {}
  registeredDcs : Factory Name DCTarget := {}
  regRecvCqs : Factory Name RecvCommon := {}
  regRecvEntries : Factory Name Ptr := {}
  /-- the next pointer for a QP object or for entries -/
  fresh : Ptr := 0
  qps : Ptr → Option Dummy := fun _ => none
  entries : Ptr → Option (RecvEntries R) := fun _ => none
  allocators : Ptr → A
  hw : Hardware := {}
  env : Env

namespace RCtrl

variable {A : Type} {R : Nat} [NeZero R]

def wrongArg : ByteBuffer := RCReply.bare .WrongArg

def fetchMrHandler : ReqHandler (Server A R) := fun b s =>
  match dedump MRReq.format b with
  | none => (.ok (MRReply.bare .WrongArg), s)
  | some req =>
    match s.registeredMrs.query req.id with
    | none => (.ok (MRReply.bare .NotFound), s)
    | some mr => ((fun attr => dump MRReply.format ⟨CallbackStatus.Ok.byte, attr⟩) <$> value mr.getRegAttr, s)

/-- `fetch_qp_attr` for a name that could be read; a QP that is gone is read all the same. -/
def fetchQp (s : Server A R) (name : Name) (key : U64) : Except Exit ByteBuffer :=
  match s.registeredQps.query name with
  | none => .ok (RCReply.bare .NotFound)
  | some p =>
    match s.qps p with
    | none => .error .overread
    | some rc => (fun attr => dump RCReply.format ⟨CallbackStatus.Ok.byte, attr, key⟩) <$> rc.myAttr

def fetchQpAttr (s : Server A R) (req : RCReq) (key : U64) : Except Exit ByteBuffer := do
  fetchQp s (← req.nameString) key

def fetchDcAttr (s : Server A R) (req : RCReq) (key : U64) : Except Exit ByteBuffer := do
  match s.registeredDcs.query (← req.nameString) with
  | none => return DCReply.bare .NotFound
  | some dc => return dump DCReply.format ⟨CallbackStatus.Ok.byte, dc.remoteDctAttr, key⟩

def fetchQpAttrWrapper : ReqHandler (Server A R) := fun b s =>
  match dedump QPReq.format b with
  | none => (.ok wrongArg, s)
  | some req => (fetchQpAttr s { name := req.name } 0, s)

def fetchDcAttrWrapper : ReqHandler (Server A R) := fun b s =>
  match dedump QPReq.format b with
  | none => (.ok (DCReply.bare .WrongArg), s)
  | some req => (fetchDcAttr s { name := req.name } 0, s)

def drop (s : Server A R) (p : Ptr) : Server A R :=
  { s with
    qps := Function.update s.qps p none
    hw := (s.qps p).elim s.hw (fun rc => rc.destroy s.env.calls s.hw) }

/-- `delete_rc`. The registry never maps a name to `nullptr`, so there is no `AuthErr`. -/
def deleteRc : ReqHandler (Server A R) := fun b s =>
  match dedump DelRCReq.format b with
  | none => (.ok wrongArg, s)
  | some req =>
    match req.nameString with
    | .error e => (.error e, s)
    | .ok name =>
      match s.registeredQps.dereg name req.key with
      | (none, _) => (.ok wrongArg, s)
      | (some p, registeredQps) => (.ok (RCReply.bare .Ok), drop { s with registeredQps := registeredQps } p)

inductive Deletes (b : ByteBuffer) (s : Server A R) : Except Exit ByteBuffer × Server A R → Prop
  | unparsed (failed : dedump DelRCReq.format b = none) : Deletes b s (.ok wrongArg, s)
  | unreadable {req : DelRCReq} {e : Exit} (parsed : dedump DelRCReq.format b = some req)
      (failed : req.nameString = .error e) : Deletes b s (.error e, s)
  | unknown {req : DelRCReq} {name : Name} (parsed : dedump DelRCReq.format b = some req)
      (named : req.nameString = .ok name) (absent : ∀ p, s.registeredQps.store.lookup name ≠ some (p, req.key)) :
      Deletes b s (.ok wrongArg, s)
  | deleted {req : DelRCReq} {name : Name} {p : Ptr} (parsed : dedump DelRCReq.format b = some req)
      (named : req.nameString = .ok name) (found : s.registeredQps.store.lookup name = some (p, req.key)) :
      Deletes b s (.ok (RCReply.bare .Ok),
        drop { s with registeredQps := { store := s.registeredQps.store.erase name } } p)

theorem deleteRc_deletes (b : ByteBuffer) (s : Server A R) : Deletes b s (deleteRc b s) := by
  unfold deleteRc
  cases parsed : dedump DelRCReq.format b with
  | none => exact .unparsed parsed
  | some req =>
    simp only
    cases named : req.nameString with
    | error e => exact .unreadable parsed named
    | ok name =>
      simp only
      rcases s.registeredQps.dereg_cases name req.key with ⟨p, found, removed⟩ | ⟨absent, kept⟩
      · rw [removed]
        exact .deleted parsed named found
      · rw [kept]
        exact .unknown parsed named absent

/-- Step 1.2 on the QP object `rc` that `p` points to, registered under `name`: the pointer and the key
    when it got connected, `none` at `goto WA`. -/
def connectRegistered (req : RCReq) (name : Name) (key : U64) (p : Ptr) (rc : Dummy) (s : Server A R) :
    Except Exit (Option (Ptr × U64)) × Server A R :=
  match RC.connect s.env.calls rc req.attr s.hw with
  | (.error e, hw) => (.error e, { s with hw := hw })
  | (.ok (.Ok, rc), hw) => (.ok (some (p, key)), { s with hw := hw, qps := Function.update s.qps p (some rc) })
  | (.ok (_, _), hw) =>
    (.ok none, drop { s with hw := hw, registeredQps := (s.registeredQps.dereg name key).2 } p)

/-- Steps 1.1 and 1.2, which `rc_handler` and `msg_rc_handler` share. -/
def createAndConnect (req : RCReq) (nic : RNic) (recvCq : Option Ptr) (s : Server A R) :
    Except Exit (Option (Ptr × U64)) × Server A R :=
  match RC.create s.env.calls nic req.config recvCq s.hw with
  | (none, hw) => (.error .exception, { s with hw := hw })
  | (some rc, hw) =>
    match req.nameString with
    | .error e => (.error e, { s with hw := hw })
    | .ok name =>
      match s.registeredQps.reg s.env.qpKey name s.fresh with
      | (none, _) => (.ok none, { s with hw := rc.destroy s.env.calls hw })
      | (some key, registeredQps) =>
        connectRegistered req name key s.fresh rc
          { s with
            hw := hw
            registeredQps := registeredQps
            fresh := s.fresh + 1
            qps := Function.update s.qps s.fresh (some rc) }

/-- What a handler does with the outcome of a step that may `goto WA`. -/
def orWrongArg {α : Type} (step : Except Exit (Option α) × Server A R)
    (rest : α → Server A R → Except Exit ByteBuffer × Server A R) : Except Exit ByteBuffer × Server A R :=
  match step with
  | (.error e, s) => (.error e, s)
  | (.ok none, s) => (.ok wrongArg, s)
  | (.ok (some a), s) => rest a s

/-- The frame of both creating handlers: the checks, and step 2 for a request that creates nothing. -/
def handleCreate (create : RCReq → RNic → Server A R → Except Exit ByteBuffer × Server A R) : ReqHandler (Server A R) :=
  fun b s =>
    match dedump RCReq.format b with
    | none => (.ok wrongArg, s)
    | some req =>
      if ¬(req.whetherCreate = 1 ∨ req.whetherCreate ≠ 0) then (.ok wrongArg, s)
      else if req.whetherCreate = 1 then
        match s.openedNics.query req.nicId with
        | none => (.ok wrongArg, s)
        | some nic => create req nic s
      else (fetchQpAttr s req 0, s)

def createRc (req : RCReq) (nic : RNic) (s : Server A R) : Except Exit ByteBuffer × Server A R :=
  orWrongArg (createAndConnect req nic none s) fun (_, key) s => (fetchQpAttr s req key, s)

def rcHandler : ReqHandler (Server A R) := handleCreate createRc

end RCtrl

namespace RecvManager

open RCtrl

variable {A : Type} {R : Nat} [NeZero R] [AbsRecvAllocator A]

/-- The receive CQ of step 1.0: that of the channel, or `nullptr`. -/
def recvCqOf (req : RCReq) (s : Server A R) : Except Exit (Option Ptr) :=
  if req.whetherRecv = 1 then do
    let name ← req.nameRecvString
    return (s.regRecvCqs.query name).map RecvCommon.cq
  else .ok none

/-- Step 1.4 on the QP object `p` and the entries `e` points to; a failing post is an `RDMA_ASSERT`. -/
def postAll (p e : Ptr) (entries : RecvEntries R) (s : Server A R) : Except Exit Unit × Server A R :=
  match (s.qps p).bind Dummy.qp with
  | none => (.error .overread, s)
  | some qp =>
    match postRecvs entries R (fun wqes => if s.env.calls.postRecv then some (s.hw.postRecv qp.ptr wqes) else none) with
    | .error exit => (.error exit, s)
    | .ok (none, entries) => (.error .abort, { s with entries := Function.update s.entries e (some entries) })
    | .ok (some hw, entries) => (.ok (), { s with hw := hw, entries := Function.update s.entries e (some entries) })

/-- Steps 1.3 and 1.4 for the connected QP object `p`. -/
def armRecv (req : RCReq) (p : Ptr) (s : Server A R) : Except Exit Unit × Server A R :=
  match req.nameRecvString with
  | .error exit => (.error exit, s)
  | .ok nameRecv =>
    match s.regRecvCqs.query nameRecv with
    | none => (.error .exception, s)
    | some common =>
      match RecvEntriesFactoryv2.create R (s.allocators common.allocator) (req.maxRecvSz.setWidth 32) with
      | (.error exit, allocator) =>
        (.error exit, { s with allocators := Function.update s.allocators common.allocator allocator })
      | (.ok entries, allocator) =>
        match req.nameString with
        | .error exit => (.error exit, s)
        | .ok name =>
          match s.regRecvEntries.reg s.env.entriesKey name s.fresh with
          | (none, _) => (.error .abort, s)
          | (some _, regRecvEntries) =>
            postAll p s.fresh entries
              { s with
                allocators := Function.update s.allocators common.allocator allocator
                regRecvEntries := regRecvEntries
                fresh := s.fresh + 1
                entries := Function.update s.entries s.fresh (some entries) }

/-- Steps 1.1 to 2 with the receive CQ that step 1.0 found. -/
def createMsgRcOn (req : RCReq) (nic : RNic) (recvCq : Option Ptr) (s : Server A R) :
    Except Exit ByteBuffer × Server A R :=
  orWrongArg (createAndConnect req nic recvCq s) fun (p, key) s =>
    match armRecv req p s with
    | (.error e, s) => (.error e, s)
    | (.ok (), s) => (fetchQpAttr s req key, s)

def createMsgRc (req : RCReq) (nic : RNic) (s : Server A R) : Except Exit ByteBuffer × Server A R :=
  match recvCqOf req s with
  | .error e => (.error e, s)
  | .ok recvCq => createMsgRcOn req nic recvCq s

def msgRcHandler : ReqHandler (Server A R) := handleCreate createMsgRc

/-- The handlers that `RCtrl::RCtrl` and then `RecvManager::RecvManager` register. -/
def handlers : RegisteredHandlers (Server A R) :=
  [(FetchMr, fetchMrHandler), (CreateRC, rcHandler), (DeleteRC, deleteRc), (FetchQPAttr, fetchQpAttrWrapper),
    (FetchDCAttr, fetchDcAttrWrapper), (CreateRCM, msgRcHandler)].foldl
    (fun handlers entry => (RPCFactory.registerHandler handlers entry.1 entry.2).2) RPCFactory.init

end RecvManager

end RLib
