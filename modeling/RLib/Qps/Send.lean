import RLib.Proto
import RLib.Verbs
import Mathlib.Data.BitVec

namespace RLib

def bitmask (w onecount : Nat) : BitVec w :=
  (if onecount ≠ 0 then BitVec.allOnes w else 0) &&& (BitVec.allOnes w >>> (w - onecount))

end RLib

namespace RLib.Qps

open Proto

structure Progress where
  highWatermark : U16 := 0
  lowWatermark : U16 := 0
deriving DecidableEq

namespace Progress

def numProgressBits : Nat := 16

def forward (p : Progress) (num : U16) : U16 × Progress :=
  (p.highWatermark + num, { p with highWatermark := p.highWatermark + num })

def done (p : Progress) (num : U32) : Progress := { p with lowWatermark := num.setWidth 16 }

/-- The second branch is computed with `int` and truncated when it is returned. -/
def pendingReqs (p : Progress) : U16 :=
  if p.lowWatermark ≤ p.highWatermark then p.highWatermark - p.lowWatermark
  else BitVec.ofInt 16 (65535 - (p.lowWatermark.toNat - p.highWatermark.toNat) + 1)

end Progress

/-- An `ibv_send_wr` without its link. -/
structure SendWr where
  wrId : U64 := 0
  opcode : U32 := 0
  sgList : List Sge := []
  sendFlags : U32 := 0
  immData : U32 := 0
  remoteAddr : U64 := 0
  rkey : U32 := 0
deriving DecidableEq

def IBV_SEND_SIGNALED : U32 := 2

def signaled (flags : U32) : Bool := flags &&& IBV_SEND_SIGNALED ≠ 0

def SendWr.signaled (wr : SendWr) : Bool := Qps.signaled wr.sendFlags

inductive WcStatus where
  | IBV_WC_SUCCESS
  | error (code : U8)
deriving DecidableEq

/-- A completion in the send CQ. -/
structure SendWc where
  wrId : U64
  status : WcStatus := .IBV_WC_SUCCESS
deriving DecidableEq

/-- The send queue of a queue pair and its CQ: the requests not completed yet and the completions not polled
    yet, both in order. Every request that was taken and every completion that was polled is kept as well,
    the last one first. -/
structure SendQueue where
  maxSendWr : U32
  sq : List SendWr := []
  cq : List SendWc := []
  posted : List SendWr := []
  polled : List SendWc := []
deriving DecidableEq

/-- What a call of `ibv_poll_cq` finds besides the CQ: whether it fails, and the bytes of a `wc` it does
    not write. -/
structure Poll where
  fails : Bool := false
  junk : SendWc := ⟨0, .IBV_WC_SUCCESS⟩

namespace SendQueue

/-- `ibv_post_send` takes requests up to the first that it refuses; one that finds the queue full it always
    refuses. -/
def postSend (accepts : Nat) (wrs : List SendWr) (q : SendQueue) : Bool × SendQueue :=
  let taken := wrs.take (min accepts (q.maxSendWr.toNat - (q.sq.length + q.cq.length)))
  (taken.length = wrs.length,
    { q with sq := q.sq ++ taken, posted := taken.reverse ++ q.posted })

/-- The NIC is done with the oldest request. -/
def complete (status : WcStatus) (q : SendQueue) : SendQueue :=
  match q.sq with
  | [] => q
  | wr :: sq => { q with sq := sq, cq := q.cq ++ if wr.signaled then [⟨wr.wrId, status⟩] else [] }

/-- `ibv_poll_cq` for one completion. -/
def pollCq (env : Poll) (q : SendQueue) : (Int × SendWc) × SendQueue :=
  if env.fails then ((-1, env.junk), q)
  else
    match q.cq with
    | [] => ((0, env.junk), q)
    | wc :: cq => ((1, wc), { q with cq := cq, polled := wc :: q.polled })

end SendQueue

/-- What sending uses of an `RC`. -/
structure SendRC where
  status : IOCode
  localMr : Option RegAttr := none
  remoteMr : Option RegAttr := none
  progress : Progress := {}
  outSignaled : U32 := 0
  queue : SendQueue
deriving DecidableEq

structure ReqDesc where
  op : U32
  flags : U32
  len : U32 := 0
  wrId : U64 := 0

structure ReqPayload where
  localAddr : U64 := 0
  remoteAddr : U64 := 0
  immData : U64 := 0

/-- The `sr` that `send_normal` fills in. -/
def ReqDesc.sendWr (desc : ReqDesc) (payload : ReqPayload) (localMr remoteMr : RegAttr) (wrId : U64) : SendWr where
  wrId := wrId
  opcode := desc.op
  sgList := [⟨payload.localAddr, desc.len, localMr.lkey⟩]
  sendFlags := desc.flags
  immData := payload.immData.setWidth 32
  remoteAddr := remoteMr.buf + payload.remoteAddr
  rkey := remoteMr.key

/-- `Op`, with the requests that follow its own on its chain when the chain is posted. -/
structure Op where
  wr : SendWr := {}
  next : List SendWr := []
  sges : List Sge := []

def Op.setNext (o next : Op) : Op := { o with next := next.wr :: next.next }

def Op.setFlags (o : Op) (flags : U32) : Op := { o with wr := { o.wr with sendFlags := flags } }

/-- One round of a waiting loop: what the NIC completes before the poll, and the poll. -/
structure Round where
  completes : List WcStatus := []
  poll : Poll := {}

namespace SendRC

def encodeMyWr (rc : SendRC) (wr : U64) (forwardNum : U32) : U64 × SendRC :=
  let (mark, progress) := rc.progress.forward (forwardNum.setWidth 16)
  ((wr <<< Progress.numProgressBits) ||| mark.setWidth 64, { rc with progress := progress })

/-- `ibv_post_send` as its callers see it. -/
def post (accepts : Nat) (wrs : List SendWr) (rc : SendRC) : IOCode × SendRC :=
  let (ok, queue) := rc.queue.postSend accepts wrs
  (if ok then .Ok else .Err, { rc with queue := queue })

def countSignaled (flags : U32) (rc : SendRC) : SendRC :=
  if signaled flags then { rc with outSignaled := rc.outSignaled + 1 } else rc

def sendNormal (accepts : Nat) (desc : ReqDesc) (payload : ReqPayload) (localMr remoteMr : RegAttr) (rc : SendRC) :
    Except Exit IOCode × SendRC :=
  if rc.status = .Ok then
    let (wrId, rc) := rc.encodeMyWr desc.wrId 1
    let (code, rc) := (rc.countSignaled desc.flags).post accepts [desc.sendWr payload localMr remoteMr wrId]
    (.ok code, rc)
  else (.error .abort, rc)

/-- The version of `send_normal` without MRs. -/
def sendNormalBound (accepts : Nat) (desc : ReqDesc) (payload : ReqPayload) (rc : SendRC) :
    Except Exit IOCode × SendRC :=
  match rc.localMr, rc.remoteMr with
  | some localMr, some remoteMr => rc.sendNormal accepts desc payload localMr remoteMr
  | _, _ => (.error .exception, rc)

def executeBatch (accepts : Nat) (op : Op) (rc : SendRC) : IOCode × SendRC :=
  (rc.countSignaled op.wr.sendFlags).post accepts (op.wr :: op.next)

def execute (accepts : Nat) (op : Op) (flags : U32) (wrId : U64) (rc : SendRC) : IOCode × SendRC :=
  let (wrId, rc) := rc.encodeMyWr wrId 1
  rc.executeBatch accepts
    { op with wr := { op.wr with wrId := wrId, sgList := op.sges, sendFlags := flags }, next := [] }

/-- The NIC is done with as many requests as there are statuses. -/
def completes (statuses : List WcStatus) (rc : SendRC) : SendRC :=
  { rc with queue := statuses.foldl (fun q status => q.complete status) rc.queue }

def pollSendComp (env : Poll) (rc : SendRC) : (Int × SendWc) × SendRC :=
  let (res, queue) := rc.queue.pollCq env
  (res, { rc with queue := queue, outSignaled := if 0 < res.1 then rc.outSignaled - 1 else rc.outSignaled })

def pollRcComp (env : Poll) (rc : SendRC) : Option (U64 × SendWc) × SendRC :=
  let ((num, wc), rc) := rc.pollSendComp env
  if num = 0 then (none, rc)
  else
    let userWr := wc.wrId >>> Progress.numProgressBits
    let waterMark := wc.wrId &&& bitmask 64 Progress.numProgressBits
    (some (userWr, wc), { rc with progress := rc.progress.done (waterMark.setWidth 32) })

/-- A `do` loop that polls until it is told to stop; with no round left the timer has run out. -/
def pollWhile {α : Type} (poll : Poll → SendRC → α × SendRC) (again : α → Bool) (r : Round) :
    List Round → SendRC → α × SendRC
  | [], rc => poll r.poll (rc.completes r.completes)
  | r' :: rs, rc =>
    let (res, rc) := poll r.poll (rc.completes r.completes)
    if again res then pollWhile poll again r' rs rc else (res, rc)

def waitOneComp (first : Round) (rest : List Round) (rc : SendRC) : Result SendWc × SendRC :=
  let (res, rc) := pollWhile pollSendComp (fun res => res.1 = 0) first rest rc
  if res.1 = 0 then (⟨.Timeout, res.2⟩, rc)
  else if res.1 < 0 ∨ res.2.status ≠ .IBV_WC_SUCCESS then (⟨.Err, res.2⟩, rc)
  else (⟨.Ok, res.2⟩, rc)

/-- `wc` is the local of `wait_rc_comp` that it never writes. -/
def waitRcComp (wc : SendWc) (first : Round) (rest : List Round) (rc : SendRC) : Result (U64 × SendWc) × SendRC :=
  let (res, rc) := pollWhile pollRcComp (fun res => res.isNone) first rest rc
  match res with
  | none => (⟨.Timeout, (0, wc)⟩, rc)
  | some res => if res.2.status ≠ .IBV_WC_SUCCESS then (⟨.Err, (0, wc)⟩, rc) else (⟨.Ok, res⟩, rc)

end SendRC

theorem Progress.pendingReqs_eq (p : Progress) : p.pendingReqs = p.highWatermark - p.lowWatermark := by
  have high := p.highWatermark.isLt
  have low := p.lowWatermark.isLt
  unfold Progress.pendingReqs
  split
  · rfl
  · rename_i wrapped
    rw [BitVec.not_le, BitVec.lt_def] at wrapped
    apply BitVec.eq_of_toNat_eq
    rw [BitVec.toNat_ofInt, BitVec.toNat_sub]
    omega

namespace SendQueue

def took (wrs : List SendWr) (q : SendQueue) : SendQueue :=
  { q with sq := q.sq ++ wrs, posted := wrs.reverse ++ q.posted }

@[simp] theorem took_sq (wrs : List SendWr) (q : SendQueue) : (q.took wrs).sq = q.sq ++ wrs := rfl
@[simp] theorem took_cq (wrs : List SendWr) (q : SendQueue) : (q.took wrs).cq = q.cq := rfl
@[simp] theorem took_posted (wrs : List SendWr) (q : SendQueue) : (q.took wrs).posted = wrs.reverse ++ q.posted := rfl
@[simp] theorem took_polled (wrs : List SendWr) (q : SendQueue) : (q.took wrs).polled = q.polled := rfl
@[simp] theorem took_maxSendWr (wrs : List SendWr) (q : SendQueue) : (q.took wrs).maxSendWr = q.maxSendWr := rfl

theorem postSend_ok {accepts : Nat} {wrs : List SendWr} {q q' : SendQueue} (ok : q.postSend accepts wrs = (true, q')) :
    q' = q.took wrs ∧ wrs.length ≤ q.maxSendWr.toNat - (q.sq.length + q.cq.length) := by
  unfold postSend at ok
  injection ok with whole taken
  have long := of_decide_eq_true whole
  rw [List.length_take] at long
  have all : wrs.take (min accepts (q.maxSendWr.toNat - (q.sq.length + q.cq.length))) = wrs :=
    List.take_of_length_le (by omega)
  rw [all] at taken
  exact ⟨taken.symm, by omega⟩

end SendQueue

namespace SendRC

theorem post_ok {accepts : Nat} {wrs : List SendWr} {rc rc' : SendRC} (ok : rc.post accepts wrs = (.Ok, rc')) :
    rc' = { rc with queue := rc.queue.took wrs } ∧
      wrs.length ≤ rc.queue.maxSendWr.toNat - (rc.queue.sq.length + rc.queue.cq.length) := by
  unfold post at ok
  cases taken : rc.queue.postSend accepts wrs with
  | mk whole queue =>
    rw [taken] at ok
    cases whole with
    | false => cases ok
    | true =>
      obtain ⟨same, room⟩ := SendQueue.postSend_ok taken
      injection ok with _ result
      exact ⟨by rw [← result, same], room⟩

@[simp] theorem countSignaled_queue (flags : U32) (rc : SendRC) : (rc.countSignaled flags).queue = rc.queue := by
  unfold countSignaled
  split <;> rfl

@[simp] theorem countSignaled_progress (flags : U32) (rc : SendRC) :
    (rc.countSignaled flags).progress = rc.progress := by
  unfold countSignaled
  split <;> rfl

/-- The state once `wr` was posted for a user whose id is `user`. -/
structure Issued (user : U64) (wr : SendWr) (rc rc' : SendRC) : Prop where
  wrId : wr.wrId = (rc.encodeMyWr user 1).1
  progress : rc'.progress = (rc.progress.forward 1).2
  outSignaled : rc'.outSignaled = (rc.countSignaled wr.sendFlags).outSignaled
  queue : rc'.queue = rc.queue.took [wr]
  room : rc.queue.sq.length + rc.queue.cq.length < rc.queue.maxSendWr.toNat

theorem issued_of_post {user : U64} {wr : SendWr} {accepts : Nat} {rc rc' : SendRC}
    (wrId : wr.wrId = (rc.encodeMyWr user 1).1)
    (ok : ((rc.encodeMyWr user 1).2.countSignaled wr.sendFlags).post accepts [wr] = (.Ok, rc')) :
    Issued user wr rc rc' := by
  have same : (rc.encodeMyWr user 1).2.queue = rc.queue := rfl
  obtain ⟨result, room⟩ := post_ok ok
  rw [countSignaled_queue, same] at result room
  rw [List.length_singleton] at room
  have counted : ((rc.encodeMyWr user 1).2.countSignaled wr.sendFlags).outSignaled =
      (rc.countSignaled wr.sendFlags).outSignaled := by
    unfold countSignaled
    split <;> rfl
  subst result
  exact ⟨wrId, countSignaled_progress _ _, counted, rfl, by omega⟩

theorem sendNormal_ok {accepts : Nat} {desc : ReqDesc} {payload : ReqPayload} {localMr remoteMr : RegAttr}
    {rc rc' : SendRC} (ok : rc.sendNormal accepts desc payload localMr remoteMr = (.ok .Ok, rc')) :
    ∃ wr, wr.sendFlags = desc.flags ∧ Issued desc.wrId wr rc rc' := by
  unfold sendNormal at ok
  split at ok
  · let wr := desc.sendWr payload localMr remoteMr (rc.encodeMyWr desc.wrId 1).1
    have posted : ((rc.encodeMyWr desc.wrId 1).2.countSignaled wr.sendFlags).post accepts [wr] = (.Ok, rc') := by
      injection ok with code result
      injection code with code
      exact Prod.ext code result
    exact ⟨wr, rfl, issued_of_post rfl posted⟩
  · cases ok

theorem sendNormalBound_ok {accepts : Nat} {desc : ReqDesc} {payload : ReqPayload} {rc rc' : SendRC}
    (ok : rc.sendNormalBound accepts desc payload = (.ok .Ok, rc')) :
    ∃ wr, wr.sendFlags = desc.flags ∧ Issued desc.wrId wr rc rc' := by
  unfold sendNormalBound at ok
  split at ok
  · exact sendNormal_ok ok
  · cases ok

theorem execute_ok {accepts : Nat} {op : Op} {flags : U32} {wrId : U64} {rc rc' : SendRC}
    (ok : rc.execute accepts op flags wrId = (.Ok, rc')) : ∃ wr, wr.sendFlags = flags ∧ Issued wrId wr rc rc' :=
  ⟨_, rfl, issued_of_post rfl ok⟩

theorem completes_append (first rest : List WcStatus) (rc : SendRC) :
    (rc.completes first).completes rest = rc.completes (first ++ rest) := by
  rw [completes, completes, completes, List.foldl_append]

def taken (wc : SendWc) (cq : List SendWc) (rc : SendRC) : SendRC :=
  { rc with
    outSignaled := rc.outSignaled - 1
    queue := { rc.queue with cq := cq, polled := wc :: rc.queue.polled } }

theorem pollSendComp_fails {env : Poll} {rc : SendRC} (failed : env.fails = true) :
    rc.pollSendComp env = ((-1, env.junk), rc) := by
  unfold pollSendComp SendQueue.pollCq
  rw [failed]
  rfl

theorem pollSendComp_none {env : Poll} {rc : SendRC} (answered : env.fails = false) (empty : rc.queue.cq = []) :
    rc.pollSendComp env = ((0, env.junk), rc) := by
  unfold pollSendComp SendQueue.pollCq
  rw [answered, empty]
  rfl

theorem pollSendComp_some {env : Poll} {rc : SendRC} {wc : SendWc} {cq : List SendWc} (answered : env.fails = false)
    (head : rc.queue.cq = wc :: cq) : rc.pollSendComp env = ((1, wc), rc.taken wc cq) := by
  unfold pollSendComp SendQueue.pollCq
  rw [answered, head]
  rfl

def reap (wc : SendWc) (cq : List SendWc) (rc : SendRC) : SendRC :=
  { rc.taken wc cq with
    progress := rc.progress.done ((wc.wrId &&& bitmask 64 Progress.numProgressBits).setWidth 32) }

theorem pollRcComp_none {env : Poll} {rc : SendRC} (answered : env.fails = false) (empty : rc.queue.cq = []) :
    rc.pollRcComp env = (none, rc) := by
  unfold pollRcComp
  rw [pollSendComp_none answered empty]
  rfl

theorem pollRcComp_some {env : Poll} {rc : SendRC} {wc : SendWc} {cq : List SendWc} (answered : env.fails = false)
    (head : rc.queue.cq = wc :: cq) :
    rc.pollRcComp env = (some (wc.wrId >>> Progress.numProgressBits, wc), rc.reap wc cq) := by
  unfold pollRcComp
  rw [pollSendComp_some answered head]
  rfl

theorem pollWhile_last {α : Type} {poll : Poll → SendRC → α × SendRC} {again : α → Bool} (r : Round) (rest : List Round)
    (rc : SendRC) (idle : ∀ other ∈ r :: rest, ∀ rc, again (poll other.poll rc).1 → (poll other.poll rc).2 = rc) :
    ∃ statuses, ∃ last ∈ r :: rest, pollWhile poll again r rest rc = poll last.poll (rc.completes statuses) := by
  induction rest generalizing r rc with
  | nil => exact ⟨r.completes, r, List.mem_cons_self, rfl⟩
  | cons r' rest ih =>
    rw [pollWhile]
    have still := idle r List.mem_cons_self (rc.completes r.completes)
    generalize found : poll r.poll (rc.completes r.completes) = outcome at still
    obtain ⟨res, after⟩ := outcome
    by_cases more : again res
    · obtain ⟨statuses, last, member, same⟩ :=
        ih r' after (fun other member => idle other (List.mem_cons_of_mem _ member))
      have unchanged : after = rc.completes r.completes := still more
      simp only [more, ↓reduceIte]
      rw [same, unchanged, completes_append]
      exact ⟨r.completes ++ statuses, last, List.mem_cons_of_mem _ member, rfl⟩
    · simp only [more]
      exact ⟨r.completes, r, List.mem_cons_self, found.symm⟩

end SendRC

end RLib.Qps
