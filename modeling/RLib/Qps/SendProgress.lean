import RLib.Foundation.Run
import RLib.Qps.Send

namespace RLib.Qps

/-- The requests of a run as their poster counts them: how many there were, the place of the one reaped last, and
    place and id of each signaled one that was not reaped yet. -/
structure SendLog where
  posted : Nat := 0
  last : Nat := 0
  awaiting : List (Nat × U64) := []
deriving DecidableEq

namespace SendLog

def post (user : U64) (flags : U32) (log : SendLog) : SendLog :=
  { log with
    posted := log.posted + 1
    awaiting := log.awaiting ++ if signaled flags then [(log.posted + 1, user)] else [] }

def due (log : SendLog) : Option U64 := log.awaiting.head?.map Prod.snd

def reap (log : SendLog) : SendLog :=
  match log.awaiting with
  | [] => log
  | (place, _) :: awaiting => { log with last := place, awaiting := awaiting }

def pending (log : SendLog) : Nat := log.posted - log.last

end SendLog

/-- The call posts a request with this id and these flags, or reaps. -/
inductive SendEvent where
  | sendNormal (accepts : Nat) (desc : ReqDesc) (payload : ReqPayload) (mrs : Option (Proto.RegAttr × Proto.RegAttr))
      (fits : desc.wrId < 2 ^ 48)
  | execute (accepts : Nat) (op : Op) (flags : U32) (wrId : U64) (fits : wrId < 2 ^ 48)
  | complete (status : WcStatus)
  | pollRcComp (env : Poll) (answered : env.fails = false)
  | waitRcComp (wc : SendWc) (first : Round) (rest : List Round) (answered : ∀ r ∈ first :: rest, r.poll.fails = false)

/-- A reaped completion: the id that the call gave out for it, the id that was due, and whether the call is
    `wait_rc_comp` and the completion has an error status. -/
structure Reaped where
  given : Option U64
  due : Option U64
  refused : Bool
deriving DecidableEq

def Reaped.Right (r : Reaped) : Prop := r.due.isSome ∧ r.given = if r.refused then none else r.due

structure Sender where
  rc : SendRC
  log : SendLog := {}
  reaped : List Reaped := []
deriving DecidableEq

namespace Sender

def posted (user : U64) (flags : U32) (s : Sender) : Except Exit IOCode × SendRC → Option Sender
  | (.ok .Ok, rc) => some { s with rc := rc, log := s.log.post user flags }
  | _ => none

def reap (given : Option U64) (refused : Bool) (rc : SendRC) (s : Sender) : Sender :=
  { rc := rc, log := s.log.reap, reaped := ⟨given, s.log.due, refused⟩ :: s.reaped }

/-- The status of the completion polled last. -/
def failed (rc : SendRC) : Bool := rc.queue.polled.head?.any (fun wc => wc.status ≠ .IBV_WC_SUCCESS)

def step (s : Sender) : SendEvent → Option Sender
  | .sendNormal accepts desc payload mrs _ =>
    s.posted desc.wrId desc.flags <|
      match mrs with
      | none => s.rc.sendNormalBound accepts desc payload
      | some (localMr, remoteMr) => s.rc.sendNormal accepts desc payload localMr remoteMr
  | .execute accepts op flags wrId _ =>
    s.posted wrId flags (Prod.map .ok id (s.rc.execute accepts op flags wrId))
  | .complete status => some { s with rc := s.rc.completes [status] }
  | .pollRcComp env _ =>
    match s.rc.pollRcComp env with
    | (none, rc) => some { s with rc := rc }
    | (some (user, _), rc) => some (s.reap (some user) false rc)
  | .waitRcComp wc first rest _ =>
    match s.rc.waitRcComp wc first rest with
    | (⟨.Timeout, _⟩, rc) => some { s with rc := rc }
    | (⟨.Ok, (user, _)⟩, rc) => some (s.reap (some user) (failed rc) rc)
    | (_, rc) => some (s.reap none (failed rc) rc)

def start (maxSendWr : U32) (localMr remoteMr : Option Proto.RegAttr) : Sender where
  rc := { status := .Ok, localMr := localMr, remoteMr := remoteMr, queue := { maxSendWr := maxSendWr } }

end Sender

/-- The requests whose completions are still to be polled, in order. -/
def SendQueue.due (q : SendQueue) : List U64 :=
  q.cq.map SendWc.wrId ++ (q.sq.filter SendWr.signaled).map SendWr.wrId

theorem SendQueue.due_took (wr : SendWr) (q : SendQueue) :
    (q.took [wr]).due = q.due ++ if wr.signaled then [wr.wrId] else [] := by
  unfold due took
  rw [List.filter_append, List.map_append, ← List.append_assoc]
  congr 1
  cases signals : wr.signaled with
  | false => rw [List.filter_singleton, signals]; rfl
  | true => rw [List.filter_singleton, signals]; rfl

theorem SendQueue.due_complete (status : WcStatus) (q : SendQueue) : (q.complete status).due = q.due := by
  unfold complete
  cases first : q.sq with
  | nil => rfl
  | cons wr sq =>
    rw [due, due, first, List.filter_cons, List.map_append, List.append_assoc]
    congr 1
    cases wr.signaled with
    | false => rfl
    | true => rfl

theorem SendRC.due_completes (statuses : List WcStatus) (rc : SendRC) :
    (rc.completes statuses).queue.due = rc.queue.due := by
  unfold completes
  simp only
  generalize rc.queue = q
  induction statuses generalizing q with
  | nil => rfl
  | cons status statuses ih => rw [List.foldl_cons, ih, SendQueue.due_complete]

theorem SendRC.pollRcComp_last {first : Round} {rest : List Round}
    (answered : ∀ r ∈ first :: rest, r.poll.fails = false) (rc : SendRC) :
    ∃ statuses, ∃ last ∈ first :: rest,
      pollWhile (fun env rc => rc.pollRcComp env) (fun res => res.isNone) first rest rc =
      (rc.completes statuses).pollRcComp last.poll := by
  apply pollWhile_last
  intro other member rc none
  cases head : rc.queue.cq with
  | nil => rw [pollRcComp_none (answered other member) head]
  | cons wc cq =>
    rw [pollRcComp_some (answered other member) head] at none
    cases none

/-- The `wr_id` of the request at a place of the run, with the id its user gave it. -/
def encoded (request : Nat × U64) : U64 :=
  (request.2 <<< Progress.numProgressBits) ||| (BitVec.ofNat 16 request.1).setWidth 64

theorem encoded_toNat (request : Nat × U64) :
    (encoded request).toNat = request.2.toNat % 2 ^ 48 * 2 ^ 16 + request.1 % 2 ^ 16 := by
  have shifted : (request.2 <<< Progress.numProgressBits).toNat = (request.2.toNat % 2 ^ 48) <<< 16 := by
    rw [BitVec.toNat_shiftLeft, Progress.numProgressBits, Nat.shiftLeft_eq, Nat.shiftLeft_eq]
    omega
  have mark : ((BitVec.ofNat 16 request.1).setWidth 64).toNat = request.1 % 2 ^ 16 := by
    rw [BitVec.toNat_setWidth, BitVec.toNat_ofNat]
    omega
  rw [encoded, BitVec.toNat_or, shifted, mark, ← Nat.shiftLeft_add_eq_or_of_lt (Nat.mod_lt _ (by decide)),
    Nat.shiftLeft_eq]

theorem encoded_mark (request : Nat × U64) (p : Progress) :
    (p.done ((encoded request &&& bitmask 64 Progress.numProgressBits).setWidth 32)).lowWatermark =
      BitVec.ofNat 16 request.1 := by
  have mask : (bitmask 64 Progress.numProgressBits).toNat = 2 ^ 16 - 1 := by decide
  apply BitVec.eq_of_toNat_eq
  unfold Progress.done
  rw [BitVec.toNat_setWidth, BitVec.toNat_setWidth, BitVec.toNat_and, mask, Nat.and_two_pow_sub_one_eq_mod,
    encoded_toNat, BitVec.toNat_ofNat]
  omega

/-- The marks are the counts of the log but for their width, and the completions still to come are those of the
    requests the log waits for. -/
structure Logged (rc : SendRC) (log : SendLog) : Prop where
  high : rc.progress.highWatermark = BitVec.ofNat 16 log.posted
  low : rc.progress.lowWatermark = BitVec.ofNat 16 log.last
  last_le : log.last ≤ log.posted
  due : rc.queue.due = log.awaiting.map encoded
  places : ∀ request ∈ log.awaiting, request.1 ≤ log.posted

namespace Logged

variable {rc rc' : SendRC} {log : SendLog}

theorem issued {user : U64} {wr : SendWr} (logged : Logged rc log) (issued : SendRC.Issued user wr rc rc') :
    Logged rc' (log.post user wr.sendFlags) where
  high := by
    rw [issued.progress]
    change rc.progress.highWatermark + 1 = BitVec.ofNat 16 (log.posted + 1)
    rw [logged.high, BitVec.ofNat_add]
    rfl
  low := by
    rw [issued.progress]
    exact logged.low
  last_le := Nat.le_succ_of_le logged.last_le
  due := by
    have id : wr.wrId = encoded (log.posted + 1, user) := by
      rw [issued.wrId, encoded, BitVec.ofNat_add, ← logged.high]
      rfl
    rw [issued.queue, SendQueue.due_took, logged.due, id, SendLog.post, List.map_append]
    congr 1
    unfold SendWr.signaled
    split
    · rfl
    · rfl
  places := by
    intro request member
    rcases List.mem_append.mp member with old | new
    · exact Nat.le_succ_of_le (logged.places request old)
    · split at new
      · cases List.mem_singleton.mp new
        exact Nat.le_refl _
      · cases new

theorem completes (logged : Logged rc log) (statuses : List WcStatus) : Logged (rc.completes statuses) log where
  high := logged.high
  low := logged.low
  last_le := logged.last_le
  due := by
    rw [SendRC.due_completes]
    exact logged.due
  places := logged.places

theorem first {wc : SendWc} {cq : List SendWc} (logged : Logged rc log) (head : rc.queue.cq = wc :: cq) :
    ∃ request awaiting, log.awaiting = request :: awaiting ∧ wc.wrId = encoded request ∧
      cq.map SendWc.wrId ++ (rc.queue.sq.filter SendWr.signaled).map SendWr.wrId = awaiting.map encoded := by
  have due := logged.due
  rw [SendQueue.due, head] at due
  cases waits : log.awaiting with
  | nil =>
    rw [waits] at due
    cases due
  | cons request awaiting =>
    rw [waits] at due
    injection due with same rest
    exact ⟨request, awaiting, rfl, same, rest⟩

theorem reap {wc : SendWc} {cq : List SendWc} (logged : Logged rc log) (head : rc.queue.cq = wc :: cq) :
    Logged (rc.reap wc cq) log.reap := by
  obtain ⟨request, awaiting, waits, same, rest⟩ := logged.first head
  have reaped : log.reap = { log with last := request.1, awaiting := awaiting } := by
    rw [SendLog.reap, waits]
  rw [reaped]
  exact {
    high := logged.high
    low := by
      rw [← encoded_mark request rc.progress, ← same]
      rfl
    last_le := logged.places request (by rw [waits]; exact List.mem_cons_self)
    due := rest
    places := fun other member => logged.places other (by rw [waits]; exact List.mem_cons_of_mem _ member) }

end Logged

theorem SendRC.waitRcComp_cases (wc : SendWc) {first : Round} {rest : List Round}
    (answered : ∀ r ∈ first :: rest, r.poll.fails = false) (rc : SendRC) :
    ∃ statuses, (rc.waitRcComp wc first rest = (⟨.Timeout, (0, wc)⟩, rc.completes statuses)) ∨
      ∃ found cq, (rc.completes statuses).queue.cq = found :: cq ∧
        rc.waitRcComp wc first rest =
          (if found.status ≠ .IBV_WC_SUCCESS then ⟨.Err, (0, wc)⟩
            else ⟨.Ok, (found.wrId >>> Progress.numProgressBits, found)⟩,
            (rc.completes statuses).reap found cq) := by
  obtain ⟨statuses, last, member, same⟩ := SendRC.pollRcComp_last answered rc
  refine ⟨statuses, ?_⟩
  unfold SendRC.waitRcComp
  cases head : (rc.completes statuses).queue.cq with
  | nil =>
    left
    simp only [same, SendRC.pollRcComp_none (answered last member) head]
  | cons found cq =>
    right
    refine ⟨found, cq, rfl, ?_⟩
    simp only [same, SendRC.pollRcComp_some (answered last member) head]
    split
    · rfl
    · rfl

namespace Sender

/-- The marks and the completions still to come are those of the log, every id fits, and what was reaped is right. -/
structure Tracked (s : Sender) : Prop where
  high : s.rc.progress.highWatermark = BitVec.ofNat 16 s.log.posted
  low : s.rc.progress.lowWatermark = BitVec.ofNat 16 s.log.last
  last_le : s.log.last ≤ s.log.posted
  due : s.rc.queue.due = s.log.awaiting.map encoded
  awaiting : ∀ request ∈ s.log.awaiting, request.1 ≤ s.log.posted ∧ request.2 < 2 ^ 48
  right : ∀ r ∈ s.reaped, r.Right

theorem Tracked.logged {s : Sender} (tracked : s.Tracked) : Logged s.rc s.log :=
  ⟨tracked.high, tracked.low, tracked.last_le, tracked.due, fun request member => (tracked.awaiting request member).1⟩

/-- Each reaped completion gave out the id that was due, and `pending_reqs` counts the requests posted since
    the one reaped last as long as 16 bits can. -/
def Kept (s : Sender) : Prop :=
  (∀ r ∈ s.reaped, r.Right) ∧
    (s.log.pending ≤ 65535 → s.rc.progress.pendingReqs.toNat = s.log.pending)

theorem Tracked.kept {s : Sender} (tracked : s.Tracked) : s.Kept := by
  have le := tracked.last_le
  constructor
  · exact tracked.right
  · intro near
    rw [Progress.pendingReqs_eq, tracked.high, tracked.low, BitVec.toNat_sub, BitVec.toNat_ofNat, BitVec.toNat_ofNat]
    unfold SendLog.pending at near ⊢
    omega

end Sender

end RLib.Qps
