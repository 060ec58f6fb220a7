import RLib.Qps.SendProgress
import RLib.Qps.SignalCount

namespace RLib.Qps

/-- The NIC takes one more request. -/
def SendRC.Takes (accepts : Nat) (rc : SendRC) : Prop :=
  0 < accepts ∧ rc.queue.sq.length + rc.queue.cq.length < rc.queue.maxSendWr.toNat

inductive PostEvent where
  | sendNormal (accepts : Nat) (desc : ReqDesc) (payload : ReqPayload) (mrs : Option (Proto.RegAttr × Proto.RegAttr))
  | execute (accepts : Nat) (op : Op) (flags : U32) (wrId : U64)
  | complete (status : WcStatus)
  | pollRcComp (env : Poll) (answered : env.fails = false)
  | waitRcComp (wc : SendWc) (first : Round) (rest : List Round) (answered : ∀ r ∈ first :: rest, r.poll.fails = false)

/-- An RC with the log of the requests that the NIC took, and whether each call that failed returned `Err` with the
    counters as they were. -/
structure Accounting where
  rc : SendRC
  log : SendLog := {}
  intact : Bool := true
deriving DecidableEq

namespace Accounting

def called (user : U64) (flags : U32) (s : Accounting) : Except Exit IOCode × SendRC → Option Accounting
  | (.ok .Ok, rc) => some { s with rc := rc, log := s.log.post user flags }
  | (.ok code, rc) =>
    some { s with
      rc := rc
      intact := s.intact &&
        decide (code = .Err ∧ rc.progress = s.rc.progress ∧ rc.outSignaled = s.rc.outSignaled) }
  | (.error _, _) => none

def step (s : Accounting) : PostEvent → Option Accounting
  | .sendNormal accepts desc payload none => s.called desc.wrId desc.flags (s.rc.sendNormalBound accepts desc payload)
  | .sendNormal accepts desc payload (some mrs) =>
    s.called desc.wrId desc.flags (s.rc.sendNormal accepts desc payload mrs.1 mrs.2)
  | .execute accepts op flags wrId => s.called wrId flags (Prod.map .ok id (s.rc.execute accepts op flags wrId))
  | .complete status => some { s with rc := s.rc.completes [status] }
  | .pollRcComp env _ =>
    match s.rc.pollRcComp env with
    | (none, rc) => some { s with rc := rc }
    | (some _, rc) => some { s with rc := rc, log := s.log.reap }
  | .waitRcComp wc first rest _ =>
    match s.rc.waitRcComp wc first rest with
    | (⟨.Timeout, _⟩, rc) => some { s with rc := rc }
    | (_, rc) => some { s with rc := rc, log := s.log.reap }

def lastSignaled (s : Accounting) : Bool := s.rc.queue.posted.head?.any SendWr.signaled

/-- No failed call moved a counter, the counters count requests that the NIC took, and they return to zero. -/
structure Sound (s : Accounting) : Prop where
  intact : s.intact = true
  pending : s.log.pending ≤ 65535 → s.rc.progress.pendingReqs.toNat = s.log.pending
  ongoing : s.rc.outSignaled.toNat = s.log.awaiting.length
  settled : s.log.awaiting = [] → s.lastSignaled → s.rc.progress.pendingReqs = 0 ∧ s.rc.outSignaled = 0

/-- A post finds the NIC ready to take its request. -/
def Posts (s : Accounting) : PostEvent → Prop
  | .sendNormal accepts _ _ _ => s.rc.Takes accepts
  | .execute accepts _ _ _ => s.rc.Takes accepts
  | _ => True

end Accounting

/-- The place of the request after whose completion no signaled one is awaited. -/
def SendLog.lastMark (log : SendLog) : Nat := (log.awaiting.map Prod.fst).getLast?.getD log.last

namespace Accounting

structure Accounted (s : Accounting) : Prop where
  logged : Logged s.rc s.log
  room : s.rc.queue.sq.length + s.rc.queue.cq.length ≤ s.rc.queue.maxSendWr.toNat
  ongoing : s.rc.outSignaled.toNat = s.log.awaiting.length
  marked : s.lastSignaled → s.log.lastMark = s.log.posted
  intact : s.intact = true

def start (maxSendWr : U32) (localMr remoteMr : Option Proto.RegAttr) : Accounting where
  rc := { status := .Ok, localMr := localMr, remoteMr := remoteMr, queue := { maxSendWr := maxSendWr } }

theorem start_accounted (maxSendWr : U32) (localMr remoteMr : Option Proto.RegAttr) :
    (start maxSendWr localMr remoteMr).Accounted where
  logged := ⟨rfl, rfl, Nat.le_refl _, rfl, nofun⟩
  room := Nat.zero_le _
  ongoing := rfl
  marked := nofun
  intact := rfl

theorem Accounted.sound {s : Accounting} (accounted : s.Accounted) : s.Sound where
  intact := accounted.intact
  pending := by
    have logged := accounted.logged
    have le := logged.last_le
    intro near
    rw [Progress.pendingReqs_eq, logged.high, logged.low, BitVec.toNat_sub, BitVec.toNat_ofNat, BitVec.toNat_ofNat]
    unfold SendLog.pending at near ⊢
    omega
  ongoing := accounted.ongoing
  settled := by
    intro none' signals
    have logged := accounted.logged
    have ongoing := accounted.ongoing
    have marked := accounted.marked signals
    rw [none'] at ongoing
    rw [SendLog.lastMark, none'] at marked
    have reached : s.log.last = s.log.posted := marked
    constructor
    · rw [Progress.pendingReqs_eq, logged.high, logged.low, reached]
      exact BitVec.sub_self _
    · exact BitVec.eq_of_toNat_eq ongoing

end Accounting

namespace SendRC

theorem post_taken {accepts : Nat} {wr : SendWr} {rc : SendRC} (takes : rc.Takes accepts) :
    rc.post accepts [wr] = (.Ok, { rc with queue := rc.queue.took [wr] }) := by
  obtain ⟨ready, room⟩ := takes
  have all : [wr].take (min accepts (rc.queue.maxSendWr.toNat - (rc.queue.sq.length + rc.queue.cq.length))) = [wr] :=
    List.take_of_length_le (by rw [List.length_singleton]; omega)
  unfold post SendQueue.postSend
  rw [all]
  rfl

theorem post_refused {accepts : Nat} {wr : SendWr} {rc : SendRC} (refuses : ¬ rc.Takes accepts) :
    rc.post accepts [wr] = (.Err, rc) := by
  have none' : min accepts (rc.queue.maxSendWr.toNat - (rc.queue.sq.length + rc.queue.cq.length)) = 0 := by
    by_contra some'
    exact refuses ⟨by omega, by omega⟩
  unfold post SendQueue.postSend
  simp only [none', List.take_zero, List.append_nil]
  rfl

/-- A call that encodes the user's id, counts the request if it is signaled and posts it. -/
def PostsOne (user : U64) (flags : U32) (accepts : Nat) (rc : SendRC) (outcome : Except Exit IOCode × SendRC) : Prop :=
  ∃ wr, wr.sendFlags = flags ∧ wr.wrId = (rc.encodeMyWr user 1).1 ∧
    outcome = Prod.map .ok id (((rc.encodeMyWr user 1).2.countSignaled flags).post accepts [wr])

theorem sendNormal_postsOne (accepts : Nat) (desc : ReqDesc) (payload : ReqPayload) (localMr remoteMr : Proto.RegAttr)
    (rc : SendRC) : rc.sendNormal accepts desc payload localMr remoteMr = (.error .abort, rc) ∨
      PostsOne desc.wrId desc.flags accepts rc (rc.sendNormal accepts desc payload localMr remoteMr) := by
  unfold sendNormal
  by_cases ready : rc.status = .Ok
  · rw [if_pos ready]
    exact .inr ⟨desc.sendWr payload localMr remoteMr (rc.encodeMyWr desc.wrId 1).1, rfl, rfl, rfl⟩
  · rw [if_neg ready]
    exact .inl rfl

theorem sendNormalBound_postsOne (accepts : Nat) (desc : ReqDesc) (payload : ReqPayload) (rc : SendRC) :
    (∃ e, rc.sendNormalBound accepts desc payload = (.error e, rc)) ∨
      PostsOne desc.wrId desc.flags accepts rc (rc.sendNormalBound accepts desc payload) := by
  unfold sendNormalBound
  split
  · rcases sendNormal_postsOne accepts desc payload _ _ rc with aborted | posts
    · exact .inl ⟨_, aborted⟩
    · exact .inr posts
  · exact .inl ⟨_, rfl⟩

theorem execute_postsOne (accepts : Nat) (op : Op) (flags : U32) (wrId : U64) (rc : SendRC) :
    PostsOne wrId flags accepts rc (Prod.map .ok id (rc.execute accepts op flags wrId)) :=
  ⟨_, rfl, rfl, rfl⟩

theorem encodeMyWr_moves (user : U64) (flags : U32) (rc : SendRC) :
    ((rc.encodeMyWr user 1).2.countSignaled flags).progress ≠ rc.progress := by
  rw [countSignaled_progress]
  intro same
  have high : rc.progress.highWatermark + 1 = rc.progress.highWatermark := congrArg Progress.highWatermark same
  have bound := rc.progress.highWatermark.isLt
  have count := congrArg BitVec.toNat high
  rw [BitVec.toNat_add] at count
  change (rc.progress.highWatermark.toNat + 1) % 2 ^ 16 = _ at count
  omega

theorem takes_counted (user : U64) (flags : U32) (accepts : Nat) (rc : SendRC) :
    ((rc.encodeMyWr user 1).2.countSignaled flags).Takes accepts ↔ rc.Takes accepts := by
  unfold Takes
  rw [countSignaled_queue]
  rfl

end SendRC

namespace Accounting

variable {s t : Accounting} {user : U64} {flags : U32} {accepts : Nat} {outcome : Except Exit IOCode × SendRC}

theorem called_intact (intact : s.intact = true) (posts : SendRC.PostsOne user flags accepts s.rc outcome)
    (happens : s.called user flags outcome = some t) : t.intact = true ↔ s.rc.Takes accepts := by
  obtain ⟨wr, _, _, result⟩ := posts
  subst result
  by_cases takes : s.rc.Takes accepts
  · rw [SendRC.post_taken ((SendRC.takes_counted user flags accepts s.rc).mpr takes)] at happens
    cases happens
    exact iff_of_true intact takes
  · rw [SendRC.post_refused (fun counted => takes ((SendRC.takes_counted user flags accepts s.rc).mp counted))]
      at happens
    cases happens
    refine iff_of_false ?_ takes
    intro kept
    rw [Bool.and_eq_true] at kept
    exact SendRC.encodeMyWr_moves user flags s.rc (of_decide_eq_true kept.2).2.1

theorem called_issued (posts : SendRC.PostsOne user flags accepts s.rc outcome) (takes : s.rc.Takes accepts)
    (happens : s.called user flags outcome = some t) :
    ∃ wr rc, SendRC.Issued user wr s.rc rc ∧ t = { s with rc := rc, log := s.log.post user wr.sendFlags } := by
  obtain ⟨wr, same, wrId, result⟩ := posts
  subst result
  subst same
  have taken : ((s.rc.encodeMyWr user 1).2.countSignaled wr.sendFlags).post accepts [wr] = (.Ok, _) :=
    SendRC.post_taken ((SendRC.takes_counted user wr.sendFlags accepts s.rc).mpr takes)
  have issued := SendRC.issued_of_post wrId taken
  rw [taken] at happens
  cases happens
  exact ⟨wr, _, issued, rfl⟩

theorem Accounted.awaiting_length (accounted : s.Accounted) :
    s.log.awaiting.length = s.rc.queue.cq.length + s.rc.queue.sq.countP SendWr.signaled := by
  have due := congrArg List.length accounted.logged.due
  rw [SendQueue.due, List.length_append, List.length_map, List.length_map, List.length_map,
    ← List.countP_eq_length_filter] at due
  exact due.symm

theorem Accounted.issued {wr : SendWr} {rc : SendRC} (accounted : s.Accounted)
    (issued : SendRC.Issued user wr s.rc rc) :
    Accounted { s with rc := rc, log := s.log.post user wr.sendFlags } where
  logged := accounted.logged.issued issued
  room := by
    have room := issued.room
    change rc.queue.sq.length + rc.queue.cq.length ≤ rc.queue.maxSendWr.toNat
    rw [issued.queue]
    simp only [SendQueue.took_sq, SendQueue.took_cq, SendQueue.took_maxSendWr, List.length_append,
      List.length_singleton]
    omega
  ongoing := by
    have awaited := accounted.awaiting_length
    have ongoing := accounted.ongoing
    have room := issued.room
    have bound := s.rc.queue.maxSendWr.isLt
    have fewer := List.countP_le_length (p := SendWr.signaled) (l := s.rc.queue.sq)
    change rc.outSignaled.toNat = (s.log.awaiting ++ _).length
    rw [issued.outSignaled, SendRC.countSignaled]
    split
    · rw [BitVec.toNat_add]
      change (s.rc.outSignaled.toNat + 1) % 2 ^ 32 = _
      rw [List.length_append, List.length_singleton]
      omega
    · rw [List.append_nil]
      exact ongoing
  marked := by
    intro signals
    have head : ({ s with rc := rc, log := s.log.post user wr.sendFlags } : Accounting).lastSignaled =
        signaled wr.sendFlags := by
      unfold lastSignaled
      simp only [issued.queue]
      rfl
    rw [head] at signals
    unfold SendLog.lastMark SendLog.post
    simp only [signals, ↓reduceIte, List.map_append, List.map_cons, List.map_nil, List.getLast?_concat,
      Option.getD_some]
  intact := accounted.intact

theorem Accounted.completes (accounted : s.Accounted) (statuses : List WcStatus) :
    Accounted { s with rc := s.rc.completes statuses } := by
  have advances := s.rc.completes_advances statuses
  refine ⟨accounted.logged.completes statuses, ?_, accounted.ongoing, ?_, accounted.intact⟩
  · have room := accounted.room
    change (s.rc.completes statuses).queue.sq.length + (s.rc.completes statuses).queue.cq.length ≤
      (s.rc.completes statuses).queue.maxSendWr.toNat
    rw [advances.maxSendWr]
    exact advances.room.trans room
  · unfold lastSignaled
    simp only [advances.posted]
    exact accounted.marked

theorem Accounted.reap {wc : SendWc} {cq : List SendWc} (accounted : s.Accounted) (head : s.rc.queue.cq = wc :: cq) :
    Accounted { s with rc := s.rc.reap wc cq, log := s.log.reap } := by
  obtain ⟨request, awaiting, waits, _, _⟩ := accounted.logged.first head
  have reaped : s.log.reap = { s.log with last := request.1, awaiting := awaiting } := by
    rw [SendLog.reap, waits]
  refine ⟨accounted.logged.reap head, ?_, ?_, ?_, accounted.intact⟩
  · have room := accounted.room
    rw [head, List.length_cons] at room
    change s.rc.queue.sq.length + cq.length ≤ s.rc.queue.maxSendWr.toNat
    omega
  · have ongoing := accounted.ongoing
    rw [waits, List.length_cons] at ongoing
    change (s.rc.outSignaled - 1).toNat = s.log.reap.awaiting.length
    rw [reaped, BitVec.toNat_sub]
    change (2 ^ 32 - 1 + s.rc.outSignaled.toNat) % 2 ^ 32 = awaiting.length
    have bound := s.rc.outSignaled.isLt
    omega
  · intro signals
    have marked := accounted.marked signals
    change s.log.reap.lastMark = s.log.reap.posted
    rw [SendLog.lastMark, waits, List.map_cons, List.getLast?_cons] at marked
    rw [reaped, SendLog.lastMark]
    exact marked

theorem pollRcComp_accounted {env : Poll} {answered : env.fails = false}
    (happens : s.step (.pollRcComp env answered) = some t) :
    t.intact = s.intact ∧ (s.Accounted → t.Accounted) := by
  cases head : s.rc.queue.cq with
  | nil =>
    simp only [step, SendRC.pollRcComp_none answered head] at happens
    cases happens
    exact ⟨rfl, id⟩
  | cons wc cq =>
    simp only [step, SendRC.pollRcComp_some answered head] at happens
    cases happens
    exact ⟨rfl, fun accounted => accounted.reap head⟩

theorem waitRcComp_accounted {wc : SendWc} {first : Round} {rest : List Round}
    {answered : ∀ r ∈ first :: rest, r.poll.fails = false}
    (happens : s.step (.waitRcComp wc first rest answered) = some t) :
    t.intact = s.intact ∧ (s.Accounted → t.Accounted) := by
  obtain ⟨statuses, result | ⟨found, cq, head, result⟩⟩ := SendRC.waitRcComp_cases wc answered s.rc
  · simp only [step, result] at happens
    cases happens
    exact ⟨rfl, fun accounted => accounted.completes statuses⟩
  · have reaped : t = { s with rc := (s.rc.completes statuses).reap found cq, log := s.log.reap } := by
      simp only [step, result] at happens
      by_cases success : found.status = .IBV_WC_SUCCESS
      · simp only [success, ne_eq, not_true_eq_false, ↓reduceIte] at happens
        cases happens
        rfl
      · simp only [success, ne_eq, not_false_eq_true, ↓reduceIte] at happens
        cases happens
        rfl
    rw [reaped]
    exact ⟨rfl, fun accounted => (accounted.completes statuses).reap head⟩

theorem step_cases {e : PostEvent} (happens : s.step e = some t) :
    (∃ user flags accepts outcome, SendRC.PostsOne user flags accepts s.rc outcome ∧
      s.called user flags outcome = some t ∧ (s.Posts e ↔ s.rc.Takes accepts)) ∨
    (s.Posts e ∧ t.intact = s.intact ∧ (s.Accounted → t.Accounted)) := by
  cases e with
  | sendNormal accepts desc payload mrs =>
    left
    cases mrs with
    | none =>
      rcases s.rc.sendNormalBound_postsOne accepts desc payload with ⟨e, stopped⟩ | posts
      · simp only [step, stopped] at happens
        cases happens
      · exact ⟨_, _, _, _, posts, happens, Iff.rfl⟩
    | some mrs =>
      rcases s.rc.sendNormal_postsOne accepts desc payload mrs.1 mrs.2 with aborted | posts
      · simp only [step, aborted] at happens
        cases happens
      · exact ⟨_, _, _, _, posts, happens, Iff.rfl⟩
  | execute accepts op flags wrId =>
    exact .inl ⟨_, _, _, _, s.rc.execute_postsOne accepts op flags wrId, happens, Iff.rfl⟩
  | complete status =>
    cases happens
    exact .inr ⟨trivial, rfl, fun accounted => accounted.completes [status]⟩
  | pollRcComp env answered => exact .inr ⟨trivial, pollRcComp_accounted happens⟩
  | waitRcComp wc first rest answered => exact .inr ⟨trivial, waitRcComp_accounted happens⟩

theorem step_intact {e : PostEvent} (intact : s.intact = true) (happens : s.step e = some t) :
    t.intact = true ↔ s.Posts e := by
  rcases step_cases happens with ⟨user, flags, accepts, outcome, posts, called, takes⟩ | ⟨posts, same, _⟩
  · rw [takes]
    exact called_intact intact posts called
  · rw [same]
    exact iff_of_true intact posts

theorem step_accounted {e : PostEvent} (accounted : s.Accounted) (posts : s.Posts e) (happens : s.step e = some t) :
    t.Accounted := by
  rcases step_cases happens with ⟨user, flags, accepts, outcome, one, called, takes⟩ | ⟨_, _, kept⟩
  · obtain ⟨wr, rc, issued, same⟩ := called_issued one (takes.mp posts) called
    rw [same]
    exact accounted.issued issued
  · exact kept accounted

/-- In any run from any state no failed call moves a counter exactly when no post fails; and from a state in which the
    counters count right they keep counting right, and return to zero, exactly when no post fails. -/
theorem counters_kept_iff (s : Accounting) (intact : s.intact = true) (es : List PostEvent) :
    (Run.Throughout step (fun t => t.intact = true) s es ↔ Run.Along step Posts s es) ∧
      (s.Accounted → (Run.Throughout step Sound s es ↔ Run.Along step Posts s es)) := by
  have all : Run.Along step (fun _ _ => True) s es := Run.along_of_forall fun _ _ _ => trivial
  constructor
  · exact Run.throughout_iff_along_met (fun s e t _ _ intact happens => step_intact intact happens)
      (fun _ _ _ _ _ _ _ _ => trivial) trivial intact all
  · intro accounted
    have keeps : ∀ s e t, True → Accounted s → Sound s → step s e = some t → (Sound t ↔ Posts s e) := by
      intro s e t _ accounted _ happens
      have kept := step_intact accounted.intact happens
      exact ⟨fun sound => kept.mp sound.intact, fun posts => (step_accounted accounted posts happens).sound⟩
    have accounted_next : ∀ s e t, True → Accounted s → Sound s → Posts s e → step s e = some t → Accounted t :=
      fun s e t _ accounted _ posts happens => step_accounted accounted posts happens
    exact Run.throughout_iff_along_met keeps accounted_next accounted accounted.sound all

def signaledOnce : List PostEvent :=
  [.execute 1 {} IBV_SEND_SIGNALED 7, .waitRcComp ⟨0, .IBV_WC_SUCCESS⟩ { completes := [.IBV_WC_SUCCESS] } []
    (fun r member => by rw [List.mem_singleton.mp member])]

theorem counters_kept_iff_once :
    (Run.Throughout step (fun t => t.intact = true) (start 16 none none) signaledOnce ↔
        Run.Along step Posts (start 16 none none) signaledOnce) ∧
      (Run.Throughout step Sound (start 16 none none) signaledOnce ↔
        Run.Along step Posts (start 16 none none) signaledOnce) :=
  have kept := counters_kept_iff (start 16 none none) rfl signaledOnce
  ⟨kept.1, kept.2 (start_accounted 16 none none)⟩

/-- A signaled request that `ibv_post_send` refuses leaves one request pending and one signaled, for good. -/
theorem refused_execute_counts :
    (Run.run step (start 16 none none) [.execute 0 {} IBV_SEND_SIGNALED 7]).map (fun s =>
        (s.rc.queue.posted, s.rc.progress.pendingReqs, s.rc.outSignaled, s.intact)) = some ([], 1, 1, false) ∧
      ¬Run.Throughout step Sound (start 16 none none) [.execute 0 {} IBV_SEND_SIGNALED 7] := by
  have ran : (Run.run step (start 16 none none) [.execute 0 {} IBV_SEND_SIGNALED 7]).map (fun s =>
      (s.rc.queue.posted, s.rc.progress.pendingReqs, s.rc.outSignaled, s.intact)) = some ([], 1, 1, false) := by decide
  refine ⟨ran, ?_⟩
  intro throughout
  obtain ⟨s, reached, parts⟩ := Option.map_eq_some_iff.mp ran
  injection parts with _ parts
  injection parts with _ parts
  injection parts with _ moved
  have kept := (throughout.run reached).intact
  rw [moved] at kept
  cases kept

end Accounting

end RLib.Qps
