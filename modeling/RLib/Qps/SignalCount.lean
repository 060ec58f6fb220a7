import RLib.Foundation.Run
import RLib.Qps.Send

namespace RLib.Qps

inductive SignalEvent where
  | sendNormal (accepts : Nat) (desc : ReqDesc) (payload : ReqPayload) (mrs : Option (Proto.RegAttr × Proto.RegAttr))
  | execute (accepts : Nat) (op : Op) (flags : U32) (wrId : U64)
  | executeBatch (accepts : Nat) (op : Op)
  | complete (status : WcStatus)
  | pollSendComp (env : Poll)
  | waitOneComp (first : Round) (rest : List Round)
  | pollRcComp (env : Poll)
  | waitRcComp (wc : SendWc) (first : Round) (rest : List Round)

/-- An RC, and whether a completion was ever polled while its counter stood at zero. -/
structure Signaling where
  rc : SendRC
  wrapped : Bool := false
deriving DecidableEq

namespace Signaling

def next (s : Signaling) (rc : SendRC) : Signaling where
  rc := rc
  wrapped := s.wrapped || (s.rc.outSignaled = 0 && s.rc.queue.polled.length < rc.queue.polled.length)

/-- A call that posts all it is given. -/
def posts (s : Signaling) : Except Exit IOCode × SendRC → Option Signaling
  | (.ok .Ok, rc) => some (s.next rc)
  | _ => none

def step (s : Signaling) : SignalEvent → Option Signaling
  | .sendNormal accepts desc payload none => s.posts (s.rc.sendNormalBound accepts desc payload)
  | .sendNormal accepts desc payload (some mrs) => s.posts (s.rc.sendNormal accepts desc payload mrs.1 mrs.2)
  | .execute accepts op flags wrId => s.posts (Prod.map .ok id (s.rc.execute accepts op flags wrId))
  | .executeBatch accepts op => s.posts (Prod.map .ok id (s.rc.executeBatch accepts op))
  | .complete status => some (s.next (s.rc.completes [status]))
  | .pollSendComp env => some (s.next (s.rc.pollSendComp env).2)
  | .waitOneComp first rest => some (s.next (s.rc.waitOneComp first rest).2)
  | .pollRcComp env => some (s.next (s.rc.pollRcComp env).2)
  | .waitRcComp wc first rest => some (s.next (s.rc.waitRcComp wc first rest).2)

/-- `out_signaled` is the number of signaled requests posted less that of completions polled, and was never
    decremented at zero. -/
def Counted (s : Signaling) : Prop :=
  (s.rc.outSignaled.toNat : Int) = s.rc.queue.posted.countP SendWr.signaled - s.rc.queue.polled.length ∧
    s.wrapped = false

/-- The call posts no chain on which a request behind the first is signaled. -/
def SignalsHead (_ : Signaling) : SignalEvent → Prop
  | .executeBatch _ op => ∀ wr ∈ op.next, wr.signaled = false
  | _ => True

/-- Each signaled request is under way, completed or polled, and the queue holds no more than it has room for. -/
structure Balanced (s : Signaling) : Prop where
  balance : s.rc.queue.posted.countP SendWr.signaled =
    s.rc.queue.polled.length + (s.rc.queue.cq.length + s.rc.queue.sq.countP SendWr.signaled)
  room : s.rc.queue.sq.length + s.rc.queue.cq.length ≤ s.rc.queue.maxSendWr.toNat

structure PostsChain (rc rc' : SendRC) (wr : SendWr) (wrs : List SendWr) : Prop where
  took : rc'.queue = rc.queue.took (wr :: wrs)
  outSignaled : rc'.outSignaled = (rc.countSignaled wr.sendFlags).outSignaled
  room : (wr :: wrs).length ≤ rc.queue.maxSendWr.toNat - (rc.queue.sq.length + rc.queue.cq.length)

theorem posted_balanced {s : Signaling} {rc : SendRC} {wr : SendWr} {wrs : List SendWr} (balanced : s.Balanced)
    (posts : PostsChain s.rc rc wr wrs) : (s.next rc).Balanced where
  balance := by
    have took := posts.took
    change rc.queue.posted.countP SendWr.signaled =
      rc.queue.polled.length + (rc.queue.cq.length + rc.queue.sq.countP SendWr.signaled)
    simp only [took, SendQueue.took_posted, SendQueue.took_polled, SendQueue.took_cq, SendQueue.took_sq,
      List.countP_append, List.countP_reverse, balanced.balance]
    omega
  room := by
    have held := balanced.room
    have took := posts.took
    have room := posts.room
    change rc.queue.sq.length + rc.queue.cq.length ≤ rc.queue.maxSendWr.toNat
    simp only [took, SendQueue.took_sq, SendQueue.took_cq, SendQueue.took_maxSendWr, List.length_append]
    omega

/-- A chain is counted right exactly when it has no signaled request behind the first. -/
theorem posted_counted {s : Signaling} {rc : SendRC} {wr : SendWr} {wrs : List SendWr} (balanced : s.Balanced)
    (counted : s.Counted) (posts : PostsChain s.rc rc wr wrs) :
    (s.next rc).Counted ↔ ∀ wr ∈ wrs, wr.signaled = false := by
  obtain ⟨took, outSignaled, room⟩ := posts
  have bound := s.rc.queue.maxSendWr.isLt
  have held := balanced.room
  have balance := balanced.balance
  have fewer := List.countP_le_length (p := SendWr.signaled) (l := s.rc.queue.sq)
  have behind := List.countP_le_length (p := SendWr.signaled) (l := wrs)
  have count : rc.outSignaled.toNat = s.rc.outSignaled.toNat + if wr.signaled then 1 else 0 := by
    rw [outSignaled]
    unfold SendRC.countSignaled SendWr.signaled
    rw [List.length_cons] at room
    have now := counted.1
    split
    · rw [BitVec.toNat_add]
      change (s.rc.outSignaled.toNat + 1) % 2 ^ 32 = _
      omega
    · rfl
  have polled : rc.queue.polled = s.rc.queue.polled := by rw [took]; rfl
  have posted : rc.queue.posted.countP SendWr.signaled =
      s.rc.queue.posted.countP SendWr.signaled + ((if wr.signaled then 1 else 0) + wrs.countP SendWr.signaled) := by
    rw [took, SendQueue.took_posted, List.countP_append, List.countP_reverse, List.countP_cons]
    omega
  have wrapped : (s.next rc).wrapped = false := by
    unfold next
    rw [counted.2, polled]
    simp only [lt_self_iff_false, decide_false, Bool.and_false, Bool.or_false]
  have none : (∀ wr ∈ wrs, wr.signaled = false) ↔ wrs.countP SendWr.signaled = 0 := by
    rw [List.countP_eq_zero]
    exact forall₂_congr fun wr _ => (Bool.not_eq_true _).symm.to_iff
  rw [none]
  have now := counted.1
  unfold Counted
  rw [wrapped]
  change ((rc.outSignaled.toNat : Int) = rc.queue.posted.countP SendWr.signaled - rc.queue.polled.length ∧ _) ↔ _
  rw [posted, polled, count]
  constructor
  · intro ⟨same, _⟩
    push_cast at same
    omega
  · intro none
    exact ⟨by push_cast; omega, rfl⟩

end Signaling

/-- What the NIC does to a queue on its own. -/
structure SendQueue.Advances (q q' : SendQueue) : Prop where
  maxSendWr : q'.maxSendWr = q.maxSendWr
  posted : q'.posted = q.posted
  polled : q'.polled = q.polled
  outstanding : q'.cq.length + q'.sq.countP SendWr.signaled = q.cq.length + q.sq.countP SendWr.signaled
  room : q'.sq.length + q'.cq.length ≤ q.sq.length + q.cq.length

theorem SendQueue.complete_advances (status : WcStatus) (q : SendQueue) : q.Advances (q.complete status) := by
  unfold complete
  cases first : q.sq with
  | nil => exact ⟨rfl, rfl, rfl, rfl, Nat.le_refl _⟩
  | cons wr sq =>
    have done : (q.cq ++ if wr.signaled then [{ wrId := wr.wrId, status := status : SendWc }] else []).length =
        q.cq.length + if wr.signaled then 1 else 0 := by
      rw [List.length_append]
      split
      · rfl
      · rfl
    refine ⟨rfl, rfl, rfl, ?_, ?_⟩
    · simp only [done, first, List.countP_cons]
      omega
    · simp only [done, first, List.length_cons]
      split
      · omega
      · omega

theorem SendRC.completes_advances (statuses : List WcStatus) (rc : SendRC) :
    rc.queue.Advances (rc.completes statuses).queue := by
  unfold completes
  simp only
  generalize rc.queue = q
  induction statuses generalizing q with
  | nil => exact ⟨rfl, rfl, rfl, rfl, Nat.le_refl _⟩
  | cons status statuses ih =>
    have first := q.complete_advances status
    have rest := ih (q.complete status)
    exact {
      maxSendWr := rest.maxSendWr.trans first.maxSendWr
      posted := rest.posted.trans first.posted
      polled := rest.polled.trans first.polled
      outstanding := rest.outstanding.trans first.outstanding
      room := rest.room.trans first.room }

/-- The call polls at most one completion, after the NIC has completed some requests. -/
inductive SendRC.Polls (rc rc' : SendRC) : Prop where
  | none (statuses : List WcStatus) (queue : rc'.queue = (rc.completes statuses).queue)
      (outSignaled : rc'.outSignaled = rc.outSignaled)
  | one (statuses : List WcStatus) (wc : SendWc) (cq : List SendWc) (head : (rc.completes statuses).queue.cq = wc :: cq)
      (queue : rc'.queue = ((rc.completes statuses).taken wc cq).queue)
      (outSignaled : rc'.outSignaled = rc.outSignaled - 1)

namespace SendRC

theorem Polls.after {rc rc' : SendRC} {statuses : List WcStatus} (polls : Polls (rc.completes statuses) rc') :
    Polls rc rc' := by
  cases polls with
  | none more queue outSignaled =>
    rw [completes_append] at queue
    exact .none (statuses ++ more) queue outSignaled
  | one more wc cq head queue outSignaled =>
    rw [completes_append] at head queue
    exact .one (statuses ++ more) wc cq head queue outSignaled

theorem pollSendComp_polls (env : Poll) (rc : SendRC) : Polls rc (rc.pollSendComp env).2 := by
  cases answered : env.fails with
  | true =>
    rw [pollSendComp_fails answered]
    exact .none [] rfl rfl
  | false =>
    cases head : rc.queue.cq with
    | nil =>
      rw [pollSendComp_none answered head]
      exact .none [] rfl rfl
    | cons wc cq =>
      rw [pollSendComp_some answered head]
      exact .one [] wc cq head rfl rfl

theorem pollRcComp_polls (env : Poll) (rc : SendRC) : Polls rc (rc.pollRcComp env).2 := by
  have polls := pollSendComp_polls env rc
  unfold pollRcComp
  generalize rc.pollSendComp env = outcome at polls
  obtain ⟨⟨num, wc⟩, rc'⟩ := outcome
  simp only
  split
  · exact polls
  · cases polls with
    | none statuses queue outSignaled => exact .none statuses queue outSignaled
    | one statuses wc cq head queue outSignaled => exact .one statuses wc cq head queue outSignaled

theorem pollWhile_polls {α : Type} {poll : Poll → SendRC → α × SendRC} {again : α → Bool} (first : Round)
    (rest : List Round) (rc : SendRC) (idle : ∀ env rc, again (poll env rc).1 → (poll env rc).2 = rc)
    (polls : ∀ env rc, Polls rc (poll env rc).2) : Polls rc (pollWhile poll again first rest rc).2 := by
  obtain ⟨statuses, last, _, same⟩ := pollWhile_last first rest rc (fun other _ rc => idle other.poll rc)
  rw [same]
  exact (polls last.poll (rc.completes statuses)).after

theorem waitOneComp_polls (first : Round) (rest : List Round) (rc : SendRC) :
    Polls rc (rc.waitOneComp first rest).2 := by
  have polls : Polls rc (pollWhile pollSendComp (fun res => res.1 = 0) first rest rc).2 := by
    apply pollWhile_polls
    · intro env rc zero
      cases answered : env.fails with
      | true => rw [pollSendComp_fails answered]
      | false =>
        cases head : rc.queue.cq with
        | nil => rw [pollSendComp_none answered head]
        | cons wc cq =>
          rw [pollSendComp_some answered head] at zero
          cases zero
    · exact pollSendComp_polls
  unfold waitOneComp
  generalize pollWhile pollSendComp (fun res => res.1 = 0) first rest rc = outcome at polls
  obtain ⟨res, rc'⟩ := outcome
  simp only
  split
  · exact polls
  · split
    · exact polls
    · exact polls

theorem waitRcComp_polls (wc : SendWc) (first : Round) (rest : List Round) (rc : SendRC) :
    Polls rc (rc.waitRcComp wc first rest).2 := by
  have polls : Polls rc (pollWhile pollRcComp (fun res => res.isNone) first rest rc).2 := by
    apply pollWhile_polls
    · intro env rc none
      unfold pollRcComp at none ⊢
      cases answered : env.fails with
      | true =>
        rw [pollSendComp_fails answered] at none
        cases none
      | false =>
        cases head : rc.queue.cq with
        | nil =>
          rw [pollSendComp_none answered head]
          rfl
        | cons wc cq =>
          rw [pollSendComp_some answered head] at none
          cases none
    · exact pollRcComp_polls
  unfold waitRcComp
  generalize pollWhile pollRcComp (fun res => res.isNone) first rest rc = outcome at polls
  obtain ⟨res, rc'⟩ := outcome
  cases res with
  | none => exact polls
  | some res =>
    simp only
    split
    · exact polls
    · exact polls

end SendRC

namespace Signaling

theorem polls_counts {rc rc' : SendRC} (polls : SendRC.Polls rc rc') :
    ∃ n ≤ 1, rc'.queue.polled.length = rc.queue.polled.length + n ∧
      rc'.outSignaled = rc.outSignaled - BitVec.ofNat 32 n ∧
      rc'.queue.cq.length + rc'.queue.sq.countP SendWr.signaled + n =
        rc.queue.cq.length + rc.queue.sq.countP SendWr.signaled ∧
      rc'.queue.posted = rc.queue.posted ∧ rc'.queue.maxSendWr = rc.queue.maxSendWr ∧
      rc'.queue.sq.length + rc'.queue.cq.length ≤ rc.queue.sq.length + rc.queue.cq.length := by
  cases polls with
  | none statuses queue outSignaled =>
    have advances := rc.completes_advances statuses
    rw [← queue] at advances
    exact ⟨0, by omega, by rw [advances.polled]; rfl, by rw [outSignaled, BitVec.sub_zero], advances.outstanding,
      advances.posted, advances.maxSendWr, advances.room⟩
  | one statuses wc cq head queue outSignaled =>
    have advances := rc.completes_advances statuses
    have outstanding := advances.outstanding
    have room := advances.room
    rw [head, List.length_cons] at outstanding room
    rw [queue]
    change ∃ n ≤ 1, (rc.completes statuses).queue.polled.length + 1 = _ ∧ _ ∧
      cq.length + (rc.completes statuses).queue.sq.countP SendWr.signaled + n = _ ∧ _ ∧ _ ∧
      (rc.completes statuses).queue.sq.length + cq.length ≤ _
    exact ⟨1, by omega, by rw [advances.polled], outSignaled, by omega, advances.posted, advances.maxSendWr, by omega⟩

theorem polled_balanced {s : Signaling} {rc : SendRC} (balanced : s.Balanced) (polls : SendRC.Polls s.rc rc) :
    (s.next rc).Balanced := by
  have balance := balanced.balance
  have held := balanced.room
  obtain ⟨n, _, polled, _, outstanding, posted, maxSendWr, room⟩ := polls_counts polls
  constructor
  · change rc.queue.posted.countP SendWr.signaled =
      rc.queue.polled.length + (rc.queue.cq.length + rc.queue.sq.countP SendWr.signaled)
    rw [posted, polled]
    omega
  · change rc.queue.sq.length + rc.queue.cq.length ≤ rc.queue.maxSendWr.toNat
    rw [maxSendWr]
    exact room.trans held

theorem polled_counted {s : Signaling} {rc : SendRC} (balanced : s.Balanced) (counted : s.Counted)
    (polls : SendRC.Polls s.rc rc) : (s.next rc).Counted := by
  have balance := balanced.balance
  have now := counted.1
  obtain ⟨n, le, polled, outSignaled, outstanding, posted, _, _⟩ := polls_counts polls
  constructor
  · change (rc.outSignaled.toNat : Int) = rc.queue.posted.countP SendWr.signaled - rc.queue.polled.length
    have bound := s.rc.outSignaled.isLt
    have small : (BitVec.ofNat 32 n).toNat = n := by
      rw [BitVec.toNat_ofNat]
      omega
    rw [outSignaled, posted, polled, BitVec.toNat_sub, small]
    omega
  · unfold next
    rw [counted.2, Bool.false_or, Bool.and_eq_false_iff, polled]
    by_cases zero : s.rc.outSignaled = 0
    · right
      rw [zero] at now
      change (0 : Int) = _ at now
      exact decide_eq_false (by omega)
    · exact .inl (decide_eq_false zero)

theorem posts_ok {s t : Signaling} {outcome : Except Exit IOCode × SendRC} (happens : s.posts outcome = some t) :
    ∃ rc, outcome = (.ok .Ok, rc) ∧ t = s.next rc := by
  unfold posts at happens
  split at happens
  · rename_i rc
    cases happens
    exact ⟨rc, rfl, rfl⟩
  · cases happens

theorem PostsChain.of_issued {user : U64} {wr : SendWr} {rc rc' : SendRC} (issued : SendRC.Issued user wr rc rc') :
    PostsChain rc rc' wr [] where
  took := issued.queue
  outSignaled := issued.outSignaled
  room := by
    have room := issued.room
    rw [List.length_singleton]
    omega

theorem step_cases {s t : Signaling} {e : SignalEvent} (happens : s.step e = some t) :
    (∃ rc wr wrs, t = s.next rc ∧ PostsChain s.rc rc wr wrs ∧ (s.SignalsHead e ↔ ∀ wr ∈ wrs, wr.signaled = false)) ∨
    (∃ rc, t = s.next rc ∧ SendRC.Polls s.rc rc ∧ s.SignalsHead e) := by
  cases e with
  | sendNormal accepts desc payload mrs =>
    left
    cases mrs with
    | none =>
      obtain ⟨rc, ok, same⟩ := posts_ok happens
      obtain ⟨wr, _, issued⟩ := SendRC.sendNormalBound_ok ok
      exact ⟨rc, wr, [], same, .of_issued issued, iff_of_true trivial nofun⟩
    | some mrs =>
      obtain ⟨rc, ok, same⟩ := posts_ok happens
      obtain ⟨wr, _, issued⟩ := SendRC.sendNormal_ok ok
      exact ⟨rc, wr, [], same, .of_issued issued, iff_of_true trivial nofun⟩
  | execute accepts op flags wrId =>
    left
    obtain ⟨rc, ok, same⟩ := posts_ok happens
    injection ok with code result
    injection code with code
    obtain ⟨wr, _, issued⟩ := SendRC.execute_ok (Prod.ext code result)
    exact ⟨rc, wr, [], same, .of_issued issued, iff_of_true trivial nofun⟩
  | executeBatch accepts op =>
    left
    obtain ⟨rc, ok, same⟩ := posts_ok happens
    injection ok with code result
    injection code with code
    obtain ⟨posted, room⟩ := SendRC.post_ok (Prod.ext code result)
    rw [SendRC.countSignaled_queue] at posted room
    exact ⟨rc, op.wr, op.next, same, ⟨by rw [posted], by rw [posted], room⟩, Iff.rfl⟩
  | complete status =>
    right
    cases happens
    exact ⟨_, rfl, .none [status] rfl rfl, trivial⟩
  | pollSendComp env =>
    right
    cases happens
    exact ⟨_, rfl, SendRC.pollSendComp_polls env s.rc, trivial⟩
  | waitOneComp first rest =>
    right
    cases happens
    exact ⟨_, rfl, SendRC.waitOneComp_polls first rest s.rc, trivial⟩
  | pollRcComp env =>
    right
    cases happens
    exact ⟨_, rfl, SendRC.pollRcComp_polls env s.rc, trivial⟩
  | waitRcComp wc first rest =>
    right
    cases happens
    exact ⟨_, rfl, SendRC.waitRcComp_polls wc first rest s.rc, trivial⟩

def start (maxSendWr : U32) (localMr remoteMr : Option Proto.RegAttr) : Signaling where
  rc := { status := .Ok, localMr := localMr, remoteMr := remoteMr, queue := { maxSendWr := maxSendWr } }

theorem counted_iff (maxSendWr : U32) (localMr remoteMr : Option Proto.RegAttr) (es : List SignalEvent) :
    Run.Throughout step Counted (start maxSendWr localMr remoteMr) es ↔
      Run.Along step SignalsHead (start maxSendWr localMr remoteMr) es := by
  have balanced : (start maxSendWr localMr remoteMr).Balanced := ⟨rfl, Nat.zero_le _⟩
  have all : Run.Along step (fun _ _ => True) (start maxSendWr localMr remoteMr) es :=
    Run.along_of_forall fun _ _ _ => trivial
  refine Run.throughout_iff_along ?_ ?_ balanced ⟨rfl, rfl⟩ all
  · intro s e t _ balanced counted happens
    rcases step_cases happens with ⟨rc, wr, wrs, same, posts, heads⟩ | ⟨rc, same, polls, heads⟩
    · rw [same, heads]
      exact posted_counted balanced counted posts
    · rw [same]
      exact iff_of_true (polled_counted balanced counted polls) heads
  · intro s e t _ balanced happens
    rcases step_cases happens with ⟨rc, wr, wrs, same, posts, _⟩ | ⟨rc, same, polls, _⟩
    · rw [same]
      exact posted_balanced balanced posts
    · rw [same]
      exact polled_balanced balanced polls

def doorbell : List SignalEvent :=
  [.executeBatch 2 (Op.setNext {} (Op.setFlags {} IBV_SEND_SIGNALED)),
    .waitOneComp { completes := [.IBV_WC_SUCCESS, .IBV_WC_SUCCESS] } []]

theorem doorbell_wraps : (Run.run step (start 16 none none) doorbell).map (fun s => (s.rc.outSignaled, s.wrapped)) =
      some (2 ^ 32 - 1, true) ∧
    ¬Run.Throughout step Counted (start 16 none none) doorbell := by
  have ran : (Run.run step (start 16 none none) doorbell).map (fun s => (s.rc.outSignaled, s.wrapped)) =
      some (2 ^ 32 - 1, true) := by decide
  constructor
  · exact ran
  · intro throughout
    obtain ⟨s, reached, parts⟩ := Option.map_eq_some_iff.mp ran
    injection parts with _ wrapped
    have kept := (throughout.run reached).2
    rw [wrapped] at kept
    cases kept

end Signaling

end RLib.Qps
