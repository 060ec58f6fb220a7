import RLib.Foundation.Reaping
import RLib.Qps.SignalCount

namespace RLib.Qps

open Reaping

namespace SendQueue

/-- The requests whose room a driver does not have back yet: those behind the last signaled one whose completion
    was polled. -/
def unreaped (q : SendQueue) : List SendWr := left SendWr.signaled q.polled.length q.posted.reverse

/-- A queue whose requests have all succeeded so far. -/
structure Windowed (q : SendQueue) : Prop where
  split : ∃ done, q.unreaped = done ++ q.sq ∧ done.countP SendWr.signaled = q.cq.length
  counted : q.polled.length ≤ q.posted.countP SendWr.signaled
  clean : ∀ wc ∈ q.cq, wc.status = .IBV_WC_SUCCESS

variable {q : SendQueue}

theorem Windowed.held_le (windowed : q.Windowed) : q.sq.length + q.cq.length ≤ q.unreaped.length := by
  obtain ⟨done, split, completed⟩ := windowed.split
  have few := List.countP_le_length (p := SendWr.signaled) (l := done)
  rw [split, List.length_append]
  omega

theorem Windowed.unreaped_took (windowed : q.Windowed) (wrs : List SendWr) :
    (q.took wrs).unreaped = q.unreaped ++ wrs := by
  rw [unreaped, took_posted, List.reverse_append, List.reverse_reverse, took_polled, left_append]
  · rfl
  · rw [List.countP_reverse]
    exact windowed.counted

theorem Windowed.took (windowed : q.Windowed) (wrs : List SendWr) : (q.took wrs).Windowed where
  split := by
    obtain ⟨done, split, completed⟩ := windowed.split
    refine ⟨done, ?_, completed⟩
    rw [windowed.unreaped_took, split, took_sq, List.append_assoc]
  counted := by
    rw [took_posted, List.countP_append]
    exact Nat.le_trans windowed.counted (Nat.le_add_left _ _)
  clean := windowed.clean

theorem complete_unreaped (status : WcStatus) (q : SendQueue) : (q.complete status).unreaped = q.unreaped := by
  have advances := q.complete_advances status
  rw [unreaped, advances.polled, advances.posted]
  rfl

theorem Windowed.complete (windowed : q.Windowed) : (q.complete .IBV_WC_SUCCESS).Windowed where
  split := by
    obtain ⟨done, split, completed⟩ := windowed.split
    rw [complete_unreaped, SendQueue.complete]
    cases first : q.sq with
    | nil => exact ⟨done, by rw [split, first], completed⟩
    | cons wr sq =>
      refine ⟨done ++ [wr], by rw [split, first, List.append_assoc]; rfl, ?_⟩
      cases marked : wr.signaled with
      | true => simp [completed, marked]
      | false => simp [completed, marked]
  counted := by
    have advances := q.complete_advances .IBV_WC_SUCCESS
    rw [advances.polled, advances.posted]
    exact windowed.counted
  clean := by
    rw [SendQueue.complete]
    split
    · exact windowed.clean
    · intro wc member
      rcases List.mem_append.mp member with member | member
      · exact windowed.clean wc member
      · split at member
        · rw [List.mem_singleton.mp member]
        · cases member

def polledOne (wc : SendWc) (cq : List SendWc) (q : SendQueue) : SendQueue :=
  { q with cq := cq, polled := wc :: q.polled }

theorem Windowed.pending {wc : SendWc} {cq : List SendWc} (windowed : q.Windowed) (head : q.cq = wc :: cq) :
    0 < q.unreaped.countP SendWr.signaled := by
  obtain ⟨done, split, completed⟩ := windowed.split
  rw [split, List.countP_append, completed, head, List.length_cons]
  omega

theorem Windowed.unreaped_polledOne {wc : SendWc} {cq : List SendWc} (q : SendQueue) :
    (q.polledOne wc cq).unreaped = left SendWr.signaled 1 q.unreaped := by
  change left _ (q.polled.length + 1) _ = _
  rw [left_succ]
  rfl

theorem Windowed.polledOne {wc : SendWc} {cq : List SendWc} (windowed : q.Windowed) (head : q.cq = wc :: cq) :
    (q.polledOne wc cq).Windowed where
  split := by
    obtain ⟨done, split, completed⟩ := windowed.split
    rw [head, List.length_cons] at completed
    refine ⟨left SendWr.signaled 1 done, ?_, ?_⟩
    · rw [unreaped_polledOne, split, left_append (by omega)]
      rfl
    · rw [left_countP, completed]
      rfl
  counted := by
    have pending := windowed.pending head
    rw [unreaped, left_countP, List.countP_reverse] at pending
    change q.polled.length + 1 ≤ q.posted.countP _
    omega
  clean := fun other member => windowed.clean other (head ▸ List.mem_cons_of_mem _ member)

theorem complete_sq (status : WcStatus) (q : SendQueue) : (q.complete status).sq = q.sq.tail := by
  rw [SendQueue.complete]
  cases first : q.sq with
  | nil => exact first
  | cons wr sq => rfl

end SendQueue

namespace SendRC

open SendQueue

variable {rc : SendRC}

def succeed (n : Nat) (rc : SendRC) : SendRC := rc.completes (List.replicate n .IBV_WC_SUCCESS)

theorem succeed_succ (n : Nat) (rc : SendRC) : rc.succeed (n + 1) = (rc.completes [.IBV_WC_SUCCESS]).succeed n := rfl

theorem succeed_windowed (windowed : rc.queue.Windowed) (n : Nat) :
    (rc.succeed n).queue.Windowed ∧ (rc.succeed n).queue.unreaped = rc.queue.unreaped ∧
      (rc.succeed n).queue.sq = rc.queue.sq.drop n := by
  induction n generalizing rc with
  | zero => exact ⟨windowed, rfl, rfl⟩
  | succ n ih =>
    obtain ⟨later, same, rest⟩ := @ih (rc.completes [.IBV_WC_SUCCESS]) windowed.complete
    rw [succeed_succ]
    refine ⟨later, same.trans (complete_unreaped _ _), ?_⟩
    rw [rest]
    change (SendQueue.complete _ rc.queue).sq.drop n = _
    rw [complete_sq, List.drop_tail]

theorem answered (windowed : rc.queue.Windowed) (pending : 0 < rc.queue.unreaped.countP SendWr.signaled) :
    (rc.succeed rc.queue.sq.length).queue.cq ≠ [] := by
  obtain ⟨later, same, rest⟩ := succeed_windowed windowed rc.queue.sq.length
  obtain ⟨done, split, completed⟩ := later.split
  rw [rest, List.drop_length, List.append_nil] at split
  rw [← same, split, completed] at pending
  exact List.ne_nil_of_length_pos pending

theorem post_fits {accepts : Nat} (wrs : List SendWr) (windowed : rc.queue.Windowed)
    (takes : rc.queue.maxSendWr.toNat ≤ accepts + rc.queue.unreaped.length)
    (fits : rc.queue.unreaped.length + wrs.length ≤ rc.queue.maxSendWr.toNat) :
    rc.post accepts wrs = (.Ok, { rc with queue := rc.queue.took wrs }) := by
  have held := windowed.held_le
  have all : wrs.take (min accepts (rc.queue.maxSendWr.toNat - (rc.queue.sq.length + rc.queue.cq.length))) = wrs :=
    List.take_of_length_le (by omega)
  unfold post SendQueue.postSend
  simp only [all, decide_true, ↓reduceIte]
  rfl

theorem sendNormalBound_fits {accepts : Nat} {localMr remoteMr : Proto.RegAttr} (desc : ReqDesc) (payload : ReqPayload)
    (ok : rc.status = .Ok) (bound : rc.localMr = some localMr) (bound' : rc.remoteMr = some remoteMr)
    (windowed : rc.queue.Windowed) (takes : rc.queue.maxSendWr.toNat ≤ accepts + rc.queue.unreaped.length)
    (room : rc.queue.unreaped.length < rc.queue.maxSendWr.toNat) :
    ∃ wrId rc', rc.sendNormalBound accepts desc payload = (.ok .Ok, rc') ∧
      rc'.queue = rc.queue.took [desc.sendWr payload localMr remoteMr wrId] ∧ rc'.status = rc.status ∧
      rc'.localMr = rc.localMr ∧ rc'.remoteMr = rc.remoteMr := by
  let marked := (rc.encodeMyWr desc.wrId 1).2.countSignaled desc.flags
  have queue : marked.queue = rc.queue := countSignaled_queue _ _
  let wr := desc.sendWr payload localMr remoteMr (rc.encodeMyWr desc.wrId 1).1
  have posted : marked.post accepts [wr] = (.Ok, { marked with queue := marked.queue.took [wr] }) := by
    apply post_fits
    · rwa [queue]
    · rwa [queue]
    · rw [queue]
      exact room
  refine ⟨(rc.encodeMyWr desc.wrId 1).1, { marked with queue := _ }, ?_, congrArg (SendQueue.took _) queue, ?_, ?_, ?_⟩
  · simp only [sendNormalBound, bound, bound', sendNormal, ok, ↓reduceIte]
    rw [posted]
    rfl
  all_goals
    unfold marked countSignaled
    split
    · rfl
    · rfl

end SendRC

end RLib.Qps
