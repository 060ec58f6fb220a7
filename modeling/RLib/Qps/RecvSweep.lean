import RLib.Qps.RecvBalance

namespace RLib.Qps

open Ring

variable {N : Nat} [NeZero N] {s t : Receivers N} {i j : Nat} {lane other : Lane N}

section Fit

theorem sweeping_hasMsgs (seen total : Nat) : (sweeping seen total).hasMsgs = true ↔ seen < total := by
  simp only [RecvIter.hasMsgs, sweeping, decide_eq_true_eq, Int.ofNat_lt]

theorem Fit.polled_length (fit : Fit lane) {seen total : Nat} (sweeps : lane.iter = some (sweeping seen total)) :
    seen ≤ total ∧ total ≤ N ∧ lane.polled.length = total := by
  obtain ⟨seen', total', same, order, fits⟩ := fit.sweep _ sweeps
  cases same
  exact ⟨order, fits, Lane.polled_length sweeps fits⟩

theorem Fit.curMsg (fit : Fit lane) {seen total : Nat} (sweeps : lane.iter = some (sweeping seen total))
    (more : seen < total) :
    ∃ wc, (sweeping seen total).curMsg (fun _ => lane.entries.wcAt) = some (wc.immData, wc.wrId) ∧
      lane.unread = wc :: lane.polled.drop (seen + 1) := by
  obtain ⟨_, fits, length⟩ := fit.polled_length sweeps
  have read : lane.entries.wcAt seen = some (lane.entries.wcs ⟨seen, by omega⟩) := by
    rw [RecvEntries.wcAt, dif_pos (by omega)]
    rfl
  refine ⟨lane.entries.wcs ⟨seen, by omega⟩, ?_, ?_⟩
  · rw [RecvIter.curMsg, if_pos ((sweeping_hasMsgs seen total).mpr more)]
    simp only [sweeping, Option.bind_some, read, Option.map_some]
  · have unread : lane.unread = lane.polled.drop seen := by
      rw [Lane.unread, sweeps]
      rfl
    rw [unread, List.drop_eq_getElem_cons (by omega)]
    simp only [Lane.polled, sweeps, Option.elim_some, List.getElem_take, List.getElem_map, List.getElem_finRange,
      Fin.cast_mk]

theorem Fit.unread_done (fit : Fit lane) {total : Nat} (sweeps : lane.iter = some (sweeping total total)) :
    lane.unread = [] := by
  obtain ⟨_, _, length⟩ := fit.polled_length sweeps
  rw [Lane.unread, sweeps]
  apply List.drop_eq_nil_of_le
  rw [length]
  exact Int.toNat_natCast total ▸ Nat.le_refl total

theorem Fit.wqe_addr (fit : Fit lane) (a : Fin N) : (lane.entries.wqe a).sge.addr = (lane.entries.wqe a).wrId :=
  (fit.ready a).wqe_addr

end Fit

section Inversion

theorem arrive_step {msg : Message} (happens : s.sweepStep (.arrive i msg) = some t) :
    ∃ lane w rest, s.lanes[i]? = some lane ∧ lane.rq = w :: rest ∧
      t = { s.setLane i { lane with rq := rest, accepted := lane.accepted ++ [msg] } with
        cq := s.cq ++ [⟨i, ⟨w.wrId, msg.immData⟩⟩]
        mem := Function.update s.mem w.sge.addr msg.bytes } := by
  rw [Receivers.sweepStep] at happens
  cases found : s.lanes[i]? with
  | none =>
    rw [found] at happens
    cases happens
  | some lane =>
    cases queue : lane.rq with
    | nil =>
      simp only [found, queue] at happens
      cases happens
    | cons w rest =>
      simp only [found, queue, Option.some.injEq] at happens
      exact ⟨lane, w, rest, rfl, queue, happens.symm⟩

theorem begin_step {count : Nat} (happens : s.sweepStep (.begin i count) = some t) :
    ∃ lane, s.lanes[i]? = some lane ∧ lane.iter = none ∧ count ≤ N ∧ count ≤ s.cq.length ∧
      t = { s.setLane i { lane with
          entries := lane.entries.poll (s.cq.take count), iter := some (sweeping 0 count) } with
        cq := s.cq.drop count } := by
  rw [Receivers.sweepStep] at happens
  cases found : s.lanes[i]? with
  | none =>
    rw [found] at happens
    cases happens
  | some lane =>
    simp only [found] at happens
    split at happens
    · rename_i may
      obtain ⟨idle, fits, there⟩ := may
      exact ⟨lane, rfl, Option.isNone_iff_eq_none.mp idle, fits, there, (Option.some.inj happens).symm⟩
    · cases happens

theorem deliver_step (fitting : Fitting s) (happens : s.sweepStep (.deliver i) = some t) :
    ∃ lane seen total wc, s.lanes[i]? = some lane ∧ lane.iter = some (sweeping seen total) ∧ seen < total ∧
      lane.unread = wc :: lane.polled.drop (seen + 1) ∧
      t = s.setLane i { lane with
        iter := some (sweeping (seen + 1) total)
        returned := lane.returned ++ [⟨wc.immData, s.mem wc.wrId⟩] } := by
  rw [Receivers.sweepStep] at happens
  cases found : s.lanes[i]? with
  | none =>
    rw [found] at happens
    cases happens
  | some lane =>
    have fit := fitting.fit i lane found
    cases sweeps : lane.iter with
    | none =>
      simp only [found, sweeps] at happens
      cases happens
    | some it =>
      obtain ⟨seen, total, rfl, order, fits⟩ := fit.sweep it sweeps
      by_cases more : seen < total
      · obtain ⟨wc, message, unread⟩ := fit.curMsg sweeps more
        simp only [found, sweeps, message, Option.some.injEq] at happens
        exact ⟨lane, seen, total, wc, rfl, sweeps, more, unread, happens.symm⟩
      · have none : (sweeping seen total).curMsg (fun _ => lane.entries.wcAt) = none := by
          rw [RecvIter.curMsg, if_neg (more ∘ (sweeping_hasMsgs seen total).mp)]
        simp only [found, sweeps, none] at happens
        cases happens

def Lane.refilled (lane : Lane N) (total : Nat) : Lane N :=
  { lane with
    entries := { lane.entries with header := slot lane.header total }
    rq := lane.rq ++ (window lane.header total).map lane.entries.wqe
    iter := none }

theorem Fit.clear (fit : Fit lane) {seen total : Nat} (sweeps : lane.iter = some (sweeping seen total)) :
    lane.clear (sweeping seen total) = some (lane.refilled total) := by
  obtain ⟨_, fits, -⟩ := fit.polled_length sweeps
  rw [Lane.clear]
  rcases Nat.eq_zero_or_pos total with rfl | positive
  · have reposts : (sweeping seen 0).reposts = none := rfl
    simp only [reposts, Lane.refilled, slot_zero, window_zero, List.map_nil, List.append_nil, Lane.header]
  · have reposts : (sweeping seen total).reposts = some ((), (), (total : Int)) := by
      simp only [RecvIter.reposts, sweeping, Int.natCast_pos, positive, ↓reduceIte]
    simp only [reposts, postRecvs_linked fit.ready.linked positive fits, Lane.refilled, Lane.header]

theorem finish_step (fitting : Fitting s) (happens : s.sweepStep (.finish i) = some t) :
    ∃ lane total, s.lanes[i]? = some lane ∧ lane.iter = some (sweeping total total) ∧
      t = s.setLane i (lane.refilled total) := by
  rw [Receivers.sweepStep] at happens
  cases found : s.lanes[i]? with
  | none =>
    rw [found] at happens
    cases happens
  | some lane =>
    have fit := fitting.fit i lane found
    cases sweeps : lane.iter with
    | none =>
      simp only [found, sweeps] at happens
      cases happens
    | some it =>
      obtain ⟨seen, total, rfl, order, fits⟩ := fit.sweep it sweeps
      simp only [found, sweeps] at happens
      split at happens
      · cases happens
      · rename_i ended
        have all : seen = total := by
          rw [sweeping_hasMsgs] at ended
          omega
        subst seen
        rw [fit.clear sweeps, Option.map_some, Option.some.injEq] at happens
        exact ⟨lane, total, rfl, sweeps, happens.symm⟩

end Inversion

theorem Fitting.step {e : SweepEvent} (fitting : Fitting s) (happens : s.sweepStep e = some t) : Fitting t := by
  cases e with
  | arrive i msg =>
    obtain ⟨lane, w, rest, found, queue, rfl⟩ := arrive_step happens
    obtain ⟨ready, wqes, sweep, distinct⟩ := fitting.fit i lane found
    refine fitting.set found ⟨ready, ?_, sweep, distinct⟩ rfl ?_
    · intro w' member
      apply wqes
      rw [queue]
      exact List.mem_cons_of_mem _ member
    · intro c member
      rcases List.mem_append.mp member with old | new
      · exact fitting.known c old
      · cases List.mem_singleton.mp new
        exact (List.getElem?_eq_some_iff.mp found).1
  | begin i count =>
    obtain ⟨lane, found, idle, fits, there, rfl⟩ := begin_step happens
    obtain ⟨ready, wqes, sweep, distinct⟩ := fitting.fit i lane found
    refine fitting.set found ⟨?_, wqes, ?_, distinct⟩ rfl ?_
    · intro a
      obtain ⟨linked, own, named⟩ := ready a
      exact ⟨linked, own, named⟩
    · intro it same
      cases same
      exact ⟨0, count, rfl, Nat.zero_le count, fits⟩
    · intro c member
      exact fitting.known c (List.mem_of_mem_drop member)
  | deliver i =>
    obtain ⟨lane, seen, total, wc, found, sweeps, more, unread, rfl⟩ := deliver_step fitting happens
    obtain ⟨ready, wqes, sweep, distinct⟩ := fitting.fit i lane found
    obtain ⟨_, fits, _⟩ := (fitting.fit i lane found).polled_length sweeps
    refine fitting.set found ⟨ready, wqes, ?_, distinct⟩ rfl fitting.known
    intro it same
    cases same
    exact ⟨seen + 1, total, rfl, more, fits⟩
  | finish i =>
    obtain ⟨lane, total, found, sweeps, rfl⟩ := finish_step fitting happens
    have fit := fitting.fit i lane found
    obtain ⟨ready, wqes, sweep, distinct⟩ := fitting.fit i lane found
    refine fitting.set found ⟨?_, ?_, ?_, distinct⟩ rfl fitting.known
    · intro a
      obtain ⟨linked, own, named⟩ := ready a
      exact ⟨linked, own, named⟩
    · intro w member
      rcases List.mem_append.mp member with old | new
      · exact wqes w old
      · obtain ⟨a, _, rfl⟩ := List.mem_map.mp new
        exact fit.wqe_addr a
    · intro it same
      cases same

namespace Balanced

theorem nodup (balanced : Balanced s i lane) (fit : Fit lane) :
    ((lane.polled ++ own i s.cq).map Wc.wrId ++ lane.rq.map RecvWqe.wrId).Nodup := by
  rw [balanced.ring]
  exact (window_nodup lane.header (Nat.le_refl N)).map fit.distinct

theorem capacity (balanced : Balanced s i lane) :
    lane.polled.length + (own i s.cq).length + lane.rq.length = N := by
  have lengths := congrArg List.length balanced.ring
  simpa only [List.length_append, List.length_map, window_length] using lengths

theorem mem_ring (balanced : Balanced s i lane) {buf : U64}
    (member : buf ∈ (lane.polled ++ own i s.cq).map Wc.wrId ++ lane.rq.map RecvWqe.wrId) :
    ∃ a, lane.buffer a = buf := by
  rw [balanced.ring, List.mem_map] at member
  obtain ⟨a, _, same⟩ := member
  exact ⟨a, same⟩

theorem pending {wc : Wc} (member : wc ∈ lane.unread ++ own i s.cq) :
    wc.wrId ∈ (lane.polled ++ own i s.cq).map Wc.wrId := by
  apply List.mem_map_of_mem
  rw [List.mem_append] at member ⊢
  exact member.imp_left List.mem_of_mem_drop

theorem frame (balanced : Balanced s j other) (same : own j t.cq = own j s.cq)
    (kept : ∀ a, t.mem (other.buffer a) = s.mem (other.buffer a)) : Balanced t j other := by
  refine ⟨?_, ?_⟩
  · rw [same]
    exact balanced.ring
  · rw [balanced.data, same]
    congr 1
    apply List.map_congr_left
    intro wc member
    obtain ⟨a, buffer⟩ := balanced.mem_ring (List.mem_append_left _ (pending member))
    rw [← buffer, kept a]

theorem arrive (balanced : Balanced s i lane) (fit : Fit lane) {w : RecvWqe} {rest : List RecvWqe}
    (queue : lane.rq = w :: rest) (msg : Message) (same : t.cq = s.cq ++ [⟨i, ⟨w.wrId, msg.immData⟩⟩])
    (written : t.mem = Function.update s.mem w.sge.addr msg.bytes) :
    Balanced t i { lane with rq := rest, accepted := lane.accepted ++ [msg] } := by
  have completed : own i t.cq = own i s.cq ++ [⟨w.wrId, msg.immData⟩] := by
    rw [same, own_append, own_self]
  have named : w.sge.addr = w.wrId := fit.wqes w (queue ▸ List.mem_cons_self)
  refine ⟨?_, ?_⟩
  · have ring := balanced.ring
    rw [queue, List.map_cons] at ring
    show (lane.polled ++ own i t.cq).map Wc.wrId ++ rest.map RecvWqe.wrId = _
    rw [completed, ← List.append_assoc, List.map_append, List.append_assoc]
    exact ring
  · have nodup := balanced.nodup fit
    rw [queue, List.map_cons] at nodup
    have others : (lane.unread ++ own i s.cq).map (fun wc => (⟨wc.immData, t.mem wc.wrId⟩ : Message)) =
        (lane.unread ++ own i s.cq).map (fun wc => ⟨wc.immData, s.mem wc.wrId⟩) := by
      apply List.map_congr_left
      intro wc member
      have apart : wc.wrId ≠ w.wrId := by
        intro both
        have there := pending member
        rw [both] at there
        exact List.disjoint_of_nodup_append nodup there List.mem_cons_self
      rw [written, named, Function.update_of_ne apart]
    show lane.accepted ++ [msg] = lane.returned ++ (lane.unread ++ own i t.cq).map _
    rw [completed, ← List.append_assoc, List.map_append, others, balanced.data, List.append_assoc]
    simp only [List.map_cons, List.map_nil, written, named, Function.update_self]

theorem poll (balanced : Balanced s i lane) (idle : lane.iter = none) {count : Nat} (fits : count ≤ N)
    (there : count ≤ s.cq.length) (same : t.cq = s.cq.drop count) (kept : t.mem = s.mem)
    (mine : ∀ c ∈ s.cq.take count, c.lane = i) :
    Balanced t i { lane with
      entries := lane.entries.poll (s.cq.take count), iter := some (sweeping 0 count) } := by
  have length : (s.cq.take count).length = count := by
    rw [List.length_take]
    omega
  have polled : (Lane.mk (lane.entries.poll (s.cq.take count)) lane.rq (some (sweeping 0 count)) lane.accepted
      lane.returned).polled = own i (s.cq.take count) := by
    have front := poll_wcs lane.entries (s.cq.take count) (by omega)
    rw [length] at front
    rw [own, List.filter_eq_self.mpr (fun c member => decide_eq_true (mine c member))]
    exact front
  have whole : own i (s.cq.take count) ++ own i t.cq = own i s.cq := by
    rw [same, ← own_append, List.take_append_drop]
  refine ⟨?_, ?_⟩
  · rw [polled, whole]
    have ring := balanced.ring
    rw [Lane.idle_polled idle, List.nil_append] at ring
    exact ring
  · rw [Lane.unread, polled, kept]
    show lane.accepted = lane.returned ++ (own i (s.cq.take count) ++ own i t.cq).map _
    rw [whole, balanced.data, Lane.idle_unread idle, List.nil_append]

theorem poll_other (before : Balanced s j other) (after : Balanced t j other) {count : Nat}
    (same : t.cq = s.cq.drop count) : ∀ c ∈ s.cq.take count, c.lane ≠ j := by
  intro c member mine
  have split : own j s.cq = own j (s.cq.take count) ++ own j t.cq := by
    rw [same, ← own_append, List.take_append_drop]
  have lengths := congrArg List.length split
  rw [List.length_append] at lengths
  have first := before.capacity
  have second := after.capacity
  have taken : c.wc ∈ own j (s.cq.take count) :=
    List.mem_map_of_mem (List.mem_filter.mpr ⟨member, decide_eq_true mine⟩)
  have some := List.length_pos_of_mem taken
  omega

theorem deliver (balanced : Balanced s i lane) {seen total : Nat} {wc : Wc}
    (sweeps : lane.iter = some (sweeping seen total)) (unread : lane.unread = wc :: lane.polled.drop (seen + 1)) :
    Balanced s i { lane with
      iter := some (sweeping (seen + 1) total), returned := lane.returned ++ [⟨wc.immData, s.mem wc.wrId⟩] } := by
  have polled : (Lane.mk lane.entries lane.rq (some (sweeping (seen + 1) total)) lane.accepted
      (lane.returned ++ [⟨wc.immData, s.mem wc.wrId⟩])).polled = lane.polled := by
    rw [Lane.polled, Lane.polled, sweeps]
    rfl
  refine ⟨?_, ?_⟩
  · rw [polled]
    exact balanced.ring
  · rw [Lane.unread, polled]
    show lane.accepted = (lane.returned ++ _) ++ (lane.polled.drop (seen + 1) ++ own i s.cq).map _
    rw [balanced.data, unread, List.cons_append, List.map_cons, List.append_assoc]
    rfl

theorem polled_buffers (balanced : Balanced s i lane) (fits : lane.polled.length ≤ N) :
    lane.polled.map Wc.wrId = (window lane.header lane.polled.length).map lane.buffer ∧
      (own i s.cq).map Wc.wrId ++ lane.rq.map RecvWqe.wrId =
        (window (slot lane.header lane.polled.length) (N - lane.polled.length)).map lane.buffer := by
  have ring := balanced.ring
  rw [List.map_append, List.append_assoc] at ring
  have split := window_add lane.header lane.polled.length (N - lane.polled.length)
  rw [Nat.add_sub_cancel' fits] at split
  rw [split, List.map_append] at ring
  apply List.append_inj ring
  rw [List.length_map, List.length_map, window_length]

theorem finish (balanced : Balanced s i lane) (fit : Fit lane) {total : Nat}
    (sweeps : lane.iter = some (sweeping total total)) : Balanced s i (lane.refilled total) := by
  obtain ⟨_, fits, length⟩ := fit.polled_length sweeps
  have idle : (lane.refilled total).iter = none := rfl
  refine ⟨?_, ?_⟩
  · obtain ⟨-, rest⟩ := balanced.polled_buffers (by omega)
    rw [length] at rest
    have posted : ((window lane.header total).map lane.entries.wqe).map RecvWqe.wrId =
        (window lane.header total).map lane.buffer := List.map_map
    rw [Lane.idle_polled idle, List.nil_append]
    show _ ++ (lane.rq ++ (window lane.header total).map lane.entries.wqe).map RecvWqe.wrId =
      (window (slot lane.header total) N).map lane.buffer
    rw [List.map_append, ← List.append_assoc, rest, posted, ← List.map_append, window_rotate lane.header fits]
  · have data := balanced.data
    rw [fit.unread_done sweeps] at data
    rw [Lane.idle_unread idle]
    exact data

end Balanced

/-- What is promised of QP `i`. -/
structure BuffersKept (s : Receivers N) (i : Nat) (lane : Lane N) : Prop extends Balanced s i lane where
  linked : Linked lane.entries.next
  once : ((lane.polled ++ own i s.cq).map Wc.wrId ++ lane.rq.map RecvWqe.wrId).Nodup
  /-- between sweeps, what is completed and what is posted is the ring from the header on -/
  settled : lane.iter = none →
    (own i s.cq).map Wc.wrId ++ lane.rq.map RecvWqe.wrId = (window lane.header N).map lane.buffer
  delivers : ∀ it, lane.iter = some it → it.hasMsgs = true → (s.sweepStep (.deliver i)).isSome
  reposts : ∀ it, lane.iter = some it → it.hasMsgs = false → ∃ lane', lane.clear it = some lane' ∧
    lane'.rq.map RecvWqe.wrId = lane.rq.map RecvWqe.wrId ++ lane.polled.map Wc.wrId

theorem Balanced.kept (balanced : Balanced s i lane) (found : s.lanes[i]? = some lane) (fit : Fit lane) :
    BuffersKept s i lane := by
  refine ⟨balanced, fit.ready.linked, balanced.nodup fit, ?_, ?_, ?_⟩
  · intro idle
    have ring := balanced.ring
    rw [Lane.idle_polled idle, List.nil_append] at ring
    exact ring
  · intro it sweeps more
    obtain ⟨seen, total, rfl, _, _⟩ := fit.sweep it sweeps
    obtain ⟨wc, message, _⟩ := fit.curMsg sweeps ((sweeping_hasMsgs seen total).mp more)
    simp only [Receivers.sweepStep, found, sweeps, message, Option.isSome_some]
  · intro it sweeps _
    obtain ⟨seen, total, rfl, _, _⟩ := fit.sweep it sweeps
    obtain ⟨_, fits, length⟩ := fit.polled_length sweeps
    refine ⟨_, fit.clear sweeps, ?_⟩
    have posted : ((window lane.header total).map lane.entries.wqe).map RecvWqe.wrId =
        (window lane.header total).map lane.buffer := List.map_map
    rw [(balanced.polled_buffers (by omega)).1, length, Lane.refilled, List.map_append, posted]

def Receivers.Kept (s : Receivers N) : Prop :=
  ∀ (i : Nat) (lane : Lane N), s.lanes[i]? = some lane → BuffersKept s i lane

/-- A poll for a QP takes only completions of its own buffers. -/
def Receivers.PollsOwn (s : Receivers N) : SweepEvent → Prop
  | .begin i count => ∀ c ∈ s.cq.take count, c.lane = i
  | _ => True

theorem kept_set {cq : List Completion} {mem : U64 → ByteBuffer} (found : s.lanes[i]? = some lane)
    (fitting : Fitting { s.setLane i other with cq := cq, mem := mem })
    (self : Balanced { s.setLane i other with cq := cq, mem := mem } i other)
    (others : ∀ (j : Nat) (l : Lane N), i ≠ j → s.lanes[j]? = some l →
      Balanced { s.setLane i other with cq := cq, mem := mem } j l) :
    Receivers.Kept { s.setLane i other with cq := cq, mem := mem } := by
  intro j l there
  by_cases same : i = j
  · subst j
    have there' : (s.setLane i other).lanes[i]? = some l := there
    rw [setLane_self found] at there'
    cases there'
    exact self.kept there (fitting.fit i other there)
  · have there' : (s.setLane i other).lanes[j]? = some l := there
    rw [setLane_other same] at there'
    exact (others j l same there').kept there (fitting.fit j l there)

/-- One event keeps all promises exactly when it is not a poll that takes completions of other QPs. -/
theorem sweepStep_kept {e : SweepEvent} (fitting : Fitting s) (kept : s.Kept) (happens : s.sweepStep e = some t) :
    t.Kept ↔ s.PollsOwn e := by
  have after := fitting.step happens
  cases e with
  | arrive i msg =>
    apply iff_of_true _ trivial
    obtain ⟨lane, w, rest, found, queue, rfl⟩ := arrive_step happens
    have fit := fitting.fit i lane found
    have balanced := (kept i lane found).toBalanced
    have named : w.sge.addr = w.wrId := fit.wqes w (queue ▸ List.mem_cons_self)
    have head : w.wrId ∈ lane.rq.map RecvWqe.wrId := List.mem_map_of_mem (queue ▸ List.mem_cons_self)
    obtain ⟨a, buffer⟩ := balanced.mem_ring (List.mem_append_right _ head)
    apply kept_set found after
    · exact balanced.arrive fit queue msg rfl rfl
    · intro j l apart there
      apply (kept j l there).toBalanced.frame
      · rw [own_append, own_other apart, List.append_nil]
      · intro b
        have other : l.buffer b ≠ w.sge.addr := by
          rw [named, ← buffer]
          exact fun same => fitting.apart i j lane l a b found there apart same.symm
        exact Function.update_of_ne other _ _
  | begin i count =>
    obtain ⟨lane, found, idle, fits, enough, rfl⟩ := begin_step happens
    constructor
    · intro kept' c member
      by_contra others
      have bound := fitting.known c (List.mem_of_mem_take member)
      have there := List.getElem?_eq_getElem bound
      have still := kept' c.lane s.lanes[c.lane] ((setLane_other (Ne.symm others)).trans there)
      exact (kept _ _ there).toBalanced.poll_other still.toBalanced rfl c member rfl
    · intro mine
      apply kept_set found after
      · exact (kept i lane found).toBalanced.poll idle fits enough rfl rfl mine
      · intro j l apart there
        apply (kept j l there).toBalanced.frame
        · have none : own j (s.cq.take count) = [] := by
            rw [own, List.map_eq_nil_iff, List.filter_eq_nil_iff]
            intro c member
            rw [mine c member]
            exact fun same => apart (of_decide_eq_true same)
          have split := own_append j (s.cq.take count) (s.cq.drop count)
          rw [List.take_append_drop, none, List.nil_append] at split
          exact split.symm
        · exact fun _ => rfl
  | deliver i =>
    apply iff_of_true _ trivial
    obtain ⟨lane, seen, total, wc, found, sweeps, _, unread, rfl⟩ := deliver_step fitting happens
    apply kept_set found after
    · exact ((kept i lane found).toBalanced.deliver sweeps unread).frame rfl (fun _ => rfl)
    · exact fun j l _ there => (kept j l there).toBalanced.frame rfl (fun _ => rfl)
  | finish i =>
    apply iff_of_true _ trivial
    obtain ⟨lane, total, found, sweeps, rfl⟩ := finish_step fitting happens
    apply kept_set found after
    · exact ((kept i lane found).toBalanced.finish (fitting.fit i lane found) sweeps).frame rfl (fun _ => rfl)
    · exact fun j l _ there => (kept j l there).toBalanced.frame rfl (fun _ => rfl)

end RLib.Qps
