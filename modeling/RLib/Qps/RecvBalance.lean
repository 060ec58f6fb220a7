import RLib.Qps.RecvIter

namespace RLib.Qps

open Ring

variable {N : Nat} [NeZero N]

/-- The completions in the CQ for buffers of QP `i`. -/
def own (i : Nat) (cq : List Completion) : List Wc := (cq.filter (fun c => c.lane = i)).map Completion.wc

theorem own_append (i : Nat) (cq cq' : List Completion) : own i (cq ++ cq') = own i cq ++ own i cq' := by
  rw [own, List.filter_append, List.map_append, own, own]

theorem own_self (i : Nat) (wc : Wc) : own i [⟨i, wc⟩] = [wc] := by
  simp only [own, List.filter_cons, decide_true, ↓reduceIte, List.filter_nil, List.map_cons, List.map_nil]

theorem own_other {i j : Nat} (apart : i ≠ j) (wc : Wc) : own j [⟨i, wc⟩] = [] := by
  simp only [own, List.filter_cons, apart, decide_false, Bool.false_eq_true, ↓reduceIte, List.filter_nil, List.map_nil]

namespace Lane

def header (lane : Lane N) : Fin N := lane.entries.header

def buffer (lane : Lane N) : Fin N → U64 := lane.entries.buffer

def polled (lane : Lane N) : List Wc :=
  lane.iter.elim [] (fun it => ((List.finRange N).map lane.entries.wcs).take it.totalMsgs.toNat)

def unread (lane : Lane N) : List Wc := lane.polled.drop (lane.iter.elim 0 (fun it => it.idx.toNat))

end Lane

/-- The iterator of a sweep that polled `total` completions and looked at `seen` of them. -/
def sweeping (seen total : Nat) : RecvIter Unit Unit Unit := ⟨some (), some (), some (), seen, total⟩

/-- What holds of a QP whatever the sweeps take from the CQ. -/
structure Fit (lane : Lane N) : Prop where
  ready : lane.entries.Ready
  wqes : ∀ w ∈ lane.rq, w.sge.addr = w.wrId
  sweep : ∀ it, lane.iter = some it → ∃ seen total, it = sweeping seen total ∧ seen ≤ total ∧ total ≤ N
  distinct : Function.Injective lane.buffer

/-- The same for all QPs, no two of which have a buffer in common. -/
structure Fitting (s : Receivers N) : Prop where
  fit : ∀ (i : Nat) (lane : Lane N), s.lanes[i]? = some lane → Fit lane
  apart : ∀ (i j : Nat) (lane lane' : Lane N) (a b : Fin N), s.lanes[i]? = some lane → s.lanes[j]? = some lane' →
    i ≠ j → lane.buffer a ≠ lane'.buffer b
  known : ∀ c ∈ s.cq, c.lane < s.lanes.length

/-- The buffers of QP `i` go around in ring order: from those the sweep polled over those completed to
    those posted. What `cur_msg` has yet to return is still in them. -/
structure Balanced (s : Receivers N) (i : Nat) (lane : Lane N) : Prop where
  ring : (lane.polled ++ own i s.cq).map Wc.wrId ++ lane.rq.map RecvWqe.wrId =
    (window lane.header N).map lane.buffer
  data : lane.accepted =
    lane.returned ++ (lane.unread ++ own i s.cq).map (fun wc => ⟨wc.immData, s.mem wc.wrId⟩)

theorem Lane.idle_polled {lane : Lane N} (idle : lane.iter = none) : lane.polled = [] := by
  rw [polled, idle, Option.elim_none]

theorem Lane.idle_unread {lane : Lane N} (idle : lane.iter = none) : lane.unread = [] := by
  rw [unread, idle_polled idle, List.drop_nil]

theorem Lane.polled_length {lane : Lane N} {seen total : Nat} (sweeps : lane.iter = some (sweeping seen total))
    (fits : total ≤ N) : lane.polled.length = total := by
  simp only [polled, sweeps, Option.elim_some, sweeping, Int.toNat_natCast, List.length_take, List.length_map,
    List.length_finRange]
  omega

theorem poll_wcs (r : RecvEntries N) (polled : List Completion) (fits : polled.length ≤ N) :
    ((List.finRange N).map (r.poll polled).wcs).take polled.length = polled.map Completion.wc := by
  apply List.ext_getElem?
  intro n
  rw [List.getElem?_take, List.getElem?_map, List.getElem?_map]
  by_cases inside : n < polled.length
  · rw [if_pos inside, List.getElem?_eq_getElem inside]
    rw [List.getElem?_eq_getElem (by rw [List.length_finRange]; omega)]
    simp only [Option.map_some, List.getElem_finRange, RecvEntries.poll, Fin.val_cast, List.getElem?_eq_getElem inside,
      Option.elim_some]
  · rw [if_neg inside, List.getElem?_eq_none (by omega)]
    rfl

section Lanes

variable {s : Receivers N} {i j : Nat} {lane lane' : Lane N}

theorem setLane_self (found : s.lanes[i]? = some lane) : (s.setLane i lane').lanes[i]? = some lane' := by
  have bound := (List.getElem?_eq_some_iff.mp found).1
  rw [Receivers.setLane, List.getElem?_set_self bound]

theorem setLane_other (apart : i ≠ j) : (s.setLane i lane').lanes[j]? = s.lanes[j]? :=
  List.getElem?_set_ne apart

theorem Fitting.set {cq : List Completion} {mem : U64 → ByteBuffer} (fitting : Fitting s)
    (found : s.lanes[i]? = some lane) (fit : Fit lane') (same : lane'.buffer = lane.buffer)
    (known : ∀ c ∈ cq, c.lane < s.lanes.length) : Fitting { s.setLane i lane' with cq := cq, mem := mem } := by
  have get : ∀ j l, (s.setLane i lane').lanes[j]? = some l → (j = i ∧ l = lane') ∨ (j ≠ i ∧ s.lanes[j]? = some l) := by
    intro j l there
    by_cases self : j = i
    · subst j
      rw [setLane_self found] at there
      cases there
      exact .inl ⟨rfl, rfl⟩
    · rw [setLane_other (Ne.symm self)] at there
      exact .inr ⟨self, there⟩
  refine ⟨?_, ?_, ?_⟩
  · intro j l there
    rcases get j l there with ⟨_, rfl⟩ | ⟨_, before⟩
    · exact fit
    · exact fitting.fit j l before
  · intro j k l m a b first second apart
    rcases get j l first with ⟨rfl, rfl⟩ | ⟨_, first'⟩
    · rcases get k m second with ⟨rfl, _⟩ | ⟨_, second'⟩
      · exact absurd rfl apart
      · rw [same]
        exact fitting.apart j k lane m a b found second' apart
    · rcases get k m second with ⟨rfl, rfl⟩ | ⟨_, second'⟩
      · rw [same]
        exact fitting.apart j k l lane a b first' found apart
      · exact fitting.apart j k l m a b first' second' apart
  · intro c member
    have bound := known c member
    simpa only [Receivers.setLane, List.length_set] using bound

end Lanes

end RLib.Qps
