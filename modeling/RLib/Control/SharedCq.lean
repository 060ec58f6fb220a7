import RLib.Control.Endpoint

namespace RLib.Endpoint

open Bootstrap Proto Qps Ring Run RCtrl RecvManager

variable {A : Type} {N : Nat} [NeZero N] [AbsRecvAllocator A]

/-- A server none of whose QPs is on the CQ yet. -/
def serving (server : Server A N) (mem : U64 → ByteBuffer) : Endpoint A N :=
  { host := { server := server }, receivers := { mem := mem } }

def Kept (ep : Endpoint A N) : Prop := ep.receivers.Kept

/-- An iterator for a QP polls only completions of that QP. -/
def PollsOwn (ep : Endpoint A N) : EndpointEvent → Prop
  | .create _ _ => True
  | .sweep e => ep.receivers.PollsOwn e

/-- The allocator gives a QP that joins buffers that are distinct and not in use. -/
def Distinct (cq : Ptr) (ep : Endpoint A N) : EndpointEvent → Prop
  | .create env parameter =>
    ∀ host ∈ ep.host.step (.request env .CreateRCM parameter), ∀ lane ∈ joins cq parameter ep.host host,
      Function.Injective lane.buffer ∧ ∀ l ∈ ep.receivers.lanes, ∀ a b, l.buffer a ≠ lane.buffer b
  | .sweep _ => True

section Join

variable {s : Receivers N} {lane : Lane N}

theorem join_cases (lane : Lane N) {i : Nat} {l : Lane N} (found : (s.lanes ++ [lane])[i]? = some l) :
    s.lanes[i]? = some l ∨ i = s.lanes.length ∧ l = lane := by
  by_cases old : i < s.lanes.length
  · rw [List.getElem?_append_left old] at found
    exact .inl found
  · rw [List.getElem?_append_right (by omega)] at found
    obtain ⟨bound, rfl⟩ := List.getElem?_eq_some_iff.mp found
    simp only [List.length_singleton] at bound
    refine .inr ⟨by omega, ?_⟩
    rw [List.getElem_singleton]

theorem join_fitting (fitting : Fitting s) (fit : Fit lane)
    (apart : ∀ l ∈ s.lanes, ∀ a b, l.buffer a ≠ lane.buffer b) : Fitting { s with lanes := s.lanes ++ [lane] } := by
  refine ⟨?_, ?_, ?_⟩
  · intro i l found
    rcases join_cases lane found with old | ⟨_, rfl⟩
    · exact fitting.fit i l old
    · exact fit
  · intro i j l m a b first second different
    rcases join_cases lane first with old | ⟨rfl, rfl⟩
    · rcases join_cases lane second with old' | ⟨rfl, rfl⟩
      · exact fitting.apart i j l m a b old old' different
      · exact apart l (List.mem_of_getElem? old) a b
    · rcases join_cases l second with old' | ⟨rfl, rfl⟩
      · exact (apart m (List.mem_of_getElem? old') b a).symm
      · exact absurd rfl different
  · intro c member
    have known := fitting.known c member
    rw [List.length_append]
    omega

theorem join_kept {entries : RecvEntries N} (kept : s.Kept) (known : ∀ c ∈ s.cq, c.lane < s.lanes.length)
    (fitting : Fitting { s with lanes := s.lanes ++ [Lane.new entries] }) :
    Receivers.Kept { s with lanes := s.lanes ++ [Lane.new entries] } := by
  intro i l found
  have fit := fitting.fit i l found
  rcases join_cases (Lane.new entries) found with old | ⟨rfl, rfl⟩
  · have still : Balanced { s with lanes := s.lanes ++ [Lane.new entries] } i l :=
      (kept i l old).toBalanced.frame rfl (fun _ => rfl)
    exact still.kept found fit
  · have none : own s.lanes.length s.cq = [] := by
      rw [own, List.map_eq_nil_iff, List.filter_eq_nil_iff]
      intro c member same
      have bound := known c member
      rw [of_decide_eq_true same] at bound
      exact Nat.lt_irrefl _ bound
    have new : Balanced { s with lanes := s.lanes ++ [Lane.new entries] } s.lanes.length (Lane.new entries) :=
      Lane.new_balanced entries none
    exact new.kept found fit

end Join

theorem step_fitting {cq : Ptr} {ep ep' : Endpoint A N} {e : EndpointEvent} (distinct : Distinct cq ep e)
    (fitting : Fitting ep.receivers) (happens : step cq ep e = some ep') : Fitting ep'.receivers := by
  cases e with
  | create env parameter =>
    obtain ⟨host, created, rfl⟩ := Option.map_eq_some_iff.mp happens
    have joined : Joined (joins cq parameter ep.host host) := create_joined created
    cases new : joins cq parameter ep.host host with
    | none =>
      simp only [Option.toList_none, List.append_nil]
      exact fitting
    | some lane =>
      obtain ⟨injective, apart⟩ := distinct host created lane new
      obtain ⟨entries, ready, rfl⟩ := joined lane new
      simp only [Option.toList_some]
      exact join_fitting fitting (Lane.new_fit ready injective) apart
  | sweep e =>
    obtain ⟨receivers, swept, rfl⟩ := Option.map_eq_some_iff.mp happens
    exact fitting.step swept

/-- An event keeps the promises for all QPs exactly when it is not a poll that takes completions of others. -/
theorem step_kept {cq : Ptr} {ep ep' : Endpoint A N} {e : EndpointEvent} (distinct : Distinct cq ep e)
    (fitting : Fitting ep.receivers) (kept : ep.Kept) (happens : step cq ep e = some ep') :
    ep'.Kept ↔ ep.PollsOwn e := by
  have after := step_fitting distinct fitting happens
  cases e with
  | create env parameter =>
    apply iff_of_true _ trivial
    obtain ⟨host, created, rfl⟩ := Option.map_eq_some_iff.mp happens
    have joined : Joined (joins cq parameter ep.host host) := create_joined created
    unfold Kept
    cases new : joins cq parameter ep.host host with
    | none =>
      simp only [Option.toList_none, List.append_nil]
      exact kept
    | some lane =>
      obtain ⟨entries, ready, rfl⟩ := joined lane new
      simp only [new, Option.toList_some] at after ⊢
      exact join_kept kept fitting.known after
  | sweep e =>
    obtain ⟨receivers, swept, rfl⟩ := Option.map_eq_some_iff.mp happens
    exact sweepStep_kept fitting kept swept

/-- The receive buffers of the QPs on one CQ go back to their own QPs exactly as long as every poll for a QP
    returns only completions of that QP. -/
theorem buffers_kept_iff (cq : Ptr) (server : Server A N) (mem : U64 → ByteBuffer) (events : List EndpointEvent)
    (distinct : Along (step cq) (Distinct cq) (serving server mem) events) :
    Throughout (step cq) Kept (serving server mem) events ↔ Along (step cq) PollsOwn (serving server mem) events := by
  have empty : Fitting (serving server mem).receivers := by
    refine ⟨?_, ?_, nofun⟩
    · intro i lane found
      cases found
    · intro i j lane lane' a b found
      cases found
  have start : Kept (serving server mem) := by
    intro i lane found
    cases found
  have keeps : ∀ (ep : Endpoint A N) (e : EndpointEvent) (ep' : Endpoint A N), Distinct cq ep e →
      Fitting ep.receivers → ep.Kept → step cq ep e = some ep' → (ep'.Kept ↔ ep.PollsOwn e) :=
    fun _ _ _ distinct fitting kept happens => step_kept distinct fitting kept happens
  exact throughout_iff_along keeps (fun _ _ _ distinct fitting happens => step_fitting distinct fitting happens) empty
    start distinct

def twoQps : Server SimpleAllocator 1 :=
  { oneNic with
    regRecvCqs := { store := Finmap.singleton [99] (⟨0, 0⟩, 3) }
    hw := (oneNic.hw.createCq 1).2 }

def createQ (c : U8) : EndpointEvent :=
  .create oneNic.env (dump RCReq.format { channelRequest with name := nameField c })

instance (cq : Ptr) (ep : Endpoint A N) (e : EndpointEvent) : Decidable (Distinct cq ep e) :=
  match e with
  | .create _ _ => inferInstanceAs (Decidable (∀ _ ∈ _, ∀ _ ∈ _, _ ∧ _))
  | .sweep _ => .isTrue trivial

instance (ep : Endpoint A N) (e : EndpointEvent) : Decidable (PollsOwn ep e) :=
  match e with
  | .sweep (.begin _ _) => inferInstanceAs (Decidable (∀ _ ∈ _, _))
  | .create _ _ | .sweep (.arrive _ _) | .sweep (.deliver _) | .sweep (.finish _) => .isTrue trivial

theorem buffers_kept_turns : Throughout (step 0) Kept (serving twoQps fun _ => [])
    [createQ 113, createQ 114, .sweep (.arrive 1 ⟨7, [1, 2, 3]⟩), .sweep (.begin 1 1), .sweep (.deliver 1),
      .sweep (.finish 1), .sweep (.arrive 0 ⟨8, [4]⟩)] :=
  (buffers_kept_iff 0 twoQps (fun _ => []) _ (by decide +kernel)).mpr (by decide +kernel)

/-- Two clients create a QP each, a message comes for the second, and the first is swept. -/
def mixedPoll : List EndpointEvent :=
  [createQ 113, createQ 114, .sweep (.arrive 1 ⟨7, [1, 2, 3]⟩), .sweep (.begin 0 1), .sweep (.deliver 0),
    .sweep (.finish 0)]

/-- The sweep returns the message of the second QP and posts the buffer of the first once more. The second
    never gets its buffer back. -/
theorem mixedPoll_misposts : Along (step 0) (Distinct 0) (serving twoQps fun _ => []) mixedPoll ∧
    (run (step 0) (serving twoQps fun _ => []) mixedPoll).map (fun ep => ep.receivers.lanes.map fun lane =>
      (lane.accepted, lane.returned, lane.rq.map RecvWqe.wrId)) =
        some [([], [⟨7, [1, 2, 3]⟩], [4096, 4096]), ([⟨7, [1, 2, 3]⟩], [], [])] ∧
    ¬Throughout (step 0) Kept (serving twoQps fun _ => []) mixedPoll := by
  have distinct : Along (step 0) (Distinct 0) (serving twoQps fun _ => []) mixedPoll := by decide +kernel
  have traffic : (run (step 0) (serving twoQps fun _ => []) mixedPoll).map (fun ep => ep.receivers.lanes.map fun lane =>
      (lane.accepted, lane.returned, lane.rq.map RecvWqe.wrId)) =
        some [([], [⟨7, [1, 2, 3]⟩], [4096, 4096]), ([⟨7, [1, 2, 3]⟩], [], [])] := by decide +kernel
  apply And.intro distinct
  apply And.intro traffic
  intro throughout
  obtain ⟨ep, ran, lanes⟩ := Option.map_eq_some_iff.mp traffic
  obtain ⟨lane, rest, split, first, _⟩ := List.map_eq_cons_iff.mp lanes
  have kept : ep.Kept := throughout.run ran
  have once := (kept 0 lane (by rw [split, List.getElem?_cons_zero])).once
  have posted : lane.rq.map RecvWqe.wrId = [4096, 4096] := congrArg (fun p => p.2.2) first
  rw [posted] at once
  exact absurd (List.Nodup.of_append_right once) (by decide)

end RLib.Endpoint
