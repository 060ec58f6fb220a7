import Mathlib.Order.Defs.LinearOrder
import RLib.Qps.SignalCount

namespace RLib.Qps

/-- One pass of a waiting loop, and what the timer says behind its poll. -/
structure Tick (T : Type) where
  completes : List WcStatus := []
  poll : Poll := {}
  passed : T

namespace SendRC

section Timed

variable {T : Type}

/-- A `do` loop that polls as long as it finds nothing and the timer lets it; `none` while it still runs. -/
def pollTimed {α : Type} (poll : Poll → SendRC → α × SendRC) (empty : α → Bool) (goes : T → Bool) :
    List (Tick T) → SendRC → Option (α × SendRC)
  | [], _ => none
  | tick :: ticks, rc =>
    let (res, rc) := poll tick.poll (rc.completes tick.completes)
    if empty res && goes tick.passed then pollTimed poll empty goes ticks rc else some (res, rc)

/-- What `wait_one_comp` makes of its last poll. -/
def oneReport (res : Int × SendWc) : Result SendWc :=
  if res.1 = 0 then ⟨.Timeout, res.2⟩
  else if res.1 < 0 ∨ res.2.status ≠ .IBV_WC_SUCCESS then ⟨.Err, res.2⟩
  else ⟨.Ok, res.2⟩

/-- What `wait_rc_comp` makes of its last poll; `wc` is the local that it never writes. -/
def rcReport (wc : SendWc) : Option (U64 × SendWc) → Result (U64 × SendWc)
  | none => ⟨.Timeout, (0, wc)⟩
  | some res => if res.2.status ≠ .IBV_WC_SUCCESS then ⟨.Err, (0, wc)⟩ else ⟨.Ok, res⟩

variable [LinearOrder T]

def timedWaitOneComp (timeout : T) (ticks : List (Tick T)) (rc : SendRC) : Option (Result SendWc × SendRC) :=
  (pollTimed pollSendComp (fun res => res.1 = 0) (fun passed => passed ≤ timeout) ticks rc).map
    (Prod.map oneReport id)

def timedWaitRcComp (wc : SendWc) (timeout : T) (ticks : List (Tick T)) (rc : SendRC) :
    Option (Result (U64 × SendWc) × SendRC) :=
  (pollTimed pollRcComp (fun res => res.isNone) (fun passed => passed < timeout) ticks rc).map
    (Prod.map (rcReport wc) id)

end Timed

section Rounds

variable {T α : Type} {poll : Poll → SendRC → α × SendRC} {empty : α → Bool} {goes : T → Bool}

theorem pollTimed_again {tick : Tick T} {ticks : List (Tick T)} {rc rc' : SendRC} {res : α}
    (found : poll tick.poll (rc.completes tick.completes) = (res, rc')) (nothing : empty res = true)
    (time : goes tick.passed = true) :
    pollTimed poll empty goes (tick :: ticks) rc = pollTimed poll empty goes ticks rc' := by
  simp only [pollTimed, found, nothing, time, Bool.and_self, ↓reduceIte]

theorem pollTimed_ends {tick : Tick T} {ticks : List (Tick T)} {rc rc' : SendRC} {res : α}
    (found : poll tick.poll (rc.completes tick.completes) = (res, rc'))
    (ends : empty res = false ∨ goes tick.passed = false) :
    pollTimed poll empty goes (tick :: ticks) rc = some (res, rc') := by
  have stops : (empty res && goes tick.passed) = false := Bool.and_eq_false_iff.mpr ends
  simp only [pollTimed, found, stops, Bool.false_eq_true, ↓reduceIte]

end Rounds

section Reports

/-- What a call of `ibv_poll_cq` for one completion says; an error leaves the `wc` as it was. -/
inductive Said where
  | nothing
  | completion (wc : SendWc)
  | error (junk : SendWc)

def said (env : Poll) (rc : SendRC) : Said :=
  if env.fails then .error env.junk
  else
    match rc.queue.cq with
    | [] => .nothing
    | wc :: _ => .completion wc

def userOf (wc : SendWc) : U64 := wc.wrId >>> Progress.numProgressBits

def markOf (wc : SendWc) : U16 := ((wc.wrId &&& bitmask 64 Progress.numProgressBits).setWidth 32).setWidth 16

variable {env : Poll} {rc : SendRC}

theorem polls_nothing (nothing : rc.said env = .nothing) :
    rc.pollSendComp env = ((0, env.junk), rc) ∧ rc.pollRcComp env = (none, rc) := by
  unfold said at nothing
  cases answered : env.fails with
  | true =>
    rw [answered] at nothing
    cases nothing
  | false =>
    cases head : rc.queue.cq with
    | nil => exact ⟨pollSendComp_none answered head, pollRcComp_none answered head⟩
    | cons wc cq =>
      rw [answered, head] at nothing
      cases nothing

theorem polls_completion {found : SendWc} (completion : rc.said env = .completion found) :
    ∃ cq, rc.pollSendComp env = ((1, found), rc.taken found cq) ∧
      rc.pollRcComp env = (some (userOf found, found), rc.reap found cq) := by
  unfold said at completion
  cases answered : env.fails with
  | true =>
    rw [answered] at completion
    cases completion
  | false =>
    cases head : rc.queue.cq with
    | nil =>
      rw [answered, head] at completion
      cases completion
    | cons wc cq =>
      rw [answered, head] at completion
      cases completion
      exact ⟨cq, pollSendComp_some answered head, pollRcComp_some answered head⟩

theorem polls_error {junk : SendWc} (error : rc.said env = .error junk) :
    rc.pollSendComp env = ((-1, junk), rc) ∧
      rc.pollRcComp env = (some (userOf junk, junk),
        { rc with progress := { rc.progress with lowWatermark := markOf junk } }) := by
  unfold said at error
  cases answered : env.fails with
  | true =>
    rw [answered] at error
    cases error
    refine ⟨pollSendComp_fails answered, ?_⟩
    unfold pollRcComp
    rw [pollSendComp_fails answered]
    rfl
  | false =>
    rw [answered] at error
    cases head : rc.queue.cq with
    | nil =>
      rw [head] at error
      cases error
    | cons wc cq =>
      rw [head] at error
      cases error

end Reports

variable {T : Type} [LinearOrder T]

/-- From `rc` on, `wait_rc_comp` gives `res` and leaves `rc'` where `wait_one_comp` gives `one`: the codes agree, a
    completion that was polled is carried with the id of its user, and only its mark is taken over. -/
structure Reports (rc : SendRC) (one : Result SendWc) (res : Result (U64 × SendWc)) (rc' : SendRC) : Prop where
  code : res.code = one.code
  polled : res.code = .Ok → ∃ found, rc'.queue.polled = found :: rc.queue.polled
  carries : ∀ found, rc'.queue.polled = found :: rc.queue.polled → res.desc = (userOf found, found)
  mark : rc'.progress.lowWatermark = rc.progress.lowWatermark ∨
    ∃ found, rc'.queue.polled = found :: rc.queue.polled ∧ rc'.progress.lowWatermark = markOf found

/-- Once `wait_one_comp` has returned, `wait_rc_comp` has returned as well and reports what the CQ said. -/
def Faithful (wc : SendWc) (timeout : T) (ticks : List (Tick T)) (rc : SendRC) : Prop :=
  ∀ one rc₁, rc.timedWaitOneComp timeout ticks = some (one, rc₁) →
    ∃ res rc₂, rc.timedWaitRcComp wc timeout ticks = some (res, rc₂) ∧ Reports rc one res rc₂

/-- Every poll up to the first past the timeout finds nothing. -/
def StaysEmpty (timeout : T) : List (Tick T) → SendRC → Prop
  | [], _ => True
  | tick :: ticks, rc =>
    (rc.completes tick.completes).said tick.poll = .nothing ∧
      (tick.passed ≤ timeout → StaysEmpty timeout ticks (rc.completes tick.completes))

/-- The first poll that does not find nothing finds a completion without an error, unless the bytes of the `wc` that is
    never written happen to be right, and the timer does not stand at the timeout before it. -/
def Agrees (wc : SendWc) (timeout : T) : List (Tick T) → SendRC → Prop
  | [], _ => True
  | tick :: ticks, rc =>
    match (rc.completes tick.completes).said tick.poll with
    | .nothing =>
      (tick.passed < timeout → Agrees wc timeout ticks (rc.completes tick.completes)) ∧
        (tick.passed = timeout → StaysEmpty timeout ticks (rc.completes tick.completes))
    | .completion found => found.status = .IBV_WC_SUCCESS ∨ (0, wc) = (userOf found, found)
    | .error junk => junk.status ≠ .IBV_WC_SUCCESS ∧ markOf junk = rc.progress.lowWatermark

section Steps

variable {wc : SendWc} {timeout : T} {tick : Tick T} {ticks : List (Tick T)} {rc rc' : SendRC}

theorem timedWaitOneComp_nil : rc.timedWaitOneComp timeout [] = none := rfl

theorem timedWaitOneComp_again {res : Int × SendWc}
    (found : (rc.completes tick.completes).pollSendComp tick.poll = (res, rc')) (nothing : res.1 = 0)
    (time : tick.passed ≤ timeout) :
    rc.timedWaitOneComp timeout (tick :: ticks) = rc'.timedWaitOneComp timeout ticks := by
  rw [timedWaitOneComp, pollTimed_again found (decide_eq_true nothing) (decide_eq_true time)]
  rfl

theorem timedWaitOneComp_ends {res : Int × SendWc}
    (found : (rc.completes tick.completes).pollSendComp tick.poll = (res, rc'))
    (ends : res.1 ≠ 0 ∨ ¬ tick.passed ≤ timeout) :
    rc.timedWaitOneComp timeout (tick :: ticks) = some (oneReport res, rc') := by
  have stops : decide (res.1 = 0) = false ∨ decide (tick.passed ≤ timeout) = false :=
    ends.imp decide_eq_false decide_eq_false
  rw [timedWaitOneComp, pollTimed_ends found stops]
  rfl

theorem timedWaitRcComp_again
    (found : (rc.completes tick.completes).pollRcComp tick.poll = (none, rc')) (time : tick.passed < timeout) :
    rc.timedWaitRcComp wc timeout (tick :: ticks) = rc'.timedWaitRcComp wc timeout ticks := by
  rw [timedWaitRcComp, pollTimed_again found rfl (decide_eq_true time)]
  rfl

theorem timedWaitRcComp_ends {res : Option (U64 × SendWc)}
    (found : (rc.completes tick.completes).pollRcComp tick.poll = (res, rc'))
    (ends : res.isNone = false ∨ ¬ tick.passed < timeout) :
    rc.timedWaitRcComp wc timeout (tick :: ticks) = some (rcReport wc res, rc') := by
  rw [timedWaitRcComp, pollTimed_ends found (ends.imp id decide_eq_false)]
  rfl

theorem faithful_ends {one : Result SendWc} {rc₁ : SendRC} {res : Result (U64 × SendWc)} {rc₂ : SendRC}
    (oneEnds : rc.timedWaitOneComp timeout (tick :: ticks) = some (one, rc₁))
    (rcEnds : rc.timedWaitRcComp wc timeout (tick :: ticks) = some (res, rc₂)) :
    Faithful wc timeout (tick :: ticks) rc ↔ Reports rc one res rc₂ := by
  constructor
  · intro faithful
    obtain ⟨res', rc₂', ended, reports⟩ := faithful one rc₁ oneEnds
    cases rcEnds.symm.trans ended
    exact reports
  · intro reports one' rc₁' ended
    cases oneEnds.symm.trans ended
    exact ⟨res, rc₂, rcEnds, reports⟩

theorem reports_completes (statuses : List WcStatus) {one : Result SendWc} {res : Result (U64 × SendWc)} :
    Reports (rc.completes statuses) one res rc' ↔ Reports rc one res rc' := by
  have polled := (rc.completes_advances statuses).polled
  have progress : (rc.completes statuses).progress = rc.progress := rfl
  constructor
  · intro ⟨code, found, carries, mark⟩
    rw [polled] at found carries mark
    rw [progress] at mark
    exact ⟨code, found, carries, mark⟩
  · intro ⟨code, found, carries, mark⟩
    rw [← polled] at found carries mark
    rw [← progress] at mark
    exact ⟨code, found, carries, mark⟩

theorem reports_timeout_iff (one : Result SendWc) (statuses : List WcStatus) :
    Reports rc one ⟨.Timeout, (0, wc)⟩ (rc.completes statuses) ↔ one.code = .Timeout := by
  have polled := (rc.completes_advances statuses).polled
  constructor
  · exact fun reports => reports.code.symm
  · intro code
    refine ⟨code.symm, nofun, ?_, .inl rfl⟩
    intro found more
    rw [polled] at more
    exact absurd more.symm (List.cons_ne_self _ _)

theorem faithful_completion {found : SendWc}
    (completion : (rc.completes tick.completes).said tick.poll = .completion found) :
    Faithful wc timeout (tick :: ticks) rc ↔ found.status = .IBV_WC_SUCCESS ∨ (0, wc) = (userOf found, found) := by
  obtain ⟨cq, one, both⟩ := polls_completion completion
  have nonzero : ¬ (1 : Int) = 0 := by decide
  have positive : ¬ (1 : Int) < 0 := by decide
  rw [faithful_ends (timedWaitOneComp_ends one (.inl nonzero)) (timedWaitRcComp_ends both (.inl rfl)),
    ← reports_completes tick.completes]
  generalize rc.completes tick.completes = rc
  by_cases success : found.status = .IBV_WC_SUCCESS
  · refine iff_of_true ?_ (.inl success)
    simp only [oneReport, rcReport, success, nonzero, positive, ne_eq, not_true_eq_false, or_self, ↓reduceIte]
    refine ⟨rfl, fun _ => ⟨found, rfl⟩, ?_, .inr ⟨found, rfl, rfl⟩⟩
    intro other same
    injection same with same
    rw [same]
  · rw [or_iff_right success]
    simp only [oneReport, rcReport, success, nonzero, ne_eq, not_false_eq_true, or_true, ↓reduceIte]
    constructor
    · exact fun reports => reports.carries found rfl
    · intro same
      refine ⟨rfl, nofun, ?_, .inr ⟨found, rfl, rfl⟩⟩
      intro other more
      injection more with more
      rw [← more, ← same]

theorem faithful_error {junk : SendWc} (error : (rc.completes tick.completes).said tick.poll = .error junk) :
    Faithful wc timeout (tick :: ticks) rc ↔
      junk.status ≠ .IBV_WC_SUCCESS ∧ markOf junk = rc.progress.lowWatermark := by
  obtain ⟨one, both⟩ := polls_error error
  have low : (rc.completes tick.completes).progress.lowWatermark = rc.progress.lowWatermark := rfl
  have nonzero : ¬ (-1 : Int) = 0 := by decide
  have negative : (-1 : Int) < 0 := by decide
  rw [faithful_ends (timedWaitOneComp_ends one (.inl nonzero)) (timedWaitRcComp_ends both (.inl rfl)),
    ← reports_completes tick.completes, ← low]
  generalize rc.completes tick.completes = rc
  by_cases success : junk.status = .IBV_WC_SUCCESS
  · refine iff_of_false ?_ (fun both => both.1 success)
    intro reports
    have code := reports.code
    simp only [oneReport, rcReport, success, nonzero, negative, ne_eq, not_true_eq_false, true_or, ↓reduceIte] at code
    cases code
  · rw [and_iff_right success]
    simp only [oneReport, rcReport, success, nonzero, negative, ne_eq, not_false_eq_true, true_or, ↓reduceIte]
    constructor
    · intro reports
      rcases reports.mark with same | ⟨found, more, _⟩
      · exact same
      · exact absurd more.symm (List.cons_ne_self _ _)
    · intro same
      exact ⟨rfl, nofun, fun found more => absurd more.symm (List.cons_ne_self _ _), .inl same⟩

theorem oneTimesOut_iff (ticks : List (Tick T)) (rc : SendRC) :
    (∀ one rc₁, rc.timedWaitOneComp timeout ticks = some (one, rc₁) → one.code = .Timeout) ↔
      StaysEmpty timeout ticks rc := by
  induction ticks generalizing rc with
  | nil =>
    refine iff_of_true ?_ trivial
    intro _ _ ended
    rw [timedWaitOneComp_nil] at ended
    cases ended
  | cons tick ticks ih =>
    rw [StaysEmpty]
    cases heard : (rc.completes tick.completes).said tick.poll with
    | nothing =>
      obtain ⟨one, _⟩ := polls_nothing heard
      rw [and_iff_right rfl]
      by_cases time : tick.passed ≤ timeout
      · rw [timedWaitOneComp_again one rfl time, ih, imp_iff_right time]
      · rw [timedWaitOneComp_ends one (.inr time)]
        refine iff_of_true ?_ (fun within => absurd within time)
        intro _ _ ended
        cases ended
        rfl
    | completion found =>
      obtain ⟨cq, one, _⟩ := polls_completion heard
      rw [timedWaitOneComp_ends one (.inl (show (1 : Int) ≠ 0 by decide))]
      refine iff_of_false ?_ (fun both => nomatch both.1)
      intro times
      have code := times _ _ rfl
      unfold oneReport at code
      simp only [show ¬ (1 : Int) = 0 by decide, ↓reduceIte] at code
      split at code
      · cases code
      · cases code
    | error junk =>
      obtain ⟨one, _⟩ := polls_error heard
      rw [timedWaitOneComp_ends one (.inl (show (-1 : Int) ≠ 0 by decide))]
      refine iff_of_false ?_ (fun both => nomatch both.1)
      intro times
      have code := times _ _ rfl
      unfold oneReport at code
      simp only [show ¬ (-1 : Int) = 0 by decide, show (-1 : Int) < 0 by decide, true_or, ↓reduceIte] at code
      cases code

theorem faithful_nothing (nothing : (rc.completes tick.completes).said tick.poll = .nothing) :
    Faithful wc timeout (tick :: ticks) rc ↔
      (tick.passed < timeout → Faithful wc timeout ticks (rc.completes tick.completes)) ∧
        (tick.passed = timeout → StaysEmpty timeout ticks (rc.completes tick.completes)) := by
  obtain ⟨one, both⟩ := polls_nothing nothing
  rcases lt_trichotomy tick.passed timeout with before | now | past
  · rw [imp_iff_right before, and_iff_left (fun now => absurd now before.ne), Faithful, Faithful,
      timedWaitOneComp_again one rfl before.le, timedWaitRcComp_again both before]
    simp only [reports_completes]
  · have notBefore : ¬ tick.passed < timeout := now ▸ lt_irrefl _
    rw [imp_iff_right now, and_iff_right (fun before => absurd before notBefore), ← oneTimesOut_iff, Faithful,
      timedWaitOneComp_again one rfl now.le, timedWaitRcComp_ends both (.inr notBefore)]
    constructor
    · intro faithful r rc₁ ended
      obtain ⟨res, rc₂, same, reports⟩ := faithful r rc₁ ended
      cases same
      exact (reports_timeout_iff r tick.completes).mp reports
    · intro times r rc₁ ended
      exact ⟨_, _, rfl, (reports_timeout_iff r tick.completes).mpr (times r rc₁ ended)⟩
  · have late : ¬ tick.passed ≤ timeout := not_le.mpr past
    have notBefore : ¬ tick.passed < timeout := fun before => late before.le
    rw [faithful_ends (timedWaitOneComp_ends one (.inr late)) (timedWaitRcComp_ends both (.inr notBefore))]
    refine iff_of_true ?_ ⟨fun before => absurd before notBefore, fun now => absurd now.le late⟩
    exact (reports_timeout_iff _ tick.completes).mpr rfl

end Steps

/-- `wait_rc_comp` reports what the CQ said exactly when the first thing it hears is a completion without an error, or
    nothing while the timer runs past the timeout. -/
theorem faithful_iff (wc : SendWc) (timeout : T) (ticks : List (Tick T)) (rc : SendRC) :
    Faithful wc timeout ticks rc ↔ Agrees wc timeout ticks rc := by
  induction ticks generalizing rc with
  | nil =>
    refine iff_of_true ?_ trivial
    intro _ _ ended
    rw [timedWaitOneComp_nil] at ended
    cases ended
  | cons tick ticks ih =>
    rw [Agrees]
    cases heard : (rc.completes tick.completes).said tick.poll with
    | nothing => rw [faithful_nothing heard, ih]
    | completion found => exact faithful_completion heard
    | error junk => exact faithful_error heard

/-- A completion that reports an error is lost: `wait_rc_comp` hands out the `wc` that it never wrote. -/
theorem failed_completion_lost :
    let rc : SendRC := { status := .Ok, queue := { maxSendWr := 16, cq := [⟨5 <<< 16 ||| 1, .error 12⟩] } }
    (rc.timedWaitOneComp 10 [{ passed := 0 }]).map (fun out => out.1) = some ⟨.Err, ⟨5 <<< 16 ||| 1, .error 12⟩⟩ ∧
      (rc.timedWaitRcComp ⟨0, .IBV_WC_SUCCESS⟩ 10 [{ passed := 0 }]).map (fun out => out.1) =
        some ⟨.Err, (0, ⟨0, .IBV_WC_SUCCESS⟩)⟩ ∧
      ¬Faithful ⟨0, .IBV_WC_SUCCESS⟩ 10 [{ passed := 0 }] rc := by
  refine ⟨by decide, by decide, ?_⟩
  intro faithful
  obtain ⟨res, rc₂, ended, reports⟩ := faithful _ _ rfl
  cases ended
  cases reports.carries _ rfl

/-- A poll error is taken for the completion whose bytes happen to lie in the `wc`, here one without an error. -/
example :
    let rc : SendRC := { status := .Ok, queue := { maxSendWr := 16 } }
    let ticks : List (Tick Nat) := [{ passed := 0, poll := { fails := true, junk := ⟨3, .IBV_WC_SUCCESS⟩ } }]
    (rc.timedWaitOneComp 10 ticks).map (fun out => out.1.code) = some .Err ∧
      (rc.timedWaitRcComp ⟨0, .IBV_WC_SUCCESS⟩ 10 ticks).map (fun out => (out.1.code, out.2.progress.lowWatermark)) =
        some (.Ok, 3) := by decide

end SendRC

end RLib.Qps
