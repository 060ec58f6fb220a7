import RLib.Qps.Unreaped

namespace RLib.Benchs

open Qps Reaping

/-- A call posts a chain of `dbFactor` requests, and gives its flags to the last of them. -/
def PostsChain (dbFactor accepts : Nat) (flags : U32) (rc : SendRC) (outcome : IOCode × SendRC) : Prop :=
  ∃ (rc' : SendRC) (front : List SendWr) (last : SendWr), outcome = rc'.post accepts (front ++ [last]) ∧
    rc'.queue = rc.queue ∧ front.length + 1 = dbFactor ∧ (∀ wr ∈ front, wr.signaled = false) ∧ last.sendFlags = flags

/-- What the loops of the workers differ in: how many requests they post at a time, and with which call. -/
structure Bench (R : Type) where
  dbFactor : Nat
  orFactor : Int
  post : Nat → R → U32 → SendRC → IOCode × SendRC
  someChain : 0 < dbFactor
  posts : ∀ accepts drawn flags rc, PostsChain dbFactor accepts flags rc (post accepts drawn flags rc)

/-- Where a worker is: at `while (running)`, at the test of the inner loop, in one of its two calls of
    `wait_one_comp`, or behind the loop. -/
inductive WorkerPhase where
  | loop | body | wait | last | stopped | aborted
deriving DecidableEq

structure Worker where
  rc : SendRC
  phase : WorkerPhase := .loop
  running : Bool := true
  i : Int := 0
  orIdx : Int := 0

/-- The NIC completes the oldest request, `running` is reset, or the worker goes on. -/
inductive WorkerEvent (R : Type) where
  | complete
  | stop
  | go (accepts : Nat) (drawn : R) (junk : SendWc)

namespace Worker

variable {R : Type} (b : Bench R)

def orMax (w : Worker) : Int := w.rc.queue.maxSendWr.toInt.tdiv 2

def next (w : Worker) : Worker :=
  { w with phase := .body, i := w.i + (b.dbFactor : Int), orIdx := w.orIdx + (b.dbFactor : Int) }

def issue (accepts : Nat) (drawn : R) (w : Worker) : Worker :=
  let marks : Bool := w.orIdx = 0 ∨ w.orMax ≤ w.orIdx
  let flags := if marks then IBV_SEND_SIGNALED else 0
  let w := if marks then { w with orIdx := 0 } else w
  let (code, rc) := b.post accepts drawn flags w.rc
  let w := { w with rc := rc }
  if code ≠ .Ok then { w with phase := .aborted }
  else if flags = IBV_SEND_SIGNALED ∧ w.i ≠ (0 : Int) then { w with phase := .wait }
  else w.next b

/-- A round of `wait_one_comp`, which has no timeout, and what follows it. -/
def poll (junk : SendWc) (after : Worker → Worker) (w : Worker) : Worker :=
  let (res, rc) := w.rc.pollSendComp { junk := junk }
  let w := { w with rc := rc }
  if res.1 = 0 then w
  else if res.1 < 0 ∨ res.2.status ≠ .IBV_WC_SUCCESS then { w with phase := .aborted }
  else after w

/-- A driver takes at least the requests for which it has room back. -/
def Takes (accepts : Nat) (w : Worker) : Prop :=
  w.rc.queue.maxSendWr.toNat ≤ accepts + w.rc.queue.unreaped.length

instance (accepts : Nat) (w : Worker) : Decidable (w.Takes accepts) := inferInstanceAs (Decidable (_ ≤ _))

def step (w : Worker) : WorkerEvent R → Option Worker
  | .complete => some { w with rc := w.rc.succeed 1 }
  | .stop => some { w with running := false }
  | .go accepts drawn junk =>
    match w.phase with
    | .loop => some (if w.running then { w with phase := .body, i := 0, orIdx := 0 } else { w with phase := .stopped })
    | .body =>
      if w.i < b.orFactor then if w.Takes accepts then some (w.issue b accepts drawn) else none
      else some { w with phase := .last }
    | .wait => some (w.poll junk (next b))
    | .last => some (w.poll junk fun w => { w with phase := .loop })
    | .stopped | .aborted => none

/-- The worker has not aborted, its `int` has not overflowed, no more requests than the queue was made for are left
    to reap, and the completion it waits for comes. -/
structure Safe (w : Worker) : Prop where
  goesOn : w.phase ≠ .aborted
  int : w.i < 2 ^ 31
  fits : w.rc.queue.unreaped.length ≤ w.rc.queue.maxSendWr.toNat
  returns : w.phase = .wait ∨ w.phase = .last → (w.rc.succeed w.rc.queue.sq.length).queue.cq ≠ []

def start (maxSendSz : U32) : Worker where
  rc := { status := .Ok, queue := { maxSendWr := maxSendSz } }

end Worker

/-- The chains after which `orIdx` is at `orMax`. -/
def period (dbFactor : Nat) (orMax : Int) : Nat := max 1 ((orMax.toNat + dbFactor - 1) / dbFactor)

theorem le_period {dbFactor : Nat} (someChain : 0 < dbFactor) (orMax : Int) {n : Nat} (positive : 0 < n) :
    orMax ≤ dbFactor * n ↔ period dbFactor orMax ≤ n := by
  have below : (orMax.toNat + dbFactor - 1) / dbFactor ≤ n ↔ orMax.toNat ≤ dbFactor * n := by
    rw [← Nat.lt_succ_iff, Nat.div_lt_iff_lt_mul someChain, Nat.succ_mul, Nat.mul_comm]
    omega
  rw [period, Nat.max_le, below, Int.toNat_le, Int.natCast_mul]
  exact (and_iff_right positive).symm

namespace Bench

variable {R : Type} (b : Bench R)

def chains : Nat := ((b.orFactor + b.dbFactor - 1) / b.dbFactor).toNat

theorem lt_chains (k : Nat) : (b.dbFactor * k : Int) < b.orFactor ↔ k < b.chains := by
  have positive : (0 : Int) < b.dbFactor := Int.natCast_pos.mpr b.someChain
  rw [chains, Int.lt_toNat, Int.lt_iff_add_one_le (b := _ / _), Int.le_ediv_iff_mul_le positive, Int.add_mul,
    Int.mul_comm]
  omega

theorem not_lt_chains : ¬((b.dbFactor * b.chains : Nat) : Int) < b.orFactor := by
  rw [Int.natCast_mul, b.lt_chains]
  exact Nat.lt_irrefl _

def pace (maxSendSz : U32) (some : 0 < b.orFactor) : Pace where
  chain := b.dbFactor
  period := period b.dbFactor (maxSendSz.toInt.tdiv 2)
  chains := b.chains
  someChain := b.someChain
  somePeriod := Nat.le_max_left _ _
  someChains := by
    rw [← b.lt_chains]
    simpa using some

theorem post_cases {accepts : Nat} (drawn : R) (flags : U32) {rc : SendRC} (windowed : rc.queue.Windowed)
    (takes : rc.queue.maxSendWr.toNat ≤ accepts + rc.queue.unreaped.length) :
    ((b.post accepts drawn flags rc).1 = .Ok ∧ (b.post accepts drawn flags rc).2.queue.Windowed ∧
      Window.of SendWr.signaled (b.post accepts drawn flags rc).2.queue.unreaped =
        (Window.of SendWr.signaled rc.queue.unreaped).post b.dbFactor (signaled flags) ∧
      (b.post accepts drawn flags rc).2.queue.maxSendWr = rc.queue.maxSendWr) ∨
    ((b.post accepts drawn flags rc).1 ≠ .Ok ∧ rc.queue.maxSendWr.toNat < rc.queue.unreaped.length + b.dbFactor) := by
  obtain ⟨rc', front, last, outcome, queue, length, plain, marks⟩ := b.posts accepts drawn flags rc
  rw [outcome]
  rcases posted : rc'.post accepts (front ++ [last]) with ⟨code, rc''⟩
  by_cases ok : code = .Ok
  · subst ok
    obtain ⟨rfl, _⟩ := SendRC.post_ok posted
    left
    refine ⟨rfl, ?_, ?_, ?_⟩
    · rw [queue]
      exact windowed.took _
    · rw [queue, windowed.unreaped_took, Window.of_chain plain, length, SendWr.signaled, marks]
    · rw [queue]
      rfl
  · right
    refine ⟨ok, ?_⟩
    by_contra fits
    rw [← queue] at windowed takes fits
    have whole := SendRC.post_fits (front ++ [last]) windowed takes (by rw [List.length_append]; simp; omega)
    rw [posted] at whole
    exact ok (congrArg Prod.fst whole)

end Bench

section

variable {R : Type} {b : Bench R} {maxSendSz : U32} {some : 0 < b.orFactor} {w : Worker}

inductive At (p : Pace) (w : Worker) : Phase → Prop
  | loop (phase : w.phase = .loop) (i : w.i ≤ (p.chain * p.chains : Nat)) : At p w (.post 0)
  | stopped (phase : w.phase = .stopped) (i : w.i ≤ (p.chain * p.chains : Nat)) : At p w (.post 0)
  | body {k : Nat} (phase : w.phase = .body) (within : k < p.chains) (i : w.i = (p.chain * k : Nat))
      (orIdx : w.orIdx = (if k = 0 then 0 else p.chain * ((k - 1) % p.period + 1) : Nat)) : At p w (.post k)
  | ended (phase : w.phase = .body) (i : w.i = (p.chain * p.chains : Nat)) : At p w .last
  | wait {k : Nat} (phase : w.phase = .wait) (within : k < p.chains) (positive : 0 < k) (marked : p.period ∣ k)
      (i : w.i = (p.chain * k : Nat)) (orIdx : w.orIdx = 0) : At p w (.wait k)
  | last (phase : w.phase = .last) (i : w.i = (p.chain * p.chains : Nat)) : At p w .last

structure Tracks (maxSendSz : U32) (p : Pace) (w : Worker) (s : Phase × Window) : Prop where
  place : At p w s.1
  window : Window.of SendWr.signaled w.rc.queue.unreaped = s.2
  queue : w.rc.queue.Windowed
  maxSendWr : w.rc.queue.maxSendWr = maxSendSz

theorem next_at {k : Nat} (within : k < (b.pace maxSendSz some).chains)
    (i : w.i = ((b.pace maxSendSz some).chain * k : Nat))
    (orIdx : w.orIdx = ((b.pace maxSendSz some).chain * (k % (b.pace maxSendSz some).period) : Nat)) :
    At (b.pace maxSendSz some) (w.next b) ((b.pace maxSendSz some).goOn k) := by
  have stride : (w.next b).i = ((b.pace maxSendSz some).chain * (k + 1) : Nat) := by
    rw [Nat.mul_add_one, Int.natCast_add, ← i]
    rfl
  unfold Pace.goOn
  split
  · rename_i more
    refine .body rfl more stride ?_
    rw [if_neg (Nat.succ_ne_zero k), Nat.add_sub_cancel, Nat.mul_add_one, Int.natCast_add, ← orIdx]
    rfl
  · have all : k + 1 = (b.pace maxSendSz some).chains := by omega
    exact .ended rfl (all ▸ stride)

theorem marks_iff {k : Nat} (size : w.rc.queue.maxSendWr = maxSendSz)
    (orIdx : w.orIdx = (if k = 0 then 0 else
      (b.pace maxSendSz some).chain * ((k - 1) % (b.pace maxSendSz some).period + 1) : Nat)) :
    (w.orIdx = 0 ∨ w.orMax ≤ w.orIdx) ↔ (b.pace maxSendSz some).period ∣ k := by
  by_cases first : k = 0
  · subst first
    exact iff_of_true (.inl orIdx) (Nat.dvd_zero _)
  · rw [if_neg first] at orIdx
    have positive : 0 < (b.pace maxSendSz some).chain * ((k - 1) % (b.pace maxSendSz some).period + 1) :=
      Nat.mul_pos b.someChain (Nat.succ_pos _)
    have bound := Nat.mod_lt (k - 1) (b.pace maxSendSz some).somePeriod
    have mods := (b.pace maxSendSz some).succ_mod (Nat.pos_of_ne_zero first)
    have same : period b.dbFactor w.orMax = (b.pace maxSendSz some).period := by
      rw [Worker.orMax, size]
      rfl
    have reached := le_period b.someChain w.orMax (n := (k - 1) % (b.pace maxSendSz some).period + 1) (Nat.succ_pos _)
    rw [same, ← Int.natCast_mul] at reached
    change w.orMax ≤ ((b.pace maxSendSz some).chain * _ : Nat) ↔ _ at reached
    rw [orIdx, reached]
    by_cases marked : (b.pace maxSendSz some).period ∣ k
    · rw [if_pos marked] at mods
      exact iff_of_true (.inr (by omega)) marked
    · rw [if_neg marked] at mods
      refine iff_of_false ?_ marked
      have other : (k - 1) % (b.pace maxSendSz some).period + 1 ≠ (b.pace maxSendSz some).period := by
        intro whole
        rw [whole] at mods
        have later := Nat.mod_lt k (b.pace maxSendSz some).somePeriod
        omega
      omega

theorem marks_orIdx {k : Nat} (plain : ¬(b.pace maxSendSz some).period ∣ k)
    (orIdx : w.orIdx = (if k = 0 then 0 else
      (b.pace maxSendSz some).chain * ((k - 1) % (b.pace maxSendSz some).period + 1) : Nat)) :
    w.orIdx = ((b.pace maxSendSz some).chain * (k % (b.pace maxSendSz some).period) : Nat) := by
  have first : k ≠ 0 := by
    rintro rfl
    exact plain (Nat.dvd_zero _)
  have mods := (b.pace maxSendSz some).succ_mod (Nat.pos_of_ne_zero first)
  rw [if_neg plain] at mods
  rw [orIdx, if_neg first, mods]

theorem issue_tracks {k accepts : Nat} {win : Window} (drawn : R)
    (tracks : Tracks maxSendSz (b.pace maxSendSz some) w (.post k, win)) (phase : w.phase = .body)
    (takes : w.Takes accepts) :
    (w.issue b accepts drawn).phase = .aborted ∧
        maxSendSz.toNat < ((b.pace maxSendSz some).step (.post k, win)).2.size ∨
      Tracks maxSendSz (b.pace maxSendSz some) (w.issue b accepts drawn)
        ((b.pace maxSendSz some).step (.post k, win)) := by
  obtain ⟨place, window, queue, size⟩ := tracks
  cases place with
  | loop other => cases phase.symm.trans other
  | stopped other => cases phase.symm.trans other
  | body _ within i orIdx =>
    have marks := marks_iff size orIdx
    have left := Window.of_size SendWr.signaled w.rc.queue.unreaped
    rw [window] at left
    change win.size = _ at left
    by_cases marked : (b.pace maxSendSz some).period ∣ k
    · have sent := b.post_cases drawn IBV_SEND_SIGNALED queue takes
      simp only [Worker.issue, marks.mpr marked, decide_true, ↓reduceIte, Pace.step, marked, Window.post_size]
      rcases sent with ⟨ok, windowed, grown, kept⟩ | ⟨refused, full⟩
      · right
        rw [window] at grown
        rw [if_neg (not_not.mpr ok)]
        by_cases first : k = 0
        · subst first
          rw [if_neg (fun both => both.2 i), if_neg (fun both => both.2 rfl)]
          exact ⟨next_at within i rfl, grown, windowed, kept.trans size⟩
        · have later : w.i ≠ 0 := by
            have positive := Nat.mul_pos (b.pace maxSendSz some).someChain (Nat.pos_of_ne_zero first)
            omega
          rw [if_pos ⟨trivial, later⟩, if_pos ⟨trivial, first⟩]
          exact ⟨.wait rfl within (Nat.pos_of_ne_zero first) marked i rfl, grown, windowed, kept.trans size⟩
      · left
        rw [if_pos refused, left, ← size]
        exact ⟨rfl, full⟩
    · have sent := b.post_cases drawn 0 queue takes
      have plain : ¬(w.orIdx = 0 ∨ w.orMax ≤ w.orIdx) := fun both => marked (marks.mp both)
      have quiet : (0 : U32) ≠ IBV_SEND_SIGNALED := by decide
      simp only [Worker.issue, plain, decide_false, Bool.false_eq_true, ↓reduceIte, Pace.step, marked, false_and,
        Window.post_size, quiet]
      rcases sent with ⟨ok, windowed, grown, kept⟩ | ⟨refused, full⟩
      · right
        rw [window] at grown
        rw [if_neg (not_not.mpr ok)]
        exact ⟨next_at within i (marks_orIdx marked orIdx), grown, windowed, kept.trans size⟩
      · left
        rw [if_pos refused, left, ← size]
        exact ⟨rfl, full⟩

theorem At.congr {p : Pace} {w' : Worker} {at' : Phase} (place : At p w at') (phase : w'.phase = w.phase)
    (i : w'.i = w.i) (orIdx : w'.orIdx = w.orIdx) : At p w' at' := by
  cases place with
  | loop same i' => exact .loop (phase.trans same) (i ▸ i')
  | stopped same i' => exact .stopped (phase.trans same) (i ▸ i')
  | body same within i' orIdx' => exact .body (phase.trans same) within (i.trans i') (orIdx.trans orIdx')
  | ended same i' => exact .ended (phase.trans same) (i.trans i')
  | wait same within positive marked i' orIdx' =>
    exact .wait (phase.trans same) within positive marked (i.trans i') (orIdx.trans orIdx')
  | last same i' => exact .last (phase.trans same) (i.trans i')

theorem Tracks.succeed {p : Pace} {s : Phase × Window} (tracks : Tracks maxSendSz p w s) (n : Nat) :
    Tracks maxSendSz p { w with rc := w.rc.succeed n } s := by
  obtain ⟨windowed, same, _⟩ := SendRC.succeed_windowed tracks.queue n
  refine ⟨tracks.place.congr rfl rfl rfl, ?_, windowed, ?_⟩
  · exact same ▸ tracks.window
  · exact (SendRC.completes_advances _ _).maxSendWr.trans tracks.maxSendWr

theorem poll_none {junk : SendWc} {after : Worker → Worker} (empty : w.rc.queue.cq = []) : w.poll junk after = w := by
  rw [Worker.poll, SendRC.pollSendComp_none rfl empty]
  rfl

theorem poll_some {junk wc : SendWc} {cq : List SendWc} {after : Worker → Worker} (queue : w.rc.queue.Windowed)
    (head : w.rc.queue.cq = wc :: cq) : w.poll junk after = after { w with rc := w.rc.taken wc cq } := by
  have clean := queue.clean wc (head ▸ List.mem_cons_self)
  rw [Worker.poll, SendRC.pollSendComp_some rfl head]
  simp [clean]

theorem Tracks.reap {p : Pace} {s : Phase × Window} (tracks : Tracks maxSendSz p w s) {wc : SendWc} {cq : List SendWc}
    (head : w.rc.queue.cq = wc :: cq) :
    Window.of SendWr.signaled (w.rc.taken wc cq).queue.unreaped = s.2.reap ∧ (w.rc.taken wc cq).queue.Windowed := by
  refine ⟨?_, tracks.queue.polledOne head⟩
  rw [← tracks.window, ← Window.of_left_one (tracks.queue.pending head), ← SendQueue.Windowed.unreaped_polledOne]
  rfl

theorem wait_tracks {k : Nat} {win : Window} {junk : SendWc}
    (tracks : Tracks maxSendSz (b.pace maxSendSz some) w (.wait k, win)) (some' : w.rc.queue.cq ≠ []) :
    Tracks maxSendSz (b.pace maxSendSz some) (w.poll junk (Worker.next b))
      ((b.pace maxSendSz some).step (.wait k, win)) := by
  obtain ⟨wc, cq, head⟩ := List.exists_cons_of_ne_nil some'
  rw [poll_some tracks.queue head]
  obtain ⟨window, windowed⟩ := tracks.reap head
  cases tracks.place with
  | wait phase within positive marked i orIdx =>
    refine ⟨next_at within i ?_, window, windowed, tracks.maxSendWr⟩
    rw [Nat.mod_eq_zero_of_dvd marked, Nat.mul_zero]
    exact orIdx

theorem last_tracks {win : Window} {junk : SendWc}
    (tracks : Tracks maxSendSz (b.pace maxSendSz some) w (.last, win)) (some' : w.rc.queue.cq ≠ []) :
    Tracks maxSendSz (b.pace maxSendSz some) (w.poll junk fun w => { w with phase := .loop })
      ((b.pace maxSendSz some).step (.last, win)) := by
  obtain ⟨wc, cq, head⟩ := List.exists_cons_of_ne_nil some'
  rw [poll_some tracks.queue head]
  obtain ⟨window, windowed⟩ := tracks.reap head
  cases tracks.place with
  | ended phase i => exact ⟨.loop rfl (Int.le_of_eq i), window, windowed, tracks.maxSendWr⟩
  | last phase i => exact ⟨.loop rfl (Int.le_of_eq i), window, windowed, tracks.maxSendWr⟩

theorem start_tracks : Tracks maxSendSz (b.pace maxSendSz some) (Worker.start maxSendSz) Pace.start where
  place := .loop rfl (Int.natCast_nonneg _)
  window := rfl
  queue := ⟨⟨[], rfl, rfl⟩, Nat.le_refl _, by simp [Worker.start]⟩
  maxSendWr := rfl

theorem step_tracks {s : Phase × Window} {e : WorkerEvent R} {w' : Worker}
    (tracks : Tracks maxSendSz (b.pace maxSendSz some) w s) (happens : w.step b e = .some w')
    (fits : ((b.pace maxSendSz some).step s).2.size ≤ maxSendSz.toNat) :
    Tracks maxSendSz (b.pace maxSendSz some) w' s ∨
      Tracks maxSendSz (b.pace maxSendSz some) w' ((b.pace maxSendSz some).step s) := by
  obtain ⟨ph, win⟩ := s
  cases e with
  | complete =>
    cases happens
    exact .inl (tracks.succeed 1)
  | stop =>
    cases happens
    exact .inl ⟨tracks.place.congr rfl rfl rfl, tracks.window, tracks.queue, tracks.maxSendWr⟩
  | go accepts drawn junk =>
    have place := tracks.place
    cases place with
    | loop phase i =>
      left
      simp only [Worker.step, phase, Option.some.injEq] at happens
      subst happens
      split
      · exact ⟨.body rfl (b.pace maxSendSz some).someChains rfl rfl, tracks.window, tracks.queue, tracks.maxSendWr⟩
      · exact ⟨.stopped rfl i, tracks.window, tracks.queue, tracks.maxSendWr⟩
    | stopped phase => simp [Worker.step, phase] at happens
    | body phase within i orIdx =>
      right
      have below : w.i < b.orFactor := i ▸ (b.lt_chains _).mpr within
      simp only [Worker.step, phase, below, ↓reduceIte, Option.ite_none_right_eq_some, Option.some.injEq] at happens
      obtain ⟨takes, rfl⟩ := happens
      rcases issue_tracks drawn tracks phase takes with ⟨_, full⟩ | kept
      · exact absurd fits (Nat.not_le.mpr full)
      · exact kept
    | ended phase i =>
      left
      have ended : ¬w.i < b.orFactor := by
        rw [i]
        exact b.not_lt_chains
      simp only [Worker.step, phase, ended, ↓reduceIte, Option.some.injEq] at happens
      subst happens
      exact ⟨.last rfl i, tracks.window, tracks.queue, tracks.maxSendWr⟩
    | wait phase =>
      simp only [Worker.step, phase, Option.some.injEq] at happens
      subst happens
      by_cases empty : w.rc.queue.cq = []
      · rw [poll_none empty]
        exact .inl tracks
      · exact .inr (wait_tracks tracks empty)
    | last phase =>
      simp only [Worker.step, phase, Option.some.injEq] at happens
      subst happens
      by_cases empty : w.rc.queue.cq = []
      · rw [poll_none empty]
        exact .inl tracks
      · exact .inr (last_tracks tracks empty)

theorem Tracks.safe {s : Phase × Window} (tracks : Tracks maxSendSz (b.pace maxSendSz some) w s)
    (reaches : (b.pace maxSendSz some).Reaches Pace.start s) (fits : s.2.size ≤ maxSendSz.toNat)
    (int : (b.pace maxSendSz some).chain * (b.pace maxSendSz some).chains < 2 ^ 31) : w.Safe := by
  obtain ⟨ph, win⟩ := s
  obtain ⟨place, window, queue, size⟩ := tracks
  have gaps := reaches.passes.gaps_ne_nil
  have pending := Window.of_gaps SendWr.signaled w.rc.queue.unreaped
  have left := Window.of_size SendWr.signaled w.rc.queue.unreaped
  rw [window] at pending left
  refine ⟨?_, ?_, by rwa [size, ← left], ?_⟩
  · cases place with
    | _ phase => simp [phase]
  · cases place with
    | loop _ i | stopped _ i | ended _ i | last _ i => omega
    | body _ within i | wait _ within _ _ i =>
      have less := Nat.mul_le_mul_left (b.pace maxSendSz some).chain (Nat.le_of_lt within)
      omega
  · intro waits
    apply SendRC.answered queue
    rw [← pending]
    apply List.length_pos_of_ne_nil
    apply gaps
    cases place with
    | loop phase | stopped phase | body phase => simp [phase] at waits
    | ended | last => exact .inl rfl
    | wait => exact .inr ⟨_, rfl⟩

theorem run_complete (n : Nat) (w : Worker) :
    Run.run (Worker.step b) w (List.replicate n .complete) = .some { w with rc := w.rc.succeed n } := by
  induction n generalizing w with
  | zero => rfl
  | succ n ih => exact Run.run_cons rfl (ih _)

structure Going (maxSendSz : U32) (p : Pace) (w : Worker) (s : Phase × Window) : Prop
    extends Tracks maxSendSz p w s where
  running : w.running = true
  goes : w.phase ≠ .stopped

theorem Going.succeed {p : Pace} {s : Phase × Window} (going : Going maxSendSz p w s) (n : Nat) :
    Going maxSendSz p { w with rc := w.rc.succeed n } s :=
  ⟨going.toTracks.succeed n, going.running, going.goes⟩

theorem issue_running (accepts : Nat) (drawn : R) (w : Worker) :
    (w.issue b accepts drawn).running = w.running ∧ (w.issue b accepts drawn).phase ≠ .stopped := by
  unfold Worker.issue
  generalize decide (w.orIdx = 0 ∨ w.orMax ≤ w.orIdx) = marks
  cases marks
  all_goals
    simp only [Bool.false_eq_true, ↓reduceIte]
    split
    · exact ⟨rfl, by simp⟩
    · split
      · exact ⟨rfl, by simp⟩
      · exact ⟨rfl, by simp [Worker.next]⟩

theorem Going.posts {k : Nat} {win : Window} (drawn : R)
    (going : Going maxSendSz (b.pace maxSendSz some) w (.post k, win)) (phase : w.phase = .body)
    (safe : ∀ es w', Run.run (Worker.step b) w es = .some w' → w'.Safe) :
    ∃ es w', Run.run (Worker.step b) w es = .some w' ∧
      Going maxSendSz (b.pace maxSendSz some) w' ((b.pace maxSendSz some).step (.post k, win)) := by
  have takes : w.Takes w.rc.queue.maxSendWr.toNat := Nat.le_add_right _ _
  have below : w.i < b.orFactor := by
    cases going.place with
    | loop other => cases phase.symm.trans other
    | stopped other => cases phase.symm.trans other
    | body _ within i => exact i ▸ (b.lt_chains _).mpr within
  have happens : Run.run (Worker.step b) w [.go w.rc.queue.maxSendWr.toNat drawn ⟨0, .IBV_WC_SUCCESS⟩] =
      .some (w.issue b w.rc.queue.maxSendWr.toNat drawn) := by
    simp [Run.run, Worker.step, phase, below, takes]
  have kept := issue_running (b := b) w.rc.queue.maxSendWr.toNat drawn w
  refine ⟨_, _, happens, ?_, kept.1.trans going.running, kept.2⟩
  exact (issue_tracks drawn going.toTracks phase takes).resolve_left (fun full => (safe _ _ happens).goesOn full.1)

theorem Going.waited {s : Phase × Window} (drawn : R) (going : Going maxSendSz (b.pace maxSendSz some) w s)
    (waits : w.phase = .wait ∨ w.phase = .last) (safe : w.Safe) :
    ∃ es w', Run.run (Worker.step b) w es = .some w' ∧
      Going maxSendSz (b.pace maxSendSz some) w' ((b.pace maxSendSz some).step s) := by
  obtain ⟨ph, win⟩ := s
  have done := going.succeed w.rc.queue.sq.length
  have some' := safe.returns waits
  obtain ⟨wc, cq, found⟩ := List.exists_cons_of_ne_nil some'
  have ran (w' : Worker) (happens : Worker.step b { w with rc := w.rc.succeed w.rc.queue.sq.length }
      (.go 0 drawn ⟨0, .IBV_WC_SUCCESS⟩) = .some w') :
      Run.run (Worker.step b) w (List.replicate w.rc.queue.sq.length .complete ++
        [.go 0 drawn ⟨0, .IBV_WC_SUCCESS⟩]) = .some w' :=
    (Run.run_append (run_complete _ _)).trans (Run.run_cons happens rfl)
  cases going.place with
  | loop phase | stopped phase | body phase | ended phase => simp [phase] at waits
  | wait phase =>
    refine ⟨_, _, ran _ (by simp only [Worker.step, phase]; rfl), wait_tracks done.toTracks some', ?_, ?_⟩
    · rw [poll_some done.queue found]
      exact going.running
    · rw [poll_some done.queue found]
      simp [Worker.next]
  | last phase =>
    refine ⟨_, _, ran _ (by simp only [Worker.step, phase]; rfl), last_tracks done.toTracks some', ?_, ?_⟩
    · rw [poll_some done.queue found]
      exact going.running
    · rw [poll_some done.queue found]
      simp

theorem Going.follows (drawn : R) {s : Phase × Window} (going : Going maxSendSz (b.pace maxSendSz some) w s)
    (safe : ∀ es w', Run.run (Worker.step b) w es = .some w' → w'.Safe) :
    ∃ es w', Run.run (Worker.step b) w es = .some w' ∧
      Going maxSendSz (b.pace maxSendSz some) w' ((b.pace maxSendSz some).step s) := by
  obtain ⟨ph, win⟩ := s
  have later {w₁ : Worker} {e : WorkerEvent R} (happens : Worker.step b w e = .some w₁)
      (rest : ∃ es w', Run.run (Worker.step b) w₁ es = .some w' ∧
        Going maxSendSz (b.pace maxSendSz some) w' ((b.pace maxSendSz some).step (ph, win))) :
      ∃ es w', Run.run (Worker.step b) w es = .some w' ∧
        Going maxSendSz (b.pace maxSendSz some) w' ((b.pace maxSendSz some).step (ph, win)) := by
    obtain ⟨es, w', ran, going'⟩ := rest
    exact ⟨e :: es, w', Run.run_cons happens ran, going'⟩
  have place := going.place
  cases place with
  | loop phase =>
    have happens : Worker.step b w (.go 0 drawn ⟨0, .IBV_WC_SUCCESS⟩) =
        .some { w with phase := .body, i := 0, orIdx := 0 } := by
      simp [Worker.step, phase, going.running]
    apply later happens
    refine Going.posts drawn ⟨⟨?_, going.window, going.queue, going.maxSendWr⟩, going.running, by simp⟩ rfl ?_
    · exact .body rfl (b.pace maxSendSz some).someChains rfl rfl
    · exact fun es w' ran => safe _ w' (Run.run_cons happens ran)
  | stopped phase => exact absurd phase going.goes
  | body phase => exact going.posts drawn phase safe
  | ended phase i =>
    have ended : ¬w.i < b.orFactor := by
      rw [i]
      exact b.not_lt_chains
    have happens : Worker.step b w (.go 0 drawn ⟨0, .IBV_WC_SUCCESS⟩) = .some { w with phase := .last } := by
      simp [Worker.step, phase, ended]
    apply later happens
    refine Going.waited drawn ⟨⟨.last rfl i, going.window, going.queue, going.maxSendWr⟩, going.running, by simp⟩
      (.inr rfl) ?_
    exact safe [.go 0 drawn ⟨0, .IBV_WC_SUCCESS⟩] _ (Run.run_cons happens rfl)
  | wait phase => exact going.waited drawn (.inl phase) (safe [] w rfl)
  | last phase => exact going.waited drawn (.inr phase) (safe [] w rfl)

theorem Going.reaches (drawn : R) {s t : Phase × Window} (going : Going maxSendSz (b.pace maxSendSz some) w s)
    (safe : ∀ es w', Run.run (Worker.step b) w es = .some w' → w'.Safe)
    (reaches : (b.pace maxSendSz some).Reaches s t) :
    ∃ es w', Run.run (Worker.step b) w es = .some w' ∧ Going maxSendSz (b.pace maxSendSz some) w' t := by
  induction reaches with
  | refl => exact ⟨[], w, rfl, going⟩
  | tail _ same ih =>
    obtain ⟨es, w₁, ran, going₁⟩ := ih
    have safe₁ : ∀ fs w', Run.run (Worker.step b) w₁ fs = .some w' → w'.Safe := by
      intro fs w' rest
      exact safe (es ++ fs) w' ((Run.run_append ran).trans rest)
    obtain ⟨fs, w₂, rest, going₂⟩ := going₁.follows drawn safe₁
    exact ⟨es ++ fs, w₂, (Run.run_append ran).trans rest, same ▸ going₂⟩

end

/-- The worker's runs are safe exactly when it posts anything, its `int` reaches the end of a pass and the send queue
    has room for the peak of its pace. -/
theorem Bench.safe_runs {R : Type} (b : Bench R) (drawn : R) (maxSendSz : U32) :
    (∀ es, Run.Throughout (Worker.step b) Worker.Safe (Worker.start maxSendSz) es) ↔
      ∃ some : 0 < b.orFactor, b.dbFactor * b.chains < 2 ^ 31 ∧
        b.dbFactor * (b.pace maxSendSz some).peak ≤ maxSendSz.toNat := by
  constructor
  · intro throughout
    have safe : ∀ es w, Run.run (Worker.step b) (Worker.start maxSendSz) es = .some w → w.Safe :=
      fun es w ran => (throughout es).run ran
    have some : 0 < b.orFactor := by
      by_contra none
      -- the pass ends at once, and waits for nothing
      have ran : Run.run (Worker.step b) (Worker.start maxSendSz)
          [.go 0 drawn ⟨0, .IBV_WC_SUCCESS⟩, .go 0 drawn ⟨0, .IBV_WC_SUCCESS⟩] =
            .some { Worker.start maxSendSz with phase := .last } := by
        simp [Run.run, Worker.step, Worker.start, none]
      exact (safe _ _ ran).returns (.inr rfl) rfl
    have going : Going maxSendSz (b.pace maxSendSz some) (Worker.start maxSendSz) Pace.start :=
      ⟨start_tracks, rfl, by simp [Worker.start]⟩
    refine ⟨some, ?_, ?_⟩
    · have all : (b.pace maxSendSz some).Reaches Pace.start
          ((b.pace maxSendSz some).head 0 (b.pace maxSendSz some).chains) :=
        Pace.reaches_head (Pace.head_start ▸ .refl) (Nat.le_refl _)
      obtain ⟨es, w, ran, there⟩ := going.reaches drawn safe all
      have int := (safe es w ran).int
      have place := there.place
      rw [Pace.head, if_neg (Nat.lt_irrefl _)] at place
      cases place with
      | ended _ i | last _ i =>
        rw [i] at int
        exact Int.ofNat_lt.mp int
    · apply ((b.pace maxSendSz some).size_le_iff maxSendSz.toNat).mp
      intro s reaches
      obtain ⟨es, w, ran, there⟩ := going.reaches drawn safe reaches
      have fits := (safe es w ran).fits
      rwa [← Window.of_size SendWr.signaled, there.window, there.maxSendWr] at fits
  · rintro ⟨some, int, peak⟩ es
    have fits := ((b.pace maxSendSz some).size_le_iff maxSendSz.toNat).mpr peak
    have preserved : Run.Preserves (Worker.step b) fun w =>
        ∃ s, (b.pace maxSendSz some).Reaches Pace.start s ∧ Tracks maxSendSz (b.pace maxSendSz some) w s := by
      rintro w e w' ⟨s, reaches, tracks⟩ happens
      have next : (b.pace maxSendSz some).Reaches Pace.start ((b.pace maxSendSz some).step s) := reaches.tail rfl
      rcases step_tracks tracks happens (fits _ next) with kept | kept
      · exact ⟨s, reaches, kept⟩
      · exact ⟨_, next, kept⟩
    apply preserved.throughout
    · rintro w ⟨s, reaches, tracks⟩
      exact tracks.safe reaches (fits s reaches) int
    · exact ⟨_, .refl, start_tracks⟩

end RLib.Benchs
