import RLib.Common
import RLib.Foundation.Run
import Mathlib.Logic.Function.Basic

namespace RLib

open Run

/-- Where a daemon thread is: at the test of `running`, in `run_one_event_loop`, or at its end. -/
inductive DaemonPhase where
  | test | loop | ended
deriving DecidableEq

/-- What an `RCtrl` and the threads it made have to do with each other. -/
structure DaemonThreads where
  running : Bool := false
  /-- `none` before `pthread_create` succeeded, and after one that failed. -/
  handlerTid : Option Nat := none
  created : Nat := 0
  threads : Nat → Option (DaemonPhase × U64) := fun _ => none
  joined : List Nat := []
  /-- In `pthread_join`, which the destructor may have come to. -/
  joining : Option Bool := none
  destroyed : Bool := false
  misused : Bool := false

/-- The program calls `start_daemon`, `stop_daemon` or the destructor, its `pthread_join` returns, or a thread takes
    its next step, where a pass of the event loop served some requests. -/
inductive DaemonEvent where
  | start (created : Bool)
  | stop
  | destruct
  | joined
  | thread (tid : Nat) (served : U32)

namespace DaemonThreads

def startDaemon (created : Bool) (d : DaemonThreads) : DaemonThreads :=
  if created then
    { d with
      running := true
      handlerTid := some d.created
      created := d.created + 1
      threads := Function.update d.threads d.created (some (.test, 0)) }
  else { d with running := true, handlerTid := none }

/-- Up to `pthread_join`, which must get a thread that was not joined yet. -/
def stopDaemon (destructs : Bool) (d : DaemonThreads) : DaemonThreads :=
  if d.running then
    match d.handlerTid with
    | some tid =>
      { d with running := false, joining := some destructs, misused := d.misused || d.joined.contains tid }
    | none => { d with running := false, misused := true }
  else { d with destroyed := destructs }

/-- `while (ctrl.running)` and its body. -/
def threadStep (served : U32) (running : Bool) : DaemonPhase × U64 → DaemonPhase × U64
  | (.test, total) => if running then (.loop, total) else (.ended, total)
  | (.loop, total) => (.test, total + served.setWidth 64)
  | (.ended, total) => (.ended, total)

/-- Both phases of a thread touch the object. -/
def goOn (tid : Nat) (served : U32) (t : DaemonPhase × U64) (d : DaemonThreads) : DaemonThreads :=
  { d with
    threads := Function.update d.threads tid (some (threadStep served d.running t))
    misused := d.misused || d.destroyed }

def free (d : DaemonThreads) : Bool := d.joining.isNone && !d.destroyed

def step (d : DaemonThreads) : DaemonEvent → Option DaemonThreads
  | .start created => if d.free then some (d.startDaemon created) else none
  | .stop => if d.free then some (d.stopDaemon false) else none
  | .destruct => if d.free then some (d.stopDaemon true) else none
  | .joined =>
    match d.joining, d.handlerTid with
    | some destructs, some tid =>
      if (d.threads tid).any (fun t => t.1 = .ended) then
        some { d with joining := none, joined := tid :: d.joined, destroyed := destructs }
      else none
    | _, _ => none
  | .thread tid served =>
    match d.threads tid with
    | some (.ended, _) | none => none
    | some t => some (d.goOn tid served t)

def Active (d : DaemonThreads) (tid : Nat) : Prop := ∃ t, d.threads tid = some t ∧ t.1 ≠ .ended

/-- One thread at most handles requests, and none once `stop_daemon` or the destructor is through, which no thread
    keeps from returning. -/
structure Safe (d : DaemonThreads) : Prop where
  inOrder : d.misused = false
  alone : ∀ i j, d.Active i → d.Active j → i = j
  stopped : d.running = false → d.joining = none → ∀ i, ¬d.Active i
  returns : ∀ destructs, d.joining = some destructs → ∃ tid n d', n ≤ 2 ∧
    run step d (List.replicate n (.thread tid 0) ++ [.joined]) = some d' ∧ d'.destroyed = destructs

/-- The daemon is started when none of its threads is left, and stopped when its last start worked. -/
def InTurn (d : DaemonThreads) : DaemonEvent → Prop
  | .start created => created = true → ∀ i, ¬d.Active i
  | .stop | .destruct => d.running = true → d.handlerTid.isSome
  | _ => True

structure Inv (d : DaemonThreads) : Prop where
  inOrder : d.misused = false
  alone : ∀ i j, d.Active i → d.Active j → i = j
  stopped : d.running = false → d.joining = none → ∀ i, ¬d.Active i
  bound : ∀ i, d.created ≤ i → d.threads i = none
  joinedBound : ∀ i ∈ d.joined, i < d.created
  destroyed : d.destroyed = true → d.running = false ∧ d.joining = none
  ended : ∀ i, i < d.created → ∃ t, d.threads i = some t
  own : ∀ tid, d.handlerTid = some tid → tid < d.created ∧
    (d.running = true ∨ d.joining.isSome → tid ∉ d.joined ∧ ∀ i, d.Active i → i = tid)
  waits : d.joining.isSome → d.running = false ∧ d.handlerTid.isSome

variable {d d' : DaemonThreads}

theorem start_inv : Inv {} := by
  constructor <;> simp [Active]

theorem step_thread {tid : Nat} {t : DaemonPhase × U64} (there : d.threads tid = some t) (active : t.1 ≠ .ended)
    (served : U32) : step d (.thread tid served) = some (d.goOn tid served t) := by
  obtain ⟨phase, total⟩ := t
  cases phase with
  | ended => exact absurd rfl active
  | _ => simp [step, there]

theorem goOn_thread (tid : Nat) (served : U32) (t : DaemonPhase × U64) :
    (d.goOn tid served t).threads tid = some (threadStep served d.running t) := Function.update_self _ _ _

theorem goOn_other {tid i : Nat} (served : U32) (t : DaemonPhase × U64) (other : i ≠ tid) :
    (d.goOn tid served t).threads i = d.threads i := Function.update_of_ne other _ _

theorem ended_returns {destructs : Bool} {tid : Nat} {total : U64} (waits : d.joining = some destructs)
    (handler : d.handlerTid = some tid) (there : d.threads tid = some (.ended, total)) :
    ∃ d', run step d [.joined] = some d' ∧ d'.destroyed = destructs := by
  simp [run, step, waits, handler, there]

theorem test_returns {destructs : Bool} {tid : Nat} {total : U64} (waits : d.joining = some destructs)
    (handler : d.handlerTid = some tid) (stopping : d.running = false) (there : d.threads tid = some (.test, total)) :
    ∃ d', run step d [.thread tid 0, .joined] = some d' ∧ d'.destroyed = destructs := by
  have ends := d.goOn_thread tid 0 (.test, total)
  rw [stopping] at ends
  obtain ⟨d', ran, same⟩ := ended_returns (d := d.goOn tid 0 (.test, total)) waits handler ends
  exact ⟨d', run_cons (step_thread there (by simp) 0) ran, same⟩

theorem loop_returns {destructs : Bool} {tid : Nat} {total : U64} (waits : d.joining = some destructs)
    (handler : d.handlerTid = some tid) (stopping : d.running = false) (there : d.threads tid = some (.loop, total)) :
    ∃ d', run step d [.thread tid 0, .thread tid 0, .joined] = some d' ∧ d'.destroyed = destructs := by
  obtain ⟨d', ran, same⟩ :=
    test_returns (d := d.goOn tid 0 (.loop, total)) waits handler stopping (d.goOn_thread tid 0 _)
  exact ⟨d', run_cons (step_thread there (by simp) 0) ran, same⟩

theorem Inv.returns (inv : Inv d) {destructs : Bool} (waits : d.joining = some destructs) :
    ∃ tid n d', n ≤ 2 ∧ run step d (List.replicate n (.thread tid 0) ++ [.joined]) = some d' ∧
      d'.destroyed = destructs := by
  obtain ⟨stopping, hasTid⟩ := inv.waits (by rw [waits]; rfl)
  obtain ⟨tid, handler⟩ := Option.isSome_iff_exists.mp hasTid
  obtain ⟨⟨phase, total⟩, there⟩ := inv.ended tid (inv.own tid handler).1
  cases phase with
  | ended =>
    obtain ⟨d', ran, same⟩ := ended_returns waits handler there
    exact ⟨tid, 0, d', by simp, ran, same⟩
  | test =>
    obtain ⟨d', ran, same⟩ := test_returns waits handler stopping there
    exact ⟨tid, 1, d', by simp, ran, same⟩
  | loop =>
    obtain ⟨d', ran, same⟩ := loop_returns waits handler stopping there
    exact ⟨tid, 2, d', by simp, ran, same⟩

theorem Inv.safe (inv : Inv d) : Safe d := ⟨inv.inOrder, inv.alone, inv.stopped, fun _ => inv.returns⟩

theorem active_goOn {tid i : Nat} {served : U32} {t : DaemonPhase × U64} (there : d.threads tid = some t)
    (going : t.1 ≠ .ended) (active : (d.goOn tid served t).Active i) : d.Active i := by
  by_cases same : i = tid
  · exact ⟨t, same ▸ there, going⟩
  · obtain ⟨u, found, going'⟩ := active
    exact ⟨u, (d.goOn_other served t same).symm.trans found, going'⟩

theorem Inv.thread (inv : Inv d) {tid : Nat} {served : U32} (happens : step d (.thread tid served) = some d') :
    Inv d' := by
  cases there : d.threads tid with
  | none => simp [step, there] at happens
  | some t =>
    by_cases ended : t.1 = .ended
    · obtain ⟨phase, total⟩ := t
      cases ended
      simp [step, there] at happens
    · rw [step_thread there ended] at happens
      cases happens
      have mine : d.Active tid := ⟨t, there, ended⟩
      have alive : d.destroyed = false := by
        by_contra gone
        obtain ⟨stopping, free⟩ := inv.destroyed (by simpa using gone)
        exact inv.stopped stopping free tid mine
      have fewer : ∀ i, (d.goOn tid served t).Active i → d.Active i := fun i => active_goOn there ended
      have small : tid < d.created := by
        by_contra large
        simp [inv.bound tid (by omega)] at there
      constructor
      · simp [goOn, inv.inOrder, alive]
      · exact fun i j first second => inv.alone i j (fewer i first) (fewer j second)
      · exact fun stopping free i active => inv.stopped stopping free i (fewer i active)
      · intro i large
        change d.created ≤ i at large
        rw [d.goOn_other served t (by omega)]
        exact inv.bound i large
      · exact inv.joinedBound
      · exact inv.destroyed
      · intro i small
        by_cases same : i = tid
        · exact ⟨threadStep served d.running t, by rw [same, goOn_thread]⟩
        · rw [d.goOn_other served t same]
          exact inv.ended i small
      · intro tid' handler
        obtain ⟨bound, rest⟩ := inv.own tid' handler
        refine ⟨bound, ?_⟩
        intro on
        exact ⟨(rest on).1, fun i active => (rest on).2 i (fewer i active)⟩
      · exact inv.waits

theorem Inv.start_refused (inv : Inv d) (idle : d.joining = none) (alive : d.destroyed = false) :
    Inv (d.startDaemon false) := by
  constructor
  · exact inv.inOrder
  · exact inv.alone
  · exact fun stopping => by cases stopping
  · exact inv.bound
  · exact inv.joinedBound
  · exact fun gone => by simp [startDaemon, alive] at gone
  · exact inv.ended
  · exact fun tid handler => by cases handler
  · exact fun waits => by simp [startDaemon, idle] at waits

theorem start_thread (d : DaemonThreads) : (d.startDaemon true).threads d.created = some (.test, 0) :=
  Function.update_self _ _ _

theorem start_other {i : Nat} (other : i ≠ d.created) : (d.startDaemon true).threads i = d.threads i :=
  Function.update_of_ne other _ _

theorem Inv.start_created (inv : Inv d) (idle : d.joining = none) (alive : d.destroyed = false)
    (none : ∀ i, ¬d.Active i) : Inv (d.startDaemon true) := by
  have own : ∀ i, (d.startDaemon true).Active i → i = d.created := by
    rintro i ⟨t, found, going⟩
    by_contra other
    exact none i ⟨t, (start_other other).symm.trans found, going⟩
  constructor
  · exact inv.inOrder
  · exact fun i j first second => (own i first).trans (own j second).symm
  · exact fun stopping => by cases stopping
  · intro i large
    change d.created + 1 ≤ i at large
    rw [start_other (by omega)]
    exact inv.bound i (by omega)
  · exact fun i member => Nat.lt_succ_of_lt (inv.joinedBound i member)
  · exact fun gone => by simp [startDaemon, alive] at gone
  · intro i small
    change i < d.created + 1 at small
    by_cases same : i = d.created
    · exact ⟨(.test, 0), same ▸ d.start_thread⟩
    · rw [start_other same]
      exact inv.ended i (by omega)
  · intro tid handler
    obtain rfl : d.created = tid := Option.some.inj handler
    refine ⟨Nat.lt_succ_self _, fun _ => ⟨?_, own⟩⟩
    intro member
    exact Nat.lt_irrefl _ (inv.joinedBound _ member)
  · exact fun waits => by simp [startDaemon, idle] at waits

theorem Inv.start_alone (inv : Inv d) (safe : Safe (d.startDaemon true)) (i : Nat) : ¬d.Active i := by
  rintro ⟨t, found, going⟩
  have other : i ≠ d.created := by
    rintro rfl
    simp [inv.bound d.created (Nat.le_refl _)] at found
  apply other
  apply safe.alone i d.created
  · exact ⟨t, (start_other other).trans found, going⟩
  · exact ⟨(.test, 0), d.start_thread, by simp⟩

theorem Inv.start (inv : Inv d) (free : d.free) (created : Bool) :
    (Safe (d.startDaemon created) ↔ d.InTurn (.start created)) ∧
      (d.InTurn (.start created) → Inv (d.startDaemon created)) := by
  obtain ⟨idle, alive⟩ : d.joining = none ∧ d.destroyed = false := by simpa [DaemonThreads.free] using free
  cases created with
  | false =>
    have kept := inv.start_refused idle alive
    exact ⟨iff_of_true kept.safe (fun made => by cases made), fun _ => kept⟩
  | true =>
    have kept : d.InTurn (.start true) → Inv (d.startDaemon true) := fun turn => inv.start_created idle alive (turn rfl)
    exact ⟨⟨fun safe _ => inv.start_alone safe, fun turn => (kept turn).safe⟩, kept⟩

theorem Inv.stop (inv : Inv d) (free : d.free) (destructs : Bool) :
    (Safe (d.stopDaemon destructs) ↔ (d.running = true → d.handlerTid.isSome)) ∧
      ((d.running = true → d.handlerTid.isSome) → Inv (d.stopDaemon destructs)) := by
  obtain ⟨idle, alive⟩ : d.joining = none ∧ d.destroyed = false := by simpa [DaemonThreads.free] using free
  cases on : d.running with
  | false =>
    have kept : Inv (d.stopDaemon destructs) := by
      simp only [stopDaemon, on, Bool.false_eq_true, ↓reduceIte]
      exact { inv with
        stopped := fun _ _ => inv.stopped on idle
        destroyed := fun _ => ⟨rfl, idle⟩
        own := by
          intro tid handler
          obtain ⟨small, rest⟩ := inv.own tid handler
          exact ⟨small, fun waits => rest (by simpa [on] using waits)⟩
        waits := fun waits => ⟨rfl, (inv.waits waits).2⟩ }
    exact ⟨iff_of_true kept.safe (by simp), fun _ => kept⟩
  | true =>
    cases handler : d.handlerTid with
    | none =>
      have bad : ¬Safe (d.stopDaemon destructs) := by
        intro safe
        simpa [stopDaemon, on, handler] using safe.inOrder
      simp [bad]
    | some tid =>
      obtain ⟨small, rest⟩ := inv.own tid handler
      obtain ⟨new, own⟩ := rest (.inl on)
      have kept : Inv (d.stopDaemon destructs) := by
        simp only [stopDaemon, on, handler, ↓reduceIte]
        constructor
        · simp [inv.inOrder, new]
        · exact inv.alone
        · exact fun _ waits => by cases waits
        · exact inv.bound
        · exact inv.joinedBound
        · exact fun gone => by simp [alive] at gone
        · exact inv.ended
        · intro tid' handler'
          obtain rfl : tid = tid' := Option.some.inj handler'
          exact ⟨small, fun _ => ⟨new, own⟩⟩
        · exact fun _ => ⟨rfl, rfl⟩
      exact ⟨iff_of_true kept.safe (by simp), fun _ => kept⟩

theorem Inv.joined (inv : Inv d) (happens : step d .joined = some d') : Inv d' := by
  cases waits : d.joining with
  | none => simp [step, waits] at happens
  | some destructs =>
    obtain ⟨stopping, hasTid⟩ := inv.waits (by rw [waits]; rfl)
    obtain ⟨tid, handler⟩ := Option.isSome_iff_exists.mp hasTid
    simp only [step, waits, handler, Option.ite_none_right_eq_some, Option.some.injEq, Option.any_eq_true,
      decide_eq_true_eq] at happens
    obtain ⟨⟨t, there, ended⟩, rfl⟩ := happens
    obtain ⟨small, rest⟩ := inv.own tid handler
    obtain ⟨new, own⟩ := rest (.inr (by rw [waits]; rfl))
    have none : ∀ i, ¬d.Active i := by
      intro i active
      obtain ⟨u, found, going⟩ := own i active ▸ active
      cases there.symm.trans found
      exact going ended
    constructor
    · exact inv.inOrder
    · exact inv.alone
    · exact fun _ _ => none
    · exact inv.bound
    · intro i member
      rcases List.mem_cons.mp member with rfl | member
      · exact small
      · exact inv.joinedBound i member
    · exact fun _ => ⟨stopping, rfl⟩
    · exact inv.ended
    · intro tid' handler'
      obtain rfl : tid = tid' := Option.some.inj handler'
      refine ⟨small, ?_⟩
      rintro (on | waits')
      · exact absurd (on.symm.trans stopping) (by simp)
      · cases waits'
    · exact fun waits' => by cases waits'

theorem Inv.step (inv : Inv d) {e : DaemonEvent} (happens : step d e = some d') :
    (Safe d' ↔ d.InTurn e) ∧ (d.InTurn e → Inv d') := by
  cases e with
  | start created =>
    simp only [DaemonThreads.step, Option.ite_none_right_eq_some, Option.some.injEq] at happens
    obtain ⟨free, rfl⟩ := happens
    exact inv.start free created
  | stop =>
    simp only [DaemonThreads.step, Option.ite_none_right_eq_some, Option.some.injEq] at happens
    obtain ⟨free, rfl⟩ := happens
    exact inv.stop free false
  | destruct =>
    simp only [DaemonThreads.step, Option.ite_none_right_eq_some, Option.some.injEq] at happens
    obtain ⟨free, rfl⟩ := happens
    exact inv.stop free true
  | joined => exact ⟨iff_of_true (inv.joined happens).safe trivial, fun _ => inv.joined happens⟩
  | thread tid served => exact ⟨iff_of_true (inv.thread happens).safe trivial, fun _ => inv.thread happens⟩

/-- However the threads and the program take turns, requests are handled by one thread at a time and by none once
    the daemon is stopped or destroyed, exactly as long as it is started and stopped in turn. -/
theorem safe_iff (events : List DaemonEvent) :
    Throughout step Safe {} events ↔ Along step InTurn {} events := by
  have always : Along step (fun _ _ => True) ({} : DaemonThreads) events := along_of_forall (fun _ _ _ => trivial)
  exact throughout_iff_along_met (fun _ _ _ _ inv _ happens => (inv.step happens).1)
    (fun _ _ _ _ inv _ turn happens => (inv.step happens).2 turn) start_inv start_inv.safe always

end DaemonThreads

end RLib
