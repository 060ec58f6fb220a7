import Mathlib.Init

namespace Run

variable {σ ε : Type*} (step : σ → ε → Option σ)

/-- The state after the events, if each of them can happen in its turn. -/
def run (s : σ) : List ε → Option σ
  | [] => some s
  | e :: es => (step s e).bind (fun t => run t es)

/-- Every event that happens meets `cond` in the state it finds. -/
def Along (cond : σ → ε → Prop) (s : σ) : List ε → Prop
  | [] => True
  | e :: es => ∀ t, step s e = some t → cond s e ∧ Along cond t es

instance Along.decidable (cond : σ → ε → Prop) [∀ s e, Decidable (cond s e)] :
    (s : σ) → (es : List ε) → Decidable (Along step cond s es)
  | _, [] => isTrue trivial
  | s, e :: es =>
    match happens : step s e with
    | none => isTrue (by rw [Along, happens]; exact nofun)
    | some t =>
      haveI := Along.decidable cond t es
      decidable_of_iff (cond s e ∧ Along step cond t es)
        (by simp only [Along, happens, Option.some.injEq, forall_eq'])

/-- `P` holds in every state the events lead through. -/
def Throughout (P : σ → Prop) (s : σ) : List ε → Prop
  | [] => P s
  | e :: es => P s ∧ ∀ t, step s e = some t → Throughout P t es

def Preserves (inv : σ → Prop) : Prop := ∀ s e t, inv s → step s e = some t → inv t

variable {step} {inv P : σ → Prop} {cond cond' : σ → ε → Prop}

theorem run_cons {s t u : σ} {e : ε} {es : List ε} (first : step s e = some t) (rest : run step t es = some u) :
    run step s (e :: es) = some u := by
  rw [run, first, Option.bind_some, rest]

theorem run_append {s t : σ} {es fs : List ε} (first : run step s es = some t) :
    run step s (es ++ fs) = run step t fs := by
  induction es generalizing s with
  | nil =>
    cases first
    rfl
  | cons e es ih =>
    obtain ⟨u, happens, rest⟩ := Option.bind_eq_some_iff.mp first
    rw [List.cons_append, run, happens, Option.bind_some]
    exact ih rest

theorem Preserves.run (preserved : Preserves step inv) {s t : σ} {es : List ε} (start : inv s)
    (ran : Run.run step s es = some t) : inv t := by
  induction es generalizing s with
  | nil =>
    cases ran
    exact start
  | cons e es ih =>
    rw [Run.run] at ran
    cases first : step s e with
    | none =>
      rw [first] at ran
      cases ran
    | some u =>
      rw [first, Option.bind_some] at ran
      exact ih (preserved s e u start first) ran

theorem Preserves.throughout (preserved : Preserves step inv) (holds : ∀ s, inv s → P s) {s : σ} (start : inv s)
    (es : List ε) : Throughout step P s es := by
  induction es generalizing s with
  | nil => exact holds s start
  | cons e es ih => exact ⟨holds s start, fun t happens => ih (preserved s e t start happens)⟩

/-- An invariant that the steps keep as long as they meet a condition. -/
theorem Along.throughout (next : ∀ s e t, inv s → cond s e → step s e = some t → inv t)
    (holds : ∀ s, inv s → P s) {s : σ} (start : inv s) {es : List ε} (along : Along step cond s es) :
    Throughout step P s es := by
  induction es generalizing s with
  | nil => exact holds s start
  | cons e es ih =>
    refine ⟨holds s start, ?_⟩
    intro t happens
    obtain ⟨now, later⟩ := along t happens
    exact ih (next s e t start now happens) later

theorem Preserves.along (preserved : Preserves step inv)
    (weaker : ∀ s e t, inv s → step s e = some t → cond s e → cond' s e) {s : σ} (start : inv s) {es : List ε}
    (along : Along step cond s es) : Along step cond' s es := by
  induction es generalizing s with
  | nil => trivial
  | cons e es ih =>
    intro t happens
    obtain ⟨now, later⟩ := along t happens
    exact ⟨weaker s e t start happens now, ih (preserved s e t start happens) later⟩

theorem Throughout.run {s t : σ} {es : List ε} (throughout : Throughout step P s es)
    (ran : Run.run step s es = some t) : P t := by
  induction es generalizing s with
  | nil =>
    cases ran
    exact throughout
  | cons e es ih =>
    obtain ⟨u, first, rest⟩ := Option.bind_eq_some_iff.mp ran
    exact ih (throughout.2 u first) rest

theorem along_of_forall {s : σ} {es : List ε} (all : ∀ e ∈ es, ∀ s, cond s e) : Along step cond s es := by
  induction es generalizing s with
  | nil => trivial
  | cons e es ih =>
    intro t _
    exact ⟨all e List.mem_cons_self s, ih (fun e member => all e (List.mem_cons_of_mem _ member))⟩

/-- A property that a step keeps exactly when it meets a condition holds throughout a run exactly when
every step of the run meets it. The invariant may need the steps before to have met it. -/
theorem throughout_iff_along_met {allowed : σ → ε → Prop}
    (keeps : ∀ s e t, allowed s e → inv s → P s → step s e = some t → (P t ↔ cond s e))
    (inv_next : ∀ s e t, allowed s e → inv s → P s → cond s e → step s e = some t → inv t) {s : σ} (start : inv s)
    (holds : P s) {es : List ε} (all : Along step allowed s es) :
    Throughout step P s es ↔ Along step cond s es := by
  induction es generalizing s with
  | nil => exact ⟨fun _ => trivial, fun _ => holds⟩
  | cons e es ih =>
    constructor
    · intro throughout t happens
      obtain ⟨now, rest⟩ := all t happens
      have later := throughout.2 t happens
      have next : P t := by
        cases es with
        | nil => exact later
        | cons f fs => exact later.1
      have met := (keeps s e t now start holds happens).mp next
      exact ⟨met, (ih (inv_next s e t now start holds met happens) next rest).mp later⟩
    · intro along
      refine ⟨holds, ?_⟩
      intro t happens
      obtain ⟨now, rest⟩ := all t happens
      obtain ⟨met, later⟩ := along t happens
      have next := (keeps s e t now start holds happens).mpr met
      exact (ih (inv_next s e t now start holds met happens) next rest).mpr later

theorem throughout_iff_along {allowed : σ → ε → Prop}
    (keeps : ∀ s e t, allowed s e → inv s → P s → step s e = some t → (P t ↔ cond s e))
    (inv_next : ∀ s e t, allowed s e → inv s → step s e = some t → inv t) {s : σ} (start : inv s) (holds : P s)
    {es : List ε} (all : Along step allowed s es) : Throughout step P s es ↔ Along step cond s es :=
  throughout_iff_along_met keeps (fun s e t now start _ _ happens => inv_next s e t now start happens) start holds all

section Simulation

variable {τ ο ο' : Type*}

/-- What a machine puts out for the events. -/
def trace (machine : σ → ε → ο × σ) (s : σ) : List ε → List ο
  | [] => []
  | e :: es => (machine s e).1 :: trace machine (machine s e).2 es

/-- A machine that goes along with its specification puts out the same exactly when it does so in every step. -/
theorem trace_eq_iff {machine : σ → ε → ο × σ} {spec : τ → ε → ο' × τ} {abs : σ → τ} {out : ο' → ο}
    (commutes : ∀ s e, abs (machine s e).2 = (spec (abs s) e).2)
    (agrees : ∀ s e, (machine s e).1 = out (spec (abs s) e).1 ↔ cond s e) (s : σ) (es : List ε) :
    trace machine s es = (trace spec (abs s) es).map out ↔ Along (fun s e => some (machine s e).2) cond s es := by
  induction es generalizing s with
  | nil => exact iff_of_true rfl trivial
  | cons e es ih =>
    simp only [trace, List.map_cons, List.cons.injEq, Along, Option.some.injEq, forall_eq']
    rw [agrees, ← commutes, ih]

end Simulation

end Run
