import RLib.Foundation.Run
import RLib.Qps.DoorbellChain

namespace RLib.Qps

inductive RingEvent where
  | next | freeze | freezeDone | clear
deriving DecidableEq

/-- A helper, the number of `next()` calls it accepted since the last `clear()`, and the request that is frozen. -/
structure Ringing (N : Nat) where
  d : DoorbellHelper N
  accepted : Nat := 0
  frozen : Option (Fin N) := none
deriving DecidableEq

namespace Ringing

variable {N : Nat}

/-- One call. A call that fails an assertion is not made, and `next()` not while a request is frozen. -/
def step (s : Ringing N) : RingEvent → Option (Ringing N)
  | .next =>
    if s.frozen.isSome then none
    else some { s with d := s.d.next.2, accepted := if s.d.next.1 then s.accepted + 1 else s.accepted }
  | .freeze =>
    match s.d.freeze with
    | .error _ => none
    | .ok d => some { s with d := d, frozen := s.d.curWrAt.toOption }
  | .freezeDone =>
    match s.d.freezeDone with
    | .error _ => none
    | .ok d => some { s with d := d, frozen := none }
  | .clear =>
    match s.d.clear with
    | .error _ => none
    | .ok d => some { d := d }

def start [NeZero N] (op : U32) : Ringing N where
  d := .new op

/-- Where the constructor lets request `i` lead. -/
def ringNext (i : Fin N) : Nat := if i + 1 < N then i + 1 else 0

/-- The index and the size are right, and the links form the ring of the constructor unless a request is frozen. -/
structure Intact (s : Ringing N) : Prop where
  low : -1 ≤ s.d.curIdx.toInt
  high : s.d.curIdx.toInt ≤ N - 1
  size : s.d.size = s.accepted
  ring : s.frozen = none → ∀ i, (s.d.wrs i).next = some (ringNext i)

/-- No `freeze_done()` or `clear()` at the last request, and no `next()` that takes an `i8` past 127. -/
def Spares (s : Ringing N) : RingEvent → Prop
  | .next => s.d.size = 128 → N ≤ 128
  | .freeze => True
  | .freezeDone | .clear => s.d.size ≠ N

structure Linked (s : Ringing N) : Prop where
  ring : ∀ i, s.frozen ≠ some i → (s.d.wrs i).next = some (ringNext i)
  cur : ∀ i, s.frozen = some i → s.d.curWrAt = .ok i

theorem start_linked [NeZero N] (op : U32) : Linked (start op : Ringing N) where
  ring := by
    intro i _
    change ((DoorbellHelper.new op : DoorbellHelper N).wrs i).next = _
    rw [DoorbellHelper.new, DoorbellHelper.setNext_next, ringNext]
    split
    · rename_i last
      rw [last, if_neg (by simp only; omega)]
    · rename_i before
      have apart : i.val ≠ N - 1 := fun same => before (Fin.ext same)
      rw [if_pos (by omega)]
  cur := nofun

theorem start_intact [NeZero N] (op : U32) : Intact (start op : Ringing N) where
  low := show -1 ≤ (-1 : BitVec 8).toInt by decide
  high := by
    have positive := Nat.pos_of_ne_zero (NeZero.ne N)
    change (-1 : BitVec 8).toInt ≤ N - 1
    rw [show (-1 : BitVec 8).toInt = -1 by decide]
    omega
  size := rfl
  ring _ i := (start_linked op).ring i nofun

/-- Restoring the link of the current request gives back the ring unless it is the last one. -/
theorem Linked.restored {s : Ringing N} (linked : s.Linked) {i : Fin N} (cur : s.d.curWrAt = .ok i) :
    (∀ j, ((s.d.setNext i (some (i + 1))).wrs j).next = some (ringNext j)) ↔ i + 1 < N := by
  constructor
  · intro ring
    have here := ring i
    rw [DoorbellHelper.setNext_next, if_pos rfl, ringNext] at here
    by_contra last
    rw [if_neg last] at here
    cases here
  · intro inside j
    rw [DoorbellHelper.setNext_next]
    split
    · rename_i same
      rw [same, ringNext, if_pos inside]
    · rename_i apart
      apply linked.ring
      intro frozen
      have cur' := linked.cur j frozen
      rw [cur] at cur'
      cases cur'
      exact apart rfl

theorem next_intact (usize : N < 2 ^ 32) {s t : Ringing N} (linked : s.Linked) (intact : s.Intact)
    (happens : s.step .next = some t) : (t.Intact ↔ s.Spares .next) ∧ t.Linked := by
  obtain ⟨low, high, size, ring⟩ := intact
  obtain ⟨d, accepted, _ | i⟩ := s
  case some => cases happens
  simp only [step, Option.isSome_none, Bool.false_eq_true, ↓reduceIte, Option.some.injEq] at happens
  simp only at low high
  have links := ring rfl
  change d.curIdx.toInt + 1 = accepted at size
  change (_ ↔ (d.curIdx.toInt + 1 = 128 → N ≤ 128)) ∧ _
  have bound := BitVec.toInt_lt (x := d.curIdx)
  have self := d.at_self
  by_cases full : d.curIdx.toInt + 1 = N
  · have same := d.at_next_full low (by omega) usize full
    rw [self] at same
    rw [same] at happens
    subst happens
    exact ⟨iff_of_true ⟨low, high, size, fun _ => links⟩ (by omega), linked⟩
  · have more := d.at_next low (by omega) usize full
    rw [self] at more
    rw [more] at happens
    subst happens
    refine ⟨?_, fun i _ => links i, nofun⟩
    by_cases last : d.curIdx.toInt = 127
    · apply iff_of_false
      · intro wrapped
        have below := wrapped.low
        rw [last] at below
        exact absurd below (show ¬(-1 ≤ (BitVec.ofInt 8 (127 + 1)).toInt) by decide)
      · intro spares
        have few := spares (by omega)
        omega
    · have value : (d.at' (d.curIdx.toInt + 1)).curIdx.toInt = d.curIdx.toInt + 1 :=
        BitVec.toInt_ofInt_eq_self (by decide) (by omega) (by omega)
      apply iff_of_true
      · refine ⟨?_, ?_, ?_, fun _ => links⟩
        · simp only [value]
          omega
        · simp only [value]
          omega
        · change (d.at' (d.curIdx.toInt + 1)).curIdx.toInt + 1 = ((accepted + 1 : Nat) : Int)
          rw [value]
          omega
      · omega

theorem inside_iff {d : DoorbellHelper N} {i : Fin N} (cur : d.curWrAt = .ok i) : i + 1 < N ↔ d.size ≠ N := by
  unfold DoorbellHelper.curWrAt at cur
  unfold DoorbellHelper.size
  split at cur
  · cases cur
    simp only
    omega
  · cases cur

theorem freeze_intact {s t : Ringing N} (linked : s.Linked) (intact : s.Intact) (happens : s.step .freeze = some t) :
    t.Intact ∧ t.Linked := by
  unfold step at happens
  cases froze : s.d.freeze with
  | error e =>
    simp only [froze] at happens
    cases happens
  | ok d =>
    obtain ⟨i, cur, same⟩ := DoorbellHelper.setCurNext_ok froze
    simp only [froze, cur, Except.toOption] at happens
    cases happens
    rw [same]
    refine ⟨⟨intact.low, intact.high, intact.size, nofun⟩, ?_, ?_⟩
    · intro j other
      have apart : j ≠ i := fun equal => other (by rw [equal])
      rw [DoorbellHelper.setNext_next, if_neg apart]
      apply linked.ring
      intro frozen
      have cur' := linked.cur j frozen
      rw [cur] at cur'
      cases cur'
      exact apart rfl
    · intro j frozen
      cases frozen
      exact cur

theorem freezeDone_intact {s t : Ringing N} (linked : s.Linked) (intact : s.Intact)
    (happens : s.step .freezeDone = some t) : (t.Intact ↔ s.d.size ≠ N) ∧ (s.d.size ≠ N → t.Linked) := by
  unfold step at happens
  cases done : s.d.freezeDone with
  | error e =>
    simp only [done] at happens
    cases happens
  | ok d =>
    obtain ⟨i, cur, same⟩ := DoorbellHelper.setCurNext_ok done
    simp only [done] at happens
    cases happens
    rw [same]
    have restored := linked.restored cur
    rw [← inside_iff cur]
    constructor
    · constructor
      · exact fun intact' => restored.mp (intact'.ring rfl)
      · exact fun before => ⟨intact.low, intact.high, intact.size, fun _ => restored.mpr before⟩
    · exact fun before => ⟨fun j _ => restored.mpr before j, nofun⟩

theorem clear_intact {s t : Ringing N} (linked : s.Linked) (happens : s.step .clear = some t) :
    (t.Intact ↔ s.d.size ≠ N) ∧ (s.d.size ≠ N → t.Linked) := by
  unfold step at happens
  cases cleared : s.d.clear with
  | error e =>
    simp only [cleared] at happens
    cases happens
  | ok d =>
    obtain ⟨i, cur, same⟩ := DoorbellHelper.clear_ok cleared
    simp only [cleared] at happens
    cases happens
    rw [same]
    have restored := linked.restored cur
    rw [← inside_iff cur]
    have idle : ((s.d.setNext i (some (i + 1))).at' (-1)).curIdx.toInt = -1 :=
      BitVec.toInt_ofInt_eq_self (by decide) (by decide) (by decide)
    constructor
    · constructor
      · exact fun intact' => restored.mp (intact'.ring rfl)
      · intro before
        refine ⟨?_, ?_, ?_, fun _ => restored.mpr before⟩
        · simp only [idle, le_refl]
        · simp only [idle]
          omega
        · unfold DoorbellHelper.size
          simp only [idle]
          rfl
    · exact fun before => ⟨fun j _ => restored.mpr before j, nofun⟩

/-- In every run the index stays within the requests and the ring comes back whenever nothing is frozen, exactly when
    no call takes the index past an `i8` and no link of the last request is restored. -/
theorem intact_iff_spares [NeZero N] (usize : N < 2 ^ 32) (op : U32) (es : List RingEvent) :
    Run.Throughout step Intact (start op : Ringing N) es ↔ Run.Along step Spares (start op : Ringing N) es := by
  have all : Run.Along step (fun _ _ => True) (start op : Ringing N) es := Run.along_of_forall fun _ _ _ => trivial
  have keeps : ∀ (s : Ringing N) e t, True → Linked s → Intact s → step s e = some t → (Intact t ↔ Spares s e) := by
    intro s e t _ linked intact happens
    cases e with
    | next => exact (next_intact usize linked intact happens).1
    | freeze => exact iff_of_true (freeze_intact linked intact happens).1 trivial
    | freezeDone => exact (freezeDone_intact linked intact happens).1
    | clear => exact (clear_intact linked happens).1
  have linked_next : ∀ (s : Ringing N) e t, True → Linked s → Intact s → Spares s e → step s e = some t → Linked t := by
    intro s e t _ linked intact met happens
    cases e with
    | next => exact (next_intact usize linked intact happens).2
    | freeze => exact (freeze_intact linked intact happens).2
    | freezeDone => exact (freezeDone_intact linked intact happens).2 met
    | clear => exact (clear_intact linked happens).2 met
  exact Run.throughout_iff_along_met keeps linked_next (start_linked op) (start_intact op) all

def fullBatch : List RingEvent := [.next, .next, .freeze, .freezeDone, .clear]

theorem intact_iff_spares_two : Run.Throughout step Intact (start 0 : Ringing 2) fullBatch ↔
    Run.Along step Spares (start 0 : Ringing 2) fullBatch :=
  intact_iff_spares (by decide) 0 fullBatch

/-- The last request leads behind the array, where `freeze_done_at` lets it lead to the first. -/
theorem fullBatch_breaks :
    (Run.run step (start 0 : Ringing 2) fullBatch).map (fun s => ((s.d.wrs 1).next, s.frozen)) = some (some 2, none) ∧
      ((DoorbellHelper.new 0 : DoorbellHelper 2).freezeDoneAt 1).wrs 1 = ⟨0, 1, some 0, 1⟩ ∧
      ¬Run.Throughout step Intact (start 0 : Ringing 2) fullBatch := by
  have ran : (Run.run step (start 0 : Ringing 2) fullBatch).map (fun s => ((s.d.wrs 1).next, s.frozen)) =
      some (some 2, none) := by decide
  refine ⟨ran, by decide, ?_⟩
  intro throughout
  obtain ⟨s, reached, parts⟩ := Option.map_eq_some_iff.mp ran
  injection parts with link unfrozen
  have ring := (throughout.run reached).ring unfrozen 1
  rw [link] at ring
  cases ring

end Ringing

end RLib.Qps
