import RLib.Qps.Doorbell
import Mathlib.Data.List.Range

namespace RLib.Qps.DoorbellHelper

variable {N : Nat}

/-- A call of `next()`: what it returned, and the helper before and after it. -/
structure NextCall (N : Nat) where
  before : DoorbellHelper N
  result : Bool
  after : DoorbellHelper N

def nexts : Nat → DoorbellHelper N → List (NextCall N) × DoorbellHelper N
  | 0, d => ([], d)
  | k + 1, d =>
    let (result, after) := d.next
    let (calls, last) := nexts k after
    (⟨d, result, after⟩ :: calls, last)

/-- How many times a batch calls `next()`, and whether it calls `freeze_done()` before `clear()`. -/
structure Batch where
  calls : Nat
  positive : 0 < calls
  resets : Bool

/-- The calls of `next()` that a batch made, and the helper as it was posted. -/
structure Report (N : Nat) where
  calls : List (NextCall N)
  frozen : DoorbellHelper N

def finish (resets : Bool) (d : DoorbellHelper N) : Except Exit (DoorbellHelper N) :=
  if resets then d.freezeDone >>= clear else d.clear

def batch (b : Batch) (d : DoorbellHelper N) : Except Exit (Report N × DoorbellHelper N) := do
  let (calls, filled) := d.nexts b.calls
  let frozen ← filled.freeze
  let cleared ← frozen.finish b.resets
  return (⟨calls, frozen⟩, cleared)

def batches : List Batch → DoorbellHelper N → Except Exit (List (Report N) × DoorbellHelper N)
  | [], d => .ok ([], d)
  | b :: bs, d => do
    let (report, d) ← d.batch b
    let (reports, d) ← d.batches bs
    return (report :: reports, d)

structure Report.Right (b : Batch) (r : Report N) : Prop where
  accepted : r.calls.map NextCall.result = List.replicate (min b.calls N) true ++ List.replicate (b.calls - N) false
  unchanged : ∀ call ∈ r.calls, call.result = false → call.after = call.before
  posted : r.frozen.posted.map (List.map Fin.val) = some (List.range (min b.calls N))
  sgList : ∀ i, (r.frozen.wrs i).sgList = i
  sane : ∃ sz : Nat, r.frozen.sanityCheckSz = .ok sz ∧ r.frozen.size = sz

/-- No request is pending, and every link but that of the last request leads to the next one. -/
structure Ready (d : DoorbellHelper N) : Prop where
  idle : d.curIdx = -1
  linked : ∀ i : Fin N, i + 1 < N → (d.wrs i).next = some (i.val + 1)
  sgList : ∀ i, (d.wrs i).sgList = i

theorem new_ready [NeZero N] (op : U32) : Ready (new op : DoorbellHelper N) where
  idle := rfl
  linked := by
    intro i inside
    rw [new, setNext_next, if_neg]
    intro last
    have value := congrArg Fin.val last
    simp only at value
    omega
  sgList i := setNext_sgList _ _ _ _

theorem Ready.clear {d : DoorbellHelper N} (ready : d.Ready) (i : Fin N) :
    Ready ((d.setNext i (some (i + 1))).at' (-1)) where
  idle := rfl
  linked := by
    intro j inside
    rw [at_wrs, setNext_next]
    split
    · rename_i same
      rw [same]
    · exact ready.linked j inside
  sgList j := (setNext_sgList d i j _).trans (ready.sgList j)

def filled (d : DoorbellHelper N) (n : Nat) : DoorbellHelper N := d.at' (n - 1)

theorem filled_next (d : DoorbellHelper N) (small : N ≤ 128) {n : Nat} (room : n < N) :
    (d.filled n).next = (true, d.filled (n + 1)) := by
  rw [filled, at_next d (by omega) (by omega) (by omega) (by omega)]
  congr 2
  omega

theorem filled_next_full (d : DoorbellHelper N) (small : N ≤ 128) : (d.filled N).next = (false, d.filled N) :=
  at_next_full d (by omega) (by omega) (by omega) (by omega)

theorem filled_nexts (d : DoorbellHelper N) (small : N ≤ 128) (k : Nat) {n : Nat} (room : n ≤ N) :
    ((d.filled n).nexts k).2 = d.filled (min (n + k) N) ∧
      ((d.filled n).nexts k).1.map NextCall.result =
        List.replicate (min k (N - n)) true ++ List.replicate (n + k - N) false ∧
      ∀ call ∈ ((d.filled n).nexts k).1, call.result = false → call.after = call.before := by
  induction k generalizing n with
  | zero =>
    refine ⟨?_, ?_, nofun⟩
    · rw [Nat.add_zero, Nat.min_eq_left room]
      rfl
    · rw [Nat.zero_min, Nat.add_zero, Nat.sub_eq_zero_of_le room]
      rfl
  | succ k ih =>
    by_cases free : n < N
    · obtain ⟨last, results, unchanged⟩ := ih (n := n + 1) (by omega)
      have steps : (d.filled n).nexts (k + 1) = (⟨d.filled n, true, d.filled (n + 1)⟩ ::
          ((d.filled (n + 1)).nexts k).1, ((d.filled (n + 1)).nexts k).2) := by
        rw [nexts, filled_next d small free]
      rw [steps]
      refine ⟨?_, ?_, ?_⟩
      · rw [last]
        congr 2
        omega
      · have count : min (k + 1) (N - n) = min k (N - (n + 1)) + 1 := by omega
        have left : n + (k + 1) - N = n + 1 + k - N := by omega
        rw [List.map_cons, results, count, left, List.replicate_succ]
        rfl
      · intro call member refused
        rcases List.mem_cons.mp member with first | later
        · rw [first] at refused
          cases refused
        · exact unchanged call later refused
    · have full : n = N := by omega
      subst n
      obtain ⟨last, results, unchanged⟩ := ih (Nat.le_refl N)
      have steps : (d.filled N).nexts (k + 1) = (⟨d.filled N, false, d.filled N⟩ ::
          ((d.filled N).nexts k).1, ((d.filled N).nexts k).2) := by
        rw [nexts, filled_next_full d small]
      rw [steps]
      refine ⟨?_, ?_, ?_⟩
      · rw [last]
        congr 1
        omega
      · have none' : min (k + 1) (N - N) = 0 := by omega
        have none'' : min k (N - N) = 0 := by omega
        have left : N + (k + 1) - N = N + k - N + 1 := by omega
        rw [List.map_cons, results, none', none'', left, List.replicate_succ]
        rfl
      · intro call member refused
        rcases List.mem_cons.mp member with first | later
        · rw [first]
        · exact unchanged call later refused

/-- Links that lead from request to request up to a cut behind `c`. -/
structure CutBehind (d : DoorbellHelper N) (c : Fin N) : Prop where
  linked : ∀ j < c, (d.wrs j).next = some (j.val + 1)
  cut : (d.wrs c).next = none

theorem CutBehind.visits {d : DoorbellHelper N} {c : Fin N} (cut : d.CutBehind c) {p fuel : Nat} (before : p ≤ c)
    (enough : c < p + fuel) : (d.visits fuel p).map (List.map Fin.val) = some (List.range' p (c + 1 - p)) := by
  induction fuel generalizing p with
  | zero => omega
  | succ fuel ih =>
    have inside : p < N := by omega
    rw [DoorbellHelper.visits, dif_pos inside]
    by_cases last : p = c
    · subst p
      simp only [cut.cut, Option.map_some, List.map_cons, List.map_nil, Nat.add_sub_cancel_left, List.range'_one]
    · have next := cut.linked ⟨p, inside⟩ (Fin.lt_def.mpr (by simp only; omega))
      have rest := ih (p := p + 1) (by omega) (by omega)
      have count : c + 1 - p = (c + 1 - (p + 1)) + 1 := by omega
      simp only [next, Option.map_map]
      rw [count, List.range'_succ, ← Option.map_some (f := fun l => p :: l), ← rest, Option.map_map]
      rfl

theorem CutBehind.walk {d : DoorbellHelper N} {c : Fin N} (cut : d.CutBehind c) {p left : Nat} (before : p ≤ c)
    (enough : c < p + left) : d.walk p p left = .ok (c + 1) := by
  induction left generalizing p with
  | zero => omega
  | succ left ih =>
    have inside : p < N := by omega
    rw [DoorbellHelper.walk, dif_pos inside]
    by_cases last : p = c
    · subst p
      simp only [cut.cut]
    · have next := cut.linked ⟨p, inside⟩ (Fin.lt_def.mpr (by simp only; omega))
      simp only [next]
      exact ih (by omega) (by omega)

theorem Ready.frozen {d : DoorbellHelper N} (ready : d.Ready) (c : Fin N) :
    CutBehind ((d.at' c).setNext c none) c where
  linked := by
    intro j before
    have apart : j ≠ c := Fin.ne_of_lt before
    rw [setNext_next, if_neg apart]
    exact ready.linked j (by omega)
  cut := by rw [setNext_next, if_pos rfl]

/-- However a batch ends, the link that it cut leads on again. -/
theorem frozen_finish (d : DoorbellHelper N) {c : Fin N} (high : c.val ≤ 127) (resets : Bool) :
    ((d.at' c).setNext c none).finish resets = .ok ((d.setNext c (some (c + 1))).at' (-1)) := by
  have done := at_setCurNext (d.setNext c none) high (fun i => some (i + 1))
  have clear (p : Option Nat) := at_clear (d.setNext c p) high
  simp only [setNext_setNext] at clear
  cases resets with
  | false => exact clear none
  | true =>
    have again : (at' (d.setNext c none) c).setNext c (some (c + 1)) = at' (d.setNext c (some (c + 1))) c :=
      setNext_setNext (d.at' c) c none (some (c + 1))
    rw [again] at done
    change (at' (d.setNext c none) c).setCurNext _ >>= DoorbellHelper.clear = _
    rw [done]
    exact clear (some (c + 1))

theorem Ready.batch {d : DoorbellHelper N} (ready : d.Ready) (small : N ≤ 128) (positive : 0 < N) (b : Batch) :
    ∃ report next, d.batch b = .ok (report, next) ∧ report.Right b ∧ next.Ready := by
  have calls := b.positive
  let c : Fin N := ⟨min b.calls N - 1, by omega⟩
  have count : c + 1 = min b.calls N := by
    simp only [c]
    omega
  have high : c.val ≤ 127 := by omega
  have idle : d = d.filled 0 := by
    have same := at_self d
    rw [ready.idle] at same
    exact same.symm
  obtain ⟨last, results, unchanged⟩ := filled_nexts d small b.calls (Nat.zero_le N)
  rw [← idle, Nat.zero_add] at last results
  rw [← idle] at unchanged
  have filled : (d.nexts b.calls).2 = d.at' c := by
    rw [last, DoorbellHelper.filled, ← count]
    congr 1
    omega
  have cut := ready.frozen c
  have ran : d.batch b = .ok (⟨(d.nexts b.calls).1, (d.at' c).setNext c none⟩,
      (d.setNext c (some (c + 1))).at' (-1)) := by
    rw [DoorbellHelper.batch]
    simp only [filled, freeze, at_setCurNext d high, frozen_finish d high, Bind.bind, Except.bind, Pure.pure,
      Except.pure]
  refine ⟨_, _, ran, ?_, ready.clear c⟩
  constructor
  · exact results
  · exact unchanged
  · rw [posted, cut.visits (Nat.zero_le _) (by omega), count, Nat.sub_zero, List.range_eq_range']
  · intro i
    rw [setNext_sgList]
    exact ready.sgList i
  · have busy : ((d.at' c).setNext c none).empty = false := by
      change (d.at' c).empty = false
      rw [at_empty d (by omega) (by omega)]
      exact decide_eq_false (by omega)
    refine ⟨c + 1, ?_, at_size d (by omega) (by omega)⟩
    rw [sanityCheckSz, busy]
    exact cut.walk (Nat.zero_le _) (by omega)

theorem Ready.batches {d : DoorbellHelper N} (ready : d.Ready) (small : N ≤ 128) (positive : 0 < N) (bs : List Batch) :
    ∃ reports last, d.batches bs = .ok (reports, last) ∧ List.Forall₂ Report.Right bs reports := by
  induction bs generalizing d with
  | nil => exact ⟨[], d, rfl, .nil⟩
  | cons b bs ih =>
    obtain ⟨report, next, ran, right, later⟩ := ready.batch small positive b
    obtain ⟨reports, last, rest, all⟩ := ih later
    refine ⟨report :: reports, last, ?_, .cons right all⟩
    rw [DoorbellHelper.batches, ran]
    simp only [Bind.bind, Except.bind, rest, Pure.pure, Except.pure]

/-- Every batch of every run posts the requests it asked for, as far as they fit, and nothing else. -/
theorem batches_right [NeZero N] (small : N ≤ 128) (op : U32) (bs : List Batch) :
    ∃ reports last, batches bs (new op : DoorbellHelper N) = .ok (reports, last) ∧
      List.Forall₂ Report.Right bs reports :=
  (new_ready op).batches small (Nat.pos_of_ne_zero (NeZero.ne N)) bs

theorem batches_right_one :
    ∃ reports last, batches [⟨1, by decide, true⟩, ⟨3, by decide, false⟩] (new 0 : DoorbellHelper 1) =
      .ok (reports, last) ∧ List.Forall₂ Report.Right [⟨1, by decide, true⟩, ⟨3, by decide, false⟩] reports :=
  batches_right (by decide) 0 _

end RLib.Qps.DoorbellHelper
