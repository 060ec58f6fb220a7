import RLib.Common
import Mathlib.Algebra.GroupWithZero.Nat
import Mathlib.Data.Fintype.Pi

namespace RLib.Qps

/-- An `ibv_send_wr` of a helper for `N` requests. What it points to is given by its index in `wrs` or `sges`;
    `&wrs[N]`, behind the last request, is a pointer that may be stored but not followed. -/
structure DoorbellWr where
  opcode : U32
  numSge : Nat
  next : Option Nat
  sgList : Nat
deriving DecidableEq

structure DoorbellHelper (N : Nat) where
  wrs : Fin N → DoorbellWr
  /-- an `i8` -/
  curIdx : BitVec 8 := -1
deriving DecidableEq

namespace DoorbellHelper

variable {N : Nat}

def setNext (d : DoorbellHelper N) (i : Fin N) (p : Option Nat) : DoorbellHelper N :=
  { d with wrs := Function.update d.wrs i { d.wrs i with next := p } }

/-- The constructor: the loop, and the link of the last request after it. -/
def new [NeZero N] (op : U32) : DoorbellHelper N :=
  setNext { wrs := fun i => ⟨op, 1, some (i + 1), i⟩ } ⟨N - 1, Nat.sub_one_lt (NeZero.ne N)⟩ (some 0)

def size (d : DoorbellHelper N) : Int := d.curIdx.toInt + 1

def empty (d : DoorbellHelper N) : Bool := d.size = 0

/-- `size() == N` compares an `int` with a `usize`. -/
def full (d : DoorbellHelper N) : Bool := BitVec.ofInt 32 d.size = BitVec.ofNat 32 N

def next (d : DoorbellHelper N) : Bool × DoorbellHelper N :=
  if d.full then (false, d) else (true, { d with curIdx := d.curIdx + 1 })

def curWrAt (d : DoorbellHelper N) : Except Exit (Fin N) :=
  if inside : 0 ≤ d.curIdx.toInt ∧ d.curIdx.toInt < N then .ok ⟨d.curIdx.toInt.toNat, by omega⟩ else .error .overread

/-- `assert(!empty())`, and then an assignment to `wrs[cur_idx].next`. -/
def setCurNext (d : DoorbellHelper N) (p : Fin N → Option Nat) : Except Exit (DoorbellHelper N) :=
  if d.empty then .error .abort else (fun i => d.setNext i (p i)) <$> d.curWrAt

def freeze (d : DoorbellHelper N) : Except Exit (DoorbellHelper N) := d.setCurNext fun _ => none

def freezeDone (d : DoorbellHelper N) : Except Exit (DoorbellHelper N) := d.setCurNext fun i => some (i + 1)

def freezeDoneAt (d : DoorbellHelper N) (idx : Fin N) : DoorbellHelper N :=
  if idx.val = N - 1 then d.setNext idx (some 0) else d.setNext idx (some (idx + 1))

def clear (d : DoorbellHelper N) : Except Exit (DoorbellHelper N) :=
  (fun d => { d with curIdx := -1 }) <$> d.freezeDone

/-- The requests that a list visits from the pointer `p` on. There are none to tell when it goes on behind
    `fuel` requests or leaves the array. -/
def visits (d : DoorbellHelper N) : Nat → Nat → Option (List (Fin N))
  | 0, _ => none
  | fuel + 1, p =>
    if inside : p < N then
      match (d.wrs ⟨p, inside⟩).next with
      | none => some [⟨p, inside⟩]
      | some q => (d.visits fuel q).map (⟨p, inside⟩ :: ·)
    else none

/-- What `ibv_post_send` makes of `first_wr_ptr()`. -/
def posted (d : DoorbellHelper N) : Option (List (Fin N)) := d.visits N 0

/-- The loop of `sanity_check_sz` at `i`, with `left` rounds to go. -/
def walk (d : DoorbellHelper N) (curPtr i : Nat) : Nat → Except Exit Nat
  | 0 => .ok (N + 1)
  | left + 1 =>
    if inside : curPtr < N then
      match (d.wrs ⟨curPtr, inside⟩).next with
      | none => .ok (i + 1)
      | some next => d.walk next (i + 1) left
    else .error .overread

def sanityCheckSz (d : DoorbellHelper N) : Except Exit Nat :=
  if d.empty then .ok 0 else d.walk 0 0 N

def at' (d : DoorbellHelper N) (c : Int) : DoorbellHelper N := { d with curIdx := BitVec.ofInt 8 c }

section At

variable (d : DoorbellHelper N) {c : Int}

@[simp] theorem at_wrs (c : Int) : (d.at' c).wrs = d.wrs := rfl

theorem at_self : d.at' d.curIdx.toInt = d := by
  rw [at', BitVec.ofInt_toInt]

theorem at_size (low : -1 ≤ c) (high : c ≤ 127) : (d.at' c).size = c + 1 := by
  rw [size, at', BitVec.toInt_ofInt_eq_self (by decide) (by omega) (by omega)]

theorem at_empty (low : -1 ≤ c) (high : c ≤ 127) : (d.at' c).empty = decide (c = -1) := by
  rw [empty, at_size d low high]
  congr 1
  rw [eq_iff_iff]
  omega

theorem at_curWrAt {i : Fin N} (high : i.val ≤ 127) : (d.at' i).curWrAt = .ok i := by
  have idx : (d.at' i).curIdx.toInt = i := BitVec.toInt_ofInt_eq_self (by decide) (by omega) (by omega)
  rw [curWrAt, dif_pos (by rw [idx]; omega)]
  congr 1
  apply Fin.ext
  simp only [idx, Int.toNat_natCast]

theorem at_full (low : -1 ≤ c) (high : c ≤ 127) (usize : N < 2 ^ 32) : (d.at' c).full = decide (c + 1 = N) := by
  rw [full, at_size d low high]
  congr 1
  rw [eq_iff_iff, ← BitVec.toNat_inj, BitVec.toNat_ofInt, BitVec.toNat_ofNat]
  omega

theorem at_next_full (low : -1 ≤ c) (high : c ≤ 127) (usize : N < 2 ^ 32) (full : c + 1 = N) :
    (d.at' c).next = (false, d.at' c) := by
  rw [next, at_full d low high usize, decide_eq_true full]
  rfl

theorem at_next (low : -1 ≤ c) (high : c ≤ 127) (usize : N < 2 ^ 32) (free : c + 1 ≠ N) :
    (d.at' c).next = (true, d.at' (c + 1)) := by
  rw [next, at_full d low high usize, decide_eq_false free]
  simp only [at', Bool.false_eq_true, ↓reduceIte, Prod.mk.injEq, true_and]
  rw [BitVec.ofInt_add]
  rfl

theorem at_setCurNext {i : Fin N} (high : i.val ≤ 127) (p : Fin N → Option Nat) :
    (d.at' i).setCurNext p = .ok ((d.at' i).setNext i (p i)) := by
  rw [setCurNext, at_empty d (by omega) (by omega), at_curWrAt d high, decide_eq_false (by omega)]
  rfl

theorem at_clear {i : Fin N} (high : i.val ≤ 127) :
    (d.at' i).clear = .ok ((d.setNext i (some (i + 1))).at' (-1)) := by
  rw [clear, freezeDone, at_setCurNext d high]
  rfl

end At

theorem setCurNext_ok {d d' : DoorbellHelper N} {p : Fin N → Option Nat} (ok : d.setCurNext p = .ok d') :
    ∃ i : Fin N, d.curWrAt = .ok i ∧ d' = d.setNext i (p i) := by
  rw [setCurNext] at ok
  split at ok
  · cases ok
  · cases found : d.curWrAt with
    | error e =>
      rw [found] at ok
      cases ok
    | ok i =>
      rw [found] at ok
      cases ok
      exact ⟨i, rfl, rfl⟩

theorem clear_ok {d d' : DoorbellHelper N} (ok : d.clear = .ok d') :
    ∃ i : Fin N, d.curWrAt = .ok i ∧ d' = (d.setNext i (some (i + 1))).at' (-1) := by
  rw [clear] at ok
  cases done : d.freezeDone with
  | error e =>
    rw [done] at ok
    cases ok
  | ok reset =>
    rw [done] at ok
    cases ok
    obtain ⟨i, found, same⟩ := setCurNext_ok done
    exact ⟨i, found, by rw [same]; rfl⟩

theorem setNext_next (d : DoorbellHelper N) (i j : Fin N) (p : Option Nat) :
    ((d.setNext i p).wrs j).next = if j = i then p else (d.wrs j).next := by
  unfold setNext
  by_cases same : j = i
  · subst j
    simp only [Function.update_self, ↓reduceIte]
  · simp only [Function.update_of_ne same, if_neg same]

@[simp] theorem setNext_sgList (d : DoorbellHelper N) (i j : Fin N) (p : Option Nat) :
    ((d.setNext i p).wrs j).sgList = (d.wrs j).sgList := by
  unfold setNext
  by_cases same : j = i
  · subst j
    simp only [Function.update_self]
  · simp only [Function.update_of_ne same]

theorem setNext_setNext (d : DoorbellHelper N) (i : Fin N) (p q : Option Nat) :
    (d.setNext i p).setNext i q = d.setNext i q := by
  simp only [setNext, Function.update_self, Function.update_idem]

end DoorbellHelper

end RLib.Qps
