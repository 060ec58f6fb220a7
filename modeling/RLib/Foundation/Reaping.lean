import Mathlib.Algebra.GroupWithZero.Nat
import Mathlib.Data.List.Induction
import Mathlib.Logic.Relation

/-! Requests of which only some are marked, where the acknowledgement of a marked one stands for all before it. -/

namespace Reaping

variable {α : Type*} (mark : α → Bool)

/-- What is left of the requests, the oldest first, once `n` marked ones were acknowledged. -/
def left : Nat → List α → List α
  | 0, l => l
  | _ + 1, [] => []
  | n + 1, a :: l => if mark a then left n l else left (n + 1) l

/-- How many requests are left up to each marked one, and behind the last. -/
structure Window where
  gaps : List Nat := []
  rest : Nat := 0
deriving DecidableEq

namespace Window

def size (w : Window) : Nat := w.gaps.sum + w.rest

def post (n : Nat) (marked : Bool) (w : Window) : Window :=
  if marked then ⟨w.gaps ++ [w.rest + n], 0⟩ else ⟨w.gaps, w.rest + n⟩

def reap (w : Window) : Window := { w with gaps := w.gaps.tail }

def of (l : List α) : Window := l.foldl (fun w a => w.post 1 (mark a)) {}

end Window

variable {mark} {l l' : List α} {n : Nat}

@[simp] theorem left_zero (l : List α) : left mark 0 l = l := by
  cases l with
  | nil => rfl
  | cons a l => rfl

@[simp] theorem left_nil (n : Nat) : left mark n [] = [] := by
  cases n with
  | zero => rfl
  | succ n => rfl

theorem left_append (enough : n ≤ l.countP mark) : left mark n (l ++ l') = left mark n l ++ l' := by
  induction l generalizing n with
  | nil =>
    obtain rfl : n = 0 := by simpa using enough
    simp
  | cons a l ih =>
    cases n with
    | zero => rfl
    | succ n =>
      rw [List.countP_cons] at enough
      simp only [List.cons_append, left]
      split
      · rename_i marked
        simp only [marked, ↓reduceIte] at enough
        exact ih (by omega)
      · rename_i plain
        simp only [plain] at enough
        exact ih (by simpa using enough)

theorem left_succ (n : Nat) (l : List α) : left mark (n + 1) l = left mark 1 (left mark n l) := by
  induction l generalizing n with
  | nil => rw [left_nil, left_nil, left_nil]
  | cons a l ih =>
    cases n with
    | zero => rfl
    | succ n =>
      rw [left, left]
      split
      · exact ih n
      · exact ih (n + 1)

theorem left_countP (n : Nat) (l : List α) : (left mark n l).countP mark = l.countP mark - n := by
  induction l generalizing n with
  | nil => simp
  | cons a l ih =>
    cases n with
    | zero => simp
    | succ n =>
      rw [left, List.countP_cons]
      split
      · rw [ih n, Nat.add_sub_add_right]
      · exact ih (n + 1)

namespace Window

theorem of_append (l l' : List α) : of mark (l ++ l') = l'.foldl (fun w a => w.post 1 (mark a)) (of mark l) := by
  rw [of, List.foldl_append]
  rfl

@[simp] theorem post_size (n : Nat) (marked : Bool) (w : Window) : (w.post n marked).size = w.size + n := by
  cases marked with
  | true => simp [post, size, Nat.add_assoc]
  | false => simp [post, size, Nat.add_assoc]

theorem of_size (mark : α → Bool) (l : List α) : (of mark l).size = l.length := by
  induction l using List.reverseRecOn with
  | nil => rfl
  | append_singleton l a ih => rw [of_append, List.foldl_cons, List.foldl_nil, post_size, ih, List.length_append]; rfl

theorem of_gaps (mark : α → Bool) (l : List α) : (of mark l).gaps.length = l.countP mark := by
  induction l using List.reverseRecOn with
  | nil => rfl
  | append_singleton l a ih =>
    rw [of_append, List.foldl_cons, List.foldl_nil, post, List.countP_append, ← ih]
    cases marked : mark a with
    | true => simp [marked]
    | false => simp [marked]

theorem post_reap {w : Window} (some : w.gaps ≠ []) (n : Nat) (marked : Bool) :
    w.reap.post n marked = (w.post n marked).reap := by
  cases marked with
  | true => simp [post, reap, List.tail_append_of_ne_nil some]
  | false => rfl

theorem of_left_one (some : 0 < l.countP mark) : of mark (left mark 1 l) = (of mark l).reap := by
  induction l using List.reverseRecOn with
  | nil => cases some
  | append_singleton l a ih =>
    have gaps := of_gaps mark l
    rw [of_append, List.foldl_cons, List.foldl_nil]
    by_cases before : 0 < l.countP mark
    · rw [left_append before, of_append, List.foldl_cons, List.foldl_nil, ih before]
      apply post_reap
      intro none
      rw [none] at gaps
      exact absurd gaps.symm (Nat.ne_of_gt before)
    · have none : l.countP mark = 0 := by omega
      have plain : ∀ b ∈ l, ¬mark b := List.countP_eq_zero.mp none
      have marked : mark a = true := by
        by_contra plain
        simp [List.countP_append, none, plain] at some
      have all : left mark 1 (l ++ [a]) = [] := by
        clear ih some gaps before none
        induction l with
        | nil => simp [left, marked]
        | cons b l ih =>
          rw [List.cons_append, left, if_neg (plain b List.mem_cons_self)]
          exact ih (fun c member => plain c (List.mem_cons_of_mem _ member))
      rw [none] at gaps
      rw [all, marked, post, if_pos rfl, reap, List.length_eq_zero_iff.mp gaps]
      rfl

theorem of_chain {front : List α} (plain : ∀ b ∈ front, mark b = false) (a : α) :
    of mark (l ++ (front ++ [a])) = (of mark l).post (front.length + 1) (mark a) := by
  rw [← List.append_assoc, of_append, List.foldl_cons, List.foldl_nil]
  have grows : of mark (l ++ front) = (of mark l).post front.length false := by
    induction front using List.reverseRecOn with
    | nil => simp [post]
    | append_singleton front b ih =>
      rw [← List.append_assoc, of_append, List.foldl_cons, List.foldl_nil,
        ih (fun c member => plain c (List.mem_append_left _ member)), plain b (by simp)]
      simp [post, Nat.add_assoc]
  rw [grows]
  cases mark a with
  | true => simp [post, Nat.add_assoc]
  | false => simp [post, Nat.add_assoc]

end Window

/-- A loop whose passes post `chains` chains of `chain` requests. The first chain of a pass and every `period`th
    after it end with a marked request; behind each of those but the first, and behind the pass, the loop waits for
    one acknowledgement. -/
structure Pace where
  chain : Nat
  period : Nat
  chains : Nat
  someChain : 0 < chain
  somePeriod : 0 < period
  someChains : 0 < chains

inductive Phase where
  | post (k : Nat)
  | wait (k : Nat)
  | last
deriving DecidableEq

namespace Pace

def goOn (p : Pace) (k : Nat) : Phase := if k + 1 < p.chains then .post (k + 1) else .last

def step (p : Pace) : Phase × Window → Phase × Window
  | (.post k, w) =>
    (if p.period ∣ k ∧ k ≠ 0 then .wait k else p.goOn k, w.post p.chain (p.period ∣ k))
  | (.wait k, w) => (p.goOn k, w.reap)
  | (.last, w) => (.post 0, w.reap)

def Reaches (p : Pace) : Phase × Window → Phase × Window → Prop := Relation.ReflTransGen fun s t => p.step s = t

def start : Phase × Window := (.post 0, {})

/-- The most chains that are ever left at once, in the second pass or a later one. -/
def peak (p : Pace) : Nat := if p.chains ≤ p.period then 2 * p.chains - 1 else min p.chains (2 * p.period)

section

variable (p : Pace) (t : Nat)

/-- The chains left up to the oldest marked one when the chain `k` comes next, where the pass began with `t`. -/
def front (k : Nat) : Nat := if k ≤ p.period then t + 1 else p.period

def window (k : Nat) : Window :=
  if k = 0 then ⟨[], p.chain * t⟩ else ⟨[p.chain * p.front t k], p.chain * ((k - 1) % p.period)⟩

def head (k : Nat) : Phase × Window := (if k < p.chains then .post k else .last, p.window t k)

def waiting (k : Nat) : Phase × Window := (.wait k, ⟨[p.chain * p.front t k, p.chain * p.period], 0⟩)

/-- With so many chains a pass ends. -/
def trail : Nat := (p.chains - 1) % p.period

variable {p t} {k : Nat}

theorem succ_mod (p : Pace) (positive : 0 < k) :
    if p.period ∣ k then k % p.period = 0 ∧ (k - 1) % p.period + 1 = p.period
    else k % p.period = (k - 1) % p.period + 1 := by
  have bound := Nat.mod_lt (k - 1) p.somePeriod
  have whole : (k - 1) % p.period + p.period * ((k - 1) / p.period) = k - 1 := Nat.mod_add_div (k - 1) p.period
  by_cases ends : (k - 1) % p.period + 1 = p.period
  · have all : k = p.period * ((k - 1) / p.period + 1) := by
      rw [Nat.mul_add, Nat.mul_one]
      omega
    have divides : p.period ∣ k := ⟨_, all⟩
    rw [if_pos divides]
    exact ⟨Nat.mod_eq_zero_of_dvd divides, ends⟩
  · have next : k % p.period = (k - 1) % p.period + 1 := by
      have all : k = (k - 1) % p.period + 1 + p.period * ((k - 1) / p.period) := by omega
      conv_lhs => rw [all]
      rw [Nat.add_mul_mod_self_left, Nat.mod_eq_of_lt (by omega)]
    have rest : ¬p.period ∣ k := by
      intro divides
      rw [Nat.mod_eq_zero_of_dvd divides] at next
      omega
    rw [if_neg rest]
    exact next

theorem goOn_head (k : Nat) (w : Window) (same : w = p.window t (k + 1)) : (p.goOn k, w) = p.head t (k + 1) := by
  rw [head, goOn, same]

theorem window_succ (k : Nat) : p.window t (k + 1) = ⟨[p.chain * p.front t (k + 1)], p.chain * (k % p.period)⟩ := rfl

theorem step_head (within : k < p.chains) :
    p.step (p.head t k) = if p.period ∣ k ∧ k ≠ 0 then p.waiting t k else p.head t (k + 1) := by
  rw [head, if_pos within, step]
  by_cases first : k = 0
  · subst first
    rw [if_neg (by simp), if_neg (by simp)]
    apply goOn_head
    have one : p.front t 1 = t + 1 := if_pos p.somePeriod
    simp [window, Window.post, one, Nat.mul_add]
  · have mods := p.succ_mod (Nat.pos_of_ne_zero first)
    by_cases marked : p.period ∣ k
    · rw [if_pos marked] at mods
      rw [if_pos ⟨marked, first⟩, if_pos ⟨marked, first⟩, waiting, window, if_neg first]
      have whole : p.chain * ((k - 1) % p.period) + p.chain = p.chain * p.period := by rw [← Nat.mul_add_one, mods.2]
      simp [Window.post, marked, whole]
    · rw [if_neg marked] at mods
      rw [if_neg (fun both => marked both.1), if_neg (fun both => marked both.1)]
      apply goOn_head
      have same : p.front t (k + 1) = p.front t k := by
        have other : k ≠ p.period := by
          rintro rfl
          exact marked (Nat.dvd_refl _)
        have both : k + 1 ≤ p.period ↔ k ≤ p.period := by omega
        simp only [front, both]
      rw [window, if_neg first, window_succ, same, mods]
      simp [Window.post, marked, Nat.mul_add]

theorem step_waiting (positive : 0 < k) (marked : p.period ∣ k) : p.step (p.waiting t k) = p.head t (k + 1) := by
  rw [waiting, step]
  apply goOn_head
  have mods := p.succ_mod positive
  rw [if_pos marked] at mods
  have later : p.front t (k + 1) = p.period :=
    if_neg (Nat.not_le.mpr (Nat.lt_succ_of_le (Nat.le_of_dvd positive marked)))
  rw [window_succ, later, mods.1]
  rfl

theorem step_last : p.step (p.head t p.chains) = p.head p.trail 0 := by
  rw [head, if_neg (Nat.lt_irrefl _), step, head, if_pos p.someChains, window, if_neg (Nat.ne_of_gt p.someChains)]
  rfl

/-- The states of a pass that began with `t` chains left. -/
inductive Passes (p : Pace) : Phase × Window → Prop
  | head {t k : Nat} (began : t = 0 ∨ t = p.trail) (within : k ≤ p.chains) : Passes p (p.head t k)
  | waiting {t k : Nat} (began : t = 0 ∨ t = p.trail) (positive : 0 < k) (marked : p.period ∣ k)
    (within : k < p.chains) : Passes p (p.waiting t k)

theorem Passes.step {s : Phase × Window} (passes : p.Passes s) : p.Passes (p.step s) := by
  cases passes with
  | head began within =>
    rcases Nat.lt_or_eq_of_le within with within | rfl
    · rw [step_head within]
      split
      · rename_i marked
        exact .waiting began (Nat.pos_of_ne_zero marked.2) marked.1 within
      · exact .head began within
    · rw [step_last]
      exact .head (.inr rfl) (Nat.zero_le _)
  | waiting began positive marked within =>
    rw [step_waiting positive marked]
    exact .head began within

theorem head_start : p.head 0 0 = start := by
  rw [head, if_pos p.someChains, window, if_pos rfl]
  rfl

theorem Reaches.passes {s : Phase × Window} (reaches : p.Reaches start s) : p.Passes s := by
  induction reaches with
  | refl => exact head_start ▸ .head (.inl rfl) (Nat.zero_le _)
  | tail _ same ih => exact same ▸ ih.step

theorem Passes.gaps_ne_nil {s : Phase × Window} (passes : p.Passes s) (waits : s.1 = .last ∨ ∃ k, s.1 = .wait k) :
    s.2.gaps ≠ [] := by
  cases passes with
  | @head t k began within =>
    have past : ¬k < p.chains := by
      intro more
      rw [Pace.head, if_pos more] at waits
      simp at waits
    have some := p.someChains
    change (p.window t k).gaps ≠ []
    rw [window, if_neg (by omega)]
    simp
  | waiting => simp [Pace.waiting]

theorem trail_lt (p : Pace) : p.trail < p.period := Nat.mod_lt _ p.somePeriod

theorem trail_short (short : p.chains ≤ p.period) : p.trail = p.chains - 1 := by
  have some := p.someChains
  exact Nat.mod_eq_of_lt (by omega)

theorem mod_second {m : Nat} (behind : p.period ≤ m) (within : m < 2 * p.period) : m % p.period = m - p.period := by
  rw [Nat.mod_eq_sub_mod behind, Nat.mod_eq_of_lt (by omega)]

theorem window_size (positive : 0 < k) : (p.window t k).size = p.chain * (p.front t k + (k - 1) % p.period) := by
  rw [window, if_neg (Nat.ne_of_gt positive), Window.size, Nat.mul_add]
  simp

theorem waiting_size : (p.waiting t k).2.size = p.chain * (p.front t k + p.period) := by
  rw [waiting, Window.size, Nat.mul_add]
  simp

theorem began_le (began : t = 0 ∨ t = p.trail) : t < p.chains ∧ (p.period < p.chains → t + 1 + p.period ≤ p.peak) := by
  have some := p.someChains
  have trail := p.trail_lt
  constructor
  · have less : p.trail ≤ p.chains - 1 := Nat.mod_le _ _
    omega
  · intro long
    rw [peak, if_neg (by omega)]
    by_cases short : p.chains ≤ 2 * p.period
    · have second : p.trail = p.chains - 1 - p.period := mod_second (by omega) (by omega)
      omega
    · omega

theorem Passes.size_le {s : Phase × Window} (passes : p.Passes s) : s.2.size ≤ p.chain * p.peak := by
  have some := p.someChains
  have period := p.somePeriod
  cases passes with
  | @head t k began within =>
    obtain ⟨few, long⟩ := began_le began
    change (p.window t k).size ≤ _
    by_cases first : k = 0
    · subst first
      have less : t ≤ p.peak := by
        unfold peak at long ⊢
        split
        · omega
        · rename_i more
          rw [if_neg more] at long
          omega
      simpa [window, Window.size] using Nat.mul_le_mul_left p.chain less
    · rw [window_size (Nat.pos_of_ne_zero first)]
      apply Nat.mul_le_mul_left
      unfold front
      split
      · rename_i early
        rw [Nat.mod_eq_of_lt (by omega)]
        by_cases more : p.period < p.chains
        · have := long more
          omega
        · rw [peak, if_pos (by omega)]
          omega
      · have bound := Nat.mod_lt (k - 1) period
        rw [peak, if_neg (by omega)]
        by_cases short : p.chains ≤ 2 * p.period
        · rw [mod_second (by omega) (by omega)]
          omega
        · omega
  | @waiting t k began positive marked within =>
    obtain ⟨few, long⟩ := began_le began
    rw [waiting_size]
    apply Nat.mul_le_mul_left
    have behind := Nat.le_of_dvd positive marked
    unfold front
    split
    · exact long (by omega)
    · obtain ⟨q, rfl⟩ := marked
      have twice : p.period * 2 ≤ p.period * q := by
        apply Nat.mul_le_mul_left
        by_contra less
        have one : q ≤ 1 := by omega
        have := Nat.mul_le_mul_left p.period one
        omega
      rw [peak, if_neg (by omega)]
      omega

theorem reaches_head {s : Phase × Window} (reaches : p.Reaches s (p.head t 0)) (within : k ≤ p.chains) :
    p.Reaches s (p.head t k) := by
  induction k with
  | zero => exact reaches
  | succ k ih =>
    have before := ih (by omega)
    have steps := step_head (t := t) (show k < p.chains by omega)
    by_cases marked : p.period ∣ k ∧ k ≠ 0
    · rw [if_pos marked] at steps
      exact (before.tail steps).tail (step_waiting (Nat.pos_of_ne_zero marked.2) marked.1)
    · rw [if_neg marked] at steps
      exact before.tail steps

theorem reaches_waiting {s : Phase × Window} (reaches : p.Reaches s (p.head t 0)) (positive : 0 < k)
    (marked : p.period ∣ k) (within : k < p.chains) : p.Reaches s (p.waiting t k) := by
  have steps := step_head (t := t) within
  rw [if_pos ⟨marked, Nat.ne_of_gt positive⟩] at steps
  exact (reaches_head reaches (by omega)).tail steps

/-- The peak is met in the second pass. -/
theorem peak_reached (p : Pace) : ∃ s, p.Reaches start s ∧ s.2.size = p.chain * p.peak := by
  have some := p.someChains
  have period := p.somePeriod
  have second : p.Reaches start (p.head p.trail 0) := by
    have first : p.Reaches start (p.head 0 0) := head_start ▸ .refl
    exact (reaches_head first (Nat.le_refl _)).tail step_last
  unfold peak
  split
  · rename_i short
    refine ⟨_, reaches_head second (Nat.le_refl _), ?_⟩
    change (p.window _ _).size = _
    rw [window_size some, trail_short short, front, if_pos short, Nat.mod_eq_of_lt (by omega)]
    congr 1
    omega
  · by_cases short : p.chains ≤ 2 * p.period
    · refine ⟨_, reaches_waiting second period (Nat.dvd_refl _) (by omega), ?_⟩
      have trail : p.trail = p.chains - 1 - p.period := mod_second (by omega) (by omega)
      rw [waiting_size, front, if_pos (Nat.le_refl _), trail]
      congr 1
      omega
    · refine ⟨_, reaches_waiting second (show 0 < 2 * p.period by omega) ⟨2, Nat.mul_comm _ _⟩ (by omega), ?_⟩
      rw [waiting_size, front, if_neg (by omega)]
      congr 1
      omega

theorem size_le_iff (p : Pace) (room : Nat) :
    (∀ s, p.Reaches start s → s.2.size ≤ room) ↔ p.chain * p.peak ≤ room := by
  constructor
  · intro fits
    obtain ⟨s, reaches, size⟩ := p.peak_reached
    exact size ▸ fits s reaches
  · exact fun fits s reaches => Nat.le_trans reaches.passes.size_le fits

end

end Pace

end Reaping
