import Mathlib.Data.Finset.Basic

namespace RLib.Bootstrap.RecvSocket

/-- What `socket` and `bind` do with one address candidate, and the descriptor that `socket` gives. -/
inductive Candidate where
  | noSocket
  | noBind (fd : Nat)
  | bound (fd : Nat)
deriving DecidableEq

def Candidate.descriptor : Candidate → Option Nat
  | .noSocket => none
  | .noBind fd => some fd
  | .bound fd => some fd

/-- The candidates of one port in a process with these descriptors open. `socket` never gives one of them, and
    each that is opened on the way is closed again before the next. -/
structure Candidates (opened : Finset Nat) where
  list : List Candidate
  fresh : ∀ c ∈ list, ∀ fd, c.descriptor = some fd → fd ∉ opened

/-- The loop over the candidates, with what `sockfd` holds and what is open; `sockfd` is -1 at `none`. -/
def choose : List Candidate → Option Nat → Finset Nat → Option Nat × Finset Nat
  | [], sockfd, opened => (sockfd, opened)
  | .noSocket :: rest, _, opened => choose rest none opened
  | .noBind fd :: rest, _, opened => choose rest (some fd) ((insert fd opened).erase fd)
  | .bound fd :: _, _, opened => (some fd, insert fd opened)

/-- `RecvChannel(int port)`: the `sock_fd` of the channel, and what is open. -/
def construct (candidates : List Candidate) (opened : Finset Nat) : Option Nat × Finset Nat :=
  choose candidates none opened

/-- `AbsChannel::~AbsChannel`. -/
def destroy (sockFd : Option Nat) (opened : Finset Nat) : Finset Nat := sockFd.elim opened opened.erase

/-- `RecvChannel::create`: the channel by its `sock_fd`; one that is not valid is destroyed again. -/
def create (candidates : List Candidate) (opened : Finset Nat) : Option Nat × Finset Nat :=
  let (sockFd, opened) := construct candidates opened
  match sockFd with
  | some fd => (some fd, opened)
  | none => (none, destroy none opened)

def FirstBound (candidates : List Candidate) (fd : Nat) : Prop :=
  ∃ before after, candidates = before ++ .bound fd :: after ∧ ∀ fd', .bound fd' ∉ before

structure Promised (candidates : List Candidate) (opened : Finset Nat) (outcome : Option Nat × Finset Nat) : Prop where
  returns : ∀ fd, outcome.1 = some fd ↔ FirstBound candidates fd
  stillOpen : ∀ fd, outcome.1 = some fd → outcome.2 = insert fd opened
  holdsNothing : (∀ fd, .bound fd ∉ candidates) → outcome.1 = none ∧ outcome.2 = opened

theorem create_eq (candidates : List Candidate) (opened : Finset Nat) :
    create candidates opened = choose candidates none opened := by
  unfold create construct
  rcases choose candidates none opened with ⟨_ | fd, after⟩
  · rfl
  · rfl

theorem choose_bound {before after : List Candidate} {fd : Nat} {opened : Finset Nat}
    (unbound : ∀ fd', .bound fd' ∉ before)
    (fresh : ∀ c ∈ before, ∀ fd, c.descriptor = some fd → fd ∉ opened) (sockfd : Option Nat) :
    choose (before ++ .bound fd :: after) sockfd opened = (some fd, insert fd opened) := by
  induction before generalizing sockfd with
  | nil => rfl
  | cons c before ih =>
    have later := ih (fun fd' member => unbound fd' (List.mem_cons_of_mem _ member))
      (fun c member => fresh c (List.mem_cons_of_mem _ member))
    cases c with
    | noSocket => exact later none
    | noBind fd' =>
      have new : fd' ∉ opened := fresh _ List.mem_cons_self fd' rfl
      rw [List.cons_append, choose, Finset.erase_insert new]
      exact later (some fd')
    | bound fd' => exact absurd List.mem_cons_self (unbound fd')

theorem choose_unbound {candidates : List Candidate} {opened : Finset Nat} (unbound : ∀ fd, .bound fd ∉ candidates)
    (fresh : ∀ c ∈ candidates, ∀ fd, c.descriptor = some fd → fd ∉ opened) (sockfd : Option Nat) :
    choose candidates sockfd opened = ((candidates.getLast?.elim sockfd Candidate.descriptor), opened) := by
  induction candidates generalizing sockfd with
  | nil => rfl
  | cons c candidates ih =>
    have later := ih (fun fd member => unbound fd (List.mem_cons_of_mem _ member))
      (fun c member => fresh c (List.mem_cons_of_mem _ member))
    have last : (c :: candidates).getLast?.elim sockfd Candidate.descriptor =
        candidates.getLast?.elim c.descriptor Candidate.descriptor := by
      rw [List.getLast?_cons]
      cases candidates.getLast? with
      | none => rfl
      | some _ => rfl
    rw [last]
    cases c with
    | noSocket => exact later none
    | noBind fd =>
      have new : fd ∉ opened := fresh _ List.mem_cons_self fd rfl
      rw [choose, Finset.erase_insert new]
      exact later (some fd)
    | bound fd => exact absurd List.mem_cons_self (unbound fd)

def Candidate.boundTo : Candidate → Option Nat
  | .bound fd => some fd
  | _ => none

theorem findSome?_firstBound {candidates : List Candidate} {fd : Nat} (first : FirstBound candidates fd) :
    candidates.findSome? Candidate.boundTo = some fd := by
  obtain ⟨before, after, rfl, unbound⟩ := first
  have skipped : before.findSome? Candidate.boundTo = none := by
    rw [List.findSome?_eq_none_iff]
    intro c member
    cases c with
    | noSocket => rfl
    | noBind fd' => rfl
    | bound fd' => exact absurd member (unbound fd')
  rw [List.findSome?_append, skipped]
  rfl

theorem firstBound_unique {candidates : List Candidate} {fd fd' : Nat} (first : FirstBound candidates fd)
    (first' : FirstBound candidates fd') : fd = fd' :=
  Option.some.inj ((findSome?_firstBound first).symm.trans (findSome?_firstBound first'))

theorem exists_firstBound {candidates : List Candidate} {fd : Nat} (member : .bound fd ∈ candidates) :
    ∃ fd', FirstBound candidates fd' := by
  induction candidates with
  | nil => cases member
  | cons c candidates ih =>
    by_cases binds : ∃ fd', c = .bound fd'
    · obtain ⟨fd', rfl⟩ := binds
      exact ⟨fd', [], candidates, rfl, nofun⟩
    · have later : .bound fd ∈ candidates :=
        (List.mem_cons.mp member).resolve_left fun same => binds ⟨fd, same.symm⟩
      obtain ⟨fd', before, after, split, unbound⟩ := ih later
      refine ⟨fd', c :: before, after, congrArg (c :: ·) split, ?_⟩
      intro fd'' there
      rcases List.mem_cons.mp there with same | there
      · exact binds ⟨fd'', same.symm⟩
      · exact unbound fd'' there

/-- `create` keeps its promise exactly when a candidate is bound, or the last one did not fail in `bind`. -/
theorem create_promised_iff {opened : Finset Nat} (candidates : Candidates opened) :
    Promised candidates.list opened (create candidates.list opened) ↔
      (∃ fd, .bound fd ∈ candidates.list) ∨ ∀ fd, candidates.list.getLast? ≠ some (.noBind fd) := by
  rw [create_eq]
  by_cases binds : ∃ fd, .bound fd ∈ candidates.list
  · refine iff_of_true ?_ (.inl binds)
    obtain ⟨fd, member⟩ := binds
    obtain ⟨first, before, after, split, unbound⟩ := exists_firstBound member
    have isFirst : FirstBound candidates.list first := ⟨before, after, split, unbound⟩
    have chosen : choose candidates.list none opened = (some first, insert first opened) := by
      have fresh := candidates.fresh
      rw [split] at fresh ⊢
      exact choose_bound unbound (fun c there => fresh c (List.mem_append_left _ there)) none
    rw [chosen]
    constructor
    · intro fd'
      constructor
      · rintro ⟨⟩
        exact isFirst
      · exact fun other => congrArg some (firstBound_unique isFirst other)
    · rintro fd' ⟨⟩
      rfl
    · exact fun unbound => absurd member (unbound fd)
  · have unbound : ∀ fd, .bound fd ∉ candidates.list := fun fd member => binds ⟨fd, member⟩
    have noFirst : ∀ fd, ¬FirstBound candidates.list fd := by
      intro fd ⟨before, after, split, _⟩
      exact unbound fd (split ▸ List.mem_append_right _ List.mem_cons_self)
    rw [choose_unbound unbound candidates.fresh none, or_iff_right binds]
    constructor
    · intro promised fd last
      have nothing := (promised.holdsNothing unbound).1
      rw [last] at nothing
      cases nothing
    · intro last
      have nothing : candidates.list.getLast?.elim none Candidate.descriptor = none := by
        cases ends : candidates.list.getLast? with
        | none => rfl
        | some c =>
          cases c with
          | noSocket => rfl
          | noBind fd => exact absurd ends (last fd)
          | bound fd => exact absurd (List.mem_of_getLast? ends) (unbound fd)
      rw [nothing]
      exact ⟨fun fd => iff_of_false nofun (noFirst fd), nofun, fun _ => ⟨rfl, rfl⟩⟩

def takenPort : Candidates {0, 1, 2} := ⟨[.noBind 3, .noBind 3], by decide⟩

theorem takenPort_valid :
    create takenPort.list {0, 1, 2} = (some 3, {0, 1, 2}) ∧
      ¬Promised takenPort.list {0, 1, 2} (create takenPort.list {0, 1, 2}) := by
  have created : create takenPort.list {0, 1, 2} = (some 3, {0, 1, 2}) := by decide
  refine ⟨created, ?_⟩
  intro promised
  have nothing := (promised.holdsNothing (by intro fd; simp [takenPort])).1
  rw [created] at nothing
  cases nothing

end RLib.Bootstrap.RecvSocket
