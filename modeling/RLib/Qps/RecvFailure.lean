import RLib.Qps.RecvRing

namespace RLib.Qps

open Ring

variable {N : Nat} [NeZero N]

/-- What `post_recvs` leaves of the entries when `ibv_post_recv` accepts nothing. -/
def afterFailure (r : RecvEntries N) (num : Nat) : RecvEntries N := r.setNext (slot r.header (num - 1)) none

theorem postRecvs_fails {r : RecvEntries N} (linked : Linked r.next) {num : Nat} (positive : 0 < num) (fits : num ≤ N) :
    postRecvs r num (fun _ => (none : Option Unit)) = .ok (none, afterFailure r num) :=
  postRecvs_linked linked positive fits _

/-- A post of `m` entries that succeeds posts the `m` entries from the header on. -/
def PostsFromHeader (r r' : RecvEntries N) (m : Nat) : Prop :=
  ∃ after, postRecvs r' m some = .ok (some ((window r.header m).map r.wqe), after)

structure SurvivesFailure (r : RecvEntries N) (num : Nat) : Prop where
  links : ∀ r', postRecvs r num (fun _ => (none : Option Unit)) = .ok (none, r') → r'.next = r.next
  header : ∀ r', postRecvs r num (fun _ => (none : Option Unit)) = .ok (none, r') → r'.header = r.header
  later : ∀ r', postRecvs r num (fun _ => (none : Option Unit)) = .ok (none, r') →
    ∀ m, 0 < m → m ≤ N → PostsFromHeader r r' m

theorem afterFailure_next (r : RecvEntries N) (num : Nat) :
    (afterFailure r num).next = Function.update r.next (slot r.header (num - 1)) none := r.setNext_next _ _

theorem afterFailure_cut {r : RecvEntries N} (linked : Linked r.next) (num : Nat) :
    (afterFailure r num).next ≠ r.next := by
  intro same
  have last := congrFun same (slot r.header (num - 1))
  rw [afterFailure_next, Function.update_self, linked] at last
  cases last

theorem afterFailure_chain {r : RecvEntries N} (linked : Linked r.next) {num m : Nat} (positive : 0 < num)
    (fits : num ≤ N) (more : 0 < m) (room : m ≤ N) :
    chain (Function.update (afterFailure r num).next (slot r.header (m - 1)) none) N r.header =
      some (window r.header (min m num)) := by
  obtain ⟨k, least⟩ : ∃ k, min m num = k + 1 := ⟨min m num - 1, by omega⟩
  rw [least, afterFailure_next]
  apply chain_window r.header k N (by omega)
  · intro j before
    have first : slot r.header j ≠ slot r.header (m - 1) := by
      intro same
      have := slot_inj r.header (by omega) (by omega) same
      omega
    have second : slot r.header j ≠ slot r.header (num - 1) := by
      intro same
      have := slot_inj r.header (by omega) (by omega) same
      omega
    rw [Function.update_of_ne first, Function.update_of_ne second, linked, slot_slot]
  · by_cases same : slot r.header k = slot r.header (m - 1)
    · rw [same, Function.update_self]
    · have last : k = num - 1 := by
        by_contra other
        apply same
        congr 1
        omega
      rw [Function.update_of_ne same, last, Function.update_self]

theorem afterFailure_posts {r : RecvEntries N} (linked : Linked r.next) {num m : Nat} (positive : 0 < num)
    (fits : num ≤ N) (more : 0 < m) (room : m ≤ N) : PostsFromHeader r (afterFailure r num) m ↔ m ≤ num := by
  have posts := postRecvs_posts (r := afterFailure r num) more room
    (afterFailure_chain linked positive fits more room) some
  have wqes : (afterFailure r num).wqe = r.wqe := r.setNext_wqe _ _
  rw [wqes] at posts
  unfold PostsFromHeader
  rw [posts]
  constructor
  · intro ⟨after, same⟩
    have lengths := congrArg List.length (Option.some.inj (congrArg Prod.fst (Except.ok.inj same)))
    simp only [List.length_map, window_length] at lengths
    omega
  · intro less
    rw [Nat.min_eq_left less]
    exact ⟨_, rfl⟩

/-- A failing `post_recvs` never leaves the ring as it was: the link behind its last entry stays cut, and a
    later post of more entries than the failing one was to post stops there. -/
theorem failure_not_survived {r : RecvEntries N} (linked : Linked r.next) {num : Nat} (positive : 0 < num)
    (fits : num ≤ N) : ¬SurvivesFailure r num ∧ (afterFailure r num).header = r.header ∧
      ∀ m, 0 < m → m ≤ N → (PostsFromHeader r (afterFailure r num) m ↔ m ≤ num) := by
  refine ⟨?_, rfl, fun m more room => afterFailure_posts linked positive fits more room⟩
  intro survives
  exact afterFailure_cut linked num (survives.links _ (postRecvs_fails linked positive fits))

theorem failure_not_survived_two :
    ¬SurvivesFailure twoEntries 1 ∧ (afterFailure twoEntries 1).header = twoEntries.header ∧
    ∀ m, 0 < m → m ≤ 2 → (PostsFromHeader twoEntries (afterFailure twoEntries 1) m ↔ m ≤ 1) :=
  failure_not_survived (by decide) (by decide) (by decide)

theorem two_posts_one : postRecvs twoEntries 1 (fun _ => (none : Option Unit)) = .ok (none, afterFailure twoEntries 1) ∧
    (postRecvs (afterFailure twoEntries 1) 2 some).map Prod.fst = .ok (some [twoEntries.wqe 0]) ∧
    ¬SurvivesFailure twoEntries 1 := by
  have failed : postRecvs twoEntries 1 (fun _ => (none : Option Unit)) = .ok (none, afterFailure twoEntries 1) := by
    decide
  refine ⟨failed, by decide, ?_⟩
  intro survives
  have same := congrFun (survives.links _ failed) 0
  exact absurd same (by decide)

end RLib.Qps
