import RLib.Control.Committed
import RLib.Control.RemoteDelete

namespace RLib

open Bytes Bootstrap Proto Qps RCtrl

section Reading

/-- How many bytes are looked at to make a string of the characters from the front of `mem` on. -/
def Proto.cStringReads (mem : ByteBuffer) : Nat := (mem.takeWhile (· ≠ 0)).length + 1

theorem Proto.readName_split {mem : ByteBuffer} (terminated : 0 ∈ mem) :
    ∃ rest, mem = readName mem ++ 0 :: rest := by
  induction mem with
  | nil => cases terminated
  | cons c mem ih =>
    by_cases nul : c = 0
    · rw [nul]
      exact ⟨mem, rfl⟩
    · obtain ⟨rest, split⟩ := ih ((List.mem_cons.mp terminated).resolve_left (Ne.symm nul))
      refine ⟨rest, ?_⟩
      rw [readName, List.takeWhile_cons_of_pos (p := fun c : U8 => decide (c ≠ 0)) (decide_eq_true nul),
        List.cons_append]
      exact congrArg (c :: ·) split

theorem Proto.cString_ok {mem : ByteBuffer} {name : Name} (read : cString mem = .ok name) :
    0 ∈ mem ∧ name = readName mem := by
  unfold cString at read
  split at read
  · rename_i terminated
    cases read
    exact ⟨terminated, rfl⟩
  · cases read

theorem Proto.cStringReads_front {field : ByteBuffer} (terminated : 0 ∈ field) (rest : ByteBuffer) :
    cStringReads (field ++ rest) ≤ field.length := by
  obtain ⟨_, same⟩ := cString_ok (cString_front terminated rest)
  obtain ⟨behind, split⟩ := readName_split terminated
  have lengths := congrArg List.length split
  rw [List.length_append, List.length_cons] at lengths
  change (readName (field ++ rest)).length + 1 ≤ field.length
  rw [← same]
  omega

theorem Proto.cStringReads_unterminated {field : ByteBuffer} (unterminated : 0 ∉ field) (rest : ByteBuffer) :
    field.length < cStringReads (field ++ rest) := by
  have whole : field.takeWhile (· ≠ 0) = field := readName_free unterminated
  rw [cStringReads, List.takeWhile_append, if_pos (by rw [whole]), List.length_append]
  omega

/-- The string at the front of `mem` is `name`, and nothing behind the name field is looked at for it. -/
structure ReadsField (mem : ByteBuffer) (name : Name) : Prop where
  name : cString mem = .ok name
  inside : cStringReads mem ≤ kMaxQPNameLen + 1

theorem ReadsField.of_terminated {field : NameField} (terminated : 0 ∈ field.toList) (rest : ByteBuffer) :
    ReadsField (field.toList ++ rest) (readName field.toList) := by
  have inside := cStringReads_front terminated rest
  rw [field.toList_length] at inside
  exact ⟨cString_front terminated rest, inside⟩

theorem readsField_iff (field : NameField) (rest : ByteBuffer) :
    (∃ name, ReadsField (field.toList ++ rest) name) ↔ 0 ∈ field.toList := by
  constructor
  · intro ⟨name, reads⟩
    by_contra unterminated
    have behind := cStringReads_unterminated unterminated rest
    rw [field.toList_length] at behind
    exact absurd reads.inside (Nat.not_le.mpr behind)
  · exact fun terminated => ⟨_, .of_terminated terminated rest⟩

end Reading

variable {A : Type} {R : Nat} [NeZero R]

/-- Each of the handlers makes `name` of the name field, and of nothing behind it. -/
structure SameName (req : RCReq) (qpReq : QPReq) (del : DelRCReq) (name : Name) : Prop where
  create : ReadsField (dump RCReq.format req) name
  fetch : ReadsField (dump RCReq.format { name := qpReq.name }) name
  delete : ReadsField (dump DelRCReq.format del) name

/-- A QP that a creating handler reports can be queried, and deleted with the key of the reply. -/
def Usable (handler : ReqHandler (Server A R)) (create fetch delete : ByteBuffer) (del : DelRCReq) (s : Server A R) :
    Prop :=
  ∀ reply r s', handler create s = (.ok reply, s') → dedump RCReply.format reply = some r →
    r.status = CallbackStatus.Ok.byte →
    fetchQpAttrWrapper fetch s' = (.ok (dump RCReply.format ⟨CallbackStatus.Ok.byte, r.attr, 0⟩), s') ∧
      (del.key = r.key → ∃ s'', deleteRc delete s' = (.ok (RCReply.bare .Ok), s'') ∧
        s''.registeredQps = s.registeredQps)

/-- What is promised of requests `create`, `fetch` and `delete` that carry the same name field. -/
def NameFieldKept [AbsRecvAllocator A] (req : RCReq) (qpReq : QPReq) (del : DelRCReq)
    (create fetch delete : ByteBuffer) (s : Server A R) : Prop :=
  (∃ name, SameName req qpReq del name) ∧
    (req.whetherCreate = 1 → ∀ handler ∈ [rcHandler, RecvManager.msgRcHandler],
      Usable handler create fetch delete del s)

section Using

variable {req : RCReq} {qpReq : QPReq} {del : DelRCReq} {create fetch delete : ByteBuffer} {s s' : Server A R}
  {name : Name}

theorem fetch_committed {p : Ptr} {rc : Dummy} {q : IbvQp} {attr : QPAttr}
    (parsed : dedump QPReq.format fetch = some qpReq) (done : Committed req s s' name p rc q attr)
    (named : cString (dump RCReq.format { name := qpReq.name }) = .ok name) :
    fetchQpAttrWrapper fetch s' = (.ok (dump RCReply.format ⟨CallbackStatus.Ok.byte, attr, 0⟩), s') := by
  have registered : s'.registeredQps.query name = some p := by
    rw [done.registered, Factory.query_insert, if_pos rfl]
  rw [fetchQpAttrWrapper, parsed]
  simp only [fetchQpAttr, RCReq.nameString, named, Bind.bind, Except.bind, fetchQp, registered, done.object, done.attr]
  rfl

theorem delete_committed {p : Ptr} {rc : Dummy} {q : IbvQp} {attr : QPAttr}
    (parsed : dedump DelRCReq.format delete = some del) (done : Committed req s s' name p rc q attr)
    (named : del.nameString = .ok name) (key : del.key = s.env.qpKey.value) :
    ∃ s'', deleteRc delete s' = (.ok (RCReply.bare .Ok), s'') ∧ s''.registeredQps = s.registeredQps := by
  have removed := Factory.dereg_insert s.registeredQps name p s.env.qpKey.value done.absent
  rw [← done.registered, ← key] at removed
  refine ⟨drop { s' with registeredQps := s.registeredQps } p, ?_, rfl⟩
  unfold deleteRc
  rw [parsed]
  simp only [named, removed]

theorem usable_of_answers {handler : ReqHandler (Server A R)} {commits strands : Prop}
    (query : dedump QPReq.format fetch = some qpReq) (remove : dedump DelRCReq.format delete = some del)
    (same : SameName req qpReq del name) (answers : Answers commits strands req s name (handler create s)) :
    Usable handler create fetch delete del s := by
  intro reply r s' replied decoded ok
  generalize handler create s = outcome at answers replied
  subst replied
  cases answers with
  | committed _ _ done =>
    cases (dedump_self RCReply.format _).symm.trans decoded
    exact ⟨fetch_committed query done same.fetch.name, delete_committed remove done same.delete.name⟩
  | refused _ _ _ rejected => exact absurd ⟨r, decoded, ok⟩ rejected

theorem usable_of_sameName [AbsRecvAllocator A] (parsed : dedump RCReq.format create = some req)
    (query : dedump QPReq.format fetch = some qpReq) (remove : dedump DelRCReq.format delete = some del)
    (same : SameName req qpReq del name) (creates : req.whetherCreate = 1) :
    ∀ handler ∈ [rcHandler, RecvManager.msgRcHandler], Usable handler create fetch delete del s := by
  have named : req.nameString = .ok name := same.create.name
  intro handler listed
  rcases List.mem_pair.mp listed with rfl | rfl
  · exact usable_of_answers query remove same
      (handleCreate_answers parsed creates fun nic opened => createRc_answers opened named)
  · exact usable_of_answers query remove same
      (handleCreate_answers parsed creates fun nic opened => RecvManager.createMsgRc_answers opened named)

end Using

/-- Requests with the same name field mean the same QP to all handlers exactly when the field is terminated. -/
theorem nameField_kept_iff [AbsRecvAllocator A] {req : RCReq} {qpReq : QPReq} {del : DelRCReq}
    {create fetch delete : ByteBuffer} (parsed : dedump RCReq.format create = some req)
    (query : dedump QPReq.format fetch = some qpReq) (remove : dedump DelRCReq.format delete = some del)
    (sameQuery : qpReq.name = req.name) (sameDelete : del.name = req.name) (s : Server A R) :
    NameFieldKept req qpReq del create fetch delete s ↔ 0 ∈ req.name.toList := by
  constructor
  · intro ⟨⟨name, same⟩, _⟩
    exact (readsField_iff req.name _).mp ⟨name, same.create⟩
  · intro terminated
    have reads (rest : ByteBuffer) : ReadsField (req.name.toList ++ rest) (readName req.name.toList) :=
      ReadsField.of_terminated terminated rest
    have same : SameName req qpReq del (readName req.name.toList) := by
      constructor
      · exact reads _
      · rw [sameQuery]
        exact reads _
      · rw [← sameDelete] at reads ⊢
        exact reads _
    exact ⟨⟨_, same⟩, usable_of_sameName parsed query remove same⟩

open RecvManager in
theorem nameField_kept_short :
    NameFieldKept channelRequest ⟨channelRequest.name, 0⟩ ⟨channelRequest.name, 1⟩
      (dump RCReq.format channelRequest) (dump QPReq.format ⟨channelRequest.name, 0⟩)
      (dump DelRCReq.format ⟨channelRequest.name, 1⟩) oneNic :=
  (nameField_kept_iff (dedump_self _ _) (dedump_self _ _) (dedump_self _ _) rfl rfl oneNic).mpr (by decide)

def fullName : NameField := .replicate _ 113

theorem fullName_query : RCReq.nameString { name := fullName } = .ok (List.replicate 64 113) := by
  rfl

theorem fullName_delete : DelRCReq.nameString ⟨fullName, 1⟩ = .ok (List.replicate 64 113 ++ [1]) := by
  rfl

open RecvManager in
theorem fullName_differs :
    RCReq.nameString { name := fullName } ≠ DelRCReq.nameString ⟨fullName, 1⟩ ∧
      ¬NameFieldKept { channelRequest with name := fullName } ⟨fullName, 0⟩ ⟨fullName, 1⟩
        (dump RCReq.format { channelRequest with name := fullName }) (dump QPReq.format ⟨fullName, 0⟩)
        (dump DelRCReq.format ⟨fullName, 1⟩) oneNic := by
  have differs : RCReq.nameString { name := fullName } ≠ DelRCReq.nameString ⟨fullName, 1⟩ := by
    rw [fullName_query, fullName_delete]
    decide
  refine ⟨differs, ?_⟩
  intro ⟨⟨name, same⟩, _⟩
  exact differs (same.fetch.name.trans same.delete.name.symm)

end RLib
