import RLib.Control.Creates

namespace RLib

open Proto Qps

variable {A : Type} {R : Nat} [NeZero R]

namespace RCtrl

theorem fetchQpAttr_accepted {req : RCReq} {s : Server A R} {name : Name} {p : Ptr} {rc : Dummy} {qp : QpHandle}
    (key : U64) (named : req.nameString = .ok name) (registered : s.registeredQps.query name = some p)
    (found : s.qps p = some rc) (made : rc.qp = some qp) (complete : rc.nic.Complete) :
    ∃ reply, fetchQpAttr s req key = .ok reply ∧ RCReply.Accepted reply := by
  obtain ⟨attr, known⟩ := rc.myAttr_complete made complete
  refine ⟨dump RCReply.format ⟨CallbackStatus.Ok.byte, attr, key⟩, ?_, ?_⟩
  · simp only [fetchQpAttr, named, Bind.bind, Except.bind, fetchQp, registered, found, known]
    rfl
  · rw [RCReply.accepted_dump]

theorem afterReg_changes {req : RCReq} {nic : RNic} {recvCq : Option Ptr} {s : Server A R} {qpNum : U32} {name : Name}
    (absent : name ∉ s.registeredQps.store) :
    (afterReg req nic recvCq s qpNum name).registeredQps ≠ s.registeredQps := by
  intro same
  apply absent
  rw [← same]
  exact Finmap.mem_insert.mpr (.inl rfl)

end RCtrl

namespace RecvManager

open RCtrl

def Unchanged (s s' : Server A R) : Prop :=
  s'.registeredQps = s.registeredQps ∧ s'.regRecvEntries = s.regRecvEntries

/-- Either the client gets a reply that reports success or nothing has been registered. An exception
    becomes a `Nop` reply; the other exits end the server and its registries with it. -/
def Clean (s : Server A R) : Except Exit ByteBuffer × Server A R → Prop
  | (.ok reply, s') => RCReply.Accepted reply ∨ Unchanged s s'
  | (.error .exception, s') => Unchanged s s'
  | (.error _, _) => True

theorem fetchQpAttr_clean {req : RCReq} {s s' : Server A R} {name : Name} {p : Ptr} {rc : Dummy} {qp : QpHandle}
    (key : U64) (named : req.nameString = .ok name) (registered : s'.registeredQps.query name = some p)
    (found : s'.qps p = some rc) (made : rc.qp = some qp) (complete : rc.nic.Complete) :
    Clean s (fetchQpAttr s' req key, s') := by
  obtain ⟨reply, fetched, accepted⟩ := fetchQpAttr_accepted key named registered found made complete
  rw [fetched]
  exact .inl accepted

theorem clean_of_same {s : Server A R} (reply : Except Exit ByteBuffer) : Clean s (reply, s) := by
  rcases reply with e | reply
  · cases e with
    | exception => exact ⟨rfl, rfl⟩
    | abort => trivial
    | overread => trivial
    | badIterator => trivial
  · exact .inr ⟨rfl, rfl⟩

variable [AbsRecvAllocator A]

structure AllOrNothing (b : ByteBuffer) (s : Server A R) : Prop where
  clean : Clean s (msgRcHandler b s)

/-- The channel that `name_recv` names is not registered, or its allocator has not `R` buffers left. -/
def CannotArm (req : RCReq) (s : Server A R) : Prop :=
  ∃ nameRecv, req.nameRecvString = .ok nameRecv ∧
    ∀ common, s.regRecvCqs.query nameRecv = some common →
      ¬RecvEntries.Supplies (req.maxRecvSz.setWidth 32) R (s.allocators common.allocator)

/-- Step 1.1 registers a QP that a later step does not undo. -/
def Strands (req : RCReq) (nic : RNic) (s : Server A R) : Prop :=
  ∃ qpNum name, Makes req s qpNum name ∧ name ∉ s.registeredQps.store ∧ s.env.calls.queryQp = true ∧
    (¬nic.Complete ∨ Connectable s.env.calls ∧ CannotArm req s)

def HalfDone (b : ByteBuffer) (s : Server A R) : Prop :=
  ∃ req nic, Admits b s req nic ∧ (req.whetherRecv = 1 → ∃ nameRecv, req.nameRecvString = .ok nameRecv) ∧
    Strands req nic s

theorem strands_registered {req : RCReq} {nic : RNic} {s : Server A R} {qpNum : U32} {name : Name}
    (makes : Makes req s qpNum name) (strands : Strands req nic s) :
    name ∉ s.registeredQps.store ∧ s.env.calls.queryQp = true ∧
      (¬nic.Complete ∨ Connectable s.env.calls ∧ CannotArm req s) := by
  obtain ⟨qpNum', name', makes', rest⟩ := strands
  have same := makes.named.symm.trans makes'.named
  cases same
  exact rest

theorem Feeds.not_cannotArm {req : RCReq} {s : Server A R} {common : RecvCommon} (feeds : Feeds req s common) :
    ¬CannotArm req s := by
  obtain ⟨nameRecv, namedRecv, found, supplies⟩ := feeds
  intro ⟨nameRecv', namedRecv', starved⟩
  cases namedRecv.symm.trans namedRecv'
  exact starved common found supplies

theorem afterConnect_clean {req : RCReq} {s s' : Server A R} {name : Name} {p : Ptr} {rc : Dummy} {qp : QpHandle}
    (key : U64) (changed : s'.registeredQps ≠ s.registeredQps) (named : req.nameString = .ok name)
    (registered : s'.registeredQps.query name = some p) (found : s'.qps p = some rc) (made : rc.qp = some qp)
    (complete : rc.nic.Complete) :
    Clean s
      (match armRecv req p s' with
      | (.error e, s) => (.error e, s)
      | (.ok (), s) => (fetchQpAttr s req key, s)) ↔ ¬CannotArm req s' := by
  have arms := armRecv_arms req (show (s'.qps p).bind Dummy.qp = some qp by rw [found, Option.bind_some, made])
  generalize armRecv req p s' = outcome at arms
  cases arms with
  | unreadable unreadable =>
    apply iff_of_true trivial
    intro ⟨nameRecv, namedRecv, _⟩
    cases unreadable.symm.trans namedRecv
  | missing namedRecv missing =>
    apply iff_of_false
    · exact fun unchanged => changed unchanged.1
    · apply not_not_intro
      refine ⟨_, namedRecv, ?_⟩
      intro common present
      cases missing.symm.trans present
  | exhausted namedRecv found runsOut =>
    apply iff_of_false
    · exact fun unchanged => changed unchanged.1
    · apply not_not_intro
      refine ⟨_, namedRecv, ?_⟩
      intro common present
      cases found.symm.trans present
      exact runsOut
  | unnamed unreadable => cases unreadable.symm.trans named
  | taken feeds named present => exact iff_of_true trivial feeds.not_cannotArm
  | unposted feeds failed => exact iff_of_true trivial feeds.not_cannotArm
  | armed feeds created named' absent =>
    apply iff_of_true _ feeds.not_cannotArm
    exact fetchQpAttr_clean key named registered found made complete

theorem createMsgRcOn_clean (req : RCReq) (nic : RNic) (recvCq : Option Ptr) (s : Server A R) :
    Clean s (createMsgRcOn req nic recvCq s) ↔ ¬Strands req nic s := by
  have creates := createAndConnect_creates req nic recvCq s
  unfold createMsgRcOn
  generalize createAndConnect req nic recvCq s = outcome at creates
  cases creates with
  | refused refused =>
    apply iff_of_true ⟨rfl, rfl⟩
    intro ⟨qpNum, name, makes, _⟩
    rcases refused with refused | refused
    · cases refused.symm.trans makes.madeCq
    · cases refused.symm.trans makes.madeQp
  | unreadable madeQp unreadable =>
    apply iff_of_true trivial
    intro ⟨qpNum, name, makes, _⟩
    cases unreadable.symm.trans makes.named
  | taken makes present =>
    apply iff_of_true (.inr ⟨rfl, rfl⟩)
    intro strands
    exact (strands_registered makes strands).1 present
  | aborted makes absent failed =>
    apply iff_of_true trivial
    intro strands
    cases failed.symm.trans (strands_registered makes strands).2.1
  | stranded makes absent queried incomplete =>
    apply iff_of_false
    · exact fun unchanged => afterReg_changes absent unchanged.1
    · exact not_not_intro ⟨_, _, makes, absent, queried, .inl incomplete⟩
  | undone makes absent queried complete failed same =>
    apply iff_of_true (.inr ⟨rfl, rfl⟩)
    intro strands
    rcases (strands_registered makes strands).2.2 with incomplete | ⟨steps, _⟩
    · exact incomplete complete
    · exact failed steps
  | @connected qpNum name hw makes absent queried complete steps same _ =>
    have strands : Strands req nic s ↔ CannotArm req s := by
      constructor
      · intro strands
        rcases (strands_registered makes strands).2.2 with incomplete | ⟨_, cannot⟩
        · exact absurd complete incomplete
        · exact cannot
      · exact fun cannot => ⟨qpNum, name, makes, absent, queried, .inr ⟨steps, cannot⟩⟩
    rw [strands]
    have registered : (afterReg req nic recvCq s qpNum name).registeredQps.query name = some s.fresh := by
      rw [afterReg, Factory.query_insert, if_pos rfl]
    have changed : (afterReg req nic recvCq s qpNum name).registeredQps ≠ s.registeredQps := afterReg_changes absent
    exact afterConnect_clean s.env.qpKey.value changed makes.named registered
      (Function.update_self _ _ _) rfl complete

/-- A creating request is all-or-nothing unless it gets as far as registering its QP and then fails
    where nothing takes that back. -/
theorem allOrNothing_iff (b : ByteBuffer) (s : Server A R) : AllOrNothing b s ↔ ¬HalfDone b s := by
  have unfolded : AllOrNothing b s ↔ Clean s (msgRcHandler b s) := ⟨fun whole => whole.clean, fun clean => ⟨clean⟩⟩
  rw [unfolded]
  rcases handleCreate_cases createMsgRc b s with ⟨req, nic, admits, handled⟩ | ⟨idle, reply, handled, _⟩
  · have only : HalfDone b s ↔
        (req.whetherRecv = 1 → ∃ nameRecv, req.nameRecvString = .ok nameRecv) ∧ Strands req nic s := by
      constructor
      · intro ⟨req', nic', admits', half⟩
        obtain ⟨rfl, rfl⟩ := admits.unique admits'
        exact half
      · exact fun half => ⟨req, nic, admits, half⟩
    rw [msgRcHandler, handled, only]
    unfold createMsgRc
    rcases recvCqOf_cases req s with ⟨recvCq, readable, reads⟩ | ⟨failed, receives, unreadable⟩
    · rw [readable, and_iff_right reads]
      exact createMsgRcOn_clean req nic recvCq s
    · rw [failed]
      apply iff_of_true trivial
      intro ⟨reads, _⟩
      obtain ⟨nameRecv, namedRecv⟩ := reads receives
      cases unreadable.symm.trans namedRecv
  · rw [msgRcHandler, handled]
    apply iff_of_true (clean_of_same reply)
    intro ⟨req, nic, admits, _⟩
    exact idle req nic admits

theorem halfDone_nic {req : RCReq} {s : Server A R} (half : HalfDone (dump RCReq.format req) s) :
    (s.openedNics.query req.nicId).isSome := by
  obtain ⟨req', nic, ⟨parsed, _, known⟩, _⟩ := half
  rw [dedump_self] at parsed
  cases parsed
  rw [known, Option.isSome_some]

theorem allOrNothing_unknownNic : AllOrNothing (dump RCReq.format { channelRequest with nicId := 1 }) oneNic :=
  have unknown : (oneNic.openedNics.query 1).isSome = false := by decide
  (allOrNothing_iff _ _).mpr fun half => Bool.false_ne_true (unknown.symm.trans (halfDone_nic half))

theorem not_allOrNothing_of_stays {b : ByteBuffer} {s : Server A R} {name : Name}
    (thrown : (msgRcHandler b s).1 = .error .exception) (absent : name ∉ s.registeredQps.store)
    (stays : name ∈ (msgRcHandler b s).2.registeredQps.store) : ¬AllOrNothing b s := by
  intro ⟨clean⟩
  generalize msgRcHandler b s = outcome at thrown stays clean
  obtain ⟨reply, s'⟩ := outcome
  cases thrown
  rw [show s'.registeredQps = s.registeredQps from clean.1] at stays
  exact absent stays

/-- All verbs calls succeed, but no channel is registered: the QP stays registered behind an exception. -/
theorem unknownChannel_strands : ¬AllOrNothing (dump RCReq.format channelRequest) oneNic :=
  not_allOrNothing_of_stays (show _ = Except.error Exit.exception by decide +kernel) (Finmap.notMem_empty (a := [113]))
    (by decide +kernel)

end RecvManager

end RLib
