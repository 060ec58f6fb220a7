import RLib.Control.AllOrNothing

namespace RLib.RCtrl

open Proto Qps

variable {A : Type} {R : Nat} [NeZero R]

/-- Either the client gets a reply that reports success or `registered_qps` is what it was. An exception
    becomes a `Nop` reply; the other exits end the server. -/
def KeepsQps (s : Server A R) : Except Exit ByteBuffer × Server A R → Prop
  | (.ok reply, s') => RCReply.Accepted reply ∨ s'.registeredQps = s.registeredQps
  | (.error .exception, s') => s'.registeredQps = s.registeredQps
  | (.error _, _) => True

structure CreateAllOrNothing (b : ByteBuffer) (s : Server A R) : Prop where
  keeps : KeepsQps s (rcHandler b s)

/-- The request registers a QP on a NIC whose address or LID is not known. -/
def RegistersBlind (b : ByteBuffer) (s : Server A R) : Prop :=
  ∃ req nic qpNum name, Admits b s req nic ∧ Makes req s qpNum name ∧ name ∉ s.registeredQps.store ∧
    s.env.calls.queryQp = true ∧ ¬nic.Complete

theorem createRc_keeps (req : RCReq) (nic : RNic) (s : Server A R) :
    KeepsQps s (createRc req nic s) ↔ ¬∃ qpNum name, Makes req s qpNum name ∧ name ∉ s.registeredQps.store ∧
      s.env.calls.queryQp = true ∧ ¬nic.Complete := by
  have creates := createAndConnect_creates req nic none s
  unfold createRc
  generalize createAndConnect req nic none s = outcome at creates
  cases creates with
  | refused refused =>
    apply iff_of_true rfl
    intro ⟨qpNum, name, makes, _⟩
    rcases refused with refused | refused
    · cases refused.symm.trans makes.madeCq
    · cases refused.symm.trans makes.madeQp
  | unreadable madeQp unreadable =>
    apply iff_of_true trivial
    intro ⟨qpNum, name, makes, _⟩
    cases unreadable.symm.trans makes.named
  | @taken qpNum name makes present =>
    apply iff_of_true (Or.inr rfl)
    intro ⟨qpNum', name', makes', absent, _⟩
    cases makes.named.symm.trans makes'.named
    exact absent present
  | aborted makes absent failed =>
    apply iff_of_true trivial
    intro ⟨_, _, _, _, queried, _⟩
    cases failed.symm.trans queried
  | @stranded qpNum name makes absent queried incomplete =>
    apply iff_of_false
    · exact fun same => afterReg_changes absent same
    · exact not_not_intro ⟨qpNum, name, makes, absent, queried, incomplete⟩
  | undone makes absent queried complete failed same =>
    apply iff_of_true (Or.inr rfl)
    intro ⟨_, _, _, _, _, incomplete⟩
    exact incomplete complete
  | @connected qpNum name hw makes absent queried complete steps same _ =>
    have registered : (afterReg req nic none s qpNum name).registeredQps.query name = some s.fresh := by
      rw [afterReg, Factory.query_insert, if_pos rfl]
    apply iff_of_true
    · simp only [orWrongArg]
      obtain ⟨reply, fetched, accepted⟩ := fetchQpAttr_accepted
        (s := { afterReg req nic none s qpNum name with
          hw := hw
          qps := Function.update s.qps s.fresh (some { RC.made nic req.config none qpNum s.hw with status := .Ok }) })
        s.env.qpKey.value makes.named registered (Function.update_self _ _ _) rfl complete
      rw [fetched]
      exact .inl accepted
    · intro ⟨_, _, _, _, _, incomplete⟩
      exact incomplete complete

theorem keepsQps_of_same {s : Server A R} (reply : Except Exit ByteBuffer) : KeepsQps s (reply, s) := by
  rcases reply with e | reply
  · cases e with
    | exception => exact rfl
    | abort => trivial
    | overread => trivial
    | badIterator => trivial
  · exact .inr rfl

/-- A `CreateRC` is all-or-nothing unless it registers a QP on a NIC without an address or a LID. -/
theorem createAllOrNothing_iff (b : ByteBuffer) (s : Server A R) : CreateAllOrNothing b s ↔ ¬RegistersBlind b s := by
  have unfolded : CreateAllOrNothing b s ↔ KeepsQps s (rcHandler b s) :=
    ⟨fun whole => whole.keeps, fun keeps => ⟨keeps⟩⟩
  rw [unfolded]
  rcases handleCreate_cases createRc b s with ⟨req, nic, admits, handled⟩ | ⟨idle, reply, handled, _⟩
  · rw [rcHandler, handled, createRc_keeps]
    apply not_congr
    constructor
    · exact fun ⟨qpNum, name, blind⟩ => ⟨req, nic, qpNum, name, admits, blind⟩
    · intro ⟨req', nic', qpNum, name, admits', blind⟩
      obtain ⟨rfl, rfl⟩ := admits.unique admits'
      exact ⟨qpNum, name, blind⟩
  · rw [rcHandler, handled]
    apply iff_of_true (keepsQps_of_same reply)
    intro ⟨req, nic, _, _, admits, _⟩
    exact idle req nic admits

theorem createAllOrNothing_oneNic :
    CreateAllOrNothing (dump RCReq.format RecvManager.channelRequest) RecvManager.oneNic := by
  apply (createAllOrNothing_iff _ _).mpr
  intro ⟨req, nic, _, _, admits, _, _, _, incomplete⟩
  have parsed := admits.parsed
  rw [dedump_self] at parsed
  cases parsed
  have known : RecvManager.oneNic.openedNics.query 0 = some ⟨1, some ⟨0, 0, 0⟩, some 7⟩ := by decide
  cases known.symm.trans admits.known
  exact incomplete ⟨rfl, rfl⟩

def noLid : Server SimpleAllocator 1 :=
  { RecvManager.oneNic with
    openedNics := { store := Finmap.singleton 0 (⟨1, some ⟨0, 0, 0⟩, none⟩, 1) } }

theorem not_createAllOrNothing {b : ByteBuffer} {s : Server A R} {name : Name}
    (thrown : (rcHandler b s).1 = .error .exception) (absent : name ∉ s.registeredQps.store)
    (stays : name ∈ (rcHandler b s).2.registeredQps.store) : ¬CreateAllOrNothing b s := by
  intro ⟨keeps⟩
  generalize rcHandler b s = outcome at thrown stays keeps
  obtain ⟨reply, s'⟩ := outcome
  cases thrown
  rw [show s'.registeredQps = s.registeredQps from keeps] at stays
  exact absent stays

/-- The QP stays registered behind the exception that `my_attr` throws. -/
theorem noLid_strands : ¬CreateAllOrNothing (dump RCReq.format RecvManager.channelRequest) noLid :=
  not_createAllOrNothing (show _ = Except.error Exit.exception by decide +kernel) (Finmap.notMem_empty (a := [113]))
    (by decide +kernel)

end RLib.RCtrl
