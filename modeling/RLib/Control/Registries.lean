import RLib.Control.Creates
import RLib.Control.Host

namespace RLib

open Bootstrap Proto Qps RCtrl RecvManager Run

variable {A : Type} {R : Nat} [NeZero R]

/-- Every name with receive entries is the name of a registered QP. -/
def Backed (s : Server A R) : Prop := ∀ name, name ∈ s.regRecvEntries.store → name ∈ s.registeredQps.store

/-- What a handler must leave behind: the registries consistent and no assertion failed. -/
def Sound (outcome : Except Exit ByteBuffer × Server A R) : Prop := Backed outcome.2 ∧ outcome.1 ≠ .error .abort

theorem Backed.insert {s s' : Server A R} {name : Name} {p : Ptr} {key : U64} (backed : Backed s)
    (entries : s'.regRecvEntries = s.regRecvEntries)
    (qps : s'.registeredQps = { store := s.registeredQps.store.insert name (p, key) }) : Backed s' := by
  intro n present
  rw [entries] at present
  rw [qps]
  exact Finmap.mem_insert.mpr (.inr (backed n present))

theorem wrongArg_sound {s : Server A R} (backed : Backed s) : Sound (.ok wrongArg, s) := ⟨backed, nofun⟩

theorem fetch_sound {s : Server A R} (backed : Backed s) (req : RCReq) (key : U64) :
    Sound (fetchQpAttr s req key, s) := ⟨backed, fetchQpAttr_not_abort s req key⟩

/-- Steps 1.1 and 1.2 keep the registries consistent, and what comes behind them finds a registered
    name that had no receive entries. -/
theorem createAndConnect_sound {req : RCReq} {nic : RNic} {recvCq : Option Ptr} {s : Server A R}
    (queried : s.env.calls.queryQp = true) (backed : Backed s)
    {rest : Ptr × U64 → Server A R → Except Exit ByteBuffer × Server A R}
    (continues : ∀ s' name qp, Backed s' → s'.env = s.env → req.nameString = .ok name →
      name ∈ s'.registeredQps.store → name ∉ s'.regRecvEntries.store → (s'.qps s.fresh).bind Dummy.qp = some qp →
      Sound (rest (s.fresh, s.env.qpKey.value) s')) :
    Sound (orWrongArg (createAndConnect req nic recvCq s) rest) := by
  have creates := createAndConnect_creates req nic recvCq s
  generalize createAndConnect req nic recvCq s = outcome at creates
  cases creates with
  | refused refused => exact ⟨backed, nofun⟩
  | unreadable madeQp unreadable => exact ⟨backed, nofun⟩
  | taken makes present => exact wrongArg_sound backed
  | aborted makes absent failed => cases failed.symm.trans queried
  | stranded makes absent queried incomplete => exact ⟨backed.insert rfl rfl, nofun⟩
  | undone makes absent queried complete failed same => exact wrongArg_sound backed
  | @connected qpNum name hw makes absent queried complete steps same _ =>
    have registered : name ∈ (afterReg req nic recvCq s qpNum name).registeredQps.store :=
      Finmap.mem_insert.mpr (.inl rfl)
    have new : name ∉ s.regRecvEntries.store := fun present => absent (backed name present)
    simp only [orWrongArg]
    refine continues _ name ⟨s.hw.fresh + 1, qpNum⟩ (backed.insert rfl rfl) rfl makes.named registered new ?_
    simp only [Function.update_self]
    rfl

theorem rcHandler_sound (b : ByteBuffer) {s : Server A R} (queried : s.env.calls.queryQp = true) (backed : Backed s) :
    Sound (rcHandler b s) := by
  unfold rcHandler
  rcases handleCreate_cases createRc b s with ⟨req, nic, _, handled⟩ | ⟨_, reply, handled, alive⟩
  · rw [handled]
    apply createAndConnect_sound queried backed
    intro s' name qp backed' _ _ _ _ _
    exact fetch_sound backed' req _
  · rw [handled]
    exact ⟨backed, alive⟩

theorem createMsgRcOn_sound [AbsRecvAllocator A] (req : RCReq) (nic : RNic) (recvCq : Option Ptr) {s : Server A R}
    (succeed : s.env.calls.Succeed) (backed : Backed s) : Sound (createMsgRcOn req nic recvCq s) := by
  apply createAndConnect_sound succeed.queryQp backed
  intro s' name qp backed' env named registered new made
  have arms := armRecv_arms req made
  simp only
  generalize armRecv req s.fresh s' = outcome at arms
  cases arms with
  | unreadable unreadable => exact ⟨backed', nofun⟩
  | missing namedRecv missing => exact ⟨backed', nofun⟩
  | exhausted namedRecv found runsOut => exact ⟨backed', nofun⟩
  | unnamed unreadable => exact ⟨backed', nofun⟩
  | taken feeds named' present =>
    cases named.symm.trans named'
    exact absurd present new
  | unposted feeds failed =>
    rw [env] at failed
    cases failed.symm.trans succeed.postRecv
  | armed feeds created named' absent =>
    cases named.symm.trans named'
    apply fetch_sound
    intro n present
    rcases Finmap.mem_insert.mp present with rfl | before
    · exact registered
    · exact backed' n before

theorem msgRcHandler_sound [AbsRecvAllocator A] (b : ByteBuffer) {s : Server A R} (succeed : s.env.calls.Succeed)
    (backed : Backed s) : Sound (msgRcHandler b s) := by
  unfold msgRcHandler
  rcases handleCreate_cases createMsgRc b s with ⟨req, nic, _, handled⟩ | ⟨_, reply, handled, alive⟩
  · rw [handled, createMsgRc]
    rcases recvCqOf_cases req s with ⟨recvCq, readable, _⟩ | ⟨failed, _⟩
    · rw [readable]
      exact createMsgRcOn_sound req nic recvCq succeed backed
    · rw [failed]
      exact ⟨backed, nofun⟩
  · rw [handled]
    exact ⟨backed, alive⟩

def DeletesMessageQp (b : ByteBuffer) (s : Server A R) : Prop :=
  ∃ req name p, dedump DelRCReq.format b = some req ∧ req.nameString = .ok name ∧
    s.registeredQps.store.lookup name = some (p, req.key) ∧ name ∈ s.regRecvEntries.store

theorem deleteRc_sound (b : ByteBuffer) {s : Server A R} (backed : Backed s) :
    Sound (deleteRc b s) ↔ ¬DeletesMessageQp b s := by
  have deletes := deleteRc_deletes b s
  generalize deleteRc b s = outcome at deletes
  cases deletes with
  | unparsed failed =>
    apply iff_of_true (wrongArg_sound backed)
    rintro ⟨req, name, p, parsed, _⟩
    cases parsed.symm.trans failed
  | unreadable parsed failed =>
    rw [cString_error failed]
    apply iff_of_true ⟨backed, nofun⟩
    rintro ⟨req, name, p, parsed', named, _⟩
    cases parsed.symm.trans parsed'
    cases named.symm.trans failed
  | unknown parsed named absent =>
    apply iff_of_true (wrongArg_sound backed)
    rintro ⟨req, name, p, parsed', named', found, _⟩
    cases parsed.symm.trans parsed'
    cases named.symm.trans named'
    exact absent p found
  | @deleted req name p parsed named found =>
    by_cases message : name ∈ s.regRecvEntries.store
    · apply iff_of_false
      · intro ⟨backed', _⟩
        have kept := backed' name message
        exact Finmap.notMem_erase_self kept
      · exact not_not_intro ⟨req, name, p, parsed, named, found, message⟩
    · apply iff_of_true
      · refine ⟨?_, nofun⟩
        intro n present
        have other : n ≠ name := by
          rintro rfl
          exact message present
        exact Finmap.mem_erase.mpr ⟨other, backed n present⟩
      · rintro ⟨req', name', p', parsed', named', _, message'⟩
        cases parsed.symm.trans parsed'
        cases named.symm.trans named'
        exact message message'

namespace Host

/-- The registries are consistent and no assertion has failed. -/
def Consistent (h : Host A R) : Prop := Backed h.server ∧ h.halted ≠ some .abort

/-- The verbs calls made while a request is handled succeed. -/
def Succeeds : HostEvent → Prop
  | .request env _ _ => env.calls.Succeed
  | _ => True

def SparesMessageQps (h : Host A R) : HostEvent → Prop
  | .request _ .DeleteRC parameter => ¬DeletesMessageQp parameter h.server
  | _ => True

theorem settle_consistent (outcome : Except Exit ByteBuffer × Server A R) :
    Consistent (settle outcome) ↔ Sound outcome := by
  rw [Consistent, settle_server, Ne, settle_halted]
  exact Iff.rfl

variable [AbsRecvAllocator A]

theorem step_consistent {h h' : Host A R} {e : HostEvent} (succeeds : Succeeds e) (consistent : h.Consistent)
    (happens : step h e = some h') : h'.Consistent ↔ h.SparesMessageQps e := by
  have backed := consistent.1
  unfold step at happens
  split at happens
  · cases happens
  · cases e with
    | request env op parameter =>
      cases happens
      rw [serveControl_eq, settle_consistent]
      have backed' : Backed { h.server with env := env } := backed
      cases op with
      | CreateRC => exact iff_of_true (rcHandler_sound parameter succeeds.queryQp backed') trivial
      | CreateRCM => exact iff_of_true (msgRcHandler_sound parameter succeeds backed') trivial
      | DeleteRC => exact deleteRc_sound parameter backed'
    | openCq cqe =>
      cases happens
      exact iff_of_true consistent trivial
    | regChannel key name common =>
      simp only at happens
      split at happens
      · cases happens
        exact iff_of_true consistent trivial
      · cases happens

/-- From a server without receive entries, and with every verbs call succeeding, the registries stay
    consistent and no assertion fails exactly as long as no QP with receive entries is deleted. -/
theorem registries_consistent_iff (s : Server A R) (fresh : s.regRecvEntries.store = ∅) (events : List HostEvent)
    (succeed : ∀ e ∈ events, Succeeds e) :
    Throughout step Consistent { server := s } events ↔ Along step SparesMessageQps { server := s } events := by
  have start : Consistent { server := s } := by
    refine ⟨?_, nofun⟩
    intro name present
    rw [fresh] at present
    exact absurd present Finmap.notMem_empty
  have keeps : ∀ (h : Host A R) (e : HostEvent) (h' : Host A R), Succeeds e → True → h.Consistent →
      step h e = some h' → (h'.Consistent ↔ h.SparesMessageQps e) :=
    fun _ _ _ succeeds _ consistent happens => step_consistent succeeds consistent happens
  have allowed : Along step (fun _ e => Succeeds e) { server := s } events :=
    along_of_forall (fun e member _ => succeed e member)
  exact throughout_iff_along keeps (fun _ _ _ _ _ _ => trivial) trivial start allowed

theorem oneNic_succeeds (op : ControlOp) (b : ByteBuffer) : Succeeds (.request oneNic.env op b) where
  createCq := rfl
  createQp := rfl
  toInit := rfl
  queryQp := rfl
  toRtr := rfl
  toRts := rfl
  postRecv := rfl
  destroyQp := rfl

theorem registries_consistent_create : Throughout step Consistent { server := oneNic }
    [.request oneNic.env .CreateRCM (dump RCReq.format channelRequest)] := by
  have succeed : ∀ e ∈ [HostEvent.request oneNic.env .CreateRCM (dump RCReq.format channelRequest)], Succeeds e := by
    intro e member
    rw [List.mem_singleton.mp member]
    exact oneNic_succeeds _ _
  exact (registries_consistent_iff oneNic rfl _ succeed).mpr (fun _ _ => ⟨trivial, trivial⟩)

def recreate : List HostEvent :=
  [.openCq 1, .regChannel .third [99] ⟨0, 0⟩,
    .request oneNic.env .CreateRCM (dump RCReq.format channelRequest),
    .request oneNic.env .DeleteRC (dump DelRCReq.format ⟨nameField 113, 1⟩),
    .request oneNic.env .CreateRCM (dump RCReq.format channelRequest)]

theorem recreate_halts : (run step { server := oneNic } recreate).map Host.halted = some (some .abort) := by
  decide +kernel

/-- Every verbs call succeeds, and yet the second creation fails the assertion on the receive entries. -/
theorem recreate_aborts : (∀ e ∈ recreate, Succeeds e) ∧ ¬Throughout step Consistent { server := oneNic } recreate := by
  constructor
  · intro e member
    simp only [recreate, List.mem_cons, List.not_mem_nil, or_false] at member
    rcases member with rfl | rfl | rfl | rfl | rfl
    · trivial
    · trivial
    · exact oneNic_succeeds _ _
    · exact oneNic_succeeds _ _
    · exact oneNic_succeeds _ _
  · intro throughout
    obtain ⟨h, ran, halted⟩ := Option.map_eq_some_iff.mp recreate_halts
    exact (throughout.run ran).2 halted

end Host

end RLib
