import RLib.Control.AllOrNothing
import RLib.Qps.Connect

namespace RLib

open Bytes Proto Qps

variable {A : Type} {R : Nat} [NeZero R]

namespace RCtrl

/-- Step 1.1 makes a QP object and registers it under `name`, and step 1.2 can query it. -/
structure Registers (s : Server A R) (name : Name) : Prop where
  madeCq : s.env.calls.createCq = true
  madeQp : s.env.calls.createQp.isSome
  absent : name ∉ s.registeredQps.store
  queried : s.env.calls.queryQp = true

theorem Registers.makes {req : RCReq} {s : Server A R} {name : Name} (registers : Registers s name)
    (named : req.nameString = .ok name) : ∃ qpNum, Makes req s qpNum name := by
  obtain ⟨qpNum, made⟩ := Option.isSome_iff_exists.mp registers.madeQp
  exact ⟨qpNum, registers.madeCq, made, named⟩

theorem Registers.makes_qp {s : Server A R} {name : Name} (registers : Registers s name) :
    ¬(s.env.calls.createCq = false ∨ s.env.calls.createQp = none) := by
  rintro (refused | refused)
  · cases refused.symm.trans registers.madeCq
  · have made := registers.madeQp
    rw [refused] at made
    cases made

theorem Makes.registers {req : RCReq} {s : Server A R} {qpNum : U32} {name : Name} (makes : Makes req s qpNum name)
    (absent : name ∉ s.registeredQps.store) (queried : s.env.calls.queryQp = true) : Registers s name :=
  ⟨makes.madeCq, Option.isSome_iff_exists.mpr ⟨qpNum, makes.madeQp⟩, absent, queried⟩

/-- No name maps to a QP that it did not map to before. -/
def NothingNew (s s' : Server A R) : Prop :=
  ∀ name p, s'.registeredQps.query name = some p → s.registeredQps.query name = some p

theorem nothingNew_of_same {s s' : Server A R} (same : s'.registeredQps = s.registeredQps) : NothingNew s s' := by
  intro name p found
  rw [← same]
  exact found

theorem not_nothingNew {s s' : Server A R} {name : Name} {p : Ptr} (absent : name ∉ s.registeredQps.store)
    (present : s'.registeredQps.query name = some p) : ¬NothingNew s s' := by
  intro nothing
  have before := nothing name p present
  rw [(s.registeredQps.query_none name).mpr absent] at before
  cases before

theorem afterReg_new {req : RCReq} {nic : RNic} {recvCq : Option Ptr} {s : Server A R} {qpNum : U32} {name : Name}
    (absent : name ∉ s.registeredQps.store) : ¬NothingNew s (afterReg req nic recvCq s qpNum name) := by
  apply not_nothingNew absent
  rw [afterReg, Factory.query_insert, if_pos rfl]

/-- What will reach the queue pair that `ibv_create_qp` makes next on that NIC. -/
def nextIdentity (s : Server A R) (nicId : U64) : Option (U32 × U16 × U64 × U64) := do
  let nic ← s.openedNics.query nicId
  let qpNum ← s.env.calls.createQp
  nic.reach qpNum

/-- The entry that a creation leaves: a connected QP object, aimed at what the request says, whose attributes are
    `attr`. -/
structure Committed (req : RCReq) (s s' : Server A R) (name : Name) (p : Ptr) (rc : Dummy) (q : IbvQp) (attr : QPAttr) :
    Prop where
  absent : name ∉ s.registeredQps.store
  registered : s'.registeredQps = { store := s.registeredQps.store.insert name (p, s.env.qpKey.value) }
  object : s'.qps p = some rc
  owns : ∃ qp, RC.Owns rc s'.hw qp q
  state : q.state = .RTS
  programmed : q.programmed =
    some ⟨req.attr.qpn.setWidth 32, req.attr.lid.setWidth 16, (req.attr.addr.subnetPrefix, req.attr.addr.interfaceId),
      req.config.rqPsn, req.config.sqPsn⟩
  attr : rc.myAttr = .ok attr
  identity : rc.identity = nextIdentity s req.nicId

theorem Committed.entry {req : RCReq} {s s' : Server A R} {name : Name} {p : Ptr} {rc : Dummy} {q : IbvQp}
    {attr : QPAttr}
    (done : Committed req s s' name p rc q attr) :
    s'.registeredQps.store.lookup name = some (p, s.env.qpKey.value) := by
  rw [done.registered]
  exact Finmap.lookup_insert _

theorem Committed.new {req : RCReq} {s s' : Server A R} {name : Name} {p : Ptr} {rc : Dummy} {q : IbvQp} {attr : QPAttr}
    (done : Committed req s s' name p rc q attr) : ¬NothingNew s s' := by
  apply not_nothingNew done.absent (p := p)
  rw [done.registered, Factory.query_insert, if_pos rfl]

/-- How a creating handler ends: it commits its QP and says so, it refuses and registers nothing, or it goes wrong. -/
inductive Answers (commits strands : Prop) (req : RCReq) (s : Server A R) (name : Name) :
    Except Exit ByteBuffer × Server A R → Prop
  | committed {s' : Server A R} {p : Ptr} {rc : Dummy} {q : IbvQp} {attr : QPAttr} (commit : commits) (clean : ¬strands)
      (done : Committed req s s' name p rc q attr) :
      Answers commits strands req s name
        (.ok (dump RCReply.format ⟨CallbackStatus.Ok.byte, attr, s.env.qpKey.value⟩), s')
  | refused {reply : ByteBuffer} {s' : Server A R} (idle : ¬commits) (clean : ¬strands) (brief : reply.length ≤ 4053)
      (rejected : ¬RCReply.Accepted reply) (same : s'.registeredQps = s.registeredQps) :
      Answers commits strands req s name (.ok reply, s')
  | thrown {s' : Server A R} (idle : ¬commits) (clean : ¬strands) (same : s'.registeredQps = s.registeredQps) :
      Answers commits strands req s name (.error .exception, s')
  | stranded {s' : Server A R} (idle : ¬commits) (strand : strands) (new : ¬NothingNew s s') :
      Answers commits strands req s name (.error .exception, s')
  | halted {e : Exit} {s' : Server A R} (idle : ¬commits) (clean : ¬strands) (halts : e ≠ .exception) :
      Answers commits strands req s name (.error e, s')

theorem Answers.brief {commits strands : Prop} {req : RCReq} {s : Server A R} {name : Name}
    {outcome : Except Exit ByteBuffer × Server A R} (answers : Answers commits strands req s name outcome)
    {reply : ByteBuffer} (replied : outcome.1 = .ok reply) : reply.length ≤ 4053 := by
  cases answers with
  | committed =>
    cases replied
    rw [dump_length]
    decide
  | refused _ _ brief =>
    cases replied
    exact brief
  | thrown => cases replied
  | stranded => cases replied
  | halted => cases replied

theorem wrongArg_refused {commits strands : Prop} {req : RCReq} {s s' : Server A R} {name : Name} (idle : ¬commits)
    (clean : ¬strands) (same : s'.registeredQps = s.registeredQps) :
    Answers commits strands req s name (.ok wrongArg, s') := by
  apply Answers.refused idle clean _ _ same
  · rw [wrongArg, RCReply.bare, dump_length]
    decide
  · rw [wrongArg, RCReply.bare_accepted]
    exact fun same => by cases same

theorem createAndConnect_commits {req : RCReq} {nic : RNic} {s : Server A R} {name : Name} (recvCq : Option Ptr)
    (opened : s.openedNics.query req.nicId = some nic) (registers : Registers s name)
    (named : req.nameString = .ok name)
    (complete : nic.Complete)
    (steps : Connectable s.env.calls) :
    ∃ s' rc qp q attr, createAndConnect req nic recvCq s = (.ok (some (s.fresh, s.env.qpKey.value)), s') ∧
      Committed req s s' name s.fresh rc q attr ∧ rc.qp = some qp ∧
      s'.regRecvCqs = s.regRecvCqs ∧ s'.regRecvEntries = s.regRecvEntries ∧ s'.allocators = s.allocators ∧
      s'.env = s.env := by
  obtain ⟨qpNum, makes⟩ := registers.makes named
  obtain ⟨q, found, state⟩ := RC.madeHw_qp s.env.calls nic req.config recvCq qpNum s.hw
  have made : (RC.made nic req.config recvCq qpNum s.hw).qp = some ⟨s.hw.fresh + 1, qpNum⟩ := rfl
  obtain ⟨attr, known⟩ := Dummy.myAttr_complete (RC.made nic req.config recvCq qpNum s.hw) made complete
  have owns : RC.Owns (RC.made nic req.config recvCq qpNum s.hw)
      (RC.madeHw s.env.calls nic req.config recvCq qpNum s.hw) ⟨s.hw.fresh + 1, qpNum⟩ q := ⟨made, rfl, found⟩
  obtain ⟨hw', connects, found'⟩ := RC.connect_programs req.attr known owns registers.queried
    (state.trans (if_pos steps.1)) steps.2.1 steps.2.2
  have state' := RC.connected_state (RC.made nic req.config recvCq qpNum s.hw) req.attr attr q
  have programmed := RC.connected_programmed (RC.made nic req.config recvCq qpNum s.hw) req.attr attr q
  let rc : Dummy := { RC.made nic req.config recvCq qpNum s.hw with status := .Ok }
  let s' : Server A R :=
    { afterReg req nic recvCq s qpNum name with hw := hw', qps := Function.update s.qps s.fresh (some rc) }
  have created : createAndConnect req nic recvCq s = (.ok (some (s.fresh, s.env.qpKey.value)), s') := by
    unfold createAndConnect
    rw [RC.create_made makes.madeCq makes.madeQp]
    simp only [named, s.registeredQps.reg_absent s.env.qpKey s.fresh registers.absent, connectRegistered, connects,
      Function.update_idem]
    rfl
  have object : s'.qps s.fresh = some rc := Function.update_self _ _ _
  have identity : rc.identity = nextIdentity s req.nicId := by
    rw [nextIdentity, opened, makes.madeQp]
    rfl
  exact ⟨s', rc, _, _, attr, created,
    ⟨registers.absent, rfl, object, ⟨_, made, rfl, found'⟩, state', programmed, known, identity⟩, made, rfl, rfl, rfl,
    rfl⟩

theorem fetchQpAttr_committed {req : RCReq} {s s' : Server A R} {name : Name} {p : Ptr} {rc : Dummy} {q : IbvQp}
    {attr : QPAttr} (done : Committed req s s' name p rc q attr) (named : req.nameString = .ok name) (key : U64) :
    fetchQpAttr s' req key = .ok (dump RCReply.format ⟨CallbackStatus.Ok.byte, attr, key⟩) := by
  have registered : s'.registeredQps.query name = some p := by
    rw [done.registered, Factory.query_insert, if_pos rfl]
  simp only [fetchQpAttr, named, Bind.bind, Except.bind, fetchQp, registered, done.object, done.attr]
  rfl

/-- A `CreateRC` on `nic` commits, and goes wrong. -/
def Commits (nic : RNic) (s : Server A R) (name : Name) : Prop :=
  Registers s name ∧ nic.Complete ∧ Connectable s.env.calls

def Blind (nic : RNic) (s : Server A R) (name : Name) : Prop := Registers s name ∧ ¬nic.Complete

theorem createRc_answers {req : RCReq} {nic : RNic} {s : Server A R} {name : Name}
    (opened : s.openedNics.query req.nicId = some nic) (named : req.nameString = .ok name) :
    Answers (Commits nic s name) (Blind nic s name) req s name (createRc req nic s) := by
  unfold createRc
  by_cases commit : Commits nic s name
  · obtain ⟨registers, complete, steps⟩ := commit
    obtain ⟨s', rc, qp, q, attr, created, done, _⟩ :=
      createAndConnect_commits none opened registers named complete steps
    rw [created]
    simp only [orWrongArg]
    rw [fetchQpAttr_committed done named]
    exact .committed ⟨registers, complete, steps⟩ (fun blind => blind.2 complete) done
  · have creates := createAndConnect_creates req nic none s
    generalize createAndConnect req nic none s = outcome at creates
    cases creates with
    | refused refused => exact .thrown commit (fun blind => blind.1.makes_qp refused) rfl
    | unreadable madeQp unreadable => cases named.symm.trans unreadable
    | taken makes present =>
      cases named.symm.trans makes.named
      exact wrongArg_refused commit (fun blind => blind.1.absent present) rfl
    | aborted makes absent failed =>
      have unqueried : ¬Registers s name := fun registers => by cases failed.symm.trans registers.queried
      exact .halted commit (fun blind => unqueried blind.1) (fun same => by cases same)
    | stranded makes absent queried incomplete =>
      cases named.symm.trans makes.named
      exact .stranded commit ⟨makes.registers absent queried, incomplete⟩ (afterReg_new absent)
    | undone makes absent queried complete failed same =>
      exact wrongArg_refused commit (fun blind => blind.2 complete) rfl
    | connected makes absent queried complete steps same unposted =>
      cases named.symm.trans makes.named
      exact absurd ⟨makes.registers absent queried, complete, steps⟩ commit

theorem handleCreate_answers {create : RCReq → RNic → Server A R → Except Exit ByteBuffer × Server A R} {req : RCReq}
    {b : ByteBuffer} {s : Server A R} {name : Name} {commits strands : RNic → Prop}
    (parsed : dedump RCReq.format b = some req) (creates : req.whetherCreate = 1)
    (answers : ∀ nic, s.openedNics.query req.nicId = some nic →
      Answers (commits nic) (strands nic) req s name (create req nic s)) :
    Answers (∃ nic, s.openedNics.query req.nicId = some nic ∧ commits nic)
      (∃ nic, s.openedNics.query req.nicId = some nic ∧ strands nic) req s name
      (handleCreate create b s) := by
  unfold handleCreate
  rw [parsed]
  simp only
  rw [if_neg (by rw [creates]; decide), if_pos creates]
  cases known : s.openedNics.query req.nicId with
  | none =>
    refine wrongArg_refused ?_ ?_ rfl
    · rintro ⟨_, missing, _⟩
      cases missing
    · rintro ⟨_, missing, _⟩
      cases missing
  | some nic =>
    simp only [Option.some.injEq, exists_eq_left']
    exact answers nic known

theorem Committed.posted {req : RCReq} {s s₁ s₂ : Server A R} {name : Name} {p : Ptr} {rc : Dummy} {q : IbvQp}
    {attr : QPAttr} (done : Committed req s s₁ name p rc q attr) {qp : QpHandle} (made : rc.qp = some qp)
    (registeredQps : s₂.registeredQps = s₁.registeredQps) (qps : s₂.qps = s₁.qps) (wqes : List RecvWqe)
    (hw : s₂.hw = s₁.hw.postRecv qp.ptr wqes) :
    Committed req s s₂ name p rc { q with rq := q.rq ++ wqes } attr := by
  obtain ⟨qp', owns⟩ := done.owns
  cases made.symm.trans owns.hasQp
  have keeps : ∀ q : IbvQp, ({ q with rq := q.rq ++ wqes } : IbvQp).ptr = q.ptr := fun _ => rfl
  have found := Hardware.updateQp_qp s₁.hw qp.ptr qp.ptr keeps
  rw [owns.found, Option.map_some, if_pos (Hardware.qp_ptr owns.found)] at found
  exact ⟨done.absent, registeredQps.trans done.registered, by rw [qps, done.object],
    ⟨qp, made, owns.hasCq, by rw [hw]; exact found⟩, done.state, done.programmed, done.attr,
    done.identity⟩

end RCtrl

namespace RecvManager

open RCtrl

theorem postRecvs_refused {σ : Type} {r r' : RecvEntries R} {num : Int} {device : Option σ}
    (done : postRecvs r num (fun _ => none) = .ok (device, r')) : device = none := by
  unfold postRecvs at done
  split at done
  · simp only at done
    split at done
    · cases done
    · cases done
      rfl
  · cases done

theorem postAll_posts {p e : Ptr} {entries : RecvEntries R} {s : Server A R}
    (done : (postAll p e entries s).1 = .ok ()) : s.env.calls.postRecv = true := by
  unfold postAll at done
  cases posts : s.env.calls.postRecv with
  | true => rfl
  | false =>
    cases made : (s.qps p).bind Dummy.qp with
    | none =>
      rw [made] at done
      cases done
    | some qp =>
      simp only [made, posts, Bool.false_eq_true, ↓reduceIte] at done
      rcases refused : postRecvs entries R (fun _ => (none : Option Hardware)) with e | ⟨device, entries'⟩
      · rw [refused] at done
        cases done
      · cases postRecvs_refused refused
        rw [refused] at done
        cases done

variable [AbsRecvAllocator A]

def CanArm (req : RCReq) (s : Server A R) (name : Name) : Prop :=
  (∃ common, Feeds req s common) ∧ name ∉ s.regRecvEntries.store ∧ s.env.calls.postRecv = true

theorem armRecv_posts {req : RCReq} {p : Ptr} {s : Server A R} (done : (armRecv req p s).1 = .ok ()) :
    s.env.calls.postRecv = true := by
  unfold armRecv at done
  split at done
  · cases done
  · split at done
    · cases done
    · split at done
      · cases done
      · split at done
        · cases done
        · split at done
          · cases done
          · have posts := postAll_posts done
            exact posts

theorem armRecv_commits {req : RCReq} {p : Ptr} {s : Server A R} {name : Name} {qp : QpHandle}
    (made : (s.qps p).bind Dummy.qp = some qp) (named : req.nameString = .ok name) (can : CanArm req s name) :
    ∃ s' wqes, armRecv req p s = (.ok (), s') ∧ s'.registeredQps = s.registeredQps ∧ s'.qps = s.qps ∧
      s'.hw = s.hw.postRecv qp.ptr wqes := by
  obtain ⟨⟨common, nameRecv, namedRecv, found, supplies⟩, absent, posts⟩ := can
  have arms := armRecv_arms req made
  generalize armRecv req p s = outcome at arms
  cases arms with
  | unreadable unreadable => cases namedRecv.symm.trans unreadable
  | missing namedRecv' missing =>
    cases namedRecv.symm.trans namedRecv'
    cases found.symm.trans missing
  | exhausted namedRecv' found' runsOut =>
    cases namedRecv.symm.trans namedRecv'
    cases found.symm.trans found'
    exact absurd supplies runsOut
  | unnamed unreadable => cases named.symm.trans unreadable
  | taken feeds named' present =>
    cases named.symm.trans named'
    exact absurd present absent
  | unposted feeds failed => cases posts.symm.trans failed
  | armed feeds created named' absent' => exact ⟨_, _, rfl, rfl, rfl, rfl⟩

/-- A `CreateRCM` on `nic` commits, and goes wrong. -/
def Commits (req : RCReq) (nic : RNic) (s : Server A R) (name : Name) : Prop :=
  RCtrl.Commits nic s name ∧ CanArm req s name

def Loses (req : RCReq) (nic : RNic) (s : Server A R) (name : Name) : Prop :=
  (req.whetherRecv = 1 → ∃ nameRecv, req.nameRecvString = .ok nameRecv) ∧ Registers s name ∧
    (¬nic.Complete ∨ Connectable s.env.calls ∧ CannotArm req s)

theorem CanArm.not_cannotArm {req : RCReq} {s : Server A R} {name : Name} (can : CanArm req s name) :
    ¬CannotArm req s := by
  obtain ⟨⟨common, feeds⟩, _⟩ := can
  exact feeds.not_cannotArm

theorem armRecv_answers {req : RCReq} {nic : RNic} {s s₁ : Server A R} {name : Name} {p : Ptr} {key : U64}
    {qp : QpHandle} (made : (s₁.qps p).bind Dummy.qp = some qp) (named : req.nameString = .ok name)
    (reads : req.whetherRecv = 1 → ∃ nameRecv, req.nameRecvString = .ok nameRecv) (registers : Registers s name)
    (complete : nic.Complete) (steps : Connectable s.env.calls) (idle : ¬Commits req nic s name)
    (cqs : s₁.regRecvCqs = s.regRecvCqs) (regRecvEntries : s₁.regRecvEntries = s.regRecvEntries)
    (allocators : s₁.allocators = s.allocators) (env : s₁.env = s.env) (new : ¬NothingNew s s₁) :
    Answers (Commits req nic s name) (Loses req nic s name) req s name
      (match armRecv req p s₁ with
      | (.error e, s) => (.error e, s)
      | (.ok (), s) => (fetchQpAttr s req key, s)) := by
  have cannot : CannotArm req s₁ ↔ CannotArm req s := by simp only [CannotArm, cqs, allocators]
  have can : CanArm req s₁ name ↔ CanArm req s name := by
    simp only [CanArm, Feeds, cqs, allocators, regRecvEntries, env]
  have keeps : ¬CannotArm req s₁ → ¬Loses req nic s name := by
    rintro fed ⟨_, _, wrong⟩
    rcases wrong with incomplete | ⟨_, starved⟩
    · exact incomplete complete
    · exact fed (cannot.mpr starved)
  have loses : CannotArm req s₁ → Loses req nic s name :=
    fun starved => ⟨reads, registers, .inr ⟨steps, cannot.mp starved⟩⟩
  have posts : (armRecv req p s₁).1 = .ok () → s₁.env.calls.postRecv = true := armRecv_posts
  have arms := armRecv_arms req made
  generalize armRecv req p s₁ = outcome at arms posts
  cases arms with
  | unreadable unreadable =>
    have fed : ¬CannotArm req s₁ := by
      rintro ⟨_, namedRecv, _⟩
      cases namedRecv.symm.trans unreadable
    exact .halted idle (keeps fed) (fun same => by cases same)
  | missing namedRecv missing =>
    exact .stranded idle (loses ⟨_, namedRecv, fun common found => by cases missing.symm.trans found⟩) new
  | exhausted namedRecv found runsOut =>
    exact .stranded idle (loses ⟨_, namedRecv, fun common found' => by cases found.symm.trans found'; exact
      runsOut⟩) new
  | unnamed unreadable => cases named.symm.trans unreadable
  | taken feeds named' present => exact .halted idle (keeps feeds.not_cannotArm) (fun same => by cases same)
  | unposted feeds failed => exact .halted idle (keeps feeds.not_cannotArm) (fun same => by cases same)
  | armed feeds created named' absent =>
    cases named.symm.trans named'
    exact absurd ⟨⟨registers, complete, steps⟩, can.mp ⟨⟨_, feeds⟩, absent, posts rfl⟩⟩ idle

theorem createMsgRcOn_answers {req : RCReq} {nic : RNic} {s : Server A R} {name : Name} (recvCq : Option Ptr)
    (opened : s.openedNics.query req.nicId = some nic) (named : req.nameString = .ok name)
    (reads : req.whetherRecv = 1 → ∃ nameRecv, req.nameRecvString = .ok nameRecv) :
    Answers (Commits req nic s name) (Loses req nic s name) req s name (createMsgRcOn req nic recvCq s) := by
  unfold createMsgRcOn
  by_cases commit : Commits req nic s name
  · obtain ⟨⟨registers, complete, steps⟩, can⟩ := commit
    obtain ⟨s₁, rc, qp, q, attr, created, done, made, cqs, regRecvEntries, allocators, env⟩ :=
      createAndConnect_commits recvCq opened registers named complete steps
    have made₁ : (s₁.qps s.fresh).bind Dummy.qp = some qp := by rw [done.object, Option.bind_some, made]
    have can₁ : CanArm req s₁ name := by
      simp only [CanArm, Feeds, cqs, allocators, regRecvEntries, env]
      exact can
    obtain ⟨s₂, wqes, armed, registeredQps, qps, hw⟩ := armRecv_commits made₁ named can₁
    have done₂ := done.posted made registeredQps qps wqes hw
    rw [created]
    simp only [orWrongArg, armed]
    rw [fetchQpAttr_committed done₂ named]
    have clean : ¬Loses req nic s name := by
      rintro ⟨_, _, wrong⟩
      rcases wrong with incomplete | ⟨_, starved⟩
      · exact incomplete complete
      · exact can.not_cannotArm starved
    exact .committed ⟨⟨registers, complete, steps⟩, can⟩ clean done₂
  · have creates := createAndConnect_creates req nic recvCq s
    generalize createAndConnect req nic recvCq s = outcome at creates
    cases creates with
    | refused refused => exact .thrown commit (fun lost => lost.2.1.makes_qp refused) rfl
    | unreadable madeQp unreadable => cases named.symm.trans unreadable
    | taken makes present =>
      cases named.symm.trans makes.named
      exact wrongArg_refused commit (fun lost => lost.2.1.absent present) rfl
    | aborted makes absent failed =>
      have unqueried : ¬Registers s name := fun registers => by cases failed.symm.trans registers.queried
      exact .halted commit (fun lost => unqueried lost.2.1) (fun same => by cases same)
    | stranded makes absent queried incomplete =>
      cases named.symm.trans makes.named
      exact .stranded commit ⟨reads, makes.registers absent queried, .inl incomplete⟩ (afterReg_new absent)
    | undone makes absent queried complete failed same =>
      have clean : ¬Loses req nic s name := by
        rintro ⟨_, _, wrong⟩
        rcases wrong with incomplete | ⟨steps, _⟩
        · exact incomplete complete
        · exact failed steps
      exact wrongArg_refused commit clean rfl
    | @connected qpNum name' hw makes absent queried complete steps same unposted =>
      cases named.symm.trans makes.named
      let rc : Dummy := { RC.made nic req.config recvCq qpNum s.hw with status := .Ok }
      let s₁ : Server A R :=
        { afterReg req nic recvCq s qpNum name with hw := hw, qps := Function.update s.qps s.fresh (some rc) }
      have made : (s₁.qps s.fresh).bind Dummy.qp = some ⟨s.hw.fresh + 1, qpNum⟩ := by
        rw [show s₁.qps s.fresh = some rc from Function.update_self _ _ _]
        rfl
      have new : ¬NothingNew s (afterReg req nic recvCq s qpNum name) := afterReg_new absent
      exact armRecv_answers made named reads (makes.registers absent queried) complete steps commit rfl rfl rfl rfl new

theorem createMsgRc_answers {req : RCReq} {nic : RNic} {s : Server A R} {name : Name}
    (opened : s.openedNics.query req.nicId = some nic) (named : req.nameString = .ok name) :
    Answers (Commits req nic s name) (Loses req nic s name) req s name (createMsgRc req nic s) := by
  unfold createMsgRc
  rcases recvCqOf_cases req s with ⟨recvCq, readable, reads⟩ | ⟨failed, receives, unreadable⟩
  · rw [readable]
    exact createMsgRcOn_answers recvCq opened named reads
  · rw [failed]
    have blank : ∀ nameRecv, req.nameRecvString ≠ .ok nameRecv := by
      intro nameRecv namedRecv
      cases unreadable.symm.trans namedRecv
    refine .halted ?_ ?_ (fun same => by cases same)
    · intro ⟨_, ⟨_, nameRecv, namedRecv, _⟩, _⟩
      exact blank nameRecv namedRecv
    · intro ⟨reads, _⟩
      obtain ⟨nameRecv, namedRecv⟩ := reads receives
      exact blank nameRecv namedRecv

end RecvManager

end RLib
