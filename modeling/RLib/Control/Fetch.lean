import RLib.Control.Exchange
import Mathlib.Data.List.Forall2
import Mathlib.Data.List.TakeWhile

namespace RLib

open Bytes Bootstrap Proto Qps RCtrl ConnectManager

section Names

/-- What is left of a name that is read up to its first NUL. -/
def Proto.readName (name : ByteBuffer) : Name := name.takeWhile (· ≠ 0)

theorem Proto.readName_free {name : ByteBuffer} (free : 0 ∉ name) : readName name = name := by
  apply List.takeWhile_eq_self_iff.mpr
  intro c member
  exact decide_eq_true fun zero => free (zero ▸ member)

theorem Proto.readName_nul {name : ByteBuffer} (nul : 0 ∈ name) : readName name ≠ name := by
  intro same
  have kept := List.takeWhile_eq_self_iff.mp same 0 nul
  exact of_decide_eq_true kept rfl

theorem Proto.cString_terminated (name rest : ByteBuffer) : cString (name ++ 0 :: rest) = .ok (readName name) := by
  have inside : (0 : U8) ∈ name ++ 0 :: rest := List.mem_append_right _ List.mem_cons_self
  rw [cString, if_pos inside, List.takeWhile_append]
  split
  · rename_i whole
    have all := List.IsPrefix.eq_of_length (List.takeWhile_prefix _) whole
    rw [List.takeWhile_cons_of_neg (by decide), List.append_nil, readName, all]
  · rfl

theorem nameField_terminated {name : ByteBuffer} (short : name.length ≤ kMaxQPNameLen) :
    ∃ rest, (nameField name).toList = name ++ 0 :: rest := by
  have max : kMaxQPNameLen = 63 := rfl
  refine ⟨List.replicate (kMaxQPNameLen - name.length) 0, ?_⟩
  change overlay name (List.replicate (kMaxQPNameLen + 1) 0) = _
  rw [overlay_of_le _ _ (by rw [List.length_replicate]; omega), List.drop_replicate, ← List.replicate_succ]
  congr 2
  omega

theorem nameString_nameField {name : ByteBuffer} (short : name.length ≤ kMaxQPNameLen) {req : RCReq}
    (field : req.name = nameField name) : req.nameString = .ok (readName name) := by
  obtain ⟨rest, same⟩ := nameField_terminated short
  have bytes : dump RCReq.format req = req.name.toList ++ (dump RCReq.format req).drop (kMaxQPNameLen + 1) := by
    change _ = _ ++ List.drop _ (req.name.toList ++ _)
    rw [List.drop_left' req.name.toList_length]
    rfl
  rw [RCReq.nameString, bytes, field, same, List.append_assoc, List.cons_append, cString_terminated]

end Names

variable {A : Type} {R : Nat} [NeZero R]

namespace Server

def mrOf (s : Server A R) (id : U64) : Option RegAttr := (s.registeredMrs.query id).bind RegHandler.getRegAttr

def qpOf (s : Server A R) (name : Name) : Option QPAttr :=
  ((s.registeredQps.query name).bind s.qps).bind (fun rc => rc.myAttr.toOption)

def dcOf (s : Server A R) (name : Name) : Option DCAttr := (s.registeredDcs.query name).map DCTarget.remoteDctAttr

/-- The MRs are registered at the device, and the NICs of the QPs have an address and a LID. -/
structure Valid (s : Server A R) : Prop where
  mrs : ∀ id mr, s.registeredMrs.query id = some mr → mr.mr.isSome
  qps : ∀ name p, s.registeredQps.query name = some p →
    ∃ rc qp, s.qps p = some rc ∧ rc.qp = some qp ∧ rc.nic.Complete

theorem Valid.mrOf_isSome {s : Server A R} (valid : s.Valid) (id : U64) :
    (s.mrOf id).isSome ↔ (s.registeredMrs.query id).isSome := by
  unfold mrOf
  cases found : s.registeredMrs.query id with
  | none => rfl
  | some mr =>
    rw [Option.bind_some, RegHandler.getRegAttr, Option.isSome_map]
    exact iff_of_true (valid.mrs id mr found) rfl

theorem Valid.qpOf_isSome {s : Server A R} (valid : s.Valid) (name : Name) :
    (s.qpOf name).isSome ↔ (s.registeredQps.query name).isSome := by
  unfold qpOf
  cases found : s.registeredQps.query name with
  | none => rfl
  | some p =>
    obtain ⟨rc, qp, there, made, complete⟩ := valid.qps name p found
    obtain ⟨attr, readable⟩ := rc.myAttr_complete made complete
    rw [Option.bind_some, there, Option.bind_some, readable]
    exact iff_of_true rfl rfl

end Server

section Replies

variable {α : Type}

/-- A reply that says what the registry gives. -/
def Carries (decode : ByteBuffer → Option (U8 × α)) (found : Option α) (reply : ByteBuffer) : Prop :=
  ∃ status attr, decode reply = some (status, attr) ∧
    match found with
    | some a => status = CallbackStatus.Ok.byte ∧ attr = a
    | none => status = CallbackStatus.NotFound.byte

/-- A result that says so: `Ok` with exactly the record, or `NotReady`. -/
def LooksUp (found : Option α) (res : Result (ByteBuffer × α)) : Prop :=
  match found with
  | some a => res.code = .Ok ∧ res.desc.2 = a
  | none => res.code = .NotReady

theorem fetched_looksUp {decode : ByteBuffer → Option (U8 × α)} {found : Option α} {reply : ByteBuffer}
    (carries : Carries decode found reply) (zero : α) (notFound : ByteBuffer) :
    LooksUp found (fetched decode zero notFound ⟨.Ok, reply⟩) := by
  obtain ⟨status, attr, decoded, answer⟩ := carries
  unfold fetched LooksUp
  rw [if_pos rfl, decoded]
  cases found with
  | none =>
    simp only at answer ⊢
    rw [answer, if_neg (by decide), if_pos rfl]
  | some a =>
    simp only at answer ⊢
    rw [answer.1, if_pos rfl]
    exact ⟨rfl, answer.2⟩

theorem carries_some {ρ : Type} {format : Codec ρ} {parts : ρ → U8 × α} {r : ρ} {a : α}
    (ok : parts r = (CallbackStatus.Ok.byte, a)) :
    Carries (fun b => (dedump format b).map parts) (some a) (dump format r) :=
  ⟨CallbackStatus.Ok.byte, a, (congrArg (Option.map parts) (dedump_self format r)).trans (congrArg some ok), rfl, rfl⟩

theorem carries_none {ρ : Type} {format : Codec ρ} {parts : ρ → U8 × α} {r : ρ}
    (missing : (parts r).1 = CallbackStatus.NotFound.byte) :
    Carries (fun b => (dedump format b).map parts) none (dump format r) :=
  ⟨(parts r).1, (parts r).2, congrArg (Option.map parts) (dedump_self format r), missing⟩

theorem brief_dump {ρ : Type} {format : Codec ρ} (small : format.size ≤ 4053) (r : ρ) :
    (dump format r).length ≤ 4053 := by
  rw [dump_length]
  exact small

variable {s : Server A R}

theorem fetchMrHandler_carries (valid : s.Valid) (id : U64) :
    ∃ reply, fetchMrHandler (dump MRReq.format ⟨id⟩) s = (.ok reply, s) ∧ reply.length ≤ 4053 ∧
      Carries decodeMr (s.mrOf id) reply := by
  unfold fetchMrHandler Server.mrOf
  rw [dedump_self]
  simp only
  cases found : s.registeredMrs.query id with
  | none => exact ⟨_, rfl, brief_dump (by decide) _, carries_none rfl⟩
  | some mr =>
    obtain ⟨keys, registered⟩ := Option.isSome_iff_exists.mp (valid.mrs id mr found)
    have attr : mr.getRegAttr = some ⟨mr.rawPtr, mr.sz, keys.1, keys.2⟩ := by
      rw [RegHandler.getRegAttr, registered, Option.map_some]
    rw [Option.bind_some]
    simp only [attr]
    exact ⟨_, rfl, brief_dump (by decide) _, carries_some rfl⟩

theorem fetchQpAttrWrapper_carries (valid : s.Valid) {name : ByteBuffer} (short : name.length ≤ kMaxQPNameLen)
    (free : 0 ∉ name) :
    ∃ reply, fetchQpAttrWrapper (dump QPReq.format ⟨nameField name, 0⟩) s = (.ok reply, s) ∧
      reply.length ≤ 4053 ∧ Carries decodeQp (s.qpOf name) reply := by
  have named : RCReq.nameString { name := nameField name } = .ok name := by
    rw [nameString_nameField short rfl, readName_free free]
  unfold fetchQpAttrWrapper RCtrl.fetchQpAttr Server.qpOf
  rw [dedump_self]
  simp only
  rw [named]
  change ∃ reply, (fetchQp s name 0, s) = (.ok reply, s) ∧ _
  unfold fetchQp
  cases found : s.registeredQps.query name with
  | none => exact ⟨_, rfl, brief_dump (by decide) _, carries_none rfl⟩
  | some p =>
    obtain ⟨rc, qp, there, made, complete⟩ := valid.qps name p found
    obtain ⟨attr, readable⟩ := rc.myAttr_complete made complete
    simp only [there, Option.bind_some, readable]
    exact ⟨_, rfl, brief_dump (by decide) _, carries_some rfl⟩

theorem fetchDcAttrWrapper_carries (s : Server A R) {name : ByteBuffer} (short : name.length ≤ kMaxQPNameLen)
    (free : 0 ∉ name) :
    ∃ reply, fetchDcAttrWrapper (dump QPReq.format ⟨nameField name, 0⟩) s = (.ok reply, s) ∧
      reply.length ≤ 4053 ∧ Carries decodeDc (s.dcOf name) reply := by
  have named : RCReq.nameString { name := nameField name } = .ok name := by
    rw [nameString_nameField short rfl, readName_free free]
  unfold fetchDcAttrWrapper RCtrl.fetchDcAttr Server.dcOf
  rw [dedump_self]
  simp only
  rw [named]
  simp only [Bind.bind, Except.bind, Pure.pure, Except.pure]
  cases s.registeredDcs.query name with
  | none => exact ⟨_, rfl, brief_dump (by decide) _, carries_none rfl⟩
  | some dc => exact ⟨_, rfl, brief_dump (by decide) _, carries_some rfl⟩

end Replies

/-- The server has the handlers of `RCtrl` for fetching. -/
structure ServesFetches (handlers : RegisteredHandlers (Server A R)) : Prop where
  fetchMr : handlers FetchMr = some fetchMrHandler
  fetchQpAttr : handlers FetchQPAttr = some fetchQpAttrWrapper
  fetchDcAttr : handlers FetchDCAttr = some fetchDcAttrWrapper

theorem RecvManager.serves_fetches [AbsRecvAllocator A] :
    ServesFetches (RecvManager.handlers : RegisteredHandlers (Server A R)) := ⟨rfl, rfl, rfl⟩

/-- The manager has received all that arrived, and its server waits in state `s`. -/
structure ConnectManager.Synced {σ : Type} (cm : ConnectManager (ServerEnd σ)) (s : σ) : Prop where
  waits : cm.peer.Waits
  empty : cm.arrived = []
  server : cm.peer.server = s

inductive Fetch where
  | mr (id : U64)
  | qp (name : ByteBuffer)
  | dc (name : ByteBuffer)

/-- The result of a fetch and how many datagrams it sent. -/
inductive Fetched where
  | mr (res : Result (ByteBuffer × RegAttr)) (sent : Nat)
  | qp (res : Result (ByteBuffer × QPAttr)) (sent : Nat)
  | dc (res : Result (ByteBuffer × DCAttr)) (sent : Nat)

namespace Fetch

def NulFree : Fetch → Prop
  | .mr _ => True
  | .qp name => 0 ∉ name
  | .dc name => 0 ∉ name

instance : DecidablePred NulFree
  | .mr _ => isTrue trivial
  | .qp name => inferInstanceAs (Decidable (0 ∉ name))
  | .dc name => inferInstanceAs (Decidable (0 ∉ name))

def run (growth : StringGrowth) (handlers : RegisteredHandlers (Server A R)) (fetch : Fetch)
    (cm : ConnectManager (ServerEnd (Server A R))) : Except Exit Fetched × ConnectManager (ServerEnd (Server A R)) :=
  let net := exactlyOnce growth handlers
  let sent (cm' : ConnectManager (ServerEnd (Server A R))) := cm'.peer.requests.length - cm.peer.requests.length
  match fetch with
  | .mr id =>
    let (res, cm) := cm.fetchRemoteMr growth net id
    (res.map fun res => .mr res (sent cm), cm)
  | .qp name =>
    let (res, cm) := cm.fetchQpAttr growth net name
    (res.map fun res => .qp res (sent cm), cm)
  | .dc name =>
    let (res, cm) := cm.fetchDcAttr growth net name
    (res.map fun res => .dc res (sent cm), cm)

def runAll (growth : StringGrowth) (handlers : RegisteredHandlers (Server A R)) :
    List Fetch → ConnectManager (ServerEnd (Server A R)) →
      Except Exit (List Fetched) × ConnectManager (ServerEnd (Server A R))
  | [], cm => (.ok [], cm)
  | fetch :: fetches, cm =>
    match fetch.run growth handlers cm with
    | (.error e, cm) => (.error e, cm)
    | (.ok res, cm) =>
      let (rest, cm) := runAll growth handlers fetches cm
      (rest.map (res :: ·), cm)

/-- A name that is too long is refused without a datagram, and every other fetch gives what the registry gives. -/
def Named {α : Type} (found : Option α) (name : ByteBuffer) (res : Result (ByteBuffer × α)) (sent : Nat) : Prop :=
  if kMaxQPNameLen < name.length then res.code = .Err ∧ sent = 0 else LooksUp found res

def Correct (s : Server A R) : Fetch → Fetched → Prop
  | .mr id, .mr res _ => LooksUp (s.mrOf id) res
  | .qp name, .qp res sent => Named (s.qpOf name) name res sent
  | .dc name, .dc res sent => Named (s.dcOf name) name res sent
  | _, _ => False

variable (growth : StringGrowth) {handlers : RegisteredHandlers (Server A R)} {s : Server A R}
  {cm : ConnectManager (ServerEnd (Server A R))}

theorem call_keeps (synced : cm.Synced s) {id : U8} {parameter reply : ByteBuffer} {handler : ReqHandler (Server A R)}
    (registered : handlers id = some handler) (plain : id ≠ HeartBeat) (brief : parameter.length ≤ 4054)
    (answers : handler parameter s = (.ok reply, s)) (short : reply.length ≤ 4053) :
    ∃ sent cm', cm.call growth (exactlyOnce growth handlers) id parameter = (.ok ⟨.Ok, []⟩, sent) ∧
      sent.receiveReply = (.ok ⟨.Ok, reply⟩, cm') ∧ cm'.Synced s := by
  have outcome : RPCFactory.callOne handlers id parameter cm.peer.server = (.ok reply, s) := by
    rw [RPCFactory.callOne, registered, synced.server]
    exact answers
  have fits : ∀ other, (RPCFactory.callOne handlers id parameter cm.peer.server).1 = .ok other →
    other.length ≤ 4053 := by
    intro other same
    rw [outcome] at same
    cases same
    exact short
  have answered := ConnectManager.call_answered growth handlers synced.waits synced.empty id parameter plain brief fits
  rw [outcome] at answered
  obtain ⟨sent, cm', calls, receives, server, empty, running, idle, _⟩ := answered
  exact ⟨sent, cm', calls, receives, ⟨running, idle running⟩, empty, server⟩

theorem fetchNamed_correct {α : Type} (synced : cm.Synced s) {id : U8} {handler : ReqHandler (Server A R)}
    (registered : handlers id = some handler) (plain : id ≠ HeartBeat) {decode : ByteBuffer → Option (U8 × α)}
    {found : Option α} {name : ByteBuffer}
    (carries : name.length ≤ kMaxQPNameLen →
      ∃ reply, handler (dump QPReq.format ⟨nameField name, 0⟩) s = (.ok reply, s) ∧
        reply.length ≤ 4053 ∧ Carries decode found reply) (zero : α) :
    ∃ res cm', fetchNamed growth (exactlyOnce growth handlers) id decode zero name cm = (.ok res, cm') ∧
      cm'.Synced s ∧ Named found name res (cm'.peer.requests.length - cm.peer.requests.length) := by
  unfold fetchNamed Named
  by_cases long : kMaxQPNameLen < name.length
  · simp only [long, ↓reduceIte]
    exact ⟨_, cm, rfl, synced, rfl, Nat.sub_self _⟩
  · obtain ⟨reply, answers, short, carried⟩ := carries (by omega)
    obtain ⟨sent, cm', calls, receives, later⟩ :=
      call_keeps growth synced registered plain (by rw [dump_length]; decide) answers short
    simp only [long, ↓reduceIte, ConnectManager.exchange, calls, receives, ne_eq, not_true_eq_false]
    exact ⟨_, cm', rfl, later, fetched_looksUp carried zero _⟩

theorem run_correct (serves : ServesFetches handlers) (valid : s.Valid) (synced : cm.Synced s) {fetch : Fetch}
    (free : fetch.NulFree) :
    ∃ res cm', fetch.run growth handlers cm = (.ok res, cm') ∧ cm'.Synced s ∧ fetch.Correct s res := by
  cases fetch with
  | mr id =>
    obtain ⟨reply, answers, short, carries⟩ := fetchMrHandler_carries valid id
    obtain ⟨sent, cm', calls, receives, later⟩ :=
      call_keeps growth synced serves.fetchMr (by decide) (by rw [dump_length]; decide) answers short
    have fetched : cm.fetchRemoteMr growth (exactlyOnce growth handlers) id =
        (.ok (ConnectManager.fetched decodeMr RegAttr.zero [] ⟨.Ok, reply⟩), cm') := by
      unfold fetchRemoteMr
      rw [calls]
      dsimp only
      rw [receives]
    refine ⟨.mr _ (cm'.peer.requests.length - cm.peer.requests.length), cm', ?_, later,
      fetched_looksUp carries RegAttr.zero []⟩
    simp only [run]
    rw [fetched]
    rfl
  | qp name =>
    obtain ⟨res, cm', fetched, later, named⟩ := fetchNamed_correct growth synced serves.fetchQpAttr (by decide)
      (fun short => fetchQpAttrWrapper_carries valid short free) QPAttr.zero
    refine ⟨.qp res _, cm', ?_, later, named⟩
    simp only [run, ConnectManager.fetchQpAttr]
    rw [fetched]
    rfl
  | dc name =>
    obtain ⟨res, cm', fetched, later, named⟩ := fetchNamed_correct growth synced serves.fetchDcAttr (by decide)
      (fun short => fetchDcAttrWrapper_carries s short free) DCAttr.zero
    refine ⟨.dc res _, cm', ?_, later, named⟩
    simp only [run, ConnectManager.fetchDcAttr]
    rw [fetched]
    rfl

theorem runAll_correct (serves : ServesFetches handlers) (valid : s.Valid) (synced : cm.Synced s) {fetches : List Fetch}
    (free : ∀ fetch ∈ fetches, fetch.NulFree) :
    ∃ results cm', runAll growth handlers fetches cm = (.ok results, cm') ∧ cm'.peer.server = s ∧
      List.Forall₂ (Correct s) fetches results := by
  induction fetches generalizing cm with
  | nil => exact ⟨[], cm, rfl, synced.server, .nil⟩
  | cons fetch fetches ih =>
    obtain ⟨res, cm₁, first, later, correct⟩ := run_correct growth serves valid synced (free fetch List.mem_cons_self)
    obtain ⟨results, cm₂, rest, server, others⟩ :=
      ih later (fun other member => free other (List.mem_cons_of_mem _ member))
    refine ⟨res :: results, cm₂, ?_, server, .cons correct others⟩
    rw [runAll, first]
    simp only
    rw [rest]
    rfl

end Fetch

/-- Fetching from a server is looking up in its registries. -/
theorem fetches_refine (growth : StringGrowth) {handlers : RegisteredHandlers (Server A R)}
    (serves : ServesFetches handlers)
    {s : Server A R} (valid : s.Valid) (channel : RecvChannel Unit) (idle : channel.curMsgClient = none)
    {fetches : List Fetch} (free : ∀ fetch ∈ fetches, fetch.NulFree) :
    ∃ results cm', Fetch.runAll growth handlers fetches { peer := { channel := channel, server := s } } =
      (.ok results, cm') ∧
      cm'.peer.server = s ∧ List.Forall₂ (Fetch.Correct s) fetches results :=
  Fetch.runAll_correct growth serves valid ⟨⟨rfl, idle⟩, rfl, rfl⟩ free

def published : Server SimpleAllocator 1 where
  registeredMrs := { store := Finmap.singleton 3 (⟨some (7, 8), 4096, 64⟩, 1) }
  registeredQps := { store := Finmap.singleton [113] (0, 1) }
  qps _ := some { nic := ⟨1, some ⟨0, 0, 0⟩, some 7⟩, myConfig := {}, qp := some ⟨0, 9⟩ }
  allocators _ := ⟨4096, 8192, 5⟩
  env := { calls := { createQp := none }, qpKey := .first, entriesKey := .second }

theorem published_valid : published.Valid where
  mrs := by
    intro id mr found
    obtain ⟨⟨_, key⟩, stored, same⟩ := Option.map_eq_some_iff.mp found
    cases same
    have at3 : id = 3 := Finmap.mem_singleton _ _ _ |>.mp (Finmap.mem_of_lookup_eq_some stored)
    subst at3
    cases Option.some.inj (stored.symm.trans (Finmap.lookup_singleton_eq))
    rfl
  qps := fun _ _ _ => ⟨_, _, rfl, rfl, rfl, rfl⟩

theorem fetches_refine_published :
    ∃ results cm', Fetch.runAll libstdcxx RecvManager.handlers
        [.mr 3, .qp [113], .mr 4, .dc [113], .qp (List.replicate 64 113)]
        { peer := { channel := RecvChannel.create, server := published } } = (.ok results, cm') ∧
      cm'.peer.server = published ∧
      List.Forall₂ (Fetch.Correct published)
        [.mr 3, .qp [113], .mr 4, .dc [113], .qp (List.replicate 64 113)] results :=
  fetches_refine libstdcxx RecvManager.serves_fetches published_valid RecvChannel.create rfl (by decide)

end RLib
