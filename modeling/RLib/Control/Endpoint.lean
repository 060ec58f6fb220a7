import RLib.Control.Creates
import RLib.Control.Host
import RLib.Qps.RecvRing

namespace RLib

open Bootstrap Proto Qps Ring RCtrl RecvManager

/-- A server whose clients create QPs with `CreateRCM`, and the traffic of those QPs that share one CQ. -/
structure Endpoint (A : Type) (N : Nat) [NeZero N] where
  host : Host A N
  receivers : Receivers N := {}

inductive EndpointEvent where
  | create (env : Env) (parameter : ByteBuffer)
  | sweep (e : SweepEvent)

namespace Endpoint

variable {A : Type} {N : Nat} [NeZero N]

/-- What the server holds under `name` since a request, if it had no entries of that name before and the QP
    receives through `cq`. -/
def newLane (cq : Ptr) (name : Name) (s s' : Server A N) : Option (Lane N) :=
  if (s.regRecvEntries.query name).isSome then none
  else
    match (s'.regRecvEntries.query name).bind s'.entries,
      (((s'.registeredQps.query name).bind s'.qps).bind Dummy.qp).bind (fun qp => s'.hw.qp qp.ptr) with
    | some entries, some q => if q.init.recvCq = cq then some { entries := entries, rq := q.rq } else none
    | _, _ => none

/-- The QP with which a request joins those on `cq`. -/
def joins (cq : Ptr) (parameter : ByteBuffer) (h h' : Host A N) : Option (Lane N) :=
  match h'.halted, dedump RCReq.format parameter with
  | none, some req => req.nameString.toOption.bind (fun name => newLane cq name h.server h'.server)
  | _, _ => none

theorem newLane_same {cq : Ptr} {name : Name} {s s' : Server A N} (same : s'.regRecvEntries = s.regRecvEntries) :
    newLane cq name s s' = none := by
  unfold newLane
  rw [same]
  cases s.regRecvEntries.query name with
  | none => rfl
  | some p => rfl

/-- A lane as the QP joins with it: entries built by the factory and posted whole. -/
def Joined (lane : Option (Lane N)) : Prop := ∀ l, lane = some l → ∃ entries, entries.Ready ∧ l = Lane.new entries

theorem newLane_joined {cq p e : Ptr} {name : Name} {s s' : Server A N} {rc : Dummy} {qp : QpHandle} {q : IbvQp}
    {entries : RecvEntries N} (ready : entries.Ready) (stored : s'.regRecvEntries.query name = some e)
    (there : s'.entries e = some entries) (registered : s'.registeredQps.query name = some p)
    (found : s'.qps p = some rc) (made : rc.qp = some qp) (live : s'.hw.qp qp.ptr = some q)
    (posted : q.rq = (window entries.header N).map entries.wqe) : Joined (newLane cq name s s') := by
  intro l joined
  unfold newLane at joined
  simp only [stored, there, registered, found, made, live, Option.bind_some] at joined
  split at joined
  · cases joined
  · split at joined
    · cases joined
      exact ⟨entries, ready, by rw [Lane.new, posted]⟩
    · cases joined

theorem joins_joined {cq : Ptr} {parameter : ByteBuffer} {h : Host A N} {outcome : Except Exit ByteBuffer × Server A N}
    {req : RCReq} {name : Name} (parsed : dedump RCReq.format parameter = some req) (named : req.nameString = .ok name)
    (joined : Joined (newLane cq name h.server outcome.2)) : Joined (joins cq parameter h (Host.settle outcome)) := by
  unfold joins
  rw [Host.settle_server, parsed]
  split
  · rename_i same
    cases same
    rw [named]
    exact joined
  · exact nofun

theorem idle_joined {cq : Ptr} {parameter : ByteBuffer} {h : Host A N} {outcome : Except Exit ByteBuffer × Server A N}
    (idle : outcome.2.regRecvEntries = h.server.regRecvEntries ∨ outcome.1 = .error .abort ∨
      outcome.1 = .error .overread) :
    Joined (joins cq parameter h (Host.settle outcome)) := by
  rcases outcome with ⟨reply, s'⟩
  have none : joins cq parameter h (Host.settle (reply, s')) = none := by
    rcases idle with same | failed | failed
    · unfold joins
      rw [Host.settle_server]
      split
      · rename_i req _ _
        cases req.nameString with
        | error e => rfl
        | ok name => exact newLane_same same
      · rfl
    · cases failed
      rfl
    · cases failed
      rfl
  rw [none]
  exact nofun

variable [AbsRecvAllocator A]

def step (cq : Ptr) (ep : Endpoint A N) (e : EndpointEvent) : Option (Endpoint A N) :=
  match e with
  | .create env parameter =>
    (ep.host.step (.request env .CreateRCM parameter)).map fun host =>
      { host := host
        receivers := { ep.receivers with
          lanes := ep.receivers.lanes ++ (joins cq parameter ep.host host).toList } }
  | .sweep e => (ep.receivers.sweepStep e).map fun receivers => { ep with receivers := receivers }

theorem armRecv_joined {cq p : Ptr} {parameter : ByteBuffer} {h : Host A N} {s : Server A N} {req : RCReq} {name : Name}
    {rc : Dummy} {qp : QpHandle} {receives : Ptr} (key : U64) (parsed : dedump RCReq.format parameter = some req)
    (named : req.nameString = .ok name) (same : s.regRecvEntries = h.server.regRecvEntries)
    (registered : s.registeredQps.query name = some p) (found : s.qps p = some rc) (made : rc.qp = some qp)
    (unposted : s.hw.Unposted qp.ptr receives) :
    Joined (joins cq parameter h (Host.settle
      (match armRecv req p s with
      | (.error e, s) => (.error e, s)
      | (.ok (), s) => (fetchQpAttr s req key, s)))) := by
  have arms := armRecv_arms req (show (s.qps p).bind Dummy.qp = some qp by rw [found, Option.bind_some, made])
  generalize armRecv req p s = outcome at arms
  cases arms with
  | unreadable unreadable => exact idle_joined (.inl same)
  | missing namedRecv missing => exact idle_joined (.inl same)
  | exhausted namedRecv known runsOut => exact idle_joined (.inl same)
  | unnamed unreadable => exact idle_joined (.inl same)
  | taken feeds named' present => exact idle_joined (.inl same)
  | unposted feeds failed => exact idle_joined (.inr (.inl rfl))
  | @armed name' common allocator r feeds created named' absent =>
    cases named.symm.trans named'
    obtain ⟨ready, header⟩ := RecvEntriesFactoryv2.create_ready (congrArg Prod.fst created)
    obtain ⟨q, live, posted, _⟩ := unposted.post ((window 0 N).map r.wqe)
    apply joins_joined parsed named
    refine newLane_joined ready ?_ (Function.update_self _ _ _) registered found made live ?_
    · rw [Factory.query_insert, if_pos rfl]
    · rw [posted, header]

theorem create_joined {cq : Ptr} {env : Env} {parameter : ByteBuffer} {h h' : Host A N}
    (happens : h.step (.request env .CreateRCM parameter) = some h') : Joined (joins cq parameter h h') := by
  unfold Host.step at happens
  split at happens
  · cases happens
  · cases happens
    rw [Host.serveControl_eq]
    simp only
    generalize start : ({ h.server with env := env } : Server A N) = s
    have before : s.regRecvEntries = h.server.regRecvEntries := by rw [← start]
    unfold msgRcHandler
    rcases handleCreate_cases createMsgRc parameter s with ⟨req, nic, admits, handled⟩ | ⟨_, reply, handled, _⟩
    · rw [handled, createMsgRc]
      rcases recvCqOf_cases req s with ⟨recvCq, readable, _⟩ | ⟨failed, _⟩
      · rw [readable]
        simp only
        have creates := createAndConnect_creates req nic recvCq s
        unfold createMsgRcOn
        generalize createAndConnect req nic recvCq s = outcome at creates
        cases creates with
        | refused refused => exact idle_joined (.inl before)
        | unreadable madeQp unreadable => exact idle_joined (.inl before)
        | taken makes present => exact idle_joined (.inl before)
        | aborted makes absent failed => exact idle_joined (.inl before)
        | stranded makes absent queried incomplete => exact idle_joined (.inl before)
        | undone makes absent queried complete failed same => exact idle_joined (.inl before)
        | @connected qpNum name hw makes absent queried complete steps same unposted =>
          have registered : (afterReg req nic recvCq s qpNum name).registeredQps.query name = some s.fresh := by
            rw [afterReg, Factory.query_insert, if_pos rfl]
          exact armRecv_joined s.env.qpKey.value admits.parsed makes.named before registered
            (Function.update_self _ _ _) rfl unposted
      · rw [failed]
        exact idle_joined (.inr (.inr rfl))
    · rw [handled]
      exact idle_joined (.inl before)

end Endpoint

end RLib
