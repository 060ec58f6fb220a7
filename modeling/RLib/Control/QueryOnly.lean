import RLib.Control.AllOrNothing
import RLib.Control.Fetch

namespace RLib.RCtrl

open Bytes Bootstrap Proto Qps

variable {A : Type} {R : Nat} [NeZero R]

/-- A request that does not ask for a creation is a query if its flag is 0 and is refused otherwise. -/
structure QueryOnly (handler : ReqHandler (Server A R)) (req : RCReq) (b : ByteBuffer) (s : Server A R) : Prop where
  queries : req.whetherCreate = 0 → handler b s = fetchQpAttrWrapper (dump QPReq.format ⟨req.name, 0⟩) s
  refuses : req.whetherCreate ≠ 0 → req.whetherCreate ≠ 1 → handler b s = (.ok wrongArg, s)
  creates : (handler b s).2 ≠ s → req.whetherCreate = 1

theorem fetchQp_ne_wrongArg (s : Server A R) (name : Name) (key : U64) : fetchQp s name key ≠ .ok wrongArg := by
  intro same
  unfold fetchQp at same
  cases registered : s.registeredQps.query name with
  | none =>
    rw [registered] at same
    exact RCReply.bare_ne (by decide) same
  | some p =>
    cases found : s.qps p with
    | none =>
      simp only [registered, found] at same
      cases same
    | some rc =>
      cases readable : rc.myAttr with
      | error e =>
        simp only [registered, found, readable] at same
        cases same
      | ok attr =>
        simp only [registered, found, readable] at same
        injection same with same
        cases congrArg RCReply.status (RCReply.dump_injective same)

theorem fetchQpAttr_ne_wrongArg (s : Server A R) (req : RCReq) (key : U64) : fetchQpAttr s req key ≠ .ok wrongArg := by
  intro same
  cases named : req.nameString with
  | error e =>
    rw [fetchQpAttr, named] at same
    cases same
  | ok name =>
    rw [fetchQpAttr, named] at same
    exact fetchQp_ne_wrongArg s name key same

/-- The guard of both handlers has 0 and the flags from 2 on the wrong way round. -/
theorem handleCreate_queryOnly_iff (create : RCReq → RNic → Server A R → Except Exit ByteBuffer × Server A R)
    {b : ByteBuffer} {req : RCReq} (parsed : dedump RCReq.format b = some req) (s : Server A R) :
    QueryOnly (handleCreate create) req b s ↔ req.whetherCreate = 1 := by
  by_cases one : req.whetherCreate = 1
  · refine iff_of_true ⟨?_, ?_, fun _ => one⟩ one
    · intro zero
      rw [one] at zero
      cases zero
    · exact fun _ other => absurd one other
  · refine iff_of_false ?_ one
    intro queryOnly
    by_cases zero : req.whetherCreate = 0
    · have refused : handleCreate create b s = (.ok wrongArg, s) := by
        simp only [handleCreate, parsed, zero, ne_eq, not_true_eq_false, or_false]
        rfl
      have query := queryOnly.queries zero
      rw [refused, fetchQpAttrWrapper, dedump_self] at query
      exact fetchQpAttr_ne_wrongArg s _ 0 (congrArg Prod.fst query).symm
    · have queried : handleCreate create b s = (fetchQpAttr s req 0, s) := by
        simp only [handleCreate, parsed, one, zero, ne_eq, not_false_eq_true, or_true, not_true_eq_false, ↓reduceIte]
      have refused := queryOnly.refuses zero one
      rw [queried] at refused
      exact fetchQpAttr_ne_wrongArg s req 0 (congrArg Prod.fst refused)

/-- Neither handler takes a flag other than 1 for what it means. -/
theorem queryOnly_iff [AbsRecvAllocator A] {b : ByteBuffer} {req : RCReq} (parsed : dedump RCReq.format b = some req)
    (s : Server A R) :
    (QueryOnly rcHandler req b s ↔ req.whetherCreate = 1) ∧
      (QueryOnly RecvManager.msgRcHandler req b s ↔ req.whetherCreate = 1) :=
  ⟨handleCreate_queryOnly_iff createRc parsed s, handleCreate_queryOnly_iff RecvManager.createMsgRc parsed s⟩

theorem queryOnly_channelRequest :
    QueryOnly rcHandler RecvManager.channelRequest (dump RCReq.format RecvManager.channelRequest) RecvManager.oneNic ∧
      QueryOnly RecvManager.msgRcHandler RecvManager.channelRequest (dump RCReq.format RecvManager.channelRequest)
        RecvManager.oneNic :=
  have both := queryOnly_iff (dedump_self RCReq.format RecvManager.channelRequest) RecvManager.oneNic
  ⟨both.1.mpr rfl, both.2.mpr rfl⟩

def queryRequest : RCReq := { name := ConnectManager.nameField [113] }

theorem query_refused :
    rcHandler (dump RCReq.format queryRequest) published = (.ok wrongArg, published) ∧
      (∃ reply, fetchQpAttrWrapper (dump QPReq.format ⟨queryRequest.name, 0⟩) published = (.ok reply, published) ∧
        RCReply.Accepted reply) ∧
      ¬QueryOnly rcHandler queryRequest (dump RCReq.format queryRequest) published := by
  have refused : rcHandler (dump RCReq.format queryRequest) published = (.ok wrongArg, published) := by
    rw [rcHandler, handleCreate, dedump_self]
    rfl
  have registered : published.registeredQps.query (readName [113]) = some 0 := by decide
  have named : RCReq.nameString { name := queryRequest.name } = .ok (readName [113]) :=
    nameString_nameField (by decide) rfl
  obtain ⟨reply, fetched, accepted⟩ := fetchQpAttr_accepted 0 named registered rfl rfl ⟨rfl, rfl⟩
  have query : fetchQpAttrWrapper (dump QPReq.format ⟨queryRequest.name, 0⟩) published = (.ok reply, published) := by
    rw [fetchQpAttrWrapper, dedump_self]
    exact congrArg (Prod.mk · published) fetched
  refine ⟨refused, ⟨reply, query, accepted⟩, ?_⟩
  intro queryOnly
  have same := queryOnly.queries rfl
  rw [refused, query] at same
  injection same with same
  injection same with same
  rw [← same] at accepted
  exact absurd ((RCReply.bare_accepted .WrongArg).mp accepted) (by decide)

end RLib.RCtrl
