import RLib.Bootstrap.ReplyMatching
import RLib.ConnectManager

namespace RLib

open Bytes Bootstrap

namespace Bootstrap

/-- A datagram that decodes as a reply to a heartbeat, whatever its status and checksum. -/
def heartbeatReply (d : ByteBuffer) : Bool :=
  match decodeReply (recvBuffer d) with
  | .ok (_, header) => header.dummy ≠ 0
  | .error _ => false

def Arrival.heartbeat : Arrival → Bool
  | .datagram d => heartbeatReply d
  | .failure _ _ => false

theorem heartbeat_datagram (d : ByteBuffer) : (Arrival.datagram d).heartbeat = heartbeatReply d := rfl

/-- The arrivals `ys` are `xs` with heartbeat replies put in between. -/
inductive Inserted : List Arrival → List Arrival → Prop where
  | nil : Inserted [] []
  | keep (a : Arrival) {xs ys : List Arrival} (more : Inserted xs ys) : Inserted (a :: xs) (a :: ys)
  | beat {a : Arrival} (beats : a.heartbeat) {xs ys : List Arrival} (more : Inserted xs ys) : Inserted xs (a :: ys)

def heard (rpc : SRpc) (arrivals : List Arrival) : Except Exit (Result ByteBuffer × SRpc × List Arrival) :=
  (rpc.receiveReply false arrivals).map fun out => (out.1, out.2.1, out.2.2.filter (fun a => !a.heartbeat))

theorem heartbeat_judged {d : ByteBuffer} (beats : heartbeatReply d) (rpc : SRpc) (heartbeat : Bool) :
    rpc.judge heartbeat (recvBuffer d) =
      .ok (if heartbeat then .done ⟨.Ok, []⟩ rpc.checksum else .retry) := by
  unfold heartbeatReply at beats
  cases decoded : decodeReply (recvBuffer d) with
  | error e =>
    rw [decoded] at beats
    cases beats
  | ok reply =>
    obtain ⟨m, header⟩ := reply
    rw [decoded] at beats
    have dummy : header.dummy ≠ 0 := of_decide_eq_true beats
    rw [SRpc.judge, decoded]
    exact if_pos dummy

theorem receiveReply_heartbeat {a : Arrival} (beats : a.heartbeat) (rpc : SRpc) (rest : List Arrival) :
    rpc.receiveReply false (a :: rest) = rpc.receiveReply false rest := by
  cases a with
  | failure code failed => cases beats
  | datagram d =>
    rw [heartbeat_datagram] at beats
    rw [SRpc.receiveReply, heartbeat_judged beats]
    rfl

theorem Inserted.filter {xs ys : List Arrival} (inserted : Inserted xs ys) :
    ys.filter (fun a => !a.heartbeat) = xs.filter (fun a => !a.heartbeat) := by
  induction inserted with
  | nil => rfl
  | keep a _ ih => rw [List.filter_cons, List.filter_cons, ih]
  | beat beats _ ih => rw [List.filter_cons, beats, ih]; rfl

/-- A call hears the same through any number of heartbeat replies. -/
theorem Inserted.heard {xs ys : List Arrival} (inserted : Inserted xs ys) (rpc : SRpc) :
    heard rpc ys = heard rpc xs := by
  induction inserted with
  | nil => rfl
  | beat beats _ ih => rw [Bootstrap.heard, receiveReply_heartbeat beats, ← ih, Bootstrap.heard]
  | keep a more ih =>
    unfold Bootstrap.heard at ih ⊢
    cases a with
    | failure code failed =>
      simp only [SRpc.receiveReply, Except.map, more.filter]
    | datagram d =>
      rw [SRpc.receiveReply, SRpc.receiveReply]
      cases judged : rpc.judge false (recvBuffer d) with
      | error e => rfl
      | ok verdict =>
        cases verdict with
        | retry => exact ih
        | done res checksum => simp only [SRpc.conclude, Except.map, more.filter]

theorem IsReply.heartbeat_iff {d : ByteBuffer} {header : SReplyHeader} {result : Option ByteBuffer}
    (reply : IsReply d header result) : heartbeatReply d ↔ header.dummy ≠ 0 := by
  obtain ⟨m, decoded, _⟩ := reply.decodes
  unfold heartbeatReply
  rw [decoded]
  exact decide_eq_true_iff

end Bootstrap

namespace ConnectManager

variable {ω : Type} (growth : StringGrowth) (net : Network ω)

def waitReadyReads (retry : Nat) (cm : ConnectManager ω) : List Arrival :=
  match retry with
  | 0 => []
  | retry + 1 =>
    match cm.call growth net HeartBeat (text "0") with
    | (.error _, _) => []
    | (.ok res, cm) =>
      if res.code ≠ .Ok ∧ res.code ≠ .Timeout then []
      else
        cm.arrived.take 1 ++
          match cm.rpc.receiveReply true cm.arrived with
          | .error _ => []
          | .ok (resReply, rpc, rest) =>
            if resReply.code = .Ok ∨ resReply.code = .Err then []
            else waitReadyReads retry { cm with rpc := rpc, arrived := rest }

theorem call_rpc (id : U8) (parameter : ByteBuffer) (cm : ConnectManager ω) :
    (cm.call growth net id parameter).2.rpc = cm.rpc := by
  unfold call
  split
  · rfl
  · rfl
  · rfl

theorem receiveReply_beating {rpc client : SRpc} {arrivals rest : List Arrival} {res : Result ByteBuffer}
    (beats : ∀ d, .datagram d ∈ arrivals.take 1 → heartbeatReply d)
    (received : rpc.receiveReply true arrivals = .ok (res, client, rest)) : client = rpc := by
  cases arrivals with
  | nil =>
    cases received
    rfl
  | cons a others =>
    cases a with
    | failure code failed =>
      cases received
      rfl
    | datagram d =>
      rw [SRpc.receiveReply, heartbeat_judged (beats d List.mem_cons_self)] at received
      cases received
      rfl

theorem waitReady_keeps (retry : Nat) (cm : ConnectManager ω)
    (beats : ∀ d, .datagram d ∈ waitReadyReads growth net retry cm → heartbeatReply d) :
    (waitReady growth net retry cm).2.rpc.checksum = cm.rpc.checksum := by
  induction retry generalizing cm with
  | zero => rfl
  | succ retry ih =>
    have kept := call_rpc growth net HeartBeat (text "0") cm
    rw [waitReadyReads] at beats
    rw [waitReady]
    cases called : cm.call growth net HeartBeat (text "0") with
    | mk outcome cm' =>
      rw [called] at beats kept
      cases outcome with
      | error e => exact congrArg SRpc.checksum kept
      | ok res =>
        dsimp only at beats kept ⊢
        by_cases refused : res.code ≠ .Ok ∧ res.code ≠ .Timeout
        · rw [if_pos refused]
          exact congrArg SRpc.checksum kept
        · rw [if_neg refused] at beats ⊢
          cases received : cm'.rpc.receiveReply true cm'.arrived with
          | error e => exact congrArg SRpc.checksum kept
          | ok out =>
            obtain ⟨resReply, rpc, rest⟩ := out
            have same : rpc = cm'.rpc :=
              receiveReply_beating (fun d member => beats d (List.mem_append_left _ member)) received
            rw [received] at beats
            dsimp only at beats ⊢
            by_cases answered : resReply.code = .Ok ∨ resReply.code = .Err
            · rw [if_pos answered, same]
              exact congrArg SRpc.checksum kept
            · rw [if_neg answered] at beats ⊢
              rw [ih _ (fun d member => beats d (List.mem_append_right _ member)), same]
              exact congrArg SRpc.checksum kept

/-- Heartbeat replies change nothing for normal calls, wherever they lie among the arrivals; and a `wait_ready` that
    reads no other datagrams leaves the checksum. -/
theorem heartbeats_transparent :
    (∀ rpc xs ys, Inserted xs ys → heard rpc ys = heard rpc xs) ∧
      ∀ (ω : Type) (growth : StringGrowth) (net : Network ω) (retry : Nat) (cm : ConnectManager ω),
        (∀ d, .datagram d ∈ waitReadyReads growth net retry cm → heartbeatReply d) →
          (waitReady growth net retry cm).2.rpc.checksum = cm.rpc.checksum :=
  ⟨fun rpc _ _ inserted => inserted.heard rpc, fun _ growth net retry cm => waitReady_keeps growth net retry cm⟩

section Answered

def heartbeat : ByteBuffer := encode [dump SReplyHeader.format ⟨CallStatus.Ok.byte, 1, 1⟩, text "1"]

theorem heartbeat_beats : heartbeatReply heartbeat := by
  have reply : IsReply heartbeat ⟨CallStatus.Ok.byte, 1, 1⟩ (some (text "1")) := by
    refine ⟨rfl, ?_⟩
    intro data same
    cases same
    decide
  exact reply.heartbeat_iff.mpr (by decide)

theorem heartbeat_arrives : (Arrival.datagram heartbeat).heartbeat := by
  rw [heartbeat_datagram]
  exact heartbeat_beats

def answering : Network Unit := fun _ peer => (⟨.Ok, []⟩, [.datagram heartbeat], peer)

theorem answering_reads (d : ByteBuffer) (read : .datagram d ∈ waitReadyReads libstdcxx answering 1 ⟨{}, [], ()⟩) :
    heartbeatReply d := by
  have called : (⟨{}, [], ()⟩ : ConnectManager Unit).call libstdcxx answering HeartBeat (text "0") =
      (.ok ⟨.Ok, []⟩, ⟨{}, [.datagram heartbeat], ()⟩) := by
    rw [call, call_sends _ _ _ _ _ (by decide)]
    rfl
  rw [waitReadyReads, called] at read
  dsimp only at read
  rw [if_neg (by decide)] at read
  rcases List.mem_append.mp read with first | later
  · cases List.mem_singleton.mp first
    exact heartbeat_beats
  · split at later
    · cases later
    · split at later
      · cases later
      · cases later

theorem heartbeats_transparent_answered : heard {} [.datagram heartbeat] = heard {} [] ∧
    (waitReady libstdcxx answering 1 ⟨{}, [], ()⟩).2.rpc.checksum = 1 :=
  ⟨heartbeats_transparent.1 {} [] [.datagram heartbeat] (.beat heartbeat_arrives .nil),
    heartbeats_transparent.2 Unit libstdcxx answering 1 ⟨{}, [], ()⟩ answering_reads⟩

end Answered

end ConnectManager

end RLib
