import RLib.Bootstrap.EventLoop
import RLib.Bootstrap.Settled

namespace RLib.Bootstrap

open Bytes SRpcHandler

/-- Whatever two contents the receive buffer had, the event loop makes the same of `d` for every server
    with handlers for the ids `registered`, and it stays inside the buffer and the handler table. -/
structure Isolated (growth : StringGrowth) (registered : U8 → Bool) (d : ByteBuffer) : Prop where
  same : ∀ (α σ : Type) (handlers : RegisteredHandlers σ) (s : σ) (sender : α) (first second : RecvChannel α),
    (∀ id, (handlers id).isSome = registered id) → first.curMsgClient = none → second.curMsgClient = none →
    (runOneEventLoop growth handlers first s [.datagram sender d]).visible =
      (runOneEventLoop growth handlers second s [.datagram sender d]).visible
  inside : ∀ old : ByteBuffer, old.length = kMaxMsgSz →
    ∃ req : Request, request (overlay d old) = .ok req ∧ req.Answerable registered

def silent (registered : U8 → Bool) : RegisteredHandlers Unit :=
  fun id => if registered id = true then some (fun _ s => (.ok [], s)) else none

theorem silent_isSome (registered : U8 → Bool) (id : U8) : (silent registered id).isSome = registered id := by
  rw [silent]
  cases registered id with
  | true => rfl
  | false => rfl

def replyHeader : Request → SReplyHeader
  | .undecodable => ⟨CallStatus.FatalErr.byte, SRpc.invalidChecksum, 0⟩
  | .noParameter checksum => ⟨CallStatus.Nop.byte, checksum, 0⟩
  | .call id checksum _ => ⟨CallStatus.Ok.byte, checksum, if id = HeartBeat then 1 else 0⟩

def calledBy : Request → Option (U8 × ByteBuffer)
  | .call id _ parameter => some (id, parameter)
  | _ => none

def replyBody : Request → List ByteBuffer
  | .call _ _ _ => [[]]
  | _ => []

theorem serve_silent (growth : StringGrowth) (registered : U8 → Bool) (msg : ByteBuffer) (req : Request)
    (made : request msg = .ok req) (answerable : req.Answerable registered) :
    serve growth (silent registered) msg () =
      (.ok ⟨calledBy req, encode (dump SReplyHeader.format (replyHeader req) :: replyBody req)⟩, ()) := by
  cases req with
  | undecodable =>
    simp only [serve, made, bareReply_sends]
    rfl
  | noParameter checksum =>
    simp only [serve, made, bareReply_sends]
    rfl
  | call id checksum parameter =>
    have known : silent registered id = some (fun _ s => (.ok [], s)) := if_pos answerable
    have sent := codedReply_sends growth (replyHeader (.call id checksum parameter)) [] (by decide)
    rw [replyHeader] at sent
    simp only [serve, made, RPCFactory.callOne, known, sent, catching]
    rfl

theorem request_shown (first second : Request) (called : calledBy first = calledBy second)
    (reply : encode (dump SReplyHeader.format (replyHeader first) :: replyBody first) =
      encode (dump SReplyHeader.format (replyHeader second) :: replyBody second)) : first = second := by
  have decodes (req : Request) : ∃ m : MMsg,
      decodeReply (recvBuffer (encode (dump SReplyHeader.format (replyHeader req) :: replyBody req))) =
        .ok (m, replyHeader req) := by
    have room : (replyBody req).length < kMaxMultiMsg ∧ (replyBody req).flatten.length ≤ 4053 := by
      cases req with
      | call => exact ⟨show 1 < kMaxMultiMsg by decide, show 0 ≤ 4053 by decide⟩
      | _ => exact ⟨show 0 < kMaxMultiMsg by decide, show 0 ≤ 4053 by decide⟩
    obtain ⟨m, decoded, _⟩ := decodeReply_encode (replyHeader req) (replyBody req) room.1 room.2
    exact ⟨m, decoded⟩
  obtain ⟨m, decoded⟩ := decodes first
  obtain ⟨m', decoded'⟩ := decodes second
  have decodedTwice := decoded.symm.trans ((congrArg (fun d => decodeReply (recvBuffer d)) reply).trans decoded')
  have header := (Prod.mk.inj (Except.ok.inj decodedTwice)).2
  cases first with
  | undecodable =>
    cases second with
    | undecodable => rfl
    | noParameter c => exact absurd (congrArg SReplyHeader.callstatus header) (show (4 : U8) ≠ 1 by decide)
    | call id c p => cases called
  | noParameter c =>
    cases second with
    | undecodable => exact absurd (congrArg SReplyHeader.callstatus header) (show (1 : U8) ≠ 4 by decide)
    | noParameter c' => exact congrArg Request.noParameter (congrArg SReplyHeader.checksum header)
    | call id c' p => cases called
  | call id c p =>
    cases second with
    | undecodable => cases called
    | noParameter c' => cases called
    | call id' c' p' =>
      cases called
      have checksum : c = c' := congrArg SReplyHeader.checksum header
      rw [checksum]

theorem overlay_zeros (d rest : ByteBuffer) : overlay d (List.replicate d.length 0 ++ rest) = d ++ rest := by
  rw [overlay_of_le _ _ (by rw [List.length_append, List.length_replicate]; omega),
    List.drop_left' List.length_replicate]

theorem Isolated.determined {growth : StringGrowth} {registered : U8 → Bool} {d : ByteBuffer}
    (isolated : Isolated growth registered d) : Determined registered d := by
  obtain ⟨zeros, blank⟩ : ∃ zeros : ByteBuffer, zeros.length = kMaxMsgSz :=
    ⟨List.replicate kMaxMsgSz 0, List.length_replicate⟩
  obtain ⟨req, made, answerable⟩ := isolated.inside zeros blank
  refine ⟨req, answerable, ?_⟩
  intro rest full
  obtain ⟨old, length, front⟩ : ∃ old : ByteBuffer, old.length = kMaxMsgSz ∧ overlay d old = d ++ rest := by
    refine ⟨List.replicate d.length 0 ++ rest, ?_, overlay_zeros d rest⟩
    rw [List.length_append, List.length_replicate, ← List.length_append, full]
  obtain ⟨req', made', answerable'⟩ := isolated.inside old length
  have runs := isolated.same Unit Unit (silent registered) () () ⟨none, zeros, blank⟩ ⟨none, old, length⟩
    (silent_isSome registered) rfl rfl
  rw [runOneEventLoop_datagram _ _ _ _ _ _ rfl, runOneEventLoop_datagram _ _ _ _ _ _ rfl,
    serve_silent growth registered _ req made answerable,
    serve_silent growth registered _ req' made' answerable'] at runs
  simp only [Prod.mk.injEq, List.cons.injEq, Served.mk.injEq, true_and, and_true] at runs
  rw [← front, made', request_shown req req' runs.1 runs.2]

theorem serve_congr {σ : Type} (growth : StringGrowth) (handlers : RegisteredHandlers σ) (first second : ByteBuffer)
    (s : σ) (same : request first = request second) :
    serve growth handlers first s = serve growth handlers second s := by
  rw [serve, serve, same]

theorem Determined.isolated {growth : StringGrowth} {registered : U8 → Bool} {d : ByteBuffer}
    (determined : Determined registered d) (short : d.length ≤ kMaxMsgSz) : Isolated growth registered d := by
  obtain ⟨req, answerable, same⟩ := determined
  have made (old : ByteBuffer) (full : old.length = kMaxMsgSz) : request (overlay d old) = .ok req := by
    have whole := overlay_length d old
    rw [overlay_of_le d old (by omega)] at whole ⊢
    exact same _ (whole.trans full)
  constructor
  · intro α σ handlers s sender first second _ idle idle'
    rw [runOneEventLoop_datagram _ _ _ _ _ _ idle, runOneEventLoop_datagram _ _ _ _ _ _ idle',
      serve_congr growth handlers _ (overlay d second.curMsg) s ((made _ first.full).trans (made _ second.full).symm)]
  · exact fun old full => ⟨req, made old full, answerable⟩

/-- Datagrams that bleed into no other are exactly the settled ones. -/
theorem isolated_iff_settled (growth : StringGrowth) (registered : U8 → Bool) (d : ByteBuffer)
    (short : d.length ≤ kMaxMsgSz) : Isolated growth registered d ↔ Settled registered d :=
  ⟨fun isolated => isolated.determined.settled short, fun settled => (settled.determined short).isolated short⟩

def wholeRequest : ByteBuffer := encode [dump SRpcHeader.format ⟨3, 7⟩, [1, 2]]

theorem whole_request_isolated : Isolated libstdcxx (fun id => id == 3) wholeRequest := by
  apply (isolated_iff_settled libstdcxx (fun id => id == 3) wholeRequest (by decide)).mpr
  have own : OwnRequest (fun id => id == 3) wholeRequest := ⟨by decide, by decide, .inr (by decide)⟩
  exact ⟨by decide, .inr (.inr (.inr (.inr ⟨⟨by decide, by decide⟩, .inr own⟩)))⟩

/-- After an earlier request an empty datagram makes the server handle that request once more. -/
theorem empty_datagram_bleeds : ¬ Isolated libstdcxx (fun id => id == HeartBeat) [] := by
  intro isolated
  obtain ⟨zeros, blank, quiet⟩ : ∃ zeros : ByteBuffer, zeros.length = kMaxMsgSz ∧ request zeros = .ok .undecodable :=
    ⟨List.replicate kMaxMsgSz 0, List.length_replicate,
      request_shut List.length_replicate (fun opens => absurd opens.present (by decide))⟩
  obtain ⟨old, full, stale⟩ : ∃ old : ByteBuffer, old.length = kMaxMsgSz ∧ request old = .ok (.call HeartBeat 5 []) :=
    ⟨overlay (encode [dump SRpcHeader.format ⟨HeartBeat, 5⟩, []]) zeros, by rw [overlay_length, blank],
      request_encode ⟨HeartBeat, 5⟩ [] zeros (by decide) blank⟩
  have unchanged (b : ByteBuffer) : overlay [] b = b := by
    rw [overlay_of_le _ _ (Nat.zero_le _), List.nil_append, List.length_nil, List.drop_zero]
  have runs := isolated.same Unit Unit (silent (fun id => id == HeartBeat)) () () ⟨none, zeros, blank⟩ ⟨none, old, full⟩
    (silent_isSome _) rfl rfl
  have answerable : (Request.call HeartBeat 5 []).Answerable (fun id => id == HeartBeat) := by
    simp only [Request.Answerable, beq_self_eq_true]
  rw [runOneEventLoop_datagram _ _ _ _ _ _ rfl, runOneEventLoop_datagram _ _ _ _ _ _ rfl, unchanged, unchanged,
    serve_silent _ _ _ _ quiet trivial, serve_silent _ _ _ _ stale answerable] at runs
  simp only [Prod.mk.injEq, List.cons.injEq, Served.mk.injEq, calledBy, reduceCtorEq, false_and, and_false] at runs

end RLib.Bootstrap
