import RLib.Bootstrap.SRpc
import RLib.Bootstrap.MultiMsgRoundTrip

namespace RLib.Bootstrap

open Bytes

theorem reserved_roomy (growth : StringGrowth) (sz : Nat) (more : 0 < sz) (fits : sz + MsgsHeader.size ≤ kMaxMsgSz) :
    ∃ m : MMsg, MultiMsg.createExact kMaxMsgSz growth sz = some m ∧ m.Holds [] [] ∧
      2 * MsgsHeader.size ≤ m.buf.capacity := by
  have size : MsgsHeader.size = 33 := rfl
  have max : kMaxMsgSz = 4096 := rfl
  have whole : sz % 2 ^ 32 = sz := Nat.mod_eq_of_lt (by omega)
  have notOver : ¬ kMaxMsgSz < sz + MsgsHeader.size := by omega
  have initial : (HeapString.ofBytes MsgsHeader.null).capacity = MsgsHeader.size := rfl
  have reserved : min (Max.max (sz + MsgsHeader.size) MsgsHeader.size) kMaxMsgSz = sz + MsgsHeader.size := by omega
  refine ⟨MultiMsg.mk' kMaxMsgSz growth (sz + MsgsHeader.size), ?_, MultiMsg.mk'_holds growth _, ?_⟩
  · rw [MultiMsg.createExact, whole, if_neg notOver]
  · have doubled := HeapString.reserve_doubles growth (HeapString.ofBytes MsgsHeader.null) (sz + MsgsHeader.size)
      (by rw [initial]; omega)
    rw [initial] at doubled
    rw [MultiMsg.mk', reserved]
    exact doubled

/-- The first append stays in the reserved storage, so the entry of the second goes into the buffer too. -/
theorem append_pair (growth : StringGrowth) {m : MMsg} (holds : m.Holds [] [])
    (roomy : 2 * MsgsHeader.size ≤ m.buf.capacity)
    (first second : ByteBuffer) (brief : first.length ≤ MsgsHeader.size)
    (fits : MsgsHeader.size + first.length + second.length ≤ kMaxMsgSz) :
    ∃ m' m'' : MMsg, m.append growth first = .ok (true, m') ∧ m'.buf.bytes = encode [first] ∧
      m'.append growth second = .ok (true, m'') ∧ m''.buf.bytes = encode [first, second] := by
  have size : MsgsHeader.size = 33 := rfl
  have max : kMaxMsgSz = 4096 := rfl
  have start : m.buf.bytes.length = MsgsHeader.size := by
    rw [holds.bytes, List.append_nil, encode_length _ holds.room]
    rfl
  obtain ⟨m', appended, bytes, inPlace⟩ := holds.append growth first (by omega) (by decide)
  obtain ⟨live, _⟩ := inPlace (by omega)
  have one : [first].length ≤ kMaxMultiMsg := show 1 ≤ kMaxMultiMsg by decide
  have length : (encode [first]).length = MsgsHeader.size + first.length := by
    rw [encode_length _ one, List.flatten_singleton]
  rw [List.nil_append] at bytes
  have holds' : m'.Holds [first] [] := ⟨one, by rw [length]; omega, by rw [bytes, List.append_nil], live⟩
  obtain ⟨m'', appended', bytes', _⟩ := holds'.append growth second (by rw [bytes, length]; omega)
    (show 1 < kMaxMultiMsg by decide)
  exact ⟨m', m'', appended, bytes, appended', bytes'⟩

theorem decode_overlay (msgs : List ByteBuffer) (old : ByteBuffer) (room : msgs.length ≤ kMaxMultiMsg)
    (fits : (encode msgs).length ≤ kMaxMsgSz) (full : old.length = kMaxMsgSz) :
    ∃ m : MMsg, MultiMsg.createFrom kMaxMsgSz (HeapString.ofBytes (overlay (encode msgs) old)) = .ok (some m) ∧
      ∀ i, m.queryOne i = .ok msgs[i]? := by
  have front := overlay_of_le (encode msgs) old (by omega)
  have whole : (HeapString.ofBytes (overlay (encode msgs) old)).bytes.length ≤ kMaxMsgSz := by
    rw [HeapString.ofBytes_bytes, overlay_length, full]
  obtain ⟨m, created, _, holds⟩ := MultiMsg.createFrom_encode (HeapString.ofBytes (overlay (encode msgs) old)) msgs
    (old.drop (encode msgs).length) front room whole (by decide)
  exact ⟨m, created, holds.queryOne⟩

theorem encode_pair_length (first second : ByteBuffer) :
    (encode [first, second]).length = MsgsHeader.size + first.length + second.length := by
  rw [encode_length [first, second] (show 2 ≤ kMaxMultiMsg by decide)]
  simp only [List.flatten_cons, List.flatten_nil, List.append_nil, List.length_append]
  omega

theorem call_sends (growth : StringGrowth) (rpc : SRpc) (sent : Result ByteBuffer) (id : U8) (parameter : ByteBuffer)
    (short : parameter.length ≤ 4054) :
    rpc.call growth sent id parameter =
      .ok (sent, some (encode [dump SRpcHeader.format ⟨id, rpc.checksum⟩, parameter])) := by
  have size : MsgsHeader.size = 33 := rfl
  have max : kMaxMsgSz = 4096 := rfl
  have header : (dump SRpcHeader.format ⟨id, rpc.checksum⟩).length = 9 := dump_length _ _
  obtain ⟨m, created, holds, roomy⟩ := reserved_roomy growth (1 + parameter.length) (by omega) (by omega)
  obtain ⟨m', m'', first, _, second, bytes⟩ := append_pair growth holds roomy
    (dump SRpcHeader.format ⟨id, rpc.checksum⟩) parameter (by omega) (by omega)
  simp only [SRpc.call, created, assertAppend, first, second, bytes, Bind.bind, Except.bind, Pure.pure, Except.pure,
    ↓reduceIte]

theorem codedReply_sends (growth : StringGrowth) (header : SReplyHeader) (reply : ByteBuffer)
    (short : reply.length ≤ 4053) :
    SRpcHandler.codedReply growth header reply = .ok (encode [dump SReplyHeader.format header, reply]) := by
  have size : MsgsHeader.size = 33 := rfl
  have max : kMaxMsgSz = 4096 := rfl
  have ten : SReplyHeader.format.size = 10 := rfl
  have dumped : (dump SReplyHeader.format header).length = 10 := dump_length _ _
  obtain ⟨m, created, holds, roomy⟩ := reserved_roomy growth (SReplyHeader.format.size + reply.length)
    (by omega) (by omega)
  obtain ⟨m', m'', first, _, second, bytes⟩ := append_pair growth holds roomy (dump SReplyHeader.format header) reply
    (by omega) (by omega)
  simp only [SRpcHandler.codedReply, created, value_some, first, second, bytes, Bind.bind, Except.bind, Pure.pure,
    Except.pure]

theorem append_second_over (growth : StringGrowth) (reserve : Nat) (first second : ByteBuffer)
    (brief : first.length ≤ MsgsHeader.size) (over' : kMaxMsgSz < MsgsHeader.size + first.length + second.length) :
    ∃ m : MMsg, (MultiMsg.mk' kMaxMsgSz growth reserve).append growth first = .ok (true, m) ∧
      m.buf.bytes = encode [first] ∧ m.append growth second = .ok (false, m) := by
  have size : MsgsHeader.size = 33 := rfl
  have max : kMaxMsgSz = 4096 := rfl
  have holds : (MultiMsg.mk' kMaxMsgSz growth reserve).Holds [] [] := MultiMsg.mk'_holds growth reserve
  have start : (MultiMsg.mk' kMaxMsgSz growth reserve).buf.bytes.length = MsgsHeader.size := by
    rw [holds.bytes, List.append_nil, encode_length _ holds.room]
    rfl
  obtain ⟨m, appended, bytes, _⟩ := holds.append growth first (by omega) (by decide)
  rw [List.nil_append] at bytes
  have length : m.buf.bytes.length = MsgsHeader.size + first.length := by
    rw [bytes, encode_length [first] (show 1 ≤ kMaxMultiMsg by decide), List.flatten_singleton]
  exact ⟨m, appended, bytes, MultiMsg.append_over growth second (by omega)⟩

theorem codedReply_long (growth : StringGrowth) (header : SReplyHeader) (reply : ByteBuffer)
    (long : 4053 < reply.length) :
    SRpcHandler.codedReply growth header reply = .error .exception ∨
      SRpcHandler.codedReply growth header reply = .ok (encode [dump SReplyHeader.format header]) := by
  have size : MsgsHeader.size = 33 := rfl
  have max : kMaxMsgSz = 4096 := rfl
  have dumped : (dump SReplyHeader.format header).length = 10 := dump_length _ _
  by_cases refused : kMaxMsgSz < (SReplyHeader.format.size + reply.length) % 2 ^ 32 + MsgsHeader.size
  · have none' : MultiMsg.createExact kMaxMsgSz growth (SReplyHeader.format.size + reply.length) = none :=
      if_pos refused
    simp only [SRpcHandler.codedReply, none', value_none, Bind.bind, Except.bind, true_or]
  · have created : MultiMsg.createExact kMaxMsgSz growth (SReplyHeader.format.size + reply.length) =
        some (MultiMsg.mk' kMaxMsgSz growth _) := if_neg refused
    obtain ⟨m, first, bytes, second⟩ := append_second_over growth
      ((SReplyHeader.format.size + reply.length) % 2 ^ 32 + MsgsHeader.size) (dump SReplyHeader.format header) reply
      (by omega) (by omega)
    simp only [SRpcHandler.codedReply, created, value_some, first, second, bytes, Bind.bind, Except.bind, Pure.pure,
      Except.pure, or_true]

theorem call_refused (growth : StringGrowth) (rpc : SRpc) (sent : Result ByteBuffer) (id : U8) (parameter : ByteBuffer)
    (refused : kMaxMsgSz < (1 + parameter.length) % 2 ^ 32 + MsgsHeader.size) :
    rpc.call growth sent id parameter = .ok (⟨.Err, text "Msg too large!, only kMaxMsgSz supported"⟩, none) := by
  have none' : MultiMsg.createExact kMaxMsgSz growth (1 + parameter.length) = none := if_pos refused
  simp only [SRpc.call, none']

/-- The reserved length counts one byte for the header, whose append it does not leave room for. -/
theorem call_aborts (growth : StringGrowth) (rpc : SRpc) (sent : Result ByteBuffer) (id : U8) (parameter : ByteBuffer)
    (long : 4054 < parameter.length)
    (admitted : (1 + parameter.length) % 2 ^ 32 + MsgsHeader.size ≤ kMaxMsgSz) :
    rpc.call growth sent id parameter = .error .abort := by
  have size : MsgsHeader.size = 33 := rfl
  have max : kMaxMsgSz = 4096 := rfl
  have header : (dump SRpcHeader.format ⟨id, rpc.checksum⟩).length = 9 := dump_length _ _
  have created : MultiMsg.createExact kMaxMsgSz growth (1 + parameter.length) =
      some (MultiMsg.mk' kMaxMsgSz growth _) := if_neg (Nat.not_lt.mpr admitted)
  obtain ⟨m, first, _, second⟩ := append_second_over growth ((1 + parameter.length) % 2 ^ 32 + MsgsHeader.size)
    (dump SRpcHeader.format ⟨id, rpc.checksum⟩) parameter (by omega) (by omega)
  simp only [SRpc.call, created, assertAppend, first, second, Bind.bind, Except.bind, Pure.pure, Except.pure,
    Bool.false_eq_true, ↓reduceIte]
  rfl

theorem call_long (growth : StringGrowth) (rpc : SRpc) (sent : Result ByteBuffer) (id : U8) (parameter : ByteBuffer)
    (long : 4054 < parameter.length) :
    (∃ res, rpc.call growth sent id parameter = .ok (res, none)) ∨
      rpc.call growth sent id parameter = .error .abort := by
  by_cases refused : kMaxMsgSz < (1 + parameter.length) % 2 ^ 32 + MsgsHeader.size
  · exact .inl ⟨_, call_refused growth rpc sent id parameter refused⟩
  · exact .inr (call_aborts growth rpc sent id parameter long (Nat.not_lt.mp refused))

theorem call_sent {growth : StringGrowth} {rpc : SRpc} {sent res : Result ByteBuffer} {id : U8}
    {parameter d : ByteBuffer} (called : rpc.call growth sent id parameter = .ok (res, some d)) :
    parameter.length ≤ 4054 ∧ d = encode [dump SRpcHeader.format ⟨id, rpc.checksum⟩, parameter] := by
  by_cases short : parameter.length ≤ 4054
  · rw [call_sends growth rpc sent id parameter short] at called
    cases called
    exact ⟨short, rfl⟩
  · rcases call_long growth rpc sent id parameter (by omega) with ⟨res', unsent⟩ | aborted
    · rw [unsent] at called
      cases called
    · rw [aborted] at called
      cases called

theorem bareReply_sends (growth : StringGrowth) (header : SReplyHeader) :
    SRpcHandler.bareReply growth header = .ok (encode [dump SReplyHeader.format header]) := by
  have size : MsgsHeader.size = 33 := rfl
  have max : kMaxMsgSz = 4096 := rfl
  have ten : SReplyHeader.format.size = 10 := rfl
  have dumped : (dump SReplyHeader.format header).length = 10 := dump_length _ _
  obtain ⟨m, created, holds, roomy⟩ := reserved_roomy growth SReplyHeader.format.size (by omega) (by omega)
  obtain ⟨m', _, first, bytes, _⟩ := append_pair growth holds roomy (dump SReplyHeader.format header) []
    (by omega) (by rw [List.length_nil]; omega)
  simp only [SRpcHandler.bareReply, created, value_some, first, bytes, Bind.bind, Except.bind, Pure.pure, Except.pure]

theorem request_encode (header : SRpcHeader) (parameter old : ByteBuffer) (short : parameter.length ≤ 4054)
    (full : old.length = kMaxMsgSz) :
    SRpcHandler.request (overlay (encode [dump SRpcHeader.format header, parameter]) old) =
      .ok (.call header.id header.checksum parameter) := by
  have size : MsgsHeader.size = 33 := rfl
  have max : kMaxMsgSz = 4096 := rfl
  have dumped : (dump SRpcHeader.format header).length = 9 := dump_length _ _
  obtain ⟨m, created, query⟩ := decode_overlay [dump SRpcHeader.format header, parameter] old
    (show 2 ≤ kMaxMultiMsg by decide) (by rw [encode_pair_length]; omega) full
  have first : m.queryOne 0 = .ok (some (dump SRpcHeader.format header)) := query 0
  have second : m.queryOne 1 = .ok (some parameter) := query 1
  simp only [SRpcHandler.request, SRpcHandler.decodeHeader, catching, created, first, second, value_some, dedump_self,
    Bind.bind, Except.bind, Pure.pure, Except.pure]

theorem decodeReply_encode (header : SReplyHeader) (body : List ByteBuffer)
    (room : body.length < kMaxMultiMsg) (short : body.flatten.length ≤ 4053) :
    ∃ m : MMsg, decodeReply (recvBuffer (encode (dump SReplyHeader.format header :: body))) = .ok (m, header) ∧
      m.queryOne 1 = .ok body[0]? := by
  have size : MsgsHeader.size = 33 := rfl
  have max : kMaxMsgSz = 4096 := rfl
  have dumped : (dump SReplyHeader.format header).length = 10 := dump_length _ _
  have few : (dump SReplyHeader.format header :: body).length ≤ kMaxMultiMsg := room
  obtain ⟨m, created, query⟩ := decode_overlay (dump SReplyHeader.format header :: body)
    (List.replicate kMaxMsgSz 0) few
    (by rw [encode_length _ few, List.flatten_cons, List.length_append]; omega) List.length_replicate
  have first : m.queryOne 0 = .ok (some (dump SReplyHeader.format header)) := query 0
  refine ⟨m, ?_, query 1⟩
  simp only [decodeReply, recvBuffer, created, first, value_some, dedump_self, Bind.bind, Except.bind, Pure.pure,
    Except.pure]

/-- What a request and a reply carry is what the other side decodes, whatever the receive buffer of
    the server held before. -/
theorem wire_round_trip (growth : StringGrowth) :
    (∀ (rpc : SRpc) (sent : Result ByteBuffer) (id : U8) (parameter : ByteBuffer), parameter.length ≤ 4054 →
      ∃ d, rpc.call growth sent id parameter = .ok (sent, some d) ∧ d.length ≤ kMaxMsgSz ∧
        ∀ old : ByteBuffer, old.length = kMaxMsgSz →
          SRpcHandler.request (overlay d old) = .ok (.call id rpc.checksum parameter)) ∧
    (∀ (header : SReplyHeader) (reply : ByteBuffer), reply.length ≤ 4053 →
      ∃ d m, SRpcHandler.codedReply growth header reply = .ok d ∧ d.length ≤ kMaxMsgSz ∧
        decodeReply (recvBuffer d) = .ok (m, header) ∧ m.queryOne 1 = .ok (some reply)) ∧
    ∀ header : SReplyHeader, ∃ d m, SRpcHandler.bareReply growth header = .ok d ∧ d.length ≤ kMaxMsgSz ∧
      decodeReply (recvBuffer d) = .ok (m, header) ∧ m.queryOne 1 = .ok none := by
  have size : MsgsHeader.size = 33 := rfl
  have max : kMaxMsgSz = 4096 := rfl
  refine ⟨?_, ?_, ?_⟩
  · intro rpc sent id parameter short
    have header : (dump SRpcHeader.format ⟨id, rpc.checksum⟩).length = 9 := dump_length _ _
    refine ⟨_, call_sends growth rpc sent id parameter short, ?_, ?_⟩
    · rw [encode_pair_length]
      omega
    · intro old full
      exact request_encode ⟨id, rpc.checksum⟩ parameter old short full
  · intro header reply short
    have dumped : (dump SReplyHeader.format header).length = 10 := dump_length _ _
    obtain ⟨m, decoded, result⟩ := decodeReply_encode header [reply] (show 1 < kMaxMultiMsg by decide)
      (by simpa using short)
    refine ⟨_, m, codedReply_sends growth header reply short, ?_, decoded, result⟩
    rw [encode_pair_length]
    omega
  · intro header
    have dumped : (dump SReplyHeader.format header).length = 10 := dump_length _ _
    obtain ⟨m, decoded, result⟩ := decodeReply_encode header [] (by decide) (by decide)
    refine ⟨_, m, bareReply_sends growth header, ?_, decoded, result⟩
    rw [encode_length [dump SReplyHeader.format header] (show 1 ≤ kMaxMultiMsg by decide), List.flatten_singleton]
    omega

theorem wire_round_trip_short : ∃ d, SRpc.call libstdcxx {} ⟨.Ok, []⟩ 3 [7, 8] = .ok (⟨.Ok, []⟩, some d) ∧
    SRpcHandler.request (overlay d (List.replicate kMaxMsgSz 9)) = .ok (.call 3 1 [7, 8]) := by
  obtain ⟨d, sent, _, decoded⟩ := (wire_round_trip libstdcxx).1 {} ⟨.Ok, []⟩ 3 [7, 8] (by decide)
  exact ⟨d, sent, decoded _ List.length_replicate⟩

/-- What a call is promised: it refuses and sends nothing, or it sends a datagram with the header and the whole
    parameter. -/
def SRpc.CallKept (growth : StringGrowth) (rpc : SRpc) (id : U8) (parameter : ByteBuffer) : Prop :=
  ∀ sent, rpc.call growth sent id parameter = .ok (⟨.Err, text "Msg too large!, only kMaxMsgSz supported"⟩, none) ∨
    ∃ d m, rpc.call growth sent id parameter = .ok (sent, some d) ∧ d.length ≤ kMaxMsgSz ∧
      MultiMsg.createFrom kMaxMsgSz (HeapString.ofBytes d) = .ok (some m) ∧
      m.numMsg = .ok 2 ∧ m.queryOne 0 = .ok (some (dump SRpcHeader.format ⟨id, rpc.checksum⟩)) ∧
      m.queryOne 1 = .ok (some parameter)

/-- Whatever the sizes around the limit, a call keeps its promise but for the eight that the reservation admits and
    the second append refuses. -/
theorem call_kept_iff (growth : StringGrowth) (rpc : SRpc) (id : U8) (parameter : ByteBuffer)
    (small : parameter.length < 2 ^ 32 - 64) :
    rpc.CallKept growth id parameter ↔ parameter.length ≤ 4054 ∨ 4062 < parameter.length := by
  have size : MsgsHeader.size = 33 := rfl
  have max : kMaxMsgSz = 4096 := rfl
  have header : (dump SRpcHeader.format ⟨id, rpc.checksum⟩).length = 9 := dump_length _ _
  by_cases short : parameter.length ≤ 4054
  · refine iff_of_true ?_ (.inl short)
    intro sent
    have fits : (encode [dump SRpcHeader.format ⟨id, rpc.checksum⟩, parameter]).length ≤ kMaxMsgSz := by
      rw [encode_pair_length]
      omega
    obtain ⟨m, created, _, holds⟩ := MultiMsg.createFrom_encode
      (HeapString.ofBytes (encode [dump SRpcHeader.format ⟨id, rpc.checksum⟩, parameter]))
      [dump SRpcHeader.format ⟨id, rpc.checksum⟩, parameter] [] (List.append_nil _).symm
      (show 2 ≤ kMaxMultiMsg by decide) fits (by decide)
    exact .inr ⟨_, m, call_sends growth rpc sent id parameter short, fits, created, holds.numMsg, holds.queryOne 0,
      holds.queryOne 1⟩
  · by_cases refused : 4062 < parameter.length
    · exact iff_of_true (fun sent => .inl (call_refused growth rpc sent id parameter (by omega))) (.inr refused)
    · apply iff_of_false
      · intro kept
        have aborts := call_aborts growth rpc ⟨.Ok, []⟩ id parameter (by omega) (by omega)
        rcases kept ⟨.Ok, []⟩ with unsent | ⟨d, m, sends, _⟩
        · cases aborts.symm.trans unsent
        · cases aborts.symm.trans sends
      · omega

theorem call_kept_iff_limit : SRpc.CallKept libstdcxx {} 3 (List.replicate 4054 0) ↔
    (List.replicate 4054 (0 : U8)).length ≤ 4054 ∨ 4062 < (List.replicate 4054 (0 : U8)).length :=
  call_kept_iff libstdcxx {} 3 (List.replicate 4054 0) (by rw [List.length_replicate]; omega)

theorem oversized_call_aborts :
    SRpc.call libstdcxx {} ⟨.Ok, []⟩ 3 (List.replicate 4055 0) = .error .abort ∧
      ¬SRpc.CallKept libstdcxx {} 3 (List.replicate 4055 0) := by
  have length : (List.replicate 4055 (0 : U8)).length = 4055 := List.length_replicate
  have size : MsgsHeader.size = 33 := rfl
  have max : kMaxMsgSz = 4096 := rfl
  have aborts := call_aborts libstdcxx {} ⟨.Ok, []⟩ 3 (List.replicate 4055 0) (by omega) (by omega)
  refine ⟨aborts, ?_⟩
  intro kept
  rcases kept ⟨.Ok, []⟩ with unsent | ⟨d, m, sends, _⟩
  · cases aborts.symm.trans unsent
  · cases aborts.symm.trans sends

end RLib.Bootstrap
