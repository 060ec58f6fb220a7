import RLib.Bootstrap.MultiMsgEncode

namespace RLib.Bootstrap

open Bytes

theorem encode_append (msgs : List ByteBuffer) (msg : ByteBuffer) :
    encode (msgs ++ [msg]) = encodeHeader (msgs ++ [msg]) ++ (msgs.flatten ++ msg) := by
  rw [encode, List.flatten_append, List.flatten_cons, List.flatten_nil, List.append_nil]

theorem encode_nil : encode [] = MsgsHeader.null := rfl

theorem appendOne_full (msgs : List ByteBuffer) (tail : ByteBuffer) (len : U16)
    (full : msgs.length = kMaxMultiMsg) :
    MsgsHeader.appendOne (encodeHeader msgs ++ tail) len = .ok none := by
  have count : kMaxMultiMsg ≤ (BitVec.ofNat 8 msgs.length).toNat := by
    rw [full]
    decide
  simp only [MsgsHeader.appendOne, num_encodeHeader, count, Bind.bind, Except.bind, Pure.pure, Except.pure, ↓reduceIte]

namespace MultiMsg

variable {MAXSZ : Nat}

/-- `append` lays the message behind the others; the header stays where it is unless `*buf` moves. -/
theorem Holds.append {m : MultiMsg MAXSZ} {msgs : List ByteBuffer} (holds : m.Holds msgs [])
    (growth : StringGrowth) (msg : ByteBuffer) (fits : m.buf.bytes.length + msg.length ≤ MAXSZ)
    (room : msgs.length < kMaxMultiMsg) :
    ∃ m' : MultiMsg MAXSZ, m.append growth msg = .ok (true, m') ∧ m'.buf.bytes = encode (msgs ++ [msg]) ∧
      (m.buf.bytes.length + msg.length ≤ m.buf.capacity → m'.dangling = false ∧ m'.buf.capacity = m.buf.capacity) := by
  let mem := encodeHeader (msgs ++ [msg]) ++ msgs.flatten
  have added : MsgsHeader.appendOne (encodeHeader msgs ++ (msgs.flatten ++ [])) (BitVec.ofNat 16 msg.length) =
      .ok (some mem) := by
    rw [List.append_nil]
    exact appendOne_encodeHeader msgs msg _ room
  have bytes : m.buf.bytes = encodeHeader msgs ++ msgs.flatten := by
    rw [holds.bytes, List.append_nil, encode]
  have more : (msgs ++ [msg]).length ≤ kMaxMultiMsg := by
    rw [List.length_append, List.length_singleton]
    omega
  have same : mem.length = m.buf.bytes.length := by
    rw [bytes, List.length_append, List.length_append, encodeHeader_length msgs (by omega),
      encodeHeader_length (msgs ++ [msg]) more]
  have notOver : ¬ MAXSZ < m.buf.bytes.length + msg.length := by omega
  let buf := m.buf.overwrite mem
  refine ⟨{ buf := buf.append growth msg, dangling := buf.moves msg.length }, ?_, ?_, ?_⟩
  · simp only [MultiMsg.append, notOver, holds.headerMem, added, buf, Bind.bind, Except.bind, Pure.pure, Except.pure,
      ↓reduceIte]
  · rw [HeapString.append_bytes, HeapString.overwrite_bytes, encode_append, ← List.append_assoc]
  · intro inPlace
    have capacity := HeapString.overwrite_capacity m.buf mem same
    have stays : ¬ buf.capacity < buf.bytes.length + msg.length := by
      rw [capacity, HeapString.overwrite_bytes, same]
      omega
    refine ⟨?_, ?_⟩
    · exact decide_eq_false stays
    · rw [HeapString.append_capacity growth buf msg (by omega), capacity]

theorem append_over {m : MultiMsg MAXSZ} (growth : StringGrowth) (msg : ByteBuffer)
    (exceeds : MAXSZ < m.buf.bytes.length + msg.length) : m.append growth msg = .ok (false, m) := if_pos exceeds

theorem Holds.append_full {m : MultiMsg MAXSZ} {msgs : List ByteBuffer} (holds : m.Holds msgs [])
    (growth : StringGrowth) (msg : ByteBuffer) (full : msgs.length = kMaxMultiMsg) :
    m.append growth msg = .ok (false, m) := by
  by_cases exceeds : MAXSZ < m.buf.bytes.length + msg.length
  · exact append_over growth msg exceeds
  · have refused := appendOne_full msgs (msgs.flatten ++ []) (BitVec.ofNat 16 msg.length) full
    simp only [MultiMsg.append, exceeds, holds.headerMem, refused, Bind.bind, Except.bind, Pure.pure, Except.pure,
      ↓reduceIte]

theorem mk'_holds (growth : StringGrowth) (reserveSz : Nat) : (mk' MAXSZ growth reserveSz).Holds [] [] where
  room := by decide
  short := by decide
  bytes := by
    rw [mk', HeapString.reserve_bytes, HeapString.ofBytes_bytes, encode_nil, List.append_nil]
  live := rfl

/-- A message that was only ever appended to and whose buffer never has to move. -/
structure Built (m : MultiMsg MAXSZ) (msgs : List ByteBuffer) : Prop where
  holds : m.Holds msgs []
  roomy : MAXSZ ≤ m.buf.capacity

theorem default_built (growth : StringGrowth) (lower : MsgsHeader.size < MAXSZ) :
    (default MAXSZ growth).Built [] where
  holds := mk'_holds growth MAXSZ
  roomy := by
    have reserved : min (max MAXSZ MsgsHeader.size) MAXSZ = MAXSZ := by omega
    have roomy := HeapString.reserve_capacity growth (HeapString.ofBytes MsgsHeader.null) MAXSZ
    rwa [default, mk', reserved]

theorem Built.append {m : MultiMsg MAXSZ} {msgs : List ByteBuffer} (built : m.Built msgs)
    (small : MAXSZ < 2 ^ 16) (growth : StringGrowth) (msg : ByteBuffer) :
    ∃ (done : Bool) (m' : MultiMsg MAXSZ), m.append growth msg = .ok (done, m') ∧
      (done = false ↔ MAXSZ < m.buf.bytes.length + msg.length ∨ kMaxMultiMsg ≤ msgs.length) ∧
      (done = false → m' = m) ∧ m'.Built (if done then msgs ++ [msg] else msgs) := by
  by_cases exceeds : MAXSZ < m.buf.bytes.length + msg.length
  · exact ⟨false, m, append_over growth msg exceeds, by simp [exceeds], fun _ => rfl, built⟩
  by_cases full : kMaxMultiMsg ≤ msgs.length
  · have refused := built.holds.append_full growth msg (Nat.le_antisymm built.holds.room full)
    exact ⟨false, m, refused, by simp [full], fun _ => rfl, built⟩
  · obtain ⟨m', appended, bytes, stays⟩ := built.holds.append growth msg (by omega) (by omega)
    have inPlace : m.buf.bytes.length + msg.length ≤ m.buf.capacity := by
      have := built.roomy
      omega
    obtain ⟨live, capacity⟩ := stays inPlace
    have more : (msgs ++ [msg]).length ≤ kMaxMultiMsg := by
      rw [List.length_append, List.length_singleton]
      omega
    have length : (encode (msgs ++ [msg])).length = m.buf.bytes.length + msg.length := by
      rw [encode_length _ more, built.holds.bytes, List.append_nil, encode_length msgs built.holds.room]
      simp only [List.flatten_append, List.flatten_cons, List.flatten_nil, List.append_nil, List.length_append]
      omega
    refine ⟨true, m', appended, by simp [exceeds, full], by simp, ⟨⟨more, ?_, ?_, live⟩, ?_⟩⟩
    · rw [if_pos rfl, length]
      omega
    · rw [if_pos rfl, bytes, List.append_nil]
    · rw [capacity]
      exact built.roomy

def appendAll (growth : StringGrowth) : MultiMsg MAXSZ → List ByteBuffer → Except Exit (List Bool × MultiMsg MAXSZ)
  | m, [] => .ok ([], m)
  | m, msg :: rest => do
    let first ← m.append growth msg
    let others ← appendAll growth first.2 rest
    return (first.1 :: others.1, others.2)

def kept : List Bool → List ByteBuffer → List ByteBuffer
  | done :: flags, msg :: rest => if done then msg :: kept flags rest else kept flags rest
  | _, _ => []

theorem Built.appendAll {m : MultiMsg MAXSZ} {stored : List ByteBuffer} (built : m.Built stored)
    (small : MAXSZ < 2 ^ 16) (growth : StringGrowth) (msgs : List ByteBuffer) :
    ∃ (flags : List Bool) (m' : MultiMsg MAXSZ), MultiMsg.appendAll growth m msgs = .ok (flags, m') ∧
      flags.length = msgs.length ∧ m'.Built (stored ++ kept flags msgs) := by
  induction msgs generalizing m stored with
  | nil => exact ⟨[], m, rfl, rfl, by simpa [kept] using built⟩
  | cons msg rest ih =>
    obtain ⟨done, next, appended, _, _, builtNext⟩ := built.append small growth msg
    obtain ⟨flags, last, others, count, builtLast⟩ := ih builtNext
    refine ⟨done :: flags, last, ?_, ?_, ?_⟩
    · simp only [MultiMsg.appendAll, appended, others, Bind.bind, Except.bind, Pure.pure, Except.pure]
    · rw [List.length_cons, count, List.length_cons]
    · cases done
      · simpa [kept] using builtLast
      · simpa [kept] using builtLast

/-- Decoding undoes encoding: whatever sequence of strings a default-constructed message was given, the
    refused ones are exactly those that do not fit and change nothing, and the buffer, also with further
    bytes behind it, decodes to exactly the accepted ones in order. -/
theorem decode_appendAll (MAXSZ : Nat) (lower : 34 ≤ MAXSZ) (upper : MAXSZ ≤ 65535) (growth : StringGrowth)
    (msgs : List ByteBuffer) :
    ∃ (flags : List Bool) (m : MultiMsg MAXSZ), MultiMsg.appendAll growth (default MAXSZ growth) msgs = .ok (flags, m) ∧
      flags.length = msgs.length ∧
      (∀ msg, ∃ (done : Bool) (m' : MultiMsg MAXSZ), m.append growth msg = .ok (done, m') ∧
        (done = false ↔ MAXSZ < m.buf.bytes.length + msg.length ∨ kMaxMultiMsg ≤ (kept flags msgs).length) ∧
        (done = false → m' = m)) ∧
      ∀ (b : HeapString) (rest : ByteBuffer), b.bytes = m.buf.bytes ++ rest → b.bytes.length ≤ MAXSZ →
        ∃ d : MultiMsg MAXSZ, createFrom MAXSZ b = .ok (some d) ∧ d.numMsg = .ok (kept flags msgs).length ∧
          (∀ i, d.queryOne i = .ok (kept flags msgs)[i]?) ∧
          (∀ fuel, kMaxMultiMsg ≤ fuel → MsgsIter.walk ⟨d, 0⟩ fuel = .ok (kept flags msgs)) := by
  have small : MAXSZ < 2 ^ 16 := by omega
  have empty : (default MAXSZ growth).Built [] := default_built growth lower
  obtain ⟨flags, m, run, count, built⟩ := empty.appendAll small growth msgs
  rw [List.nil_append] at built
  refine ⟨flags, m, run, count, ?_, ?_⟩
  · intro msg
    obtain ⟨done, m', appended, refused, unchanged, _⟩ := built.append small growth msg
    exact ⟨done, m', appended, refused, unchanged⟩
  · intro b rest bytes fits
    have front : b.bytes = encode (kept flags msgs) ++ rest := by
      rw [bytes, built.holds.bytes, List.append_nil]
    obtain ⟨d, decoded, _, holds⟩ := createFrom_encode b (kept flags msgs) rest front built.holds.room fits small
    refine ⟨d, decoded, holds.numMsg, holds.queryOne, ?_⟩
    intro fuel enough
    have room := built.holds.room
    simpa using holds.walk fuel 0 (by omega)

theorem decode_appendAll_1024 : ∃ (flags : List Bool) (m : MultiMsg 1024),
    MultiMsg.appendAll libstdcxx (default 1024 libstdcxx) [[1, 2], [], [3]] = .ok (flags, m) ∧
      flags.length = 3 := by
  obtain ⟨flags, m, run, count, _⟩ := decode_appendAll 1024 (by decide) (by decide) libstdcxx [[1, 2], [], [3]]
  exact ⟨flags, m, run, count⟩

end MultiMsg

end RLib.Bootstrap
