import RLib.Bootstrap.MultiMsgSafety
import RLib.Bootstrap.SRpc

namespace RLib.Bootstrap

open Bytes SRpcHandler

section Prefix

theorem numAt_append (d rest : ByteBuffer) (inside : 0 < d.length) : numAt (d ++ rest) = numAt d := by
  rw [numAt, numAt, slice_append_left d rest 0 1 (by omega)]

theorem offsetAt_append (d rest : ByteBuffer) (i : Nat) (inside : MsgsHeader.entryAt i + 2 ≤ d.length) :
    offsetAt (d ++ rest) i = offsetAt d i := by
  rw [offsetAt, offsetAt, slice_append_left d rest _ _ inside]

theorem szAt_append (d rest : ByteBuffer) (i : Nat) (inside : MsgsHeader.entryAt (i + 1) ≤ d.length) :
    szAt (d ++ rest) i = szAt d i := by
  simp only [MsgsHeader.entryAt] at inside
  rw [szAt, szAt, slice_append_left d rest _ _ (by simp only [MsgsHeader.entryAt]; omega)]

theorem runningEnd_append (d rest : ByteBuffer) (i : Nat) (inside : MsgsHeader.entryAt i ≤ d.length) :
    runningEnd (d ++ rest) i = runningEnd d i := by
  induction i with
  | zero => rfl
  | succ i ih =>
    have before : MsgsHeader.entryAt i ≤ d.length := by
      simp only [MsgsHeader.entryAt] at inside ⊢
      omega
    rw [runningEnd, runningEnd, ih before, szAt_append d rest i inside]

theorem linked_append (d rest : ByteBuffer) (i : Nat) (inside : MsgsHeader.entryAt i + 2 ≤ d.length) :
    Linked (d ++ rest) i ↔ Linked d i := by
  rw [Linked, Linked, offsetAt_append d rest i inside, runningEnd_append d rest i (by omega)]

theorem Passes.append {d : ByteBuffer} {count : Nat} (passes : Passes d count) (rest : ByteBuffer) :
    Passes (d ++ rest) count where
  linked := by
    intro j bound
    have inside := passes.inside
    simp only [MsgsHeader.entryAt] at inside
    rw [linked_append d rest j (by simp only [MsgsHeader.entryAt]; omega)]
    exact passes.linked j bound
  inside := by
    have inside := passes.inside
    rw [List.length_append]
    omega

theorem Passes.runningEnd_append {d : ByteBuffer} {count : Nat} (passes : Passes d count) (rest : ByteBuffer) {i : Nat}
    (inTable : i ≤ count) : runningEnd (d ++ rest) i = runningEnd d i := by
  have inside := passes.inside
  apply Bootstrap.runningEnd_append
  simp only [MsgsHeader.entryAt] at inside ⊢
  omega

end Prefix

section Requests

/-- The entry table is one the check lets through and its first message is long enough for a header. -/
structure Opens (b : ByteBuffer) : Prop where
  present : 0 < numAt b
  few : numAt b ≤ kMaxMultiMsg
  passes : Passes b (numAt b)
  accepted : runningEnd b (numAt b) % 2 ^ 16 ≤ kMaxMsgSz
  header : SRpcHeader.format.size ≤ (szAt b 0).toNat

def headerAt (b : ByteBuffer) : SRpcHeader :=
  SRpcHeader.format.get (slice b MsgsHeader.size SRpcHeader.format.size)

variable {b : ByteBuffer}

abbrev received (b : ByteBuffer) : MMsg := around kMaxMsgSz (HeapString.ofBytes b)

theorem createFrom_received (full : b.length = kMaxMsgSz) :
    MultiMsg.createFrom kMaxMsgSz (HeapString.ofBytes b) = (do
      let sane ← MsgsHeader.sanityCheck b kMaxMsgSz
      return if sane then some (received b) else none) := by
  have notLong : ¬ kMaxMsgSz < (HeapString.ofBytes b).bytes.length := by
    rw [HeapString.ofBytes_bytes]
    omega
  rw [MultiMsg.createFrom, if_neg notLong, HeapString.ofBytes_bytes, full]
  rfl

theorem received_numMsg (full : b.length = kMaxMsgSz) : (received b).numMsg = .ok (numAt b) := by
  have max : kMaxMsgSz = 4096 := rfl
  exact around_numMsg (b := HeapString.ofBytes b) (by rw [HeapString.ofBytes_bytes]; omega)

theorem received_queryOne (full : b.length = kMaxMsgSz) (passes : Passes b (numAt b)) {i : Nat} (inTable : i < numAt b)
    (noWrap : runningEnd b i < 2 ^ 16) :
    (received b).queryOne i =
      if runningEnd b (i + 1) ≤ kMaxMsgSz then .ok (some (slice b (runningEnd b i) (szAt b i).toNat))
      else .error .overread := by
  have counted := received_numMsg full
  have entry : (received b).entry i = .ok (runningEnd b i, (szAt b i).toNat) := by
    have found : (received b).entry i = .ok (runningEnd b i % 2 ^ 16, (szAt b i).toNat) :=
      around_entry (b := HeapString.ofBytes b) passes inTable
    rwa [Nat.mod_eq_of_lt noWrap] at found
  have next : runningEnd b (i + 1) = runningEnd b i + (szAt b i).toNat := rfl
  by_cases inside : runningEnd b (i + 1) ≤ kMaxMsgSz
  · rw [if_pos inside]
    exact around_queryOne counted inTable entry (by rw [HeapString.ofBytes_bytes]; omega)
  · have outside : load (received b).buf.bytes (runningEnd b i) (szAt b i).toNat = .error .overread :=
      load_outside b _ _ (by omega)
    have present : ¬ numAt b ≤ i := by omega
    rw [if_neg inside]
    simp only [MultiMsg.queryOne, counted, present, entry, outside, Bind.bind, Except.bind, ↓reduceIte]

theorem received_queryOne_absent (full : b.length = kMaxMsgSz) {i : Nat} (absent : numAt b ≤ i) :
    (received b).queryOne i = .ok none := by
  have counted := received_numMsg full
  simp only [MultiMsg.queryOne, counted, absent, Bind.bind, Except.bind, Pure.pure, Except.pure, ↓reduceIte]

theorem request_shut (full : b.length = kMaxMsgSz) (shut : ¬ Opens b) : request b = .ok .undecodable := by
  have max : kMaxMsgSz = 4096 := rfl
  have eight : kMaxMultiMsg = 8 := rfl
  have created := createFrom_received full
  have nothing : decodeHeader b = .ok none := by
    rcases sanityCheck_cases b kMaxMsgSz (by omega) with
      ⟨_, result⟩ | ⟨few, passes, result⟩ | ⟨few, ⟨k, bound, _, outside, _⟩, _⟩
    · simp only [decodeHeader, created, result, catching, Bind.bind, Except.bind, Pure.pure, Except.pure, value_none,
        Bool.false_eq_true, ↓reduceIte]
    · by_cases accepted : runningEnd b (numAt b) % 2 ^ 16 ≤ kMaxMsgSz
      · rw [decide_eq_true accepted] at result
        by_cases present : 0 < numAt b
        · have brief : (szAt b 0).toNat < SRpcHeader.format.size := by
            by_contra long
            exact shut ⟨present, few, passes, accepted, by omega⟩
          have nine : SRpcHeader.format.size = 9 := rfl
          have start : runningEnd b 0 = 33 := rfl
          have inside : runningEnd b (0 + 1) ≤ kMaxMsgSz := by
            change 33 + (szAt b 0).toNat ≤ kMaxMsgSz
            omega
          have first := received_queryOne full passes present (by omega)
          rw [if_pos inside] at first
          have cut : (slice b (runningEnd b 0) (szAt b 0).toNat).length < SRpcHeader.format.size := by
            rw [slice_length _ _ _ (by omega)]
            exact brief
          have short := dedump_short SRpcHeader.format _ cut
          simp only [decodeHeader, created, result, catching, first, short, Bind.bind, Except.bind, Pure.pure,
            Except.pure, value_some, value_none, ↓reduceIte]
        · have absent := received_queryOne_absent full (i := 0) (by omega)
          simp only [decodeHeader, created, result, catching, absent, Bind.bind, Except.bind, Pure.pure,
            Except.pure, value_some, value_none, ↓reduceIte]
      · rw [decide_eq_false accepted] at result
        simp only [decodeHeader, created, result, catching, Bind.bind, Except.bind, Pure.pure, Except.pure, value_none,
          Bool.false_eq_true, ↓reduceIte]
    · simp only [MsgsHeader.entryAt] at outside
      omega
  simp only [request, nothing, Bind.bind, Except.bind, Pure.pure, Except.pure]

theorem request_opens (full : b.length = kMaxMsgSz) (opens : Opens b) :
    request b =
      if kMaxMsgSz < runningEnd b 1 then .error .overread
      else if numAt b = 1 then .ok (.noParameter (headerAt b).checksum)
      else if kMaxMsgSz < runningEnd b 2 then .error .overread
      else .ok (.call (headerAt b).id (headerAt b).checksum (slice b (runningEnd b 1) (szAt b 1).toNat)) := by
  have max : kMaxMsgSz = 4096 := rfl
  have nine : SRpcHeader.format.size = 9 := rfl
  have start : runningEnd b 0 = MsgsHeader.size := rfl
  have size : MsgsHeader.size = 33 := rfl
  have end1 : runningEnd b 1 = MsgsHeader.size + (szAt b 0).toNat := rfl
  have created := createFrom_received full
  have result : MsgsHeader.sanityCheck b kMaxMsgSz = .ok true := by
    rcases sanityCheck_cases b kMaxMsgSz (by omega) with
      ⟨many | ⟨k, bound, stops⟩, _⟩ | ⟨_, _, result⟩ | ⟨_, ⟨k, bound, _, outside, _⟩, _⟩
    · have := opens.few
      omega
    · exact absurd opens.passes (stops.not_passes bound)
    · rwa [decide_eq_true opens.accepted] at result
    · have few := opens.few
      have eight : kMaxMultiMsg = 8 := rfl
      simp only [MsgsHeader.entryAt] at outside
      omega
  have first : (received b).queryOne 0 =
      if runningEnd b 1 ≤ kMaxMsgSz then .ok (some (slice b (runningEnd b 0) (szAt b 0).toNat)) else .error .overread :=
    received_queryOne full opens.passes opens.present (by omega)
  by_cases beyond : kMaxMsgSz < runningEnd b 1
  · rw [if_neg (by omega)] at first
    rw [if_pos beyond]
    simp only [request, decodeHeader, created, result, catching, first, Bind.bind, Except.bind, Pure.pure,
      Except.pure, value_some, ↓reduceIte]
  · rw [if_pos (by omega), start] at first
    have length : (slice b MsgsHeader.size (szAt b 0).toNat).length = (szAt b 0).toNat :=
      slice_length _ _ _ (by omega)
    have front : (slice b MsgsHeader.size (szAt b 0).toNat).take SRpcHeader.format.size =
        slice b MsgsHeader.size SRpcHeader.format.size := by
      rw [slice, slice, List.take_take, Nat.min_eq_left opens.header]
    have decoded : dedump SRpcHeader.format (slice b MsgsHeader.size (szAt b 0).toNat) = some (headerAt b) := by
      rw [dedump_long _ _ (by rw [length]; exact opens.header), headerAt, ← front, Codec.get_take]
      rw [length]
      exact opens.header
    rw [if_neg beyond]
    by_cases one : numAt b = 1
    · have second := received_queryOne_absent full (i := 1) (by omega)
      rw [if_pos one]
      simp only [request, decodeHeader, created, result, catching, first, decoded, second, Bind.bind, Except.bind,
        Pure.pure, Except.pure, value_some, ↓reduceIte]
    · have present := opens.present
      have second : (received b).queryOne 1 =
          if runningEnd b 2 ≤ kMaxMsgSz then .ok (some (slice b (runningEnd b 1) (szAt b 1).toNat))
          else .error .overread :=
        received_queryOne full opens.passes (by omega) (by omega)
      rw [if_neg one]
      by_cases cut : kMaxMsgSz < runningEnd b 2
      · rw [if_neg (by omega)] at second
        rw [if_pos cut]
        simp only [request, decodeHeader, created, result, catching, first, decoded, second, Bind.bind, Except.bind,
          Pure.pure, Except.pure, value_some, ↓reduceIte]
      · rw [if_pos (by omega)] at second
        rw [if_neg cut]
        simp only [request, decodeHeader, created, result, catching, first, decoded, second, Bind.bind, Except.bind,
          Pure.pure, Except.pure, value_some, ↓reduceIte]

end Requests

end RLib.Bootstrap
