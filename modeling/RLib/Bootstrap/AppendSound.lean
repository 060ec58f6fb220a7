import RLib.Bootstrap.MultiMsgAppend

namespace RLib.Bootstrap

open Bytes

/-- Message `msg` was added to the messages of `m`, which are what they were. -/
def Adds {MAXSZ : Nat} (m m' : MultiMsg MAXSZ) (msg : ByteBuffer) : Prop :=
  ∃ count, m.numMsg = .ok count ∧ m'.numMsg = .ok (count + 1) ∧ m'.queryOne count = .ok (some msg) ∧
    ∀ i < count, m'.queryOne i = m.queryOne i

/-- The same is seen in `m` and in a fresh decode of its buffer. -/
def Added {MAXSZ : Nat} (m m' : MultiMsg MAXSZ) (msg : ByteBuffer) : Prop :=
  Adds m m' msg ∧ ∃ d d', MultiMsg.createFrom MAXSZ m.buf = .ok (some d) ∧
    MultiMsg.createFrom MAXSZ m'.buf = .ok (some d') ∧ Adds d d' msg

def AppendsSound {MAXSZ : Nat} (growth : StringGrowth) (m : MultiMsg MAXSZ) : List ByteBuffer → Prop
  | [] => True
  | msg :: msgs => ∃ done m', m.append growth msg = .ok (done, m') ∧ (done = true → Added m m' msg) ∧
      AppendsSound growth m' msgs

/-- The messages that `append` takes one after the other into `used` bytes with `count` messages. -/
def taken (MAXSZ used count : Nat) : List ByteBuffer → List ByteBuffer
  | [] => []
  | msg :: msgs =>
    if used + msg.length ≤ MAXSZ ∧ count < kMaxMultiMsg then
      msg :: taken MAXSZ (used + msg.length) (count + 1) msgs
    else taken MAXSZ used count msgs

/-- The messages leave the buffer where it is, and together they repeat the bytes `tail` behind the messages that
    are there. -/
structure Stays (capacity used : Nat) (tail : ByteBuffer) (msgs : List ByteBuffer) : Prop where
  inPlace : used + msgs.flatten.length ≤ capacity
  repeats : msgs.flatten <+: tail ++ msgs.flatten

section Queries

variable {MAXSZ : Nat} {m : MultiMsg MAXSZ} {count : Nat}

/-- The header pointer designates the front of the buffer, and the table there names slices of it. -/
structure Live (m : MultiMsg MAXSZ) (count : Nat) : Prop where
  front : m.dangling = false
  lays : LaysOut m.buf.bytes count
  inside : runningEnd m.buf.bytes count ≤ m.buf.bytes.length
  short : m.buf.bytes.length < 2 ^ 16

theorem Live.numMsg (live : Live m count) : m.numMsg = .ok count := by
  simp only [MultiMsg.numMsg, MultiMsg.headerMem_live live.front, live.lays.num_read, live.lays.num_toNat, Bind.bind,
    Except.bind, Pure.pure, Except.pure]

theorem Live.queryOne (live : Live m count) {i : Nat} (inTable : i < count) :
    m.queryOne i = .ok (some (slice m.buf.bytes (runningEnd m.buf.bytes i) (szAt m.buf.bytes i).toNat)) := by
  have table := live.lays.passes.inside
  have inside : MsgsHeader.entryAt (i + 1) ≤ m.buf.bytes.length := by
    simp only [MsgsHeader.entryAt] at table ⊢
    omega
  have before : runningEnd m.buf.bytes (i + 1) ≤ runningEnd m.buf.bytes count := runningEnd_mono m.buf.bytes inTable
  have next : runningEnd m.buf.bytes (i + 1) = runningEnd m.buf.bytes i + (szAt m.buf.bytes i).toNat := rfl
  have fits := live.inside
  have short := live.short
  have off := offset_inside m.buf.bytes i (by simp only [MsgsHeader.entryAt] at inside ⊢; omega)
  have linked : offsetAt m.buf.bytes i = BitVec.ofNat 16 (runningEnd m.buf.bytes i) := live.lays.linked i inTable
  have place : (BitVec.ofNat 16 (runningEnd m.buf.bytes i)).toNat = runningEnd m.buf.bytes i := by
    rw [BitVec.toNat_ofNat]
    omega
  have entry : m.entry i = .ok (runningEnd m.buf.bytes i, (szAt m.buf.bytes i).toNat) := by
    simp only [MultiMsg.entry, MultiMsg.headerMem_live live.front, off, sz_inside m.buf.bytes i inside, linked, place,
      Bind.bind, Except.bind, Pure.pure, Except.pure]
  have read := load_inside m.buf.bytes (runningEnd m.buf.bytes i) (szAt m.buf.bytes i).toNat (by omega)
  have present : ¬ count ≤ i := by omega
  simp only [MultiMsg.queryOne, live.numMsg, present, entry, read, Bind.bind, Except.bind, Pure.pure, Except.pure,
    ↓reduceIte]

theorem createFrom_laysOut {b : HeapString} (lays : LaysOut b.bytes count)
    (inside : runningEnd b.bytes count ≤ b.bytes.length) (fits : b.bytes.length ≤ MAXSZ)
    (short : b.bytes.length < 2 ^ 16) : MultiMsg.createFrom MAXSZ b = .ok (some (around MAXSZ b)) := by
  have whole := lays.whole
  have size : MsgsHeader.size = 33 := rfl
  have few := lays.few
  have passes := lays.passes
  rw [← lays.num] at few passes inside
  have sane : MsgsHeader.sanityCheck b.bytes b.bytes.length = .ok true := by
    rcases sanityCheck_cases b.bytes b.bytes.length (by omega) with
      ⟨refused, _⟩ | ⟨_, _, result⟩ | ⟨_, ⟨k, bound, _, outside, _⟩, _⟩
    · rcases refused with many | ⟨k, bound, stops⟩
      · omega
      · exact absurd passes (stops.not_passes bound)
    · rw [result, Nat.mod_eq_of_lt (by omega), decide_eq_true inside]
    · have table := passes.inside
      simp only [MsgsHeader.entryAt] at table outside
      omega
  rw [MultiMsg.createFrom, if_neg (by omega), sane]
  rfl

end Queries

section Append

variable {MAXSZ : Nat} {m m' : MultiMsg MAXSZ} {count : Nat} {msg : ByteBuffer}

def tail (m : MultiMsg MAXSZ) (count : Nat) : ByteBuffer := m.buf.bytes.drop (runningEnd m.buf.bytes count)

/-- What `append` leaves behind when it takes `msg` and the buffer stays where it is. -/
structure Takes (m m' : MultiMsg MAXSZ) (count : Nat) (msg : ByteBuffer) : Prop where
  front : m'.dangling = false
  bytes : m'.buf.bytes = appended m.buf.bytes count msg.length ++ msg
  free : count < kMaxMultiMsg
  short : m.buf.bytes.length + msg.length < 2 ^ 16

theorem Live.takes (live : Live m count) (takes : Takes m m' count msg) : Live m' (count + 1) where
  front := takes.front
  lays := by
    rw [takes.bytes]
    exact grown_laysOut live.lays takes.free _ msg
  inside := by
    have inside := live.inside
    have short := takes.short
    rw [takes.bytes, grown_end live.lays takes.free msg (by omega), List.length_append,
      appended_length live.lays takes.free]
    omega
  short := by
    rw [takes.bytes, List.length_append, appended_length live.lays takes.free]
    exact takes.short

/-- The last entry leads to `msg` exactly when `msg` comes first among the bytes behind the messages and `msg`. -/
theorem Live.takes_adds_iff (live : Live m count) (takes : Takes m m' count msg) :
    Adds m m' msg ↔ msg <+: tail m count ++ msg := by
  have lays := live.lays
  have inside := live.inside
  have live' := live.takes takes
  have short := takes.short
  have behind (i : Nat) : MsgsHeader.size ≤ runningEnd m.buf.bytes i := runningEnd_mono m.buf.bytes (Nat.zero_le i)
  have earlier : ∀ i < count, m'.queryOne i = m.queryOne i := by
    intro i inTable
    have before : runningEnd m.buf.bytes (i + 1) ≤ runningEnd m.buf.bytes count := runningEnd_mono m.buf.bytes inTable
    have next : runningEnd m.buf.bytes (i + 1) = runningEnd m.buf.bytes i + (szAt m.buf.bytes i).toNat := rfl
    rw [live'.queryOne (by omega), live.queryOne inTable, takes.bytes,
      grown_runningEnd lays takes.free _ msg (by omega), grown_szAt lays takes.free _ msg inTable,
      grown_slice lays takes.free _ msg (behind i) (by omega)]
  have last : m'.queryOne count = .ok (some ((tail m count ++ msg).take msg.length)) := by
    rw [live'.queryOne (Nat.lt_succ_self count), takes.bytes,
      grown_runningEnd lays takes.free _ msg (Nat.le_refl _), grown_szAt_last lays takes.free msg (by omega), slice,
      grown_drop lays takes.free _ msg (behind count) inside, tail]
  rw [List.prefix_iff_eq_take]
  constructor
  · rintro ⟨n, counted, _, found, _⟩
    cases live.numMsg.symm.trans counted
    rw [last] at found
    injection found with found
    injection found with found
    exact found.symm
  · intro same
    refine ⟨count, live.numMsg, live'.numMsg, ?_, earlier⟩
    rw [last, ← same]

variable {growth : StringGrowth}

theorem refused_sound {msgs : List ByteBuffer} (refused : m.append growth msg = .ok (false, m)) :
    AppendsSound growth m (msg :: msgs) ↔ AppendsSound growth m msgs := by
  constructor
  · intro ⟨done, m', result, _, later⟩
    cases refused.symm.trans result
    exact later
  · exact fun later => ⟨false, m, refused, nofun, later⟩

theorem taken_sound {msgs : List ByteBuffer} (result : m.append growth msg = .ok (true, m')) :
    AppendsSound growth m (msg :: msgs) ↔ Added m m' msg ∧ AppendsSound growth m' msgs := by
  constructor
  · intro ⟨done, m'', result', added, later⟩
    cases result.symm.trans result'
    exact ⟨added rfl, later⟩
  · exact fun ⟨added, later⟩ => ⟨true, m', result, fun _ => added, later⟩

theorem Live.append_refused (live : Live m count)
    (refuses : ¬ (m.buf.bytes.length + msg.length ≤ MAXSZ ∧ count < kMaxMultiMsg)) :
    m.append growth msg = .ok (false, m) := by
  by_cases exceeds : MAXSZ < m.buf.bytes.length + msg.length
  · exact if_pos exceeds
  · have notFree : ¬ count < kMaxMultiMsg := fun free => refuses ⟨Nat.not_lt.mp exceeds, free⟩
    have full := live.lays.appendOne_full notFree (BitVec.ofNat 16 msg.length)
    simp only [MultiMsg.append, exceeds, MultiMsg.headerMem_live live.front, full, Bind.bind, Except.bind, Pure.pure,
      Except.pure, ↓reduceIte]

theorem Live.append (live : Live m count) (growth : StringGrowth) (maxsz : MAXSZ < 2 ^ 16) (free : count < kMaxMultiMsg)
    (fits : m.buf.bytes.length + msg.length ≤ MAXSZ) :
    ∃ m', m.append growth msg = .ok (true, m') ∧
      (m.buf.bytes.length + msg.length ≤ m.buf.capacity →
        Takes m m' count msg ∧ m'.buf.capacity = m.buf.capacity) ∧
      (¬ m.buf.bytes.length + msg.length ≤ m.buf.capacity → m'.dangling = true) := by
  have lays := live.lays
  have notOver : ¬ MAXSZ < m.buf.bytes.length + msg.length := by omega
  have header := lays.appendOne free msg.length
  let buf := m.buf.overwrite (appended m.buf.bytes count msg.length)
  have length : buf.bytes.length = m.buf.bytes.length := by
    rw [HeapString.overwrite_bytes, appended_length lays free msg.length]
  have capacity : buf.capacity = m.buf.capacity :=
    HeapString.overwrite_capacity m.buf _ (appended_length lays free msg.length)
  refine ⟨{ buf := buf.append growth msg, dangling := buf.moves msg.length }, ?_, ?_, ?_⟩
  · simp only [MultiMsg.append, notOver, MultiMsg.headerMem_live live.front, header, buf, Bind.bind, Except.bind,
      Pure.pure, Except.pure, ↓reduceIte]
  · intro room
    refine ⟨⟨decide_eq_false ?_, ?_, free, by omega⟩, ?_⟩
    · rw [length, capacity]
      omega
    · rw [HeapString.append_bytes, HeapString.overwrite_bytes]
    · rw [HeapString.append_capacity _ _ _ (by rw [length, capacity]; exact room), capacity]
  · intro full
    apply decide_eq_true
    rw [length, capacity]
    omega

theorem createFrom_accepts {b : HeapString} {d : MultiMsg MAXSZ}
    (created : MultiMsg.createFrom MAXSZ b = .ok (some d)) :
    d = around MAXSZ b ∧ b.bytes.length ≤ MAXSZ ∧ MsgsHeader.sanityCheck b.bytes b.bytes.length = .ok true := by
  by_cases long : MAXSZ < b.bytes.length
  · rw [MultiMsg.createFrom, if_pos long] at created
    cases created
  · rw [MultiMsg.createFrom, if_neg long] at created
    cases checked : MsgsHeader.sanityCheck b.bytes b.bytes.length with
    | error e =>
      rw [checked] at created
      cases created
    | ok sane =>
      rw [checked] at created
      cases sane with
      | false => cases created
      | true =>
        cases created
        exact ⟨rfl, Nat.not_lt.mp long, rfl⟩

theorem not_added_of_dangling (dangling : m'.dangling = true) : ¬ Added m m' msg := by
  intro ⟨⟨count, _, counted, _⟩, _⟩
  cases (MultiMsg.numMsg_dangling dangling).symm.trans counted

theorem Live.around (live : Live m count) : Live (around MAXSZ m.buf) count :=
  ⟨rfl, live.lays, live.inside, live.short⟩

theorem Live.takes_tail (live : Live m count) (takes : Takes m m' count msg) :
    tail m' (count + 1) = (tail m count ++ msg).drop msg.length := by
  have short := takes.short
  have behind : MsgsHeader.size ≤ runningEnd m.buf.bytes count := runningEnd_mono m.buf.bytes (Nat.zero_le count)
  rw [tail, takes.bytes, grown_end live.lays takes.free msg (by omega), ← List.drop_drop,
    grown_drop live.lays takes.free _ msg behind live.inside, tail]

theorem Live.added_iff (live : Live m count) (takes : Takes m m' count msg)
    (fits : m.buf.bytes.length + msg.length ≤ MAXSZ) : Added m m' msg ↔ msg <+: tail m count ++ msg := by
  have decodes : Takes (Bootstrap.around MAXSZ m.buf) (Bootstrap.around MAXSZ m'.buf) count msg :=
    ⟨rfl, takes.bytes, takes.free, takes.short⟩
  have decoded := live.around.takes_adds_iff decodes
  have live' := live.takes takes
  have length : m'.buf.bytes.length = m.buf.bytes.length + msg.length := by
    rw [takes.bytes, List.length_append, appended_length live.lays takes.free]
  have before : m.buf.bytes.length ≤ MAXSZ := by omega
  have after : m'.buf.bytes.length ≤ MAXSZ := by omega
  have created := createFrom_laysOut live.lays live.inside before live.short
  have created' := createFrom_laysOut live'.lays live'.inside after live'.short
  constructor
  · exact fun added => (live.takes_adds_iff takes).mp added.1
  · intro first
    exact ⟨(live.takes_adds_iff takes).mpr first, _, _, created, created', decoded.mpr first⟩

end Append

section Stays

variable {MAXSZ capacity used : Nat} {tail msg : ByteBuffer} {msgs : List ByteBuffer}

theorem prefix_append_iff (tail msg rest : ByteBuffer) :
    msg ++ rest <+: tail ++ (msg ++ rest) ↔ msg <+: tail ++ msg ∧ rest <+: (tail ++ msg).drop msg.length ++ rest := by
  have cancel : msg <+: tail ++ msg →
      (msg ++ rest <+: tail ++ (msg ++ rest) ↔ rest <+: (tail ++ msg).drop msg.length ++ rest) := by
    intro ⟨shifted, same⟩
    rw [← List.append_assoc tail, ← same, List.drop_left, List.append_assoc, List.prefix_append_right_inj]
  constructor
  · intro whole
    have first : msg <+: tail ++ msg := by
      apply List.prefix_of_prefix_length_le ((List.prefix_append msg rest).trans whole)
      · rw [← List.append_assoc]
        exact List.prefix_append _ _
      · rw [List.length_append]
        omega
    exact ⟨first, (cancel first).mp whole⟩
  · exact fun ⟨first, later⟩ => (cancel first).mpr later

theorem stays_cons : Stays capacity used tail (msg :: msgs) ↔
    msg <+: tail ++ msg ∧ Stays capacity (used + msg.length) ((tail ++ msg).drop msg.length) msgs := by
  have place : used + (msg :: msgs).flatten.length = used + msg.length + msgs.flatten.length := by
    rw [List.flatten_cons, List.length_append, Nat.add_assoc]
  have repeats := prefix_append_iff tail msg msgs.flatten
  rw [← List.flatten_cons] at repeats
  constructor
  · intro stays
    obtain ⟨first, later⟩ := repeats.mp stays.repeats
    exact ⟨first, place ▸ stays.inPlace, later⟩
  · exact fun ⟨first, stays⟩ => ⟨place ▸ stays.inPlace, repeats.mpr ⟨first, stays.repeats⟩⟩

end Stays

/-- From a message whose header pointer is good, every `append` is sound exactly when the messages it takes leave the
    buffer in place and repeat what lies behind the messages that are there. -/
theorem Live.sound_iff {MAXSZ : Nat} (maxsz : MAXSZ < 2 ^ 16) {growth : StringGrowth} {m : MultiMsg MAXSZ} {count : Nat}
    (live : Live m count) (msgs : List ByteBuffer) : AppendsSound growth m msgs ↔
      Stays m.buf.capacity m.buf.bytes.length (tail m count) (taken MAXSZ m.buf.bytes.length count msgs) := by
  induction msgs generalizing m count with
  | nil => exact iff_of_true trivial ⟨m.buf.fits, List.nil_prefix⟩
  | cons msg msgs ih =>
    by_cases takes : m.buf.bytes.length + msg.length ≤ MAXSZ ∧ count < kMaxMultiMsg
    · obtain ⟨m', result, inPlace, moved⟩ := live.append growth maxsz takes.2 takes.1
      rw [taken, if_pos takes, taken_sound result]
      by_cases room : m.buf.bytes.length + msg.length ≤ m.buf.capacity
      · obtain ⟨took, capacity⟩ := inPlace room
        have length : m'.buf.bytes.length = m.buf.bytes.length + msg.length := by
          rw [took.bytes, List.length_append, appended_length live.lays took.free]
        rw [stays_cons, live.added_iff took takes.1, ih (live.takes took), live.takes_tail took, capacity, length]
      · refine iff_of_false (fun sound => not_added_of_dangling (moved room) sound.1) ?_
        intro stays
        have place := stays.inPlace
        rw [List.flatten_cons, List.length_append] at place
        omega
    · rw [taken, if_neg takes, refused_sound (live.append_refused takes)]
      exact ih live

def SlicesInside {MAXSZ : Nat} (m : MultiMsg MAXSZ) : Prop :=
  ∃ count, m.numMsg = .ok count ∧ ∀ i < count, ∃ off len, m.entry i = .ok (off, len) ∧ off + len ≤ m.buf.bytes.length

section Origins

variable {MAXSZ : Nat} {m : MultiMsg MAXSZ}

theorem null_laysOut : LaysOut MsgsHeader.null 0 :=
  ⟨rfl, Nat.zero_le _, fun _ none' => absurd none' (Nat.not_lt_zero _), Nat.le_refl _⟩

/-- The storage of a message that `create_exact(sz)` makes: that of the empty header, or at least twice as much. -/
def exactCapacity (sz : Nat) : Nat :=
  if sz % 2 ^ 32 = 0 then MsgsHeader.size else max (sz % 2 ^ 32 + MsgsHeader.size) (2 * MsgsHeader.size)

theorem reserve_exactCapacity (sz : Nat) :
    ((HeapString.ofBytes MsgsHeader.null).reserve libstdcxx (sz % 2 ^ 32 + MsgsHeader.size)).capacity =
      exactCapacity sz := by
  have size : MsgsHeader.size = 33 := rfl
  have capacity : (HeapString.ofBytes MsgsHeader.null).capacity = 33 := rfl
  rw [HeapString.reserve, exactCapacity]
  by_cases empty : sz % 2 ^ 32 = 0
  · rw [if_pos empty, if_pos (by omega), capacity, size]
  · rw [if_neg empty, if_neg (by omega)]
    rfl

theorem createExact_live {sz : Nat} (maxsz : MAXSZ < 2 ^ 16)
    (created : MultiMsg.createExact MAXSZ libstdcxx sz = some m) :
    Live m 0 ∧ m.buf.bytes = MsgsHeader.null ∧ m.buf.capacity = exactCapacity sz := by
  have size : MsgsHeader.size = 33 := rfl
  have length : MsgsHeader.null.length = 33 := rfl
  unfold MultiMsg.createExact at created
  by_cases large : MAXSZ < sz % 2 ^ 32 + MsgsHeader.size
  · rw [if_pos large] at created
    cases created
  · rw [if_neg large] at created
    have reserved : min (max (sz % 2 ^ 32 + MsgsHeader.size) MsgsHeader.size) MAXSZ =
        sz % 2 ^ 32 + MsgsHeader.size := by
      omega
    cases created
    have bytes : (MultiMsg.mk' MAXSZ libstdcxx (sz % 2 ^ 32 + MsgsHeader.size)).buf.bytes = MsgsHeader.null := by
      rw [MultiMsg.mk', HeapString.reserve_bytes, HeapString.ofBytes_bytes]
    refine ⟨⟨rfl, ?_, ?_, ?_⟩, bytes, ?_⟩
    · rw [bytes]
      exact null_laysOut
    · rw [bytes]
      exact Nat.le_refl _
    · rw [bytes, length]
      omega
    · rw [MultiMsg.mk', reserved, reserve_exactCapacity]

theorem createFrom_live {b : HeapString} (maxsz : MAXSZ < 2 ^ 16)
    (created : MultiMsg.createFrom MAXSZ b = .ok (some m)) (slices : SlicesInside m) :
    m.buf = b ∧ Live m (numAt b.bytes) := by
  have size : MsgsHeader.size = 33 := rfl
  obtain ⟨same, short, sane⟩ := createFrom_accepts created
  subst same
  have nonempty : 0 < b.bytes.length := by
    by_contra none'
    have empty : b.bytes = [] := List.length_eq_zero_iff.mp (by omega)
    rw [empty] at sane
    cases sane
  have counted : (around MAXSZ b).numMsg = .ok (numAt b.bytes) := around_numMsg nonempty
  rcases sanityCheck_cases b.bytes b.bytes.length nonempty with
    ⟨_, result⟩ | ⟨few, passes, result⟩ | ⟨_, _, result⟩
  · cases sane.symm.trans result
  · have accepted : runningEnd b.bytes (numAt b.bytes) % 2 ^ 16 ≤ b.bytes.length := by
      injection sane.symm.trans result with whole
      exact of_decide_eq_true whole.symm
    have noWrap : runningEnd b.bytes (numAt b.bytes) < 2 ^ 16 := by
      by_contra wraps
      obtain ⟨i, inTable, below, above⟩ := exists_wrap b.bytes (numAt b.bytes) (Nat.not_lt.mp wraps)
      obtain ⟨count, counted', inside⟩ := slices
      cases counted.symm.trans counted'
      obtain ⟨off, len, entry, within⟩ := inside i inTable
      rw [around_entry passes inTable, Nat.mod_eq_of_lt below] at entry
      cases entry
      have within' : runningEnd b.bytes i + (szAt b.bytes i).toNat ≤ b.bytes.length := within
      rw [runningEnd] at above
      omega
    rw [Nat.mod_eq_of_lt noWrap] at accepted
    have start : MsgsHeader.size ≤ runningEnd b.bytes (numAt b.bytes) := runningEnd_mono b.bytes (Nat.zero_le _)
    exact ⟨rfl, rfl, ⟨rfl, few, passes.linked, Nat.le_trans start accepted⟩, accepted, Nat.lt_of_le_of_lt short maxsz⟩
  · cases sane.symm.trans result

end Origins

/-- However the message was obtained, its appends are sound exactly when the messages they take fit the storage it
    starts with and repeat what lies behind the messages it starts with. -/
theorem append_sound_iff (MAXSZ : Nat) (maxsz : MAXSZ ≤ 65535) (msgs : List ByteBuffer) :
    (∀ sz m, MultiMsg.createExact MAXSZ libstdcxx sz = some m → (AppendsSound libstdcxx m msgs ↔
      MsgsHeader.size + (taken MAXSZ MsgsHeader.size 0 msgs).flatten.length ≤ exactCapacity sz)) ∧
    (∀ b m, MultiMsg.createFrom MAXSZ b = .ok (some m) → SlicesInside m → (AppendsSound libstdcxx m msgs ↔
      Stays b.capacity b.bytes.length (b.bytes.drop (runningEnd b.bytes (numAt b.bytes)))
        (taken MAXSZ b.bytes.length (numAt b.bytes) msgs))) := by
  have upper : MAXSZ < 2 ^ 16 := by omega
  constructor
  · intro sz m created
    obtain ⟨live, bytes, capacity⟩ := createExact_live upper created
    have nothing : tail m 0 = [] := by
      rw [tail, bytes]
      rfl
    rw [live.sound_iff upper, nothing, capacity, bytes]
    exact ⟨fun stays => stays.inPlace, fun inPlace => ⟨inPlace, List.prefix_refl _⟩⟩
  · intro b m created slices
    obtain ⟨rfl, live⟩ := createFrom_live upper created slices
    exact live.sound_iff upper msgs

/-- A message made for 8 bytes, and a decoded empty message with one byte behind the header and room for more. -/
theorem append_sound_iff_small :
    (AppendsSound libstdcxx (MultiMsg.mk' 4096 libstdcxx 41) [[1, 2], [3]] ↔
      MsgsHeader.size + (taken 4096 MsgsHeader.size 0 [[1, 2], [3]]).flatten.length ≤ exactCapacity 8) ∧
    (AppendsSound libstdcxx (around 4096 ((HeapString.ofBytes (MsgsHeader.null ++ [7])).reserve libstdcxx 64))
        [[7], [7]] ↔ Stays 68 34 [7] (taken 4096 34 0 [[7], [7]])) :=
  ⟨(append_sound_iff 4096 (by decide) [[1, 2], [3]]).1 8 _ rfl,
    (append_sound_iff 4096 (by decide) [[7], [7]]).2
      ((HeapString.ofBytes (MsgsHeader.null ++ [7])).reserve libstdcxx 64) _ rfl
      ⟨0, rfl, fun _ none' => absurd none' (Nat.not_lt_zero _)⟩⟩

/-- A message made for no bytes takes the byte 1 and moves; what counts its messages is in the storage left behind. -/
theorem moved_append_unreadable : ∃ m m₁, MultiMsg.createExact 4096 libstdcxx 0 = some m ∧
    m.append libstdcxx [1] = .ok (true, m₁) ∧ m₁.numMsg = .error .overread ∧ m₁.queryOne 0 = .error .overread ∧
    m₁.append libstdcxx [2] = .error .overread ∧ ¬ AppendsSound libstdcxx m [[1]] := by
  refine ⟨_, _, rfl, rfl, rfl, rfl, rfl, ?_⟩
  intro ⟨_, _, result, added, _⟩
  cases result
  exact not_added_of_dangling rfl (added rfl)

end RLib.Bootstrap
