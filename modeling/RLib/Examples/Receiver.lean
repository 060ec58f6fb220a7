import RLib.Control.RecvBuffers
import RLib.Qps.RecvRing
import RLib.Utils.IpName

namespace RLib.Examples

open Qps Run Ring

/-- `std::atoi` of the characters up to the first NUL; it is 0 when they start with no number. -/
def atoi (text : ByteBuffer) : Int := (IPNameHelper.extractInt (text.takeWhile (· ≠ 0))).getD 0

section Text

open IPNameHelper

theorem atoi_decimal {n : Nat} (fits : n < 2 ^ 31) (rest : ByteBuffer) : atoi (decimal n ++ 0 :: rest) = n := by
  have text : (decimal n ++ 0 :: rest).takeWhile (· ≠ 0) = decimal n := by
    rw [List.takeWhile_append_of_pos]
    · simp
    · intro c member
      apply decide_eq_true
      rintro rfl
      exact absurd (decimal_isDigit n 0 member) (by decide)
  have written : Written [] [] (decimal n) [] n :=
    ⟨nofun, .inl rfl, ⟨decimal_ne_nil n, decimal_isDigit n⟩, nofun, by rw [numeral_decimal]; rfl, by omega⟩
  have extracted := extractInt_written written
  rw [List.append_nil, List.nil_append, List.nil_append] at extracted
  rw [atoi, text, extracted]
  rfl

theorem decimal_length {n : Nat} (fits : n < 2 ^ 31) : (decimal n).length ≤ 10 := by
  rw [decimal, List.length_map, Nat.length_toDigits_le_iff (by decide) (by decide)]
  omega

end Text

inductive LoopPhase where
  | poll | sweep | returned
deriving DecidableEq

/-- The loop in which a server receives, with what its QP and its buffers do. -/
structure Receiver (N : Nat) [NeZero N] where
  recv : Receivers N
  phase : LoopPhase := .poll
  recvCnt : U64 := 0

namespace Receiver

variable {N : Nat} [NeZero N] (headerSz : Nat) (msgCnt : U64)

def received (s : Receiver N) : List Message := (s.recv.lanes[0]?).elim [] Lane.returned

/-- `seq` of a message, which starts behind the header of its transport. -/
def seqOf (m : Message) : U64 := BitVec.ofInt 64 (atoi (m.bytes.drop headerSz))

/-- The loop goes on; `count` is what a new `RecvIter` polls. -/
def step (s : Receiver N) (count : Nat) : Option (Receiver N) :=
  match s.phase with
  | .poll => (s.recv.sweepStep (.begin 0 count)).map fun recv => { s with recv := recv, phase := .sweep }
  | .sweep =>
    match s.recv.sweepStep (.deliver 0) with
    | some recv =>
      let s := { s with recv := recv, recvCnt := s.recvCnt + 1 }
      some (if msgCnt ≤ (s.received.getLast?).elim 0 (seqOf headerSz) then { s with phase := .returned } else s)
    | none => (s.recv.sweepStep (.finish 0)).map fun recv => { s with recv := recv, phase := .poll }
  | .returned => none

end Receiver

section Lanes

variable {N : Nat} [NeZero N] {s t : Receivers N} {lane : Lane N}

theorem alone_step {e : SweepEvent} (fitting : Fitting s) (kept : s.AloneKept) (happens : s.sweepStep e = some t) :
    Fitting t ∧ t.AloneKept := by
  obtain ⟨alone, kept⟩ := Receivers.aloneKept_iff.mp kept
  refine ⟨fitting.step happens, Receivers.aloneKept_iff.mpr ⟨(sweepStep_lanes fitting happens).trans alone, ?_⟩⟩
  exact (sweepStep_kept fitting kept happens).mpr (alone_pollsOwn fitting alone happens)

theorem own_alone (fitting : Fitting s) (alone : s.lanes = [lane]) : own 0 s.cq = s.cq.map Completion.wc := by
  rw [own, List.filter_eq_self.mpr]
  intro c member
  have known := fitting.known c member
  rw [alone, List.length_singleton] at known
  exact decide_eq_true (by omega)

end Lanes

section Entries

variable {N : Nat} [NeZero N] {sz : U32}

theorem supplies {a : SimpleAllocator} (fits : a.Fits) {n : Nat} (enough : n * sz.toNat ≤ a.totalMem.toNat) :
    RecvEntries.Supplies sz n a := by
  induction n generalizing a with
  | zero => trivial
  | succ n ih =>
    rw [Nat.succ_mul] at enough
    rcases SimpleAllocator.allocOne_cases fits sz with short | ⟨a', taken, later, _, extent⟩
    · have room : ¬a.totalMem < sz := by
        rw [BitVec.lt_def]
        omega
      cases (if_neg room).symm.trans short
    · have left : a'.totalMem.toNat = a.totalMem.toNat - sz.toNat := congrArg Extent.len extent
      exact ⟨_, a', taken, ih (later.fits fits) (by omega)⟩

theorem fill_sized {A : Type} [AbsRecvAllocator A] {rest : List (Fin N)} {ret r : RecvEntries N} {allocator : A}
    (built : ∀ i, i ∉ rest → (ret.sges i).length = sz) (done : (RecvEntries.fill sz rest ret allocator).1 = .ok r)
    (i : Fin N) : (r.sges i).length = sz := by
  induction rest generalizing ret allocator with
  | nil =>
    cases done
    exact built i List.not_mem_nil
  | cons j rest ih =>
    rw [RecvEntries.fill] at done
    rcases taken : AbsRecvAllocator.allocOne allocator sz with ⟨_ | recvBuf, allocator'⟩
    · rw [taken] at done
      cases done
    · rw [taken] at done
      refine ih ?_ done
      intro l outside
      rw [RecvEntries.place_sges]
      split
      · rfl
      · rename_i other
        exact built l (List.not_mem_cons_of_ne_of_not_mem other outside)

theorem create_entries {a : SimpleAllocator} (fits : a.Fits) (enough : N * sz.toNat ≤ a.totalMem.toNat)
    (some : 0 < sz.toNat) :
    ∃ entries, (RecvEntriesFactoryv2.create N a sz).1 = .ok entries ∧ entries.Ready ∧
      Function.Injective entries.buffer ∧ ∀ i, (entries.wqe i).sge.length = sz := by
  have supplied : RecvEntries.Supplies sz (List.finRange N).length a := by
    rw [List.length_finRange]
    exact supplies fits enough
  rcases RecvEntries.fill_cases sz (List.finRange N) .new a with ⟨_, entries, built⟩ | ⟨refused, _⟩
  · have ready := (RecvEntriesFactoryv2.create_ready built).1
    have cuts := (RecvEntries.fill_cuts (List.nodup_finRange N) .new fits).2 entries built
    have sized := fill_sized (fun i outside => absurd (List.mem_finRange i) outside) built
    refine ⟨entries, built, ready, ?_, ?_⟩
    · intro i j same
      by_contra other
      have apart := cuts.apart i (List.mem_finRange i) j (List.mem_finRange j) other
      have start : (entries.sges i).addr = (entries.sges j).addr := by
        rw [(ready i).named, (ready j).named]
        exact same
      simp only [Extent.Apart, Extent.stop, Sge.extent, start, sized] at apart
      omega
    · intro i
      rw [ready.wqe_sge, sized]
  · exact absurd supplied refused

end Entries

namespace Receiver

variable {N : Nat} [NeZero N]

def counts (headerSz : Nat) (msgCnt : U64) (s : Receiver N) (recv : Receivers N) (m : Message) : Receiver N where
  recv := recv
  phase := if msgCnt ≤ seqOf headerSz m then .returned else .sweep
  recvCnt := s.recvCnt + 1

theorem counts_returned {headerSz : Nat} {msgCnt : U64} {s : Receiver N} {recv : Receivers N} {m : Message} :
    (s.counts headerSz msgCnt recv m).phase = .returned ↔ msgCnt ≤ seqOf headerSz m := by
  unfold counts
  split
  · exact iff_of_true rfl ‹_›
  · exact iff_of_false (by simp) ‹_›

theorem counts_sweep {headerSz : Nat} {msgCnt : U64} {s : Receiver N} {recv : Receivers N} {m : Message} :
    (s.counts headerSz msgCnt recv m).phase ≠ .poll := by
  unfold counts
  split
  · simp
  · simp

/-- What holds of a server in its loop whose buffers have at least `msgSz` bytes. -/
structure Inv (headerSz : Nat) (msgCnt : U64) (msgSz : Nat) (s : Receiver N) (lane : Lane N) : Prop where
  fitting : Fitting s.recv
  alone : s.recv.lanes = [lane]
  kept : BuffersKept s.recv 0 lane
  idle : s.phase = .poll ↔ lane.iter = none
  counted : s.recvCnt = BitVec.ofNat 64 lane.returned.length
  goesOn : s.phase ≠ .returned → ∀ m ∈ lane.returned, seqOf headerSz m < msgCnt
  ended : s.phase = .returned → ∃ front m, lane.returned = front ++ [m] ∧ msgCnt ≤ seqOf headerSz m ∧
    ∀ m ∈ front, seqOf headerSz m < msgCnt
  posted : ∀ w ∈ lane.rq, msgSz ≤ w.sge.length.toNat
  sized : ∀ a, msgSz ≤ (lane.entries.wqe a).sge.length.toNat

section Steps

variable {headerSz : Nat} {msgCnt : U64} {msgSz : Nat} {s t : Receiver N} {lane : Lane N} {count : Nat}

namespace Inv

theorem found (inv : Inv headerSz msgCnt msgSz s lane) : s.recv.lanes[0]? = some lane := by
  rw [inv.alone]
  rfl

theorem received (inv : Inv headerSz msgCnt msgSz s lane) : s.received = lane.returned := by
  rw [Receiver.received, inv.found, Option.elim_some]

theorem aloneKept (inv : Inv headerSz msgCnt msgSz s lane) : s.recv.AloneKept := ⟨lane, inv.alone, inv.kept⟩

theorem next (inv : Inv headerSz msgCnt msgSz s lane) {e : SweepEvent} {recv : Receivers N} {lane' : Lane N}
    (happens : s.recv.sweepStep e = some recv) (found : recv.lanes[0]? = some lane') :
    Fitting recv ∧ recv.lanes = [lane'] ∧ BuffersKept recv 0 lane' := by
  obtain ⟨fitting, lane'', alone, kept⟩ := alone_step inv.fitting inv.aloneKept happens
  rw [alone] at found
  cases found
  exact ⟨fitting, alone, kept⟩

theorem arrive (inv : Inv headerSz msgCnt msgSz s lane) {msg : Message} {recv : Receivers N}
    (happens : s.recv.sweepStep (.arrive 0 msg) = some recv) :
    ∃ lane', Inv headerSz msgCnt msgSz { s with recv := recv } lane' ∧ lane'.accepted = lane.accepted ++ [msg] := by
  obtain ⟨lane₁, w, rest, there, queue, same⟩ := arrive_step happens
  cases inv.found.symm.trans there
  have found : recv.lanes[0]? = some { lane with rq := rest, accepted := lane.accepted ++ [msg] } := by
    rw [same]
    exact setLane_self inv.found
  obtain ⟨fitting, alone, kept⟩ := inv.next happens found
  refine ⟨_, ⟨fitting, alone, kept, inv.idle, inv.counted, inv.goesOn, inv.ended, ?_, inv.sized⟩, rfl⟩
  exact fun w' member => inv.posted w' (queue ▸ List.mem_cons_of_mem _ member)

theorem begin (inv : Inv headerSz msgCnt msgSz s lane) (phase : s.phase = .poll) {recv : Receivers N}
    (happens : s.recv.sweepStep (.begin 0 count) = some recv) :
    ∃ lane', Inv headerSz msgCnt msgSz { s with recv := recv, phase := .sweep } lane' ∧
      lane'.accepted = lane.accepted ∧ lane'.iter = some (sweeping 0 count) ∧ recv.cq = s.recv.cq.drop count := by
  obtain ⟨lane₁, there, _, _, _, same⟩ := begin_step happens
  cases inv.found.symm.trans there
  have found : recv.lanes[0]? = some { lane with
      entries := lane.entries.poll (s.recv.cq.take count), iter := some (sweeping 0 count) } := by
    rw [same]
    exact setLane_self inv.found
  obtain ⟨fitting, alone, kept⟩ := inv.next happens found
  have going : s.phase ≠ .returned := by simp [phase]
  refine ⟨_, ⟨fitting, alone, kept, by simp, inv.counted, fun _ => inv.goesOn going, by simp, inv.posted, inv.sized⟩,
    rfl, rfl, ?_⟩
  rw [same]

theorem deliver (inv : Inv headerSz msgCnt msgSz s lane) (phase : s.phase = .sweep) {recv : Receivers N}
    (happens : s.recv.sweepStep (.deliver 0) = some recv) (count : Nat) :
    ∃ seen total lane' m, lane.iter = some (sweeping seen total) ∧ seen < total ∧
      lane'.iter = some (sweeping (seen + 1) total) ∧ lane'.returned = lane.returned ++ [m] ∧
      lane'.accepted = lane.accepted ∧ recv.cq = s.recv.cq ∧
      s.step headerSz msgCnt count = some (s.counts headerSz msgCnt recv m) ∧
      Inv headerSz msgCnt msgSz (s.counts headerSz msgCnt recv m) lane' := by
  obtain ⟨lane₁, seen, total, wc, there, sweeps, more, _, same⟩ := deliver_step inv.fitting happens
  cases inv.found.symm.trans there
  let lane' : Lane N := { lane with
    iter := some (sweeping (seen + 1) total)
    returned := lane.returned ++ [⟨wc.immData, s.recv.mem wc.wrId⟩] }
  have found : recv.lanes[0]? = some lane' := by
    rw [same]
    exact setLane_self inv.found
  obtain ⟨fitting, alone, kept⟩ := inv.next happens found
  have going : s.phase ≠ .returned := by simp [phase]
  refine ⟨seen, total, lane', ⟨wc.immData, s.recv.mem wc.wrId⟩, sweeps, more, rfl, rfl, rfl, by rw [same]; rfl, ?_, ?_⟩
  · have last : lane'.returned.getLast? = some ⟨wc.immData, s.recv.mem wc.wrId⟩ := List.getLast?_concat
    simp only [step, phase, happens, Receiver.received, found, Option.elim_some, last, counts, Option.some.injEq]
    split
    · rfl
    · rfl
  · refine ⟨fitting, alone, kept, ?_, ?_, ?_, ?_, inv.posted, inv.sized⟩
    · exact iff_of_false counts_sweep (by simp [lane'])
    · rw [List.length_append, List.length_singleton, BitVec.ofNat_add, ← inv.counted]
      rfl
    · intro goes m member
      rcases List.mem_append.mp member with old | new
      · exact inv.goesOn going m old
      · rw [List.mem_singleton.mp new]
        exact BitVec.not_le.mp (goes ∘ counts_returned.mpr)
    · exact fun ends => ⟨lane.returned, _, rfl, counts_returned.mp ends, inv.goesOn going⟩

theorem finish (inv : Inv headerSz msgCnt msgSz s lane) (phase : s.phase = .sweep) {recv : Receivers N}
    (happens : s.recv.sweepStep (.finish 0) = some recv) :
    ∃ total lane', lane.iter = some (sweeping total total) ∧
      Inv headerSz msgCnt msgSz { s with recv := recv, phase := .poll } lane' ∧
      lane'.accepted = lane.accepted ∧ recv.cq = s.recv.cq := by
  obtain ⟨lane₁, total, there, sweeps, same⟩ := finish_step inv.fitting happens
  cases inv.found.symm.trans there
  have found : recv.lanes[0]? = some (lane.refilled total) := by
    rw [same]
    exact setLane_self inv.found
  obtain ⟨fitting, alone, kept⟩ := inv.next happens found
  have going : s.phase ≠ .returned := by simp [phase]
  refine ⟨total, _, sweeps, ⟨fitting, alone, kept, by simp [Lane.refilled], inv.counted, fun _ => inv.goesOn going,
    by simp, ?_, inv.sized⟩, rfl, by rw [same]; rfl⟩
  intro w member
  rcases List.mem_append.mp member with old | new
  · exact inv.posted w old
  · obtain ⟨a, _, rfl⟩ := List.mem_map.mp new
    exact inv.sized a

theorem step (inv : Inv headerSz msgCnt msgSz s lane) (happens : s.step headerSz msgCnt count = some t) :
    ∃ lane', Inv headerSz msgCnt msgSz t lane' ∧ lane'.accepted = lane.accepted := by
  cases phase : s.phase with
  | poll =>
    simp only [Receiver.step, phase, Option.map_eq_some_iff] at happens
    obtain ⟨recv, polled, rfl⟩ := happens
    obtain ⟨lane', inv', same, _⟩ := inv.begin phase polled
    exact ⟨lane', inv', same⟩
  | sweep =>
    cases delivered : s.recv.sweepStep (.deliver 0) with
    | some recv =>
      obtain ⟨_, _, lane', m, _, _, _, _, same, _, outcome, inv'⟩ := inv.deliver phase delivered count
      cases happens.symm.trans outcome
      exact ⟨lane', inv', same⟩
    | none =>
      simp only [Receiver.step, phase, delivered, Option.map_eq_some_iff] at happens
      obtain ⟨recv, finished, rfl⟩ := happens
      obtain ⟨_, lane', _, inv', same, _⟩ := inv.finish phase finished
      exact ⟨lane', inv', same⟩
  | returned => simp [Receiver.step, phase] at happens

theorem sweeps_out (inv : Inv headerSz msgCnt msgSz s lane) (phase : s.phase = .sweep) {seen total : Nat}
    (sweeps : lane.iter = some (sweeping seen total)) :
    ∃ counts t lane', Run.run (Receiver.step headerSz msgCnt) s counts = some t ∧ Inv headerSz msgCnt msgSz t lane' ∧
      lane'.accepted = lane.accepted ∧ (t.phase = .returned ∨ t.phase = .poll ∧ t.recv.cq = s.recv.cq) := by
  induction left : total - seen generalizing s lane seen with
  | zero =>
    have order := ((inv.fitting.fit 0 lane inv.found).polled_length sweeps).1
    obtain rfl : seen = total := by omega
    have ended : (sweeping seen seen).hasMsgs = false := by
      rw [Bool.eq_false_iff, Ne, sweeping_hasMsgs]
      exact Nat.lt_irrefl _
    obtain ⟨refilled, cleared, _⟩ := inv.kept.reposts _ sweeps ended
    have none : s.recv.sweepStep (.deliver 0) = none := by
      simp [Receivers.sweepStep, inv.found, sweeps, RecvIter.curMsg, ended]
    have finished : s.recv.sweepStep (.finish 0) = some (s.recv.setLane 0 refilled) := by
      simp only [Receivers.sweepStep, inv.found, sweeps, ended, cleared, Bool.false_eq_true, ↓reduceIte,
        Option.map_some]
    obtain ⟨_, lane', _, inv', same, cq⟩ := inv.finish phase finished
    refine ⟨[0], _, lane', ?_, inv', same, .inr ⟨rfl, cq⟩⟩
    simp [Run.run, Receiver.step, phase, none, finished]
  | succ n ih =>
    have more : (sweeping seen total).hasMsgs = true := (sweeping_hasMsgs seen total).mpr (by omega)
    obtain ⟨recv, delivered⟩ := Option.isSome_iff_exists.mp (inv.kept.delivers _ sweeps more)
    obtain ⟨_, _, lane₁, m, sweeps', _, sweeps₁, _, same, cq, happens, inv₁⟩ := inv.deliver phase delivered 0
    cases sweeps.symm.trans sweeps'
    by_cases ends : msgCnt ≤ seqOf headerSz m
    · exact ⟨[0], _, lane₁, Run.run_cons happens rfl, inv₁, same, .inl (counts_returned.mpr ends)⟩
    · have phase₁ : (s.counts headerSz msgCnt recv m).phase = .sweep := if_neg ends
      obtain ⟨counts, t, lane', ran, inv', same', outcome⟩ := ih inv₁ phase₁ sweeps₁ (by omega)
      refine ⟨0 :: counts, t, lane', Run.run_cons happens ran, inv', same'.trans same, ?_⟩
      exact outcome.imp_right (fun both => ⟨both.1, both.2.trans cq⟩)

theorem cq_length (inv : Inv headerSz msgCnt msgSz s lane) : s.recv.cq.length ≤ N := by
  have capacity := inv.kept.capacity
  rw [own_alone inv.fitting inv.alone, List.length_map] at capacity
  omega

theorem polls_all (inv : Inv headerSz msgCnt msgSz s lane) (phase : s.phase = .poll) :
    ∃ counts t lane', Run.run (Receiver.step headerSz msgCnt) s counts = some t ∧ Inv headerSz msgCnt msgSz t lane' ∧
      lane'.accepted = lane.accepted ∧ (t.phase = .returned ∨ t.phase = .poll ∧ t.recv.cq = []) := by
  have idle := inv.idle.mp phase
  obtain ⟨recv, polled⟩ : ∃ recv, s.recv.sweepStep (.begin 0 s.recv.cq.length) = some recv := by
    apply Option.isSome_iff_exists.mp
    simp [Receivers.sweepStep, inv.found, idle, inv.cq_length]
  obtain ⟨lane₁, inv₁, same, sweeps, cq⟩ := inv.begin phase polled
  obtain ⟨counts, t, lane', ran, inv', same', outcome⟩ := inv₁.sweeps_out rfl sweeps
  refine ⟨s.recv.cq.length :: counts, t, lane', Run.run_cons ?_ ran, inv', same'.trans same, ?_⟩
  · simp only [Receiver.step, phase, polled, Option.map_some]
  · rw [List.drop_length] at cq
    exact outcome.imp_right (fun both => ⟨both.1, both.2.trans cq⟩)

theorem drains (inv : Inv headerSz msgCnt msgSz s lane) (going : s.phase ≠ .returned) :
    ∃ counts t lane', Run.run (Receiver.step headerSz msgCnt) s counts = some t ∧ Inv headerSz msgCnt msgSz t lane' ∧
      lane'.accepted = lane.accepted ∧ (t.phase = .returned ∨ t.phase = .poll ∧ t.recv.cq = []) := by
  cases phase : s.phase with
  | poll => exact inv.polls_all phase
  | sweep =>
    have busy : lane.iter ≠ none := by simp [← inv.idle, phase]
    obtain ⟨it, sweeps⟩ := Option.ne_none_iff_exists'.mp busy
    obtain ⟨seen, total, rfl, _⟩ := (inv.fitting.fit 0 lane inv.found).sweep it sweeps
    obtain ⟨counts, t, lane₁, ran, inv₁, same, outcome⟩ := inv.sweeps_out phase sweeps
    rcases outcome with returned | ⟨polls, _⟩
    · exact ⟨counts, t, lane₁, ran, inv₁, same, .inl returned⟩
    · obtain ⟨counts', t', lane', ran', inv', same', outcome⟩ := inv₁.polls_all polls
      exact ⟨counts ++ counts', t', lane', (Run.run_append ran).trans ran', inv', same'.trans same, outcome⟩
  | returned => exact absurd phase going

theorem drained (inv : Inv headerSz msgCnt msgSz s lane) (phase : s.phase = .poll) (empty : s.recv.cq = []) :
    lane.returned = lane.accepted ∧ lane.rq.length = N := by
  have idle := inv.idle.mp phase
  have data := inv.kept.data
  have capacity := inv.kept.capacity
  have none : own 0 s.recv.cq = [] := by rw [empty]; rfl
  rw [none, Lane.idle_unread idle] at data
  rw [none, Lane.idle_polled idle] at capacity
  exact ⟨by simpa using data.symm, by simpa using capacity⟩

end Inv

end Steps

theorem armed {headerSz msgSz : Nat} {msgCnt : U64} {entries : RecvEntries N} (ready : entries.Ready)
    (distinct : Function.Injective entries.buffer) (sized : ∀ i, msgSz ≤ (entries.wqe i).sge.length.toNat)
    (mem : U64 → ByteBuffer) :
    Inv headerSz msgCnt msgSz { recv := { lanes := [Lane.new entries], mem := mem } } (Lane.new entries) := by
  have fit := Lane.new_fit ready distinct
  refine ⟨⟨?_, ?_, nofun⟩, rfl, (Lane.new_balanced entries rfl).kept rfl fit, iff_of_true rfl rfl, rfl, nofun, nofun,
    ?_, sized⟩
  · intro i lane found
    cases List.mem_singleton.mp (List.mem_of_getElem? found)
    exact fit
  · intro i j lane lane' a b first second apart
    have bound := (List.getElem?_eq_some_iff.mp first).1
    have bound' := (List.getElem?_eq_some_iff.mp second).1
    simp only [List.length_singleton] at bound bound'
    omega
  · intro w member
    obtain ⟨a, _, rfl⟩ := List.mem_map.mp member
    exact sized a

end Receiver

end RLib.Examples
