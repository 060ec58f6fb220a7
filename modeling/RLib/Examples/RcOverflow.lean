import RLib.Examples.Receiver
import RLib.Qps.Unreaped

namespace RLib.Examples

open Bytes IPNameHelper Proto Qps Run

def IBV_WR_SEND_WITH_IMM : U32 := 3

inductive SendPhase where
  | loop | wait | ended | aborted
deriving DecidableEq

/-- The client: its QP, the memory it sends from, which starts at `buf`, and the requests its NIC has yet to send. -/
structure Sender where
  rc : SendRC
  buf : U64
  mem : ByteBuffer
  ahead : List SendWr := []
  i : Int := 1
  phase : SendPhase := .loop

namespace Sender

/-- One pass up to the wait; `i` is at least 1. -/
def send (accepts : Nat) (c : Sender) : Sender :=
  let msg := decimal c.i.toNat
  let mem := store c.mem 0 (List.replicate (msg.length + 1) 0)
  let mem := store mem 0 msg
  let desc : ReqDesc :=
    { op := IBV_WR_SEND_WITH_IMM, flags := IBV_SEND_SIGNALED, len := BitVec.ofNat 32 (msg.length + 1) }
  let (res, rc) := c.rc.sendNormalBound accepts desc { localAddr := c.buf }
  let c := { c with mem := mem, rc := rc }
  match res with
  | .ok .Ok => { c with phase := .wait, ahead := c.ahead ++ rc.queue.posted.head?.toList }
  | _ => { c with phase := .aborted }

/-- A round of `wait_one_comp`, and the end of the pass. -/
def wait (junk : SendWc) (c : Sender) : Sender :=
  let (res, rc) := c.rc.pollSendComp { junk := junk }
  let c := { c with rc := rc }
  if res.1 = 0 then c
  else if res.1 < 0 ∨ res.2.status ≠ .IBV_WC_SUCCESS then { c with phase := .aborted }
  else { c with phase := .loop, i := c.i + 1 }

def gather (c : Sender) (wr : SendWr) : ByteBuffer :=
  wr.sgList.flatMap fun sge => slice c.mem (sge.addr - c.buf).toNat sge.length.toNat

/-- A driver takes at least the requests for which it has room back. -/
def Takes (accepts : Nat) (c : Sender) : Prop :=
  c.rc.queue.maxSendWr.toNat ≤ accepts + c.rc.queue.unreaped.length

instance (accepts : Nat) (c : Sender) : Decidable (c.Takes accepts) := inferInstanceAs (Decidable (_ ≤ _))

end Sender

/-- The client and the server of `rc_overflow`, which are both started with `msg_cnt`. -/
structure RcOverflow (N : Nat) [NeZero N] where
  sender : Sender
  receiver : Receiver N

inductive OverflowEvent where
  /-- the client goes on -/
  | send (accepts : Nat) (junk : SendWc)
  /-- the NICs bring the oldest request not sent yet into the first posted buffer -/
  | transmit
  /-- the client's NIC is told of the oldest message that is there -/
  | acknowledge
  /-- the server goes on -/
  | receive (count : Nat)

namespace RcOverflow

variable {N : Nat} [NeZero N] (msgCnt : U64)

def posted (s : RcOverflow N) : Option RecvWqe := (s.receiver.recv.lanes[0]?).bind fun lane => lane.rq.head?

/-- A message waits until a buffer is posted for it, as `rnr_retry` is 7. -/
def step (s : RcOverflow N) : OverflowEvent → Option (RcOverflow N)
  | .send accepts junk =>
    match s.sender.phase with
    | .loop =>
      if s.sender.i ≤ msgCnt.toInt then
        if s.sender.Takes accepts then some { s with sender := s.sender.send accepts } else none
      else some { s with sender := { s.sender with phase := .ended } }
    | .wait => some { s with sender := s.sender.wait junk }
    | .ended | .aborted => none
  | .transmit =>
    match s.sender.ahead, s.posted with
    | wr :: ahead, some w =>
      let payload := s.sender.gather wr
      if payload.length ≤ w.sge.length.toNat then
        let msg : Message := ⟨wr.immData, store (s.receiver.recv.mem w.sge.addr) 0 payload⟩
        (s.receiver.recv.sweepStep (.arrive 0 msg)).map fun recv =>
          { sender := { s.sender with ahead := ahead }, receiver := { s.receiver with recv := recv } }
      else none
    | _, _ => none
  | .acknowledge =>
    if s.sender.ahead.length < s.sender.rc.queue.sq.length then
      some { s with sender := { s.sender with rc := s.sender.rc.succeed 1 } }
    else none
  | .receive count => (s.receiver.step 0 msgCnt count).map fun receiver => { s with receiver := receiver }

/-- Both programs have not failed, no message is longer than the buffer for it, no CQ overruns, the server has seen
    the messages 1, 2, ... in order, and all of them when it says so, which it can come to. -/
structure Safe (s : RcOverflow N) : Prop where
  goesOn : s.sender.phase ≠ .aborted
  int : s.sender.i < 2 ^ 31
  fits : ∀ wr w, s.sender.ahead.head? = some wr → s.posted = some w →
    (s.sender.gather wr).length ≤ w.sge.length.toNat
  room : s.receiver.recv.cq.length ≤ N
  numbers : s.receiver.received.map (Receiver.seqOf 0) =
    (List.range s.receiver.received.length).map fun k => BitVec.ofNat 64 (k + 1)
  counted : s.receiver.recvCnt = BitVec.ofNat 64 s.receiver.received.length
  sent : (s.receiver.received.length : Int) ≤ s.sender.i
  all : s.receiver.phase = .returned → s.receiver.recvCnt = msgCnt
  returns : ∃ es t, run (step msgCnt) s es = some t ∧ t.receiver.phase = .returned

end RcOverflow

namespace Sender

variable {c : Sender} {accepts : Nat}

/-- The text of message `k`, with the NUL behind it. -/
def text (k : Nat) : ByteBuffer := decimal k ++ [0]

theorem text_length {k : Nat} (fits : k < 2 ^ 31) : (text k).length ≤ 11 := by
  have := decimal_length fits
  rw [text, List.length_append, List.length_singleton]
  omega

theorem written_text (mem : ByteBuffer) (k : Nat) :
    store (store mem 0 (List.replicate ((decimal k).length + 1) 0)) 0 (decimal k) = store mem 0 (text k) := by
  simp only [store, List.take_zero, List.nil_append, Nat.zero_add, text, List.length_append, List.length_replicate,
    List.length_singleton, List.append_assoc]
  rw [List.drop_append_of_le_length (by simp)]
  simp [List.drop_replicate]

structure Open (c : Sender) : Prop where
  status : c.rc.status = .Ok
  localMr : c.rc.localMr.isSome
  remoteMr : c.rc.remoteMr.isSome
  windowed : c.rc.queue.Windowed
  size : c.rc.queue.maxSendWr = kRcMaxSendSz
  mem : 11 ≤ c.mem.length

structure Queued (c : Sender) (ahead sq : List SendWr) (cq : List SendWc) (unreaped : List SendWr) : Prop where
  ahead : c.ahead = ahead
  sq : c.rc.queue.sq = sq
  cq : c.rc.queue.cq = cq
  unreaped : c.rc.queue.unreaped = unreaped
  signaled : ∀ wr ∈ c.rc.queue.unreaped, wr.signaled = true

inductive At (msgCnt : U64) (k : Nat) (c : Sender) : Prop
  | loop (phase : c.phase = .loop) (i : c.i = k + 1) (sent : k ≤ msgCnt.toInt ⊔ 0) (queued : c.Queued [] [] [] [])
  | unsent (wr : SendWr) (phase : c.phase = .wait) (i : c.i = k + 1) (within : c.i ≤ msgCnt.toInt)
    (queued : c.Queued [wr] [wr] [] [wr]) (payload : c.gather wr = text (k + 1))
  | sent (wr : SendWr) (phase : c.phase = .wait) (i : c.i = k) (within : c.i ≤ msgCnt.toInt)
    (queued : c.Queued [] [wr] [] [wr])
  | done (wr : SendWr) (wc : SendWc) (phase : c.phase = .wait) (i : c.i = k) (within : c.i ≤ msgCnt.toInt)
    (queued : c.Queued [] [] [wc] [wr])
  | ended (phase : c.phase = .ended) (i : c.i = k + 1) (sent : k ≤ msgCnt.toInt ⊔ 0) (past : msgCnt.toInt < c.i)
    (queued : c.Queued [] [] [] [])

end Sender

namespace Sender

variable {c : Sender} {accepts k : Nat} {msgCnt : U64}

theorem At.of_loop (place : c.At msgCnt k) (phase : c.phase = .loop) : c.i = k + 1 ∧ c.Queued [] [] [] [] := by
  cases place with
  | loop _ i _ queued => exact ⟨i, queued⟩
  | unsent _ other | sent _ other | done _ _ other | ended other => cases phase.symm.trans other

theorem At.goesOn (place : c.At msgCnt k) : c.phase ≠ .aborted := by
  cases place with
  | loop phase | unsent _ phase | sent _ phase | done _ _ phase | ended phase => simp [phase]

theorem send_at (isOpen : c.Open) (i : c.i = k + 1) (within : c.i ≤ msgCnt.toInt)
    (int : c.i < 2 ^ 31) (queued : c.Queued [] [] [] []) (takes : c.Takes accepts) :
    (c.send accepts).Open ∧ (c.send accepts).At msgCnt k ∧ (c.send accepts).phase = .wait ∧
      (c.send accepts).i = c.i := by
  obtain ⟨localMr, bound⟩ := Option.isSome_iff_exists.mp isOpen.localMr
  obtain ⟨remoteMr, bound'⟩ := Option.isSome_iff_exists.mp isOpen.remoteMr
  have number : c.i.toNat = k + 1 := by omega
  have short := text_length (show k + 1 < 2 ^ 31 by omega)
  let desc : ReqDesc := { op := IBV_WR_SEND_WITH_IMM, flags := IBV_SEND_SIGNALED,
                          len := BitVec.ofNat 32 ((decimal (k + 1)).length + 1) }
  have room : c.rc.queue.unreaped.length < c.rc.queue.maxSendWr.toNat := by
    rw [queued.unreaped, isOpen.size]
    decide
  obtain ⟨wrId, rc', sent, queue, status, local', remote'⟩ := SendRC.sendNormalBound_fits desc { localAddr := c.buf }
    isOpen.status bound bound' isOpen.windowed takes room
  have outcome : c.send accepts = { c with
      mem := store c.mem 0 (text (k + 1))
      rc := rc'
      phase := .wait
      ahead := [desc.sendWr { localAddr := c.buf } localMr remoteMr wrId] } := by
    rw [send]
    simp only [number]
    rw [sent]
    simp only [written_text, queued.ahead, queue, SendQueue.took_posted]
    rfl
  have marks : signaled IBV_SEND_SIGNALED = true := by decide
  have inside : 0 + (text (k + 1)).length ≤ c.mem.length := by
    have := isOpen.mem
    omega
  have left : rc'.queue.unreaped = [desc.sendWr { localAddr := c.buf } localMr remoteMr wrId] := by
    rw [queue, isOpen.windowed.unreaped_took, queued.unreaped, List.nil_append]
  rw [outcome]
  refine ⟨⟨status.trans isOpen.status, by rw [local']; exact isOpen.localMr, by rw [remote']; exact isOpen.remoteMr,
    by rw [queue]; exact isOpen.windowed.took _, by rw [queue]; exact isOpen.size, ?_⟩, ?_, rfl, rfl⟩
  · rw [store_length _ _ _ inside]
    exact isOpen.mem
  · refine .unsent _ rfl i within ⟨rfl, ?_, ?_, left, ?_⟩ ?_
    · rw [queue, SendQueue.took_sq, queued.sq, List.nil_append]
    · rw [queue, SendQueue.took_cq, queued.cq]
    · intro wr member
      rw [left, List.mem_singleton] at member
      subst member
      exact marks
    · have length : (BitVec.ofNat 32 ((decimal (k + 1)).length + 1)).toNat = (text (k + 1)).length := by
        rw [BitVec.toNat_ofNat, text, List.length_append, List.length_singleton]
        rw [text, List.length_append, List.length_singleton] at short
        omega
      simp only [gather, ReqDesc.sendWr, desc, List.flatMap_cons, List.flatMap_nil, List.append_nil, BitVec.sub_self,
        length]
      exact slice_store _ _ _ inside

theorem wait_none {junk : SendWc} (empty : c.rc.queue.cq = []) : c.wait junk = c := by
  rw [wait, SendRC.pollSendComp_none rfl empty]
  rfl

theorem wait_done (junk : SendWc) {wr : SendWr} {wc : SendWc} (isOpen : c.Open) (i : c.i = k)
    (within : c.i ≤ msgCnt.toInt) (queued : c.Queued [] [] [wc] [wr]) :
    (c.wait junk).Open ∧ (c.wait junk).At msgCnt k ∧ (c.wait junk).phase = .loop := by
  have clean := isOpen.windowed.clean wc (by rw [queued.cq]; exact List.mem_singleton_self wc)
  have outcome : c.wait junk = { c with rc := c.rc.taken wc [], phase := .loop, i := c.i + 1 } := by
    rw [wait, SendRC.pollSendComp_some rfl queued.cq]
    simp [clean]
  have marked := queued.signaled wr (by rw [queued.unreaped]; exact List.mem_singleton_self wr)
  have left : (c.rc.taken wc []).queue.unreaped = [] := by
    have reaped : (c.rc.queue.polledOne wc []).unreaped = Reaping.left SendWr.signaled 1 c.rc.queue.unreaped :=
      SendQueue.Windowed.unreaped_polledOne _
    rw [queued.unreaped] at reaped
    refine reaped.trans ?_
    simp [Reaping.left, marked]
  rw [outcome]
  refine ⟨⟨isOpen.status, isOpen.localMr, isOpen.remoteMr, isOpen.windowed.polledOne queued.cq, isOpen.size,
    isOpen.mem⟩, .loop rfl (by rw [i]) (by omega) ⟨queued.ahead, queued.sq, rfl, left, ?_⟩, rfl⟩
  rw [left]
  simp

theorem acknowledged {wr : SendWr} (isOpen : c.Open) (queued : c.Queued [] [wr] [] [wr]) :
    ({ c with rc := c.rc.succeed 1 } : Sender).Open ∧
      ∃ wc, ({ c with rc := c.rc.succeed 1 } : Sender).Queued [] [] [wc] [wr] := by
  obtain ⟨windowed, same, rest⟩ := SendRC.succeed_windowed isOpen.windowed 1
  have marked := queued.signaled wr (by rw [queued.unreaped]; exact List.mem_singleton_self wr)
  have completed : (c.rc.succeed 1).queue.cq = [⟨wr.wrId, .IBV_WC_SUCCESS⟩] := by
    change (c.rc.queue.complete _).cq = _
    simp [SendQueue.complete, queued.sq, queued.cq, marked]
  refine ⟨⟨isOpen.status, isOpen.localMr, isOpen.remoteMr, windowed, ?_, isOpen.mem⟩, _,
    ⟨queued.ahead, ?_, completed, same.trans queued.unreaped, ?_⟩⟩
  · exact (SendRC.completes_advances _ _).maxSendWr.trans isOpen.size
  · rw [rest, queued.sq]
    rfl
  · rw [same]
    exact queued.signaled

end Sender

namespace RcOverflow

variable {N : Nat} [NeZero N] {msgCnt : U64} {s t : RcOverflow N} {lane : Lane N}

/-- What holds of both programs in every state, when `k` messages have arrived. -/
structure Inv (msgCnt : U64) (k : Nat) (s : RcOverflow N) (lane : Lane N) : Prop where
  sender : s.sender.Open
  place : s.sender.At msgCnt k
  receiver : s.receiver.Inv 0 msgCnt 11 lane
  numbers : lane.accepted.map (Receiver.seqOf 0) = (List.range k).map fun k => BitVec.ofNat 64 (k + 1)

namespace Inv

variable {k : Nat}

theorem arrived (inv : Inv msgCnt k s lane) : lane.accepted.length = k := by
  have lengths := congrArg List.length inv.numbers
  simpa using lengths

theorem posted (inv : Inv msgCnt k s lane) : s.posted = lane.rq.head? := by
  rw [RcOverflow.posted, inv.receiver.found, Option.bind_some]

theorem sent (inv : Inv msgCnt k s lane) :
    k ≤ msgCnt.toInt ⊔ 0 ∧ s.sender.i ≤ msgCnt.toInt ⊔ 0 + 1 ∧ k ≤ s.sender.i := by
  cases inv.place with
  | loop _ i sent | ended _ i sent => omega
  | unsent _ _ i within | sent _ _ i within | done _ _ _ i within => omega

theorem fits (inv : Inv msgCnt k s lane) (int : s.sender.i < 2 ^ 31) {wr : SendWr} {ahead : List SendWr}
    (waits : s.sender.ahead = wr :: ahead) :
    ahead = [] ∧ s.sender.gather wr = Sender.text (k + 1) ∧ k + 1 < 2 ^ 31 ∧ (k + 1 : Nat) ≤ msgCnt.toInt := by
  cases inv.place with
  | loop _ _ _ queued | sent _ _ _ _ queued | done _ _ _ _ _ queued | ended _ _ _ _ queued =>
    cases waits.symm.trans queued.ahead
  | unsent wr' _ i within queued payload =>
    cases waits.symm.trans queued.ahead
    exact ⟨rfl, payload, by omega, by omega⟩

theorem seq_text (old : ByteBuffer) (imm : U32) (fits : k < 2 ^ 31) :
    Receiver.seqOf 0 ⟨imm, store old 0 (Sender.text k)⟩ = BitVec.ofNat 64 k := by
  have content : store old 0 (Sender.text k) = decimal k ++ 0 :: old.drop (0 + (Sender.text k).length) := by
    simp [store, Sender.text]
  rw [Receiver.seqOf, List.drop_zero, content, atoi_decimal fits]
  exact BitVec.ofInt_natCast 64 k

theorem transmit (inv : Inv msgCnt k s lane) (int : s.sender.i < 2 ^ 31)
    (happens : s.step msgCnt .transmit = some t) :
    ∃ lane', Inv msgCnt (k + 1) t lane' ∧ t.sender = { s.sender with ahead := [] } ∧
      t.receiver.phase = s.receiver.phase := by
  cases waits : s.sender.ahead with
  | nil => simp [step, waits] at happens
  | cons wr ahead =>
    obtain ⟨rfl, payload, number, _⟩ := inv.fits int waits
    cases queue : lane.rq with
    | nil => simp [step, waits, inv.posted, queue] at happens
    | cons w rest =>
      simp only [step, waits, inv.posted, queue, List.head?_cons, Option.ite_none_right_eq_some,
        Option.map_eq_some_iff] at happens
      obtain ⟨_, recv, arrives, rfl⟩ := happens
      obtain ⟨lane', receiver, accepted⟩ := inv.receiver.arrive arrives
      refine ⟨lane', ⟨?_, ?_, receiver, ?_⟩, rfl, rfl⟩
      · obtain ⟨status, localMr, remoteMr, windowed, size, mem⟩ := inv.sender
        exact ⟨status, localMr, remoteMr, windowed, size, mem⟩
      · cases inv.place with
        | loop _ _ _ queued | sent _ _ _ _ queued | done _ _ _ _ _ queued | ended _ _ _ _ queued =>
          cases waits.symm.trans queued.ahead
        | unsent wr' phase i within queued _ =>
          exact .sent wr' phase (by rw [i, Nat.cast_succ]) within
            ⟨rfl, queued.sq, queued.cq, queued.unreaped, queued.signaled⟩
      · rw [accepted, List.map_append, inv.numbers, List.range_succ, List.map_append, payload]
        simp only [List.map_cons, List.map_nil]
        rw [seq_text _ _ number]

theorem transmits (inv : Inv msgCnt k s lane) (int : s.sender.i < 2 ^ 31) {wr : SendWr} (waits : s.sender.ahead = [wr])
    (room : lane.rq ≠ []) : ∃ t, s.step msgCnt .transmit = some t := by
  obtain ⟨_, payload, number, _⟩ := inv.fits int waits
  obtain ⟨w, rest, queue⟩ := List.exists_cons_of_ne_nil room
  have short : (s.sender.gather wr).length ≤ w.sge.length.toNat := by
    have large := inv.receiver.posted w (queue ▸ List.mem_cons_self)
    have := Sender.text_length number
    rw [payload]
    omega
  obtain ⟨recv, arrives⟩ : ∃ recv, s.receiver.recv.sweepStep (.arrive 0 ⟨wr.immData,
      store (s.receiver.recv.mem w.sge.addr) 0 (s.sender.gather wr)⟩) = some recv := by
    apply Option.isSome_iff_exists.mp
    simp [Receivers.sweepStep, inv.receiver.found, queue]
  apply Option.isSome_iff_exists.mp
  simp only [step, waits, inv.posted, queue, List.head?_cons, short, ↓reduceIte, arrives, Option.map_some,
    Option.isSome_some]

theorem acknowledge (inv : Inv msgCnt k s lane) (happens : s.step msgCnt .acknowledge = some t) :
    Inv msgCnt k t lane ∧ t.receiver = s.receiver ∧ t.sender.phase = .wait ∧ t.sender.i = s.sender.i ∧
      ∃ wr wc, t.sender.Queued [] [] [wc] [wr] := by
  simp only [step, Option.ite_none_right_eq_some, Option.some.injEq] at happens
  obtain ⟨under, rfl⟩ := happens
  cases inv.place with
  | loop _ _ _ queued | done _ _ _ _ _ queued | ended _ _ _ _ queued =>
    simp [queued.ahead, queued.sq] at under
  | unsent _ _ _ _ queued _ => simp [queued.ahead, queued.sq] at under
  | sent wr phase i within queued =>
    obtain ⟨isOpen, wc, queued'⟩ := Sender.acknowledged inv.sender queued
    exact ⟨⟨isOpen, .done wr wc phase i within queued', inv.receiver, inv.numbers⟩, rfl, phase, rfl, wr, wc, queued'⟩

theorem send (inv : Inv msgCnt k s lane) (int : s.sender.i < 2 ^ 31) {accepts : Nat} {junk : SendWc}
    (happens : s.step msgCnt (.send accepts junk) = some t) : Inv msgCnt k t lane ∧ t.receiver = s.receiver := by
  cases inv.place with
  | loop phase i sent queued =>
    simp only [step, phase] at happens
    split at happens
    · rename_i within
      simp only [Option.ite_none_right_eq_some, Option.some.injEq] at happens
      obtain ⟨takes, rfl⟩ := happens
      obtain ⟨isOpen, place, _⟩ := Sender.send_at inv.sender i within int queued takes
      exact ⟨⟨isOpen, place, inv.receiver, inv.numbers⟩, rfl⟩
    · rename_i past
      cases happens
      obtain ⟨status, localMr, remoteMr, windowed, size, mem⟩ := inv.sender
      exact ⟨⟨⟨status, localMr, remoteMr, windowed, size, mem⟩, .ended rfl i sent (Int.not_le.mp past)
        ⟨queued.ahead, queued.sq, queued.cq, queued.unreaped, queued.signaled⟩, inv.receiver, inv.numbers⟩, rfl⟩
  | ended phase => simp [step, phase] at happens
  | unsent _ phase _ _ queued | sent _ phase _ _ queued =>
    simp only [step, phase, Sender.wait_none queued.cq, Option.some.injEq] at happens
    exact ⟨happens ▸ inv, happens ▸ rfl⟩
  | done wr wc phase i within queued =>
    simp only [step, phase, Option.some.injEq] at happens
    subst happens
    obtain ⟨isOpen, place, _⟩ := Sender.wait_done junk inv.sender i within queued
    exact ⟨⟨isOpen, place, inv.receiver, inv.numbers⟩, rfl⟩

theorem receive (inv : Inv msgCnt k s lane) {count : Nat} (happens : s.step msgCnt (.receive count) = some t) :
    ∃ lane', Inv msgCnt k t lane' := by
  simp only [step, Option.map_eq_some_iff] at happens
  obtain ⟨receiver, steps, rfl⟩ := happens
  obtain ⟨lane', receiver', accepted⟩ := inv.receiver.step steps
  exact ⟨lane', inv.sender, inv.place, receiver', accepted ▸ inv.numbers⟩

theorem next (inv : Inv msgCnt k s lane) (int : s.sender.i < 2 ^ 31) {e : OverflowEvent}
    (happens : s.step msgCnt e = some t) : ∃ k' lane', Inv msgCnt k' t lane' := by
  cases e with
  | send accepts junk => exact ⟨k, lane, (inv.send int happens).1⟩
  | transmit =>
    obtain ⟨lane', inv', _⟩ := inv.transmit int happens
    exact ⟨k + 1, lane', inv'⟩
  | acknowledge => exact ⟨k, lane, (inv.acknowledge happens).1⟩
  | receive count =>
    obtain ⟨lane', inv'⟩ := inv.receive happens
    exact ⟨k, lane', inv'⟩

theorem seen (inv : Inv msgCnt k s lane) :
    lane.returned.length ≤ k ∧
      lane.returned.map (Receiver.seqOf 0) =
        (List.range lane.returned.length).map fun k => BitVec.ofNat 64 (k + 1) := by
  have arrived := inv.arrived
  have numbers := congrArg (List.take lane.returned.length) inv.numbers
  rw [inv.receiver.kept.data, List.length_append] at arrived
  rw [inv.receiver.kept.data, List.map_append, List.take_left' (List.length_map _), ← List.map_take, List.take_range,
    Nat.min_eq_left (by omega)] at numbers
  exact ⟨by omega, numbers⟩

theorem returned_all (inv : Inv msgCnt k s lane) (ended : s.receiver.phase = .returned) :
    (lane.returned.length : Int) = msgCnt.toInt ∧ s.receiver.recvCnt = msgCnt := by
  obtain ⟨front, m, split, reached, _⟩ := inv.receiver.ended ended
  obtain ⟨within, seen⟩ := inv.seen
  have sent := inv.sent.1
  have length : lane.returned.length = front.length + 1 := by rw [split]; simp
  rw [length, split, List.map_append, List.range_succ, List.map_append] at seen
  have last : Receiver.seqOf 0 m = BitVec.ofNat 64 (front.length + 1) :=
    List.singleton_inj.mp (List.append_inj_right seen (by simp))
  rw [last, BitVec.le_def, BitVec.toNat_ofNat] at reached
  have signed := BitVec.toInt_eq_toNat_cond msgCnt
  have count : msgCnt.toNat = front.length + 1 := by
    split at signed
    · omega
    · omega
  refine ⟨by rw [length]; split at signed <;> omega, ?_⟩
  rw [inv.receiver.counted, length, ← count, BitVec.ofNat_toNat, BitVec.setWidth_eq]

theorem returned_some (inv : Inv msgCnt k s lane) (ended : s.receiver.phase = .returned) : 1 ≤ msgCnt.toInt := by
  obtain ⟨front, m, split, _⟩ := inv.receiver.ended ended
  rw [← (inv.returned_all ended).1, split, List.length_append, List.length_singleton]
  omega

theorem short (inv : Inv msgCnt k s lane) (some : 1 ≤ msgCnt.toInt) (going : s.receiver.phase ≠ .returned) :
    (lane.returned.length : Int) < msgCnt.toInt := by
  by_contra long
  have signed : msgCnt.toInt = msgCnt.toNat := by
    have signed := BitVec.toInt_eq_toNat_cond msgCnt
    split at signed
    · exact signed
    · omega
  have last : msgCnt ∈ lane.returned.map (Receiver.seqOf 0) := by
    rw [inv.seen.2, List.mem_map]
    refine ⟨msgCnt.toNat - 1, ?_, ?_⟩
    · rw [List.mem_range]
      omega
    · have positive : msgCnt.toNat - 1 + 1 = msgCnt.toNat := by omega
      rw [positive, BitVec.ofNat_toNat, BitVec.setWidth_eq]
  obtain ⟨m, member, same⟩ := List.mem_map.mp last
  have below := inv.receiver.goesOn going m member
  rw [same] at below
  exact BitVec.lt_irrefl msgCnt below

end Inv

section Progress

variable {k : Nat}

theorem run_receive {counts : List Nat} {receiver : Receiver N}
    (ran : Run.run (Receiver.step 0 msgCnt) s.receiver counts = some receiver) :
    Run.run (step msgCnt) s (counts.map .receive) = some { s with receiver := receiver } := by
  induction counts generalizing s with
  | nil =>
    cases ran
    rfl
  | cons count counts ih =>
    obtain ⟨next, happens, rest⟩ := Option.bind_eq_some_iff.mp ran
    have first : s.step msgCnt (.receive count) = some { s with receiver := next } := by
      simp only [step, happens, Option.map_some]
    exact Run.run_cons first (ih rest)

theorem Inv.drain (inv : Inv msgCnt k s lane) (going : s.receiver.phase ≠ .returned) :
    ∃ es t lane', Run.run (step msgCnt) s es = some t ∧ Inv msgCnt k t lane' ∧ t.sender = s.sender ∧
      (t.receiver.phase = .returned ∨ t.receiver.phase = .poll ∧ t.receiver.recv.cq = []) := by
  obtain ⟨counts, receiver, lane', ran, receiver', accepted, outcome⟩ := inv.receiver.drains going
  exact ⟨counts.map .receive, _, lane', run_receive ran, ⟨inv.sender, inv.place, receiver', accepted ▸ inv.numbers⟩,
    rfl, outcome⟩

theorem Inv.finish_done (inv : Inv msgCnt k s lane) {wr : SendWr} {wc : SendWc} (phase : s.sender.phase = .wait)
    (i : s.sender.i = k) (within : s.sender.i ≤ msgCnt.toInt) (queued : s.sender.Queued [] [] [wc] [wr]) :
    ∃ es t, Run.run (step msgCnt) s es = some t ∧ Inv msgCnt k t lane ∧ t.sender.phase = .loop ∧
      t.sender.i = s.sender.i + 1 ∧ t.receiver = s.receiver := by
  obtain ⟨isOpen, place, loop⟩ := Sender.wait_done ⟨0, .IBV_WC_SUCCESS⟩ inv.sender i within queued
  refine ⟨[.send 0 ⟨0, .IBV_WC_SUCCESS⟩], { s with sender := s.sender.wait ⟨0, .IBV_WC_SUCCESS⟩ }, ?_,
    ⟨isOpen, place, inv.receiver, inv.numbers⟩, loop, ?_, rfl⟩
  · simp [Run.run, step, phase]
  · rw [i]
    exact (place.of_loop loop).1

theorem Inv.finish_sent (inv : Inv msgCnt k s lane) {wr : SendWr} (i : s.sender.i = k)
    (within : s.sender.i ≤ msgCnt.toInt) (queued : s.sender.Queued [] [wr] [] [wr]) :
    ∃ es t, Run.run (step msgCnt) s es = some t ∧ Inv msgCnt k t lane ∧ t.sender.phase = .loop ∧
      t.sender.i = s.sender.i + 1 ∧ t.receiver = s.receiver := by
  have happens : s.step msgCnt .acknowledge =
      some { s with sender := { s.sender with rc := s.sender.rc.succeed 1 } } := by
    simp [step, queued.ahead, queued.sq]
  obtain ⟨inv', same, phase, i', wr', wc, queued'⟩ := inv.acknowledge happens
  obtain ⟨es, t, ran, inv₂, loop, i₂, same₂⟩ := inv'.finish_done phase (i'.trans i) (i' ▸ within) queued'
  exact ⟨.acknowledge :: es, t, Run.run_cons happens ran, inv₂, loop, i₂, same₂⟩

theorem Inv.finish (inv : Inv msgCnt k s lane) (int : s.sender.i < 2 ^ 31) (phase : s.sender.phase = .wait)
    (room : lane.rq ≠ []) :
    ∃ es t k' lane', Run.run (step msgCnt) s es = some t ∧ Inv msgCnt k' t lane' ∧ t.sender.phase = .loop ∧
      t.sender.i = s.sender.i + 1 ∧ t.receiver.phase = s.receiver.phase := by
  cases inv.place with
  | loop other | ended other => cases phase.symm.trans other
  | done wr wc _ i within queued =>
    obtain ⟨es, t, ran, inv', loop, i', same⟩ := inv.finish_done phase i within queued
    exact ⟨es, t, k, lane, ran, inv', loop, i', congrArg Receiver.phase same⟩
  | sent wr _ i within queued =>
    obtain ⟨es, t, ran, inv', loop, i', same⟩ := inv.finish_sent i within queued
    exact ⟨es, t, k, lane, ran, inv', loop, i', congrArg Receiver.phase same⟩
  | unsent wr _ i within queued payload =>
    obtain ⟨t₁, happens⟩ := inv.transmits int queued.ahead room
    obtain ⟨lane', inv₁, sender, phase'⟩ := inv.transmit int happens
    have queued₁ : t₁.sender.Queued [] [wr] [] [wr] := by
      rw [sender]
      exact ⟨rfl, queued.sq, queued.cq, queued.unreaped, queued.signaled⟩
    have same : t₁.sender.i = s.sender.i := by rw [sender]
    obtain ⟨es, t, ran, inv', loop, i', same'⟩ :=
      inv₁.finish_sent (by rw [same, i, Nat.cast_succ]) (by rwa [same]) queued₁
    exact ⟨.transmit :: es, t, k + 1, lane', Run.run_cons happens ran, inv', loop, by rw [i', same],
      (congrArg Receiver.phase same').trans phase'⟩

theorem Inv.room (inv : Inv msgCnt k s lane) (poll : s.receiver.phase = .poll) (empty : s.receiver.recv.cq = []) :
    lane.rq ≠ [] := by
  have whole := (inv.receiver.drained poll empty).2
  exact List.ne_nil_of_length_pos (by rw [whole]; exact Nat.pos_of_neZero N)

structure Ready (msgCnt : U64) (k : Nat) (s : RcOverflow N) (lane : Lane N) : Prop extends Inv msgCnt k s lane where
  loop : s.sender.phase = .loop
  poll : s.receiver.phase = .poll
  empty : s.receiver.recv.cq = []

theorem Ready.round (ready : Ready msgCnt k s lane) (more : k < msgCnt.toInt) (int : k + 1 < 2 ^ 31) :
    ∃ es t lane', Run.run (step msgCnt) s es = some t ∧ Inv msgCnt (k + 1) t lane' ∧ t.sender.phase = .loop ∧
      (t.receiver.phase = .returned ∨ t.receiver.phase = .poll ∧ t.receiver.recv.cq = []) := by
  obtain ⟨i, queued⟩ := ready.place.of_loop ready.loop
  have takes : s.sender.Takes kRcMaxSendSz.toNat := by
    rw [Sender.Takes, ready.sender.size]
    exact Nat.le_add_right _ _
  have within : s.sender.i ≤ msgCnt.toInt := by omega
  obtain ⟨isOpen, place, phase, same⟩ := Sender.send_at ready.sender i within (by omega) queued takes
  have happens : s.step msgCnt (.send kRcMaxSendSz.toNat ⟨0, .IBV_WC_SUCCESS⟩) =
      some { s with sender := s.sender.send kRcMaxSendSz.toNat } := by
    simp only [step, ready.loop, within, takes, ↓reduceIte]
  have inv₁ : Inv msgCnt k { s with sender := s.sender.send kRcMaxSendSz.toNat } lane :=
    ⟨isOpen, place, ready.receiver, ready.numbers⟩
  have int₁ : (s.sender.send kRcMaxSendSz.toNat).i < 2 ^ 31 := by omega
  obtain ⟨es, t, k', lane₂, ran, inv₂, loop, i₂, poll⟩ := inv₁.finish int₁ phase (ready.room ready.poll ready.empty)
  have next : t.sender.i = (s.sender.send kRcMaxSendSz.toNat).i + 1 := i₂
  have sent := (inv₂.place.of_loop loop).1
  obtain rfl : k' = k + 1 := by omega
  have going : t.receiver.phase ≠ .returned := by
    rw [poll, ready.poll]
    simp
  obtain ⟨es', t', lane', ran', inv', sender, outcome⟩ := inv₂.drain going
  exact ⟨_, t', lane', Run.run_cons happens ((Run.run_append ran).trans ran'), inv', sender ▸ loop, outcome⟩

theorem Ready.rounds (ready : Ready msgCnt k s lane) {n : Nat} (more : k + n ≤ msgCnt.toInt) (int : k + n < 2 ^ 31) :
    ∃ es t lane', Run.run (step msgCnt) s es = some t ∧ Inv msgCnt (k + n) t lane' ∧ t.sender.phase = .loop ∧
      (t.receiver.phase = .returned ∨ t.receiver.phase = .poll ∧ t.receiver.recv.cq = []) := by
  induction n with
  | zero => exact ⟨[], s, lane, rfl, ready.toInv, ready.loop, .inr ⟨ready.poll, ready.empty⟩⟩
  | succ n ih =>
    obtain ⟨es, t, lane₁, ran, inv, loop, outcome⟩ := ih (by omega) (by omega)
    rcases outcome with returned | ⟨poll, empty⟩
    · -- it has seen fewer messages than it waits for
      have all := (inv.returned_all returned).1
      have seen := inv.seen.1
      omega
    · have ready₁ : Ready msgCnt (k + n) t lane₁ := ⟨inv, loop, poll, empty⟩
      obtain ⟨es', t', lane', ran', outcome⟩ := ready₁.round (by omega) (by omega)
      exact ⟨es ++ es', t', lane', (Run.run_append ran).trans ran', outcome⟩

theorem Ready.returns (ready : Ready msgCnt k s lane) (some' : 1 ≤ msgCnt.toInt) (small : msgCnt.toInt < 2 ^ 31) :
    ∃ es t, Run.run (step msgCnt) s es = some t ∧ t.receiver.phase = .returned := by
  obtain ⟨n, total⟩ : ∃ n : Nat, (k + n : Int) = msgCnt.toInt := by
    have sent := ready.sent.1
    exact ⟨(msgCnt.toInt - k).toNat, by omega⟩
  obtain ⟨es, t, lane', ran, inv, _, outcome⟩ := ready.rounds (by omega) (show k + n < 2 ^ 31 by omega)
  rcases outcome with returned | ⟨poll, empty⟩
  · exact ⟨es, t, ran, returned⟩
  · have short := inv.short some' (by simp [poll])
    rw [(inv.receiver.drained poll empty).1, inv.arrived] at short
    omega

theorem Inv.returns (inv : Inv msgCnt k s lane) (some' : 1 ≤ msgCnt.toInt) (small : msgCnt.toInt < 2 ^ 31 - 1) :
    ∃ es t, Run.run (step msgCnt) s es = some t ∧ t.receiver.phase = .returned := by
  by_cases returned : s.receiver.phase = .returned
  · exact ⟨[], s, rfl, returned⟩
  obtain ⟨es, t, lane₁, ran, inv₁, _, outcome⟩ := inv.drain returned
  rcases outcome with returned | ⟨poll, empty⟩
  · exact ⟨es, t, ran, returned⟩
  have later {es' u} (rest : Run.run (step msgCnt) t es' = some u) : Run.run (step msgCnt) s (es ++ es') = some u :=
    (Run.run_append ran).trans rest
  have bound := inv₁.sent.2.1
  cases place : t.sender.phase with
  | loop =>
    have ready : Ready msgCnt k t lane₁ := ⟨inv₁, place, poll, empty⟩
    obtain ⟨es', u, rest, returned⟩ := ready.returns some' (by omega)
    exact ⟨_, u, later rest, returned⟩
  | wait =>
    obtain ⟨es₂, u, k₂, lane₂, ran₂, inv₂, loop, _, poll₂⟩ := inv₁.finish (by omega) place (inv₁.room poll empty)
    obtain ⟨es₃, v, lane₃, ran₃, inv₃, sender, outcome⟩ := inv₂.drain (by simp [poll₂, poll])
    have there := later ((Run.run_append ran₂).trans ran₃)
    rcases outcome with returned | ⟨poll₃, empty₃⟩
    · exact ⟨_, v, there, returned⟩
    · have ready : Ready msgCnt k₂ v lane₃ := ⟨inv₃, sender ▸ loop, poll₃, empty₃⟩
      obtain ⟨es₄, w, rest, returned⟩ := ready.returns some' (by omega)
      exact ⟨_, w, (Run.run_append there).trans rest, returned⟩
  | ended =>
    have short := inv₁.short some' (by simp [poll])
    rw [(inv₁.receiver.drained poll empty).1, inv₁.arrived] at short
    cases inv₁.place with
    | loop other | unsent _ other | sent _ other | done _ _ other => cases place.symm.trans other
    | ended _ i _ past => omega
  | aborted => exact absurd place inv₁.place.goesOn

theorem Inv.int (inv : Inv msgCnt k s lane) (small : msgCnt.toInt < 2 ^ 31 - 1) : s.sender.i < 2 ^ 31 := by
  have bound := inv.sent.2.1
  omega

theorem keeps_inv (small : msgCnt.toInt < 2 ^ 31 - 1) :
    Preserves (step msgCnt) fun s : RcOverflow N => ∃ k lane, Inv msgCnt k s lane := by
  rintro s e t ⟨k, lane, inv⟩ happens
  exact inv.next (inv.int small) happens

theorem Inv.safe (inv : Inv msgCnt k s lane) (some' : 1 ≤ msgCnt.toInt) (small : msgCnt.toInt < 2 ^ 31 - 1) :
    Safe msgCnt s := by
  obtain ⟨within, numbers⟩ := inv.seen
  have behind := inv.sent.2.2
  have int := inv.int small
  have received := inv.receiver.received
  refine ⟨inv.place.goesOn, int, ?_, inv.receiver.cq_length, received ▸ numbers, received ▸ inv.receiver.counted, ?_,
    fun ended => (inv.returned_all ended).2, inv.returns some' small⟩
  · intro wr w waits first
    obtain ⟨ahead, rest⟩ := List.head?_eq_some_iff.mp waits
    obtain ⟨_, payload, number, _⟩ := inv.fits int rest
    rw [inv.posted] at first
    have large := inv.receiver.posted w (List.mem_of_mem_head? first)
    have := Sender.text_length number
    rw [payload]
    omega
  · rw [received]
    omega

end Progress

def connected (localMr remoteMr : RegAttr) (memory : Fin (1024 * 1024) → U8) (contents : U64 → ByteBuffer)
    (lane : Lane N) : RcOverflow N where
  sender :=
    { rc :=
        { status := .Ok, localMr := some localMr, remoteMr := some remoteMr
          queue := { maxSendWr := ({} : QPConfig).maxSendSize } }
      buf := localMr.buf
      mem := List.ofFn memory }
  receiver := { recv := { lanes := [lane], mem := contents } }

/-- Both programs in front of their loops, with `entry_num` 128 and messages of up to 4096 bytes. -/
def start (localMr remoteMr : RegAttr) (memory : Fin (1024 * 1024) → U8) (allocator : SimpleAllocator)
    (contents : U64 → ByteBuffer) : Option (RcOverflow 128) :=
  match (RecvEntriesFactoryv2.create 128 allocator 4096).1 with
  | .error _ => none
  | .ok entries => (Lane.create entries).map (connected localMr remoteMr memory contents)

theorem start_ready (localMr remoteMr : RegAttr) (memory : Fin (1024 * 1024) → U8) {allocator : SimpleAllocator}
    (contents : U64 → ByteBuffer) (fits : allocator.Fits) (enough : 128 * 4096 ≤ allocator.totalMem.toNat)
    (msgCnt : U64) :
    ∃ s lane, start localMr remoteMr memory allocator contents = some s ∧ Ready msgCnt 0 s lane := by
  have size : (4096 : U32).toNat = 4096 := rfl
  obtain ⟨entries, built, ready, distinct, sized⟩ : ∃ entries,
      (RecvEntriesFactoryv2.create 128 allocator 4096).1 = .ok entries ∧ entries.Ready ∧
        Function.Injective entries.buffer ∧ ∀ i, (entries.wqe i).sge.length = 4096 :=
    create_entries fits enough (by decide)
  have large : ∀ i, 11 ≤ (entries.wqe i).sge.length.toNat := by
    intro i
    rw [sized, size]
    omega
  have started : start localMr remoteMr memory allocator contents =
      some (connected localMr remoteMr memory contents (Lane.new entries)) := by
    rw [start, built]
    simp only [Lane.create_ready ready, Option.map_some]
  refine ⟨_, Lane.new entries, started, ⟨⟨?_, ?_, Receiver.armed ready distinct large contents, rfl⟩, rfl, rfl, rfl⟩⟩
  · refine ⟨rfl, rfl, rfl, ⟨⟨[], rfl, rfl⟩, Nat.le_refl _, nofun⟩, rfl, ?_⟩
    simp only [connected, List.length_ofFn]
    decide
  · exact .loop rfl rfl (Int.le_max_right _ _) ⟨rfl, rfl, rfl, rfl, nofun⟩

end RcOverflow

/-- The server counts every message of the client once, in order, whenever the NICs bring them over. With a larger
    `msg_cnt` the client's `int` overflows, and with none to send the server never returns. -/
theorem rcOverflow_counts_iff (localMr remoteMr : RegAttr) (memory : Fin (1024 * 1024) → U8) (mem : U64) (key : U32)
    (contents : U64 → ByteBuffer) (msgCnt : U64) (inside : mem.toNat + 16 * 1024 * 1024 < 2 ^ 64) :
    ∃ s, RcOverflow.start localMr remoteMr memory ⟨mem, 16 * 1024 * 1024, key⟩ contents = some s ∧
      ((∀ es, Throughout (RcOverflow.step msgCnt) (RcOverflow.Safe msgCnt) s es) ↔
        1 ≤ msgCnt.toInt ∧ msgCnt.toInt < 2 ^ 31 - 1) := by
  have fits : SimpleAllocator.Fits ⟨mem, 16 * 1024 * 1024, key⟩ := inside
  have enough : 128 * 4096 ≤ (16 * 1024 * 1024 : U32).toNat := by decide
  obtain ⟨s, lane, started, ready⟩ :=
    RcOverflow.start_ready localMr remoteMr memory contents fits enough msgCnt
  refine ⟨s, started, ?_⟩
  constructor
  · intro safe
    have small : msgCnt.toInt < 2 ^ 31 - 1 := by
      by_contra large
      -- one message after the other, until the next pass would be the one with `2 ^ 31`
      obtain ⟨es, t, lane', ran, inv, loop, _⟩ := ready.rounds (n := 2 ^ 31 - 1) (by omega) (by omega)
      have int := ((safe es).run ran).int
      have i := (inv.place.of_loop loop).1
      omega
    obtain ⟨es, t, ran, returned⟩ := ((safe []).run rfl).returns
    obtain ⟨k, lane', inv⟩ := (RcOverflow.keeps_inv small).run ⟨0, lane, ready.toInv⟩ ran
    exact ⟨inv.returned_some returned, small⟩
  · intro ⟨some', small⟩ es
    apply (RcOverflow.keeps_inv small).throughout
    · rintro s ⟨k, lane, inv⟩
      exact inv.safe some' small
    · exact ⟨0, lane, ready.toInv⟩

theorem rcOverflow_counts_tenThousand :
    ∃ s, RcOverflow.start ⟨4096, 64, 1, 2⟩ ⟨8192, 64, 3, 4⟩ (fun _ => 0) ⟨65536, 16 * 1024 * 1024, 5⟩ (fun _ => []) =
      some s ∧ ∀ es, Throughout (RcOverflow.step 10000) (RcOverflow.Safe 10000) s es := by
  obtain ⟨s, started, counts⟩ := rcOverflow_counts_iff ⟨4096, 64, 1, 2⟩ ⟨8192, 64, 3, 4⟩ (fun _ => 0) 65536 5
    (fun _ => []) 10000 (by decide)
  exact ⟨s, started, counts.mpr ⟨by decide, by decide⟩⟩

end RLib.Examples
