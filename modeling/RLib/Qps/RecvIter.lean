import RLib.Foundation.Run
import RLib.Qps.Recv

namespace RLib.Qps

/-- `RecvIter<QP, es>`, with what its three pointers point to as names. -/
structure RecvIter (Q E W : Type) where
  qp : Option Q := none
  entries : Option E := none
  wcs : Option W := none
  idx : Int := 0
  totalMsgs : Int := -1
deriving DecidableEq

namespace RecvIter

variable {Q E W : Type}

/-- `RecvIter(qp, e)`, whose `ibv_poll_cq` returned `polled`. -/
def make (qp : Q) (e : E) (wcs : W) (polled : Int) : RecvIter Q E W := ⟨some qp, some e, some wcs, 0, polled⟩

def hasMsgs (it : RecvIter Q E W) : Bool := it.idx < it.totalMsgs

/-- `cur_msg`: the immediate data and the buffer of the completion at `idx`. -/
def curMsg (it : RecvIter Q E W) (read : W → Int → Option Wc) : Option (U32 × U64) :=
  if it.hasMsgs then (it.wcs.bind (fun wcs => read wcs it.idx)).map (fun wc => (wc.immData, wc.wrId)) else none

def next (it : RecvIter Q E W) : RecvIter Q E W := { it with idx := it.idx + 1 }

def setMeta (it : RecvIter Q E W) (qp : Q) (e : E) (wcs : W) : RecvIter Q E W :=
  { it with entries := some e, qp := some qp, wcs := some wcs }

/-- `begin(qp, wcs)`, whose `ibv_poll_cq` returned `polled`; neither argument is kept. -/
def begin (it : RecvIter Q E W) (polled : Int) : RecvIter Q E W := { it with totalMsgs := polled, idx := 0 }

def reposts (it : RecvIter Q E W) : Option (Q × E × Int) :=
  match it.qp, it.entries with
  | some qp, some e => if 0 < it.totalMsgs then some (qp, e, it.totalMsgs) else none
  | _, _ => none

end RecvIter

structure Message where
  immData : U32
  bytes : ByteBuffer
deriving DecidableEq

/-- A completion in a receive CQ, and the QP whose buffer it completes. -/
structure Completion where
  lane : Nat
  wc : Wc
deriving DecidableEq

/-- A QP that receives, with its entries, its receive queue and the iterator that sweeps it, if one does. -/
structure Lane (N : Nat) [NeZero N] where
  entries : RecvEntries N
  rq : List RecvWqe
  iter : Option (RecvIter Unit Unit Unit) := none
  /-- what the device took a buffer for, and what `cur_msg` gave with the contents of the buffer then -/
  accepted : List Message := []
  returned : List Message := []

structure Receivers (N : Nat) [NeZero N] where
  lanes : List (Lane N) := []
  cq : List Completion := []
  mem : U64 → ByteBuffer := fun _ => []

inductive SweepEvent where
  /-- the device consumes the first posted buffer of a QP for a message -/
  | arrive (i : Nat) (msg : Message)
  /-- a `RecvIter` for a QP is constructed, and its poll returns `count` completions -/
  | begin (i : Nat) (count : Nat)
  | deliver (i : Nat)
  | finish (i : Nat)
deriving DecidableEq

section

variable {N : Nat} [NeZero N]

namespace RecvEntries

def buffer (r : RecvEntries N) (i : Fin N) : U64 := (r.rs i).wrId

/-- `wcs` after `ibv_poll_cq` wrote the polled completions to its front. -/
def poll (r : RecvEntries N) (polled : List Completion) : RecvEntries N :=
  { r with wcs := fun n => (polled[(n : Nat)]?).elim (r.wcs n) Completion.wc }

def wcAt (r : RecvEntries N) (n : Int) : Option Wc :=
  if inside : 0 ≤ n ∧ n < N then some (r.wcs ⟨n.toNat, by omega⟩) else none

end RecvEntries

def Lane.create (entries : RecvEntries N) : Option (Lane N) :=
  match postRecvs entries N some with
  | .ok (some rq, entries) => some { entries := entries, rq := rq }
  | _ => none

/-- The destructor of the lane's iterator: `clear`, whose post is accepted. -/
def Lane.clear (lane : Lane N) (it : RecvIter Unit Unit Unit) : Option (Lane N) :=
  match it.reposts with
  | none => some { lane with iter := none }
  | some (_, _, num) =>
    match postRecvs lane.entries num (fun wqes => some (lane.rq ++ wqes)) with
    | .ok (some rq, entries) => some { lane with entries := entries, rq := rq, iter := none }
    | _ => none

namespace Receivers

def setLane (s : Receivers N) (i : Nat) (lane : Lane N) : Receivers N := { s with lanes := s.lanes.set i lane }

/-- One event; messages for a QP without a posted buffer are not accepted. -/
def sweepStep (s : Receivers N) (e : SweepEvent) : Option (Receivers N) :=
  match e with
  | .arrive i msg =>
    match s.lanes[i]? with
    | none => none
    | some lane =>
      match lane.rq with
      | [] => none
      | w :: rest =>
        some { s.setLane i { lane with rq := rest, accepted := lane.accepted ++ [msg] } with
          cq := s.cq ++ [⟨i, ⟨w.wrId, msg.immData⟩⟩]
          mem := Function.update s.mem w.sge.addr msg.bytes }
  | .begin i count =>
    match s.lanes[i]? with
    | none => none
    | some lane =>
      if lane.iter.isNone ∧ count ≤ N ∧ count ≤ s.cq.length then
        some { s.setLane i { lane with
            entries := lane.entries.poll (s.cq.take count)
            iter := some (.make () () () count) } with
          cq := s.cq.drop count }
      else none
  | .deliver i =>
    match s.lanes[i]? with
    | none => none
    | some lane =>
      match lane.iter with
      | none => none
      | some it =>
        match it.curMsg (fun _ => lane.entries.wcAt) with
        | none => none
        | some (imm, buf) =>
          some (s.setLane i { lane with iter := some it.next, returned := lane.returned ++ [⟨imm, s.mem buf⟩] })
  | .finish i =>
    match s.lanes[i]? with
    | none => none
    | some lane =>
      match lane.iter with
      | none => none
      | some it => if it.hasMsgs then none else (lane.clear it).map (s.setLane i)

end Receivers

end

end RLib.Qps
