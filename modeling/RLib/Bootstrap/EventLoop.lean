import RLib.Bootstrap.SRpc

namespace RLib.Bootstrap

open Bytes SRpcHandler

/-- What one `try_recv` finds: nothing in time, a failing call, or a datagram and who sent it. -/
inductive Poll (α : Type) where
  | timeout
  | failure
  | datagram (sender : α) (d : ByteBuffer)
deriving DecidableEq

structure RecvChannel (α : Type) where
  curMsgClient : Option α := none
  curMsg : ByteBuffer
  full : curMsg.length = kMaxMsgSz

namespace RecvChannel

variable {α : Type}

def create : RecvChannel α where
  curMsg := List.replicate kMaxMsgSz 0
  full := List.length_replicate

def hasMsg (ch : RecvChannel α) : Bool := ch.curMsgClient.isSome

/-- `try_recv` into `cur_msg`, which drops the length of what it received. -/
def tryRecv (ch : RecvChannel α) : Poll α → RecvChannel α
  | .datagram sender d =>
    { curMsgClient := some sender, curMsg := overlay d ch.curMsg, full := by rw [overlay_length, ch.full] }
  | _ => ch

/-- `start` on what is about to arrive, with what is left of it; nothing left is a timeout. -/
def start (ch : RecvChannel α) : List (Poll α) → RecvChannel α × List (Poll α)
  | [] => (ch, [])
  | poll :: rest => if ch.hasMsg then (ch, poll :: rest) else (ch.tryRecv poll, rest)

/-- The first half of `next`. -/
def reset (ch : RecvChannel α) : RecvChannel α := { ch with curMsgClient := none }

end RecvChannel

/-- A run of the event loop: what each pass did and for whom, and what it leaves. It is `stopped` by
    an exit that leaves the loop itself. -/
structure LoopRun (α σ : Type) where
  served : List (α × Served)
  channel : RecvChannel α
  state : σ
  stopped : Option Exit

namespace LoopRun

variable {α σ : Type}

/-- The return value of `run_one_event_loop`. -/
def count (run : LoopRun α σ) : Nat := run.served.length

/-- All of a run but the bytes that stay in the receive buffer. -/
def visible (run : LoopRun α σ) : List (α × Served) × σ × Option Exit := (run.served, run.state, run.stopped)

def after (done : α × Served) (run : LoopRun α σ) : LoopRun α σ := { run with served := done :: run.served }

end LoopRun

namespace SRpcHandler

variable {α σ : Type}

/-- One test of `has_msg` with the loop body behind it; `continue'` is the rest of the loop. -/
def pass (growth : StringGrowth) (handlers : RegisteredHandlers σ) (ch : RecvChannel α) (s : σ)
    (continue' : RecvChannel α → σ → LoopRun α σ) : LoopRun α σ :=
  match ch.curMsgClient with
  | none => ⟨[], ch, s, none⟩
  | some client =>
    match serve growth handlers ch.curMsg s with
    | (.error e, s') => ⟨[], ch, s', some e⟩
    | (.ok served, s') => (continue' ch.reset s').after (client, served)

def eventLoop (growth : StringGrowth) (handlers : RegisteredHandlers σ) :
    List (Poll α) → RecvChannel α → σ → LoopRun α σ
  | [], ch, s => pass growth handlers ch s (fun ch s => ⟨[], ch, s, none⟩)
  | poll :: rest, ch, s =>
    pass growth handlers ch s (fun ch s => eventLoop growth handlers rest (ch.tryRecv poll) s)

/-- `run_one_event_loop` with what its `try_recv` calls find. -/
def runOneEventLoop (growth : StringGrowth) (handlers : RegisteredHandlers σ) (ch : RecvChannel α) (s : σ)
    (polls : List (Poll α)) : LoopRun α σ :=
  eventLoop growth handlers (ch.start polls).2 (ch.start polls).1 s

theorem runOneEventLoop_datagram (growth : StringGrowth) (handlers : RegisteredHandlers σ) (ch : RecvChannel α)
    (s : σ) (sender : α) (d : ByteBuffer) (idle : ch.curMsgClient = none) :
    (runOneEventLoop growth handlers ch s [.datagram sender d]).visible =
      match serve growth handlers (overlay d ch.curMsg) s with
      | (.error e, s') => ([], s', some e)
      | (.ok served, s') => ([(sender, served)], s', none) := by
  have received : ch.start [.datagram sender d] = (ch.tryRecv (.datagram sender d), []) := by
    simp only [RecvChannel.start, RecvChannel.hasMsg, idle, Option.isSome_none, Bool.false_eq_true, ↓reduceIte]
  rw [runOneEventLoop, received, eventLoop, pass]
  simp only [RecvChannel.tryRecv]
  rcases outcome : serve growth handlers (overlay d ch.curMsg) s with ⟨served | e, s'⟩
  · rfl
  · rfl

end SRpcHandler

end RLib.Bootstrap
