import FrameReplay.Buffer.Packet
import FrameReplay.Control

/-!
# Workers

A worker replays one frame, the seed, as the received traffic of its context. In every turn it
loads the seed, lets the transmitter process it, and hands a frame that was forwarded to its sink; a
frame that was given up is counted. Workers share the transmitter, so a turn takes it and gives it
back.
-/

namespace FrameReplay

class TxSink (σ : Type) where
  transmit : σ → ByteArray → σ

/-- The sink that keeps nothing. -/
instance : TxSink Unit where
  transmit _ _ := ()

/-- The sink that keeps every frame, in the order of sending. -/
instance : TxSink (Array ByteArray) where
  transmit frames frame := frames.push frame

structure Worker (σ : Type) where
  ctx : ContextId
  remaining : Nat
  done : Nat
  buffer : PacketBuffer
  sink : σ

namespace Worker

variable {σ : Type}

/-- A worker that has no sink yet, with its sink. -/
def equip (worker : Worker Unit) (sink : σ) : Worker σ :=
  ⟨worker.ctx, worker.remaining, worker.done, worker.buffer, sink⟩

variable [TxSink σ]

/-- One turn; nothing happens if no turn is left. A seed that does not fit the buffer ends the
worker. -/
def turn (seed : ByteArray) (transmitter : Transmitter) (worker : Worker σ) :
    Transmitter × Worker σ :=
  let ⟨ctx, remaining, done, buffer, sink⟩ := worker
  match remaining with
  | 0 => (transmitter, ⟨ctx, 0, done, buffer, sink⟩)
  | remaining + 1 =>
    match buffer.load seed with
    | .error _ => (transmitter, ⟨ctx, 0, done, buffer, sink⟩)
    | .ok buffer =>
      match transmitter.tryProcess ctx buffer with
      | ⟨.ok _, transmitter, buffer⟩ =>
        let sink := TxSink.transmit sink (FrameBuffer.frame buffer)
        (transmitter, ⟨ctx, remaining, done + 1, buffer, sink⟩)
      | ⟨.error _, transmitter, buffer⟩ =>
        (transmitter.recordAbort ctx, ⟨ctx, remaining, done + 1, buffer, sink⟩)

/-- A number of turns one after the other. -/
def turns (seed : ByteArray) : Nat → Transmitter → Worker σ → Transmitter × Worker σ
  | 0, transmitter, worker => (transmitter, worker)
  | n + 1, transmitter, worker =>
    let (transmitter, worker) := worker.turn seed transmitter
    turns seed n transmitter worker

/-- All turns that are left. -/
def finish (seed : ByteArray) (transmitter : Transmitter) (worker : Worker σ) :
    Transmitter × Worker σ :=
  turns seed worker.remaining transmitter worker

end Worker

end FrameReplay
