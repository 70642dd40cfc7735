import FrameReplay.Engine.Basic

/-!
# The life of an engine

What happens to an engine, written down call by call: starts, shutdowns and collections from
outside, and the turns that its workers take meanwhile, in any order. A refused start changes
nothing.
-/

namespace FrameReplay

/-- Something that happens to an engine. -/
inductive EngineCall where
  /-- Workers are started on a seed. -/
  | start (seed : ByteArray)
  /-- The worker at a place takes a turn. -/
  | turn (place : Nat)
  /-- No worker may begin another turn. -/
  | shutdown
  /-- The workers finish and are collected. -/
  | wait
  /-- The workers are stopped and collected. -/
  | stop

/-- What an engine answers to a call. -/
inductive EngineAnswer (σ : Type) where
  | done
  | refused (error : EngineError)
  | collected (workers : List (Worker σ))

namespace Engine

variable {σ : Type} [TxSink σ]

/-- Carries out one call; workers that are started get their sinks from `makeSink`. -/
def call (makeSink : ContextId → σ) (engine : Engine σ) : EngineCall → EngineAnswer σ × Engine σ
  | .start seed =>
    match engine.start seed makeSink with
    | .ok next => (.done, next)
    | .error error => (.refused error, engine)
  | .turn place => (.done, engine.turn place)
  | .shutdown => (.done, engine.shutdown)
  | .wait =>
    let (workers, next) := engine.collect
    (.collected workers, next)
  | .stop =>
    let (workers, next) := engine.stop
    (.collected workers, next)

/-- The engine after calls one after the other. -/
def after (makeSink : ContextId → σ) (engine : Engine σ) (calls : List EngineCall) : Engine σ :=
  calls.foldl (fun engine call => (engine.call makeSink call).2) engine

@[simp] theorem after_nil (makeSink : ContextId → σ) (engine : Engine σ) :
    engine.after makeSink [] = engine := rfl

@[simp] theorem after_cons (makeSink : ContextId → σ) (engine : Engine σ) (call : EngineCall)
    (calls : List EngineCall) :
    engine.after makeSink (call :: calls) =
      (engine.call makeSink call).2.after makeSink calls := rfl

theorem after_append (makeSink : ContextId → σ) (engine : Engine σ)
    (early late : List EngineCall) :
    engine.after makeSink (early ++ late) =
      (engine.after makeSink early).after makeSink late :=
  List.foldl_append

end Engine

end FrameReplay
