import FrameReplay.Engine.Config
import FrameReplay.Engine.Worker

/-!
# The transmit engine

An engine starts one worker per context and collects them again. Between the start and the
collection every worker takes turns in an order that nobody chooses; `Engine.turns` takes any order.
A shutdown lets no worker begin another turn, and collecting a running engine lets every worker
finish first.
-/

namespace FrameReplay

/-- Why an engine cannot be made or started. -/
inductive EngineError where
  /-- Workers of an earlier start were not collected yet. -/
  | alreadyRunning
  | config (cause : EngineConfigError)
  /-- The seed does not fit a worker's buffer. -/
  | seedTooLarge (length : Nat)
  deriving DecidableEq, Repr

def EngineError.message : EngineError → String
  | .alreadyRunning => "engine already running"
  | .config cause => s!"configuration error: {cause.message}"
  | .seedTooLarge length => s!"seed frame of {length} bytes exceeds buffer room of {seedRoom}"

structure Engine (σ : Type) where
  config : EngineConfig
  transmitter : Transmitter
  /-- Whether workers may begin another turn. -/
  running : Bool
  /-- The workers that were started and not collected yet. -/
  workers : List (Worker σ)
  /-- The frame that the workers replay. -/
  seed : ByteArray

namespace Engine

variable {σ : Type}

/-- An engine over a table, with cursors and statistics for its contexts. -/
def make (config : EngineConfig) (table : TemplateTable) : Except EngineError (Engine σ) :=
  match config.validate with
  | .error cause => .error (.config cause)
  | .ok () =>
    .ok ⟨config, Transmitter.forContexts table config.contexts.toNat, false, [], ByteArray.empty⟩

/-- The worker of each context before its first turn. -/
def crew (config : EngineConfig) (makeSink : ContextId → σ) : List (Worker σ) :=
  config.shares.mapIdx fun i share =>
    let ctx := ContextId.ofIndex i
    ⟨ctx, share.toNat, 0, PacketBuffer.empty, makeSink ctx⟩

/-- Why a start is refused, if it is. -/
def refusal? (engine : Engine σ) (seed : ByteArray) : Option EngineError :=
  if engine.running ∨ !engine.workers.isEmpty then some .alreadyRunning
  else if seedRoom < seed.size then some (.seedTooLarge seed.size)
  else none

/-- Starts one worker per context. The sinks are asked for one after the other, which may have any
effect, and not at all if the start is refused. -/
def startM {m : Type → Type} [Monad m] (engine : Engine σ) (seed : ByteArray)
    (makeSink : ContextId → m σ) : m (Except EngineError (Engine σ)) :=
  match engine.refusal? seed with
  | some error => pure (.error error)
  | none => do
    let workers ← (crew engine.config fun _ => ()).mapM fun worker =>
      worker.equip <$> makeSink worker.ctx
    pure (.ok { engine with running := true, workers, seed })

/-- Starts one worker per context with sinks that are made without effects. -/
def start (engine : Engine σ) (seed : ByteArray) (makeSink : ContextId → σ) :
    Except EngineError (Engine σ) :=
  (engine.startM seed fun ctx => (pure (makeSink ctx) : Id σ)).run

theorem map_equip_crew (config : EngineConfig) (makeSink : ContextId → σ) :
    (crew config fun _ => ()).map (fun worker => worker.equip (makeSink worker.ctx)) =
      crew config makeSink := by
  apply List.ext_getElem?
  intro i
  unfold crew
  rw [List.getElem?_map, List.getElem?_mapIdx, List.getElem?_mapIdx, Option.map_map]
  rfl

theorem start_eq (engine : Engine σ) (seed : ByteArray) (makeSink : ContextId → σ) :
    engine.start seed makeSink =
      match engine.refusal? seed with
      | some error => .error error
      | none =>
        .ok { engine with running := true, workers := crew engine.config makeSink, seed } := by
  unfold start startM
  cases engine.refusal? seed with
  | some error => rfl
  | none =>
    simp only [map_pure, List.mapM_pure, pure_bind, Id.run_pure, map_equip_crew]

/-- Lets no worker begin another turn. -/
def shutdown (engine : Engine σ) : Engine σ := { engine with running := false }

variable [TxSink σ]

/-- One turn of the worker at a place, if the engine runs. -/
def turn (engine : Engine σ) (place : Nat) : Engine σ :=
  if engine.running then
    match engine.workers[place]? with
    | none => engine
    | some worker =>
      let (transmitter, worker) := worker.turn engine.seed engine.transmitter
      { engine with transmitter, workers := engine.workers.set place worker }
  else engine

/-- Turns one after the other, of the workers at the places that a schedule names. -/
def turns (engine : Engine σ) (schedule : List Nat) : Engine σ := schedule.foldl turn engine

/-- Lets workers finish one after the other. -/
def finishAll (seed : ByteArray) : Transmitter → List (Worker σ) → Transmitter × List (Worker σ)
  | transmitter, [] => (transmitter, [])
  | transmitter, worker :: rest =>
    let (transmitter, worker) := worker.finish seed transmitter
    let (transmitter, rest) := finishAll seed transmitter rest
    (transmitter, worker :: rest)

/-- Collects the workers; those of a running engine finish first. Gives the workers as they ended
and the engine without them. -/
def collect (engine : Engine σ) : List (Worker σ) × Engine σ :=
  let (transmitter, workers) :=
    if engine.running then finishAll engine.seed engine.transmitter engine.workers
    else (engine.transmitter, engine.workers)
  (workers, { engine with transmitter, running := false, workers := [] })

/-- Stops the workers where they are and collects them. -/
def stop (engine : Engine σ) : List (Worker σ) × Engine σ := engine.shutdown.collect

end Engine

end FrameReplay
