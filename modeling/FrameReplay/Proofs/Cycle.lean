import FrameReplay.Proofs.Underway

/-!
# Cycles of an engine

A cycle begins with a start, goes on with turns, shutdowns and refused starts in any order, and
ends when the workers are collected.  Between the start and the end the engine is underway
(`Underway.after`), at the end it is at rest again (`Idle.cycle`), and the next cycle goes on where
this one ended.
-/

namespace FrameReplay

/-- Whether a call collects the workers. -/
def EngineCall.collects : EngineCall → Bool
  | .wait | .stop => true
  | _ => false

/-- What happens to an engine from a start to the next collection. -/
structure Cycle where
  seed : ByteArray
  meanwhile : List EngineCall
  last : EngineCall
  fits : seed.size ≤ seedRoom
  stays : ∀ call ∈ meanwhile, call.collects = false
  ends : last.collects = true

/-- No worker is kept from any of its turns. -/
def Cycle.Whole (cycle : Cycle) : Prop := cycle.last = .wait ∧ .shutdown ∉ cycle.meanwhile

namespace Engine

variable {σ : Type} [TxSink σ]

/-- The workers as a cycle leaves them, and the engine without them. -/
def cycle (makeSink : ContextId → σ) (engine : Engine σ) (cycle : Cycle) :
    List (Worker σ) × Engine σ :=
  match (engine.after makeSink (.start cycle.seed :: cycle.meanwhile)).call makeSink cycle.last with
  | (.collected workers, next) => (workers, next)
  | (_, next) => ([], next)

/-- The workers of every cycle, and the engine after the last one. -/
def cycles (makeSink : ContextId → σ) : Engine σ → List Cycle → List (List (Worker σ)) × Engine σ
  | engine, [] => ([], engine)
  | engine, cycle :: rest =>
    let (workers, next) := engine.cycle makeSink cycle
    let (later, final) := cycles makeSink next rest
    (workers :: later, final)

variable {before engine : Engine σ} {makeSink : ContextId → σ}

/-! ## Calls in the midst of a cycle -/

omit [TxSink σ] in
/-- An engine with workers refuses every start. -/
theorem refusal?_of_workers {engine : Engine σ} (h : engine.workers ≠ []) (seed : ByteArray) :
    engine.refusal? seed = some .alreadyRunning :=
  if_pos (.inr (by simp [h]))

theorem call_start_of_workers (h : engine.workers ≠ []) (seed : ByteArray) :
    engine.call makeSink (.start seed) = (.refused .alreadyRunning, engine) := by
  have refused : engine.start seed makeSink = .error .alreadyRunning := by
    rw [start_eq, refusal?_of_workers h]
  unfold call
  simp only [refused]

theorem Underway.workers_ne_nil (h : Underway before makeSink engine) (idle : before.Idle) :
    engine.workers ≠ [] := by
  intro none
  have pos := EngineConfig.contexts_pos idle.valid
  rw [← h.crew, none] at pos
  exact Nat.lt_irrefl 0 pos

/-- A call that does not collect the workers leaves the engine underway. -/
theorem Underway.call (h : Underway before makeSink engine) (idle : before.Idle)
    (few : before.config.contexts.toNat ≤ UInt32.size) (call : EngineCall)
    (stays : call.collects = false) :
    Underway before makeSink (engine.call makeSink call).2 := by
  cases call with
  | start seed =>
    rw [call_start_of_workers (h.workers_ne_nil idle)]
    exact h
  | turn place => exact h.turn idle few place
  | shutdown => exact ⟨h.config, h.shape, h.seed, h.crew, h.posted⟩
  | wait => cases stays
  | stop => cases stays

/-- Of the calls that do not collect the workers only a shutdown ends the running. -/
theorem Underway.running_call (h : Underway before makeSink engine) (idle : before.Idle)
    {call : EngineCall} (stays : call.collects = false) (runs : call ≠ .shutdown) :
    (engine.call makeSink call).2.running = engine.running := by
  cases call with
  | start seed =>
    rw [call_start_of_workers (h.workers_ne_nil idle)]
  | turn place => exact running_turn engine place
  | shutdown => exact absurd rfl runs
  | wait => cases stays
  | stop => cases stays

theorem Underway.after (h : Underway before makeSink engine) (idle : before.Idle)
    (few : before.config.contexts.toNat ≤ UInt32.size) {calls : List EngineCall}
    (stays : ∀ call ∈ calls, call.collects = false) :
    Underway before makeSink (engine.after makeSink calls) ∧
    (.shutdown ∉ calls → (engine.after makeSink calls).running = engine.running) := by
  induction calls generalizing engine with
  | nil => exact ⟨h, fun _ => rfl⟩
  | cons call calls ih =>
    have now := stays call List.mem_cons_self
    obtain ⟨underway, running⟩ := ih (h.call idle few call now)
      fun later mem => stays later (List.mem_cons_of_mem _ mem)
    refine ⟨underway, fun none => ?_⟩
    rw [after_cons, running fun mem => none (List.mem_cons_of_mem _ mem)]
    exact h.running_call idle now fun e => none (e ▸ List.mem_cons_self)

/-! ## The end of a cycle -/

/-- The workers are collected as turns of theirs leave them, and after their last turns if the
engine runs. -/
theorem Underway.collect (h : Underway before makeSink engine) (idle : before.Idle)
    (few : before.config.contexts.toNat ≤ UInt32.size) :
    ∃ final, engine.collect = final.dismiss ∧ Underway before makeSink final ∧
      (engine.running = true → ∀ worker ∈ final.workers, worker.remaining = 0) := by
  rw [collect_eq]
  by_cases running : engine.running = true
  · refine ⟨_, rfl, ?_, fun _ => ?_⟩
    · rw [if_pos running]
      exact h.turns idle few _
    · have all := turns_closing running [] engine.workers rfl
      simp only [List.length_nil, List.nil_append] at all
      rw [if_pos running, all]
      exact remaining_finishAll engine.seed engine.transmitter engine.workers
  · rw [if_neg running]
    exact ⟨engine, rfl, h, fun runs => absurd runs running⟩

/-- Every context of an engine underway has a worker, which has taken up to its share of turns and
has brought the context and the sink to where these turns lead. -/
theorem Underway.exists_worker (h : Underway before makeSink engine) {i : Nat}
    (inside : i < before.config.contexts.toNat) :
    ∃ worker origin, engine.workers[i]? = some worker ∧ worker.ctx = .ofIndex i ∧
      worker.done + worker.remaining = (before.config.share i).toNat ∧
      before.transmitter.state? (.ofIndex i) = some origin ∧
      engine.transmitter.state? (.ofIndex i) =
        some (origin.after before.transmitter.table worker.done) ∧
      worker.sink = (origin.sent before.transmitter.table worker.done).foldl TxSink.transmit
        (makeSink (.ofIndex i)) := by
  have place : i < engine.workers.length := h.crew ▸ inside
  have found := List.getElem?_eq_getElem place
  have post := h.posted i _ found
  obtain ⟨origin, stands, course⟩ := post.course
  refine ⟨engine.workers[i], origin, found, post.ctx, post.share, stands, ?_, ?_⟩
  · rw [← post.ctx, course.state, h.shape.table]
  · rw [← post.ctx, course.sink, h.shape.table]

/-- Without its workers an engine is at rest. -/
theorem Underway.idle_dismiss (h : Underway before makeSink engine) (idle : before.Idle) :
    engine.dismiss.2.Idle where
  valid := by
    change engine.config.validate = _
    rw [h.config]
    exact idle.valid
  running := rfl
  workers := rfl
  cells := by
    change engine.transmitter.cursor.cells.size = engine.config.contexts.toNat
    rw [h.shape.cells, idle.cells, h.config]
  records := by
    change engine.transmitter.stats.size = engine.config.contexts.toNat
    rw [h.shape.records, idle.records, h.config]
  capacity := h.capacity idle

/-- A cycle collects workers that are underway; those of a whole cycle have taken every turn. -/
theorem Idle.cycle (idle : engine.Idle) (few : engine.config.contexts.toNat ≤ UInt32.size)
    (makeSink : ContextId → σ) (cycle : Cycle) :
    ∃ final, engine.cycle makeSink cycle = final.dismiss ∧ Underway engine makeSink final ∧
      (cycle.Whole → ∀ worker ∈ final.workers, worker.remaining = 0) := by
  obtain ⟨started, start, underway, running⟩ := idle.start makeSink few cycle.fits
  have first : engine.after makeSink (.start cycle.seed :: cycle.meanwhile) =
      started.after makeSink cycle.meanwhile := by
    rw [after_cons]
    simp only [call, start]
  -- The engine is underway up to the last call, and runs as long as there was no shutdown.
  obtain ⟨underway, keeps⟩ := underway.after idle few cycle.stays
  unfold Engine.cycle Cycle.Whole
  rw [first]
  have ends := cycle.ends
  cases last : cycle.last with
  | wait =>
    obtain ⟨final, collect, underway, finished⟩ := underway.collect idle few
    refine ⟨final, ?_, underway, fun whole => finished ((keeps whole.2).trans running)⟩
    simp only [call, collect]
  | stop =>
    obtain ⟨final, collect, underway, -⟩ :=
      (underway.call idle few .shutdown rfl).collect idle few
    refine ⟨final, ?_, underway, fun whole => nomatch whole.1⟩
    change (started.after makeSink cycle.meanwhile).shutdown.collect = _ at collect
    simp only [call, stop, collect]
  | start seed => rw [last] at ends; cases ends
  | turn place => rw [last] at ends; cases ends
  | shutdown => rw [last] at ends; cases ends

/-! ## Cycles one after the other -/

theorem cycles_cons (engine : Engine σ) (cycle : Cycle) (rest : List Cycle) :
    engine.cycles makeSink (cycle :: rest) =
      ((engine.cycle makeSink cycle).1 ::
        ((engine.cycle makeSink cycle).2.cycles makeSink rest).1,
        ((engine.cycle makeSink cycle).2.cycles makeSink rest).2) := rfl

/-- Over cycles one after the other, with turns in any order, every context takes up to its share
of turns in each cycle, and the whole share if nothing stops the cycle.  What its sinks were handed
and where it stands is what that many turns send and lead to: from its first cell on to the first
empty slot, and no further. -/
theorem Idle.closed_form (idle : engine.Idle) (few : engine.config.contexts.toNat ≤ UInt32.size)
    (makeSink : ContextId → σ) (cycles : List Cycle) :
    (engine.cycles makeSink cycles).2.Idle ∧
    (engine.cycles makeSink cycles).2.config = engine.config ∧
    (engine.cycles makeSink cycles).2.transmitter.table = engine.transmitter.table ∧
    (engine.cycles makeSink cycles).1.length = cycles.length ∧
    (∀ crew ∈ (engine.cycles makeSink cycles).1,
      crew.length = engine.config.contexts.toNat) ∧
    ∀ i < engine.config.contexts.toNat, ∃ (state : ContextState) (taken : List Nat),
      engine.transmitter.state? (.ofIndex i) = some state ∧
      (engine.cycles makeSink cycles).2.transmitter.state? (.ofIndex i) =
        some (state.after engine.transmitter.table taken.sum) ∧
      taken.length = cycles.length ∧
      ∀ j cycle turns, cycles[j]? = some cycle → taken[j]? = some turns →
        turns ≤ (engine.config.share i).toNat ∧
        (cycle.Whole → turns = (engine.config.share i).toNat) ∧
        ∃ crew worker, (engine.cycles makeSink cycles).1[j]? = some crew ∧
          crew[i]? = some worker ∧ worker.ctx = .ofIndex i ∧ worker.done = turns ∧
          worker.sink = ((state.after engine.transmitter.table (taken.take j).sum).sent
            engine.transmitter.table turns).foldl TxSink.transmit (makeSink (.ofIndex i)) := by
  induction cycles generalizing engine with
  | nil =>
    have noCrew : ∀ crew ∈ (engine.cycles makeSink []).1,
        crew.length = engine.config.contexts.toNat := by
      intro crew none
      cases none
    refine ⟨idle, rfl, rfl, rfl, noCrew, fun i inside => ?_⟩
    obtain ⟨state, stands⟩ := idle.exists_state few inside
    refine ⟨state, [], stands, ?_, rfl, fun j cycle turns none => nomatch none⟩
    simp only [List.sum_nil, ContextState.after_zero]
    exact stands
  | cons cycle rest ih =>
    obtain ⟨final, ends, underway, finished⟩ := idle.cycle few makeSink cycle
    have config : final.dismiss.2.config = engine.config := underway.config
    have table : final.dismiss.2.transmitter.table = engine.transmitter.table :=
      underway.shape.table
    obtain ⟨idle', config', table', length, crews, contexts⟩ :=
      ih (underway.idle_dismiss idle) (config ▸ few)
    rw [cycles_cons, ends]
    rw [config] at crews contexts
    rw [table] at contexts
    refine ⟨idle', config'.trans config, table'.trans table, by simp [length], ?_, ?_⟩
    · intro crew member
      rcases List.mem_cons.1 member with rfl | later
      · exact underway.crew
      · exact crews crew later
    · intro i inside
      obtain ⟨worker, origin, found, ctx, share, stands, moved, sink⟩ :=
        underway.exists_worker inside
      -- The later cycles go on where this one left the context.
      obtain ⟨state, taken, stands', after, length', turns⟩ := contexts i inside
      have same : state = origin.after engine.transmitter.table worker.done :=
        Option.some.inj (stands'.symm.trans moved)
      subst same
      refine ⟨origin, worker.done :: taken, stands, ?_, by simp [length'], ?_⟩
      · rw [after, List.sum_cons, ContextState.after_add]
      · intro j cycle' m there taken'
        cases j with
        | zero =>
          cases there
          cases taken'
          refine ⟨by omega, fun whole => ?_, final.workers, worker, rfl, found, ctx, rfl, ?_⟩
          · have := finished whole worker (List.mem_of_getElem? found)
            omega
          · rw [List.take_zero, List.sum_nil, ContextState.after_zero]
            exact sink
        | succ j =>
          rw [List.take_succ_cons, List.sum_cons, ContextState.after_add]
          exact turns j cycle' m there taken'

/-- One context with three packets on a table whose second slot is empty. -/
def halfFilled : Engine Unit where
  config := ⟨1, 3, false, none⟩
  transmitter := .forContexts
    ⟨#[some ⟨2, Template.pad [10, 11], Template.size_pad (by decide)⟩, none], by decide, by decide⟩ 1
  running := false
  workers := []
  seed := .empty

/-- Starts the workers, lets the only one take a turn, and waits. -/
def oneTurnAhead : Cycle :=
  ⟨.empty, [.turn 0], .wait, by decide, by simp [EngineCall.collects], rfl⟩

theorem closed_form_halfFilled :
    halfFilled.Idle ∧ halfFilled.config.contexts.toNat ≤ UInt32.size ∧
    (⟨0, .zero⟩ : ContextState).sends halfFilled.transmitter.table 3 = 1 ∧
    (halfFilled.cycles (fun _ => ()) [oneTurnAhead]).2.transmitter.state? ⟨0⟩ =
      some ((⟨0, .zero⟩ : ContextState).after halfFilled.transmitter.table 3) := by
  have idle : halfFilled.Idle := ⟨rfl, rfl, rfl, rfl, rfl, rfl⟩
  have few : halfFilled.config.contexts.toNat ≤ UInt32.size := by decide
  obtain ⟨-, -, -, -, -, contexts⟩ := idle.closed_form few (fun _ => ()) [oneTurnAhead]
  obtain ⟨state, taken, began, ended, length, turns⟩ := contexts 0 (by decide)
  cases began
  obtain ⟨m, rfl⟩ := List.length_eq_one_iff.1 length
  obtain ⟨-, whole, -⟩ := turns 0 oneTurnAhead m rfl rfl
  have all : m = 3 := whole ⟨rfl, by simp [oneTurnAhead]⟩
  subst all
  exact ⟨idle, few, by decide, ended⟩

end Engine

end FrameReplay
