import Mathlib.Data.List.Basic
import Mathlib.Data.List.Induction
import FrameReplay.Proofs.Cycle

/-!
# Starts and collections

Whether an engine takes a start is decided by a flag that any holder of a stop switch can clear, and
by its list of workers.  The flag is never set without workers (`Staffed`), so that the workers
alone decide, and there are workers exactly as long as a start that succeeded was not followed by a
collection (`Staffed.workers_ne_nil_iff`).
-/

namespace FrameReplay

namespace Engine

variable {σ : Type}

/-! ## The verdict on a start -/

theorem start_eq_error_iff {engine : Engine σ} {seed : ByteArray} {makeSink : ContextId → σ}
    {error : EngineError} :
    engine.start seed makeSink = .error error ↔ engine.refusal? seed = some error := by
  rw [start_eq]
  cases engine.refusal? seed with
  | none => exact ⟨nofun, nofun⟩
  | some refusal => simp only [Except.error.injEq, Option.some.injEq]

theorem start_eq_ok_iff {engine next : Engine σ} {seed : ByteArray} {makeSink : ContextId → σ} :
    engine.start seed makeSink = .ok next ↔ engine.refusal? seed = none ∧
      next = { engine with running := true, workers := crew engine.config makeSink, seed } := by
  rw [start_eq]
  cases engine.refusal? seed with
  | none => simp only [Except.ok.injEq, true_and, eq_comm]
  | some refusal => exact ⟨nofun, fun h => nomatch h.1⟩

/-! ## Sinks that are asked for -/

/-- The maker that writes down the contexts for which it is asked. -/
def recording (makeSink : ContextId → σ) (ctx : ContextId) : StateM (List ContextId) σ := do
  modify (· ++ [ctx])
  return makeSink ctx

theorem map_ctx_crew (config : EngineConfig) (makeSink : ContextId → σ) :
    (crew config makeSink).map Worker.ctx =
      (List.range config.contexts.toNat).map ContextId.ofIndex := by
  apply List.ext_getElem?
  intro i
  unfold crew EngineConfig.shares
  rw [List.getElem?_map, List.getElem?_mapIdx, List.getElem?_map, List.getElem?_map,
    Option.map_map, Option.map_map]
  by_cases inside : i < config.contexts.toNat
  · rw [List.getElem?_range inside]
    rfl
  · rw [List.getElem?_eq_none (by rw [List.length_range]; omega)]
    rfl

theorem run_mapM_recording (makeSink : ContextId → σ) (workers : List (Worker Unit))
    (asked : List ContextId) :
    (workers.mapM fun worker => worker.equip <$> recording makeSink worker.ctx).run asked =
      (workers.map fun worker => worker.equip (makeSink worker.ctx),
        asked ++ workers.map Worker.ctx) := by
  induction workers generalizing asked with
  | nil =>
    rw [List.map_nil, List.map_nil, List.append_nil]
    rfl
  | cons worker workers ih =>
    have rest := ih (asked ++ [worker.ctx])
    rw [List.append_assoc] at rest
    rw [List.mapM_cons]
    exact congrArg
      (fun outcome => (worker.equip (makeSink worker.ctx) :: outcome.1, outcome.2)) rest

/-- A start that succeeds asks for one sink per context, in order; a refused start asks for none. -/
theorem run_startM_recording (engine : Engine σ) (seed : ByteArray) (makeSink : ContextId → σ) :
    (engine.startM seed (recording makeSink)).run [] =
      (engine.start seed makeSink,
        match engine.start seed makeSink with
        | .error _ => []
        | .ok _ => (List.range engine.config.contexts.toNat).map ContextId.ofIndex) := by
  rw [start_eq]
  unfold startM
  cases engine.refusal? seed with
  | some error => rfl
  | none =>
    have all := run_mapM_recording makeSink (crew engine.config fun _ => ()) []
    rw [map_equip_crew, map_ctx_crew, List.nil_append] at all
    simp only
    rw [StateT.run_bind, all]
    rfl

/-! ## Calls one after the other -/

variable [TxSink σ]

/-- The engine after calls one after the other, each with the sinks for the workers that it starts
if it is a start. -/
def afterEach (engine : Engine σ) (calls : List (EngineCall × (ContextId → σ))) : Engine σ :=
  calls.foldl (fun engine (call, makeSink) => (engine.call makeSink call).2) engine

theorem afterEach_concat (engine : Engine σ) (calls : List (EngineCall × (ContextId → σ)))
    (call : EngineCall) (makeSink : ContextId → σ) :
    engine.afterEach (calls ++ [(call, makeSink)]) =
      ((engine.afterEach calls).call makeSink call).2 := by
  unfold afterEach
  rw [List.foldl_append]
  rfl

/-- Some start among the calls succeeded, and no collection followed it. -/
def Uncollected (engine : Engine σ) (calls : List (EngineCall × (ContextId → σ))) : Prop :=
  ∃ early seed makeSink late, calls = early ++ (.start seed, makeSink) :: late ∧
    (∃ next, (engine.afterEach early).start seed makeSink = .ok next) ∧
    ∀ later ∈ late, later.1.collects = false

theorem not_uncollected_nil (engine : Engine σ) : ¬ engine.Uncollected [] := by
  rintro ⟨early, seed, makeSink, late, split, -⟩
  exact absurd split.symm (List.append_ne_nil_of_right_ne_nil _ (List.cons_ne_nil _ _))

/-- A call leaves a start uncollected if it is one that succeeds, or if there was one before that it
does not collect. -/
theorem uncollected_concat {engine : Engine σ} {calls : List (EngineCall × (ContextId → σ))}
    {call : EngineCall} {makeSink : ContextId → σ} :
    engine.Uncollected (calls ++ [(call, makeSink)]) ↔
      (∃ seed next, call = .start seed ∧
        (engine.afterEach calls).start seed makeSink = .ok next) ∨
      (call.collects = false ∧ engine.Uncollected calls) := by
  constructor
  · rintro ⟨early, seed, maker, late, split, succeeds, stays⟩
    -- The start is the last call itself, or stands in front of it.
    rcases List.eq_nil_or_concat' late with rfl | ⟨middle, last, rfl⟩
    · obtain ⟨rfl, same⟩ := List.append_inj' split rfl
      cases same
      obtain ⟨next, h⟩ := succeeds
      exact .inl ⟨seed, next, rfl, h⟩
    · have split' : calls ++ [(call, makeSink)] =
          (early ++ (.start seed, maker) :: middle) ++ [last] := by
        rw [split, List.append_assoc, List.cons_append]
      obtain ⟨rfl, same⟩ := List.append_inj' split' rfl
      cases same
      refine .inr ⟨stays _ (List.mem_append_right _ (List.mem_singleton_self _)), early, seed,
        maker, middle, rfl, succeeds, ?_⟩
      exact fun later member => stays later (List.mem_append_left _ member)
  · rintro (⟨seed, next, rfl, h⟩ | ⟨stays, early, seed, maker, late, rfl, succeeds, others⟩)
    · exact ⟨calls, seed, makeSink, [], rfl, ⟨next, h⟩, nofun⟩
    · refine ⟨early, seed, maker, late ++ [(call, makeSink)], by simp, succeeds, ?_⟩
      intro later member
      rcases List.mem_append.1 member with earlier | last
      · exact others later earlier
      · rw [List.mem_singleton.1 last]
        exact stays

/-! ## The flag and the workers -/

/-- A valid engine whose flag is set only while it has workers. -/
structure Staffed (engine : Engine σ) : Prop where
  valid : engine.config.validate = .ok ()
  running : engine.running = true → engine.workers ≠ []

omit [TxSink σ] in
theorem crew_ne_nil {config : EngineConfig} (valid : config.validate = .ok ())
    (makeSink : ContextId → σ) : crew config makeSink ≠ [] := by
  intro none
  have length := length_crew config makeSink
  rw [none] at length
  exact absurd length (Nat.ne_of_lt (EngineConfig.contexts_pos valid))

theorem workers_turn_ne_nil_iff (engine : Engine σ) (place : Nat) :
    (engine.turn place).workers ≠ [] ↔ engine.workers ≠ [] := by
  unfold turn
  split
  · split
    · rfl
    · simp only [ne_eq, List.set_eq_nil_iff]
  · rfl

theorem config_turn (engine : Engine σ) (place : Nat) :
    (engine.turn place).config = engine.config := by
  unfold turn
  split
  · split <;> rfl
  · rfl

/-- Collected engines are at rest. -/
theorem call_of_collects (engine : Engine σ) {call : EngineCall} (collects : call.collects = true)
    (makeSink : ContextId → σ) :
    (engine.call makeSink call).2.config = engine.config ∧
    (engine.call makeSink call).2.running = false ∧
    (engine.call makeSink call).2.workers = [] := by
  cases call with
  | wait => exact ⟨rfl, rfl, rfl⟩
  | stop => exact ⟨rfl, rfl, rfl⟩
  | start seed => cases collects
  | turn place => cases collects
  | shutdown => cases collects

/-- A start either changes nothing or gives an engine its workers. -/
theorem call_start_cases (engine : Engine σ) (seed : ByteArray) (makeSink : ContextId → σ) :
    (∃ error, engine.start seed makeSink = .error error ∧
      engine.call makeSink (.start seed) = (.refused error, engine)) ∨
    ∃ next, engine.start seed makeSink = .ok next ∧
      engine.call makeSink (.start seed) = (.done, next) ∧ next.config = engine.config ∧
      next.workers = crew engine.config makeSink := by
  cases outcome : engine.start seed makeSink with
  | error error => exact .inl ⟨error, rfl, by simp only [call, outcome]⟩
  | ok next =>
    refine .inr ⟨next, rfl, by simp only [call, outcome], ?_⟩
    obtain ⟨-, rfl⟩ := start_eq_ok_iff.1 outcome
    exact ⟨rfl, rfl⟩

theorem Staffed.call {engine : Engine σ} (staffed : engine.Staffed) (call : EngineCall)
    (makeSink : ContextId → σ) : (engine.call makeSink call).2.Staffed := by
  cases call with
  | start seed =>
    rcases engine.call_start_cases seed makeSink with ⟨_, -, same⟩ | ⟨next, -, now, config, workers⟩
    · rw [same]
      exact staffed
    · rw [now]
      refine ⟨config ▸ staffed.valid, fun _ => ?_⟩
      rw [workers]
      exact crew_ne_nil staffed.valid makeSink
  | turn place =>
    refine ⟨(config_turn engine place).symm ▸ staffed.valid, fun runs => ?_⟩
    exact (workers_turn_ne_nil_iff engine place).2
      (staffed.running ((running_turn engine place).symm.trans runs))
  | shutdown => exact ⟨staffed.valid, nofun⟩
  | wait => exact ⟨staffed.valid, nofun⟩
  | stop => exact ⟨staffed.valid, nofun⟩

theorem staffed_afterEach {engine : Engine σ} (staffed : engine.Staffed)
    (calls : List (EngineCall × (ContextId → σ))) : (engine.afterEach calls).Staffed := by
  induction calls using List.reverseRecOn with
  | nil => exact staffed
  | append_singleton calls last ih =>
    rw [afterEach_concat]
    exact ih.call last.1 last.2

/-- An engine has workers after a call if the call is a start that succeeds, or if it had workers
before that the call does not collect. -/
theorem Staffed.workers_call_ne_nil_iff {engine : Engine σ} (staffed : engine.Staffed)
    {call : EngineCall} {makeSink : ContextId → σ} :
    (engine.call makeSink call).2.workers ≠ [] ↔
      (∃ seed next, call = .start seed ∧ engine.start seed makeSink = .ok next) ∨
      (call.collects = false ∧ engine.workers ≠ []) := by
  by_cases collects : call.collects = true
  -- No worker is left after a collection, and a collection is no start.
  · obtain ⟨-, -, none⟩ := engine.call_of_collects collects makeSink
    simp only [none, collects, ne_eq, not_true_eq_false, Bool.true_eq_false, false_and, or_false,
      false_iff]
    rintro ⟨seed, next, rfl, -⟩
    cases collects
  -- Any other call keeps the workers, and only a start can add some.
  · have stays : call.collects = false := Bool.not_eq_true _ ▸ collects
    simp only [stays, true_and]
    cases call with
    | start seed =>
      rcases engine.call_start_cases seed makeSink with
        ⟨error, refused, same⟩ | ⟨next, started, now, -, workers⟩
      · rw [same]
        refine ⟨.inr, ?_⟩
        rintro (⟨_, next, ⟨⟩, started⟩ | some)
        · cases refused.symm.trans started
        · exact some
      · rw [now, workers]
        exact ⟨fun _ => .inl ⟨seed, next, rfl, started⟩,
          fun _ => crew_ne_nil staffed.valid makeSink⟩
    | turn place => simp only [Engine.call, workers_turn_ne_nil_iff, reduceCtorEq, false_and,
        exists_false, false_or]
    | shutdown => simp only [Engine.call, shutdown, reduceCtorEq, false_and, exists_false, false_or]
    | wait => cases stays
    | stop => cases stays

/-- After any calls there are workers exactly if some start is uncollected. -/
theorem Staffed.workers_ne_nil_iff {engine : Engine σ} (staffed : engine.Staffed)
    (none : engine.workers = []) (calls : List (EngineCall × (ContextId → σ))) :
    (engine.afterEach calls).workers ≠ [] ↔ engine.Uncollected calls := by
  induction calls using List.reverseRecOn with
  | nil => exact ⟨fun some => absurd none some, fun h => absurd h (not_uncollected_nil engine)⟩
  | append_singleton calls last ih =>
    rw [afterEach_concat, uncollected_concat, ← ih]
    exact (staffed_afterEach staffed calls).workers_call_ne_nil_iff

omit [TxSink σ] in
/-- The flag alone never keeps an engine from starting. -/
theorem Staffed.refusal?_of_no_workers {engine : Engine σ} (staffed : engine.Staffed)
    (none : engine.workers = []) (seed : ByteArray) :
    engine.refusal? seed =
      if seedRoom < seed.size then some (.seedTooLarge seed.size) else Option.none := by
  have stands : engine.running = false :=
    Bool.eq_false_iff.2 fun runs => staffed.running runs none
  exact if_neg (by simp [stands, none])

omit [TxSink σ] in
/-- Workers keep an engine from starting, and without workers only a seed that is too long does. -/
theorem Staffed.start_iff {engine : Engine σ} (staffed : engine.Staffed) (seed : ByteArray)
    (makeSink : ContextId → σ) :
    (engine.start seed makeSink = .error .alreadyRunning ↔ engine.workers ≠ []) ∧
    (∀ length, engine.start seed makeSink = .error (.seedTooLarge length) ↔
      ¬ engine.workers ≠ [] ∧ seedRoom < seed.size ∧ length = seed.size) ∧
    ((∃ next, engine.start seed makeSink = .ok next) ↔
      ¬ engine.workers ≠ [] ∧ seed.size ≤ seedRoom) := by
  simp only [start_eq_error_iff, start_eq_ok_iff]
  by_cases none : engine.workers = []
  · rw [staffed.refusal?_of_no_workers none]
    by_cases long : seedRoom < seed.size
    · simp [none, long, eq_comm]
    · simp [none, long, Nat.le_of_not_lt long]
  · rw [refusal?_of_workers none]
    simp [none]

omit [TxSink σ] in
theorem exists_make {config : EngineConfig} (valid : config.validate = .ok ())
    (table : TemplateTable) : ∃ engine : Engine σ, Engine.make config table = .ok engine := by
  unfold Engine.make
  rw [valid]
  exact ⟨_, rfl⟩

/-- Collecting an engine at rest finds no worker and changes nothing. -/
theorem call_wait_of_no_workers {engine : Engine σ} (running : engine.running = false)
    (workers : engine.workers = []) (makeSink : ContextId → σ) :
    engine.call makeSink .wait = (.collected [], engine) := by
  obtain ⟨config, transmitter, flag, crew, seed⟩ := engine
  cases running
  cases workers
  rfl

/-- Starts, shutdowns, collections and turns of workers come in any order.  A start is refused as
one too many exactly as long as an earlier one that succeeded was not collected, whether or not it
was shut down meanwhile; any other start fails exactly if its seed is too long for a worker's
buffer.  A refused start asks for no sink and leaves the engine as it was.  The engine runs only
between a start and its collection, and collecting it once more gives no worker, changes nothing
and leaves the totals. -/
theorem start_refused_until_collected {config : EngineConfig} (valid : config.validate = .ok ())
    (table : TemplateTable) :
    ∃ engine : Engine σ, Engine.make config table = .ok engine ∧
    ∀ calls : List (EngineCall × (ContextId → σ)),
      let now := engine.afterEach calls
      (∀ seed makeSink,
        (now.start seed makeSink = .error .alreadyRunning ↔ engine.Uncollected calls) ∧
        (∀ length, now.start seed makeSink = .error (.seedTooLarge length) ↔
          ¬ engine.Uncollected calls ∧ 3840 < seed.size ∧ length = seed.size) ∧
        ((∃ next, now.start seed makeSink = .ok next) ↔
          ¬ engine.Uncollected calls ∧ seed.size ≤ 3840) ∧
        ∀ error, now.start seed makeSink = .error error →
          (now.startM seed (recording makeSink)).run [] = (.error error, []) ∧
          now.call makeSink (.start seed) = (.refused error, now)) ∧
      (now.running = true → engine.Uncollected calls) ∧
      ∀ call makeSink, call.collects = true →
        let next := (now.call makeSink call).2
        next.running = false ∧
        ∀ makeSink', next.call makeSink' .wait = (.collected [], next) ∧
          (next.call makeSink' .wait).2.transmitter.totals = next.transmitter.totals := by
  obtain ⟨engine, made⟩ := exists_make (σ := σ) valid table
  have idle := idle_make made
  have staffed : engine.Staffed := ⟨idle.valid, fun runs => absurd runs (by simp [idle.running])⟩
  refine ⟨engine, made, fun calls => ?_⟩
  intro now
  -- Since the flag is never set without workers, it adds nothing to what they say.
  have stands : now.Staffed := staffed_afterEach staffed calls
  have workers : now.workers ≠ [] ↔ engine.Uncollected calls :=
    staffed.workers_ne_nil_iff idle.workers calls
  refine ⟨fun seed makeSink => ?_, fun runs => workers.1 (stands.running runs), ?_⟩
  · obtain ⟨busy, long, started⟩ := stands.start_iff seed makeSink
    rw [workers] at busy started
    simp only [workers] at long
    refine ⟨busy, long, started, fun error refused => ⟨?_, by simp only [call, refused]⟩⟩
    rw [run_startM_recording, refused]
  · intro call makeSink collects
    obtain ⟨-, halted, none⟩ := now.call_of_collects collects makeSink
    refine ⟨halted, fun makeSink' => ?_⟩
    have again := call_wait_of_no_workers halted none makeSink'
    exact ⟨again, by rw [again]⟩

/-- One context with one packet and no template. -/
def lonePacket : EngineConfig := ⟨1, 1, false, none⟩

theorem start_refused_until_collected_shutDown :
    lonePacket.validate = .ok () ∧
    ∃ engine : Engine Unit, Engine.make lonePacket .empty = .ok engine ∧
      let begun : List (EngineCall × (ContextId → Unit)) :=
        [(.start .empty, fun _ => ()), (.shutdown, fun _ => ())]
      (engine.afterEach begun).start .empty (fun _ => ()) = .error .alreadyRunning ∧
      ∃ next, (engine.afterEach (begun ++ [(.wait, fun _ => ())])).start .empty (fun _ => ()) =
        .ok next := by
  have valid : lonePacket.validate = .ok () := rfl
  obtain ⟨engine, made, verdicts⟩ := start_refused_until_collected (σ := Unit) valid .empty
  refine ⟨valid, engine, made, ?_⟩
  intro begun
  have started := ((verdicts []).1 .empty fun _ => ()).2.2.1.2
    ⟨not_uncollected_nil engine, by decide⟩
  refine ⟨((verdicts begun).1 _ _).1.2 ?_, ((verdicts _).1 _ _).2.2.1.2 ⟨?_, by decide⟩⟩
  · exact ⟨[], .empty, fun _ => (), [(.shutdown, fun _ => ())], rfl, started,
      by simp [EngineCall.collects]⟩
  · rw [uncollected_concat]
    rintro (⟨_, _, waits, -⟩ | ⟨stays, -⟩)
    · cases waits
    · cases stays

end Engine

end FrameReplay
