import FrameReplay.Engine.Lifecycle
import FrameReplay.Proofs.Layout
import FrameReplay.Proofs.Shares
import FrameReplay.Proofs.Turn

/-!
# Engines at rest and underway

An engine at rest has cells and records for its contexts and no workers.  Underway, each of its
workers is on course and has taken as many turns as are missing from its share (`Posted`); that
holds after the start (`Idle.start`) and survives every turn of every worker (`Underway.turn`).
Collecting a running engine is nothing but one more order of turns (`collect_eq`).
-/

namespace FrameReplay.Engine

variable {σ : Type}

/-! ## At rest -/

/-- An engine without workers, made for as many contexts as its configuration says. -/
structure Idle (engine : Engine σ) : Prop where
  valid : engine.config.validate = .ok ()
  running : engine.running = false
  workers : engine.workers = []
  cells : engine.transmitter.cursor.cells.size = engine.config.contexts.toNat
  records : engine.transmitter.stats.size = engine.config.contexts.toNat
  capacity : engine.transmitter.cursor.capacity = engine.transmitter.table.capacity

theorem capacity_make (contexts : Nat) (table : TemplateTable) :
    (SequenceCursor.make contexts table.capacity).capacity = table.capacity := by
  have pos := table.size_pos
  refine if_neg fun zero => ?_
  rw [← table.toNat_capacity, zero] at pos
  exact Nat.lt_irrefl 0 pos

theorem idle_make {config : EngineConfig} {table : TemplateTable} {engine : Engine σ}
    (h : Engine.make config table = .ok engine) : engine.Idle := by
  unfold Engine.make at h
  split at h
  · cases h
  · cases h
    exact ⟨by assumption, rfl, rfl, Array.size_replicate, Array.size_replicate,
      capacity_make ..⟩

/-- Operations between two runs leave an engine at rest. -/
theorem Idle.perform {engine : Engine σ} (idle : engine.Idle) {β : Type} [FrameBuffer β]
    (operation : Operation β) :
    Idle { engine with transmitter := (engine.transmitter.perform operation).2 } := by
  have layout := Transmitter.sameLayout_perform engine.transmitter operation
  refine ⟨idle.valid, idle.running, idle.workers, layout.cells.trans idle.cells,
    layout.records.trans idle.records, ?_⟩
  rw [layout.capacity, idle.capacity]
  unfold TemplateTable.capacity
  rw [layout.slots]

/-- Every context of an engine at rest has a cell and a record. -/
theorem Idle.exists_state {engine : Engine σ} (idle : engine.Idle)
    (few : engine.config.contexts.toNat ≤ UInt32.size) {i : Nat}
    (h : i < engine.config.contexts.toNat) :
    ∃ state, engine.transmitter.state? (.ofIndex i) = some state := by
  have small := Nat.lt_of_lt_of_le h few
  obtain ⟨cell, hasCell⟩ := Option.isSome_iff_exists.1
    (PerContext.isSome_get?_ofIndex engine.transmitter.cursor.cells small (idle.cells ▸ h))
  obtain ⟨record, hasRecord⟩ := Option.isSome_iff_exists.1
    (PerContext.isSome_get?_ofIndex engine.transmitter.stats small (idle.records ▸ h))
  exact ⟨⟨cell, record⟩, Transmitter.state?_eq_some_iff.2 ⟨hasCell, hasRecord⟩⟩

theorem length_crew (config : EngineConfig) (makeSink : ContextId → σ) :
    (crew config makeSink).length = config.contexts.toNat := by
  unfold crew
  rw [List.length_mapIdx, EngineConfig.length_shares]

theorem getElem?_crew (config : EngineConfig) (makeSink : ContextId → σ) {i : Nat}
    {worker : Worker σ} (h : (crew config makeSink)[i]? = some worker) :
    worker = ⟨.ofIndex i, (config.share i).toNat, 0, .empty, makeSink (.ofIndex i)⟩ := by
  unfold crew at h
  rw [List.getElem?_mapIdx] at h
  by_cases inside : i < config.contexts.toNat
  · rw [EngineConfig.getElem?_shares inside] at h
    cases h
    rfl
  · rw [List.getElem?_eq_none (by rw [EngineConfig.length_shares]; omega)] at h
    cases h

/-! ## Underway -/

variable [TxSink σ]

/-- The worker at a place works for the context of that place, has not yet taken the turns that
are missing from its share, and is on course. -/
structure Posted (before : Engine σ) (makeSink : ContextId → σ) (transmitter : Transmitter)
    (i : Nat) (worker : Worker σ) : Prop where
  ctx : worker.ctx = .ofIndex i
  share : worker.done + worker.remaining = (before.config.share i).toNat
  course : ∃ origin, before.transmitter.state? (.ofIndex i) = some origin ∧
    worker.OnCourse makeSink origin transmitter

/-- A posted worker stays at its post when it takes a turn. -/
theorem Posted.turn {before : Engine σ} {makeSink : ContextId → σ} {transmitter : Transmitter}
    {i : Nat} {worker : Worker σ} (post : Posted before makeSink transmitter i worker)
    (capacity : transmitter.cursor.capacity = transmitter.table.capacity) {seed : ByteArray}
    (fits : seed.size ≤ seedRoom) :
    Posted before makeSink (worker.turn seed transmitter).1 i (worker.turn seed transmitter).2 := by
  obtain ⟨origin, stands, course⟩ := post.course
  cases left : worker.remaining with
  | zero =>
    rw [worker.turn_of_remaining_eq_zero _ _ left]
    exact post
  | succ later =>
    obtain ⟨next, ctx, done, remaining⟩ := course.turn capacity fits left
    refine ⟨ctx.trans post.ctx, ?_, origin, stands, next⟩
    rw [← post.share, done, remaining, left]
    omega

/-- A posted worker stays at its post as long as nothing changes for its context. -/
theorem Posted.of_agree {before : Engine σ} {makeSink : ContextId → σ} {now next : Transmitter}
    {i : Nat} {worker : Worker σ} (post : Posted before makeSink now i worker)
    (same : next.Agree worker.ctx now) : Posted before makeSink next i worker := by
  obtain ⟨origin, stands, course⟩ := post.course
  exact ⟨post.ctx, post.share, origin, stands, course.of_agree same⟩

/-- An engine whose workers were started on the engine `before` and not collected yet. -/
structure Underway (before : Engine σ) (makeSink : ContextId → σ) (engine : Engine σ) : Prop where
  config : engine.config = before.config
  shape : engine.transmitter.SameShape before.transmitter
  seed : engine.seed.size ≤ seedRoom
  crew : engine.workers.length = before.config.contexts.toNat
  posted : ∀ i worker, engine.workers[i]? = some worker →
    Posted before makeSink engine.transmitter i worker

variable {before engine : Engine σ} {makeSink : ContextId → σ}

variable (makeSink) in
/-- A start succeeds on an engine at rest, if the seed fits a worker's buffer. -/
theorem Idle.start (idle : before.Idle) (few : before.config.contexts.toNat ≤ UInt32.size)
    {seed : ByteArray} (fits : seed.size ≤ seedRoom) :
    ∃ started, before.start seed makeSink = .ok started ∧ Underway before makeSink started ∧
      started.running = true := by
  have taken : before.refusal? seed = none := by
    unfold refusal?
    rw [if_neg (by simp [idle.running, idle.workers]), if_neg (Nat.not_lt.2 fits)]
  rw [start_eq, taken]
  refine ⟨_, rfl, ⟨rfl, .refl _, fits, length_crew .., fun i worker h => ?_⟩, rfl⟩
  have inside : i < before.config.contexts.toNat := by
    rw [← length_crew before.config makeSink]
    exact (List.getElem?_eq_some_iff.1 h).1
  obtain ⟨state, stands⟩ := idle.exists_state few inside
  rw [getElem?_crew _ _ h]
  refine ⟨rfl, Nat.zero_add _, state, stands, ?_, ?_, rfl⟩
  · simp only [ContextState.after_zero]
    exact stands
  · simp only [ContextState.sent_zero]
    rfl

@[simp] theorem running_turn (engine : Engine σ) (place : Nat) :
    (engine.turn place).running = engine.running := by
  unfold turn
  split
  · split <;> rfl
  · rfl

theorem Underway.lt_contexts (h : Underway before makeSink engine) {i : Nat} {worker : Worker σ}
    (found : engine.workers[i]? = some worker) : i < before.config.contexts.toNat := by
  rw [← h.crew]
  exact (List.getElem?_eq_some_iff.1 found).1

theorem Underway.capacity (h : Underway before makeSink engine) (idle : before.Idle) :
    engine.transmitter.cursor.capacity = engine.transmitter.table.capacity := by
  rw [h.shape.capacity, idle.capacity, h.shape.table]

/-- Workers at different places work for different contexts. -/
theorem Underway.ctx_ne (h : Underway before makeSink engine)
    (few : before.config.contexts.toNat ≤ UInt32.size) {i j : Nat} {a b : Worker σ}
    (ha : engine.workers[i]? = some a) (hb : engine.workers[j]? = some b) (differ : i ≠ j) :
    a.ctx ≠ b.ctx := by
  have hi := Nat.lt_of_lt_of_le (h.lt_contexts ha) few
  have hj := Nat.lt_of_lt_of_le (h.lt_contexts hb) few
  rw [(h.posted _ _ ha).ctx, (h.posted _ _ hb).ctx]
  intro e
  exact differ (ContextId.ofIndex_inj hi hj e)

/-- A turn of one worker leaves every worker at its post. -/
theorem Underway.turn (h : Underway before makeSink engine) (idle : before.Idle)
    (few : before.config.contexts.toNat ≤ UInt32.size) (place : Nat) :
    Underway before makeSink (engine.turn place) := by
  unfold Engine.turn
  split
  · split
    · exact h
    · rename_i worker found
      have shape := (worker.sameShape_turn engine.seed engine.transmitter).trans h.shape
      have crew : (engine.workers.set place
          (worker.turn engine.seed engine.transmitter).2).length =
            before.config.contexts.toNat := by
        rw [List.length_set, h.crew]
      refine ⟨h.config, shape, h.seed, crew, fun i other there => ?_⟩
      simp only at there ⊢
      rw [List.getElem?_set] at there
      -- Only one worker took a turn; what the others see did not change.
      by_cases same : place = i
      · subst same
        rw [if_pos rfl, if_pos (by rw [h.crew]; exact h.lt_contexts found)] at there
        cases there
        exact (h.posted _ _ found).turn (h.capacity idle) h.seed
      · rw [if_neg same] at there
        exact (h.posted _ _ there).of_agree
          (Worker.agree_turn _ _ (h.ctx_ne few there found (Ne.symm same)))
  · exact h

theorem Underway.turns (h : Underway before makeSink engine) (idle : before.Idle)
    (few : before.config.contexts.toNat ≤ UInt32.size) (schedule : List Nat) :
    Underway before makeSink (engine.turns schedule) := by
  induction schedule generalizing engine with
  | nil => exact h
  | cons place schedule ih => exact ih (h.turn idle few place)

/-! ## Collecting -/

/-- The order of turns in which workers, the first one at place `first`, finish one after the
other. -/
def closing (first : Nat) : List (Worker σ) → List Nat
  | [] => []
  | worker :: rest => List.replicate worker.remaining first ++ closing (first + 1) rest

/-- The engine without its workers, and the workers. -/
def dismiss (engine : Engine σ) : List (Worker σ) × Engine σ :=
  (engine.workers, { engine with running := false, workers := [] })

theorem turns_append (engine : Engine σ) (early late : List Nat) :
    engine.turns (early ++ late) = (engine.turns early).turns late :=
  List.foldl_append

/-- Turns of one worker only change the transmitter and that worker. -/
theorem turns_replicate (running : engine.running = true) {place : Nat} {worker : Worker σ}
    (found : engine.workers[place]? = some worker) (n : Nat) :
    engine.turns (List.replicate n place) =
      { engine with
        transmitter := (Worker.turns engine.seed n engine.transmitter worker).1
        workers :=
          engine.workers.set place (Worker.turns engine.seed n engine.transmitter worker).2 } := by
  induction n generalizing engine worker with
  | zero =>
    have same : engine.workers.set place worker = engine.workers := by
      obtain ⟨inside, rfl⟩ := List.getElem?_eq_some_iff.1 found
      exact List.set_getElem_self inside
    simp only [Worker.turns, same]
    rfl
  | succ n ih =>
    have turn : engine.turn place =
        { engine with
          transmitter := (worker.turn engine.seed engine.transmitter).1
          workers := engine.workers.set place (worker.turn engine.seed engine.transmitter).2 } := by
      unfold Engine.turn
      simp only [running, if_true, found]
    -- The worker is put back after every turn, so that the next turn finds it at its place.
    change (engine.turn place).turns (List.replicate n place) = _
    have inside := (List.getElem?_eq_some_iff.1 found).1
    rw [turn, @ih { engine with
      transmitter := (worker.turn engine.seed engine.transmitter).1
      workers := engine.workers.set place (worker.turn engine.seed engine.transmitter).2 }
      running _ (List.getElem?_set_self inside)]
    simp only [List.set_set]
    rfl

theorem turns_closing (running : engine.running = true) (finished rest : List (Worker σ))
    (h : engine.workers = finished ++ rest) :
    engine.turns (closing finished.length rest) =
      { engine with
        transmitter := (finishAll engine.seed engine.transmitter rest).1
        workers := finished ++ (finishAll engine.seed engine.transmitter rest).2 } := by
  induction rest generalizing engine finished with
  | nil =>
    simp only [finishAll, ← h]
    rfl
  | cons worker rest ih =>
    have found : engine.workers[finished.length]? = some worker := by
      rw [h, List.getElem?_append_right (Nat.le_refl _), Nat.sub_self]
      rfl
    -- The workers in `finished` are done, so the next one stands right behind them.
    unfold closing
    rw [turns_append, turns_replicate running found]
    simp only [h, List.set_append_right _ _ (Nat.le_refl _), Nat.sub_self, List.set_cons_zero]
    have next := @ih { engine with
      transmitter := (worker.finish engine.seed engine.transmitter).1
      workers := (finished ++ [(worker.finish engine.seed engine.transmitter).2]) ++ rest }
      running (finished ++ [(worker.finish engine.seed engine.transmitter).2]) rfl
    simp only [List.length_append, List.length_singleton, List.append_assoc,
      List.singleton_append] at next
    exact next

theorem remaining_finishAll (seed : ByteArray) (transmitter : Transmitter)
    (workers : List (Worker σ)) :
    ∀ worker ∈ (finishAll seed transmitter workers).2, worker.remaining = 0 := by
  induction workers generalizing transmitter with
  | nil =>
    intro worker none
    cases none
  | cons first rest ih =>
    intro worker member
    rcases List.mem_cons.1 member with rfl | later
    · exact first.remaining_finish seed transmitter
    · exact ih _ worker later

/-- Collecting a running engine is one more order of turns: the workers finish one after the
other. -/
theorem collect_eq (engine : Engine σ) :
    engine.collect =
      (if engine.running then engine.turns (closing 0 engine.workers) else engine).dismiss := by
  unfold collect
  cases running : engine.running with
  | false => simp [dismiss]
  | true =>
    have all := turns_closing running [] engine.workers rfl
    simp only [List.length_nil, List.nil_append] at all
    simp only [if_true, all, dismiss]

end FrameReplay.Engine
