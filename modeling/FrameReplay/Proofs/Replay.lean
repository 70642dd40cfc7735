import FrameReplay.Proofs.Accounting
import FrameReplay.Proofs.Cycle
import FrameReplay.Proofs.Generation

/-!
# Whole runs

A configuration that passes its check can be replayed: no stage of the run fails, whatever order
the workers take their turns in, and every packet is sent.  The stages are taken one after the
other: the templates fill the table, the engine starts at rest, and when its workers are collected
each has taken its whole share of turns.
-/

namespace FrameReplay

/-! ## Sums of counters -/

namespace StatsStore

/-- The total of records that are known one by one. -/
theorem total_eq {stats : StatsStore} {packets bytes aborted : Nat → Nat}
    (known : ∀ i < stats.size, stats[i]? = some ⟨UInt64.ofNat (packets i),
      UInt64.ofNat (bytes i), UInt64.ofNat (aborted i)⟩) :
    stats.total = ⟨UInt64.ofNat ((List.range stats.size).map packets).sum,
      UInt64.ofNat ((List.range stats.size).map bytes).sum,
      UInt64.ofNat ((List.range stats.size).map aborted).sum⟩ := by
  have records : stats.toList = (List.range stats.size).map fun i =>
      ⟨UInt64.ofNat (packets i), UInt64.ofNat (bytes i), UInt64.ofNat (aborted i)⟩ := by
    apply List.ext_getElem?
    intro i
    rw [Array.getElem?_toList, List.getElem?_map]
    by_cases inside : i < stats.size
    · rw [known i inside, List.getElem?_range inside]
      rfl
    · rw [Array.getElem?_eq_none (Nat.le_of_not_lt inside),
        List.getElem?_eq_none (by rw [List.length_range]; omega)]
      rfl
  rw [total_eq_sum, records]
  simp only [List.map_map, Function.comp_def, ofNat_sum_toNat]

end StatsStore

/-! ## Running an engine to its end -/

namespace Engine

variable {σ : Type} [TxSink σ] {before started : Engine σ} {makeSink : ContextId → σ}

theorem running_turns (engine : Engine σ) (schedule : List Nat) :
    (engine.turns schedule).running = engine.running := by
  induction schedule generalizing engine with
  | nil => rfl
  | cons place schedule ih => exact (ih (engine.turn place)).trans (running_turn engine place)

/-- In a run that nothing stops every context takes its whole share of turns, in whatever order
the turns come. -/
theorem Underway.state?_collect (underway : Underway before makeSink started)
    (running : started.running = true) (idle : before.Idle)
    (few : before.config.contexts.toNat ≤ UInt32.size) (schedule : List Nat) :
    ((started.turns schedule).collect).2.transmitter.stats.size = before.config.contexts.toNat ∧
    ∀ i < before.config.contexts.toNat, ∃ origin,
      before.transmitter.state? (.ofIndex i) = some origin ∧
      ((started.turns schedule).collect).2.transmitter.state? (.ofIndex i) =
        some (origin.after before.transmitter.table (before.config.share i).toNat) := by
  obtain ⟨final, collect, ended, finished⟩ :=
    (underway.turns idle few schedule).collect idle few
  rw [collect]
  refine ⟨ended.shape.records.trans idle.records, fun i inside => ?_⟩
  obtain ⟨worker, origin, found, -, share, stands, moved, -⟩ := ended.exists_worker inside
  have last := finished ((running_turns started schedule).trans running) worker
    (List.mem_of_getElem? found)
  rw [last, Nat.add_zero] at share
  rw [← share]
  exact ⟨origin, stands, moved⟩

end Engine

/-! ## The stages of a run -/

namespace RunConfig

variable {config : RunConfig}

theorem validate_eq_ok (h : config.validate = .ok ()) :
    config.engineConfig.validate = .ok () ∧ config.inboundLen.toNat ≤ seedRoom := by
  obtain ⟨checked, engine, h⟩ := bind_eq_ok.1 h
  refine ⟨mapError_eq_ok.1 engine, ?_⟩
  by_cases long : seedRoom < config.inboundLen.toNat
  · rw [if_pos long] at h
    cases h
  · exact Nat.le_of_not_lt long

/-! ## Defaults -/

theorem generator_default_validate : GeneratorConfig.default.validate = .ok () := by decide

/-- The defaults of the program are those of its engine. -/
theorem engineConfig_default (machine : Machine) :
    (default machine).engineConfig = EngineConfig.default machine := by
  have spaced : ¬ (1000 : UInt64) = 0 := by decide
  have second : (1000 : UInt64).toNat * 1000000 = 1000000000 := by
    rw [(by decide : (1000 : UInt64).toNat = 1000)]
  unfold engineConfig default EngineConfig.default
  rw [if_neg spaced, second]

/-- The defaults are in order, and the engine can run them if there are packets for all contexts. -/
theorem validate_default_iff (machine : Machine) :
    (default machine).validate = .ok () ↔ machine.contexts ≤ 1000000 := by
  rw [← EngineConfig.validate_default_iff, ← engineConfig_default]
  constructor
  · intro valid
    exact (validate_eq_ok valid).1
  · intro engine
    have short : ¬ seedRoom < (1500 : UInt64).toNat := by decide
    refine bind_eq_ok.2 ⟨(), mapError_eq_ok.2 engine, ?_⟩
    rw [default, if_neg short]
    exact generator_default_validate

/-! ## Results of the stages -/

theorem buildTemplates_eq_ok {built : List LogEvent × List Template}
    (h : config.buildTemplates = .ok built) :
    ∃ frames, generate config.generator = .ok frames ∧ templatesFrom 0 frames = .ok built.2 := by
  obtain ⟨frames, generated, h⟩ := bind_eq_ok.1 h
  obtain ⟨templates, accepted, h⟩ := bind_eq_ok.1 h
  cases h
  exact ⟨frames, mapError_eq_ok.1 generated, accepted⟩

/-- A check succeeds if the configuration is valid and its templates can be built. -/
theorem check_eq_ok {passed : List LogEvent × Nat} :
    config.check = .ok passed ↔ config.validate = .ok () ∧ ∃ built,
      config.buildTemplates = .ok built ∧
      passed = (built.1 ++
        [⟨.info, .commands, "configuration ok", [("templates", .int built.2.length)]⟩],
        built.2.length) := by
  unfold check
  constructor
  · intro h
    obtain ⟨checked, valid, h⟩ := bind_eq_ok.1 h
    obtain ⟨built, templates, h⟩ := bind_eq_ok.1 h
    cases h
    exact ⟨mapError_eq_ok.1 valid, built, templates, rfl⟩
  · rintro ⟨valid, built, templates, rfl⟩
    exact bind_eq_ok.2 ⟨(), mapError_eq_ok.2 valid, bind_eq_ok.2 ⟨built, templates, rfl⟩⟩

theorem size_seed (config : RunConfig) : config.seed.size = config.inboundLen.toNat := by
  unfold seed
  rw [List.size_toByteArray, Frame.length_sample]

/-- The engine that the workers of a run are started on. -/
def prepared (config : RunConfig) (templates : List Template) : Engine Unit where
  config := config.engineConfig
  transmitter := { Transmitter.forContexts .empty config.parallelism.toNat with
    table := TemplateTable.empty.fill templates.toArray }
  running := false
  workers := []
  seed := .empty

section Prepared

variable {templates : List Template}

theorem install_prepared (config : RunConfig) (filled : templates ≠ []) :
    ∃ report, (Transmitter.forContexts .empty config.parallelism.toNat).install templates.toArray =
      .ok (report, (config.prepared templates).transmitter) := by
  unfold Transmitter.install
  rw [if_neg (by simp [filled])]
  exact ⟨_, rfl⟩

theorem make_prepared (valid : config.engineConfig.validate = .ok ()) :
    Engine.make (σ := Unit) config.engineConfig .empty = .ok { config.prepared [] with
      transmitter := Transmitter.forContexts .empty config.parallelism.toNat } := by
  unfold Engine.make
  rw [valid]
  rfl

theorem idle_prepared (templates : List Template) (valid : config.engineConfig.validate = .ok ()) :
    (config.prepared templates).Idle := by
  have fresh := Engine.idle_make (make_prepared valid)
  refine ⟨valid, rfl, rfl, fresh.cells, fresh.records, fresh.capacity.trans ?_⟩
  unfold TemplateTable.capacity prepared TemplateTable.fill
  rw [Array.size_ofFn]
  rfl

/-- Every context begins at the first slot with nothing counted. -/
theorem state?_prepared (few : config.parallelism.toNat ≤ UInt32.size) {i : Nat}
    (inside : i < config.parallelism.toNat) :
    (config.prepared templates).transmitter.state? (.ofIndex i) = some ⟨0, .zero⟩ := by
  have place : (ContextId.ofIndex i).index = i :=
    ContextId.index_ofIndex (Nat.lt_of_lt_of_le inside few)
  refine Transmitter.state?_eq_some_iff.2 ⟨?_, ?_⟩
  · change (Array.replicate config.parallelism.toNat (0 : UInt32))[(ContextId.ofIndex i).index]? = _
    rw [place, Array.getElem?_replicate, if_pos inside]
  · change (Array.replicate config.parallelism.toNat Counters.zero)[(ContextId.ofIndex i).index]? =
      _
    rw [place, Array.getElem?_replicate, if_pos inside]

/-- The length of the frame that a context sends in its turn `k`, counted from zero. -/
def lengthAt (frames : List Octets) (k : Nat) : Nat :=
  (frames.getD (k % defaultSlots % frames.length) []).length

section Counting

variable {frames : List Octets} (filled : templates ≠ [])
  (lengths : templates.map Template.effectiveLength = frames.map List.length)

include filled lengths

/-- The table holds the templates in turn. -/
theorem entry_prepared (k : Nat) : ∃ template,
    (config.prepared templates).transmitter.table.entry k = some template ∧
      template.effectiveLength = lengthAt frames k := by
  have slots : TemplateTable.empty.slots.size = defaultSlots := Array.size_replicate
  have number : templates.length = frames.length := by
    simpa using congrArg List.length lengths
  have inside : k % defaultSlots % templates.length < templates.length :=
    Nat.mod_lt _ (List.length_pos_iff.2 filled)
  refine ⟨templates[k % defaultSlots % templates.length], ?_, ?_⟩
  · change (TemplateTable.empty.fill templates.toArray).entry k = _
    rw [TemplateTable.entry_fill, slots, List.size_toArray, List.getElem?_toArray,
      List.getElem?_eq_getElem inside]
  · have same := congrArg (·[k % defaultSlots % templates.length]?) lengths
    simp only [List.getElem?_map, List.getElem?_eq_getElem inside] at same
    unfold lengthAt
    rw [List.getD_eq_getElem?_getD, ← number]
    cases found : frames[k % defaultSlots % templates.length]? with
    | none => rw [found] at same; cases same
    | some frame => rw [found] at same; exact Option.some.inj same

/-- What a context has counted after any number of turns: every one of them sent a frame. -/
theorem record_after_prepared (turns : Nat) :
    ((⟨0, .zero⟩ : ContextState).after (config.prepared templates).transmitter.table turns).record =
      ⟨UInt64.ofNat turns, UInt64.ofNat ((List.range turns).map (lengthAt frames)).sum,
        UInt64.ofNat 0⟩ := by
  have start :
      (⟨0, .zero⟩ : ContextState).start (config.prepared templates).transmitter.table = 0 :=
    if_pos (TemplateTable.size_pos _)
  have full : ∀ k, ∃ template,
      (config.prepared templates).transmitter.table.entry (0 + k) = some template ∧
        template.effectiveLength = lengthAt frames k := by
    intro k
    rw [Nat.zero_add]
    exact entry_prepared filled lengths k
  have sends : (⟨0, .zero⟩ : ContextState).sends (config.prepared templates).transmitter.table
      turns = turns := by
    unfold ContextState.sends
    rw [start]
    apply TemplateTable.reach_of_full
    intro k
    obtain ⟨template, found, -⟩ := full k
    rw [found]
    exact Option.some_ne_none _
  unfold ContextState.after ContextState.sent
  rw [sends, start, TemplateTable.sizes_frames_of_full full, Nat.sub_self]
  simp [Counters.zero]

end Counting

end Prepared

/-! ## The run as a whole -/

/-- Whatever order the workers take their turns in, the totals of a prepared engine are those of all
shares together. -/
theorem totals_prepared {templates : List Template} {frames : List Octets}
    {started : Engine Unit} {makeSink : ContextId → Unit}
    (valid : config.engineConfig.validate = .ok ()) (few : config.parallelism.toNat ≤ UInt32.size)
    (filled : templates ≠ [])
    (lengths : templates.map Template.effectiveLength = frames.map List.length)
    (underway : Engine.Underway (config.prepared templates) makeSink started)
    (running : started.running = true) (schedule : List Nat) :
    ((started.turns schedule).collect).2.transmitter.totals =
      ⟨config.count, UInt64.ofNat ((List.range config.parallelism.toNat).map fun i =>
        ((List.range (config.engineConfig.share i).toNat).map (lengthAt frames)).sum).sum, 0⟩ := by
  have idle := idle_prepared templates valid
  obtain ⟨size, ends⟩ := underway.state?_collect running idle few schedule
  have known : ∀ i < ((started.turns schedule).collect).2.transmitter.stats.size,
      ((started.turns schedule).collect).2.transmitter.stats[i]? =
        some ⟨UInt64.ofNat (config.engineConfig.share i).toNat,
          UInt64.ofNat ((List.range (config.engineConfig.share i).toNat).map (lengthAt frames)).sum,
          UInt64.ofNat 0⟩ := by
    intro i inside
    rw [size] at inside
    obtain ⟨origin, stands, moved⟩ := ends i inside
    cases Option.some.inj ((state?_prepared few inside).symm.trans stands)
    have record := (Transmitter.state?_eq_some_iff.1 moved).2
    rw [record_after_prepared filled lengths] at record
    unfold PerContext.get? at record
    rwa [ContextId.index_ofIndex (Nat.lt_of_lt_of_le inside few)] at record
  have packets : ((List.range config.parallelism.toNat).map fun i =>
      (config.engineConfig.share i).toNat).sum = config.count.toNat :=
    EngineConfig.sum_share (EngineConfig.contexts_pos valid)
  -- What is left is to add up: the shares come to all packets, and nothing was given up.
  have total := StatsStore.total_eq known
  rw [size] at total
  change _ = Counters.mk (UInt64.ofNat ((List.range config.parallelism.toNat).map fun i =>
    (config.engineConfig.share i).toNat).sum) _ _ at total
  rw [packets, UInt64.ofNat_toNat, List.map_const', List.sum_replicate_nat, Nat.mul_zero] at total
  exact total

/-- A configuration that passes its check can be replayed: whatever order the workers take their
turns in, every packet is sent and none is given up. -/
theorem replay_of_check {built : List LogEvent × List Template}
    (valid : config.validate = .ok ()) (templates : config.buildTemplates = .ok built)
    (few : config.parallelism.toNat ≤ UInt32.size) (machine : Machine) (schedule : List Nat) :
    ∃ frames, generate config.generator = .ok frames ∧ frames ≠ [] ∧
      (∃ events, config.check = .ok (events, frames.length)) ∧
      ∃ events, config.replay machine schedule = .ok (events,
        ⟨config.count, UInt64.ofNat ((List.range config.parallelism.toNat).map fun i =>
          ((List.range (config.engineConfig.share i).toNat).map (lengthAt frames)).sum).sum,
          0⟩) := by
  obtain ⟨engineValid, short⟩ := validate_eq_ok valid
  obtain ⟨frames, generated, accepted⟩ := buildTemplates_eq_ok templates
  have lengths := effectiveLength_templatesFrom accepted
  have number : built.2.length = frames.length := by
    simpa using congrArg List.length lengths
  have framed := generate_ne_nil generated
  have filled : built.2 ≠ [] := by
    intro nothing
    rw [nothing] at number
    exact framed (List.length_eq_zero_iff.1 number.symm)
  refine ⟨frames, generated, framed, ⟨_, check_eq_ok.2 ⟨valid, built, templates,
    Prod.ext rfl number.symm⟩⟩, ?_⟩
  -- The frames are there, so the table can be filled, and the seed fits every buffer.
  obtain ⟨report, installed⟩ := install_prepared config filled
  rw [← size_seed] at short
  obtain ⟨started, start, underway, running⟩ :=
    (idle_prepared built.2 engineValid).start (fun _ => ()) few short
  rw [← totals_prepared engineValid few filled lengths underway running schedule]
  exact ⟨_, bind_eq_ok.2 ⟨(), mapError_eq_ok.2 valid, bind_eq_ok.2 ⟨built, templates,
    bind_eq_ok.2 ⟨_, mapError_eq_ok.2 (make_prepared engineValid), bind_eq_ok.2 ⟨_,
      mapError_eq_ok.2 installed, bind_eq_ok.2 ⟨started, mapError_eq_ok.2 start, rfl⟩⟩⟩⟩⟩⟩

/-- Three packets on two contexts, with frames of two octets and of one octet in turn. -/
def threePackets : RunConfig :=
  { default .single with
    parallelism := 2
    count := 3
    generator := .raw ⟨[⟨.zeros, "", 2⟩, ⟨.zeros, "", 1⟩]⟩ }

theorem replay_of_check_threePackets :
    threePackets.validate = .ok () ∧
    (∃ built, threePackets.buildTemplates = .ok built) ∧
    threePackets.parallelism.toNat ≤ UInt32.size ∧
    ∃ events, threePackets.replay .single [1, 0, 1] = .ok (events, ⟨3, 5, 0⟩) := by
  have valid : threePackets.validate = .ok () := rfl
  have generated : generate threePackets.generator = .ok [[0, 0], [0]] := rfl
  have built : threePackets.buildTemplates = .ok (threePackets.generationEvents [[0, 0], [0]],
      [⟨2, Template.pad [0, 0], Template.size_pad (by decide)⟩,
        ⟨1, Template.pad [0], Template.size_pad (by decide)⟩]) := rfl
  have few : threePackets.parallelism.toNat ≤ UInt32.size := by decide
  obtain ⟨frames, same, -, -, events, run⟩ := replay_of_check valid built few .single [1, 0, 1]
  cases generated.symm.trans same
  exact ⟨valid, ⟨_, built⟩, few, events, run⟩

end RunConfig

end FrameReplay
