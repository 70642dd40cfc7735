import Mathlib.Data.List.Forall2
import FrameReplay.Proofs.RoundRobin
import FrameReplay.Run.Replay

/-!
# Generated frames

What the later stages of a run rely on: a generator that succeeds gives at least one frame
(`generate_ne_nil`), a frame keeps its length as a template, and the frame that stands in for
received traffic has the length that was asked for.
-/

namespace FrameReplay

/-! ## Stages that succeed -/

section Stages

variable {ε δ α γ : Type}

/-- Two stages one after the other succeed only if both do. -/
theorem bind_eq_ok {first : Except ε α} {later : α → Except ε γ} {result : γ} :
    (first >>= later) = .ok result ↔ ∃ value, first = .ok value ∧ later value = .ok result := by
  cases first with
  | error cause =>
    constructor
    · intro h
      cases h
    · rintro ⟨_, h, _⟩
      cases h
  | ok value =>
    constructor
    · intro h
      exact ⟨value, rfl, h⟩
    · rintro ⟨_, h, h'⟩
      cases h
      exact h'

theorem bind_eq_error {first : Except ε α} {later : α → Except ε γ} {cause : ε} :
    (first >>= later) = .error cause ↔
      first = .error cause ∨ ∃ value, first = .ok value ∧ later value = .error cause := by
  cases first with
  | error failure =>
    constructor
    · intro h
      cases h
      exact .inl rfl
    · rintro (h | ⟨_, h, _⟩)
      · cases h
        rfl
      · cases h
  | ok value =>
    constructor
    · intro h
      exact .inr ⟨value, rfl, h⟩
    · rintro (h | ⟨_, h, h'⟩)
      · cases h
      · cases h
        exact h'

theorem mapError_eq_ok {outcome : Except ε α} {rename : ε → δ} {result : α} :
    outcome.mapError rename = .ok result ↔ outcome = .ok result := by
  cases outcome with
  | error cause => exact ⟨nofun, nofun⟩
  | ok value => exact ⟨fun h => by cases h; rfl, fun h => by cases h; rfl⟩

/-- A stage for every item succeeds with the results of the items in order. -/
theorem mapM_eq_ok_iff {f : α → Except ε γ} {items : List α} {results : List γ} :
    items.mapM f = .ok results ↔
      List.Forall₂ (fun item result => f item = .ok result) items results := by
  induction items generalizing results with
  | nil =>
    rw [List.forall₂_nil_left_iff]
    exact ⟨fun h => by cases h; rfl, fun h => by rw [h]; rfl⟩
  | cons item items ih =>
    rw [List.mapM_cons, bind_eq_ok, List.forall₂_cons_left_iff]
    constructor
    · rintro ⟨result, first, h⟩
      obtain ⟨rest, others, h⟩ := bind_eq_ok.1 h
      cases h
      exact ⟨result, rest, first, ih.1 others, rfl⟩
    · rintro ⟨result, rest, first, others, rfl⟩
      exact ⟨result, first, bind_eq_ok.2 ⟨rest, ih.2 others, rfl⟩⟩

theorem mapIdx_const (f : α → γ) (items : List α) :
    items.mapIdx (fun _ => f) = items.map f :=
  List.ext_getElem (by simp) (by simp)

/-- A stage that does for every item of a list what is said of it and its place. -/
theorem mapM_mapIdx {m : Type → Type} [Monad m] [LawfulMonad m] {α γ δ : Type} {f : Nat → α → γ}
    {g : γ → m δ} {result : Nat → α → δ} (h : ∀ i item, g (f i item) = pure (result i item))
    (items : List α) : (items.mapIdx f).mapM g = pure (items.mapIdx result) := by
  induction items generalizing f result with
  | nil => exact List.mapM_nil
  | cons item items ih =>
    rw [List.mapIdx_cons, List.mapM_cons, h 0 item, ih fun i => h (i + 1), pure_bind, pure_bind,
      List.mapIdx_cons]

theorem length_of_mapM_eq_ok {f : α → Except ε γ} {items : List α} {results : List γ}
    (h : items.mapM f = .ok results) : results.length = items.length :=
  (mapM_eq_ok_iff.1 h).length_eq.symm

theorem exists_mapM_eq_ok_iff {f : α → Except ε γ} {items : List α} :
    (∃ results, items.mapM f = .ok results) ↔ ∀ item ∈ items, ∃ result, f item = .ok result := by
  simp only [mapM_eq_ok_iff]
  induction items with
  | nil => exact ⟨fun _ => nofun, fun _ => ⟨[], .nil⟩⟩
  | cons item items ih =>
    rw [List.forall_mem_cons, ← ih]
    constructor
    · rintro ⟨_, _ | ⟨first, others⟩⟩
      exact ⟨⟨_, first⟩, _, others⟩
    · rintro ⟨⟨result, first⟩, results, others⟩
      exact ⟨result :: results, .cons first others⟩

/-- What is measured on the results is what the items say, if it is for each of them. -/
theorem map_eq_of_mapM_eq_ok {f : α → Except ε γ} {items : List α} {results : List γ}
    {measure : γ → δ} {size : α → δ} (h : items.mapM f = .ok results)
    (each : ∀ item ∈ items, ∀ result, f item = .ok result → measure result = size item) :
    results.map measure = items.map size := by
  have paired := mapM_eq_ok_iff.1 h
  -- The induction is on the pairs of items and results, not on the stage.
  clear h
  induction paired with
  | nil => rfl
  | cons first _ ih =>
    rw [List.forall_mem_cons] at each
    rw [List.map_cons, List.map_cons, each.1 _ first, ih each.2]

/-- A stage that fails for a list fails for one of its items. -/
theorem exists_of_mapM_eq_error {f : α → Except ε γ} {items : List α} {cause : ε}
    (h : items.mapM f = .error cause) :
    ∃ item ∈ items, f item = .error cause := by
  induction items with
  | nil => cases h
  | cons item items ih =>
    rw [List.mapM_cons] at h
    rcases bind_eq_error.1 h with first | ⟨result, -, h⟩
    · exact ⟨item, List.mem_cons_self, first⟩
    · rcases bind_eq_error.1 h with others | ⟨rest, -, h⟩
      · obtain ⟨later, member, failed⟩ := ih others
        exact ⟨later, List.mem_cons_of_mem item member, failed⟩
      · cases h

end Stages

/-! ## Lengths of frames -/

namespace Frame

theorem length_ofUdp? {headers : UdpHeaders} {payload frame : Octets}
    (h : ofUdp? headers payload = some frame) : frame.length = headerBytes + payload.length := by
  unfold ofUdp? at h
  split at h
  · cases h
    simp only [ethernetHeader, ipv4Header, udpHeader, Mac.toOctets, Ipv4.toOctets, be16,
      List.length_append, List.length_cons, List.length_nil, headerBytes]
  · cases h

theorem length_sample (length : Nat) : (sample length).length = length := by
  unfold sample
  by_cases short : length < headerBytes
  · rw [if_pos short, List.length_replicate]
  · rw [if_neg short]
    cases made : ofUdp? sampleHeaders (List.replicate (length - headerBytes) 120) with
    | none => exact List.length_replicate
    | some frame =>
      rw [Option.getD_some, length_ofUdp? made, List.length_replicate]
      omega

end Frame

/-- Frames keep their number and lengths as templates. -/
theorem RunConfig.effectiveLength_templatesFrom {frames : List Octets} {index : Nat}
    {templates : List Template} (h : templatesFrom index frames = .ok templates) :
    templates.map Template.effectiveLength = frames.map List.length := by
  induction frames generalizing index templates with
  | nil =>
    cases h
    rfl
  | cons frame frames ih =>
    unfold templatesFrom at h
    cases first : Template.ofFrame frame with
    | error cause => rw [first] at h; cases h
    | ok template =>
      cases others : templatesFrom (index + 1) frames with
      | error cause => simp only [first, others] at h; cases h
      | ok rest =>
        simp only [first, others] at h
        cases h
        rw [List.map_cons, List.map_cons, Template.effectiveLength_ofFrame first, ih others]

/-! ## Numbers of frames -/

namespace Imix

variable {imix : ImixConfig} {sizes : List UInt16}

theorem validate_of_schedule (h : schedule imix = .ok sizes) : imix.validate = .ok () := by
  obtain ⟨checked, valid, -⟩ := bind_eq_ok.1 h
  exact valid

theorem length_schedule (h : schedule imix = .ok sizes) : sizes.length = imix.totalWeight := by
  have valid := validate_of_schedule h
  rw [schedule_of_validate valid] at h
  cases h
  rw [List.length_map, length_cycle valid]

theorem schedule_ne_nil (h : schedule imix = .ok sizes) : sizes ≠ [] := by
  intro none
  have length := length_schedule h
  rw [none] at length
  exact totalWeight_ne_zero (validate_of_schedule h) length.symm

end Imix

theorem UdpConfig.frames_ne_nil {config : UdpConfig} {frames : List Octets}
    (h : config.frames = .ok frames) : frames ≠ [] := by
  unfold UdpConfig.frames at h
  split at h
  · obtain ⟨frame, -, h⟩ := bind_eq_ok.1 h
    cases h
    exact List.cons_ne_nil _ _
  · obtain ⟨sizes, scheduled, h⟩ := bind_eq_ok.1 h
    have length := length_of_mapM_eq_ok h
    intro none
    rw [none] at length
    exact Imix.schedule_ne_nil (mapError_eq_ok.1 scheduled) (List.length_eq_zero_iff.1 length.symm)

theorem RawConfig.frames_ne_nil {config : RawConfig} (valid : config.validate = .ok ())
    {frames : List Octets} (h : (GeneratorConfig.raw config).frames = .ok frames) :
    frames ≠ [] := by
  have length := length_of_mapM_eq_ok h
  intro none
  rw [none] at length
  unfold RawConfig.validate at valid
  rw [List.length_eq_zero_iff.1 length.symm] at valid
  cases valid

/-- A generator that succeeds was found in order and gives its frames as they are. -/
theorem generate_eq_ok {config : GeneratorConfig} {frames : List Octets}
    (h : generate config = .ok frames) :
    config.validate = .ok () ∧ config.frames = .ok frames := by
  obtain ⟨checked, valid, h⟩ := bind_eq_ok.1 h
  obtain ⟨all, made, h⟩ := bind_eq_ok.1 h
  split at h
  · cases h
  · cases h
    exact ⟨mapError_eq_ok.1 valid, made⟩

/-- A generator that succeeds gives at least one frame. -/
theorem generate_ne_nil {config : GeneratorConfig} {frames : List Octets}
    (h : generate config = .ok frames) : frames ≠ [] := by
  obtain ⟨valid, made⟩ := generate_eq_ok h
  cases config with
  | udp config => exact config.frames_ne_nil made
  | raw config => exact config.frames_ne_nil valid made

end FrameReplay
