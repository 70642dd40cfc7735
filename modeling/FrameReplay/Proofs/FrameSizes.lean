import FrameReplay.Proofs.Inspection

/-!
# Sizes of generated frames

The payload of a UDP frame, the sizes and weights of a mix, and the number and lengths of raw
templates are limited in different places.  Together the limits keep every frame within a template:
once the settings are found in order, nothing fails but the reading of raw data
(`generate_iff_validate`).
-/

namespace FrameReplay

/-! ## Settings that are in order -/

theorem RawConfig.validate_eq_ok_iff (raw : RawConfig) :
    raw.validate = .ok () ↔
      raw.templates ≠ [] ∧ raw.templates.length ≤ defaultSlots ∧
      ∀ template ∈ raw.templates, template.length.toNat ≤ templateSize := by
  unfold validate
  by_cases none : raw.templates = []
  · rw [if_pos (List.isEmpty_iff.2 none)]
    exact ⟨nofun, fun h => absurd none h.1⟩
  · rw [if_neg (mt List.isEmpty_iff.1 none)]
    by_cases many : defaultSlots < raw.templates.length
    · rw [if_pos many]
      exact ⟨nofun, fun h => absurd h.2.1 (Nat.not_le_of_lt many)⟩
    · -- The first template that is too long, if any, is looked up by its place.
      rw [if_neg many]
      simp only [← List.find?_eq_getElem?_findIdx]
      split
      · rename_i template found
        have long := List.find?_some found
        have member := List.mem_of_find?_eq_some found
        exact ⟨nofun, fun h => absurd (h.2.2 template member)
          (Nat.not_le_of_lt (of_decide_eq_true long))⟩
      · rename_i short
        refine ⟨fun _ => ⟨none, Nat.le_of_not_lt many, fun template member => ?_⟩, fun _ => rfl⟩
        exact Nat.le_of_not_lt (mt decide_eq_true (List.find?_eq_none.1 short template member))

/-! ## Lengths of frames -/

namespace Imix

variable {imix : ImixConfig} {sizes : List UInt16}

/-- The sizes of a schedule are sizes of patterns, so they are within the limits. -/
theorem size_of_mem_schedule (h : schedule imix = .ok sizes) {size : UInt16}
    (member : size ∈ sizes) : headerBytes ≤ size.toNat ∧ size.toNat ≤ templateSize := by
  have valid := validate_of_schedule h
  rw [schedule_of_validate valid] at h
  cases h
  obtain ⟨pattern, inside, -, rfl⟩ := size_of_mem_cycle valid member
  exact ((ImixConfig.validate_eq_ok_iff imix).1 valid).1 pattern inside

end Imix

theorem length_of_countingFrame {headers : UdpHeaders} {length : Nat} {frame : Octets}
    (h : countingFrame headers length = .ok frame) : frame.length = headerBytes + length := by
  unfold countingFrame udpFrame at h
  split at h
  · rename_i made
    cases h
    rw [Frame.length_ofUdp? made, Frame.countingPayload, List.length_map, List.length_range]
  · cases h

/-- A payload that fits a template fits a packet. -/
theorem exists_countingFrame (headers : UdpHeaders) {length : Nat} (fits : length ≤ maxPayload) :
    ∃ frame, countingFrame headers length = .ok frame := by
  have short : (Frame.countingPayload length).length ≤ Frame.maxUdpPayload := by
    rw [Frame.countingPayload, List.length_map, List.length_range]
    exact Nat.le_trans fits (by decide)
  exact ⟨_, udpFrame_of_le headers short⟩

namespace RawTemplate

variable {template : RawTemplate}

/-- A declared length that a template can have cuts the data off, or it is more than there is. -/
theorem decode_of_data {data : Octets} (short : template.length.toNat ≤ templateSize)
    (read : template.decodeData = .ok data) :
    template.decode =
      if data.length < template.length.toNat then
        .error (.frame (.shortData data.length template.length))
      else .ok (data.take template.length.toNat) := by
  unfold decode
  rw [if_neg (Nat.not_lt.2 short), read]

theorem exists_of_decode {frame : Octets} (h : template.decode = .ok frame) :
    ∃ data, template.decodeData = .ok data ∧ template.length.toNat ≤ data.length ∧
      frame = data.take template.length.toNat := by
  unfold decode at h
  split at h
  · cases h
  · split at h
    · cases h
    · rename_i data read
      split at h
      · cases h
      · rename_i enough
        cases h
        exact ⟨data, read, Nat.le_of_not_lt enough, rfl⟩

theorem length_of_decode {frame : Octets} (h : template.decode = .ok frame) :
    frame.length = template.length.toNat := by
  obtain ⟨data, -, enough, rfl⟩ := exists_of_decode h
  exact List.length_take_of_le enough

/-- Reading a template does not find fault with what is built or generated. -/
theorem fault_of_decode {cause : GenerateError} (h : template.decode = .error cause) (n : Nat) :
    cause ≠ .frame (.payloadTooLarge n) ∧ cause ≠ .frame (.frameTooLarge n) := by
  unfold decode at h
  split at h
  · cases h
    exact ⟨nofun, nofun⟩
  · split at h
    · cases h
      exact ⟨nofun, nofun⟩
    · split at h
      · cases h
        exact ⟨nofun, nofun⟩
      · cases h

end RawTemplate

namespace GeneratorConfig

/-- The lengths of the frames that the settings describe, in order. -/
def frameLengths : GeneratorConfig → Except ConfigError (List Nat)
  | .udp config =>
    match config.imix with
    | none => .ok [headerBytes + config.payloadSize.toNat]
    | some imix => (Imix.schedule imix).map (·.map UInt16.toNat)
  | .raw config => .ok (config.templates.map (·.length.toNat))

end GeneratorConfig

namespace UdpConfig

variable {config : UdpConfig} {imix : ImixConfig} {sizes : List UInt16}

theorem validate_of_imix (mix : config.imix = some imix) : config.validate = imix.validate := by
  unfold validate
  rw [mix]

theorem validate_eq_ok_iff_of_no_imix (single : config.imix = none) :
    config.validate = .ok () ↔ config.payloadSize.toNat ≤ maxPayload := by
  unfold validate
  rw [single]
  by_cases large : maxPayload < config.payloadSize.toNat
  · simp only [if_pos large]
    exact ⟨nofun, fun h => absurd h (Nat.not_le_of_lt large)⟩
  · simp only [if_neg large]
    exact ⟨fun _ => Nat.le_of_not_lt large, fun _ => trivial⟩

theorem frames_of_no_imix (single : config.imix = none) :
    config.frames = (do
      return [← countingFrame config.toUdpHeaders config.payloadSize.toNat]) := by
  unfold frames
  rw [single]

theorem frames_of_schedule (mix : config.imix = some imix)
    (scheduled : Imix.schedule imix = .ok sizes) :
    config.frames =
      sizes.mapM fun size => countingFrame config.toUdpHeaders (size.toNat - headerBytes) := by
  unfold frames
  simp only [mix, scheduled]
  rfl

theorem frameLengths_of_no_imix (single : config.imix = none) :
    (GeneratorConfig.udp config).frameLengths =
      .ok [headerBytes + config.payloadSize.toNat] := by
  unfold GeneratorConfig.frameLengths
  simp only [single]

theorem frameLengths_of_schedule (mix : config.imix = some imix)
    (scheduled : Imix.schedule imix = .ok sizes) :
    (GeneratorConfig.udp config).frameLengths = .ok (sizes.map UInt16.toNat) := by
  unfold GeneratorConfig.frameLengths
  simp only [mix, scheduled]
  rfl

/-- Every size of a schedule leaves room for the headers, and what is left fits. -/
theorem exists_countingFrame_of_mem (headers : UdpHeaders)
    (scheduled : Imix.schedule imix = .ok sizes) {size : UInt16} (member : size ∈ sizes) :
    ∃ frame, countingFrame headers (size.toNat - headerBytes) = .ok frame := by
  -- The size is at least that of the headers, so the difference is what it says.
  have within := Imix.size_of_mem_schedule scheduled member
  apply exists_countingFrame
  show size.toNat - headerBytes ≤ templateSize - headerBytes
  omega

/-- Settings that are in order describe frames that can be built. -/
theorem exists_frames (valid : config.validate = .ok ()) :
    ∃ frames, config.frames = .ok frames := by
  cases mix : config.imix with
  | none =>
    have fits := (validate_eq_ok_iff_of_no_imix mix).1 valid
    obtain ⟨frame, built⟩ := exists_countingFrame config.toUdpHeaders fits
    rw [frames_of_no_imix mix, built]
    exact ⟨[frame], rfl⟩
  | some imix =>
    rw [validate_of_imix mix] at valid
    have scheduled := Imix.schedule_of_validate valid
    rw [frames_of_schedule mix scheduled]
    apply exists_mapM_eq_ok_iff.2
    intro size member
    exact exists_countingFrame_of_mem config.toUdpHeaders scheduled member

theorem frameLengths_of_frames {frames : List Octets} (valid : config.validate = .ok ())
    (made : config.frames = .ok frames) :
    (GeneratorConfig.udp config).frameLengths = .ok (frames.map List.length) := by
  cases mix : config.imix with
  | none =>
    rw [frames_of_no_imix mix] at made
    obtain ⟨frame, built, done⟩ := bind_eq_ok.1 made
    cases done
    rw [frameLengths_of_no_imix mix, List.map_singleton, length_of_countingFrame built]
  | some imix =>
    rw [validate_of_imix mix] at valid
    have scheduled := Imix.schedule_of_validate valid
    rw [frames_of_schedule mix scheduled] at made
    rw [frameLengths_of_schedule mix scheduled]
    refine congrArg Except.ok (map_eq_of_mapM_eq_ok made fun size member frame built => ?_).symm
    -- The headers come back on top of the payload.
    have within := Imix.size_of_mem_schedule scheduled member
    rw [length_of_countingFrame built]
    omega

theorem frameLengths_within {lengths : List Nat} (valid : config.validate = .ok ())
    (h : (GeneratorConfig.udp config).frameLengths = .ok lengths) :
    lengths ≠ [] ∧ lengths.length ≤ defaultSlots ∧ ∀ length ∈ lengths, length ≤ templateSize := by
  cases mix : config.imix with
  | none =>
    rw [frameLengths_of_no_imix mix] at h
    cases h
    have fits : config.payloadSize.toNat ≤ templateSize - headerBytes :=
      (validate_eq_ok_iff_of_no_imix mix).1 valid
    have room : headerBytes ≤ templateSize := by decide
    refine ⟨List.cons_ne_nil _ _, (by decide : 1 ≤ defaultSlots), ?_⟩
    rw [List.forall_mem_singleton]
    omega
  | some imix =>
    rw [validate_of_imix mix] at valid
    have scheduled := Imix.schedule_of_validate valid
    rw [frameLengths_of_schedule mix scheduled] at h
    cases h
    obtain ⟨-, -, few⟩ := (ImixConfig.validate_eq_ok_iff imix).1 valid
    refine ⟨mt List.map_eq_nil_iff.1 (Imix.schedule_ne_nil scheduled), ?_, ?_⟩
    · rw [List.length_map, Imix.length_schedule scheduled]
      exact few
    · rw [List.forall_mem_map]
      exact fun size member => (Imix.size_of_mem_schedule scheduled member).2

end UdpConfig

namespace GeneratorConfig

variable {config : GeneratorConfig}

/-- The frames have the lengths that the settings describe. -/
theorem frameLengths_of_frames {frames : List Octets} (valid : config.validate = .ok ())
    (made : config.frames = .ok frames) :
    config.frameLengths = .ok (frames.map List.length) := by
  cases config with
  | udp config => exact config.frameLengths_of_frames valid made
  | raw config =>
    have lengths := map_eq_of_mapM_eq_ok made fun template _ frame read =>
      RawTemplate.length_of_decode read
    exact congrArg Except.ok lengths.symm

/-- Settings that are in order describe at least one frame, no more frames than a table has slots,
and no frame that is longer than a template. -/
theorem frameLengths_within {lengths : List Nat} (valid : config.validate = .ok ())
    (h : config.frameLengths = .ok lengths) :
    lengths ≠ [] ∧ lengths.length ≤ defaultSlots ∧ ∀ length ∈ lengths, length ≤ templateSize := by
  cases config with
  | udp config => exact config.frameLengths_within valid h
  | raw config =>
    cases h
    obtain ⟨some, few, short⟩ := (RawConfig.validate_eq_ok_iff config).1 valid
    refine ⟨mt List.map_eq_nil_iff.1 some, ?_, ?_⟩
    · rwa [List.length_map]
    · rw [List.forall_mem_map]
      exact short

theorem length_le_of_mem_frames {frames : List Octets} (valid : config.validate = .ok ())
    (made : config.frames = .ok frames) {frame : Octets} (member : frame ∈ frames) :
    frame.length ≤ templateSize := by
  obtain ⟨-, -, short⟩ := frameLengths_within valid (frameLengths_of_frames valid made)
  exact short _ (List.mem_map_of_mem member)

/-- Frames of settings that are in order pass the check of their sizes. -/
theorem generate_eq_frames (valid : config.validate = .ok ()) :
    generate config = config.frames := by
  cases made : config.frames with
  | error cause =>
    unfold generate
    rw [valid, made]
    rfl
  | ok frames =>
    have short : frames.find? (fun frame => templateSize < frame.length) = none := by
      rw [List.find?_eq_none]
      intro frame member long
      have fits := length_le_of_mem_frames valid made member
      exact absurd fits (Nat.not_le_of_lt (of_decide_eq_true long))
    refine bind_eq_ok.2 ⟨(), mapError_eq_ok.2 valid, bind_eq_ok.2 ⟨frames, made, ?_⟩⟩
    rw [short]
    rfl

theorem generate_of_invalid {cause : ConfigError} (h : config.validate = .error cause) :
    generate config = .error (.config cause) := by
  unfold generate
  rw [h]
  rfl

/-- A generator fails only because its settings are refused, or because a raw template cannot be
read. -/
theorem generate_eq_error {cause : GenerateError} (h : generate config = .error cause) :
    (∃ refusal, config.validate = .error refusal ∧ cause = .config refusal) ∨
    ∃ raw : RawConfig, config = .raw raw ∧
      ∃ template ∈ raw.templates, template.decode = .error cause := by
  cases checked : config.validate with
  | error refusal =>
    rw [generate_of_invalid checked] at h
    cases h
    exact .inl ⟨refusal, rfl, rfl⟩
  | ok done =>
    rw [generate_eq_frames checked] at h
    cases config with
    | udp config =>
      obtain ⟨frames, made⟩ := config.exists_frames checked
      cases made.symm.trans h
    | raw config => exact .inr ⟨config, rfl, exists_of_mapM_eq_error h⟩

end GeneratorConfig

/-- UDP settings generate frames if and only if they are in order.  Raw settings do if and only if
they are in order and every template can be read.  There are then as many frames as fit a table,
each of them fits a template, and they have the lengths that the settings say.  No size of a
schedule is too small for the headers, no payload too large for a packet, and no frame too long for
the check in the end: what fails is the settings, or a raw template. -/
theorem generate_iff_validate :
    (∀ udp : UdpConfig, (∃ frames, generate (.udp udp) = .ok frames) ↔ udp.validate = .ok ()) ∧
    (∀ raw : RawConfig, (∃ frames, generate (.raw raw) = .ok frames) ↔
      raw.validate = .ok () ∧ ∀ template ∈ raw.templates, ∃ frame, template.decode = .ok frame) ∧
    (∀ config frames, generate config = .ok frames →
      (1 ≤ frames.length ∧ frames.length ≤ 2048) ∧
      (∀ frame ∈ frames, frame.length ≤ 2048 ∧
        ∃ template, Template.ofFrame frame = .ok template) ∧
      config.frameLengths = .ok (frames.map List.length)) ∧
    (∀ (headers : UdpHeaders) imix sizes, Imix.schedule imix = .ok sizes → ∀ size ∈ sizes,
      42 ≤ size.toNat ∧ ∃ frame, countingFrame headers (size.toNat - headerBytes) = .ok frame) ∧
    (∀ (config : GeneratorConfig) frames, config.validate = .ok () → config.frames = .ok frames →
      ∀ frame ∈ frames, frame.length ≤ 2048) ∧
    (∀ config cause, generate config = .error cause →
      ((∃ refusal, config.validate = .error refusal ∧ cause = .config refusal) ∨
        ∃ raw : RawConfig, config = .raw raw ∧
          ∃ template ∈ raw.templates, template.decode = .error cause) ∧
      ∀ n, cause ≠ .frame (.payloadTooLarge n) ∧ cause ≠ .frame (.frameTooLarge n)) := by
  refine ⟨?_, ?_, ?_, ?_, ?_, ?_⟩
  · intro udp
    constructor
    · rintro ⟨frames, h⟩
      exact (generate_eq_ok h).1
    · intro valid
      have same : generate (.udp udp) = udp.frames := GeneratorConfig.generate_eq_frames valid
      rw [same]
      exact UdpConfig.exists_frames valid
  · intro raw
    constructor
    · rintro ⟨frames, h⟩
      obtain ⟨valid, made⟩ := generate_eq_ok h
      exact ⟨valid, exists_mapM_eq_ok_iff.1 ⟨frames, made⟩⟩
    · rintro ⟨valid, each⟩
      have same : generate (.raw raw) = raw.templates.mapM RawTemplate.decode :=
        GeneratorConfig.generate_eq_frames valid
      rw [same]
      exact exists_mapM_eq_ok_iff.2 each
  · intro config frames h
    obtain ⟨valid, made⟩ := generate_eq_ok h
    have lengths := GeneratorConfig.frameLengths_of_frames valid made
    obtain ⟨-, few, -⟩ := GeneratorConfig.frameLengths_within valid lengths
    refine ⟨⟨?_, ?_⟩, ?_, lengths⟩
    · exact List.length_pos_iff.2 (generate_ne_nil h)
    · rwa [List.length_map] at few
    · intro frame member
      have fits := GeneratorConfig.length_le_of_mem_frames valid made member
      exact ⟨fits, _, dif_pos fits⟩
  · intro headers imix sizes scheduled size member
    exact ⟨(Imix.size_of_mem_schedule scheduled member).1,
      UdpConfig.exists_countingFrame_of_mem headers scheduled member⟩
  · intro config frames valid made frame
    exact GeneratorConfig.length_le_of_mem_frames valid made
  · intro config cause h
    have why := GeneratorConfig.generate_eq_error h
    refine ⟨why, fun n => ?_⟩
    rcases why with ⟨refusal, -, rfl⟩ | ⟨raw, -, template, -, failed⟩
    · exact ⟨nofun, nofun⟩
    · exact RawTemplate.fault_of_decode failed n

/-- A mix of the least and the greatest size.  The payload, which is too large, does not count. -/
example :
    let mix : ImixConfig := ⟨[⟨42, 1⟩, ⟨2048, 1⟩]⟩
    let config := GeneratorConfig.udp { UdpConfig.default with payloadSize := 5000, imix := mix }
    config.validate = .ok () ∧ config.frameLengths = .ok [42, 2048] := by
  decide

end FrameReplay
