import FrameReplay.Proofs.FrameSizes
import FrameReplay.Proofs.HexText

/-!
# Reported frames as templates

A report that shows its frame in hexadecimal digits can be turned into a raw template.  The
templates of all reports pass the checks of raw settings, which are others than those that the
frames came from, and stand for the same frames (`generate_reimport`).
-/

namespace FrameReplay

/-- The template that spells a frame out in hexadecimal digits. -/
def RawTemplate.spelling (frame : Octets) : RawTemplate :=
  ⟨.hex, Text.Hex.toText frame, UInt64.ofNat frame.length⟩

/-- The template for the frame of a report, if the report shows the frame. -/
def TemplateReport.toRaw? (report : TemplateReport) : Option RawTemplate :=
  report.hex.map fun digits => ⟨.hex, digits, UInt64.ofNat report.summary.length⟩

/-- The templates of reports spell out the frames in order. -/
theorem TemplateReport.mapM_toRaw?_ofFrames (frames : List Octets) :
    (ofFrames true frames).mapM toRaw? = some (frames.map RawTemplate.spelling) := by
  have reread (index : Nat) (frame : Octets) :
      toRaw? (ofFrame true index frame) = pure (RawTemplate.spelling frame) := rfl
  rw [← mapIdx_const]
  exact mapM_mapIdx reread frames

namespace RawTemplate

theorem toNat_length_spelling {frame : Octets} (short : frame.length ≤ templateSize) :
    (spelling frame).length.toNat = frame.length := by
  have short' : frame.length ≤ 2048 := short
  change (UInt64.ofNat frame.length).toNat = _
  rw [UInt64.toNat_ofNat']
  omega

theorem decode_spelling {frame : Octets} (short : frame.length ≤ templateSize) :
    (spelling frame).decode = .ok frame := by
  have length := toNat_length_spelling short
  have data : (spelling frame).decodeData = .ok frame := decodeData_toText frame _
  rw [decode_of_data (by rwa [length]) data, length, if_neg (Nat.lt_irrefl _), List.take_length]

end RawTemplate

/-- Templates that spell out frames are in order if there are frames, no more than a table has
slots, and none of them is longer than a template. -/
theorem RawConfig.validate_spelling {frames : List Octets} (some : frames ≠ [])
    (few : frames.length ≤ defaultSlots) (short : ∀ frame ∈ frames, frame.length ≤ templateSize) :
    RawConfig.validate ⟨frames.map RawTemplate.spelling⟩ = .ok () := by
  rw [validate_eq_ok_iff]
  refine ⟨mt List.map_eq_nil_iff.1 some, ?_, ?_⟩
  · rwa [List.length_map]
  · rw [List.forall_mem_map]
    intro frame member
    rw [RawTemplate.toNat_length_spelling (short frame member)]
    exact short frame member

theorem mapM_decode_spelling {frames : List Octets}
    (short : ∀ frame ∈ frames, frame.length ≤ templateSize) :
    (frames.map RawTemplate.spelling).mapM RawTemplate.decode = .ok frames := by
  rw [mapM_eq_ok_iff, List.forall₂_map_left_iff, List.forall₂_same]
  exact fun frame member => RawTemplate.decode_spelling (short frame member)

/-- The frames of any settings, reported with their octets and taken as raw templates, make raw
settings that are in order and generate the same frames again. -/
theorem generate_reimport {config : RunConfig} {frames : List Octets}
    (h : generate config.generator = .ok frames) :
    ∃ reports templates, TemplateReport.describe config.generator true = .ok reports ∧
      reports.mapM TemplateReport.toRaw? = some templates ∧
      RawConfig.validate ⟨templates⟩ = .ok () ∧
      generate (.raw ⟨templates⟩) = .ok frames := by
  obtain ⟨valid, made⟩ := generate_eq_ok h
  have short : ∀ frame ∈ frames, frame.length ≤ templateSize :=
    fun _ => GeneratorConfig.length_le_of_mem_frames valid made
  have few : frames.length ≤ defaultSlots := by
    have within := GeneratorConfig.frameLengths_within valid
      (GeneratorConfig.frameLengths_of_frames valid made)
    rw [List.length_map] at within
    exact within.2.1
  -- Whatever the frames came from, they keep the limits of raw settings.
  have ordered := RawConfig.validate_spelling (generate_ne_nil h) few short
  refine ⟨TemplateReport.ofFrames true frames, frames.map RawTemplate.spelling, ?_,
    TemplateReport.mapM_toRaw?_ofFrames frames, ordered, ?_⟩
  · unfold TemplateReport.describe
    rw [h]
    rfl
  · have accepted :
        (GeneratorConfig.raw ⟨frames.map RawTemplate.spelling⟩).validate = .ok () := ordered
    rw [GeneratorConfig.generate_eq_frames accepted]
    exact mapM_decode_spelling short

/-- A frame that is cut off behind its second octet, and an empty one. -/
def cutAndEmpty : RunConfig :=
  { RunConfig.default .unknown with generator := .raw ⟨[⟨.hex, "0A ff 00", 2⟩, ⟨.zeros, "", 0⟩]⟩ }

theorem generate_reimport_cutAndEmpty :
    generate cutAndEmpty.generator = .ok [[10, 255], []] ∧
    ∃ reports templates, TemplateReport.describe cutAndEmpty.generator true = .ok reports ∧
      reports.mapM TemplateReport.toRaw? = some templates ∧
      generate (.raw ⟨templates⟩) = .ok [[10, 255], []] := by
  have made : generate cutAndEmpty.generator = .ok [[10, 255], []] := by decide
  obtain ⟨reports, templates, described, read, -, again⟩ := generate_reimport made
  exact ⟨made, reports, templates, described, read, again⟩

end FrameReplay
