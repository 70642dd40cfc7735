import FrameReplay.Proofs.AddressText
import FrameReplay.Proofs.Records
import FrameReplay.Run.Config

/-!
# Configurations, read back

A configuration is read back from the document it is written as.  Keys that are not required may be
left out of the document: the configuration then has its defaults in exactly these places
(`RunConfig.read_documentWithout`).
-/

namespace FrameReplay

variable (order : KeyOrder) (origin : Origin)

/-! ## Texts that stand for values -/

namespace Codec

theorem faithful_mac : mac.Faithful := by
  intro order origin value
  unfold mac
  simp only [Node.arrange, Mac.ofText?_toText]

theorem faithful_ipv4 : ipv4.Faithful := by
  intro order origin value
  unfold ipv4
  simp only [Node.arrange, Ipv4.ofText?_toText]

theorem faithful_encoding : encoding.Faithful := by
  intro order origin value
  cases value <;> rfl

theorem shallow_mac : mac.Shallow 0 := fun _ _ _ => rfl

theorem shallow_ipv4 : ipv4.Shallow 0 := fun _ _ _ => rfl

theorem shallow_encoding : encoding.Shallow 0 := fun _ _ _ => rfl

end Codec

/-! ## Logger -/

namespace LoggerConfig

/-- The logger with its defaults under the keys that are gone. -/
def without (config : LoggerConfig) (gone : String → Bool) : LoggerConfig where
  json := if gone "json" then default.json else config.json
  noColor := if gone "no_color" then default.noColor else config.noColor
  verbose := if gone "verbose" then default.verbose else config.verbose
  quiet := if gone "quiet" then default.quiet else config.quiet
  addCaller := if gone "add_caller" then default.addCaller else config.addCaller

theorem distinct : schema.Distinct := by decide

theorem picks (config : LoggerConfig) :
    schema.Picks origin (fun field => (field.write config).arrange order)
      fun given => config.without fun key => !given key where
  start := rfl
  read := by
    intro field member given
    simp only [schema, List.mem_cons, List.not_mem_nil, or_false] at member
    rcases member with rfl | rfl | rfl | rfl | rfl
    · rw [Codec.faithful_bool.read_field]
      simp [without, Codec.field]
    · rw [Codec.faithful_bool.read_field]
      simp [without, Codec.field]
    · rw [Codec.faithful_u8.read_field]
      simp [without, Codec.field]
    · rw [Codec.faithful_bool.read_field]
      simp [without, Codec.field]
    · rw [Codec.faithful_bool.read_field]
      simp [without, Codec.field]
  congr := by
    intro given given' same
    simp only [schema, Codec.field, List.forall_mem_cons] at same
    simp [without, same]

theorem read_remove (config : LoggerConfig) (gone : String → Bool) :
    schema.read origin (((schema.codec.write config).remove gone).arrange order) =
      .ok (config.without gone) := by
  have optional : schema.Optional := by decide
  have read := (picks order origin config).read_remove distinct gone optional.forall_required
  simp only [Bool.not_not] at read
  exact read

end LoggerConfig

/-! ## Mixes -/

namespace ImixPattern

theorem distinct : schema.Distinct := by decide

-- Both fields are required: the zeros are never seen outside of this lemma.
theorem picks (pattern : ImixPattern) :
    schema.Picks origin (fun field => (field.write pattern).arrange order) fun given =>
      { size := if given "size" then pattern.size else 0
        weight := if given "weight" then pattern.weight else 0 } where
  start := rfl
  read := by
    intro field member given
    simp only [schema, List.mem_cons, List.not_mem_nil, or_false] at member
    rcases member with rfl | rfl
    · rw [Codec.faithful_u16.read_field]
      simp [Codec.field]
    · rw [Codec.faithful_u32.read_field]
      simp [Codec.field]
  congr := by
    intro given given' same
    simp only [schema, Codec.field, List.forall_mem_cons] at same
    simp [same]

theorem faithful : schema.codec.Faithful :=
  Schema.faithful_codec distinct picks fun _ => rfl

theorem shallow : schema.codec.Shallow 1 := by
  apply Schema.shallow_codec
  intro field member pattern
  simp only [schema, List.mem_cons, List.not_mem_nil, or_false] at member
  rcases member with rfl | rfl
  · exact Codec.shallow_u16 _
  · exact Codec.shallow_u32 _

end ImixPattern

namespace ImixConfig

theorem distinct : schema.Distinct := by decide

theorem picks (imix : ImixConfig) :
    schema.Picks origin (fun field => (field.write imix).arrange order) fun given =>
      { patterns := if given "patterns" then imix.patterns else [] } where
  start := rfl
  read := by
    intro field member given
    rw [List.mem_singleton.1 member, ImixPattern.faithful.list.read_field]
    simp [Codec.field]
  congr := by
    intro given given' same
    simp only [schema, Codec.field, List.forall_mem_cons] at same
    simp [same]

theorem faithful : schema.codec.Faithful :=
  Schema.faithful_codec distinct picks fun _ => rfl

theorem shallow : schema.codec.Shallow 3 := by
  apply Schema.shallow_codec
  intro field member imix
  rw [List.mem_singleton.1 member]
  exact ImixPattern.shallow.list _

end ImixConfig

/-! ## UDP generator -/

namespace UdpConfig

/-- The settings with their defaults under the keys that are gone. -/
def without (config : UdpConfig) (gone : String → Bool) : UdpConfig where
  sourceMac := if gone "src_mac" then default.sourceMac else config.sourceMac
  destinationMac := if gone "dst_mac" then default.destinationMac else config.destinationMac
  sourceIp := if gone "src_ip" then default.sourceIp else config.sourceIp
  destinationIp := if gone "dst_ip" then default.destinationIp else config.destinationIp
  sourcePort := if gone "src_port" then default.sourcePort else config.sourcePort
  destinationPort := if gone "dst_port" then default.destinationPort else config.destinationPort
  ttl := if gone "ttl" then default.ttl else config.ttl
  payloadSize := if gone "payload_size" then default.payloadSize else config.payloadSize
  imix := if gone "imix" then default.imix else config.imix

theorem distinct : schema.Distinct := by decide

theorem faithful_imix : (Codec.option ImixConfig.schema.codec).Faithful :=
  ImixConfig.faithful.option fun _ => ⟨_, rfl⟩

theorem picks (config : UdpConfig) :
    schema.Picks origin (fun field => (field.write config).arrange order)
      fun given => config.without fun key => !given key where
  start := rfl
  read := by
    intro field member given
    simp only [schema, List.mem_cons, List.not_mem_nil, or_false] at member
    rcases member with rfl | rfl | rfl | rfl | rfl | rfl | rfl | rfl | rfl
    · rw [Codec.faithful_mac.read_field]
      simp [without, Codec.field]
    · rw [Codec.faithful_mac.read_field]
      simp [without, Codec.field]
    · rw [Codec.faithful_ipv4.read_field]
      simp [without, Codec.field]
    · rw [Codec.faithful_ipv4.read_field]
      simp [without, Codec.field]
    · rw [Codec.faithful_u16.read_field]
      simp [without, Codec.field]
    · rw [Codec.faithful_u16.read_field]
      simp [without, Codec.field]
    · rw [Codec.faithful_u8.read_field]
      simp [without, Codec.field]
    · rw [Codec.faithful_usize.read_field]
      simp [without, Codec.field]
    · rw [faithful_imix.read_field]
      simp [without, Codec.field]
  congr := by
    intro given given' same
    simp only [schema, Codec.field, List.forall_mem_cons] at same
    simp [without, same]

theorem name_ne_kindKey : ∀ field ∈ schema.fields, field.name ≠ GeneratorConfig.kindKey := by
  decide

theorem optional : schema.Optional := by decide

theorem shallow_write (config : UdpConfig) :
    ∀ field ∈ schema.fields, (field.write config).Shallow 3 := by
  -- Only a mix is more than a scalar.
  have scalar {node : Node} (shallow : node.Shallow 0) : node.Shallow 3 :=
    shallow.mono (Nat.zero_le _)
  intro field member
  simp only [schema, List.mem_cons, List.not_mem_nil, or_false] at member
  rcases member with rfl | rfl | rfl | rfl | rfl | rfl | rfl | rfl | rfl
  · exact scalar (Codec.shallow_mac _)
  · exact scalar (Codec.shallow_mac _)
  · exact scalar (Codec.shallow_ipv4 _)
  · exact scalar (Codec.shallow_ipv4 _)
  · exact scalar (Codec.shallow_u16 _)
  · exact scalar (Codec.shallow_u16 _)
  · exact scalar (Codec.shallow_u8 _)
  · exact scalar (Codec.shallow_usize _)
  · exact ImixConfig.shallow.option _

end UdpConfig

/-! ## Raw generator -/

namespace RawTemplate

/-- The template with its defaults under the keys that are gone. -/
def without (template : RawTemplate) (gone : String → Bool) : RawTemplate where
  encoding := if gone "encoding" then .hex else template.encoding
  data := if gone "data" then "" else template.data
  length := template.length

theorem distinct : schema.Distinct := by decide

theorem picks (template : RawTemplate) :
    schema.Picks origin (fun field => (field.write template).arrange order) fun given =>
      { template.without fun key => !given key with
        length := if given "length" then template.length else 0 } where
  start := rfl
  read := by
    intro field member given
    simp only [schema, List.mem_cons, List.not_mem_nil, or_false] at member
    rcases member with rfl | rfl | rfl
    · rw [Codec.faithful_encoding.read_field]
      simp [without, Codec.field]
    · rw [Codec.faithful_text.read_field]
      simp [without, Codec.field]
    · rw [Codec.faithful_usize.read_field]
      simp [without, Codec.field]
  congr := by
    intro given given' same
    simp only [schema, Codec.field, List.forall_mem_cons] at same
    simp [without, same]

/-- Only the length of a template is required. -/
theorem read_remove (template : RawTemplate) (gone : String → Bool)
    (length : gone "length" = false) :
    schema.read origin (((schema.codec.write template).remove gone).arrange order) =
      .ok (template.without gone) := by
  have required : ∀ field ∈ schema.fields, field.required → gone field.name = false := by
    simp [schema, Codec.field, length]
  have read := (picks order origin template).read_remove distinct gone required
  -- The length is there, so that the zero it starts with does not show.
  simp only [Bool.not_not, length, Bool.not_false, if_true] at read
  exact read

theorem shallow : schema.codec.Shallow 1 := by
  apply Schema.shallow_codec
  intro field member template
  simp only [schema, List.mem_cons, List.not_mem_nil, or_false] at member
  rcases member with rfl | rfl | rfl
  · exact Codec.shallow_encoding _
  · exact Codec.shallow_text _
  · exact Codec.shallow_usize _

end RawTemplate

namespace RawConfig

/-- The settings with the defaults of each template under those of its keys that are gone. -/
def without (config : RawConfig) (gone : Nat → String → Bool) : RawConfig where
  templates := config.templates.mapIdx fun index template => template.without (gone index)

theorem distinct : schema.Distinct := by decide

/-- The document of the templates without the keys that are gone. -/
def templatesNode (config : RawConfig) (gone : Nat → String → Bool) : Node :=
  .list (config.templates.mapIdx fun index template =>
    (RawTemplate.schema.codec.write template).remove (gone index))

theorem picks (config : RawConfig) {gone : Nat → String → Bool}
    (length : ∀ index, gone index "length" = false) :
    schema.Picks origin (fun _ => (config.templatesNode gone).arrange order) fun given =>
      { templates := if given "templates" then (config.without gone).templates else [] } where
  start := rfl
  read := by
    intro field member given
    have read : RawTemplate.schema.codec.list.read origin.inner
        ((config.templatesNode gone).arrange order) = .ok (config.without gone).templates := by
      rw [templatesNode, Node.arrange_list, ← mapIdx_const, List.mapIdx_mapIdx]
      exact mapM_mapIdx
        (fun index template => template.read_remove order _ (gone index) (length index)) _
    rw [List.mem_singleton.1 member]
    change Except.map _ (RawTemplate.schema.codec.list.read origin.inner _) = _
    rw [read]
    simp [Codec.field, Except.map]
  congr := by
    intro given given' same
    simp only [schema, Codec.field, List.forall_mem_cons] at same
    simp [same]

theorem shallow_templatesNode (config : RawConfig) (gone : Nat → String → Bool) :
    (config.templatesNode gone).Shallow 2 := by
  apply Node.Shallow.list
  intro node member
  obtain ⟨index, inside, rfl⟩ := List.mem_mapIdx.1 member
  exact (RawTemplate.shallow _).remove _

end RawConfig

/-! ## Any generator -/

namespace GeneratorConfig

/-- Keys that are left out of the document of a generator: of that of a UDP generator, or of each
template of a raw generator. -/
structure Omissions where
  udp : String → Bool
  template : Nat → String → Bool
  /-- The kind of the generator has to be given. -/
  kind : udp kindKey = false
  /-- The length of a template has to be given. -/
  length : ∀ index, template index "length" = false

/-- Nothing is left out. -/
def Omissions.none : Omissions := ⟨fun _ => false, fun _ _ => false, rfl, fun _ => rfl⟩

/-- The generator with its defaults under the keys that are left out. -/
def without (omitted : Omissions) : GeneratorConfig → GeneratorConfig
  | .udp config => .udp (config.without omitted.udp)
  | .raw config => .raw (config.without omitted.template)

theorem without_none (config : GeneratorConfig) : config.without .none = config := by
  cases config with
  | udp config => rfl
  | raw config =>
    change raw ⟨config.templates.mapIdx fun _ => id⟩ = _
    rw [mapIdx_const, List.map_id]

/-- Leaves keys out of the document of a generator. -/
def removeFrom (omitted : Omissions) : GeneratorConfig → Node → Node
  | .udp _ => Node.remove omitted.udp
  | .raw _ => Node.mapMember "templates" (Node.mapItems fun index =>
      Node.remove (omitted.template index))

theorem removeFrom_none (config : GeneratorConfig) (node : Node) :
    config.removeFrom .none node = node := by
  cases config with
  | udp config => exact node.remove_none
  | raw config => exact node.mapMember_id _ (Node.mapItems_id fun _ => Node.remove_none)

/-- The entry is not that of the kind and is held back as it is. -/
structure Held (origin : Origin) (entry : Node × Node) : Prop where
  other : isKindKey entry.1 = false
  key : origin.inner.keep entry.1 = .ok entry.1
  value : origin.inner.keep entry.2 = .ok entry.2

/-- The entry of a field other than the kind is held back if it is not nested too deeply. -/
theorem held_of_shallow {depth : Nat} (room : origin.Opens (depth + 1)) {name : String}
    (other : name ≠ kindKey) {node : Node} (shallow : node.Shallow depth) :
    Held origin (.text name, node) where
  other := beq_false_of_ne other
  key := Origin.keep_of_shallow ((Node.Shallow.text name).mono (Nat.zero_le depth)) room.inner
  value := Origin.keep_of_shallow shallow room.inner

theorem foldlM_sortEntry {entries : List (Node × Node)}
    (held : ∀ entry ∈ entries, Held origin entry) (kind : Option Kind)
    (seen : List (Node × Node)) :
    entries.foldlM (sortEntry origin) ⟨kind, seen⟩ = .ok ⟨kind, entries.reverse ++ seen⟩ := by
  induction entries generalizing seen with
  | nil => rfl
  | cons entry entries ih =>
    obtain ⟨first, held⟩ := List.forall_mem_cons.1 held
    have step : sortEntry origin ⟨kind, seen⟩ entry = .ok ⟨kind, entry :: seen⟩ := by
      unfold sortEntry
      rw [first.other, first.key, first.value]
      rfl
    rw [List.foldlM_cons, step, List.reverse_cons, List.append_assoc, List.singleton_append]
    exact ih held (entry :: seen)

theorem sortEntry_kind {name : String} {kind : Kind} (known : kinds.lookup name = some kind)
    (seen : List (Node × Node)) :
    sortEntry origin ⟨none, seen⟩ (.text kindKey, .text name) = .ok ⟨some kind, seen⟩ := by
  have choice : Codec.choice kinds origin.inner (.text name) = .ok kind := by
    unfold Codec.choice Codec.choose
    simp only [known]
  unfold sortEntry
  simp only
  rw [choice]
  rfl

/-- A record that gives the kind once, wherever it stands, is read as that kind. -/
theorem read_of_perm {name : String} {kind : Kind} (known : kinds.lookup name = some kind)
    {entries others : List (Node × Node)}
    (perm : entries.Perm ((.text kindKey, .text name) :: others))
    (held : ∀ entry ∈ others, Held origin entry) :
    ∃ rest : List (Node × Node), rest.Perm others ∧
      read origin (.record entries) = readAs (.record rest) kind := by
  obtain ⟨front, back, rfl⟩ := List.append_of_mem (perm.symm.subset List.mem_cons_self)
  have rest : (front ++ back).Perm others :=
    List.Perm.cons_inv (List.perm_middle.symm.trans perm)
  have heldRest : ∀ entry ∈ front ++ back, Held origin entry := fun entry member =>
    held entry (rest.subset member)
  obtain ⟨heldFront, heldBack⟩ := List.forall_mem_append.1 heldRest
  refine ⟨front ++ back, rest, ?_⟩
  -- The entries in front are held back while the kind is unknown, those behind once it is known.
  have sorted : (front ++ (Node.text kindKey, Node.text name) :: back).foldlM (sortEntry origin)
      ⟨none, []⟩ = .ok ⟨some kind, back.reverse ++ front.reverse⟩ := by
    rw [List.foldlM_append, foldlM_sortEntry origin heldFront, List.append_nil]
    change List.foldlM (sortEntry origin) ⟨none, front.reverse⟩ (_ :: back) = _
    rw [List.foldlM_cons, sortEntry_kind origin known]
    exact foldlM_sortEntry origin heldBack _ _
  unfold read
  simp only
  rw [sorted]
  change readAs (.record (back.reverse ++ front.reverse).reverse) kind = _
  rw [List.reverse_append, List.reverse_reverse, List.reverse_reverse]

/-- The record of the kind and some fields, of which only those fields are left to be read. -/
theorem read_fields {α : Type} {name : String} {kind : Kind}
    (known : kinds.lookup name = some kind) {depth : Nat} (room : origin.Opens (depth + 1))
    {fields : List (Field α)} {node : Field α → Node}
    (other : ∀ field ∈ fields, field.name ≠ kindKey)
    (shallow : ∀ field ∈ fields, (node field).Shallow depth) :
    ∃ rest : List (Node × Node),
      rest.Perm (fields.map fun field => (.text field.name, (node field).arrange order)) ∧
      read origin ((Node.record ((.text kindKey, .text name) ::
        fields.map fun field => (.text field.name, node field))).arrange order) =
        readAs (.record rest) kind := by
  rw [Node.arrange, arrangeEntries_eq_map, List.map_cons, List.map_map]
  apply read_of_perm origin known (order.perm _)
  intro entry member
  obtain ⟨field, among, rfl⟩ := List.mem_map.1 member
  exact held_of_shallow origin room (other field among) (shallow field among).arrange

theorem read_udp (room : origin.Opens 4) (config : UdpConfig) {gone : String → Bool}
    (kind : gone kindKey = false) :
    read origin (((toNode (.udp config)).remove gone).arrange order) =
      .ok (.udp (config.without gone)) := by
  have removed : (toNode (.udp config)).remove gone = .record ((.text kindKey, .text "udp") ::
      (UdpConfig.schema.fields.filter fun field => !gone field.name).map fun field =>
        (.text field.name, field.write config)) := by
    simp [toNode, Node.remove, Schema.entries, kind, List.filter_map, Function.comp_def]
  have members {field : Field UdpConfig}
      (among : field ∈ UdpConfig.schema.fields.filter fun field => !gone field.name) :
      field ∈ UdpConfig.schema.fields := (List.mem_filter.1 among).1
  obtain ⟨rest, perm, read⟩ := read_fields order origin (show kinds.lookup "udp" = _ from rfl) room
    (fun _ among => UdpConfig.name_ne_kindKey _ (members among))
    (fun _ among => config.shallow_write _ (members among))
  -- What was held back may be nested as deeply as it likes.
  have picked := (UdpConfig.picks order .kept config).read_of_perm UdpConfig.distinct
    (fun key => !gone key) UdpConfig.optional.forall_required perm
  rw [removed, read]
  unfold readAs
  simp only
  rw [picked]
  simp only [Bool.not_not]
  rfl

theorem read_raw (room : origin.Opens 4) (config : RawConfig) {gone : Nat → String → Bool}
    (length : ∀ index, gone index "length" = false) :
    read origin (((toNode (.raw config)).mapMember "templates"
        (Node.mapItems fun index => Node.remove (gone index))).arrange order) =
      .ok (.raw (config.without gone)) := by
  have changed : (toNode (.raw config)).mapMember "templates"
        (Node.mapItems fun index => Node.remove (gone index)) =
      .record ((.text kindKey, .text "raw") :: RawConfig.schema.fields.map fun field =>
        (.text field.name, config.templatesNode gone)) := by
    simp [toNode, Node.mapMember, Schema.entries, RawConfig.schema, Codec.field, kindKey,
      Codec.list, Node.mapItems, RawConfig.templatesNode, ← mapIdx_const, List.mapIdx_mapIdx,
      Function.comp_def]
  obtain ⟨rest, perm, read⟩ := read_fields order origin (show kinds.lookup "raw" = _ from rfl) room
    (by decide : ∀ field ∈ RawConfig.schema.fields, field.name ≠ kindKey)
    (fun _ _ => (config.shallow_templatesNode gone).mono (Nat.le_succ 2))
  have picked := (config.picks order .kept length).read_of_perm RawConfig.distinct
    (fun _ => true) (fun _ _ _ => rfl) (perm.trans (.of_eq ?_))
  · rw [changed, read]
    unfold readAs
    simp only
    rw [picked]
    rfl
  · rw [List.filter_true]

theorem read_removeFrom (omitted : Omissions) (room : origin.Opens 4) (config : GeneratorConfig) :
    read origin ((removeFrom omitted config config.toNode).arrange order) =
      .ok (config.without omitted) := by
  cases config with
  | udp config => exact read_udp order origin room config omitted.kind
  | raw config => exact read_raw order origin room config omitted.length

end GeneratorConfig

/-! ## The whole configuration -/

namespace RunConfig

variable (machine : Machine)

/-- Keys that are left out of the document of a configuration, of its logger and its generator. -/
structure Omissions where
  run : String → Bool
  logger : String → Bool
  generator : GeneratorConfig.Omissions

/-- Nothing is left out. -/
def Omissions.none : Omissions := ⟨fun _ => false, fun _ => false, .none⟩

/-- The configuration with the defaults of the machine under the keys that are left out. -/
def without (config : RunConfig) (omitted : Omissions) : RunConfig where
  logger :=
    if omitted.run "logger" then (default machine).logger
    else config.logger.without omitted.logger
  parallelism :=
    if omitted.run "parallelism" then (default machine).parallelism else config.parallelism
  count := if omitted.run "count" then (default machine).count else config.count
  pinCores := if omitted.run "pin_cores" then (default machine).pinCores else config.pinCores
  reportIntervalMs :=
    if omitted.run "report_interval_ms" then (default machine).reportIntervalMs
    else config.reportIntervalMs
  inboundLen :=
    if omitted.run "inbound_len" then (default machine).inboundLen else config.inboundLen
  generator :=
    if omitted.run "generator" then (default machine).generator
    else config.generator.without omitted.generator

/-- The document of the configuration without the keys that are left out. -/
def documentWithout (config : RunConfig) (omitted : Omissions) : Node :=
  ((((schema machine).codec.write config).mapMember "logger" (Node.remove omitted.logger)).mapMember
    "generator" (config.generator.removeFrom omitted.generator)).remove omitted.run

theorem without_none (config : RunConfig) : config.without machine .none = config := by
  change { config with
    logger := config.logger.without fun _ => false
    generator := config.generator.without .none } = config
  rw [GeneratorConfig.without_none]
  rfl

theorem documentWithout_none (config : RunConfig) :
    config.documentWithout machine .none = (schema machine).codec.write config := by
  unfold documentWithout Omissions.none
  simp only
  rw [Node.remove_none, Node.mapMember_id _ (config.generator.removeFrom_none),
    Node.mapMember_id _ Node.remove_none]

theorem distinct : (schema machine).Distinct :=
  (by decide : (fields.map Field.name).Nodup)

theorem optional : (schema machine).Optional :=
  (by decide : ∀ field ∈ fields, field.required = false)

/-- The defaults as they are shown.  Only the number of contexts is that of the machine. -/
theorem write_default :
    (schema machine).codec.write (default machine) = .record [
      (.text "logger", .record [
        (.text "json", .bool false), (.text "no_color", .bool false), (.text "verbose", .int 0),
        (.text "quiet", .bool false), (.text "add_caller", .bool false)]),
      (.text "parallelism", .int machine.contexts.toNat), (.text "count", .int 1000000),
      (.text "pin_cores", .bool false), (.text "report_interval_ms", .int 1000),
      (.text "inbound_len", .int 1500),
      (.text "generator", .record [
        (.text "kind", .text "udp"), (.text "src_mac", .text "02:00:00:00:00:01"),
        (.text "dst_mac", .text "ff:ff:ff:ff:ff:ff"), (.text "src_ip", .text "192.168.1.1"),
        (.text "dst_ip", .text "192.168.1.2"), (.text "src_port", .int 1234),
        (.text "dst_port", .int 5678), (.text "ttl", .int 64), (.text "payload_size", .int 1024),
        (.text "imix", .null)])] := rfl

/-- What stands under the key of a field once keys of the logger and the generator are removed. -/
def fieldNode (config : RunConfig) (omitted : Omissions) (field : Field RunConfig) : Node :=
  let node := field.write config
  let node := if field.name = "logger" then node.remove omitted.logger else node
  if field.name = "generator" then config.generator.removeFrom omitted.generator node else node

theorem documentWithout_eq (config : RunConfig) (omitted : Omissions) :
    config.documentWithout machine omitted = (Node.record ((schema machine).fields.map fun field =>
      (.text field.name, config.fieldNode omitted field))).remove omitted.run := by
  unfold documentWithout
  change (((Node.record ((schema machine).fields.map _)).mapMember _ _).mapMember _ _).remove _ = _
  rw [Node.mapMember_record, Node.mapMember_record]
  rfl

theorem picks (room : origin.Opens 5) (config : RunConfig) (omitted : Omissions) :
    (schema machine).Picks origin (fun field => (config.fieldNode omitted field).arrange order)
      fun given => config.without machine { omitted with run := fun key => !given key } where
  start := rfl
  read := by
    intro field member given
    simp only [schema, fields, List.mem_cons, List.not_mem_nil, or_false] at member
    -- Keys may be missing inside the first and the last field, the others are as written.
    rcases member with rfl | rfl | rfl | rfl | rfl | rfl | rfl
    · change Except.map _ (LoggerConfig.schema.read origin.inner
        (((LoggerConfig.schema.codec.write config.logger).remove omitted.logger).arrange order)) = _
      rw [LoggerConfig.read_remove]
      simp [without, Codec.field, Except.map]
    · refine (Codec.faithful_usize.read_field _ _ _ _ _ _ _).trans ?_
      simp [without, Codec.field]
    · refine (Codec.faithful_u64.read_field _ _ _ _ _ _ _).trans ?_
      simp [without, Codec.field]
    · refine (Codec.faithful_bool.read_field _ _ _ _ _ _ _).trans ?_
      simp [without, Codec.field]
    · refine (Codec.faithful_u64.read_field _ _ _ _ _ _ _).trans ?_
      simp [without, Codec.field]
    · refine (Codec.faithful_usize.read_field _ _ _ _ _ _ _).trans ?_
      simp [without, Codec.field]
    · change Except.map _ (GeneratorConfig.read origin.inner
        ((config.generator.removeFrom omitted.generator config.generator.toNode).arrange order)) = _
      rw [GeneratorConfig.read_removeFrom order origin.inner omitted.generator room.inner]
      simp [without, Codec.field, Except.map]
  congr := by
    intro given given' same
    simp only [schema, fields, Codec.field, List.forall_mem_cons] at same
    simp [without, same]

theorem read_arrange_documentWithout (room : origin.Opens 5) (config : RunConfig)
    (omitted : Omissions) :
    (schema machine).read origin ((config.documentWithout machine omitted).arrange order) =
      .ok (config.without machine omitted) := by
  have read := (config.picks order origin machine room omitted).read_remove (distinct machine)
    omitted.run (optional machine).forall_required
  simp only [Bool.not_not] at read
  rw [documentWithout_eq]
  exact read

/-- A configuration is read back from its document, whatever the order of the keys and the machines
it was written and is read on.  Keys that are left out of it leave the defaults of the machine that
it is read on and change nothing else. -/
theorem read_documentWithout (writer reader : Machine) (config : RunConfig) (omitted : Omissions)
    (order : KeyOrder) (origin : Origin) (room : origin.Opens 5) :
    (schema reader).codec.read origin (((schema writer).codec.write config).arrange order) =
        .ok config ∧
      (schema reader).codec.read origin ((config.documentWithout writer omitted).arrange order) =
        .ok (config.without reader omitted) := by
  have complete := read_arrange_documentWithout order origin reader room config .none
  rw [documentWithout_none, without_none] at complete
  exact ⟨complete, read_arrange_documentWithout order origin reader room config omitted⟩

/-- A configuration of a machine that does not tell its processors, and one of two processors that
reads it. -/
theorem read_documentWithout_shortTemplate :
    let reader : Machine := ⟨some 2, by decide, [⟨0, true⟩, ⟨1, true⟩]⟩
    let config : RunConfig :=
      { default .unknown with
        count := 18446744073709551615
        generator := .raw ⟨[⟨.base64, "AAE=", 2⟩, ⟨.zeros, "none", 60⟩]⟩ }
    let omitted : Omissions :=
      { run := fun key => key == "count" || key == "parallelism"
        logger := fun _ => false
        generator :=
          { udp := fun _ => false
            template := fun index key => index == 1 && key != "length"
            kind := rfl
            length := fun index => by simp } }
    (Origin.json Json.nesting).Opens 5 ∧ config.parallelism = 4 ∧
      (schema reader).codec.read (.json Json.nesting)
        (((schema .unknown).codec.write config).arrange .declared) = .ok config ∧
      (schema reader).codec.read (.json Json.nesting)
          ((config.documentWithout .unknown omitted).arrange .declared) =
        .ok { default .unknown with
          parallelism := 2
          generator := .raw ⟨[⟨.base64, "AAE=", 2⟩, ⟨.hex, "", 60⟩]⟩ } := by
  intro reader config omitted
  have room : (Origin.json Json.nesting).Opens 5 := by
    change 5 ≤ 127
    decide
  have read := read_documentWithout .unknown reader config omitted .declared (.json Json.nesting)
    room
  exact ⟨room, rfl, read.1, read.2⟩

end RunConfig

end FrameReplay
