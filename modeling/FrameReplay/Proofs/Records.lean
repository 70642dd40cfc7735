import Mathlib.Data.List.Nodup
import Mathlib.Data.List.Perm.Basic
import FrameReplay.Document.Schema
import FrameReplay.Proofs.Generation

/-!
# Reading back what was written

The entries of a record may come in any order (`KeyOrder`, `Node.arrange`).  A codec is faithful if
it reads back whatever it writes, in every order.  A schema that is given some of its fields reads
them as they are and leaves the others as it starts (`Schema.read_of_perm`).  What a codec writes
is nested no deeper than its type, so that it can be held back wherever the text leaves enough room
(`Origin.keep_of_shallow`).
-/

namespace FrameReplay

/-! ## Order of the entries -/

/-- An order in which the entries of records stand. -/
structure KeyOrder where
  sort : List (Node × Node) → List (Node × Node)
  /-- No entry is lost or made up. -/
  perm : ∀ entries, (sort entries).Perm entries

/-- The entries stay where they are. -/
def KeyOrder.declared : KeyOrder := ⟨id, fun _ => .refl _⟩

mutual

/-- A document with the entries of all its records put in order. -/
def Node.arrange (order : KeyOrder) : Node → Node
  | .list items => .list (arrangeItems order items)
  | .record entries => .record (order.sort (arrangeEntries order entries))
  | node => node

/-- The items of a list, each put in order. -/
def arrangeItems (order : KeyOrder) : List Node → List Node
  | [] => []
  | item :: items => item.arrange order :: arrangeItems order items

/-- The entries of a record, each put in order. -/
def arrangeEntries (order : KeyOrder) : List (Node × Node) → List (Node × Node)
  | [] => []
  | (key, value) :: entries => (key, value.arrange order) :: arrangeEntries order entries

end

variable {order : KeyOrder}

theorem arrangeItems_eq_map (items : List Node) :
    arrangeItems order items = items.map (Node.arrange order) := by
  induction items with
  | nil => rfl
  | cons item items ih => rw [arrangeItems, ih, List.map_cons]

theorem arrangeEntries_eq_map (entries : List (Node × Node)) :
    arrangeEntries order entries = entries.map fun entry => (entry.1, entry.2.arrange order) := by
  induction entries with
  | nil => rfl
  | cons entry entries ih => rw [arrangeEntries, ih, List.map_cons]

theorem Node.arrange_list (items : List Node) :
    (Node.list items).arrange order = .list (items.map (Node.arrange order)) := by
  rw [Node.arrange, arrangeItems_eq_map]

/-! ## Keys that are left out -/

/-- A record without the entries under some keys. -/
def Node.remove (gone : String → Bool) : Node → Node
  | .record entries => .record (entries.filter fun entry =>
      match entry.1 with
      | .text key => !gone key
      | _ => true)
  | node => node

theorem Node.remove_record {α : Type} (gone : String → Bool) (fields : List (Field α))
    (node : Field α → Node) :
    (Node.record (fields.map fun field => (.text field.name, node field))).remove gone =
      .record ((fields.filter fun field => !gone field.name).map fun field =>
        (.text field.name, node field)) := by
  rw [Node.remove, List.filter_map]
  rfl

theorem Node.remove_none (node : Node) : node.remove (fun _ => false) = node := by
  cases node with
  | record entries =>
    rw [Node.remove, List.filter_eq_self.2]
    intro entry _
    split <;> rfl
  | absent | null | bool | int | float | text | list | valueless | broken => rfl

/-- A record with the values under a key changed. -/
def Node.mapMember (name : String) (change : Node → Node) : Node → Node
  | .record entries => .record (entries.map fun entry =>
      match entry.1 with
      | .text key => (entry.1, if key = name then change entry.2 else entry.2)
      | _ => entry)
  | node => node

theorem Node.mapMember_record {α : Type} (name : String) (change : Node → Node)
    (fields : List (Field α)) (node : Field α → Node) :
    (Node.record (fields.map fun field => (.text field.name, node field))).mapMember name change =
      .record (fields.map fun field =>
        (.text field.name, if field.name = name then change (node field) else node field)) := by
  rw [Node.mapMember, List.map_map]
  rfl

theorem Node.mapMember_id (name : String) {change : Node → Node}
    (same : ∀ node, change node = node) (node : Node) : node.mapMember name change = node := by
  cases node with
  | record entries =>
    rw [Node.mapMember, List.map_congr_left, List.map_id]
    rintro ⟨key, value⟩ _
    cases key <;> simp [same]
  | absent | null | bool | int | float | text | list | valueless | broken => rfl

/-- A list with every item changed, depending on its place. -/
def Node.mapItems (change : Nat → Node → Node) : Node → Node
  | .list items => .list (items.mapIdx change)
  | node => node

theorem Node.mapItems_id {change : Nat → Node → Node}
    (same : ∀ index node, change index node = node) (node : Node) :
    node.mapItems change = node := by
  cases node with
  | list items =>
    have identity : change = fun _ => id := funext fun index => funext (same index)
    rw [Node.mapItems, identity, mapIdx_const, List.map_id]
  | absent | null | bool | int | float | text | record | valueless | broken => rfl

/-! ## Depth -/

theorem obstacleOfItems?_eq_none_iff {levels : Nat} {items : List Node} :
    obstacleOfItems? levels items = none ↔ ∀ item ∈ items, item.obstacle? levels = none := by
  induction items with
  | nil => simp [obstacleOfItems?]
  | cons item items ih => rw [obstacleOfItems?, Option.or_eq_none_iff, ih, List.forall_mem_cons]

theorem obstacleOfEntries?_eq_none_iff {levels : Nat} {entries : List (Node × Node)} :
    obstacleOfEntries? levels entries = none ↔
      ∀ entry ∈ entries, entry.1.obstacle? levels = none ∧ entry.2.obstacle? levels = none := by
  induction entries with
  | nil => simp [obstacleOfEntries?]
  | cons entry entries ih =>
    rw [obstacleOfEntries?, Option.or_eq_none_iff, Option.or_eq_none_iff, ih,
      List.forall_mem_cons]

mutual

theorem Node.obstacle?_arrange {levels : Nat} :
    (node : Node) → node.obstacle? levels = none → (node.arrange order).obstacle? levels = none
  | .list items, free => by
    rw [Node.obstacle?] at free
    rw [Node.arrange, Node.obstacle?]
    split at free
    · cases free
    · rename_i room
      rw [if_neg room]
      exact obstacleOfItems?_arrangeItems items free
  | .record entries, free => by
    rw [Node.obstacle?] at free
    rw [Node.arrange, Node.obstacle?]
    split at free
    · cases free
    · rename_i room
      -- Every entry is free of obstacles, so it does not matter where it stands.
      have arranged := obstacleOfEntries?_arrangeEntries entries free
      rw [if_neg room, obstacleOfEntries?_eq_none_iff]
      intro entry member
      exact obstacleOfEntries?_eq_none_iff.1 arranged entry ((order.perm _).mem_iff.1 member)
  | .absent, free | .null, free | .bool _, free | .int _, free | .float _, free | .text _, free
  | .valueless, free | .broken _ _, free => free

theorem obstacleOfItems?_arrangeItems {levels : Nat} :
    (items : List Node) → obstacleOfItems? levels items = none →
      obstacleOfItems? levels (arrangeItems order items) = none
  | [], _ => rfl
  | item :: items, free => by
    rw [obstacleOfItems?, Option.or_eq_none_iff] at free
    rw [arrangeItems, obstacleOfItems?, Option.or_eq_none_iff]
    exact ⟨item.obstacle?_arrange free.1, obstacleOfItems?_arrangeItems items free.2⟩

theorem obstacleOfEntries?_arrangeEntries {levels : Nat} :
    (entries : List (Node × Node)) → obstacleOfEntries? levels entries = none →
      obstacleOfEntries? levels (arrangeEntries order entries) = none
  | [], _ => rfl
  | (key, value) :: entries, free => by
    rw [obstacleOfEntries?, Option.or_eq_none_iff, Option.or_eq_none_iff] at free
    rw [arrangeEntries, obstacleOfEntries?, Option.or_eq_none_iff, Option.or_eq_none_iff]
    exact ⟨⟨free.1.1, value.obstacle?_arrange free.1.2⟩,
      obstacleOfEntries?_arrangeEntries entries free.2⟩

end

/-- Nothing forbids to hold back the document where `depth` containers may still be opened. -/
def Node.Shallow (depth : Nat) (node : Node) : Prop :=
  ∀ levels, depth ≤ levels → node.obstacle? levels = none

namespace Node.Shallow

variable {depth deeper : Nat}

theorem mono {node : Node} (shallow : node.Shallow depth) (h : depth ≤ deeper) :
    node.Shallow deeper :=
  fun levels room => shallow levels (h.trans room)

theorem text (value : String) : (Node.text value).Shallow 0 := fun _ _ => rfl

theorem arrange {node : Node} (shallow : node.Shallow depth) :
    (node.arrange order).Shallow depth :=
  fun levels room => node.obstacle?_arrange (shallow levels room)

theorem remove {node : Node} (shallow : node.Shallow depth) (gone : String → Bool) :
    (node.remove gone).Shallow depth := by
  cases node with
  | record entries =>
    intro levels room
    have free := shallow levels room
    rw [Node.remove]
    rw [Node.obstacle?] at free ⊢
    split at free
    · cases free
    · rename_i inside
      rw [if_neg inside, obstacleOfEntries?_eq_none_iff]
      intro entry member
      exact obstacleOfEntries?_eq_none_iff.1 free entry (List.mem_filter.1 member).1
  | absent | null | bool | int | float | text | list | valueless | broken => exact shallow

theorem list {items : List Node} (shallow : ∀ item ∈ items, item.Shallow depth) :
    (Node.list items).Shallow (depth + 1) := by
  intro levels room
  rw [Node.obstacle?, if_neg (by omega), obstacleOfItems?_eq_none_iff]
  exact fun item member => shallow item member _ (by omega)

theorem record {entries : List (Node × Node)}
    (shallow : ∀ entry ∈ entries, entry.1.Shallow depth ∧ entry.2.Shallow depth) :
    (Node.record entries).Shallow (depth + 1) := by
  intro levels room
  rw [Node.obstacle?, if_neg (by omega), obstacleOfEntries?_eq_none_iff]
  intro entry member
  obtain ⟨key, value⟩ := shallow entry member
  exact ⟨key _ (by omega), value _ (by omega)⟩

end Node.Shallow

/-- So many containers may still be opened, if there is a bound at all. -/
def Origin.Opens (depth : Nat) : Origin → Prop
  | .json levels | .yaml levels => depth ≤ levels
  | .kept | .tree => True

theorem Origin.Opens.inner {depth : Nat} {origin : Origin} (room : origin.Opens (depth + 1)) :
    origin.inner.Opens depth := by
  cases origin with
  | json levels | yaml levels => exact Nat.le_sub_one_of_lt room
  | kept | tree => trivial

theorem Origin.keep_of_shallow {depth : Nat} {origin : Origin} {node : Node}
    (shallow : node.Shallow depth) (room : origin.Opens depth) : origin.keep node = .ok node := by
  cases origin with
  | json levels | yaml levels =>
    unfold Origin.keep
    simp only
    rw [shallow levels room]
  | kept | tree => rfl

/-! ## Codecs -/

namespace Codec

variable {α : Type}

/-- What the codec writes is read back, wherever it comes from and however it is ordered. -/
def Faithful (codec : Codec α) : Prop :=
  ∀ order origin value, codec.read origin ((codec.write value).arrange order) = .ok value

/-- What the codec writes is nested no deeper than `depth`. -/
def Shallow (depth : Nat) (codec : Codec α) : Prop := ∀ value, (codec.write value).Shallow depth

theorem faithful_bool : bool.Faithful := fun _ _ _ => rfl

theorem faithful_text : text.Faithful := fun _ _ _ => rfl

theorem shallow_text : text.Shallow 0 := Node.Shallow.text

section Words

variable {name : String} {size : Nat} {ofNat : Nat → α} {toNat : α → Nat}

theorem faithful_word (small : ∀ value, toNat value < size)
    (inverse : ∀ value, ofNat (toNat value) = value) : (word name size ofNat toNat).Faithful := by
  intro order origin value
  have inside : (0 : Int) ≤ toNat value ∧ (toNat value : Int) < size :=
    ⟨Int.natCast_nonneg _, Int.ofNat_lt.2 (small value)⟩
  change (if _ then _ else _) = _
  rw [if_pos inside, Int.toNat_natCast, inverse]

/-- Numbers of more than 64 bits cannot be held back. -/
theorem shallow_word (small : ∀ value, toNat value < UInt64.size) :
    (word name size ofNat toNat).Shallow 0 := by
  intro value levels _
  have inside : Int64.minValue.toInt ≤ toNat value ∧ (toNat value : Int) < UInt64.size :=
    ⟨le_trans (by decide) (Int.natCast_nonneg _), Int.ofNat_lt.2 (small value)⟩
  change Node.obstacle? levels (.int (toNat value)) = none
  rw [Node.obstacle?, if_pos inside]

end Words

theorem faithful_u8 : u8.Faithful := faithful_word UInt8.toNat_lt fun _ => UInt8.ofNat_toNat

theorem faithful_u16 : u16.Faithful := faithful_word UInt16.toNat_lt fun _ => UInt16.ofNat_toNat

theorem faithful_u32 : u32.Faithful := faithful_word UInt32.toNat_lt fun _ => UInt32.ofNat_toNat

theorem faithful_u64 : u64.Faithful := faithful_word UInt64.toNat_lt fun _ => UInt64.ofNat_toNat

theorem faithful_usize : usize.Faithful := faithful_word UInt64.toNat_lt fun _ => UInt64.ofNat_toNat

theorem shallow_u8 : u8.Shallow 0 := shallow_word fun n => n.toNat_lt.trans (by decide)

theorem shallow_u16 : u16.Shallow 0 := shallow_word fun n => n.toNat_lt.trans (by decide)

theorem shallow_u32 : u32.Shallow 0 := shallow_word fun n => n.toNat_lt.trans (by decide)

theorem shallow_usize : usize.Shallow 0 := shallow_word fun n => n.toNat_lt

theorem Faithful.list {item : Codec α} (faithful : item.Faithful) : item.list.Faithful := by
  intro order origin items
  change item.list.read origin ((Node.list (items.map item.write)).arrange order) = _
  rw [Node.arrange_list, List.map_map]
  change (items.map _).mapM (item.read origin.inner) = _
  rw [mapM_eq_ok_iff, List.forall₂_map_left_iff, List.forall₂_same]
  exact fun value _ => faithful order origin.inner value

theorem Shallow.list {depth : Nat} {item : Codec α} (shallow : item.Shallow depth) :
    item.list.Shallow (depth + 1) := by
  intro items
  apply Node.Shallow.list
  intro node member
  obtain ⟨value, -, rfl⟩ := List.mem_map.1 member
  exact shallow value

/-- A value that may be missing is told from a missing one if it is always written as a record. -/
theorem Faithful.option {value : Codec α} (faithful : value.Faithful)
    (record : ∀ a, ∃ entries, value.write a = .record entries) : value.option.Faithful := by
  intro order origin a
  cases a with
  | none => rfl
  | some a =>
    have read := faithful order origin a
    change value.option.read origin ((value.write a).arrange order) = _
    obtain ⟨entries, written⟩ := record a
    rw [written, Node.arrange] at read ⊢
    change Except.map some _ = _
    rw [read]
    rfl

theorem Shallow.option {depth : Nat} {value : Codec α} (shallow : value.Shallow depth) :
    value.option.Shallow depth := by
  intro a
  cases a with
  | none => exact fun _ _ => rfl
  | some a => exact shallow a

end Codec

/-! ## Schemas -/

namespace Schema

variable {α : Type} {schema : Schema α} {origin : Origin}

/-- No two fields have the same name. -/
def Distinct (schema : Schema α) : Prop := (schema.fields.map Field.name).Nodup

instance : Decidable schema.Distinct := inferInstanceAs (Decidable (List.Nodup _))

/-- No field has to be given. -/
def Optional (schema : Schema α) : Prop := ∀ field ∈ schema.fields, field.required = false

instance : Decidable schema.Optional := inferInstanceAs (Decidable (∀ field ∈ schema.fields, _))

theorem Optional.forall_required (optional : schema.Optional) {p : Field α → Prop} :
    ∀ field ∈ schema.fields, field.required → p field := by
  intro field member required
  rw [optional field member] at required
  cases required

theorem Distinct.field?_text (distinct : schema.Distinct) {field : Field α}
    (member : field ∈ schema.fields) :
    schema.field? origin (.text field.name) = .ok (some field) := by
  unfold field?
  simp only [Except.ok.injEq]
  rw [List.find?_eq_some_iff_append]
  obtain ⟨front, back, split⟩ := List.append_of_mem member
  refine ⟨beq_self_eq_true _, front, back, split, ?_⟩
  -- The search passes the fields in front, since they have other names.
  intro other before
  have names : (schema.fields.map Field.name).Nodup := distinct
  rw [split, List.map_append, List.nodup_append] at names
  have different := names.2.2 _ (List.mem_map_of_mem before) _
    (List.mem_map_of_mem List.mem_cons_self)
  simpa using different

/-- The structure `only given` has the fields that `given` names as the nodes give them, and all
others as the schema starts. -/
structure Picks (schema : Schema α) (origin : Origin) (node : Field α → Node)
    (only : (String → Bool) → α) : Prop where
  start : only (fun _ => false) = schema.start
  read : ∀ field ∈ schema.fields, ∀ given, field.read origin.inner (node field) (only given) =
    .ok (only fun key => key == field.name || given key)
  congr : ∀ given given', (∀ field ∈ schema.fields, given field.name = given' field.name) →
    only given = only given'

variable {node : Field α → Node} {only : (String → Bool) → α}

/-- Reading a field for the first time adds it to those that are given. -/
theorem Picks.readEntry (picks : schema.Picks origin node only) (distinct : schema.Distinct)
    {field : Field α} (member : field ∈ schema.fields) {given : List String}
    (fresh : field.name ∉ given) :
    schema.readEntry origin ⟨given, only given.contains⟩ (.text field.name, node field) =
      .ok ⟨field.name :: given, only (field.name :: given).contains⟩ := by
  have contains : (field.name :: given).contains = fun key =>
      key == field.name || given.contains key := funext fun _ => List.contains_cons
  unfold Schema.readEntry
  rw [distinct.field?_text member, contains]
  -- The name is new, so that this is no duplicate.
  change (if given.contains field.name then _ else _) = _
  rw [if_neg (by simpa using fresh)]
  change (field.read origin.inner (node field) (only given.contains) >>= _) = _
  rw [picks.read field member given.contains]
  rfl

/-- Fields with different names are read one after the other, in any order. -/
theorem Picks.foldlM_readEntry (picks : schema.Picks origin node only)
    (distinct : schema.Distinct) {fields : List (Field α)} (members : fields ⊆ schema.fields)
    {given : List String} (fresh : (fields.map Field.name ++ given).Nodup) :
    (fields.map fun field => (Node.text field.name, node field)).foldlM
        (schema.readEntry origin) ⟨given, only given.contains⟩ =
      .ok ⟨(fields.map Field.name).reverse ++ given,
        only ((fields.map Field.name).reverse ++ given).contains⟩ := by
  -- The names read so far grow from field to field, so the induction is for any list of them.
  induction fields generalizing given with
  | nil => rfl
  | cons field fields ih =>
    obtain ⟨member, members⟩ := List.cons_subset.1 members
    rw [List.map_cons, List.cons_append] at fresh
    obtain ⟨notIn, nodup⟩ := List.nodup_cons.1 fresh
    rw [List.mem_append, not_or] at notIn
    rw [List.map_cons, List.foldlM_cons, picks.readEntry distinct member notIn.2]
    change List.foldlM _ _ _ = _
    rw [ih members (List.nodup_middle.2 (List.nodup_cons.2 ⟨?_, nodup⟩)), List.map_cons,
      List.reverse_cons, List.append_assoc, List.singleton_append]
    rw [List.mem_append, not_or]
    exact notIn

theorem read_record (entries : List (Node × Node)) :
    schema.read origin (.record entries) = schema.readEntries origin entries := by
  cases origin <;> rfl

/-- Fields that came in any order are told apart by their names. -/
theorem contains_names {given : String → Bool} {fields : List (Field α)}
    (perm : fields.Perm (schema.fields.filter fun field => given field.name)) {field : Field α}
    (member : field ∈ schema.fields) :
    (fields.map Field.name).reverse.contains field.name = given field.name := by
  rw [Bool.eq_iff_iff, List.contains_iff_mem, List.mem_reverse]
  constructor
  · intro named
    obtain ⟨other, among, same⟩ := List.mem_map.1 named
    rw [← same]
    exact (List.mem_filter.1 (perm.subset among)).2
  · intro isGiven
    exact List.mem_map_of_mem (perm.symm.subset (List.mem_filter.2 ⟨member, isGiven⟩))

/-- A record with the fields that `given` names, all required ones among them, in any order. -/
theorem Picks.read_of_perm (picks : schema.Picks origin node only) (distinct : schema.Distinct)
    (given : String → Bool) (required : ∀ field ∈ schema.fields, field.required → given field.name)
    {entries : List (Node × Node)}
    (perm : entries.Perm ((schema.fields.filter fun field => given field.name).map
      fun field => (.text field.name, node field))) :
    schema.read origin (.record entries) = .ok (only given) := by
  -- The fields in the order in which the record gives them.
  have mapped : Relation.Comp (· = List.map (fun field => (Node.text field.name, node field)) ·)
      List.Perm entries (schema.fields.filter fun field => given field.name) := by
    rw [List.eq_map_comp_perm]
    exact perm
  obtain ⟨fields, rfl, order⟩ := mapped
  have members : fields ⊆ schema.fields := fun field member =>
    (List.mem_filter.1 (order.subset member)).1
  have fresh : (fields.map Field.name ++ []).Nodup := by
    rw [List.append_nil, (order.map _).nodup_iff]
    exact distinct.sublist (List.filter_sublist.map _)
  have folded := picks.foldlM_readEntry distinct members fresh
  rw [List.append_nil] at folded
  -- Every required field came.
  have complete : schema.fields.find? (fun field =>
      field.required && !(fields.map Field.name).reverse.contains field.name) = none := by
    rw [List.find?_eq_none]
    intro field member missing
    rw [contains_names order member, Bool.and_eq_true] at missing
    rw [required field member missing.1] at missing
    cases missing.2
  have taken := picks.congr _ _ fun field member => contains_names order member
  rw [read_record]
  unfold readEntries
  rw [← picks.start]
  refine bind_eq_ok.2 ⟨_, folded, ?_⟩
  simp only [complete]
  exact congrArg Except.ok taken

/-- A record from which some keys were removed, none of a required field among them. -/
theorem Picks.read_remove {node : Field α → Node}
    (picks : schema.Picks origin (fun field => (node field).arrange order) only)
    (distinct : schema.Distinct) (gone : String → Bool)
    (required : ∀ field ∈ schema.fields, field.required → gone field.name = false) :
    schema.read origin (((Node.record (schema.fields.map fun field =>
        (.text field.name, node field))).remove gone).arrange order) =
      .ok (only fun key => !gone key) := by
  rw [Node.remove_record, Node.arrange]
  apply picks.read_of_perm distinct
  · intro field member needed
    rw [required field member needed]
    rfl
  · refine (order.perm _).trans (.of_eq ?_)
    rw [arrangeEntries_eq_map, List.map_map]
    rfl

/-- A schema is faithful if all of its fields are. -/
theorem faithful_codec (distinct : schema.Distinct) {only : α → (String → Bool) → α}
    (picks : ∀ order origin value,
      schema.Picks origin (fun field => (field.write value).arrange order) (only value))
    (complete : ∀ value, only value (fun _ => true) = value) : schema.codec.Faithful := by
  intro order origin value
  have read := (picks order origin value).read_remove distinct (fun _ => false) fun _ _ _ => rfl
  simp only [Node.remove_record, Bool.not_false, List.filter_true] at read
  exact read.trans (congrArg Except.ok (complete value))

theorem shallow_codec {depth : Nat}
    (shallow : ∀ field ∈ schema.fields, ∀ value, (field.write value).Shallow depth) :
    schema.codec.Shallow (depth + 1) := by
  intro value
  apply Node.Shallow.record
  intro entry member
  obtain ⟨field, among, rfl⟩ := List.mem_map.1 member
  exact ⟨(Node.Shallow.text _).mono (Nat.zero_le _), shallow field among value⟩

end Schema

/-- What a faithful codec writes for a field is what it puts into a structure. -/
theorem Codec.Faithful.read_field {α γ : Type} {codec : Codec γ} (faithful : codec.Faithful)
    (origin : Origin) (name : String) (required : Bool) (get : α → γ) (put : γ → α → α)
    (value other : α) :
    (codec.field name required get put).read origin
      (((codec.field name required get put).write value).arrange order) other =
      .ok (put (get value) other) := by
  change (codec.read origin ((codec.write (get value)).arrange order)).map _ = _
  rw [faithful]
  rfl

end FrameReplay
