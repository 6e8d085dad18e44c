import EffectTables.Proofs.Document.Node
import EffectTables.Proofs.Document.Reading
import EffectTables.Proofs.Text.Decimal

namespace EffectTables

open Markup

-- A tag of an element with these attributes, in any order.
structure Markup.Spelling.Spells (spelling : Spelling) (element : Element)
    (attributes : List (String × String)) : Prop where
  name : spelling.name = element.name
  attributes : (spelling.assignments.map fun assignment =>
    (assignment.key, assignment.value)).Perm attributes

namespace Markup.Spelling

variable {spelling : Spelling} {element : Element} {attributes : List (String × String)}

theorem readable_tag (spelling : Spelling) : spelling.tag.Readable := by
  rw [Tag.Readable, attributes_tag]
  refine ⟨rfl, List.forall_mem_map.mpr fun assignment _ => ?_⟩
  exact ⟨_, Reference.decode_escape _⟩

-- What a spelled tag says under a key is the value that was spelled.
theorem value?_tag {assignment : Assignment} (h : assignment ∈ spelling.assignments) :
    spelling.tag.value? assignment.key = some assignment.value := by
  have hfound := Lookup.find?_key_self spelling.keys h
  rw [Tag.value?, attributes_tag, List.find?_map]
  simp only [Function.comp_def, hfound, Option.map_some, Option.bind_some,
    Reference.decode_escape, Except.toOption, String.ofList_toList]

theorem Spells.element?_tag (h : spelling.Spells element attributes) :
    spelling.tag.element? = some element := by
  have hall : ∀ element : Element, Element.ofName? element.name = some element := by
    intro element
    cases element <;> decide
  rw [Tag.element?, tag, h.name, hall]

theorem Spells.isGroup_iff (h : spelling.Spells element attributes) :
    spelling.tag.isGroup ↔ element = .group := by
  simp [Tag.isGroup, h.element?_tag]

theorem Spells.slot?_eq_none (h : spelling.Spells element attributes)
    (hne : element ≠ .poolInstance) : Description.slot? spelling.tag = none :=
  if_neg fun he => hne (Option.some.inj (h.element?_tag.symm.trans he))

theorem Spells.listed?_eq_none (h : spelling.Spells element attributes) {other : Element}
    (hne : element ≠ other) : Description.listed? other spelling.tag = none :=
  if_neg fun he => hne (Option.some.inj (h.element?_tag.symm.trans he))

theorem Spells.value? (h : spelling.Spells element attributes) {key value : String}
    (hmem : (key, value) ∈ attributes) : spelling.tag.value? key = some value := by
  obtain ⟨assignment, hassignment, hpair⟩ := List.mem_map.mp (h.attributes.mem_iff.mpr hmem)
  cases hpair
  exact value?_tag hassignment

theorem Spells.has (h : spelling.Spells element attributes) {key value : String}
    (hmem : (key, value) ∈ attributes) : spelling.tag.Has key :=
  spelling.readable_tag.has_iff.mpr ⟨value, h.value? hmem⟩

theorem Spells.not_has (h : spelling.Spells element attributes) {key : String}
    (hkey : key ∉ attributes.map (·.1)) : ¬ spelling.tag.Has key := by
  rintro ⟨item, hitem, rfl⟩
  rw [attributes_tag] at hitem
  obtain ⟨assignment, hassignment, rfl⟩ := List.mem_map.mp hitem
  exact hkey (List.mem_map_of_mem (h.attributes.mem_iff.mp (List.mem_map_of_mem hassignment)))

-- Numbers are spelled in decimal.
theorem Spells.number? (h : spelling.Spells element attributes) {key : String} {number : Int32}
    (hmem : (key, Text.Decimal.write number) ∈ attributes) :
    spelling.tag.number? key = some number := by
  rw [Tag.number?, h.value? hmem, Option.bind_some, Text.Decimal.read?_write]

end Markup.Spelling

-- The attributes of a slot, of a group, and of parameters and the entries of the catalogs.
def Slot.attributes (slot : Slot) : List (String × String) :=
  [("typeID", Text.Decimal.write slot.typeId), ("id", Text.Decimal.write slot.id),
    ("name", slot.name)]

def Group.attributes (group : Group) : List (String × String) :=
  [("typeID", Text.Decimal.write group.typeId), ("name", group.name)] ++
    group.bypass.toList.map fun id => ("bypassParam", Text.Decimal.write id)

def entryAttributes (entry : Int32 × String) : List (String × String) :=
  [("id", Text.Decimal.write entry.1), ("name", entry.2)]

-- A slot, an entry and a group as they are written.
structure WrittenSlot where
  slot : Slot
  node : Node Empty
  spells : node.spelling.Spells .poolInstance slot.attributes

structure WrittenEntry (element : Element) where
  entry : Int32 × String
  node : Node Empty
  spells : node.spelling.Spells element (entryAttributes entry)

instance (element : Element) : Writes (WrittenEntry element) where
  chars entry := Writes.chars entry.node
  events entry := Writes.events entry.node
  lexes entry := Writes.lexes entry.node
  complete entry := Writes.complete entry.node

structure WrittenGroup where
  group : Group
  node : Node (WrittenEntry .parameter)
  spells : node.spelling.Spells .group group.attributes
  parameters : node.children.map (·.entry) = group.parameters

-- What may stand under the root.
inductive WrittenItem where
  | slot (slot : WrittenSlot)
  | group (group : WrittenGroup)
  | amp (entry : WrittenEntry .amp)
  | cab (entry : WrittenEntry .cab)

namespace WrittenItem

instance : Writes WrittenItem where
  chars
    | slot item => Writes.chars item.node
    | group item => Writes.chars item.node
    | amp item => Writes.chars item.node
    | cab item => Writes.chars item.node
  events
    | slot item => Writes.events item.node
    | group item => Writes.events item.node
    | amp item => Writes.events item.node
    | cab item => Writes.events item.node
  lexes
    | slot item => Writes.lexes item.node
    | group item => Writes.lexes item.node
    | amp item => Writes.lexes item.node
    | cab item => Writes.lexes item.node
  complete
    | slot item => Writes.complete item.node
    | group item => Writes.complete item.node
    | amp item => Writes.complete item.node
    | cab item => Writes.complete item.node

def slot? : WrittenItem → Option Slot
  | slot item => some item.slot
  | group _ | amp _ | cab _ => none

def group? : WrittenItem → Option Group
  | group item => some item.group
  | slot _ | amp _ | cab _ => none

def amp? : WrittenItem → Option (Int32 × String)
  | amp item => some item.entry
  | slot _ | group _ | cab _ => none

def cab? : WrittenItem → Option (Int32 × String)
  | cab item => some item.entry
  | slot _ | group _ | amp _ => none

end WrittenItem

namespace Markup.Node

theorem within_leaf (node : Node Empty) : node.within = [] := by
  rw [within]
  cases node.children with
  | nil => rfl
  | cons child _ => exact child.elim

theorem tags_leaf (node : Node Empty) : tags node.events = [node.spelling.tag] := by
  rw [tags_events, within_leaf]
  rfl

theorem soundFrom_leaf (node : Node Empty) (opened : List Tag) :
    SoundFrom opened node.events ↔ node.spelling.tag.Sound opened := by
  rw [soundFrom_events, within_leaf]
  exact and_iff_left trivial

theorem groupsIn_leaf {node : Node Empty} (h : ¬ node.spelling.tag.isGroup) :
    Description.groupsIn node.events = [] := by
  rw [groupsIn_events, within_leaf, Device.Progress.group?_eq_none h]
  rfl

theorem ofEvents_leaf {node : Node Empty} (h : ¬ node.spelling.tag.isGroup) :
    Description.ofEvents node.events =
      ⟨(Description.slot? node.spelling.tag).toList, [],
        (Description.listed? .amp node.spelling.tag).toList,
        (Description.listed? .cab node.spelling.tag).toList⟩ := by
  rw [Description.ofEvents, tags_leaf, groupsIn_leaf h]
  simp only [List.filterMap_cons, List.filterMap_nil]
  cases Description.slot? node.spelling.tag <;>
    cases Description.listed? .amp node.spelling.tag <;>
    cases Description.listed? .cab node.spelling.tag <;> rfl

end Markup.Node

namespace WrittenSlot

variable (item : WrittenSlot)

theorem number?_typeId : item.node.spelling.tag.number? "typeID" = some item.slot.typeId :=
  item.spells.number? List.mem_cons_self

theorem number?_id : item.node.spelling.tag.number? "id" = some item.slot.id :=
  item.spells.number? (List.mem_cons_of_mem _ List.mem_cons_self)

theorem mem_name : ("name", item.slot.name) ∈ item.slot.attributes := by simp [Slot.attributes]

theorem slot?_tag : Description.slot? item.node.spelling.tag = some item.slot := by
  simp [Description.slot?, item.spells.element?_tag, item.number?_typeId, item.number?_id,
    item.spells.value? item.mem_name]

theorem sound (opened : List Tag) : item.node.spelling.tag.Sound opened := by
  rw [Tag.Sound, item.spells.element?_tag]
  refine ⟨item.node.spelling.readable_tag, fun _ => ⟨?_, ?_, item.spells.has item.mem_name⟩⟩
  · rw [item.number?_typeId, Option.isSome_some]
  · rw [item.number?_id, Option.isSome_some]

end WrittenSlot

namespace WrittenEntry

variable {element : Element} (item : WrittenEntry element)

theorem number?_id : item.node.spelling.tag.number? "id" = some item.entry.1 :=
  item.spells.number? List.mem_cons_self

theorem mem_name : ("name", item.entry.2) ∈ entryAttributes item.entry := by
  simp [entryAttributes]

theorem listed?_tag : Description.listed? element item.node.spelling.tag = some item.entry := by
  simp [Description.listed?, item.spells.element?_tag, item.number?_id,
    item.spells.value? item.mem_name]

theorem soundEntry : item.node.spelling.tag.SoundEntry := by
  refine ⟨item.node.spelling.readable_tag, ?_, item.spells.has item.mem_name⟩
  rw [item.number?_id, Option.isSome_some]

theorem sound (h : element = .parameter ∨ element = .amp ∨ element = .cab) (opened : List Tag) :
    SoundFrom opened item.node.events := by
  rw [Node.soundFrom_leaf, Tag.Sound, item.spells.element?_tag]
  rcases h with rfl | rfl | rfl
  · exact fun _ => item.soundEntry
  · exact item.soundEntry
  · exact item.soundEntry

theorem tags_flatMap (items : List (WrittenEntry element)) :
    tags (items.flatMap Writes.events) = items.map (·.node.spelling.tag) := by
  rw [tags, List.filterMap_flatMap, List.map_eq_flatMap]
  exact List.flatMap_congr fun item _ => item.node.tags_leaf

theorem groupsIn_flatMap (h : element ≠ .group) (items : List (WrittenEntry element)) :
    Description.groupsIn (items.flatMap Writes.events) = [] := by
  induction items with
  | nil => rfl
  | cons item rest ih =>
      rw [List.flatMap_cons, Description.groupsIn_append (Writes.complete item), ih,
        List.append_nil]
      exact Node.groupsIn_leaf (item.spells.isGroup_iff.not.mpr h)

end WrittenEntry

namespace WrittenGroup

variable (item : WrittenGroup)

theorem number?_typeId : item.node.spelling.tag.number? "typeID" = some item.group.typeId :=
  item.spells.number? List.mem_cons_self

theorem mem_name : ("name", item.group.name) ∈ item.group.attributes := by
  simp [Group.attributes]

-- The bypass parameter is spelled if there is one.
theorem not_has_bypass (h : item.group.bypass = none) :
    ¬ item.node.spelling.tag.Has "bypassParam" :=
  item.spells.not_has (by simp [Group.attributes, h])

theorem number?_bypass : item.node.spelling.tag.number? "bypassParam" = item.group.bypass := by
  cases hbypass : item.group.bypass with
  | none => exact item.node.spelling.readable_tag.number?_eq_none (item.not_has_bypass hbypass)
  | some id => exact item.spells.number? (by simp [Group.attributes, hbypass])

theorem tags_within :
    tags item.node.within = item.node.children.map (·.node.spelling.tag) :=
  WrittenEntry.tags_flatMap _

theorem group?_tag :
    Description.group? item.node.spelling.tag item.node.within = some item.group := by
  have hparameters :
      (tags item.node.within).filterMap (Description.listed? .parameter) =
        item.group.parameters := by
    rw [tags_within, List.filterMap_map, ← item.parameters, ← List.filterMap_eq_map]
    exact List.filterMap_congr fun child _ => child.listed?_tag
  simp [Description.group?, item.spells.element?_tag, item.number?_typeId, item.number?_bypass,
    item.spells.value? item.mem_name, hparameters]

theorem soundGroup : item.node.spelling.tag.SoundGroup := by
  refine ⟨item.node.spelling.readable_tag,
    fun _ => ⟨?_, item.spells.has item.mem_name, fun hbypass => ?_⟩⟩
  · rw [item.number?_typeId, Option.isSome_some]
  · rw [item.number?_bypass, Option.isSome_iff_ne_none]
    exact fun hnone => item.not_has_bypass hnone hbypass

theorem sound {opened : List Tag} (h : ∀ outer ∈ opened, ¬ outer.isGroup) :
    SoundFrom opened item.node.events := by
  rw [Node.soundFrom_events, Tag.Sound, item.spells.element?_tag]
  refine ⟨⟨h, item.soundGroup⟩, ?_⟩
  exact Complete.soundFrom_flatMap (fun child _ => Writes.complete child) fun child _ =>
    child.sound (.inl rfl) _

-- A group says nothing outside of the groups.
theorem ofEvents_events :
    Description.ofEvents item.node.events = ⟨[], [item.group], [], []⟩ := by
  have hslots : (tags item.node.events).filterMap Description.slot? = [] := by
    rw [Node.tags_events, tags_within, List.filterMap_eq_nil_iff]
    refine List.forall_mem_cons.mpr ⟨item.spells.slot?_eq_none (by decide), ?_⟩
    exact List.forall_mem_map.mpr fun child _ => child.spells.slot?_eq_none (by decide)
  have hlisted : ∀ element, element ≠ .group → element ≠ .parameter →
      (tags item.node.events).filterMap (Description.listed? element) = [] := by
    intro element hgroup hparameter
    rw [Node.tags_events, tags_within, List.filterMap_eq_nil_iff]
    refine List.forall_mem_cons.mpr ⟨item.spells.listed?_eq_none hgroup.symm, ?_⟩
    exact List.forall_mem_map.mpr fun child _ => child.spells.listed?_eq_none hparameter.symm
  have hgroups : Description.groupsIn item.node.events = [item.group] := by
    rw [Node.groupsIn_events, item.group?_tag, Node.within,
      WrittenEntry.groupsIn_flatMap (by decide)]
    rfl
  rw [Description.ofEvents, hslots, hgroups, hlisted .amp (by decide) (by decide),
    hlisted .cab (by decide) (by decide)]

end WrittenGroup

namespace WrittenItem

theorem sound {opened : List Tag} (h : ∀ outer ∈ opened, ¬ outer.isGroup) (item : WrittenItem) :
    SoundFrom opened (Writes.events item) := by
  cases item with
  | slot item => exact (Node.soundFrom_leaf _ _).mpr (item.sound opened)
  | group item => exact item.sound h
  | amp item => exact item.sound (.inr (.inl rfl)) opened
  | cab item => exact item.sound (.inr (.inr rfl)) opened

-- Every item says what it is for, and nothing else.
theorem ofEvents_events (item : WrittenItem) :
    Description.ofEvents (Writes.events item) =
      ⟨item.slot?.toList, item.group?.toList, item.amp?.toList, item.cab?.toList⟩ := by
  cases item with
  | slot item =>
      have hleaf := Node.ofEvents_leaf (item.spells.isGroup_iff.not.mpr (by decide))
      rw [item.slot?_tag, item.spells.listed?_eq_none (by decide),
        item.spells.listed?_eq_none (by decide)] at hleaf
      exact hleaf
  | group item => exact item.ofEvents_events
  | amp item =>
      have hleaf := Node.ofEvents_leaf (item.spells.isGroup_iff.not.mpr (by decide))
      rw [item.spells.slot?_eq_none (by decide), item.listed?_tag,
        item.spells.listed?_eq_none (by decide)] at hleaf
      exact hleaf
  | cab item =>
      have hleaf := Node.ofEvents_leaf (item.spells.isGroup_iff.not.mpr (by decide))
      rw [item.spells.slot?_eq_none (by decide), item.spells.listed?_eq_none (by decide),
        item.listed?_tag] at hleaf
      exact hleaf

-- The items are read in their order.
theorem ofEvents_flatMap (items : List WrittenItem) :
    Description.ofEvents (items.flatMap Writes.events) =
      ⟨items.filterMap slot?, items.filterMap group?, items.filterMap amp?,
        items.filterMap cab?⟩ := by
  induction items with
  | nil => rfl
  | cons item rest ih =>
      rw [List.flatMap_cons, Description.ofEvents_append (Writes.complete item), ih,
        ofEvents_events]
      cases item <;> rfl

end WrittenItem

end EffectTables
