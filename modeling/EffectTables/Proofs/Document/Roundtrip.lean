import EffectTables.Proofs.Document.Writing

namespace EffectTables

open Markup

-- A document with its items in any order under one root.
structure WrittenDocument where
  before : Spaces
  root : Node WrittenItem
  unknown : root.spelling.tag.element? = none
  after : Spaces

namespace WrittenDocument

def text (document : WrittenDocument) : String :=
  String.ofList (document.before.chars ++ document.root.chars ++ document.after.chars)

def description (document : WrittenDocument) : Description where
  slots := document.root.children.filterMap WrittenItem.slot?
  groups := document.root.children.filterMap WrittenItem.group?
  amps := document.root.children.filterMap WrittenItem.amp?
  cabs := document.root.children.filterMap WrittenItem.cab?

-- What is read from a written document is what was written.
theorem ofEvents_root (document : WrittenDocument) :
    Description.ofEvents document.root.events = document.description := by
  have hunknown : ∀ element, document.root.spelling.tag.element? ≠ some element := by
    simp [document.unknown]
  have hslot : Description.slot? document.root.spelling.tag = none := if_neg (hunknown _)
  have hlisted : ∀ element, Description.listed? element document.root.spelling.tag = none :=
    fun element => if_neg (hunknown element)
  have hgroup : ¬ document.root.spelling.tag.isGroup := by
    simp [Tag.isGroup, document.unknown]
  have hwithin : Description.ofEvents document.root.within = document.description :=
    WrittenItem.ofEvents_flatMap _
  rw [← hwithin, Description.ofEvents, Node.tags_events, Node.groupsIn_events,
    Device.Progress.group?_eq_none hgroup, List.filterMap_cons_none hslot,
    List.filterMap_cons_none (hlisted _), List.filterMap_cons_none (hlisted _)]
  rfl

theorem read_text (document : WrittenDocument) :
    Markup.read document.text = ⟨document.root.events, none⟩ := by
  have hlexes := (document.before.lexes.append document.root.lexes).append document.after.lexes
  rw [List.nil_append, List.append_nil] at hlexes
  have hfits := nested_of_fits none (document.root.complete.fits [])
  rw [Markup.read, text, String.toList_ofList, hlexes.events_eq]
  exact hfits

theorem sound (document : WrittenDocument) : (Markup.read document.text).Sound := by
  have hgroup : ∀ outer ∈ [document.root.spelling.tag], ¬ outer.isGroup := by
    simp [Tag.isGroup, document.unknown]
  rw [read_text, Findings.sound_iff]
  refine ⟨rfl, ?_, document.root.complete.openTags_eq_nil⟩
  rw [Node.soundFrom_events, Tag.Sound, document.unknown]
  exact ⟨trivial, Complete.soundFrom_flatMap (fun item _ => Writes.complete item)
    fun item _ => item.sound hgroup⟩

end WrittenDocument

-- Everything can be written, for example with one space before each attribute and with no others.
def Markup.Spaces.none : Spaces := ⟨[], by simp⟩

def Markup.Gap.one : Gap := ⟨⟨[' '], List.forall_mem_singleton.mpr rfl⟩, by simp⟩

def Markup.Node.holding {α : Type} (spelling : Spelling) (children : List α) : Node α where
  spelling := spelling
  content? := some ⟨children.map fun child => (Spaces.none, child), Spaces.none, Spaces.none⟩

theorem Markup.Node.children_holding {α : Type} [Writes α] (spelling : Spelling)
    (children : List α) : (holding spelling children).children = children := by
  simp [holding, Node.children, Function.comp_def]

theorem Markup.Spelling.exists_spells (element : Element) (attributes : List (String × String))
    (hplain : ∀ key ∈ attributes.map (·.1), Plain key) (hkeys : (attributes.map (·.1)).Nodup) :
    ∃ spelling : Spelling, spelling.Spells element attributes := by
  have hassignments : ∃ assignments : List Assignment,
      (assignments.map fun assignment => (assignment.key, assignment.value)) = attributes := by
    clear hkeys
    induction attributes with
    | nil => exact ⟨[], rfl⟩
    | cons pair rest ih =>
        obtain ⟨hfirst, hrest⟩ := List.forall_mem_cons.mp hplain
        obtain ⟨assignments, rfl⟩ := ih hrest
        exact ⟨⟨Gap.one, pair.1, pair.2, hfirst⟩ :: assignments, rfl⟩
  have hname : ∀ element : Element, Plain element.name := by
    intro element
    cases element <;> decide
  obtain ⟨assignments, rfl⟩ := hassignments
  rw [List.map_map] at hkeys
  exact ⟨⟨element.name, assignments, Spaces.none, hname element, hkeys⟩, rfl, .refl _⟩

theorem WrittenSlot.slot_surjective : Function.Surjective WrittenSlot.slot := by
  have hkeys : (∀ key ∈ ["typeID", "id", "name"], Plain key) ∧ ["typeID", "id", "name"].Nodup := by
    decide
  intro slot
  obtain ⟨spelling, hspells⟩ :=
    Spelling.exists_spells .poolInstance slot.attributes hkeys.1 hkeys.2
  exact ⟨⟨slot, .holding spelling [], hspells⟩, rfl⟩

theorem WrittenEntry.entry_surjective (element : Element) :
    Function.Surjective fun item : WrittenEntry element => item.entry := by
  have hkeys : (∀ key ∈ ["id", "name"], Plain key) ∧ ["id", "name"].Nodup := by decide
  intro entry
  obtain ⟨spelling, hspells⟩ :=
    Spelling.exists_spells element (entryAttributes entry) hkeys.1 hkeys.2
  exact ⟨⟨entry, .holding spelling [], hspells⟩, rfl⟩

theorem WrittenGroup.group_surjective : Function.Surjective WrittenGroup.group := by
  have hkeys : (∀ key ∈ ["typeID", "name", "bypassParam"], Plain key) ∧
      ["typeID", "name", "bypassParam"].Nodup := by decide
  intro group
  have hsublist : (group.attributes.map (·.1)).Sublist ["typeID", "name", "bypassParam"] := by
    cases hbypass : group.bypass <;> simp [Group.attributes, hbypass]
  obtain ⟨spelling, hspells⟩ := Spelling.exists_spells .group group.attributes
    (fun key hkey => hkeys.1 key (hsublist.subset hkey)) (hkeys.2.sublist hsublist)
  obtain ⟨entries, hentries⟩ :=
    List.map_surjective_iff.mpr (WrittenEntry.entry_surjective .parameter) group.parameters
  refine ⟨⟨group, .holding spelling entries, hspells, ?_⟩, rfl⟩
  rw [Node.children_holding, hentries]

theorem WrittenDocument.description_surjective :
    Function.Surjective WrittenDocument.description := by
  intro description
  obtain ⟨slots, hslots⟩ :=
    List.map_surjective_iff.mpr WrittenSlot.slot_surjective description.slots
  obtain ⟨groups, hgroups⟩ :=
    List.map_surjective_iff.mpr WrittenGroup.group_surjective description.groups
  obtain ⟨amps, hamps⟩ :=
    List.map_surjective_iff.mpr (WrittenEntry.entry_surjective .amp) description.amps
  obtain ⟨cabs, hcabs⟩ :=
    List.map_surjective_iff.mpr (WrittenEntry.entry_surjective .cab) description.cabs
  let items := slots.map WrittenItem.slot ++ groups.map WrittenItem.group ++
    amps.map WrittenItem.amp ++ cabs.map WrittenItem.cab
  let spelling : Spelling := ⟨"Device", [], Spaces.none, by decide, by simp⟩
  have hunknown : Element.ofName? "Device" = none := by decide
  refine ⟨⟨Spaces.none, .holding spelling items, hunknown, Spaces.none⟩, ?_⟩
  rw [WrittenDocument.description, Node.children_holding]
  have hslot : items.filterMap WrittenItem.slot? = description.slots := by
    simp [items, Function.comp_def, WrittenItem.slot?, ← hslots]
  have hgroup : items.filterMap WrittenItem.group? = description.groups := by
    simp [items, Function.comp_def, WrittenItem.group?, ← hgroups]
  have hamp : items.filterMap WrittenItem.amp? = description.amps := by
    simp [items, Function.comp_def, WrittenItem.amp?, ← hamps]
  have hcab : items.filterMap WrittenItem.cab? = description.cabs := by
    simp [items, Function.comp_def, WrittenItem.cab?, ← hcabs]
  rw [hslot, hgroup, hamp, hcab]

-- Every description can be written, and in whatever way it is written, it is read as the device
-- that it describes.
theorem Device.read_written :
    Function.Surjective WrittenDocument.description ∧
      ∀ document : WrittenDocument,
        (Device.read document.text).outcome = .ok document.description.device ∧
          document.description.device.Records document.description := by
  refine ⟨WrittenDocument.description_surjective, fun document => ?_⟩
  refine ⟨Device.read_eq_ok_iff.mpr ⟨document.sound, ?_⟩, document.description.device_records⟩
  rw [document.read_text, document.ofEvents_root]

end EffectTables
