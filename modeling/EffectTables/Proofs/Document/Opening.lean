import EffectTables.Proofs.Document.Sound

namespace EffectTables

namespace ParameterGroup

-- The group once some parameters are written in it.
def pushAll (group : ParameterGroup) (parameters : List (Int32 × String)) : ParameterGroup :=
  parameters.foldl (fun group entry => group.push entry.2 entry.1) group

theorem pushAll_append (group : ParameterGroup) (parameters more : List (Int32 × String)) :
    group.pushAll (parameters ++ more) = (group.pushAll parameters).pushAll more :=
  List.foldl_append

-- What no single parameter changes stays as it is.
theorem pushAll_keeps {field : ParameterGroup → α}
    (h : ∀ (group : ParameterGroup) (name : String) (id : Int32),
      field (group.push name id) = field group)
    (group : ParameterGroup) (parameters : List (Int32 × String)) :
    field (group.pushAll parameters) = field group := by
  induction parameters generalizing group with
  | nil => rfl
  | cons entry rest ih => exact (ih (group.push entry.2 entry.1)).trans (h group entry.2 entry.1)

theorem pushAll_typeId (group : ParameterGroup) (parameters : List (Int32 × String)) :
    (group.pushAll parameters).typeId = group.typeId :=
  pushAll_keeps (fun _ _ _ => rfl) group parameters

theorem pushAll_name (group : ParameterGroup) (parameters : List (Int32 × String)) :
    (group.pushAll parameters).name = group.name :=
  pushAll_keeps (fun _ _ _ => rfl) group parameters

theorem pushAll_parameters (group : ParameterGroup) (parameters : List (Int32 × String)) :
    (group.pushAll parameters).parameters = group.parameters ++
      if group.marked then Group.unmarked parameters
      else Group.marked group.pending parameters := by
  induction parameters generalizing group with
  | nil => simp [pushAll, Group.unmarked, Group.marked]
  | cons entry rest ih =>
      have hstep : group.pushAll (entry :: rest) = (group.push entry.2 entry.1).pushAll rest := rfl
      rw [hstep, ih]
      by_cases hm : group.marked
      · simp [push, hm, Group.unmarked]
      · by_cases hp : group.pending = some entry.1
        · simp [push, hm, hp, Group.marked]
        · simp [push, hm, hp, Group.marked]

end ParameterGroup

namespace Group

-- The group once it was opened and all its parameters were read.
def filled (group : Group) : ParameterGroup :=
  ParameterGroup.pushAll { typeId := group.typeId, name := group.name, pending := group.bypass }
    group.parameters

-- A group that is filled becomes the block type that is written.
theorem close_filled (group : Group) : group.filled.close = group.blockType := by
  simp [filled, ParameterGroup.close, blockType, ParameterGroup.pushAll_typeId,
    ParameterGroup.pushAll_name, ParameterGroup.pushAll_parameters]

end Group

namespace Device.Progress

open Markup (Tag)
open Description (slot? listed? group?)
open Device.Attributes

variable {progress next : Progress} {tag : Tag}

-- Work on the attributes of a tag is done only if they can be read.
theorem outcome_ofTag_bind_eq_ok_iff {work : Attributes → Traced ReadError α} {result : α}
    {sound done : Prop}
    (hwork : ∀ attributes, ofTag tag = .ok attributes → tag.Readable →
      ((work attributes).outcome = .ok result ↔ sound ∧ done)) :
    (Traced.ofExcept (ofTag tag) >>= work).outcome = .ok result ↔
      (tag.Readable ∧ sound) ∧ done := by
  rw [Traced.outcome_bind_eq_ok_iff, Traced.outcome_ofExcept, and_assoc]
  constructor
  · intro hall
    obtain ⟨attributes, h, hdone⟩ := hall
    have hreadable := readable_of_ofTag h
    exact ⟨hreadable, (hwork attributes h hreadable).mp hdone⟩
  · intro hall
    obtain ⟨hreadable, hdone⟩ := hall
    obtain ⟨attributes, h⟩ := exists_ofTag hreadable
    exact ⟨attributes, h, (hwork attributes h hreadable).mpr hdone⟩

theorem integer?_bind_eq_ok_iff {attributes : Attributes} (h : ofTag tag = .ok attributes)
    {element : Element} {key : String} {work : Option Int32 → Traced ReadError α} {result : α} :
    (Traced.ofExcept (attributes.integer? element key) >>= work).outcome = .ok result ↔
      (tag.Has key → (tag.number? key).isSome) ∧
        (work (tag.number? key)).outcome = .ok result := by
  rw [Traced.outcome_bind_eq_ok_iff, Traced.outcome_ofExcept]
  have hreadable := readable_of_ofTag h
  constructor
  · intro hall
    obtain ⟨found, hfound, hwork⟩ := hall
    cases found with
    | none =>
        have hno := (integer?_eq_none_iff h).mp hfound
        rw [hreadable.number?_eq_none hno]
        exact ⟨fun hhas => absurd hhas hno, hwork⟩
    | some number =>
        rw [(integer?_eq_some_iff h).mp hfound]
        exact ⟨fun _ => rfl, hwork⟩
  · intro hall
    obtain ⟨hsound, hwork⟩ := hall
    by_cases hhas : tag.Has key
    · obtain ⟨number, hnumber⟩ := Option.isSome_iff_exists.mp (hsound hhas)
      exact ⟨some number, (integer?_eq_some_iff h).mpr hnumber, hnumber ▸ hwork⟩
    · exact ⟨none, (integer?_eq_none_iff h).mpr hhas, hreadable.number?_eq_none hhas ▸ hwork⟩

theorem integer_bind_eq_ok_iff {attributes : Attributes} (h : ofTag tag = .ok attributes)
    {element : Element} {key : String} {work : Int32 → Traced ReadError α} {result : α} :
    (Traced.ofExcept (attributes.integer element key) >>= work).outcome = .ok result ↔
      ∃ number, tag.number? key = some number ∧ (work number).outcome = .ok result := by
  simp only [Traced.outcome_bind_eq_ok_iff, Traced.outcome_ofExcept, integer_eq_ok_iff h]

theorem text_bind_eq_ok_iff {attributes : Attributes} (h : ofTag tag = .ok attributes)
    {element : Element} {key : String} {work : String → Traced ReadError α} {result : α} :
    (Traced.ofExcept (attributes.text element key) >>= work).outcome = .ok result ↔
      ∃ value, tag.value? key = some value ∧ (work value).outcome = .ok result := by
  simp only [Traced.outcome_bind_eq_ok_iff, Traced.outcome_ofExcept, text_eq_ok_iff h]

theorem openInstance_eq_ok_iff (helement : tag.element? = some .poolInstance) :
    (progress.openInstance tag).outcome = .ok next ↔
      tag.SoundSlot ∧
        { progress with
          device := progress.device.extend ((slot? tag).toList.map Slot.block) [] [] [] } =
          next := by
  rw [openInstance, Tag.SoundSlot]
  refine outcome_ofTag_bind_eq_ok_iff fun attributes h hreadable => ?_
  simp only [integer?_bind_eq_ok_iff h, hreadable.has_iff]
  cases htype : tag.number? "typeID" with
  | none => simp [slot?, helement, htype, extend_nil]
  | some typeId =>
      obtain ⟨text, htext⟩ := hreadable.has_iff.mp (hreadable.has_of_number htype)
      simp only [integer_bind_eq_ok_iff h, text_bind_eq_ok_iff h, htext]
      cases hid : tag.number? "id" with
      | none => simp
      | some id =>
          cases hname : tag.value? "name" with
          | none => simp
          | some name =>
              simp [slot?, helement, htype, hid, hname, addBlock_eq_extend, Slot.block]

-- The group that a tag opens, before it has parameters.
def groupOf (tag : Tag) : Grouping :=
  match group? tag [] with
  | none => .untyped
  | some group =>
      .inside { typeId := group.typeId, name := group.name, pending := group.bypass }

theorem openGroup_eq_ok_iff (helement : tag.element? = some .group)
    (houtside : progress.grouping = .outside) :
    (progress.openGroup tag).outcome = .ok next ↔
      tag.SoundGroup ∧ { progress with grouping := groupOf tag } = next := by
  rw [openGroup, houtside, Tag.SoundGroup]
  refine outcome_ofTag_bind_eq_ok_iff fun attributes h hreadable => ?_
  simp only [integer?_bind_eq_ok_iff h, hreadable.has_iff]
  cases htype : tag.number? "typeID" with
  | none => simp [groupOf, group?, helement, htype]
  | some typeId =>
      obtain ⟨text, htext⟩ := hreadable.has_iff.mp (hreadable.has_of_number htype)
      simp only [integer?_bind_eq_ok_iff h, text_bind_eq_ok_iff h, htext, hreadable.has_iff]
      cases hname : tag.value? "name" with
      | none => simp
      | some name => simp [groupOf, group?, helement, htype, hname]

-- Within a group that has a type, a parameter needs a number and a name.
theorem openParameter_eq_ok_iff {group : ParameterGroup}
    (helement : tag.element? = some .parameter) (hinside : progress.grouping = .inside group) :
    (progress.openParameter tag).outcome = .ok next ↔
      tag.SoundEntry ∧
        { progress with
          grouping := .inside (group.pushAll (listed? .parameter tag).toList) } = next := by
  rw [openParameter, hinside, Tag.SoundEntry]
  refine outcome_ofTag_bind_eq_ok_iff fun attributes h hreadable => ?_
  simp only [integer_bind_eq_ok_iff h, text_bind_eq_ok_iff h, hreadable.has_iff]
  cases hid : tag.number? "id" with
  | none => simp
  | some id =>
      cases hname : tag.value? "name" with
      | none => simp
      | some name => simp [listed?, helement, hid, hname, ParameterGroup.pushAll]

theorem openEntry_eq_ok_iff {element : Element} {catalog : Catalog}
    {add : Int32 → String → Progress} :
    (openEntry element catalog add tag).outcome = .ok next ↔
      tag.SoundEntry ∧
        ∃ id name, tag.number? "id" = some id ∧ tag.value? "name" = some name ∧
          add id name = next := by
  rw [openEntry, Tag.SoundEntry]
  refine outcome_ofTag_bind_eq_ok_iff fun attributes h hreadable => ?_
  simp only [integer_bind_eq_ok_iff h, text_bind_eq_ok_iff h, hreadable.has_iff]
  cases hid : tag.number? "id" with
  | none => simp
  | some id =>
      cases hname : tag.value? "name" with
      | none => simp
      | some name =>
          simp only [Option.isSome_some, Option.some.injEq, exists_eq', exists_eq_left', true_and]
          -- Whether there was an entry before makes a difference to the notes only.
          split <;> simp [Traced.outcome_note_bind]

end Device.Progress

end EffectTables
