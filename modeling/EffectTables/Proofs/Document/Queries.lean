import EffectTables.Proofs.Device.WellFormed
import EffectTables.Proofs.Document.Description

namespace EffectTables

namespace Group

def parameterName? (group : Group) (id : Int32) : Option String :=
  (group.parameters.find? (·.1 == id)).map (·.2)

-- The bypass parameter counts only if it is among the parameters.
def bypassId? (group : Group) : Option Int32 :=
  group.bypass.filter fun id => group.parameters.any (·.1 == id)

theorem unmarked_pairs (parameters : List (Int32 × String)) :
    (unmarked parameters).map (fun parameter => (parameter.id, parameter.name)) = parameters := by
  simp [unmarked, Function.comp_def]

-- Marking changes neither ids nor names.
theorem marked_pairs (bypass : Option Int32) (parameters : List (Int32 × String)) :
    (marked bypass parameters).map (fun parameter => (parameter.id, parameter.name)) =
      parameters := by
  induction parameters with
  | nil => rfl
  | cons entry rest ih =>
      simp only [marked]
      split
      · rw [List.map_cons, unmarked_pairs]
      · rw [List.map_cons, ih]

theorem blockType_pairs (group : Group) :
    group.blockType.parameters.map (fun parameter => (parameter.id, parameter.name)) =
      group.parameters :=
  marked_pairs group.bypass group.parameters

theorem blockType_ids (group : Group) :
    group.blockType.parameters.map (·.id) = group.parameters.map (·.1) := by
  conv_rhs => rw [← group.blockType_pairs, List.map_map]
  rfl

theorem find?_blockType (group : Group) (id : Int32) :
    (group.blockType.parameters.find? (·.id == id)).map (·.name) = group.parameterName? id := by
  conv_rhs => rw [parameterName?, ← group.blockType_pairs, List.find?_map, Option.map_map]
  rfl

private theorem find?_marked (bypass : Option Int32) (parameters : List (Int32 × String)) :
    ((marked bypass parameters).find? (·.bypass)).map (·.id) =
      bypass.filter fun id => parameters.any (·.1 == id) := by
  induction parameters with
  | nil => cases bypass <;> rfl
  | cons entry rest ih =>
      simp only [marked]
      by_cases h : bypass = some entry.1
      · simp [h, Option.filter_some]
      · rw [if_neg h]
        cases bypass with
        | none => simpa using ih
        | some id =>
            have hne : (entry.1 == id) = false := by
              rw [beq_eq_false_iff_ne]
              exact fun he => h (he ▸ rfl)
            simp only [Option.filter_some, List.find?_cons, List.any_cons, hne,
              Bool.false_or] at ih ⊢
            exact ih

-- The parameter that is marked is the bypass parameter.
theorem blockType_bypassId? (group : Group) : group.blockType.bypassId? = group.bypassId? :=
  find?_marked group.bypass group.parameters

end Group

namespace Description

def slotWith? (description : Description) (id : Int32) : Option Slot :=
  description.slots.find? (·.id == id)

def groupWith? (description : Description) (typeId : Int32) : Option Group :=
  description.groups.find? (·.typeId == typeId)

variable {description : Description}

theorem device_blocks (description : Description) :
    description.device.blocks = description.slots.map Slot.block :=
  description.device_records.blocks

theorem device_blockTypes (description : Description) :
    description.device.blockTypes = description.groups.map Group.blockType :=
  description.device_records.blockTypes

-- The index of the block types follows from the block types.
theorem device_ext {other : Description}
    (hblocks : description.device.blocks = other.device.blocks)
    (htypes : description.device.blockTypes = other.device.blockTypes)
    (hamps : description.device.amps = other.device.amps)
    (hcabs : description.device.cabs = other.device.cabs) :
    description.device = other.device := by
  rw [device_blockTypes, device_blockTypes] at htypes
  simp only [device, Device.extend, Device.mk.injEq] at hblocks hamps hcabs ⊢
  exact ⟨hblocks, by rw [htypes], hamps, hcabs, by rw [htypes]⟩

theorem blockType_mem (description : Description) {group : Group}
    (h : group ∈ description.groups) : group.blockType ∈ description.device.blockTypes := by
  rw [device_blockTypes]
  exact List.mem_map_of_mem h

theorem find?_blocks (description : Description) (id : Int32) :
    description.device.blocks.find? (·.id == id) = (description.slotWith? id).map Slot.block := by
  rw [device_blocks, List.find?_map]
  rfl

theorem find?_blockTypes (description : Description) (typeId : Int32) :
    description.device.blockTypes.find? (·.typeId == typeId) =
      (description.groupWith? typeId).map Group.blockType := by
  rw [device_blockTypes, List.find?_map]
  rfl

theorem slotIds_eq (description : Description) :
    description.slots.map (·.id) = description.device.blocks.map (·.id) := by
  rw [device_blocks, List.map_map]
  rfl

theorem typeIds_eq (description : Description) :
    description.groups.map (·.typeId) = description.device.blockTypes.map (·.typeId) := by
  rw [device_blockTypes, List.map_map]
  rfl

-- Where type ids occur once, it makes no difference from which end a group is searched.
theorem blockType?_eq (hwell : description.device.WellFormed) (typeId : Int32) :
    description.device.blockType? typeId =
      (description.groupWith? typeId).map Group.blockType := by
  have hids : (description.groups.map (·.typeId)).Nodup := description.typeIds_eq ▸ hwell.typeIds
  have hreverse : (description.groups.reverse.map (·.typeId)).Nodup := by
    rwa [List.map_reverse, List.nodup_reverse]
  rw [description.device_records.types, groupWith?]
  congr 1
  ext group
  rw [Lookup.find?_key_eq_some_iff hids, Lookup.find?_key_eq_some_iff hreverse, List.mem_reverse]

end Description

end EffectTables
