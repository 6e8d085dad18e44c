import EffectTables.Proofs.Code.Contents
import EffectTables.Proofs.Symbol

namespace EffectTables

namespace Symbol

-- Whether some letter of the ASCII alphabet is small.
def hasSmall (name : String) : Bool := name.toList.any Char.isLower

theorem hasSmall_of_mem {name : String} {c : Char} (hc : c ∈ name.toList) (hlower : c.isLower) :
    hasSmall name :=
  List.any_eq_true.mpr ⟨c, hc, hlower⟩

theorem not_isLower_toUpper (c : Char) : ¬ c.toUpper.isLower := by
  rw [isLower_iff, toNat_toUpper]
  split_ifs <;> omega

theorem not_isLower_suffixLetter (c : Char) : ¬ (suffixLetter c).isLower := by
  unfold suffixLetter
  split
  · decide
  · exact not_isLower_toUpper c

theorem hasSmall_append_suffix (frame name : String) :
    hasSmall (frame ++ suffix name) = hasSmall frame := by
  have hsuffix : (suffix name).toList.any Char.isLower = false := by
    rw [suffix, String.toList_ofList, List.any_map, List.any_eq_false]
    intro c _
    exact not_isLower_suffixLetter c
  rw [hasSmall, String.toList_append, List.any_append, hsuffix, Bool.or_false, hasSmall]

-- The symbols of blocks and block types are all capitals.
theorem hasSmall_block (name : String) : hasSmall (block name) = false := by
  rw [block, hasSmall_append_suffix]
  decide

theorem hasSmall_blockType (name : String) : hasSmall (blockType name) = false := by
  rw [blockType, hasSmall_append_suffix]
  decide

end Symbol

namespace BlockType

theorem hasSmall_parameterEnum (type : BlockType) : Symbol.hasSmall type.parameterEnum := by
  have hmem : 'a' ∈ type.parameterEnum.toList := type.parameterEnum_suffix.subset (by decide)
  exact Symbol.hasSmall_of_mem hmem (by decide)

theorem hasSmall_parameterFunction (type : BlockType) :
    Symbol.hasSmall type.parameterFunction := by
  have hmem : 'a' ∈ type.parameterFunction.toList :=
    type.parameterFunction_suffix.subset (by decide)
  exact Symbol.hasSmall_of_mem hmem (by decide)

-- One stem makes a name that is taken.
theorem parameterEnum_mem_commonNames_iff {type : BlockType} :
    type.parameterEnum ∈ Code.Tables.commonNames ↔ type.stem = "GetBlockBypass" := by
  have hframe : "GetBlockBypassParamID" = "GetBlockBypass" ++ "ParamID" := by decide
  constructor
  · intro hmem
    have hsuffix : ∀ name ∈ Code.Tables.commonNames, "ParamID".toList <:+ name.toList →
        name = "GetBlockBypassParamID" := by decide
    have hname := hsuffix _ hmem type.parameterEnum_suffix
    rw [parameterEnum, hframe] at hname
    exact (String.append_left_inj _).mp hname
  · intro hstem
    rw [parameterEnum, hstem, ← hframe]
    decide

-- The two frames around the stem end differently.
theorem parameterEnum_ne_parameterFunction (type other : BlockType) :
    type.parameterEnum ≠ other.parameterFunction := by
  intro heq
  have henum := type.parameterEnum_suffix
  rw [heq] at henum
  rcases List.suffix_or_suffix_of_suffix henum other.parameterFunction_suffix with h | h
  · exact absurd h (by decide)
  · exact absurd h (by decide)

end BlockType

namespace Code

-- The names that a header introduces within its namespace.
def Program.names (program : Program) : List String :=
  program.enumerations.map (·.name) ++ program.enumerators.map (·.name) ++
    program.lookups.map (·.function.name)

-- The names of the enumerations that every header has.
def Enumeration.commonNames : List String := ["AxeFxBlockType", "AxeFxIIBlockID"]

theorem enumerationNames_eq (device : Device) :
    (Enumeration.ofDevice device).map (·.name) =
      Enumeration.commonNames ++ device.blockTypes.map BlockType.parameterEnum := by
  simp only [Enumeration.ofDevice, List.map_cons, List.map_map]
  rfl

theorem hasSmall_enumerationName {device : Device} {name : String}
    (h : name ∈ (Enumeration.ofDevice device).map (·.name)) : Symbol.hasSmall name := by
  rw [enumerationNames_eq, List.mem_append, List.mem_map] at h
  rcases h with h | ⟨type, -, rfl⟩
  · have hcommon : ∀ name ∈ Enumeration.commonNames, Symbol.hasSmall name := by decide
    exact hcommon name h
  · exact type.hasSmall_parameterEnum

theorem hasSmall_lookupName {device : Device} {pairs : List (Block × BlockType)} {name : String}
    (h : name ∈ (Tables.build device pairs).lookups.map (·.function.name)) :
    Symbol.hasSmall name := by
  rw [Tables.build_lookups_names, List.mem_append, List.mem_map] at h
  rcases h with h | ⟨type, -, rfl⟩
  · have hcommon : ∀ name ∈ Tables.commonNames, Symbol.hasSmall name := by decide
    exact hcommon name h
  · exact type.hasSmall_parameterFunction

theorem enumerationNames_nodup {device : Device}
    (hstems : (device.blockTypes.map (·.stem)).Nodup) :
    ((Enumeration.ofDevice device).map (·.name)).Nodup := by
  rw [enumerationNames_eq, List.nodup_append]
  refine ⟨by decide, ?_, ?_⟩
  · exact BlockType.map_nodup_of_stems (fun _ _ => BlockType.parameterEnum_inj.mp) hstems
  · intro name hname other hother heq
    obtain ⟨type, -, rfl⟩ := List.mem_map.mp hother
    have hends : ∀ name ∈ Enumeration.commonNames, ¬ "ParamID".toList <:+ name.toList := by decide
    exact hends name hname (heq ▸ type.parameterEnum_suffix)

-- Enumerations and functions share no name, unless a stem makes one that is taken.
theorem enumerationNames_disjoint_iff (device : Device) (pairs : List (Block × BlockType)) :
    (∀ name ∈ (Enumeration.ofDevice device).map (·.name),
      name ∉ (Tables.build device pairs).lookups.map (·.function.name)) ↔
      ∀ type ∈ device.blockTypes, type.stem ≠ "GetBlockBypass" := by
  rw [enumerationNames_eq, Tables.build_lookups_names]
  constructor
  · intro h type htype hstem
    have hmem : type.parameterEnum ∈ device.blockTypes.map BlockType.parameterEnum :=
      List.mem_map_of_mem htype
    refine h _ (List.mem_append_right _ hmem) (List.mem_append_left _ ?_)
    exact BlockType.parameterEnum_mem_commonNames_iff.mpr hstem
  · intro h name hname hfunction
    -- the ends of the names tell the families apart
    rcases List.mem_append.mp hname with hcommon | henum
    · have hfree : ∀ name ∈ Enumeration.commonNames, name ∉ Tables.commonNames ∧
          ¬ "ParamName".toList <:+ name.toList := by decide
      rcases List.mem_append.mp hfunction with hfunction | hfunction
      · exact (hfree name hcommon).1 hfunction
      · obtain ⟨other, -, rfl⟩ := List.mem_map.mp hfunction
        exact (hfree _ hcommon).2 other.parameterFunction_suffix
    · obtain ⟨type, htype, rfl⟩ := List.mem_map.mp henum
      rcases List.mem_append.mp hfunction with hfunction | hfunction
      · exact h type htype (BlockType.parameterEnum_mem_commonNames_iff.mp hfunction)
      · obtain ⟨other, -, heq⟩ := List.mem_map.mp hfunction
        exact type.parameterEnum_ne_parameterFunction other heq.symm

-- The symbols of what is described are all capitals.
theorem not_hasSmall_blockSymbol {description : Description} {block : Block}
    (h : block ∈ description.device.blocks) : ¬ Symbol.hasSmall block.symbol := by
  rw [description.device_blocks] at h
  obtain ⟨slot, -, rfl⟩ := List.mem_map.mp h
  exact Bool.not_eq_true _ ▸ Symbol.hasSmall_block slot.name

theorem not_hasSmall_typeSymbol {description : Description} {type : BlockType}
    (h : type ∈ description.device.blockTypes) : ¬ Symbol.hasSmall type.symbol := by
  rw [description.device_blockTypes] at h
  obtain ⟨group, -, rfl⟩ := List.mem_map.mp h
  exact Bool.not_eq_true _ ▸ Symbol.hasSmall_blockType group.name

-- Among the enumerators of what is described, only the parameters may have small letters.
theorem exists_parameter_of_hasSmall {description : Description} {name : String}
    (hname : name ∈ description.device.enumeratorNames) (hsmall : Symbol.hasSmall name) :
    ∃ type ∈ description.device.blockTypes, ∃ parameter ∈ type.parameters,
      parameter.name = name := by
  simp only [Device.enumeratorNames, List.mem_append, List.mem_map, List.mem_flatMap] at hname
  rcases hname with ((hreserved | ⟨type, htype, rfl⟩) | ⟨block, hblock, rfl⟩) | hparameter
  · have hcapital : ∀ name ∈ [Symbol.noBlockType, Symbol.noBlock, Symbol.shunt],
        ¬ Symbol.hasSmall name := by decide
    exact absurd hsmall (hcapital name hreserved)
  · exact absurd hsmall (not_hasSmall_typeSymbol htype)
  · exact absurd hsmall (not_hasSmall_blockSymbol hblock)
  · obtain ⟨type, htype, parameter, hp, rfl⟩ := hparameter
    exact ⟨type, htype, parameter, hp, rfl⟩

-- No parameter has the name of an enumeration or of a function.
def Program.ParametersApart (program : Program) (device : Device) : Prop :=
  ∀ type ∈ device.blockTypes, ∀ parameter ∈ type.parameters,
    parameter.name ∉ program.enumerations.map (·.name) ∧
      parameter.name ∉ program.lookups.map (·.function.name)

theorem mem_enumeratorNames {device : Device} {tables : Tables} {name : String} :
    name ∈ (Program.ofDevice device tables).enumerators.map (·.name) ↔
      name ∈ device.enumeratorNames :=
  (Enumeration.ofDevice_names_perm device).mem_iff

-- Enumerators are all capitals except for parameters, and the other names are not.
theorem enumerators_apart_iff (description : Description) (pairs : List (Block × BlockType)) :
    ((∀ name ∈ description.device.enumeratorNames,
      name ∉ (Enumeration.ofDevice description.device).map (·.name) ∧
        name ∉ (Tables.build description.device pairs).lookups.map (·.function.name))) ↔
      (Program.ofDevice description.device
        (Tables.build description.device pairs)).ParametersApart description.device := by
  constructor
  · intro h type htype parameter hparameter
    apply h parameter.name
    simp only [Device.enumeratorNames, List.mem_append, List.mem_flatMap, List.mem_map]
    exact .inr ⟨type, htype, parameter, hparameter, rfl⟩
  · intro h name hname
    constructor
    · intro henumeration
      obtain ⟨type, htype, parameter, hparameter, rfl⟩ :=
        exists_parameter_of_hasSmall hname (hasSmall_enumerationName henumeration)
      exact (h type htype parameter hparameter).1 henumeration
    · intro hfunction
      obtain ⟨type, htype, parameter, hparameter, rfl⟩ :=
        exists_parameter_of_hasSmall hname (hasSmall_lookupName hfunction)
      exact (h type htype parameter hparameter).2 hfunction

private theorem nodup_append_append_iff {xs ys zs : List String} (hxs : xs.Nodup)
    (hys : ys.Nodup) (hzs : zs.Nodup) :
    (xs ++ ys ++ zs).Nodup ↔
      (∀ y ∈ ys, y ∉ xs ∧ y ∉ zs) ∧ ∀ x ∈ xs, x ∉ zs := by
  simp only [List.nodup_append', hxs, hys, hzs, true_and, List.disjoint_append_left]
  constructor
  · intro h
    obtain ⟨hxy, hxz, hyz⟩ := h
    exact ⟨fun y hy => ⟨fun hx => hxy hx hy, hyz hy⟩, fun x hx => hxz hx⟩
  · intro h
    obtain ⟨hy, hx⟩ := h
    exact ⟨fun x hxs hys => (hy x hys).1 hxs, fun x hxs => hx x hxs, fun y hys => (hy y hys).2⟩

theorem names_nodup_iff {description : Description} (hwell : description.device.WellFormed)
    (pairs : List (Block × BlockType)) :
    (Program.ofDevice description.device (Tables.build description.device pairs)).names.Nodup ↔
      (Program.ofDevice description.device
          (Tables.build description.device pairs)).ParametersApart description.device ∧
        ∀ type ∈ description.device.blockTypes, type.stem ≠ "GetBlockBypass" := by
  have henumerations := enumerationNames_nodup hwell.stems
  have henumerators :=
    enumerators_names_nodup hwell.enumerators (Tables.build description.device pairs)
  have hfunctions := Tables.build_lookups_names_nodup hwell pairs
  have hmem := fun name => @mem_enumeratorNames description.device
    (Tables.build description.device pairs) name
  rw [← enumerators_apart_iff, ← enumerationNames_disjoint_iff description.device pairs]
  simp only [← hmem]
  exact nodup_append_append_iff henumerations henumerators hfunctions

end Code

namespace Sources

open Code

-- Where files are generated, the names in their header are distinct if and only if the guard is
-- none of the others, no parameter is called as an enumeration or a function, and no stem makes the
-- name of a function.
theorem names_nodup_iff_of_ofDocument {settings : Settings} {document : String} {sources : Sources}
    (h : (ofDocument settings document).outcome = .ok sources) :
    ∃ device program, sources.Shows settings document device program ∧
      ((settings.guard :: program.names).Nodup ↔
        settings.guard ∉ program.names ∧ program.ParametersApart device ∧
          ∀ type ∈ device.blockTypes, type.stem ≠ "GetBlockBypass") := by
  obtain ⟨_, pairs, rfl, -, hwell, -, hshows⟩ := shows_of_ofDocument h
  refine ⟨_, _, hshows, ?_⟩
  rw [List.nodup_cons, names_nodup_iff hwell pairs]

-- A block type with one parameter.
def oneGain : String :=
  r#"<EffectParameters typeID="1" name="Amp">
<EffectParameter id="1" name="GAIN"/></EffectParameters>"#

theorem names_nodup_iff_oneGain :
    ∃ sources program, (ofDocument {} oneGain).outcome = .ok sources ∧
      sources.program? = some program ∧ "GAIN" ∈ program.names ∧
      ("__AXEFX_II_GENERATED_TYPE_IDS__" :: program.names).Nodup := by
  have hok : (ofDocument {} oneGain).outcome.isOk := by decide +kernel
  have hdescription : Description.ofEvents (Markup.read oneGain).items =
      ⟨[], [⟨1, "Amp", none, [(1, "GAIN")]⟩], [], []⟩ := by decide +kernel
  obtain ⟨sources, hsources⟩ := Outcome.exists_of_isOk hok
  obtain ⟨device, program, hshows, hnames⟩ := names_nodup_iff_of_ofDocument hsources
  obtain ⟨rfl, pairs, hpairs, rfl⟩ := hshows.of_description hdescription
  cases hpairs
  refine ⟨sources, _, hsources, hshows.shown, by decide +kernel, hnames.mpr ⟨?_, ?_, ?_⟩⟩
  · decide +kernel
  · unfold Program.ParametersApart
    decide +kernel
  · decide +kernel

-- The same with a parameter that is called as one of the functions.
def oneGetter : String :=
  r#"<EffectParameters typeID="1" name="Amp">
<EffectParameter id="1" name="GetBlockType"/></EffectParameters>"#

theorem not_names_nodup_oneGetter :
    ∃ sources, (ofDocument {} oneGetter).outcome = .ok sources ∧
      ∃ device program, sources.Shows {} oneGetter device program ∧
        ¬ (({} : Settings).guard :: program.names).Nodup := by
  have hok : (ofDocument {} oneGetter).outcome.isOk := by decide +kernel
  have hdescription : Description.ofEvents (Markup.read oneGetter).items =
      ⟨[], [⟨1, "Amp", none, [(1, "GetBlockType")]⟩], [], []⟩ := by decide +kernel
  obtain ⟨sources, hsources⟩ := Outcome.exists_of_isOk hok
  obtain ⟨_, pairs, rfl, -, -, -, hshows⟩ := shows_of_ofDocument hsources
  refine ⟨sources, hsources, _, _, hshows, fun hnodup => ?_⟩
  rw [hdescription] at hnodup
  have hapart := (List.nodup_append.mp (List.nodup_cons.mp hnodup).2).2.2
  refine hapart "GetBlockType" (List.mem_append_right _ ?_) "GetBlockType" ?_ rfl
  · rw [mem_enumeratorNames]
    decide
  · rw [Program.ofDevice, Tables.build_lookups_names]
    exact List.mem_append_left _ (by decide)

end Sources

end EffectTables
