import EffectTables.Proofs.Code.Collisions

namespace EffectTables

namespace Code

def Switch.labels (switch : Switch) : List Label := switch.cases.map (·.label)

namespace Enumeration

-- The enumerators that are the same in every header.
def reserved : List String := [Symbol.noBlockType, Symbol.noBlock, Symbol.shunt]

def labels (enumeration : Enumeration) : List Label :=
  enumeration.enumerators.map fun enumerator => .symbol enumerator.name

-- The labels for all enumerators that are not reserved.
def ownLabels (enumeration : Enumeration) : List Label :=
  (enumeration.enumerators.filter (·.name ∉ reserved)).map fun enumerator => .symbol enumerator.name

end Enumeration

-- Enumerations and functions of the generated code fit together. What a function of block types or
-- of parameters refers to is there, once and under the name that it is referred to by.
structure Program.Coherent (program : Program) (device : Device) : Prop where
  enumerations : program.enumerations.map (·.name) =
    Enumeration.commonNames ++ device.blockTypes.map BlockType.parameterEnum
  enumerationsOnce : (program.enumerations.map (·.name)).Nodup
  functions : program.lookups.map (·.function.name) =
    Tables.commonNames ++ device.blockTypes.map BlockType.parameterFunction
  functionsOnce : (program.lookups.map (·.function.name)).Nodup
  labelsOnce : ∀ enumeration ∈ program.enumerations, enumeration.labels.Nodup
  blocks : ∀ enumeration ∈ program.enumerations, enumeration.name = "AxeFxIIBlockID" →
    ∀ lookup ∈ program.lookups, lookup.function.name ∈ ["GetBlockType", "GetBlockName"] →
      lookup.switch.labels = enumeration.ownLabels
  types : ∀ enumeration ∈ program.enumerations, enumeration.name = "AxeFxBlockType" →
    ∀ lookup ∈ program.lookups, lookup.function.name = "GetBlockTypeName" →
      lookup.switch.labels = enumeration.ownLabels
  someTypes : ∀ enumeration ∈ program.enumerations, enumeration.name = "AxeFxBlockType" →
    ∀ lookup ∈ program.lookups,
      lookup.function.name ∈ ["GetBlockBypassParamID", "GetParamName"] →
        lookup.switch.labels.Sublist enumeration.ownLabels
  results : ∀ enumeration ∈ program.enumerations, enumeration.name = "AxeFxBlockType" →
    ∀ lookup ∈ program.lookups, lookup.function.name = "GetBlockType" →
      ∀ value ∈ lookup.switch.fallback :: lookup.switch.cases.map (·.value),
        ∃ enumerator ∈ enumeration.enumerators, value = .symbol enumerator.name
  bypasses : ∀ lookup ∈ program.lookups, lookup.function.name = "GetBlockBypassParamID" →
    ∀ case ∈ lookup.switch.cases, ∃ type ∈ device.blockTypes, case.label = .symbol type.symbol ∧
      ∃ enumeration ∈ program.enumerations, enumeration.name = type.parameterEnum ∧
        ∃ enumerator ∈ enumeration.enumerators, case.value = .number enumerator.value
  passes : ∀ lookup ∈ program.lookups, lookup.function.name = "GetParamName" →
    ∀ case ∈ lookup.switch.cases, ∃ type ∈ device.blockTypes, case.label = .symbol type.symbol ∧
      ∃ enumeration ∈ program.enumerations, enumeration.name = type.parameterEnum ∧
        enumeration.enumerators ≠ [] ∧
        ∃ target ∈ program.lookups, target.function.name = type.parameterFunction ∧
          target.function.parameters = [(enumeration.name, "id")] ∧
          target.switch.labels = enumeration.labels ∧
          case.value = .parameterName target.function.name enumeration.name

section

variable {device : Device} {pairs : List (Block × BlockType)} (hwell : device.WellFormed)
include hwell

-- An enumeration is known by its name.
theorem enumeration_eq_of_name {enumeration other : Enumeration}
    (h : enumeration ∈ Enumeration.ofDevice device) (hother : other ∈ Enumeration.ofDevice device)
    (hname : enumeration.name = other.name) : enumeration = other :=
  List.inj_on_of_nodup_map (enumerationNames_nodup hwell.stems) h hother hname

-- And so is a function.
theorem lookup_eq_of_name {lookup table : Lookup} {name : String}
    (h : lookup ∈ (Tables.build device pairs).lookups) (hname : lookup.function.name = name)
    (htable : (Tables.build device pairs).lookups.find? (·.function.name == name) = some table) :
    lookup = table := by
  have hfound := Lookup.find?_key_self (Tables.build_lookups_names_nodup hwell pairs) h
  rw [hname, htable] at hfound
  exact (Option.some.inj hfound).symm

theorem not_reserved {name : String}
    (hname : name ∈ device.blockTypes.map (·.symbol) ++ device.blocks.map (·.symbol)) :
    name ∉ Enumeration.reserved := by
  have hnames := hwell.enumerators
  rw [Device.enumeratorNames, List.append_assoc _ _ (device.blocks.map (·.symbol))] at hnames
  intro hreserved
  exact (List.nodup_append.mp (List.nodup_append.mp hnames).1).2.2 _ hreserved _ hname rfl

omit hwell in
theorem ownLabels_eq {enumeration : Enumeration} (reserved : List Enumerator) {items : List α}
    {name : α → String} {key : α → Int32}
    (henumerators : enumeration.enumerators =
      reserved ++ items.map fun item => ⟨name item, key item⟩)
    (hreserved : ∀ enumerator ∈ reserved, enumerator.name ∈ Enumeration.reserved)
    (hitems : ∀ item ∈ items, name item ∉ Enumeration.reserved) :
    enumeration.ownLabels = items.map fun item => .symbol (name item) := by
  have hnone : reserved.filter (·.name ∉ Enumeration.reserved) = [] :=
    List.filter_eq_nil_iff.mpr fun enumerator he hnot =>
      of_decide_eq_true hnot (hreserved enumerator he)
  have hall : (items.map fun item => (⟨name item, key item⟩ : Enumerator)).filter
      (·.name ∉ Enumeration.reserved) = items.map fun item => ⟨name item, key item⟩ := by
    refine List.filter_eq_self.mpr (List.forall_mem_map.mpr fun item hitem => ?_)
    exact decide_eq_true (hitems item hitem)
  rw [Enumeration.ownLabels, henumerators, List.filter_append, hnone, hall, List.nil_append,
    List.map_map]
  rfl

theorem ownLabels_ofBlocks : (Enumeration.ofBlocks device.blocks).ownLabels =
    device.blocks.map fun block => .symbol block.symbol := by
  refine ownLabels_eq [⟨Symbol.noBlock, 0⟩, ⟨Symbol.shunt, 200⟩] rfl (by decide) ?_
  intro block hblock
  exact not_reserved hwell (List.mem_append_right _ (List.mem_map_of_mem hblock))

theorem ownLabels_ofBlockTypes : (Enumeration.ofBlockTypes device.blockTypes).ownLabels =
    device.blockTypes.map fun type => .symbol type.symbol := by
  refine ownLabels_eq [⟨Symbol.noBlockType, -1⟩] rfl (by decide) ?_
  intro type htype
  exact not_reserved hwell (List.mem_append_left _ (List.mem_map_of_mem htype))

theorem labels_nodup {enumeration : Enumeration} (h : enumeration ∈ Enumeration.ofDevice device) :
    enumeration.labels.Nodup := by
  have hnames := enumeration_names_nodup hwell.enumerators h
  have hlabels := hnames.map (f := Label.symbol) fun _ _ => Label.symbol.inj
  rwa [List.map_map] at hlabels

theorem labels_blockTypeTable (hindexed : device.Indexed)
    (hpairs : device.blocks.mapM (Tables.typed device) = .ok pairs) :
    (Tables.blockTypeTable pairs).switch.labels =
      (Enumeration.ofBlocks device.blocks).ownLabels := by
  rw [ownLabels_ofBlocks hwell, Switch.labels, Tables.blockTypeTable_cases hpairs, labels_eq]
  intro block hblock
  rw [Option.isSome_map, hindexed.typeOf?_isSome_iff]
  exact hwell.typed block hblock

theorem labels_blockNameTable :
    (Tables.blockNameTable device.blocks).switch.labels =
      (Enumeration.ofBlocks device.blocks).ownLabels := by
  rw [ownLabels_ofBlocks hwell, Switch.labels, Tables.blockNameTable_cases, labels_eq]
  exact fun _ _ => rfl

theorem labels_blockTypeNameTable :
    (Tables.blockTypeNameTable device.blockTypes).switch.labels =
      (Enumeration.ofBlockTypes device.blockTypes).ownLabels := by
  rw [ownLabels_ofBlockTypes hwell, Switch.labels, Tables.blockTypeNameTable_cases, labels_eq]
  exact fun _ _ => rfl

-- Two functions leave out the block types that they have nothing to tell of.
theorem labels_sublist_ofBlockTypes {switch : Switch} {value? : BlockType → Option Value}
    (hcases : switch.cases =
      casesOf device.blockTypes (fun type => .symbol type.symbol) value?) :
    switch.labels.Sublist (Enumeration.ofBlockTypes device.blockTypes).ownLabels := by
  rw [ownLabels_ofBlockTypes hwell, Switch.labels, hcases]
  exact labels_sublist _ _ _

omit hwell in
theorem exists_enumerator_of_result
    (hpairs : device.blocks.mapM (Tables.typed device) = .ok pairs) :
    ∀ value ∈ (Tables.blockTypeTable pairs).switch.fallback ::
        (Tables.blockTypeTable pairs).switch.cases.map (·.value),
      ∃ enumerator ∈ (Enumeration.ofBlockTypes device.blockTypes).enumerators,
        value = .symbol enumerator.name := by
  rw [Tables.blockTypeTable_cases hpairs, List.forall_mem_cons, List.forall_mem_map]
  refine ⟨⟨_, List.mem_cons_self, rfl⟩, fun case hcase => ?_⟩
  obtain ⟨block, -, -, hvalue⟩ := mem_casesOf.mp hcase
  obtain ⟨type, htype, hvalue⟩ := Option.map_eq_some_iff.mp hvalue
  have hmem := Tables.mem_blockTypes_of_typeOf? htype
  exact ⟨_, List.mem_cons_of_mem _ (List.mem_map_of_mem hmem), hvalue.symm⟩

omit hwell in
theorem exists_enumerator_of_bypassId {type : BlockType} {id : Int32}
    (h : type.bypassId? = some id) :
    ∃ enumerator ∈ (Enumeration.ofParameters type).enumerators, enumerator.value = id := by
  obtain ⟨parameter, hparameter, rfl⟩ := Option.map_eq_some_iff.mp h
  exact ⟨_, List.mem_map_of_mem (List.mem_of_find?_eq_some hparameter), rfl⟩

omit hwell in
theorem labels_typeParameterNameTable (type : BlockType) :
    (Tables.typeParameterNameTable type).switch.labels =
      (Enumeration.ofParameters type).labels := by
  rw [Switch.labels, Tables.typeParameterNameTable_cases, labels_eq]
  · rw [Enumeration.labels, Enumeration.ofParameters, List.map_map]
    rfl
  · exact fun _ _ => rfl

omit hwell in
theorem ofParameters_mem {type : BlockType} (h : type ∈ device.blockTypes) :
    Enumeration.ofParameters type ∈ Enumeration.ofDevice device :=
  List.mem_cons_of_mem _ (List.mem_cons_of_mem _ (List.mem_map_of_mem h))

omit hwell in
theorem exists_parameter_of_bypass (device : Device) :
    ∀ case ∈ (Tables.bypassIdTable device.blockTypes).switch.cases,
      ∃ type ∈ device.blockTypes, case.label = .symbol type.symbol ∧
        ∃ enumeration ∈ Enumeration.ofDevice device, enumeration.name = type.parameterEnum ∧
          ∃ enumerator ∈ enumeration.enumerators, case.value = .number enumerator.value := by
  intro case hcase
  rw [Tables.bypassIdTable_cases] at hcase
  obtain ⟨type, htype, hlabel, hvalue⟩ := mem_casesOf.mp hcase
  obtain ⟨id, hid, hvalue⟩ := Option.map_eq_some_iff.mp hvalue
  obtain ⟨enumerator, henumerator, rfl⟩ := exists_enumerator_of_bypassId hid
  exact ⟨type, htype, hlabel.symm, _, ofParameters_mem htype, rfl, enumerator, henumerator,
    hvalue.symm⟩

omit hwell in
theorem exists_target_of_pass (device : Device) (pairs : List (Block × BlockType)) :
    ∀ case ∈ (Tables.parameterNameTable device.blockTypes).switch.cases,
      ∃ type ∈ device.blockTypes, case.label = .symbol type.symbol ∧
        ∃ enumeration ∈ Enumeration.ofDevice device, enumeration.name = type.parameterEnum ∧
          enumeration.enumerators ≠ [] ∧
          ∃ target ∈ (Tables.build device pairs).lookups,
            target.function.name = type.parameterFunction ∧
            target.function.parameters = [(enumeration.name, "id")] ∧
            target.switch.labels = enumeration.labels ∧
            case.value = .parameterName target.function.name enumeration.name := by
  intro case hcase
  rw [Tables.parameterNameTable_cases] at hcase
  obtain ⟨type, htype, hlabel, hvalue⟩ := mem_casesOf.mp hcase
  have htarget : Tables.typeParameterNameTable type ∈ (Tables.build device pairs).lookups :=
    List.mem_append_right _ (List.mem_map_of_mem htype)
  split at hvalue
  next hsome =>
    have hne : (Enumeration.ofParameters type).enumerators ≠ [] := by
      simpa [Enumeration.ofParameters] using hsome
    exact ⟨type, htype, hlabel.symm, _, ofParameters_mem htype, rfl, hne, _, htarget, rfl, rfl,
      labels_typeParameterNameTable type, (Option.some.inj hvalue).symm⟩
  next => cases hvalue

theorem coherent_build (hindexed : device.Indexed)
    (hpairs : device.blocks.mapM (Tables.typed device) = .ok pairs) :
    (Program.ofDevice device (Tables.build device pairs)).Coherent device where
  enumerations := enumerationNames_eq device
  enumerationsOnce := enumerationNames_nodup hwell.stems
  functions := Tables.build_lookups_names device pairs
  functionsOnce := Tables.build_lookups_names_nodup hwell pairs
  labelsOnce _ := labels_nodup hwell
  blocks enumeration henumeration hname lookup hlookup hfunction := by
    obtain rfl := enumeration_eq_of_name hwell henumeration
      (List.mem_cons_of_mem _ List.mem_cons_self) hname
    rcases List.mem_pair.mp hfunction with hfunction | hfunction
    · obtain rfl := lookup_eq_of_name hwell hlookup hfunction rfl
      exact labels_blockTypeTable hwell hindexed hpairs
    · obtain rfl := lookup_eq_of_name hwell hlookup hfunction rfl
      exact labels_blockNameTable hwell
  types enumeration henumeration hname lookup hlookup hfunction := by
    obtain rfl := enumeration_eq_of_name hwell henumeration List.mem_cons_self hname
    obtain rfl := lookup_eq_of_name hwell hlookup hfunction rfl
    exact labels_blockTypeNameTable hwell
  someTypes enumeration henumeration hname lookup hlookup hfunction := by
    obtain rfl := enumeration_eq_of_name hwell henumeration List.mem_cons_self hname
    rcases List.mem_pair.mp hfunction with hfunction | hfunction
    · obtain rfl := lookup_eq_of_name hwell hlookup hfunction rfl
      exact labels_sublist_ofBlockTypes hwell (Tables.bypassIdTable_cases _)
    · obtain rfl := lookup_eq_of_name hwell hlookup hfunction rfl
      exact labels_sublist_ofBlockTypes hwell (Tables.parameterNameTable_cases _)
  results enumeration henumeration hname lookup hlookup hfunction := by
    obtain rfl := enumeration_eq_of_name hwell henumeration List.mem_cons_self hname
    obtain rfl := lookup_eq_of_name hwell hlookup hfunction rfl
    exact exists_enumerator_of_result hpairs
  bypasses lookup hlookup hfunction := by
    obtain rfl := lookup_eq_of_name hwell hlookup hfunction rfl
    exact exists_parameter_of_bypass device
  passes lookup hlookup hfunction := by
    obtain rfl := lookup_eq_of_name hwell hlookup hfunction rfl
    exact exists_target_of_pass device pairs

end

end Code

namespace Sources

open Code

-- Wherever files are generated, the header declares the functions that the source file defines, in
-- the same order and with the same signatures, and all that the program in the files refers to is
-- there.
theorem coherent_of_ofDocument {settings : Settings} {document : String} {sources : Sources}
    (h : (ofDocument settings document).outcome = .ok sources) :
    ∃ device program, sources.Shows settings document device program ∧
      sources.declared? = some (program.lookups.map (·.function)) ∧ program.Coherent device := by
  obtain ⟨description, pairs, rfl, -, hwell, hpairs, hshows⟩ := shows_of_ofDocument h
  exact ⟨_, _, hshows, hshows.declared, coherent_build hwell (Description.device_indexed _) hpairs⟩

-- A block of a type with a bypass parameter.
def oneBypass : String :=
  r#"<EffectPoolInstance id="1" typeID="5" name="A"/><EffectParameters typeID="5" name="B" bypassParam="3">
<EffectParameter id="3" name="C"/></EffectParameters>"#

theorem coherent_of_ofDocument_oneBypass :
    ∃ sources program, (ofDocument {} oneBypass).outcome = .ok sources ∧
      sources.program? = some program ∧
      program.enumerations.map (·.name) = ["AxeFxBlockType", "AxeFxIIBlockID", "BParamID"] ∧
      (sources.declared?.map fun functions => functions.map (·.name)) =
        some (Tables.commonNames ++ ["GetBParamName"]) ∧
      ∀ lookup ∈ program.lookups, lookup.function.name = "GetParamName" →
        ∀ case ∈ lookup.switch.cases,
          case = ⟨.symbol "BLOCK_TYPE_B", .parameterName "GetBParamName" "BParamID"⟩ := by
  have hok : (ofDocument {} oneBypass).outcome.isOk := by decide +kernel
  have hdescription : Description.ofEvents (Markup.read oneBypass).items =
      ⟨[⟨1, "A", 5⟩], [⟨5, "B", some 3, [(3, "C")]⟩], [], []⟩ := by decide +kernel
  obtain ⟨sources, hsources⟩ := Outcome.exists_of_isOk hok
  obtain ⟨device, program, hshows, hdeclared, hcoherent⟩ := coherent_of_ofDocument hsources
  have hdevice := (hshows.of_description hdescription).1
  have htypes : device.blockTypes = [Group.blockType ⟨5, "B", some 3, [(3, "C")]⟩] :=
    congrArg (·.blockTypes) hdevice
  have hnames : Symbol.blockType "B" = "BLOCK_TYPE_B" ∧
      BlockType.parameterEnum (Group.blockType ⟨5, "B", some 3, [(3, "C")]⟩) = "BParamID" ∧
      BlockType.parameterFunction (Group.blockType ⟨5, "B", some 3, [(3, "C")]⟩) =
        "GetBParamName" := by decide +kernel
  have hfunctions := hcoherent.functions
  have henumerations := hcoherent.enumerations
  rw [htypes, List.map_singleton, hnames.2.2] at hfunctions
  rw [htypes, List.map_singleton, hnames.2.1] at henumerations
  refine ⟨sources, program, hsources, hshows.shown, henumerations, ?_, ?_⟩
  · rw [hdeclared, Option.map_some, List.map_map]
    exact congrArg some hfunctions
  · intro lookup hlookup hname case hcase
    obtain ⟨type, htype, hlabel, enumeration, -, henum, -, target, -, htarget, -, -, hvalue⟩ :=
      hcoherent.passes lookup hlookup hname case hcase
    rw [htypes, List.mem_singleton] at htype
    rw [henum, htarget, htype, hnames.2.1, hnames.2.2] at hvalue
    rw [htype] at hlabel
    cases case
    cases hlabel
    cases hvalue
    exact congrArg (Case.mk · _) (congrArg Label.symbol hnames.1)

end Sources

end EffectTables
