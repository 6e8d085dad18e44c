import EffectTables.Proofs.Code.Cases
import EffectTables.Proofs.Device.WellFormed
import EffectTables.Proofs.Outcome

namespace EffectTables

namespace BlockType

-- Both names of a block type take its stem into a fixed frame.
theorem parameterEnum_inj {type other : BlockType} :
    type.parameterEnum = other.parameterEnum ↔ type.stem = other.stem :=
  String.append_left_inj _

theorem parameterFunction_inj {type other : BlockType} :
    type.parameterFunction = other.parameterFunction ↔ type.stem = other.stem := by
  rw [parameterFunction, parameterFunction, String.append_left_inj, String.append_right_inj]

theorem parameterEnum_suffix (type : BlockType) :
    "ParamID".toList <:+ type.parameterEnum.toList := by
  rw [parameterEnum, String.toList_append]
  exact List.suffix_append _ _

theorem parameterFunction_suffix (type : BlockType) :
    "ParamName".toList <:+ type.parameterFunction.toList := by
  rw [parameterFunction, String.toList_append]
  exact List.suffix_append _ _

-- Names that differ where stems differ are distinct where stems are.
theorem map_nodup_of_stems {types : List BlockType} {name : BlockType → String}
    (hname : ∀ type other, name type = name other → type.stem = other.stem)
    (hstems : (types.map (·.stem)).Nodup) : (types.map name).Nodup := by
  rw [List.Nodup, List.pairwise_map] at hstems ⊢
  exact hstems.imp fun hne heq => hne (hname _ _ heq)

end BlockType

namespace Symbol

theorem ne_empty_of_isIdentifier {text : String} (h : isIdentifier text) : text ≠ "" := by
  rintro rfl
  exact absurd h (by decide)

end Symbol

namespace Code

-- The names of the functions that every generated file has.
def Tables.commonNames : List String :=
  ["GetBlockType", "GetBlockTypeName", "GetBlockName", "GetBlockBypassParamID", "GetParamName",
    "GetAmpName", "GetCabName"]

-- Only an empty stem would make the function of a block type one of the common ones.
theorem parameterFunction_not_mem_commonNames {type : BlockType} (h : type.stem ≠ "") :
    type.parameterFunction ∉ Tables.commonNames := by
  intro hmem
  have hsuffix : ∀ name ∈ Tables.commonNames, "ParamName".toList <:+ name.toList →
      name = "GetParamName" := by decide
  have hname := hsuffix _ hmem type.parameterFunction_suffix
  have hlength := congrArg String.length hname
  have hget : "Get".length = 3 := by decide
  have hparam : "ParamName".length = 9 := by decide
  have hwhole : "GetParamName".length = 12 := by decide
  rw [BlockType.parameterFunction, String.length_append, String.length_append, hget, hparam,
    hwhole] at hlength
  exact h (String.length_eq_zero_iff.mp (by omega))

namespace Tables

-- The tables of a device, given its blocks with their types.
def build (device : Device) (pairs : List (Block × BlockType)) : Tables where
  blockType := blockTypeTable pairs
  blockTypeName := blockTypeNameTable device.blockTypes
  blockName := blockNameTable device.blocks
  bypassId := bypassIdTable device.blockTypes
  parameterName := parameterNameTable device.blockTypes
  ampName := catalogTable "GetAmpName" device.amps
  cabName := catalogTable "GetCabName" device.cabs
  typeParameterNames := device.blockTypes.map typeParameterNameTable

theorem ofDevice_eq_ok_iff {device : Device} {tables : Tables} :
    ofDevice device = .ok tables ↔
      ∃ pairs, device.blocks.mapM (typed device) = .ok pairs ∧ tables = build device pairs := by
  rw [ofDevice, Outcome.bind_eq_ok_iff]
  refine exists_congr fun pairs => and_congr_right fun _ => ?_
  rw [Outcome.pure_eq_ok_iff, eq_comm]
  rfl

-- Where tables exist, each block stands in them with its type.
theorem typed_eq_filterMap {device : Device} {blocks : List Block}
    {pairs : List (Block × BlockType)} (h : blocks.mapM (typed device) = .ok pairs) :
    pairs = blocks.filterMap fun block => (device.typeOf? block).map fun type => (block, type) := by
  have hpairs := Outcome.mapM_eq_ok_iff.mp h
  clear h
  induction hpairs with
  | nil => rfl
  | cons hfirst hrest ih =>
      unfold typed at hfirst
      split at hfirst
      next => cases hfirst
      next htype =>
        cases hfirst
        simp [htype, ← ih]

-- Tables exist if every block has a type.
theorem exists_typed {device : Device} {blocks : List Block}
    (h : ∀ block ∈ blocks, (device.typeOf? block).isSome) :
    ∃ pairs, blocks.mapM (typed device) = .ok pairs := by
  simp only [Outcome.mapM_eq_ok_iff]
  induction blocks with
  | nil => exact ⟨[], .nil⟩
  | cons block rest ih =>
      obtain ⟨hblock, hrest⟩ := List.forall_mem_cons.mp h
      obtain ⟨type, htype⟩ := Option.isSome_iff_exists.mp hblock
      obtain ⟨pairs, hpairs⟩ := ih hrest
      exact ⟨(block, type) :: pairs, .cons (by rw [typed, htype]) hpairs⟩

-- The type of a block is one of the device's.
theorem mem_blockTypes_of_typeOf? {device : Device} {block : Block} {type : BlockType}
    (h : device.typeOf? block = some type) : type ∈ device.blockTypes := by
  obtain ⟨position, -, hposition⟩ := Option.bind_eq_some_iff.mp h
  exact List.mem_of_getElem? hposition

theorem blockTypeTable_cases {device : Device} {pairs : List (Block × BlockType)}
    (hpairs : device.blocks.mapM (typed device) = .ok pairs) :
    (blockTypeTable pairs).switch.cases =
      casesOf device.blocks (fun block => .symbol block.symbol)
        fun block => (device.typeOf? block).map fun type => .symbol type.symbol := by
  rw [blockTypeTable, typed_eq_filterMap hpairs, List.map_filterMap, casesOf]
  simp only [Option.map_map]
  rfl

theorem blockTypeNameTable_cases (types : List BlockType) :
    (blockTypeNameTable types).switch.cases =
      casesOf types (fun type => .symbol type.symbol) fun type => some (.text type.name) :=
  map_eq_casesOf _ _ _

theorem blockNameTable_cases (blocks : List Block) :
    (blockNameTable blocks).switch.cases =
      casesOf blocks (fun block => .symbol block.symbol) fun block => some (.text block.name) :=
  map_eq_casesOf _ _ _

theorem bypassIdTable_cases (types : List BlockType) :
    (bypassIdTable types).switch.cases =
      casesOf types (fun type => .symbol type.symbol) fun type => type.bypassId?.map .number := by
  simp only [bypassIdTable, casesOf, Option.map_map]
  rfl

theorem parameterNameTable_cases (types : List BlockType) :
    (parameterNameTable types).switch.cases =
      casesOf types (fun type => .symbol type.symbol) fun type =>
        if !type.parameters.isEmpty then
          some (.parameterName type.parameterFunction type.parameterEnum)
        else none :=
  map_filter_eq_casesOf _ _ _ _

theorem catalogTable_cases (name : String) (catalog : Catalog) :
    (catalogTable name catalog).switch.cases =
      casesOf catalog.entries (fun entry => .index entry.1) fun entry => some (.text entry.2) :=
  map_eq_casesOf _ _ _

theorem typeParameterNameTable_cases (type : BlockType) :
    (typeParameterNameTable type).switch.cases =
      casesOf type.parameters (fun parameter => .symbol parameter.name)
        fun parameter => some (.text parameter.displayName) :=
  map_eq_casesOf _ _ _

theorem mem_build_lookups_iff {device : Device} {pairs : List (Block × BlockType)}
    {lookup : Lookup} :
    lookup ∈ (build device pairs).lookups ↔
      lookup = blockTypeTable pairs ∨ lookup = blockTypeNameTable device.blockTypes ∨
        lookup = blockNameTable device.blocks ∨ lookup = bypassIdTable device.blockTypes ∨
        lookup = parameterNameTable device.blockTypes ∨
        lookup = catalogTable "GetAmpName" device.amps ∨
        lookup = catalogTable "GetCabName" device.cabs ∨
        ∃ type ∈ device.blockTypes, typeParameterNameTable type = lookup := by
  simp only [lookups, common, build, List.cons_append, List.nil_append, List.mem_cons,
    List.mem_map]

theorem build_lookups_names (device : Device) (pairs : List (Block × BlockType)) :
    (build device pairs).lookups.map (·.function.name) =
      commonNames ++ device.blockTypes.map BlockType.parameterFunction := by
  simp only [lookups, common, build, List.map_append, List.map_map]
  rfl

-- No two functions for a well-formed device share a name.
theorem build_lookups_names_nodup {device : Device} (hwell : device.WellFormed)
    (pairs : List (Block × BlockType)) :
    ((build device pairs).lookups.map (·.function.name)).Nodup := by
  rw [build_lookups_names, List.nodup_append]
  refine ⟨by decide, ?_, ?_⟩
  · exact BlockType.map_nodup_of_stems (fun _ _ => BlockType.parameterFunction_inj.mp) hwell.stems
  · intro name hname other hother heq
    obtain ⟨type, htype, rfl⟩ := List.mem_map.mp hother
    have hstem := Symbol.ne_empty_of_isIdentifier (hwell.typeNames type htype).2
    exact parameterFunction_not_mem_commonNames hstem (heq ▸ hname)

end Tables

namespace Enumeration

-- The enumerators of all enumerations for a device.
theorem ofDevice_names_perm (device : Device) :
    (((ofDevice device).flatMap (·.enumerators)).map (·.name)).Perm device.enumeratorNames := by
  have hnames : ((ofDevice device).flatMap (·.enumerators)).map (·.name) =
      Symbol.noBlockType :: device.blockTypes.map (·.symbol) ++
        (Symbol.noBlock :: Symbol.shunt :: device.blocks.map (·.symbol)) ++
        device.blockTypes.flatMap fun type => type.parameters.map (·.name) := by
    simp [ofDevice, ofBlockTypes, ofBlocks, ofParameters, List.map_flatMap, List.flatMap_map,
      Function.comp_def]
  rw [hnames, Device.enumeratorNames]
  apply List.Perm.append_right
  apply List.Perm.cons
  exact List.perm_middle.trans (List.perm_middle.cons _)

end Enumeration

theorem enumerators_names_nodup {device : Device} (hnames : device.enumeratorNames.Nodup)
    (tables : Tables) : ((Program.ofDevice device tables).enumerators.map (·.name)).Nodup :=
  (Enumeration.ofDevice_names_perm device).nodup_iff.mpr hnames

theorem enumeration_names_nodup {device : Device} (hnames : device.enumeratorNames.Nodup)
    {enumeration : Enumeration} (h : enumeration ∈ Enumeration.ofDevice device) :
    (enumeration.enumerators.map (·.name)).Nodup := by
  have hall := (Enumeration.ofDevice_names_perm device).nodup_iff.mpr hnames
  rw [List.map_flatMap, List.nodup_flatMap] at hall
  exact hall.1 enumeration h

-- In the code for a device the name of an enumerator stands for its number.
theorem number?_declared {device : Device} (hnames : device.enumeratorNames.Nodup)
    (tables : Tables) {enumeration : Enumeration} {enumerator : Enumerator}
    (henumeration : enumeration ∈ Enumeration.ofDevice device)
    (hmem : enumerator ∈ enumeration.enumerators) :
    (Program.ofDevice device tables).number? (.symbol enumerator.name) = some enumerator.value := by
  have hall : enumerator ∈ (Program.ofDevice device tables).enumerators :=
    List.mem_flatMap.mpr ⟨enumeration, henumeration, hmem⟩
  exact Program.number?_symbol (enumerators_names_nodup hnames tables) hall

end Code

end EffectTables
