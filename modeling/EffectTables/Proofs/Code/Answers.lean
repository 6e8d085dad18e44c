import EffectTables.Proofs.Code.Contents

namespace EffectTables

namespace Code

namespace Program

variable {program : Program}

-- A call that stays in one function.
theorem yields_chosen (hnames : (program.lookups.map (·.function.name)).Nodup) {lookup : Lookup}
    (hlookup : lookup ∈ program.lookups) {arguments : List Int32} {n : Int32} {answer : Answer}
    (harity : arguments.length = lookup.function.parameters.length)
    (hsubject : lookup.function.argument? arguments lookup.switch.subject = some n)
    (hchooses : ∀ value, program.Chooses lookup.switch n value ↔ value = answer.value) :
    program.Yields lookup.function.name arguments answer := by
  intro other
  simp only [returns_iff hnames hlookup, harity, hsubject, hchooses, Option.some.injEq, true_and,
    exists_eq_left']
  constructor
  · rintro (hvalue | ⟨function, enumeration, p, hvalue, -⟩)
    · exact Answer.value_injective hvalue
    · cases answer <;> cases hvalue
  · rintro rfl
    exact .inl rfl

-- A call that is passed on to the function of one block type.
theorem yields_passed (hnames : (program.lookups.map (·.function.name)).Nodup) {lookup : Lookup}
    (hlookup : lookup ∈ program.lookups) {arguments : List Int32} {n p : Int32}
    {function enumeration : String} {answer : Answer}
    (harity : arguments.length = lookup.function.parameters.length)
    (hsubject : lookup.function.argument? arguments lookup.switch.subject = some n)
    (hchooses : ∀ value, program.Chooses lookup.switch n value ↔
      value = .parameterName function enumeration)
    (hparameter : lookup.function.argument? arguments "param_id" = some p)
    (hyields : program.Yields function [p] answer) :
    program.Yields lookup.function.name arguments answer := by
  intro other
  rw [← hyields other]
  simp only [returns_iff hnames hlookup, harity, hsubject, hchooses, hparameter,
    Option.some.injEq, true_and, exists_eq_left']
  constructor
  · rintro (hvalue | ⟨function, enumeration, _, hvalue, rfl, hreturns⟩)
    · cases other <;> cases hvalue
    · cases hvalue
      exact hreturns
  · intro hreturns
    exact .inr ⟨_, _, _, rfl, rfl, hreturns⟩

end Program

section

variable {device : Device} {tables : Tables}

theorem number?_enumerator (hwell : device.WellFormed) {enumeration : Enumeration} {name : String}
    {value : Int32} (henumeration : enumeration ∈ Enumeration.ofDevice device)
    (hmem : ⟨name, value⟩ ∈ enumeration.enumerators) :
    (Program.ofDevice device tables).number? (.symbol name) = some value :=
  number?_declared hwell.enumerators tables henumeration hmem

theorem number?_noBlockType (hwell : device.WellFormed) :
    (Program.ofDevice device tables).number? (.symbol Symbol.noBlockType) = some (-1) :=
  number?_enumerator hwell List.mem_cons_self List.mem_cons_self

theorem number?_blockType (hwell : device.WellFormed) {type : BlockType}
    (htype : type ∈ device.blockTypes) :
    (Program.ofDevice device tables).number? (.symbol type.symbol) = some type.typeId := by
  apply number?_enumerator hwell List.mem_cons_self
  exact List.mem_cons_of_mem _ (List.mem_map_of_mem htype)

theorem number?_block (hwell : device.WellFormed) {block : Block}
    (hblock : block ∈ device.blocks) :
    (Program.ofDevice device tables).number? (.symbol block.symbol) = some block.id := by
  apply number?_enumerator hwell (List.mem_cons_of_mem _ List.mem_cons_self)
  exact List.mem_cons_of_mem _ (List.mem_cons_of_mem _ (List.mem_map_of_mem hblock))

theorem number?_parameter (hwell : device.WellFormed) {type : BlockType} {parameter : Parameter}
    (htype : type ∈ device.blockTypes) (hparameter : parameter ∈ type.parameters) :
    (Program.ofDevice device tables).number? (.symbol parameter.name) = some parameter.id := by
  have henumeration : Enumeration.ofParameters type ∈ Enumeration.ofDevice device :=
    List.mem_cons_of_mem _ (List.mem_cons_of_mem _ (List.mem_map_of_mem htype))
  exact number?_enumerator hwell henumeration (List.mem_map_of_mem hparameter)

end

section

variable {device : Device} (tables : Tables) (hwell : device.WellFormed)
include hwell

theorem keyed_blockType {pairs : List (Block × BlockType)}
    (hpairs : device.blocks.mapM (Tables.typed device) = .ok pairs) :
    Keyed (Program.ofDevice device tables) (Tables.blockTypeTable pairs).switch device.blocks
      (fun block => .symbol block.symbol)
      (fun block => (device.typeOf? block).map fun type => .symbol type.symbol) (·.id) where
  cases := Tables.blockTypeTable_cases hpairs
  number _ hblock := number?_block hwell hblock
  keys := hwell.blockIds

theorem keyed_blockTypeName :
    Keyed (Program.ofDevice device tables) (Tables.blockTypeNameTable device.blockTypes).switch
      device.blockTypes (fun type => .symbol type.symbol) (fun type => some (.text type.name))
      (·.typeId) where
  cases := Tables.blockTypeNameTable_cases device.blockTypes
  number _ htype := number?_blockType hwell htype
  keys := hwell.typeIds

theorem keyed_blockName :
    Keyed (Program.ofDevice device tables) (Tables.blockNameTable device.blocks).switch
      device.blocks (fun block => .symbol block.symbol) (fun block => some (.text block.name))
      (·.id) where
  cases := Tables.blockNameTable_cases device.blocks
  number _ hblock := number?_block hwell hblock
  keys := hwell.blockIds

theorem keyed_bypassId :
    Keyed (Program.ofDevice device tables) (Tables.bypassIdTable device.blockTypes).switch
      device.blockTypes (fun type => .symbol type.symbol)
      (fun type => type.bypassId?.map .number) (·.typeId) where
  cases := Tables.bypassIdTable_cases device.blockTypes
  number _ htype := number?_blockType hwell htype
  keys := hwell.typeIds

theorem keyed_parameterName :
    Keyed (Program.ofDevice device tables) (Tables.parameterNameTable device.blockTypes).switch
      device.blockTypes (fun type => .symbol type.symbol)
      (fun type =>
        if !type.parameters.isEmpty then
          some (.parameterName type.parameterFunction type.parameterEnum)
        else none)
      (·.typeId) where
  cases := Tables.parameterNameTable_cases device.blockTypes
  number _ htype := number?_blockType hwell htype
  keys := hwell.typeIds

theorem keyed_typeParameterName {type : BlockType} (htype : type ∈ device.blockTypes) :
    Keyed (Program.ofDevice device tables) (Tables.typeParameterNameTable type).switch
      type.parameters (fun parameter => .symbol parameter.name)
      (fun parameter => some (.text parameter.displayName)) (·.id) where
  cases := Tables.typeParameterNameTable_cases type
  number _ hparameter := number?_parameter hwell htype hparameter
  keys := hwell.parameterIds type htype

end

theorem keyed_catalog (program : Program) (name : String) {catalog : Catalog}
    (hascending : catalog.Ascending) :
    Keyed program (Tables.catalogTable name catalog).switch catalog.entries
      (fun entry => .index entry.1) (fun entry => some (.text entry.2)) (·.1) where
  cases := Tables.catalogTable_cases name catalog
  number _ _ := rfl
  keys := hascending.indices_nodup

-- What calls of the generated functions come back with, in terms of what is described.
structure Program.Answers (program : Program) (description : Description) : Prop where
  declared : ∀ lookup ∈ program.lookups, ∀ case ∈ lookup.switch.cases,
    (program.number? case.label).isSome
  unambiguous : ∀ lookup ∈ program.lookups, program.Unambiguous lookup.switch
  slotIds : (description.slots.map (·.id)).Nodup
  typeIds : (description.groups.map (·.typeId)).Nodup
  parameterIds : ∀ group ∈ description.groups, (group.parameters.map (·.1)).Nodup
  typed : ∀ slot ∈ description.slots, (description.groupWith? slot.typeId).isSome
  noBlockType : program.number? (.symbol Symbol.noBlockType) = some (-1)
  blockTypes : ∀ group ∈ description.groups,
    program.number? (.symbol (Symbol.blockType group.name)) = some group.typeId
  blockType : ∀ n, program.Yields "GetBlockType" [n]
    (.symbol ((((description.slotWith? n).bind fun slot => description.groupWith? slot.typeId).map
      fun group => Symbol.blockType group.name).getD Symbol.noBlockType))
  blockTypeName : ∀ n, program.Yields "GetBlockTypeName" [n]
    (.text (((description.groupWith? n).map (·.name)).getD ""))
  blockName : ∀ n, program.Yields "GetBlockName" [n]
    (.text (((description.slotWith? n).map (·.name)).getD ""))
  bypassId : ∀ n, program.Yields "GetBlockBypassParamID" [n]
    (.number (((description.groupWith? n).bind (·.bypassId?)).getD (-1)))
  parameterName : ∀ n p, program.Yields "GetParamName" [n, p]
    (.text ((((description.groupWith? n).bind (·.parameterName? p)).map Text.lowercase).getD ""))
  ampName : ∀ n, program.Yields "GetAmpName" [n]
    (.text ((Catalog.lastName? description.amps n).getD ""))
  cabName : ∀ n, program.Yields "GetCabName" [n]
    (.text ((Catalog.lastName? description.cabs n).getD ""))

-- The call of a function with one parameter that chooses its answer among some items.
theorem yields_keyed {α : Type} {device : Device} {tables : Tables}
    (hnames : (tables.lookups.map (·.function.name)).Nodup) {lookup : Lookup}
    (hlookup : lookup ∈ tables.lookups) {items : List α} {label : α → Label}
    {value? : α → Option Value} {key : α → Int32}
    (hkeyed : Keyed (Program.ofDevice device tables) lookup.switch items label value? key)
    (hsubject : lookup.function.parameters.map (·.2) = [lookup.switch.subject]) {n : Int32}
    {answer : Answer}
    (hanswer : ((items.find? (key · == n)).bind value?).getD lookup.switch.fallback =
      answer.value) :
    (Program.ofDevice device tables).Yields lookup.function.name [n] answer := by
  refine Program.yields_chosen hnames hlookup (n := n) ?_ ?_ fun value => ?_
  · have hlength := congrArg List.length hsubject
    rw [List.length_map] at hlength
    exact hlength.symm
  · rw [Function.argument?, hsubject]
    simp
  · rw [hkeyed.chooses_iff, hanswer]

section

variable {description : Description} (hwell : description.device.WellFormed)
  (pairs : List (Block × BlockType))
include hwell

theorem yields_blockType
    (hpairs : description.device.blocks.mapM (Tables.typed description.device) = .ok pairs)
    (n : Int32) :
    (Program.ofDevice description.device (Tables.build description.device pairs)).Yields
      "GetBlockType" [n]
      (.symbol ((((description.slotWith? n).bind fun slot =>
        description.groupWith? slot.typeId).map
          fun group => Symbol.blockType group.name).getD Symbol.noBlockType)) := by
  have hnames := Tables.build_lookups_names_nodup hwell pairs
  have hlookup : Tables.blockTypeTable pairs ∈ (Tables.build description.device pairs).lookups := by
    simp [Tables.mem_build_lookups_iff]
  apply yields_keyed hnames hlookup (keyed_blockType _ hwell hpairs) rfl
  rw [description.find?_blocks]
  cases description.slotWith? n with
  | none => rfl
  | some slot =>
      have htype : description.device.typeOf? slot.block =
          (description.groupWith? slot.typeId).map Group.blockType :=
        Description.blockType?_eq hwell slot.typeId
      simp only [Option.map_some, Option.bind_some, htype]
      cases description.groupWith? slot.typeId <;> rfl

theorem yields_blockTypeName (n : Int32) :
    (Program.ofDevice description.device (Tables.build description.device pairs)).Yields
      "GetBlockTypeName" [n] (.text (((description.groupWith? n).map (·.name)).getD "")) := by
  have hnames := Tables.build_lookups_names_nodup hwell pairs
  have hlookup : Tables.blockTypeNameTable description.device.blockTypes ∈
      (Tables.build description.device pairs).lookups := by
    simp [Tables.mem_build_lookups_iff]
  apply yields_keyed hnames hlookup (keyed_blockTypeName _ hwell) rfl
  rw [description.find?_blockTypes]
  cases description.groupWith? n <;> rfl

theorem yields_blockName (n : Int32) :
    (Program.ofDevice description.device (Tables.build description.device pairs)).Yields
      "GetBlockName" [n] (.text (((description.slotWith? n).map (·.name)).getD "")) := by
  have hnames := Tables.build_lookups_names_nodup hwell pairs
  have hlookup : Tables.blockNameTable description.device.blocks ∈
      (Tables.build description.device pairs).lookups := by
    simp [Tables.mem_build_lookups_iff]
  apply yields_keyed hnames hlookup (keyed_blockName _ hwell) rfl
  rw [description.find?_blocks]
  cases description.slotWith? n <;> rfl

theorem yields_bypassId (n : Int32) :
    (Program.ofDevice description.device (Tables.build description.device pairs)).Yields
      "GetBlockBypassParamID" [n]
      (.number (((description.groupWith? n).bind (·.bypassId?)).getD (-1))) := by
  have hnames := Tables.build_lookups_names_nodup hwell pairs
  have hlookup : Tables.bypassIdTable description.device.blockTypes ∈
      (Tables.build description.device pairs).lookups := by
    simp [Tables.mem_build_lookups_iff]
  apply yields_keyed hnames hlookup (keyed_bypassId _ hwell) rfl
  rw [description.find?_blockTypes]
  cases description.groupWith? n with
  | none => rfl
  | some group =>
      simp only [Option.map_some, Option.bind_some, group.blockType_bypassId?]
      cases group.bypassId? <;> rfl

theorem yields_typeParameterName {group : Group} (hgroup : group ∈ description.groups)
    (p : Int32) :
    (Program.ofDevice description.device (Tables.build description.device pairs)).Yields
      group.blockType.parameterFunction [p]
      (.text (((group.parameterName? p).map Text.lowercase).getD "")) := by
  have hnames := Tables.build_lookups_names_nodup hwell pairs
  have htype := description.blockType_mem hgroup
  have hlookup : Tables.typeParameterNameTable group.blockType ∈
      (Tables.build description.device pairs).lookups :=
    List.mem_append_right _ (List.mem_map_of_mem htype)
  apply yields_keyed hnames hlookup (keyed_typeParameterName _ hwell htype) rfl
  rw [← group.find?_blockType]
  cases group.blockType.parameters.find? (·.id == p) <;> rfl

-- A type without parameters answers as if there was no such type.
theorem yields_parameterName (n p : Int32) :
    (Program.ofDevice description.device (Tables.build description.device pairs)).Yields
      "GetParamName" [n, p]
      (.text ((((description.groupWith? n).bind (·.parameterName? p)).map
        Text.lowercase).getD "")) := by
  have hnames := Tables.build_lookups_names_nodup hwell pairs
  have hkeyed := keyed_parameterName (Tables.build description.device pairs) hwell
  have hlookup : Tables.parameterNameTable description.device.blockTypes ∈
      (Tables.build description.device pairs).lookups := by
    simp [Tables.mem_build_lookups_iff]
  have hsubject : (Tables.parameterNameTable description.device.blockTypes).function.argument?
      [n, p] "type" = some n := rfl
  have hparameter : (Tables.parameterNameTable description.device.blockTypes).function.argument?
      [n, p] "param_id" = some p := rfl
  cases hgroup : description.groupWith? n with
  | none =>
      refine Program.yields_chosen hnames hlookup rfl hsubject fun value => ?_
      rw [hkeyed.chooses_iff, description.find?_blockTypes, hgroup]
      rfl
  | some group =>
      -- without parameters the type has no case, and there is no name to find either
      by_cases hempty : group.parameters = []
      · have hnone : group.blockType.parameters = [] := by
          simp [Group.blockType, hempty, Group.marked]
        refine Program.yields_chosen hnames hlookup rfl hsubject fun value => ?_
        rw [hkeyed.chooses_iff, description.find?_blockTypes, hgroup]
        simp [hnone, Group.parameterName?, hempty, Answer.value, Tables.parameterNameTable]
      · have hsome : group.blockType.parameters ≠ [] := by
          intro hnone
          have hpairs := group.blockType_pairs
          rw [hnone] at hpairs
          exact hempty hpairs.symm
        have hchooses : ∀ value,
            (Program.ofDevice description.device (Tables.build description.device pairs)).Chooses
                (Tables.parameterNameTable description.device.blockTypes).switch n value ↔
              value = .parameterName group.blockType.parameterFunction
                group.blockType.parameterEnum := by
          intro value
          rw [hkeyed.chooses_iff, description.find?_blockTypes, hgroup]
          simp [hsome]
        have hmem : group ∈ description.groups := List.mem_of_find?_eq_some hgroup
        exact Program.yields_passed hnames hlookup rfl hsubject hchooses hparameter
          (yields_typeParameterName hwell pairs hmem p)

theorem yields_catalog {name : String} {catalog : Catalog}
    (hlookup : Tables.catalogTable name catalog ∈
      (Tables.build description.device pairs).lookups)
    (hascending : catalog.Ascending) (n : Int32) :
    (Program.ofDevice description.device (Tables.build description.device pairs)).Yields
      name [n] (.text ((catalog.get? n).getD "")) := by
  have hnames := Tables.build_lookups_names_nodup hwell pairs
  apply yields_keyed hnames hlookup (keyed_catalog _ name hascending) rfl
  rw [catalog.get?_eq_find?]
  cases catalog.entries.find? (·.1 == n) <;> rfl

-- Every function chooses by labels with numbers, and no two of its labels have the same number.
theorem declared_and_unambiguous
    (hpairs : description.device.blocks.mapM (Tables.typed description.device) = .ok pairs)
    {lookup : Lookup} (hlookup : lookup ∈ (Tables.build description.device pairs).lookups) :
    (∀ case ∈ lookup.switch.cases,
      ((Program.ofDevice description.device
        (Tables.build description.device pairs)).number? case.label).isSome) ∧
      (Program.ofDevice description.device
        (Tables.build description.device pairs)).Unambiguous lookup.switch := by
  have hamps := description.device_records.ampsAscending
  have hcabs := description.device_records.cabsAscending
  rcases Tables.mem_build_lookups_iff.mp hlookup with
    rfl | rfl | rfl | rfl | rfl | rfl | rfl | ⟨type, htype, rfl⟩
  · exact (keyed_blockType _ hwell hpairs).declared_and_unambiguous
  · exact (keyed_blockTypeName _ hwell).declared_and_unambiguous
  · exact (keyed_blockName _ hwell).declared_and_unambiguous
  · exact (keyed_bypassId _ hwell).declared_and_unambiguous
  · exact (keyed_parameterName _ hwell).declared_and_unambiguous
  · exact (keyed_catalog _ _ hamps).declared_and_unambiguous
  · exact (keyed_catalog _ _ hcabs).declared_and_unambiguous
  · exact (keyed_typeParameterName _ hwell htype).declared_and_unambiguous

theorem answers_build
    (hpairs : description.device.blocks.mapM (Tables.typed description.device) = .ok pairs) :
    (Program.ofDevice description.device (Tables.build description.device pairs)).Answers
      description where
  declared _ hlookup := (declared_and_unambiguous hwell pairs hpairs hlookup).1
  unambiguous _ hlookup := (declared_and_unambiguous hwell pairs hpairs hlookup).2
  slotIds := description.slotIds_eq ▸ hwell.blockIds
  typeIds := description.typeIds_eq ▸ hwell.typeIds
  parameterIds group hgroup := by
    rw [← group.blockType_ids]
    exact hwell.parameterIds _ (description.blockType_mem hgroup)
  typed slot hslot := by
    have hmem : slot.block ∈ description.device.blocks := by
      rw [description.device_blocks]
      exact List.mem_map_of_mem hslot
    obtain ⟨type, htype, htypeId⟩ := hwell.typed _ hmem
    have hfound : description.device.blockTypes.find? (·.typeId == slot.typeId) = some type :=
      (Lookup.find?_key_eq_some_iff hwell.typeIds).mpr ⟨htype, htypeId⟩
    rw [description.find?_blockTypes] at hfound
    obtain ⟨group, hgroup, -⟩ := Option.map_eq_some_iff.mp hfound
    exact Option.isSome_of_mem hgroup
  noBlockType := number?_noBlockType hwell
  blockTypes _ hgroup := number?_blockType hwell (description.blockType_mem hgroup)
  blockType := yields_blockType hwell pairs hpairs
  blockTypeName := yields_blockTypeName hwell pairs
  blockName := yields_blockName hwell pairs
  bypassId := yields_bypassId hwell pairs
  parameterName := yields_parameterName hwell pairs
  ampName n := by
    rw [← description.device_records.amps]
    refine yields_catalog hwell pairs ?_ description.device_records.ampsAscending n
    simp [Tables.mem_build_lookups_iff]
  cabName n := by
    rw [← description.device_records.cabs]
    refine yields_catalog hwell pairs ?_ description.device_records.cabsAscending n
    simp [Tables.mem_build_lookups_iff]

end

end Code

namespace Sources

open Code

-- Wherever files are generated, the program in them answers what the document says.
theorem answers_of_ofDocument {settings : Settings} {document : String} {sources : Sources}
    (h : (ofDocument settings document).outcome = .ok sources) :
    ∃ device program, sources.Shows settings document device program ∧
      program.Answers (Description.ofEvents (Markup.read document).items) := by
  obtain ⟨_, pairs, rfl, -, hwell, hpairs, hshows⟩ := shows_of_ofDocument h
  exact ⟨_, _, hshows, answers_build hwell pairs hpairs⟩

-- A block of a type with a bypass parameter.
def oneAmp : String :=
  r#"<EffectPoolInstance id="106" typeID="5" name="Amp 1"/>
<EffectParameters typeID="5" name="Amp" bypassParam="3">
<EffectParameter id="3" name="BYPASS"/></EffectParameters>"#

theorem description_oneAmp : Description.ofEvents (Markup.read oneAmp).items =
    ⟨[⟨106, "Amp 1", 5⟩], [⟨5, "Amp", some 3, [(3, "BYPASS")]⟩], [], []⟩ := by
  decide +kernel

theorem answers_of_ofDocument_oneAmp :
    ∃ sources program, (ofDocument {} oneAmp).outcome = .ok sources ∧
      sources.program? = some program ∧
      program.Yields "GetBlockType" [106] (.symbol "BLOCK_TYPE_AMP") ∧
      program.Yields "GetBlockType" [107] (.symbol "BLOCK_TYPE_INVALID") ∧
      program.Yields "GetBlockBypassParamID" [5] (.number 3) ∧
      program.Yields "GetParamName" [5, 3] (.text "bypass") := by
  have hok : (ofDocument {} oneAmp).outcome.isOk := by decide +kernel
  obtain ⟨sources, hsources⟩ := Outcome.exists_of_isOk hok
  obtain ⟨device, program, hshows, hanswers⟩ := answers_of_ofDocument hsources
  rw [description_oneAmp] at hanswers
  have hamp : Symbol.blockType "Amp" = "BLOCK_TYPE_AMP" := by decide
  have hlower : Text.lowercase "BYPASS" = "bypass" := by decide +kernel
  refine ⟨sources, program, hsources, hshows.shown, ?_, hanswers.blockType 107,
    hanswers.bypassId 5, ?_⟩
  · exact hamp ▸ hanswers.blockType 106
  · exact hlower ▸ hanswers.parameterName 5 3

end Sources

end EffectTables
