import EffectTables.Proofs.Code.Collisions

namespace EffectTables

namespace Code

-- The enumerator that a label or a value names.
def Label.symbol? : Label → Option String
  | symbol name => some name
  | index _ => none

def Value.symbol? : Value → Option String
  | symbol name => some name
  | text _ | number _ | parameterName .. => none

-- The enumerators in the body of a function.
def Switch.symbols (switch : Switch) : List String :=
  switch.cases.flatMap (fun case => case.label.symbol?.toList ++ case.value.symbol?.toList) ++
    switch.fallback.symbol?.toList

-- No enumerator in the body of the function is hidden by one of its parameters.
def Lookup.Hygienic (lookup : Lookup) : Prop :=
  ∀ name ∈ lookup.switch.symbols, name ∉ lookup.function.parameters.map (·.2)

-- The enumerators in a switch over some items are those that the items bring in.
theorem mem_symbols_casesOf {switch : Switch} {items : List α} {label : α → Label}
    {value? : α → Option Value} (hcases : switch.cases = casesOf items label value?)
    {name : String} (h : name ∈ switch.symbols) :
    (∃ item ∈ items, (label item).symbol? = some name ∨
      (value? item).bind Value.symbol? = some name) ∨ switch.fallback.symbol? = some name := by
  rw [Switch.symbols, List.mem_append, List.mem_flatMap, Option.mem_toList] at h
  refine h.imp_left fun hcase => ?_
  obtain ⟨case, hcase, hname⟩ := hcase
  rw [hcases, mem_casesOf] at hcase
  obtain ⟨item, hitem, hlabel, hvalue⟩ := hcase
  rw [List.mem_append, Option.mem_toList, Option.mem_toList] at hname
  refine ⟨item, hitem, hname.imp (fun hname => ?_) (fun hname => ?_)⟩
  · rwa [hlabel]
  · rwa [hvalue]

-- A function whose parameters have small letters hides no enumerator in capitals.
theorem hygienic_of_capitals {lookup : Lookup} {items : List α} {label : α → Label}
    {value? : α → Option Value} (hcases : lookup.switch.cases = casesOf items label value?)
    (hlabel : ∀ item ∈ items, ∀ name, (label item).symbol? = some name → ¬ Symbol.hasSmall name)
    (hvalue : ∀ item ∈ items, ∀ name,
      (value? item).bind Value.symbol? = some name → ¬ Symbol.hasSmall name)
    (hfallback : ∀ name, lookup.switch.fallback.symbol? = some name → ¬ Symbol.hasSmall name)
    (hparameters : ∀ name ∈ lookup.function.parameters.map (·.2), Symbol.hasSmall name) :
    lookup.Hygienic := by
  intro name hname hparameter
  have hsmall := hparameters name hparameter
  rcases mem_symbols_casesOf hcases hname with ⟨item, hitem, h | h⟩ | h
  · exact hlabel item hitem name h hsmall
  · exact hvalue item hitem name h hsmall
  · exact hfallback name h hsmall

namespace Tables

variable {description : Description}

theorem hygienic_blockTypeTable {pairs : List (Block × BlockType)}
    (hpairs : description.device.blocks.mapM (typed description.device) = .ok pairs) :
    (blockTypeTable pairs).Hygienic := by
  have hsmall : ∀ name ∈ ["id"], Symbol.hasSmall name := by decide
  refine hygienic_of_capitals (blockTypeTable_cases hpairs) ?_ ?_ ?_ hsmall
  · rintro block hblock _ ⟨⟩
    exact not_hasSmall_blockSymbol hblock
  · intro block _ name hname
    obtain ⟨_, hvalue, hname⟩ := Option.bind_eq_some_iff.mp hname
    obtain ⟨type, htype, rfl⟩ := Option.map_eq_some_iff.mp hvalue
    cases hname
    exact not_hasSmall_typeSymbol (mem_blockTypes_of_typeOf? htype)
  · rintro _ ⟨⟩
    decide

theorem hygienic_blockNameTable : (blockNameTable description.device.blocks).Hygienic := by
  have hsmall : ∀ name ∈ ["id"], Symbol.hasSmall name := by decide
  refine hygienic_of_capitals (blockNameTable_cases _) ?_ nofun nofun hsmall
  rintro block hblock _ ⟨⟩
  exact not_hasSmall_blockSymbol hblock

-- Three functions choose by the symbol of a block type and return no enumerator.
theorem hygienic_of_typeSymbols {lookup : Lookup} {value? : BlockType → Option Value}
    (hcases : lookup.switch.cases =
      casesOf description.device.blockTypes (fun type => .symbol type.symbol) value?)
    (hvalue : ∀ type, (value? type).bind Value.symbol? = none)
    (hfallback : lookup.switch.fallback.symbol? = none)
    (hparameters : ∀ name ∈ lookup.function.parameters.map (·.2), name ∈ ["type", "param_id"]) :
    lookup.Hygienic := by
  have hsmall : ∀ name ∈ ["type", "param_id"], Symbol.hasSmall name := by decide
  refine hygienic_of_capitals hcases ?_ ?_ ?_ fun name hname => hsmall name (hparameters name hname)
  · rintro type htype _ ⟨⟩
    exact not_hasSmall_typeSymbol htype
  · intro type _ name hname
    rw [hvalue] at hname
    cases hname
  · intro name hname
    rw [hfallback] at hname
    cases hname

theorem hygienic_catalogTable (name : String) (catalog : Catalog) :
    (catalogTable name catalog).Hygienic := by
  have hsmall : ∀ name ∈ ["index"], Symbol.hasSmall name := by decide
  exact hygienic_of_capitals (catalogTable_cases name catalog) nofun nofun nofun hsmall

-- The labels in the function of one block type are the names of its parameters as they are
-- written.
theorem hygienic_typeParameterNameTable_iff (type : BlockType) :
    (typeParameterNameTable type).Hygienic ↔
      ∀ parameter ∈ type.parameters, parameter.name ≠ "id" := by
  constructor
  · rintro h parameter hparameter hname
    refine h parameter.name ?_ (List.mem_singleton.mpr hname)
    rw [Switch.symbols, typeParameterNameTable_cases]
    have hcase : ⟨.symbol parameter.name, .text parameter.displayName⟩ ∈
        casesOf type.parameters (fun parameter => .symbol parameter.name)
          fun parameter => some (.text parameter.displayName) :=
      mem_casesOf.mpr ⟨parameter, hparameter, rfl, rfl⟩
    exact List.mem_append_left _ (List.mem_flatMap.mpr ⟨_, hcase, List.mem_cons_self⟩)
  · intro h name hname hparameter
    rcases mem_symbols_casesOf (typeParameterNameTable_cases type) hname with
      ⟨parameter, hmem, hlabel | hvalue⟩ | hfallback
    · cases hlabel
      exact h parameter hmem (List.mem_singleton.mp hparameter)
    · cases hvalue
    · cases hfallback

-- Only the names of parameters can be hidden, and only by the parameter of their function.
theorem hygienic_iff {pairs : List (Block × BlockType)}
    (hpairs : description.device.blocks.mapM (typed description.device) = .ok pairs) :
    (∀ lookup ∈ (build description.device pairs).lookups, lookup.Hygienic) ↔
      ∀ type ∈ description.device.blockTypes, ∀ parameter ∈ type.parameters,
        parameter.name ≠ "id" := by
  constructor
  · intro h type htype
    apply (hygienic_typeParameterNameTable_iff type).mp
    exact h _ (List.mem_append_right _ (List.mem_map_of_mem htype))
  · intro h lookup hlookup
    rcases mem_build_lookups_iff.mp hlookup with
      rfl | rfl | rfl | rfl | rfl | rfl | rfl | ⟨type, htype, rfl⟩
    · exact hygienic_blockTypeTable hpairs
    · exact hygienic_of_typeSymbols (blockTypeNameTable_cases _) (fun _ => rfl) rfl
        (by simp [blockTypeNameTable])
    · exact hygienic_blockNameTable
    · refine hygienic_of_typeSymbols (bypassIdTable_cases _) (fun type => ?_) rfl
        (by simp [bypassIdTable])
      cases type.bypassId? <;> rfl
    · refine hygienic_of_typeSymbols (parameterNameTable_cases _) (fun type => ?_) rfl
        (by simp [parameterNameTable])
      split <;> rfl
    · exact hygienic_catalogTable _ _
    · exact hygienic_catalogTable _ _
    · exact (hygienic_typeParameterNameTable_iff type).mpr (h type htype)

end Tables

end Code

namespace Sources

open Code

-- Where files are generated, no enumerator is hidden in a function of their program if and only if
-- no parameter of a block type is called as the parameter of its function.
theorem hygienic_iff_of_ofDocument {settings : Settings} {document : String} {sources : Sources}
    (h : (ofDocument settings document).outcome = .ok sources) :
    ∃ device program, sources.Shows settings document device program ∧
      ((∀ lookup ∈ program.lookups, lookup.Hygienic) ↔
        ∀ type ∈ device.blockTypes, ∀ parameter ∈ type.parameters, parameter.name ≠ "id") := by
  obtain ⟨_, pairs, rfl, -, -, hpairs, hshows⟩ := shows_of_ofDocument h
  exact ⟨_, _, hshows, Tables.hygienic_iff hpairs⟩

-- A block type with parameters that are called as the parameters of other functions.
def oneIndex : String :=
  r#"<EffectParameters typeID="1" name="Looper">
<EffectParameter id="1" name="index"/><EffectParameter id="2" name="type"/></EffectParameters>"#

theorem hygienic_iff_oneIndex :
    ∃ sources program, (ofDocument {} oneIndex).outcome = .ok sources ∧
      sources.program? = some program ∧
      "GetLooperParamName" ∈ program.lookups.map (·.function.name) ∧
      ∀ lookup ∈ program.lookups, lookup.Hygienic := by
  have hok : (ofDocument {} oneIndex).outcome.isOk := by decide +kernel
  have hdescription : Description.ofEvents (Markup.read oneIndex).items =
      ⟨[], [⟨1, "Looper", none, [(1, "index"), (2, "type")]⟩], [], []⟩ := by decide +kernel
  obtain ⟨sources, hsources⟩ := Outcome.exists_of_isOk hok
  obtain ⟨device, program, hshows, hhygienic⟩ := hygienic_iff_of_ofDocument hsources
  obtain ⟨rfl, pairs, hpairs, rfl⟩ := hshows.of_description hdescription
  cases hpairs
  refine ⟨sources, _, hsources, hshows.shown, ?_, hhygienic.mpr ?_⟩
  · decide +kernel
  · decide +kernel

-- A parameter that its function hides.
def oneId : String :=
  r#"<EffectParameters typeID="1" name="Amp">
<EffectParameter id="1" name="id"/></EffectParameters>"#

theorem not_hygienic_oneId :
    ∃ sources, (ofDocument {} oneId).outcome = .ok sources ∧
      ∃ device program, sources.Shows {} oneId device program ∧
        ¬ ∀ lookup ∈ program.lookups, lookup.Hygienic := by
  have hok : (ofDocument {} oneId).outcome.isOk := by decide +kernel
  have hdescription : Description.ofEvents (Markup.read oneId).items =
      ⟨[], [⟨1, "Amp", none, [(1, "id")]⟩], [], []⟩ := by decide +kernel
  obtain ⟨sources, hsources⟩ := Outcome.exists_of_isOk hok
  obtain ⟨_, pairs, rfl, -, -, hpairs, hshows⟩ := shows_of_ofDocument hsources
  refine ⟨sources, hsources, _, _, hshows, fun h => ?_⟩
  rw [hdescription] at hpairs h
  exact (Tables.hygienic_iff hpairs).mp h (Group.blockType ⟨1, "Amp", none, [(1, "id")]⟩)
    List.mem_cons_self ⟨"id", 1, false⟩ List.mem_cons_self rfl

end Sources

end EffectTables
