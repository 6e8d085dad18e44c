import EffectTables.Proofs.Code.Collisions
import EffectTables.Proofs.Code.Layout

namespace EffectTables

namespace Symbol

-- The words that C++ keeps for itself, the other spellings of its operators among them.
def keywords : List String :=
  ["alignas", "alignof", "and", "and_eq", "asm", "auto", "bitand", "bitor", "bool", "break", "case",
    "catch", "char", "char8_t", "char16_t", "char32_t", "class", "compl", "concept", "const",
    "consteval", "constexpr", "constinit", "const_cast", "continue", "contract_assert", "co_await",
    "co_return", "co_yield", "decltype", "default", "delete", "do", "double", "dynamic_cast",
    "else", "enum", "explicit", "export", "extern", "false", "float", "for", "friend", "goto", "if",
    "inline", "int", "long", "mutable", "namespace", "new", "noexcept", "not", "not_eq", "nullptr",
    "operator", "or", "or_eq", "private", "protected", "public", "register", "reinterpret_cast",
    "requires", "return", "short", "signed", "sizeof", "static", "static_assert", "static_cast",
    "struct", "switch", "template", "this", "thread_local", "throw", "true", "try", "typedef",
    "typeid", "typename", "union", "unsigned", "using", "virtual", "void", "volatile", "wchar_t",
    "while", "xor", "xor_eq"]

-- A letter or an underscore, then letters, digits and underscores.
def Spelled (name : String) : Prop :=
  ∃ first rest, name.toList = first :: rest ∧ (first.isAlpha ∨ first = '_') ∧
    ∀ c ∈ rest, c.isAlphanum ∨ c = '_'

-- A name that may be declared.
structure Usable (name : String) : Prop where
  spelled : Spelled name
  free : name ∉ keywords

theorem spelled_iff {name : String} : Spelled name ↔ isIdentifier name := by
  unfold Spelled isIdentifier
  cases name.toList with
  | nil => simp
  | cons first rest => simp [startsIdentifier, continuesIdentifier]

theorem usable_iff {name : String} : Usable name ↔ isIdentifier name ∧ name ∉ keywords := by
  rw [← spelled_iff]
  exact ⟨fun h => ⟨h.spelled, h.free⟩, fun h => ⟨h.1, h.2⟩⟩

-- No keyword has a capital letter.
theorem not_mem_keywords {name : String} {c : Char} (hc : c ∈ name.toList) (hupper : c.isUpper) :
    name ∉ keywords := by
  have hall : ∀ word ∈ keywords, word.toList.all fun c => !c.isUpper := by decide
  intro hmem
  simpa [hupper] using List.all_eq_true.mp (hall name hmem) c hc

theorem not_mem_keywords_append {frame : String} (hframe : frame.toList.any Char.isUpper)
    (tail : String) : frame ++ tail ∉ keywords := by
  obtain ⟨c, hc, hupper⟩ := List.any_eq_true.mp hframe
  refine not_mem_keywords ?_ hupper
  rw [String.toList_append]
  exact List.mem_append_left _ hc

end Symbol

namespace Code

variable {description : Description} {pairs : List (Block × BlockType)} {name : String}

theorem usable_enumerationName {device : Device} (hwell : device.WellFormed)
    (h : name ∈ (Enumeration.ofDevice device).map (·.name)) : Symbol.Usable name := by
  rw [enumerationNames_eq, List.mem_append, List.mem_map] at h
  rw [Symbol.usable_iff]
  rcases h with h | ⟨type, htype, rfl⟩
  · have hcommon : ∀ name ∈ Enumeration.commonNames,
        Symbol.isIdentifier name ∧ name ∉ Symbol.keywords := by decide
    exact hcommon name h
  · have hmem : 'P' ∈ type.parameterEnum.toList := type.parameterEnum_suffix.subset (by decide)
    exact ⟨BlockType.isIdentifier_parameterEnum (hwell.typeNames type htype).2,
      Symbol.not_mem_keywords hmem (by decide)⟩

theorem usable_lookupName {device : Device} (hwell : device.WellFormed)
    (h : name ∈ (Tables.build device pairs).lookups.map (·.function.name)) :
    Symbol.Usable name := by
  rw [Tables.build_lookups_names, List.mem_append, List.mem_map] at h
  rw [Symbol.usable_iff]
  rcases h with h | ⟨type, htype, rfl⟩
  · have hcommon : ∀ name ∈ Tables.commonNames,
        Symbol.isIdentifier name ∧ name ∉ Symbol.keywords := by decide
    exact hcommon name h
  · have hmem : 'P' ∈ type.parameterFunction.toList :=
      type.parameterFunction_suffix.subset (by decide)
    exact ⟨BlockType.isIdentifier_parameterFunction (hwell.typeNames type htype).2,
      Symbol.not_mem_keywords hmem (by decide)⟩

theorem usable_blockSymbol {block : Block} (hwell : description.device.WellFormed)
    (h : block ∈ description.device.blocks) : Symbol.Usable block.symbol := by
  refine Symbol.usable_iff.mpr ⟨hwell.blockNames block h, ?_⟩
  rw [description.device_blocks] at h
  obtain ⟨slot, -, rfl⟩ := List.mem_map.mp h
  exact Symbol.not_mem_keywords_append (by decide) _

theorem usable_typeSymbol {type : BlockType} (hwell : description.device.WellFormed)
    (h : type ∈ description.device.blockTypes) : Symbol.Usable type.symbol := by
  refine Symbol.usable_iff.mpr ⟨(hwell.typeNames type h).1, ?_⟩
  rw [description.device_blockTypes] at h
  obtain ⟨group, -, rfl⟩ := List.mem_map.mp h
  exact Symbol.not_mem_keywords_append (by decide) _

theorem mem_names_iff {device : Device} {tables : Tables} :
    name ∈ (Program.ofDevice device tables).names ↔
      (name ∈ (Enumeration.ofDevice device).map (·.name) ∨ name ∈ device.enumeratorNames) ∨
        name ∈ tables.lookups.map (·.function.name) := by
  rw [Program.names, List.mem_append, List.mem_append, mem_enumeratorNames]
  rfl

theorem parameter_mem_names {device : Device} {tables : Tables} {type : BlockType}
    {parameter : Parameter} (htype : type ∈ device.blockTypes)
    (hparameter : parameter ∈ type.parameters) :
    parameter.name ∈ (Program.ofDevice device tables).names := by
  refine mem_names_iff.mpr (.inl (.inr ?_))
  simp only [Device.enumeratorNames, List.mem_append, List.mem_flatMap, List.mem_map]
  exact .inr ⟨type, htype, parameter, hparameter, rfl⟩

-- Of the names that the code for a description declares, only those of parameters may be
-- keywords, for all others have capitals.
theorem usable_or_parameter (hwell : description.device.WellFormed)
    (h : name ∈ (Program.ofDevice description.device
      (Tables.build description.device pairs)).names) :
    Symbol.Usable name ∨ ∃ type ∈ description.device.blockTypes, ∃ parameter ∈ type.parameters,
      parameter.name = name := by
  rcases mem_names_iff.mp h with (h | h) | h
  · exact .inl (usable_enumerationName hwell h)
  · simp only [Device.enumeratorNames, List.mem_append, List.mem_map, List.mem_flatMap] at h
    rcases h with ((hreserved | ⟨type, htype, rfl⟩) | ⟨block, hblock, rfl⟩) | hparameter
    · have hfixed : ∀ name ∈ [Symbol.noBlockType, Symbol.noBlock, Symbol.shunt],
          Symbol.isIdentifier name ∧ name ∉ Symbol.keywords := by decide
      exact .inl (Symbol.usable_iff.mpr (hfixed name hreserved))
    · exact .inl (usable_typeSymbol hwell htype)
    · exact .inl (usable_blockSymbol hwell hblock)
    · obtain ⟨type, htype, parameter, hp, rfl⟩ := hparameter
      exact .inr ⟨type, htype, parameter, hp, rfl⟩
  · exact .inl (usable_lookupName hwell h)

theorem spelled_names (hwell : description.device.WellFormed) :
    ∀ name ∈ (Program.ofDevice description.device
      (Tables.build description.device pairs)).names, Symbol.Spelled name := by
  intro name hname
  rcases usable_or_parameter hwell hname with husable | ⟨type, htype, parameter, hp, rfl⟩
  · exact husable.spelled
  · exact Symbol.spelled_iff.mpr (hwell.parameterNames type htype parameter hp)

theorem usable_names_iff (hwell : description.device.WellFormed) :
    (∀ name ∈ (Program.ofDevice description.device
        (Tables.build description.device pairs)).names, Symbol.Usable name) ↔
      ∀ type ∈ description.device.blockTypes, ∀ parameter ∈ type.parameters,
        parameter.name ∉ Symbol.keywords := by
  constructor
  · intro h type htype parameter hparameter
    exact (h parameter.name (parameter_mem_names htype hparameter)).free
  · intro h name hname
    refine ⟨spelled_names hwell name hname, ?_⟩
    rcases usable_or_parameter hwell hname with husable | ⟨type, htype, parameter, hp, rfl⟩
    · exact husable.free
    · exact h type htype parameter hp

end Code

namespace Sources

open Code

-- Where files are generated, the names in their header are spelled as identifiers, and they may be
-- declared if and only if the namespace, the guard and the parameters of block types are not called
-- as keywords.
theorem usable_iff_of_ofDocument {settings : Settings} {document : String} {sources : Sources}
    (h : (ofDocument settings document).outcome = .ok sources) :
    ∃ device program, sources.Shows settings document device program ∧
      (∀ name ∈ settings.scope :: settings.guard :: program.names, Symbol.Spelled name) ∧
      ((∀ name ∈ settings.scope :: settings.guard :: program.names, Symbol.Usable name) ↔
        settings.scope ∉ Symbol.keywords ∧ settings.guard ∉ Symbol.keywords ∧
          ∀ type ∈ device.blockTypes, ∀ parameter ∈ type.parameters,
            parameter.name ∉ Symbol.keywords) := by
  obtain ⟨_, pairs, rfl, hsound, hwell, -, hshows⟩ := shows_of_ofDocument h
  refine ⟨_, _, hshows, ?_, ?_⟩
  · rw [List.forall_mem_cons, List.forall_mem_cons, Symbol.spelled_iff, Symbol.spelled_iff]
    exact ⟨hsound.scope, hsound.guard, spelled_names hwell⟩
  · rw [List.forall_mem_cons, List.forall_mem_cons, usable_names_iff hwell, Symbol.usable_iff,
      Symbol.usable_iff, and_iff_right hsound.scope, and_iff_right hsound.guard]

-- A block type with a parameter that is called as a keyword but for a capital.
def oneDefault : String :=
  r#"<EffectParameters typeID="1" name="Amp">
<EffectParameter id="1" name="Default"/></EffectParameters>"#

theorem usable_iff_oneDefault :
    ∃ sources program, (ofDocument {} oneDefault).outcome = .ok sources ∧
      sources.program? = some program ∧ "Default" ∈ program.names ∧
      ∀ name ∈ program.names, Symbol.Usable name := by
  have hok : (ofDocument {} oneDefault).outcome.isOk := by decide +kernel
  have hdescription : Description.ofEvents (Markup.read oneDefault).items =
      ⟨[], [⟨1, "Amp", none, [(1, "Default")]⟩], [], []⟩ := by decide +kernel
  obtain ⟨sources, hsources⟩ := Outcome.exists_of_isOk hok
  obtain ⟨device, program, hshows, -, husable⟩ := usable_iff_of_ofDocument hsources
  obtain ⟨rfl, pairs, hpairs, rfl⟩ := hshows.of_description hdescription
  cases hpairs
  have hall := husable.mpr (by decide +kernel)
  refine ⟨sources, _, hsources, hshows.shown, by decide +kernel, fun name hname => ?_⟩
  exact hall name (List.mem_cons_of_mem _ (List.mem_cons_of_mem _ hname))

-- A parameter that is called as a type of the language.
def oneInt : String :=
  r#"<EffectParameters typeID="1" name="Amp">
<EffectParameter id="1" name="int"/></EffectParameters>"#

theorem not_usable_oneInt :
    ∃ sources, (ofDocument {} oneInt).outcome = .ok sources ∧
      ∃ device program, sources.Shows {} oneInt device program ∧
        ¬ ∀ name ∈ program.names, Symbol.Usable name := by
  have hok : (ofDocument {} oneInt).outcome.isOk := by decide +kernel
  have hdescription : Description.ofEvents (Markup.read oneInt).items =
      ⟨[], [⟨1, "Amp", none, [(1, "int")]⟩], [], []⟩ := by decide +kernel
  obtain ⟨sources, hsources⟩ := Outcome.exists_of_isOk hok
  obtain ⟨_, pairs, rfl, -, -, -, hshows⟩ := shows_of_ofDocument hsources
  refine ⟨sources, hsources, _, _, hshows, fun h => ?_⟩
  rw [hdescription] at h
  have hparameter : (⟨"int", 1, false⟩ : Parameter) ∈
      (Group.blockType ⟨1, "Amp", none, [(1, "int")]⟩).parameters := List.mem_cons_self
  exact (h "int" (parameter_mem_names List.mem_cons_self hparameter)).free (by decide)

end Sources

end EffectTables
