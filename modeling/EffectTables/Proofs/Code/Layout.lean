import EffectTables.Proofs.Code.Names
import EffectTables.Proofs.Code.Rendering
import EffectTables.Sources

namespace EffectTables

namespace BlockType

theorem isIdentifier_parameterEnum {type : BlockType} (h : Symbol.isIdentifier type.stem) :
    Symbol.isIdentifier type.parameterEnum :=
  Symbol.isIdentifier_append h (by decide)

theorem isIdentifier_parameterFunction {type : BlockType} (h : Symbol.isIdentifier type.stem) :
    Symbol.isIdentifier type.parameterFunction :=
  Symbol.isIdentifier_append
    (Symbol.isIdentifier_append (by decide) (Symbol.isIdentifier_iff.mp h).2) (by decide)

end BlockType

namespace Code

namespace Enumeration

-- The declaration of the enumeration can be read back from the header.
def Readable (enumeration : Enumeration) : Prop :=
  enumeration.Sound ∧ '\n' ∉ enumeration.name.toList

theorem readable_of_wellFormed {device : Device} (hwell : device.WellFormed) :
    ∀ enumeration ∈ ofDevice device, enumeration.Readable := by
  have hmarkers : Symbol.isIdentifier Symbol.noBlockType ∧ Symbol.isIdentifier Symbol.noBlock ∧
      Symbol.isIdentifier Symbol.shunt := by decide
  have hnames : '\n' ∉ "AxeFxBlockType".toList ∧ '\n' ∉ "AxeFxIIBlockID".toList := by decide
  intro enumeration hmem
  simp only [ofDevice, List.mem_cons, List.mem_map] at hmem
  rcases hmem with rfl | rfl | ⟨type, htype, rfl⟩
  · refine ⟨List.forall_mem_cons.mpr ⟨hmarkers.1, ?_⟩, hnames.1⟩
    exact List.forall_mem_map.mpr fun type htype => (hwell.typeNames type htype).1
  · refine ⟨List.forall_mem_cons.mpr ⟨hmarkers.2.1, List.forall_mem_cons.mpr ⟨hmarkers.2.2, ?_⟩⟩,
      hnames.2⟩
    exact List.forall_mem_map.mpr fun block hblock => hwell.blockNames block hblock
  · refine ⟨List.forall_mem_map.mpr (hwell.parameterNames type htype), ?_⟩
    exact Symbol.not_mem_of_isIdentifier
      (BlockType.isIdentifier_parameterEnum (hwell.typeNames type htype).2) (by decide)

end Enumeration

theorem Switch.sound_of_casesOf {α : Type} {switch : Switch} {items : List α} {label : α → Label}
    {value? : α → Option Value} (hcases : switch.cases = casesOf items label value?)
    (hlabel : ∀ item ∈ items, (label item).Sound)
    (hvalue : ∀ item ∈ items, ∀ value, value? item = some value → value.Sound)
    (hfallback : switch.fallback.Sound) : switch.Sound := by
  refine ⟨hfallback, fun case hcase => ?_⟩
  obtain ⟨item, hitem, hsame, hsome⟩ := mem_casesOf.mp (hcases ▸ hcase)
  exact ⟨hsame ▸ hlabel item hitem, hvalue item hitem _ hsome⟩

namespace Lookup

-- The function can be read back from the source file.
structure Readable (lookup : Lookup) : Prop where
  switch : lookup.switch.Sound
  signature : '\n' ∉ lookup.function.signature.toList
  subject : '\n' ∉ lookup.switch.subject.toList

end Lookup

namespace Tables

variable {device : Device} {pairs : List (Block × BlockType)}

-- The functions that every device has, and what they choose by, are the same for all devices.
theorem forall_common {P : Function → String → Prop} (device : Device)
    (pairs : List (Block × BlockType))
    (h : ∀ lookup ∈ (build {} []).common, P lookup.function lookup.switch.subject) :
    ∀ lookup ∈ (build device pairs).common, P lookup.function lookup.switch.subject := by
  have hsame : (build device pairs).common.map
      (fun lookup => (lookup.function, lookup.switch.subject)) =
        (build {} []).common.map fun lookup => (lookup.function, lookup.switch.subject) :=
    rfl
  have hall : ∀ frame ∈ (build {} []).common.map
      (fun lookup => (lookup.function, lookup.switch.subject)), P frame.1 frame.2 :=
    List.forall_mem_map.mpr h
  rw [← hsame] at hall
  exact List.forall_mem_map.mp hall

theorem newline_not_mem_common (device : Device) (pairs : List (Block × BlockType)) :
    ∀ lookup ∈ (build device pairs).common,
      '\n' ∉ lookup.function.signature.toList ∧ '\n' ∉ lookup.switch.subject.toList :=
  forall_common device pairs
    (P := fun function subject => '\n' ∉ function.signature.toList ∧ '\n' ∉ subject.toList)
    (by decide)

theorem sound_common (hwell : device.WellFormed)
    (hpairs : device.blocks.mapM (typed device) = .ok pairs) :
    ∀ lookup ∈ (build device pairs).common, lookup.switch.Sound := by
  have htypes := fun type htype => (hwell.typeNames type htype).1
  have hnone : Symbol.isIdentifier Symbol.noBlockType := by decide
  have hcatalog : ∀ (name : String) (catalog : Catalog), (catalogTable name catalog).switch.Sound :=
    fun name catalog => Switch.sound_of_casesOf (catalogTable_cases name catalog)
      (fun _ _ => trivial) (by rintro _ _ _ ⟨⟩; trivial) trivial
  simp only [common, build, List.forall_mem_cons]
  refine ⟨?_, ?_, ?_, ?_, ?_, hcatalog _ _, hcatalog _ _, by simp⟩
  · refine Switch.sound_of_casesOf (blockTypeTable_cases hpairs) hwell.blockNames ?_ hnone
    intro block _ value hvalue
    obtain ⟨type, htype, rfl⟩ := Option.map_eq_some_iff.mp hvalue
    exact htypes type (mem_blockTypes_of_typeOf? htype)
  · exact Switch.sound_of_casesOf (blockTypeNameTable_cases _) htypes
      (by rintro _ _ _ ⟨⟩; trivial) trivial
  · exact Switch.sound_of_casesOf (blockNameTable_cases _) hwell.blockNames
      (by rintro _ _ _ ⟨⟩; trivial) trivial
  · refine Switch.sound_of_casesOf (bypassIdTable_cases _) htypes ?_ trivial
    intro type _ value hvalue
    obtain ⟨id, -, rfl⟩ := Option.map_eq_some_iff.mp hvalue
    trivial
  · refine Switch.sound_of_casesOf (parameterNameTable_cases _) htypes ?_ trivial
    intro type htype value hvalue
    split at hvalue
    next =>
      cases hvalue
      have hstem := (hwell.typeNames type htype).2
      exact ⟨BlockType.isIdentifier_parameterFunction hstem,
        BlockType.isIdentifier_parameterEnum hstem⟩
    next => cases hvalue

-- The functions that every device has can be read back.
theorem readable_common (hwell : device.WellFormed)
    (hpairs : device.blocks.mapM (typed device) = .ok pairs) :
    ∀ lookup ∈ (build device pairs).common, lookup.Readable := by
  intro lookup hlookup
  obtain ⟨hsignature, hsubject⟩ := newline_not_mem_common device pairs lookup hlookup
  exact ⟨sound_common hwell hpairs lookup hlookup, hsignature, hsubject⟩

end Tables

namespace Layout

-- What stands above the functions in the source file, and the line between those that every
-- device has and those of single block types.
def sourceStart (settings : Settings) : List String :=
  [banner, "", "#include \x22" ++ settings.headerName ++ "\x22", "", scopeStart settings, ""]

def sourceMiddle : String := "// Implementations of block parameter lookup functions."

theorem lines_source (settings : Settings) (parts : SourceParts) :
    ∃ rest, Text.lines (source settings parts) =
      (sourceStart settings).flatMap Text.lines ++
        (Text.lines parts.common ++ [""] ++ sourceMiddle :: rest) := by
  have hparts : ∃ rest, source settings parts = "\n".intercalate
      (sourceStart settings ++ parts.common :: "" :: sourceMiddle :: rest) :=
    ⟨_, rfl⟩
  obtain ⟨rest, hparts⟩ := hparts
  refine ⟨rest.flatMap Text.lines, ?_⟩
  have hmiddle : Text.lines sourceMiddle = [sourceMiddle] := Text.lines_eq_singleton (by decide)
  rw [hparts, Text.lines_intercalate (by simp [sourceStart]), List.flatMap_append]
  simp only [List.flatMap_cons, Text.lines_empty, hmiddle, List.append_assoc, List.singleton_append]

end Layout

end Code

end EffectTables
