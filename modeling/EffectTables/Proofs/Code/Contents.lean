import EffectTables.Proofs.Code.Layout
import EffectTables.Proofs.Code.Reading
import EffectTables.Proofs.Document.Queries
import EffectTables.Proofs.Document.Reading
import EffectTables.Proofs.Settings

namespace EffectTables

namespace Code

-- What lines without code begin with: comments, directives and the frame of a namespace.
def asides : List String := ["//", "#", "namespace ", "\x7d  //"]

def isCode (line : String) : Bool :=
  line != "" && asides.all fun aside => !aside.toList.isPrefixOf line.toList

def codeLines (text : String) : List String := Text.pickLines isCode text

def readDeclaration? (line : String) : Option Function :=
  (Text.framed? "" ";" line).bind Function.read?

-- The enumerations in a header, and the functions that it declares behind them.
def readHeader? (header : String) : Option (List Enumeration × List Function) := do
  let (enumerations, rest) ← Text.readParts? "\x7d;" Enumeration.read? (codeLines header)
  let functions ← rest.mapM readDeclaration?
  return (enumerations, functions)

theorem readHeader?_eq_some {header : String} {enumerations : List Enumeration}
    {declarations : List String} {functions : List Function}
    (hparts : Text.readParts? "\x7d;" Enumeration.read? (codeLines header) =
      some (enumerations, declarations))
    (hfunctions : declarations.mapM readDeclaration? = some functions) :
    readHeader? header = some (enumerations, functions) := by
  rw [readHeader?, hparts]
  simp only [bind, Option.bind_some, hfunctions, pure]

-- The name of the included file is the only text in quotation marks before the code. It is taken
-- out first, for it may go on in another line.
def withoutInclusion? (source : String) : Option String := do
  let (front, rest) ← Text.cut? '\x22' source.toList
  let (_, behind) ← Text.cut? '\x22' rest
  return String.ofList (front ++ behind)

-- The functions that a source file defines.
def readSource? (source : String) : Option (List Lookup) := do
  let text ← withoutInclusion? source
  let (lookups, rest) ← Text.readParts? "\x7d" Lookup.read? (codeLines text)
  if rest = [] then return lookups else none

-- The characters that a line without code may begin with.
def asideHeads : List Char := ['/', '#', 'n', '\x7d']

-- A text that begins as no line without code does.
def beginsCode (text : String) : Bool := text.toList.head?.any (· ∉ asideHeads)

section

variable {frame line text : String}

theorem head_of_beginsCode (h : beginsCode text) :
    ∃ c, text.toList.head? = some c ∧ c ∉ asideHeads := by
  obtain ⟨c, hc, hfree⟩ := (Option.any_eq_true _ _).mp h
  exact ⟨c, hc, of_decide_eq_true hfree⟩

theorem isCode_of_head {c : Char} (h : line.toList.head? = some c) (hc : c ∉ asideHeads) :
    isCode line := by
  have hheads : ∀ aside ∈ asides, aside.toList.head?.any (· ∈ asideHeads) := by decide
  obtain ⟨rest, hrest⟩ := List.head?_eq_some_iff.mp h
  have hne : line ≠ "" := by
    rintro rfl
    cases h
  rw [isCode, Bool.and_eq_true, bne_iff_ne, List.all_eq_true]
  refine ⟨hne, fun aside haside => ?_⟩
  rw [Bool.not_eq_true', ← Bool.not_eq_true, List.isPrefixOf_iff_prefix]
  rintro ⟨tail, htail⟩
  obtain ⟨d, hhead, hd⟩ := (Option.any_eq_true _ _).mp (hheads aside haside)
  obtain ⟨more, hmore⟩ := List.head?_eq_some_iff.mp hhead
  rw [hmore, hrest, List.cons_append, List.cons.injEq] at htail
  exact hc (htail.1 ▸ of_decide_eq_true hd)

theorem not_isCode_append (h : ∃ aside ∈ asides, aside.toList <+: frame.toList) :
    isCode (frame ++ text) = false := by
  obtain ⟨aside, haside, hprefix⟩ := h
  rw [isCode, Bool.and_eq_false_iff, List.all_eq_false]
  refine .inr ⟨aside, haside, ?_⟩
  rw [Bool.not_eq_true', Bool.not_eq_false, List.isPrefixOf_iff_prefix, String.toList_append]
  exact hprefix.trans (List.prefix_append _ _)

theorem isCode_empty : isCode "" = false := by decide

theorem codeLines_empty : codeLines "" = [] := Text.pickLines_empty isCode_empty

-- From parts that are joined, the code is that of each of them.
theorem codeLines_intercalate (parts : List String) :
    codeLines ("\n".intercalate parts) = parts.flatMap codeLines :=
  Text.pickLines_intercalate isCode_empty parts

theorem codeLines_intercalate_blank (parts : List String) :
    codeLines ("\n\n".intercalate parts) = parts.flatMap codeLines :=
  Text.pickLines_intercalate_blank isCode_empty parts

theorem codeLines_append (text other : String) :
    codeLines (text ++ "\n" ++ other) = codeLines text ++ codeLines other := by
  rw [codeLines, Text.pickLines, Text.lines_append, List.filter_append]
  rfl

-- A line with a name on it is left out if it begins as one without code.
theorem codeLines_aside (frame : String) {text : String}
    (hframe : '\n' ∉ frame.toList ∧ ∃ aside ∈ asides, aside.toList <+: frame.toList)
    (htext : '\n' ∉ text.toList) : codeLines (frame ++ text) = [] := by
  have hline : '\n' ∉ (frame ++ text).toList := by
    rw [String.toList_append, List.mem_append]
    exact not_or_intro hframe.1 htext
  rw [codeLines, Text.pickLines_line hline, List.filter_singleton, not_isCode_append hframe.2]
  rfl

end

theorem withoutInclusion?_append {front name : String} (hfront : '\x22' ∉ front.toList)
    (hname : '\x22' ∉ name.toList) (behind : String) :
    withoutInclusion? (front ++ "\x22" ++ name ++ "\x22" ++ behind) = some (front ++ behind) := by
  have hquote : "\x22".toList = ['\x22'] := by decide
  rw [withoutInclusion?]
  simp only [String.toList_append, hquote, List.append_assoc, List.cons_append, List.nil_append,
    Text.cut?_append hfront, Text.cut?_append hname, bind, Option.bind_some, pure]
  rw [String.ofList_append, String.ofList_toList, String.ofList_toList]

-- Indented lines are code.
theorem isCode_indented {line : String} (h : line.toList.head? = some ' ') : isCode line :=
  isCode_of_head h (by decide)

namespace Enumeration

theorem lines_eq (enumeration : Enumeration) : enumeration.lines = enumeration.front ++ ["\x7d;"] :=
  rfl

theorem isCode_of_mem_front {enumeration : Enumeration} {line : String}
    (h : line ∈ enumeration.front) : isCode line := by
  rcases List.mem_cons.mp h with rfl | hline
  · exact isCode_of_head (c := 'e') (by simp) (by decide)
  · obtain ⟨enumerator, -, rfl | rfl⟩ := exists_of_mem_body hline
    · exact isCode_indented (by simp [Enumerator.text])
    · exact isCode_indented (by simp [Enumerator.text])

-- All lines of an enumeration are code.
theorem codeLines_text {enumeration : Enumeration} (h : enumeration.Readable) :
    codeLines enumeration.text = enumeration.front ++ ["\x7d;"] := by
  have hend : isCode "\x7d;" := by decide
  rw [codeLines, Text.pickLines, lines_text h.1 h.2, lines_eq, List.filter_append,
    List.filter_eq_self.mpr fun _ => isCode_of_mem_front, List.filter_singleton, hend]
  rfl

theorem end_not_mem_front (enumeration : Enumeration) : "\x7d;" ∉ enumeration.front := by
  intro hmem
  rcases List.mem_cons.mp hmem with hline | hmem
  · have hhead := congrArg (·.toList.head?) hline
    simp at hhead
  · exact end_not_mem_body _ hmem

end Enumeration

namespace Lookup

-- The function can be told apart from all else in the files and be read from them.
structure Legible (lookup : Lookup) : Prop extends lookup.Readable where
  function : lookup.function.Sound
  head : beginsCode lookup.function.result

variable {lookup : Lookup}

theorem Legible.head_signature (h : lookup.Legible) (text : String) :
    ∃ c, (lookup.function.signature ++ text).toList.head? = some c ∧ c ∉ asideHeads := by
  obtain ⟨c, hc, hfree⟩ := head_of_beginsCode h.head
  refine ⟨c, ?_, hfree⟩
  simp only [Function.signature, String.append_assoc, String.toList_append]
  exact List.mem_head?_append_of_mem_head? hc

theorem Legible.end_ne_declaration (h : lookup.Legible) : lookup.declaration ≠ "\x7d;" := by
  intro hline
  obtain ⟨c, hc, hfree⟩ := h.head_signature ";"
  rw [declaration, Switch.declaration] at hline
  rw [hline] at hc
  have hbrace : '\x7d' = c := Option.some.inj hc
  exact hfree (hbrace ▸ by decide)

theorem Legible.read?_declaration (h : lookup.Legible) :
    readDeclaration? lookup.declaration = some lookup.function := by
  rw [readDeclaration?, declaration, Switch.declaration, Text.framed?_suffix, Option.bind_some,
    Function.read?_signature h.function]

theorem Legible.codeLines_declaration (h : lookup.Legible) :
    codeLines lookup.declaration = [lookup.declaration] := by
  obtain ⟨c, hc, hfree⟩ := h.head_signature ";"
  have hcode : isCode lookup.declaration := isCode_of_head hc hfree
  have hline : '\n' ∉ lookup.declaration.toList := by
    simp [declaration, Switch.declaration, h.signature]
  rw [codeLines, Text.pickLines_line hline, List.filter_singleton, hcode]
  rfl

-- The first line of a function begins as its signature does, all others are indented.
theorem Legible.head_of_mem_front (h : lookup.Legible) {line : String}
    (hline : line ∈ lookup.front) : ∃ c, line.toList.head? = some c ∧ c ∉ asideHeads := by
  have hblank : ' ' ∉ asideHeads := by decide
  simp only [front, List.mem_append, List.mem_cons, List.not_mem_nil, or_false,
    List.mem_flatMap, Case.lines] at hline
  rcases hline with ((rfl | rfl | rfl | rfl) | ⟨case, -, rfl | rfl⟩) | rfl | rfl
  · exact h.head_signature " \x7b"
  all_goals exact ⟨' ', by simp, hblank⟩

-- All lines of a function are code.
theorem Legible.codeLines_definition (h : lookup.Legible) :
    codeLines lookup.definition = lookup.front ++ ["\x7d"] := by
  have hend : isCode "\x7d" := by decide
  have hfront : ∀ line ∈ lookup.front, isCode line := by
    intro line hline
    obtain ⟨c, hc, hfree⟩ := h.head_of_mem_front hline
    exact isCode_of_head hc hfree
  rw [codeLines, Text.pickLines, definition,
    Switch.lines_definition h.switch h.toReadable.signature h.subject, lines_eq,
    List.filter_append, List.filter_eq_self.mpr hfront, List.filter_singleton, hend]
  rfl

theorem Legible.end_not_mem_front (h : lookup.Legible) : "\x7d" ∉ lookup.front := by
  intro hmem
  obtain ⟨c, hc, hfree⟩ := h.head_of_mem_front hmem
  have hbrace : '\x7d' = c := Option.some.inj hc
  exact hfree (hbrace ▸ by decide)

end Lookup

namespace Tables

variable {device : Device} {pairs : List (Block × BlockType)}

theorem legible_common (hwell : device.WellFormed)
    (hpairs : device.blocks.mapM (typed device) = .ok pairs) :
    ∀ lookup ∈ (build device pairs).common, lookup.Legible := by
  have hfixed : ∀ lookup ∈ (build device pairs).common,
      lookup.function.Sound ∧ beginsCode lookup.function.result :=
    forall_common device pairs
      (P := fun function _ => function.Sound ∧ beginsCode function.result) (by decide)
  intro lookup hlookup
  obtain ⟨hfunction, hhead⟩ := hfixed lookup hlookup
  exact ⟨readable_common hwell hpairs lookup hlookup, hfunction, hhead⟩

theorem legible_typeParameterNameTable (hwell : device.WellFormed) {type : BlockType}
    (htype : type ∈ device.blockTypes) : (typeParameterNameTable type).Legible where
  switch := Switch.sound_of_casesOf (typeParameterNameTable_cases type)
    (hwell.parameterNames type htype) (by rintro _ _ _ ⟨⟩; trivial) trivial
  signature := by
    have hstem := (hwell.typeNames type htype).2
    have hfunction := Symbol.not_mem_of_isIdentifier (c := '\n')
      (BlockType.isIdentifier_parameterFunction hstem) (by decide)
    have henum := Symbol.not_mem_of_isIdentifier (c := '\n')
      (BlockType.isIdentifier_parameterEnum hstem) (by decide)
    simp [typeParameterNameTable, Function.signature, hfunction, henum]
  subject := by
    have hid : '\n' ∉ "id".toList := by decide
    exact hid
  function := by
    have hstem := (hwell.typeNames type htype).2
    have hfixed : '(' ∉ "const char*".toList ∧ Symbol.isIdentifier "id" := by decide
    refine ⟨hfixed.1, BlockType.isIdentifier_parameterFunction hstem, ?_⟩
    exact List.forall_mem_singleton.mpr
      ⟨BlockType.isIdentifier_parameterEnum hstem, hfixed.2⟩
  head := (by decide : beginsCode "const char*")

theorem legible_lookups (hwell : device.WellFormed)
    (hpairs : device.blocks.mapM (typed device) = .ok pairs) :
    ∀ lookup ∈ (build device pairs).lookups, lookup.Legible := by
  intro lookup hlookup
  rcases List.mem_append.mp hlookup with hcommon | htype
  · exact legible_common hwell hpairs lookup hcommon
  · obtain ⟨type, hmem, rfl⟩ := List.mem_map.mp htype
    exact legible_typeParameterNameTable hwell hmem

end Tables

namespace Layout

variable {settings : Settings}

theorem codeLines_scopeStart (h : Symbol.isIdentifier settings.scope) :
    codeLines (scopeStart settings) = [] := by
  rw [scopeStart, String.append_assoc]
  refine codeLines_aside _ (by decide) ?_
  simp [Symbol.not_mem_of_isIdentifier h (c := '\n') (by decide)]

theorem codeLines_scopeEnd (h : Symbol.isIdentifier settings.scope) :
    codeLines (scopeEnd settings) = [] :=
  codeLines_aside _ (by decide) (Symbol.not_mem_of_isIdentifier h (by decide))

-- A part may be left out if it is empty.
theorem codeLines_optional (part : String) :
    (if part = "" then [] else [part]).flatMap codeLines = codeLines part := by
  split
  next hnone =>
    rw [hnone]
    exact codeLines_empty.symm
  next => exact List.flatMap_singleton _ _

-- The code in a header is that of its parts.
theorem codeLines_header (hscope : Symbol.isIdentifier settings.scope)
    (hguard : Symbol.isIdentifier settings.guard) (parts : HeaderParts) :
    codeLines (header settings parts) =
      codeLines parts.enumerations ++ codeLines parts.common ++ codeLines parts.perType := by
  have hname := Symbol.not_mem_of_isIdentifier hguard (c := '\n') (by decide)
  have hifndef := codeLines_aside "#ifndef " (by decide) hname
  have hdefine := codeLines_aside "#define " (by decide) hname
  have hendif := codeLines_aside "#endif  // " (by decide) hname
  have hstart := codeLines_scopeStart hscope
  have hend := codeLines_scopeEnd hscope
  have hfixed : codeLines banner = [] ∧ codeLines "#pragma once" = [] ∧
      codeLines "// Forward declarations for block parameter lookups." = [] := by decide
  rw [header, codeLines_intercalate, List.flatMap_append, List.flatMap_append,
    codeLines_optional]
  simp only [List.flatMap_cons, List.flatMap_nil, hifndef, hdefine, hendif, hstart, hend,
    hfixed, codeLines_empty, List.nil_append, List.append_nil, List.append_assoc]

-- What stands in a source file up to the name of the included file.
def sourceFront : String := "\n".intercalate [banner, "", "#include "]

-- What follows the line that includes the header.
def sourceBody (settings : Settings) (parts : SourceParts) : String :=
  "\n".intercalate
    (["", scopeStart settings, "", parts.common, "", sourceMiddle] ++
      (if parts.perType = "" then [] else ["", parts.perType]) ++ ["", scopeEnd settings, ""])

theorem source_eq (settings : Settings) (parts : SourceParts) :
    source settings parts =
      sourceFront ++ "\x22" ++ settings.headerName ++ "\x22" ++
        ("\n" ++ sourceBody settings parts) := by
  have hlines : ∀ (mark first second frame name last : String) (rest : List String),
      mark.intercalate ([first, second, frame ++ name] ++ last :: rest) =
        mark.intercalate [first, second, frame] ++ name ++
          (mark ++ mark.intercalate (last :: rest)) := by
    intro mark first second frame name last rest
    simp [String.append_assoc]
  have hframe : "#include \x22" = "#include " ++ "\x22" := by decide
  have hsource := hlines "\n" banner "" "#include " ("\x22" ++ settings.headerName ++ "\x22")
  rw [← String.append_assoc, ← String.append_assoc, ← hframe, ← String.append_assoc,
    ← String.append_assoc] at hsource
  exact hsource "" _

theorem codeLines_sourceBody (hscope : Symbol.isIdentifier settings.scope) (parts : SourceParts) :
    codeLines (sourceBody settings parts) = codeLines parts.common ++ codeLines parts.perType := by
  have hstart := codeLines_scopeStart hscope
  have hend := codeLines_scopeEnd hscope
  have hmiddle : codeLines sourceMiddle = [] := by decide
  have hperType : (if parts.perType = "" then [] else ["", parts.perType]).flatMap codeLines =
      codeLines parts.perType := by
    rw [← codeLines_optional parts.perType]
    split <;> rfl
  rw [sourceBody, codeLines_intercalate, List.flatMap_append, List.flatMap_append, hperType]
  simp only [List.flatMap_cons, List.flatMap_nil, hstart, hend, hmiddle, codeLines_empty,
    List.nil_append, List.append_nil]

-- Without the name of the included file, the code is that of the parts.
theorem withoutInclusion?_source (hvalid : settings.Valid) (parts : SourceParts) :
    ∃ text, withoutInclusion? (source settings parts) = some text ∧
      codeLines text = codeLines parts.common ++ codeLines parts.perType := by
  have hfront : '\x22' ∉ sourceFront.toList := by decide
  have hname := (Path.isPlainName_iff.mp hvalid.headerName).quote
  have hcode : codeLines sourceFront = [] := by decide
  refine ⟨sourceFront ++ ("\n" ++ sourceBody settings parts), ?_, ?_⟩
  · rw [source_eq, withoutInclusion?_append hfront hname]
  · rw [← String.append_assoc, codeLines_append, hcode, codeLines_sourceBody hvalid.scope,
      List.nil_append]

end Layout

end Code

namespace Sources

open Code

-- The program in the two files, as the compiler reads it.
def program? (sources : Sources) : Option Program := do
  let (enumerations, _) ← readHeader? sources.header
  let lookups ← readSource? sources.source
  return ⟨enumerations, lookups⟩

-- The functions that other files find in the header.
def declared? (sources : Sources) : Option (List Function) :=
  (readHeader? sources.header).map (·.2)

section

variable {settings : Settings} {device : Device} {pairs : List (Block × BlockType)}
  (hwell : device.WellFormed) (hpairs : device.blocks.mapM (Tables.typed device) = .ok pairs)
  (hvalid : settings.Valid)
include hwell hpairs hvalid

theorem codeLines_header :
    codeLines (Layout.header settings (headerParts device (Tables.build device pairs))) =
      ((Enumeration.ofDevice device).flatMap fun enumeration => enumeration.front ++ ["\x7d;"]) ++
        (Tables.build device pairs).lookups.map (·.declaration) := by
  have hlegible := Tables.legible_lookups hwell hpairs
  have henumerations : codeLines ("\n\n".intercalate ((Enumeration.ofDevice device).map (·.text))) =
      (Enumeration.ofDevice device).flatMap fun enumeration => enumeration.front ++ ["\x7d;"] := by
    rw [codeLines_intercalate_blank, List.flatMap_map]
    exact List.flatMap_congr fun enumeration hmem =>
      Enumeration.codeLines_text (Enumeration.readable_of_wellFormed hwell enumeration hmem)
  have hlookups : ∀ lookups ⊆ (Tables.build device pairs).lookups,
      codeLines ("\n".intercalate (lookups.map (·.declaration))) = lookups.map (·.declaration) := by
    intro lookups hsubset
    rw [codeLines_intercalate, List.flatMap_map, List.map_eq_flatMap]
    exact List.flatMap_congr fun lookup hmem =>
      (hlegible lookup (hsubset hmem)).codeLines_declaration
  rw [Layout.codeLines_header hvalid.scope hvalid.guard, headerParts, henumerations,
    hlookups _ (List.subset_append_left _ _), hlookups _ (List.subset_append_right _ _),
    List.append_assoc, ← List.map_append]
  rfl

-- A header is read as the enumerations for the device and the functions of its tables.
theorem readHeader?_header :
    readHeader? (Layout.header settings (headerParts device (Tables.build device pairs))) =
      some (Enumeration.ofDevice device,
        (Tables.build device pairs).lookups.map (·.function)) := by
  have hlegible := Tables.legible_lookups hwell hpairs
  have henumerations : ∀ enumeration ∈ Enumeration.ofDevice device,
      Enumeration.read? enumeration.front = some enumeration := fun enumeration hmem =>
    Enumeration.read?_front (Enumeration.readable_of_wellFormed hwell enumeration hmem).1
  have hend : "\x7d;" ∉ (Tables.build device pairs).lookups.map (·.declaration) := by
    intro hmem
    obtain ⟨lookup, hlookup, hline⟩ := List.mem_map.mp hmem
    exact (hlegible lookup hlookup).end_ne_declaration hline
  have hfunctions := Text.mapM_map_eq_some fun lookup hmem =>
    (hlegible lookup hmem).read?_declaration
  refine readHeader?_eq_some ?_ hfunctions
  rw [codeLines_header hwell hpairs hvalid]
  exact Text.readParts?_flatMap henumerations (fun enumeration _ => enumeration.end_not_mem_front)
    hend

-- A source file is read as the functions of the tables.
theorem readSource?_source :
    readSource? (Layout.source settings (sourceParts (Tables.build device pairs))) =
      some (Tables.build device pairs).lookups := by
  have hlegible := Tables.legible_lookups hwell hpairs
  have hlookups : ∀ lookups ⊆ (Tables.build device pairs).lookups,
      codeLines ("\n\n".intercalate (lookups.map (·.definition))) =
        lookups.flatMap fun lookup => lookup.front ++ ["\x7d"] := by
    intro lookups hsubset
    rw [codeLines_intercalate_blank, List.flatMap_map]
    exact List.flatMap_congr fun lookup hmem =>
      (hlegible lookup (hsubset hmem)).codeLines_definition
  obtain ⟨text, htext, hcode⟩ :=
    Layout.withoutInclusion?_source hvalid (sourceParts (Tables.build device pairs))
  have hlines : codeLines text =
      ((Tables.build device pairs).lookups.flatMap fun lookup => lookup.front ++ ["\x7d"]) ++
        [] := by
    rw [hcode, sourceParts, hlookups _ (List.subset_append_left _ _),
      hlookups _ (List.subset_append_right _ _), ← List.flatMap_append, List.append_nil]
    rfl
  have hread : ∀ lookup ∈ (Tables.build device pairs).lookups,
      Lookup.read? lookup.front = some lookup := fun lookup hmem =>
    Lookup.read?_front (hlegible lookup hmem).function (hlegible lookup hmem).switch
  rw [readSource?, htext]
  simp only [bind, Option.bind_some, hlines, Text.readParts?_flatMap hread
    (fun lookup hmem => (hlegible lookup hmem).end_not_mem_front) List.not_mem_nil, if_pos, pure]

end

-- The files that are laid out for the device in a document, and the program that is read from
-- them. The header declares what the source file defines, in the same order.
structure Shows (sources : Sources) (settings : Settings) (document : String) (device : Device)
    (program : Program) : Prop where
  read : (Device.read document).outcome = .ok device
  laidOut : ∃ tables, Tables.ofDevice device = .ok tables ∧
    sources = {
      header := Layout.header settings (headerParts device tables)
      source := Layout.source settings (sourceParts tables) } ∧
    program = Program.ofDevice device tables
  shown : sources.program? = some program
  declared : sources.declared? = some (program.lookups.map (·.function))

-- What a document describes determines the program.
theorem Shows.of_description {sources : Sources} {settings : Settings} {document : String}
    {device : Device} {program : Program} {description : Description}
    (h : sources.Shows settings document device program)
    (hdescription : Description.ofEvents (Markup.read document).items = description) :
    device = description.device ∧
      ∃ pairs, description.device.blocks.mapM (Tables.typed description.device) = .ok pairs ∧
        program = Program.ofDevice description.device (Tables.build description.device pairs) := by
  obtain ⟨tables, htables, -, rfl⟩ := h.laidOut
  obtain ⟨pairs, hpairs, rfl⟩ := Tables.ofDevice_eq_ok_iff.mp htables
  obtain rfl : device = description.device :=
    hdescription ▸ (Device.read_eq_ok_iff.mp h.read).2
  exact ⟨rfl, pairs, hpairs, rfl⟩

-- Files for a document show the program for what the document describes.
theorem shows_of_ofDocument {settings : Settings} {document : String} {sources : Sources}
    (h : (ofDocument settings document).outcome = .ok sources) :
    ∃ description pairs, description = Description.ofEvents (Markup.read document).items ∧
      settings.Valid ∧ description.device.WellFormed ∧
      description.device.blocks.mapM (Tables.typed description.device) = .ok pairs ∧
      sources.Shows settings document description.device
        (Program.ofDevice description.device (Tables.build description.device pairs)) := by
  obtain ⟨device, hread, hvalid, hsources⟩ := ofDocument_eq_ok_iff.mp h
  obtain ⟨hsettings, tables, htables, hlaid⟩ := ofDevice_eq_ok_iff.mp hsources
  obtain ⟨pairs, hpairs, rfl⟩ := Tables.ofDevice_eq_ok_iff.mp htables
  obtain ⟨-, rfl⟩ := Device.read_eq_ok_iff.mp hread
  have hwell := (Description.device_indexed _).validate_eq_ok_iff.mp hvalid
  have hplain := Settings.validate_eq_ok_iff.mp hsettings
  have hheader := readHeader?_header hwell hpairs hplain
  have hsource := readSource?_source hwell hpairs hplain
  refine ⟨_, pairs, rfl, hplain, hwell, hpairs, hread, ⟨_, htables, hlaid, rfl⟩, ?_, ?_⟩
  · rw [program?, hlaid, hheader, hsource]
    rfl
  · rw [declared?, hlaid, hheader]
    rfl

end Sources

end EffectTables
