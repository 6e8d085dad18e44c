import EffectTables.Proofs.Code.Collisions

namespace EffectTables

namespace Device

-- What a device that was judged sound has, even if its index of block types is out of step.
structure Judged (device : Device) : Prop where
  typeIds : (device.blockTypes.map (·.typeId)).Nodup
  typeSymbols : ∀ type ∈ device.blockTypes, type.symbol ≠ Symbol.noBlockType
  stems : (device.blockTypes.map (·.stem)).Nodup
  parameterIds : ∀ type ∈ device.blockTypes, (type.parameters.map (·.id)).Nodup
  blockIds : (device.blocks.map (·.id)).Nodup
  typed : ∀ block ∈ device.blocks, (device.typeOf? block).isSome
  enumerators : device.enumeratorNames.Nodup

theorem judged_of_validate {device : Device} (h : device.validate = .ok ()) : device.Judged := by
  rw [validate_eq_ok_iff, along_eq_nil_iff blockTypeDefects_eq_nil_iff,
    along_eq_nil_iff (blockDefects_eq_nil_iff device), along_bearerDefects_eq_nil_iff] at h
  obtain ⟨⟨htypes, -, hpairs⟩, ⟨hblocks, -, hblockPairs⟩, hnames⟩ := h
  exact {
    typeIds := List.pairwise_map.mpr (hpairs.imp fun hne => hne.1)
    typeSymbols := fun type htype => (htypes type htype).2.1
    stems := List.pairwise_map.mpr (hpairs.imp fun hne => hne.2.2)
    parameterIds := fun type htype => (htypes type htype).2.2.2.1
    blockIds := List.pairwise_map.mpr (hblockPairs.imp fun hne => hne.1)
    typed := fun block hblock => (hblocks block hblock).2.2
    enumerators := hnames }

end Device

namespace Code

-- The function chooses by the numbers of the enumeration.
def Lookup.SwitchesOn (lookup : Lookup) (enumeration : Enumeration) : Prop :=
  (enumeration.name, lookup.switch.subject) ∈ lookup.function.parameters

namespace Switch

variable {switch : Switch}

theorem resolve_eq_fallback {label : Label} (h : ∀ case ∈ switch.cases, case.label ≠ label) :
    switch.resolve label = switch.fallback := by
  have hnone : switch.cases.find? (·.label == label) = none :=
    List.find?_eq_none.mpr fun case hcase hlabel => h case hcase (eq_of_beq hlabel)
  rw [resolve, lookup?, hnone]
  rfl

theorem resolve_label (h : (switch.cases.map (·.label)).Nodup) {case : Case}
    (hcase : case ∈ switch.cases) : switch.resolve case.label = case.value := by
  rw [resolve, lookup?, Lookup.find?_key_self h hcase]
  rfl

end Switch

namespace Program

variable {program : Program} {switch : Switch} {enumeration : Enumeration}

-- Looking up an enumerator by its name gives what the switch chooses for its number.
def Resolves (program : Program) (switch : Switch) (enumeration : Enumeration) : Prop :=
  ∀ enumerator ∈ enumeration.enumerators, ∀ value,
    program.Chooses switch enumerator.value value ↔
      value = switch.resolve (.symbol enumerator.name)

-- The same for all functions that choose by the numbers of an enumeration.
def ResolvesAll (program : Program) : Prop :=
  ∀ lookup ∈ program.lookups, ∀ enumeration ∈ program.enumerations,
    lookup.SwitchesOn enumeration → program.Resolves lookup.switch enumeration

-- The labels of a switch are enumerators of one enumeration, none of them twice.
structure Labels (program : Program) (switch : Switch) (enumeration : Enumeration) : Prop where
  sublist : (switch.cases.map (·.label)).Sublist
    (enumeration.enumerators.map fun enumerator => .symbol enumerator.name)
  names : (enumeration.enumerators.map (·.name)).Nodup
  numbers : ∀ enumerator ∈ enumeration.enumerators,
    program.number? (.symbol enumerator.name) = some enumerator.value

namespace Labels

theorem nodup (h : program.Labels switch enumeration) :
    (switch.cases.map (·.label)).Nodup := by
  have hnames := h.names.map (f := Label.symbol) fun _ _ => Label.symbol.inj
  rw [List.map_map] at hnames
  exact hnames.sublist h.sublist

theorem exists_enumerator (h : program.Labels switch enumeration) {case : Case}
    (hcase : case ∈ switch.cases) :
    ∃ enumerator ∈ enumeration.enumerators, .symbol enumerator.name = case.label :=
  List.mem_map.mp (h.sublist.subset (List.mem_map_of_mem hcase))

theorem resolve_eq_fallback (h : program.Labels switch enumeration) {enumerator : Enumerator}
    (he : enumerator ∈ enumeration.enumerators)
    (hnone : ∀ case ∈ switch.cases, program.number? case.label ≠ some enumerator.value) :
    switch.resolve (.symbol enumerator.name) = switch.fallback :=
  Switch.resolve_eq_fallback fun case hcase hlabel =>
    hnone case hcase (by rw [hlabel, h.numbers enumerator he])

-- Names and numbers lead to the same values if and only if all names of one number do.
theorem resolves_iff (h : program.Labels switch enumeration) :
    program.Resolves switch enumeration ↔
      ∀ enumerator ∈ enumeration.enumerators, ∀ other ∈ enumeration.enumerators,
        other.value = enumerator.value →
          switch.resolve (.symbol other.name) = switch.resolve (.symbol enumerator.name) := by
  constructor
  · intro hresolves enumerator he other ho hvalue
    apply (hresolves enumerator he _).mp
    rw [← hvalue]
    exact (hresolves other ho _).mpr rfl
  · intro hsame enumerator he value
    -- every case with the number has the value that the name leads to
    have hcase : ∀ case ∈ switch.cases, program.number? case.label = some enumerator.value →
        case.value = switch.resolve (.symbol enumerator.name) := by
      intro case hcase hnumber
      obtain ⟨other, ho, hlabel⟩ := h.exists_enumerator hcase
      rw [← hlabel, h.numbers other ho, Option.some.injEq] at hnumber
      rw [← Switch.resolve_label h.nodup hcase, ← hlabel, hsame enumerator he other ho hnumber]
    constructor
    · intro hchooses
      cases hchooses with
      | matched mem number => exact hcase _ mem number
      | unmatched none => exact (h.resolve_eq_fallback he none).symm
    · rintro rfl
      by_cases hsome : ∃ case ∈ switch.cases, program.number? case.label = some enumerator.value
      · obtain ⟨case, hmem, hnumber⟩ := hsome
        rw [← hcase case hmem hnumber]
        exact .matched hmem hnumber
      · have hnone : ∀ case ∈ switch.cases,
            program.number? case.label ≠ some enumerator.value :=
          fun case hmem hnumber => hsome ⟨case, hmem, hnumber⟩
        rw [h.resolve_eq_fallback he hnone]
        exact .unmatched hnone

section

variable {reserved : List Enumerator} {items : List α} {name : α → String} {key : α → Int32}
  {value? : α → Option Value}

theorem resolve_item (h : program.Labels switch enumeration)
    (hcases : switch.cases = casesOf items (fun item => .symbol (name item)) value?)
    (henumerators : enumeration.enumerators =
      reserved ++ items.map fun item => ⟨name item, key item⟩) {item : α} (hitem : item ∈ items) :
    switch.resolve (.symbol (name item)) = (value? item).getD switch.fallback := by
  have hlabels : (items.map fun item => Label.symbol (name item)).Nodup := by
    have hall := h.names.map (f := Label.symbol) fun _ _ => Label.symbol.inj
    simp only [henumerators, List.map_append, List.map_map] at hall
    exact (List.nodup_append.mp hall).2.1
  rw [Switch.resolve, lookup?_casesOf hcases hlabels hitem]

theorem resolve_reserved (h : program.Labels switch enumeration)
    (hcases : switch.cases = casesOf items (fun item => .symbol (name item)) value?)
    (henumerators : enumeration.enumerators =
      reserved ++ items.map fun item => ⟨name item, key item⟩) {enumerator : Enumerator}
    (he : enumerator ∈ reserved) :
    switch.resolve (.symbol enumerator.name) = switch.fallback := by
  have hall := h.names
  rw [henumerators, List.map_append, List.map_map] at hall
  refine Switch.resolve_eq_fallback fun case hcase hlabel => ?_
  obtain ⟨item, hitem, hsymbol, -⟩ := mem_casesOf.mp (hcases ▸ hcase)
  exact (List.nodup_append.mp hall).2.2 _ (List.mem_map_of_mem he) _
    (List.mem_map_of_mem hitem) (Label.symbol.inj (hsymbol.trans hlabel)).symm

-- Where some reserved enumerators stand before those of the items, an item may have the number of
-- a reserved one only if it leads to the fallback.
theorem resolves_iff_reserved (h : program.Labels switch enumeration)
    (hcases : switch.cases = casesOf items (fun item => .symbol (name item)) value?)
    (henumerators : enumeration.enumerators =
      reserved ++ items.map fun item => ⟨name item, key item⟩)
    (hkeys : (items.map key).Nodup) :
    program.Resolves switch enumeration ↔
      ∀ item ∈ items, ∀ enumerator ∈ reserved, key item = enumerator.value →
        (value? item).getD switch.fallback = switch.fallback := by
  rw [h.resolves_iff]
  have hitem : ∀ item ∈ items, switch.resolve (.symbol (name item)) =
      (value? item).getD switch.fallback :=
    fun _ hitem => h.resolve_item hcases henumerators hitem
  have hreserved : ∀ enumerator ∈ reserved, switch.resolve (.symbol enumerator.name) =
      switch.fallback :=
    fun _ he => h.resolve_reserved hcases henumerators he
  simp only [henumerators, List.forall_mem_append, List.forall_mem_map]
  constructor
  · intro hsame item hi enumerator he hkey
    have hvalue := hsame.1 enumerator he |>.2 item hi hkey
    rwa [hitem item hi, hreserved enumerator he] at hvalue
  · intro hsame
    refine ⟨fun enumerator he => ⟨fun other ho _ => ?_, fun item hi hkey => ?_⟩,
      fun item hi => ⟨fun enumerator he hkey => ?_, fun other ho hkey => ?_⟩⟩
    · rw [hreserved enumerator he, hreserved other ho]
    · rw [hreserved enumerator he, hitem item hi, hsame item hi enumerator he hkey]
    · rw [hreserved enumerator he, hitem item hi, hsame item hi enumerator he hkey.symm]
    · rw [List.inj_on_of_nodup_map hkeys ho hi hkey]

end

end Labels

end Program

section

variable {device : Device} (hjudged : device.Judged)
include hjudged

theorem labels_of_device (tables : Tables) {switch : Switch} {enumeration : Enumeration}
    (henumeration : enumeration ∈ Enumeration.ofDevice device)
    (hsublist : (switch.cases.map (·.label)).Sublist
      (enumeration.enumerators.map fun enumerator => .symbol enumerator.name)) :
    (Program.ofDevice device tables).Labels switch enumeration where
  sublist := hsublist
  names := enumeration_names_nodup hjudged.enumerators henumeration
  numbers _ he := number?_declared hjudged.enumerators tables henumeration he

-- A table over items whose enumerators stand in one enumeration behind some reserved ones.
theorem resolves_device_iff (tables : Tables) (reserved : List Enumerator) {switch : Switch}
    {enumeration : Enumeration} {items : List α} {name : α → String} {key : α → Int32}
    {value? : α → Option Value} (henumeration : enumeration ∈ Enumeration.ofDevice device)
    (hcases : switch.cases = casesOf items (fun item => .symbol (name item)) value?)
    (henumerators : enumeration.enumerators =
      reserved ++ items.map fun item => ⟨name item, key item⟩)
    (hkeys : (items.map key).Nodup) :
    (Program.ofDevice device tables).Resolves switch enumeration ↔
      ∀ item ∈ items, ∀ enumerator ∈ reserved, key item = enumerator.value →
        (value? item).getD switch.fallback = switch.fallback := by
  have hsublist : (switch.cases.map (·.label)).Sublist
      (enumeration.enumerators.map fun enumerator => .symbol enumerator.name) := by
    rw [hcases, henumerators, List.map_append, List.map_map]
    exact (labels_sublist items _ value?).trans (List.sublist_append_right _ _)
  exact (labels_of_device hjudged tables henumeration hsublist).resolves_iff_reserved hcases
    henumerators hkeys

theorem resolves_blockTypeTable_iff (tables : Tables) {pairs : List (Block × BlockType)}
    (hpairs : device.blocks.mapM (Tables.typed device) = .ok pairs) :
    (Program.ofDevice device tables).Resolves (Tables.blockTypeTable pairs).switch
        (Enumeration.ofBlocks device.blocks) ↔
      ∀ block ∈ device.blocks, block.id ≠ 0 ∧ block.id ≠ 200 := by
  have hmem : Enumeration.ofBlocks device.blocks ∈ Enumeration.ofDevice device :=
    List.mem_cons_of_mem _ List.mem_cons_self
  rw [resolves_device_iff hjudged tables [⟨Symbol.noBlock, 0⟩, ⟨Symbol.shunt, 200⟩] hmem
    (Tables.blockTypeTable_cases hpairs) rfl hjudged.blockIds]
  refine forall₂_congr fun block hblock => ?_
  obtain ⟨type, htype⟩ := Option.isSome_iff_exists.mp (hjudged.typed block hblock)
  have hne : Value.symbol type.symbol ≠ .symbol Symbol.noBlockType := fun he =>
    hjudged.typeSymbols type (Tables.mem_blockTypes_of_typeOf? htype) (Value.symbol.inj he)
  simp [htype, hne, Tables.blockTypeTable]

theorem resolves_blockNameTable (tables : Tables)
    (hfree : ∀ block ∈ device.blocks, block.id ≠ 0 ∧ block.id ≠ 200) :
    (Program.ofDevice device tables).Resolves (Tables.blockNameTable device.blocks).switch
      (Enumeration.ofBlocks device.blocks) := by
  have hmem : Enumeration.ofBlocks device.blocks ∈ Enumeration.ofDevice device :=
    List.mem_cons_of_mem _ List.mem_cons_self
  rw [resolves_device_iff hjudged tables [⟨Symbol.noBlock, 0⟩, ⟨Symbol.shunt, 200⟩] hmem
    (Tables.blockNameTable_cases device.blocks) rfl hjudged.blockIds]
  intro block hblock
  simp [hfree block hblock]

-- Three functions choose by the number of a block type.
theorem resolves_types_iff (tables : Tables) {switch : Switch}
    {value? : BlockType → Option Value}
    (hcases : switch.cases =
      casesOf device.blockTypes (fun type => .symbol type.symbol) value?) :
    (Program.ofDevice device tables).Resolves switch
        (Enumeration.ofBlockTypes device.blockTypes) ↔
      ∀ type ∈ device.blockTypes, type.typeId = -1 →
        (value? type).getD switch.fallback = switch.fallback := by
  rw [resolves_device_iff hjudged tables [⟨Symbol.noBlockType, -1⟩] List.mem_cons_self hcases rfl
    hjudged.typeIds]
  simp

theorem resolves_typeParameterNameTable (tables : Tables) {type : BlockType}
    (htype : type ∈ device.blockTypes) :
    (Program.ofDevice device tables).Resolves (Tables.typeParameterNameTable type).switch
      (Enumeration.ofParameters type) := by
  have hmem : Enumeration.ofParameters type ∈ Enumeration.ofDevice device :=
    List.mem_cons_of_mem _ (List.mem_cons_of_mem _ (List.mem_map_of_mem htype))
  rw [resolves_device_iff hjudged tables [] hmem
    (Tables.typeParameterNameTable_cases type) rfl (hjudged.parameterIds type htype)]
  simp

-- An enumeration is known by its name.
theorem eq_of_switchesOn {lookup : Lookup} {enumeration other : Enumeration}
    (henumeration : enumeration ∈ Enumeration.ofDevice device)
    (hother : other ∈ Enumeration.ofDevice device) (hswitches : lookup.SwitchesOn enumeration)
    (honly : ∀ name, (name, lookup.switch.subject) ∈ lookup.function.parameters →
      name = other.name) : enumeration = other :=
  List.inj_on_of_nodup_map (enumerationNames_nodup hjudged.stems) henumeration hother
    (honly enumeration.name hswitches)

end

-- No enumeration is called as the built-in type.
theorem not_switchesOn_catalogTable {device : Device} {enumeration : Enumeration}
    (henumeration : enumeration ∈ Enumeration.ofDevice device) (name : String)
    (catalog : Catalog) : ¬ (Tables.catalogTable name catalog).SwitchesOn enumeration := by
  intro hswitches
  have hname : enumeration.name = "int" := by
    simpa [Lookup.SwitchesOn, Tables.catalogTable] using hswitches
  have hmem : enumeration.name ∈ (Enumeration.ofDevice device).map (·.name) :=
    List.mem_map_of_mem henumeration
  rw [enumerationNames_eq, hname, List.mem_append, List.mem_map] at hmem
  rcases hmem with hcommon | ⟨type, -, henum⟩
  · exact absurd hcommon (by decide)
  · have hsuffix := type.parameterEnum_suffix
    rw [henum] at hsuffix
    exact absurd hsuffix (by decide)

end Code

namespace Device

-- No block has the number of a reserved enumerator, and a block type has it only if there is
-- nothing to tell of it.
def NumbersApart (device : Device) : Prop :=
  (∀ block ∈ device.blocks, block.id ≠ 0 ∧ block.id ≠ 200) ∧
    ∀ type ∈ device.blockTypes, type.typeId = -1 → type.name = "" ∧ type.parameters = []

end Device

namespace Code

theorem resolvesAll_iff {device : Device} (hjudged : device.Judged)
    {pairs : List (Block × BlockType)}
    (hpairs : device.blocks.mapM (Tables.typed device) = .ok pairs) :
    (Program.ofDevice device (Tables.build device pairs)).ResolvesAll ↔ device.NumbersApart := by
  have hblocks : Enumeration.ofBlocks device.blocks ∈ Enumeration.ofDevice device :=
    List.mem_cons_of_mem _ List.mem_cons_self
  have htypes : Enumeration.ofBlockTypes device.blockTypes ∈ Enumeration.ofDevice device :=
    List.mem_cons_self
  have hname := resolves_types_iff hjudged (Tables.build device pairs)
    (Tables.blockTypeNameTable_cases device.blockTypes)
  have hparameter := resolves_types_iff hjudged (Tables.build device pairs)
    (Tables.parameterNameTable_cases device.blockTypes)
  constructor
  · intro h
    have hlookup := fun lookup hlookup => h lookup (Tables.mem_build_lookups_iff.mpr hlookup)
    refine ⟨?_, fun type htype hid => ⟨?_, ?_⟩⟩
    · apply (resolves_blockTypeTable_iff hjudged _ hpairs).mp
      exact hlookup _ (.inl rfl) _ hblocks List.mem_cons_self
    · have hresolves := hname.mp
        (hlookup _ (.inr (.inl rfl)) _ htypes List.mem_cons_self) type htype hid
      exact Value.text.inj hresolves
    · have hresolves := hparameter.mp
        (hlookup _ (.inr (.inr (.inr (.inr (.inl rfl))))) _ htypes List.mem_cons_self)
        type htype hid
      by_contra hne
      simp [hne, Tables.parameterNameTable] at hresolves
  · intro h lookup hlookup enumeration henumeration hswitches
    obtain ⟨hfree, hempty⟩ := h
    rcases Tables.mem_build_lookups_iff.mp hlookup with
      rfl | rfl | rfl | rfl | rfl | rfl | rfl | ⟨type, htype, rfl⟩
    · obtain rfl := eq_of_switchesOn hjudged henumeration hblocks hswitches
        (by simp [Tables.blockTypeTable, Enumeration.ofBlocks])
      exact (resolves_blockTypeTable_iff hjudged _ hpairs).mpr hfree
    · obtain rfl := eq_of_switchesOn hjudged henumeration htypes hswitches
        (by simp [Tables.blockTypeNameTable, Enumeration.ofBlockTypes])
      exact hname.mpr fun type htype hid => congrArg Value.text (hempty type htype hid).1
    · obtain rfl := eq_of_switchesOn hjudged henumeration hblocks hswitches
        (by simp [Tables.blockNameTable, Enumeration.ofBlocks])
      exact resolves_blockNameTable hjudged _ hfree
    · obtain rfl := eq_of_switchesOn hjudged henumeration htypes hswitches
        (by simp [Tables.bypassIdTable, Enumeration.ofBlockTypes])
      refine (resolves_types_iff hjudged _ (Tables.bypassIdTable_cases _)).mpr ?_
      intro type htype hid
      simp [BlockType.bypassId?, hempty type htype hid]
    · obtain rfl := eq_of_switchesOn hjudged henumeration htypes hswitches
        (by simp [Tables.parameterNameTable, Enumeration.ofBlockTypes])
      refine hparameter.mpr fun type htype hid => ?_
      simp [hempty type htype hid]
    · exact absurd hswitches (not_switchesOn_catalogTable henumeration _ _)
    · exact absurd hswitches (not_switchesOn_catalogTable henumeration _ _)
    · have hmem : Enumeration.ofParameters type ∈ Enumeration.ofDevice device :=
        List.mem_cons_of_mem _ (List.mem_cons_of_mem _ (List.mem_map_of_mem htype))
      obtain rfl := eq_of_switchesOn hjudged henumeration hmem hswitches
        (by simp [Tables.typeParameterNameTable, Enumeration.ofParameters])
      exact resolves_typeParameterNameTable hjudged _ htype

-- In the code for a device that was judged sound, names and numbers lead to the same values if and
-- only if no number in use is a reserved one.
theorem resolvesAll_iff_of_validate {device : Device} (h : device.validate = .ok ()) :
    ∃ tables, Tables.ofDevice device = .ok tables ∧
      ((Program.ofDevice device tables).ResolvesAll ↔ device.NumbersApart) := by
  have hjudged := Device.judged_of_validate h
  obtain ⟨pairs, hpairs⟩ := Tables.exists_typed hjudged.typed
  have htables := Tables.ofDevice_eq_ok_iff.mpr ⟨pairs, hpairs, rfl⟩
  exact ⟨Tables.build device pairs, htables, resolvesAll_iff hjudged hpairs⟩

end Code

namespace Device

-- A block of a type with one parameter.
def oneDelay : Device :=
  ofAdditions [.block { id := 112, name := "Delay 1", typeId := 9 },
    .blockType { typeId := 9, name := "Delay", parameters := [⟨"TIME", 0, false⟩] }]

-- A block with the number of the slot of the shunt.
def shuntedAmp : Device :=
  ofAdditions [.block { id := 200, name := "Shunt Amp", typeId := 5 },
    .blockType { typeId := 5, name := "Amp", parameters := [⟨"GAIN", 1, false⟩] }]

end Device

namespace Code

theorem resolvesAll_iff_oneDelay :
    Device.oneDelay.validate = .ok () ∧ ∃ tables, Tables.ofDevice Device.oneDelay = .ok tables ∧
      ((Program.ofDevice Device.oneDelay tables).ResolvesAll ↔
        Device.oneDelay.NumbersApart) := by
  have hvalid : Device.oneDelay.validate = .ok () := by decide +kernel
  exact ⟨hvalid, resolvesAll_iff_of_validate hvalid⟩

theorem not_resolvesAll_shuntedAmp :
    Device.shuntedAmp.validate = .ok () ∧
      ∃ tables, Tables.ofDevice Device.shuntedAmp = .ok tables ∧
        ¬ (Program.ofDevice Device.shuntedAmp tables).ResolvesAll := by
  have hvalid : Device.shuntedAmp.validate = .ok () := by decide +kernel
  have hjudged := Device.judged_of_validate hvalid
  obtain ⟨pairs, hpairs⟩ := Tables.exists_typed hjudged.typed
  refine ⟨hvalid, _, Tables.ofDevice_eq_ok_iff.mpr ⟨pairs, hpairs, rfl⟩, fun hall => ?_⟩
  have hfree := ((resolvesAll_iff hjudged hpairs).mp hall).1
  exact (hfree { id := 200, name := "Shunt Amp", typeId := 5 } List.mem_cons_self).2 rfl

end Code

end EffectTables
