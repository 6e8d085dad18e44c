import EffectTables.Device.Defect
import EffectTables.Proofs.Device.Additions
import Mathlib.Data.List.Nodup
import Mathlib.Tactic.Tauto

namespace EffectTables.Device

-- The names of all enumerators that a header for the device declares.
def enumeratorNames (device : Device) : List String :=
  [Symbol.noBlockType, Symbol.noBlock, Symbol.shunt] ++ device.blockTypes.map (·.symbol) ++
    device.blocks.map (·.symbol) ++
    device.blockTypes.flatMap fun type => type.parameters.map (·.name)

-- Sound tables can be generated for the device. No part of this depends on the order in which
-- blocks, block types and parameters stand.
structure WellFormed (device : Device) : Prop where
  typeIds : (device.blockTypes.map (·.typeId)).Nodup
  typeNames : ∀ type ∈ device.blockTypes,
    Symbol.isIdentifier type.symbol ∧ Symbol.isIdentifier type.stem
  stems : (device.blockTypes.map (·.stem)).Nodup
  parameterNames : ∀ type ∈ device.blockTypes, ∀ parameter ∈ type.parameters,
    Symbol.isIdentifier parameter.name
  parameterIds : ∀ type ∈ device.blockTypes, (type.parameters.map (·.id)).Nodup
  blockIds : (device.blocks.map (·.id)).Nodup
  blockNames : ∀ block ∈ device.blocks, Symbol.isIdentifier block.symbol
  typed : ∀ block ∈ device.blocks, ∃ type ∈ device.blockTypes, type.typeId = block.typeId
  enumerators : device.enumeratorNames.Nodup

-- A check that finds fault with single items and with pairs of items finds nothing along a list
-- if and only if it finds nothing at any item and at any pair.
theorem along_eq_nil_iff {check : List α → α → List β} {single : α → Prop} {pair : α → α → Prop}
    (hcheck : ∀ before item, check before item = [] ↔
      single item ∧ ∀ other ∈ before, pair other item)
    (before items : List α) :
    along check before items = [] ↔
      (∀ item ∈ items, single item) ∧ (∀ item ∈ items, ∀ other ∈ before, pair other item) ∧
        items.Pairwise pair := by
  induction items generalizing before with
  | nil => simp [along]
  | cons item rest ih =>
      simp only [along, List.append_eq_nil_iff, hcheck, ih, List.forall_mem_cons,
        List.pairwise_cons]
      constructor
      · intro h
        obtain ⟨⟨hs, hp⟩, hss, hpp, hrest⟩ := h
        exact ⟨⟨hs, hss⟩, ⟨hp, fun x hx => (hpp x hx).2⟩, fun x hx => (hpp x hx).1, hrest⟩
      · intro h
        obtain ⟨⟨hs, hss⟩, ⟨hp, hpp⟩, hfirst, hrest⟩ := h
        exact ⟨⟨hs, hp⟩, hss, fun x hx => ⟨hfirst x hx, hpp x hx⟩, hrest⟩

private theorem nodup_map_iff {key : α → β} {items : List α} :
    (items.map key).Nodup ↔ items.Pairwise fun a b => key a ≠ key b :=
  List.pairwise_map

-- What a search among the items before finds.
private theorem find?_toList_map_eq_nil [DecidableEq κ] {key : α → κ} {before : List α} {item : α}
    {report : α → β} :
    (before.find? fun other => key other == key item).toList.map report = [] ↔
      ∀ other ∈ before, key other ≠ key item := by
  simp

theorem parameterDefects_eq_nil_iff (blockType : String) (before : List Parameter)
    (parameter : Parameter) :
    parameterDefects blockType before parameter = [] ↔
      Symbol.isIdentifier parameter.name ∧
        ∀ other ∈ before, other.id ≠ parameter.id ∧ other.name ≠ parameter.name := by
  simp [parameterDefects, forall_and]

theorem along_parameterDefects_eq_nil_iff (blockType : String) (parameters : List Parameter) :
    along (parameterDefects blockType) [] parameters = [] ↔
      (∀ parameter ∈ parameters, Symbol.isIdentifier parameter.name) ∧
        (parameters.map (·.id)).Nodup ∧ (parameters.map (·.name)).Nodup := by
  rw [along_eq_nil_iff (parameterDefects_eq_nil_iff blockType), List.pairwise_and_iff,
    nodup_map_iff, nodup_map_iff]
  simp

-- What is asked of a block type by itself.
def SoundType (type : BlockType) : Prop :=
  (Symbol.isIdentifier type.symbol ∧ Symbol.isIdentifier type.stem) ∧
    type.symbol ≠ Symbol.noBlockType ∧
    (∀ parameter ∈ type.parameters, Symbol.isIdentifier parameter.name) ∧
    (type.parameters.map (·.id)).Nodup ∧ (type.parameters.map (·.name)).Nodup

theorem blockTypeDefects_eq_nil_iff (before : List BlockType) (type : BlockType) :
    blockTypeDefects before type = [] ↔
      SoundType type ∧ ∀ other ∈ before,
        other.typeId ≠ type.typeId ∧ other.symbol ≠ type.symbol ∧ other.stem ≠ type.stem := by
  simp only [blockTypeDefects, List.append_eq_nil_iff, find?_toList_map_eq_nil,
    along_parameterDefects_eq_nil_iff, SoundType, forall_and]
  simp
  tauto

-- What is asked of a block by itself, given the device it belongs to.
def SoundBlock (device : Device) (block : Block) : Prop :=
  Symbol.isIdentifier block.symbol ∧ (block.symbol ≠ Symbol.noBlock ∧ block.symbol ≠ Symbol.shunt) ∧
    (device.typeOf? block).isSome

theorem blockDefects_eq_nil_iff (device : Device) (before : List Block) (block : Block) :
    blockDefects device before block = [] ↔
      SoundBlock device block ∧
        ∀ other ∈ before, other.id ≠ block.id ∧ other.symbol ≠ block.symbol := by
  simp only [blockDefects, List.append_eq_nil_iff, find?_toList_map_eq_nil, SoundBlock,
    Option.isSome_iff_ne_none, forall_and]
  simp
  tauto

theorem bearerDefects_eq_nil_iff (before : List Bearer) (bearer : Bearer) :
    bearerDefects before bearer = [] ↔
      True ∧ ∀ other ∈ before, other.symbol ≠ bearer.symbol := by
  rw [bearerDefects, find?_toList_map_eq_nil, true_and]

theorem enumeratorNames_eq (device : Device) :
    device.enumeratorNames = reservedBearers.map (·.symbol) ++ device.bearers.map (·.symbol) := by
  simp [enumeratorNames, reservedBearers, bearers, List.map_flatMap, Function.comp_def]

-- The search for shared names finds nothing if and only if no name occurs twice.
theorem along_bearerDefects_eq_nil_iff (device : Device) :
    along bearerDefects reservedBearers device.bearers = [] ↔ device.enumeratorNames.Nodup := by
  have hreserved : (reservedBearers.map (·.symbol)).Nodup := by decide
  rw [along_eq_nil_iff bearerDefects_eq_nil_iff, enumeratorNames_eq, List.nodup_append,
    ← nodup_map_iff]
  simp only [hreserved, implies_true, true_and, List.forall_mem_map]
  constructor
  · intro h
    obtain ⟨hacross, hwithin⟩ := h
    exact ⟨hwithin, fun other ho bearer hb => hacross bearer hb other ho⟩
  · intro h
    obtain ⟨hwithin, hacross⟩ := h
    exact ⟨fun bearer hb other ho => hacross other ho bearer hb, hwithin⟩

theorem validate_eq_ok_iff (device : Device) :
    device.validate = .ok () ↔
      along blockTypeDefects [] device.blockTypes = [] ∧
        along (blockDefects device) [] device.blocks = [] ∧
        along bearerDefects reservedBearers device.bearers = [] := by
  rw [← List.append_eq_nil_iff, ← List.append_eq_nil_iff, ← List.append_assoc]
  show device.validate = .ok () ↔ device.defects = []
  unfold validate
  cases device.defects <;> simp

namespace WellFormed

variable {device : Device}

theorem typeSymbols (h : device.WellFormed) : (device.blockTypes.map (·.symbol)).Nodup := by
  have hn := h.enumerators
  simp only [enumeratorNames, List.nodup_append] at hn
  exact hn.1.1.2.1

theorem blockSymbols (h : device.WellFormed) : (device.blocks.map (·.symbol)).Nodup := by
  have hn := h.enumerators
  simp only [enumeratorNames, List.nodup_append] at hn
  exact hn.1.2.1

theorem parameterNames_nodup (h : device.WellFormed) {type : BlockType}
    (ht : type ∈ device.blockTypes) : (type.parameters.map (·.name)).Nodup := by
  have hn := h.enumerators
  simp only [enumeratorNames, List.nodup_append] at hn
  exact (List.nodup_flatMap.mp hn.2.1).1 type ht

theorem typeSymbol_ne (h : device.WellFormed) {type : BlockType} (ht : type ∈ device.blockTypes) :
    type.symbol ≠ Symbol.noBlockType := by
  have hn := h.enumerators
  simp only [enumeratorNames, List.nodup_append] at hn
  exact (hn.1.1.2.2 _ (by simp) _ (List.mem_map_of_mem ht)).symm

theorem blockSymbol_ne (h : device.WellFormed) {block : Block} (hb : block ∈ device.blocks) :
    block.symbol ≠ Symbol.noBlock ∧ block.symbol ≠ Symbol.shunt := by
  have hn := h.enumerators
  simp only [enumeratorNames, List.nodup_append] at hn
  have hne := fun name hname => hn.1.2.2 name hname _ (List.mem_map_of_mem hb)
  exact ⟨(hne _ (by simp)).symm, (hne _ (by simp)).symm⟩

end WellFormed

theorem Indexed.soundBlock_iff {device : Device} (h : device.Indexed) (block : Block) :
    SoundBlock device block ↔
      Symbol.isIdentifier block.symbol ∧
        (block.symbol ≠ Symbol.noBlock ∧ block.symbol ≠ Symbol.shunt) ∧
        ∃ type ∈ device.blockTypes, type.typeId = block.typeId := by
  rw [SoundBlock, h.typeOf?_isSome_iff]

-- The three passes over a device accept exactly the well-formed ones.
theorem Indexed.validate_eq_ok_iff {device : Device} (h : device.Indexed) :
    device.validate = .ok () ↔ device.WellFormed := by
  rw [Device.validate_eq_ok_iff, along_eq_nil_iff blockTypeDefects_eq_nil_iff,
    along_eq_nil_iff (blockDefects_eq_nil_iff device), along_bearerDefects_eq_nil_iff]
  simp only [h.soundBlock_iff, SoundType, List.pairwise_and_iff, ← nodup_map_iff, List.not_mem_nil,
    false_imp_iff, implies_true, true_and]
  constructor
  · intro hall
    obtain ⟨⟨htypes, hids, -, hstems⟩, ⟨hblocks, hblockIds, -⟩, hnames⟩ := hall
    exact {
      typeIds := hids
      typeNames := fun type ht => (htypes type ht).1
      stems := hstems
      parameterNames := fun type ht => (htypes type ht).2.2.1
      parameterIds := fun type ht => (htypes type ht).2.2.2.1
      blockIds := hblockIds
      blockNames := fun block hb => (hblocks block hb).1
      typed := fun block hb => (hblocks block hb).2.2
      enumerators := hnames }
  · intro hw
    refine ⟨⟨fun type ht => ?_, hw.typeIds, hw.typeSymbols, hw.stems⟩,
      ⟨fun block hb => ?_, hw.blockIds, hw.blockSymbols⟩, hw.enumerators⟩
    · exact ⟨hw.typeNames type ht, hw.typeSymbol_ne ht, hw.parameterNames type ht,
        hw.parameterIds type ht, hw.parameterNames_nodup ht⟩
    · exact ⟨hw.blockNames block hb, hw.blockSymbol_ne hb, hw.typed block hb⟩

end EffectTables.Device
