import EffectTables.Proofs.Code.Contents

namespace EffectTables

namespace Group

theorem marked_eq_unmarked {bypass : Option Int32} {parameters : List (Int32 × String)}
    (h : ∀ entry ∈ parameters, bypass ≠ some entry.1) :
    marked bypass parameters = unmarked parameters := by
  induction parameters with
  | nil => rfl
  | cons entry rest ih =>
      obtain ⟨hentry, hrest⟩ := List.forall_mem_cons.mp h
      rw [marked, if_neg hentry, ih hrest]
      rfl

-- A bypass parameter that is not there marks nothing.
theorem blockType_parameters (group : Group) :
    group.blockType.parameters = marked group.bypassId? group.parameters := by
  rw [blockType, bypassId?]
  cases hbypass : group.bypass with
  | none => rfl
  | some id =>
      rw [Option.filter_some]
      split
      next => rfl
      next hany =>
        have hid : ∀ entry ∈ group.parameters, some id ≠ some entry.1 := by
          rintro entry hentry ⟨⟩
          exact hany (List.any_eq_true.mpr ⟨entry, hentry, beq_self_eq_true _⟩)
        have hnone : ∀ entry ∈ group.parameters, (none : Option Int32) ≠ some entry.1 := by simp
        rw [marked_eq_unmarked hid, marked_eq_unmarked hnone]

-- A block type is known from its id, its name, its parameters and its bypass parameter.
theorem blockType_ext {group other : Group} (htypeId : group.typeId = other.typeId)
    (hname : group.name = other.name) (hparameters : group.parameters = other.parameters)
    (hbypass : group.bypassId? = other.bypassId?) : group.blockType = other.blockType := by
  have hmarked : group.blockType.parameters = other.blockType.parameters := by
    rw [blockType_parameters, blockType_parameters, hparameters, hbypass]
  simp only [blockType] at hmarked ⊢
  rw [hmarked, htypeId, hname]

end Group

-- Where two lists agree in a key, the items at one place do.
theorem key_eq_of_map_eq {key otherKey : α → β} {items others : List α}
    (h : items.map key = others.map otherKey) {i : Nat} (hitem : i < items.length)
    (hother : i < others.length) : key items[i] = otherKey others[i] := by
  have hplace := congrArg (·[i]?) h
  simpa [hitem, hother] using hplace

theorem length_eq_of_map_eq {key : α → β} {items others : List α}
    (h : items.map key = others.map key) : items.length = others.length := by
  simpa using congrArg List.length h

-- What holds at all places holds of the lists.
theorem map_eq_of_getElem {key : α → β} {items others : List α}
    (hlength : items.length = others.length)
    (h : ∀ (i : Nat) (hitem : i < items.length) (hother : i < others.length),
      key items[i] = key others[i]) : items.map key = others.map key := by
  refine List.ext_getElem (by simpa using hlength) fun i hitem hother => ?_
  rw [List.length_map] at hitem hother
  rw [List.getElem_map, List.getElem_map]
  exact h i hitem hother

theorem Group.map_blockType_eq {groups others : List Group}
    (htypeIds : groups.map (·.typeId) = others.map (·.typeId))
    (hnames : groups.map (·.name) = others.map (·.name))
    (hparameters : groups.map (·.parameters) = others.map (·.parameters))
    (hbypasses : groups.map (·.bypassId?) = others.map (·.bypassId?)) :
    groups.map blockType = others.map blockType := by
  refine map_eq_of_getElem (length_eq_of_map_eq htypeIds) fun i hgroup hother => ?_
  exact blockType_ext (key_eq_of_map_eq htypeIds hgroup hother)
    (key_eq_of_map_eq hnames hgroup hother) (key_eq_of_map_eq hparameters hgroup hother)
    (key_eq_of_map_eq hbypasses hgroup hother)

theorem Slot.map_block_eq {slots others : List Slot} (hids : slots.map (·.id) = others.map (·.id))
    (hnames : slots.map (·.name) = others.map (·.name))
    (htypeIds : slots.map (·.typeId) = others.map (·.typeId)) :
    slots.map block = others.map block := by
  refine map_eq_of_getElem (length_eq_of_map_eq hids) fun i hslot hother => ?_
  rw [block, block, key_eq_of_map_eq hids hslot hother, key_eq_of_map_eq hnames hslot hother,
    key_eq_of_map_eq htypeIds hslot hother]

-- The type of a block is known from its symbol.
theorem Device.typeId_eq_of_typeOf? {device other : Device} (hdevice : device.Indexed)
    (hother : other.Indexed) (htypes : device.blockTypes = other.blockTypes)
    (hsymbols : (device.blockTypes.map (·.symbol)).Nodup) {one another : Block}
    (hone : (device.typeOf? one).isSome)
    (h : (device.typeOf? one).map (·.symbol) = (other.typeOf? another).map (·.symbol)) :
    one.typeId = another.typeId := by
  obtain ⟨type, htype⟩ := Option.isSome_iff_exists.mp hone
  rw [htype, Option.map_some, eq_comm, Option.map_eq_some_iff] at h
  obtain ⟨found, hfound, hsymbol⟩ := h
  have hmem := Code.Tables.mem_blockTypes_of_typeOf? htype
  have hmemFound := Code.Tables.mem_blockTypes_of_typeOf? hfound
  obtain rfl := List.inj_on_of_nodup_map hsymbols (htypes ▸ hmemFound) hmem hsymbol
  rw [typeOf?, hdevice.last] at htype
  rw [typeOf?, hother.last] at hfound
  have hfirst := List.find?_some htype
  have hsecond := List.find?_some hfound
  exact (eq_of_beq hfirst).symm.trans (eq_of_beq hsecond)

namespace Code

-- The enumerations show symbols and ids.
theorem Enumeration.ofBlockTypes_inj {types others : List BlockType}
    (h : ofBlockTypes types = ofBlockTypes others) :
    types.map (·.symbol) = others.map (·.symbol) ∧
      types.map (·.typeId) = others.map (·.typeId) := by
  have hnames := congrArg (·.enumerators.tail.map (·.name)) h
  have hvalues := congrArg (·.enumerators.tail.map (·.value)) h
  simp only [ofBlockTypes, List.tail_cons, List.map_map] at hnames hvalues
  exact ⟨hnames, hvalues⟩

theorem Enumeration.ofBlocks_inj {blocks others : List Block}
    (h : ofBlocks blocks = ofBlocks others) :
    blocks.map (·.symbol) = others.map (·.symbol) ∧ blocks.map (·.id) = others.map (·.id) := by
  have hnames := congrArg (·.enumerators.tail.tail.map (·.name)) h
  have hvalues := congrArg (·.enumerators.tail.tail.map (·.value)) h
  simp only [ofBlocks, List.tail_cons, List.map_map] at hnames hvalues
  exact ⟨hnames, hvalues⟩

theorem Enumeration.ofParameters_inj {groups others : List Group}
    (h : (groups.map Group.blockType).map ofParameters =
      (others.map Group.blockType).map ofParameters) :
    groups.map (·.parameters) = others.map (·.parameters) := by
  have hpairs : ∀ group : Group, (ofParameters group.blockType).enumerators.map
      (fun enumerator => (enumerator.value, enumerator.name)) = group.parameters := by
    intro group
    simp only [ofParameters, List.map_map]
    exact group.blockType_pairs
  have hall := congrArg (List.map fun enumeration : Enumeration =>
    enumeration.enumerators.map fun enumerator => (enumerator.value, enumerator.name)) h
  simpa [Function.comp_def, hpairs] using hall

-- What is written as the values of the items can be read back from the cases.
theorem keys_eq_of_casesOf {α κ : Type} {switch other : Switch} {items others : List α}
    {name : α → String} {key otherKey : α → κ} {write : κ → Option Value}
    (hwrite : Function.Injective write) (hswitch : switch = other)
    (hcases : switch.cases =
      casesOf items (fun item => .symbol (name item)) fun item => write (key item))
    (hothers : other.cases =
      casesOf others (fun item => .symbol (name item)) fun item => write (otherKey item))
    (hnames : items.map name = others.map name) (hnodup : (items.map name).Nodup) :
    items.map key = others.map otherKey := by
  have hlabels : items.map (fun item => Label.symbol (name item)) =
      others.map fun item => Label.symbol (name item) := by
    simpa [Function.comp_def] using congrArg (List.map Label.symbol) hnames
  have hlabelsNodup : (items.map fun item => Label.symbol (name item)).Nodup := by
    simpa [Function.comp_def] using hnodup.map (f := Label.symbol) fun _ _ => Label.symbol.inj
  have hvalues := values_eq_of_casesOf hcases (hswitch ▸ hothers) hlabels hlabelsNodup
  apply List.map_injective_iff.mpr hwrite
  simpa [Function.comp_def] using hvalues

end Code

namespace Description

open Code

variable {description other : Description} {pairs others : List (Block × BlockType)}

-- The enumerations and two functions show all about the block types.
theorem blockTypes_eq (hwell : description.device.WellFormed)
    (henumerations : Enumeration.ofDevice description.device = Enumeration.ofDevice other.device)
    (hnames : (Tables.blockTypeNameTable description.device.blockTypes).switch =
      (Tables.blockTypeNameTable other.device.blockTypes).switch)
    (hbypasses : (Tables.bypassIdTable description.device.blockTypes).switch =
      (Tables.bypassIdTable other.device.blockTypes).switch) :
    description.device.blockTypes = other.device.blockTypes := by
  simp only [Enumeration.ofDevice, List.cons.injEq] at henumerations
  obtain ⟨htypes, -, hparameters⟩ := henumerations
  obtain ⟨hsymbols, htypeIds⟩ := Enumeration.ofBlockTypes_inj htypes
  have hnodup := hwell.typeSymbols
  have hname := keys_eq_of_casesOf (fun _ _ h => Value.text.inj (Option.some.inj h)) hnames
    (Tables.blockTypeNameTable_cases _) (Tables.blockTypeNameTable_cases _) hsymbols hnodup
  have hbypass := keys_eq_of_casesOf (Option.map_injective fun _ _ => Value.number.inj) hbypasses
    (Tables.bypassIdTable_cases _) (Tables.bypassIdTable_cases _) hsymbols hnodup
  rw [device_blockTypes, device_blockTypes] at htypeIds hparameters hname hbypass ⊢
  simp only [List.map_map, Function.comp_def, Group.blockType_bypassId?] at htypeIds hname hbypass
  exact Group.map_blockType_eq htypeIds hname (Enumeration.ofParameters_inj hparameters) hbypass

-- The enumerations and two functions show all about the blocks, once the block types are known.
theorem blocks_eq (hwell : description.device.WellFormed)
    (htypes : description.device.blockTypes = other.device.blockTypes)
    (hpairs : description.device.blocks.mapM (Tables.typed description.device) = .ok pairs)
    (hothers : other.device.blocks.mapM (Tables.typed other.device) = .ok others)
    (henumerations : Enumeration.ofDevice description.device = Enumeration.ofDevice other.device)
    (hnames : (Tables.blockNameTable description.device.blocks).switch =
      (Tables.blockNameTable other.device.blocks).switch)
    (htyped : (Tables.blockTypeTable pairs).switch = (Tables.blockTypeTable others).switch) :
    description.device.blocks = other.device.blocks := by
  simp only [Enumeration.ofDevice, List.cons.injEq] at henumerations
  obtain ⟨-, hblocks, -⟩ := henumerations
  obtain ⟨hsymbols, hids⟩ := Enumeration.ofBlocks_inj hblocks
  have hnodup := hwell.blockSymbols
  have hname := keys_eq_of_casesOf (fun _ _ h => Value.text.inj (Option.some.inj h)) hnames
    (Tables.blockNameTable_cases _) (Tables.blockNameTable_cases _) hsymbols hnodup
  have htypeSymbols : description.device.blocks.map
      (fun block => (description.device.typeOf? block).map (·.symbol)) =
        other.device.blocks.map fun block => (other.device.typeOf? block).map (·.symbol) := by
    refine keys_eq_of_casesOf (Option.map_injective fun _ _ => Value.symbol.inj) htyped ?_ ?_
      hsymbols hnodup
    · simpa [Function.comp_def] using Tables.blockTypeTable_cases hpairs
    · simpa [Function.comp_def] using Tables.blockTypeTable_cases hothers
  have htypeId : description.device.blocks.map (·.typeId) = other.device.blocks.map (·.typeId) := by
    refine map_eq_of_getElem (length_eq_of_map_eq hids) fun i hblock hother => ?_
    refine Device.typeId_eq_of_typeOf? description.device_indexed other.device_indexed htypes
      hwell.typeSymbols ?_ (key_eq_of_map_eq htypeSymbols hblock hother)
    exact (description.device_indexed.typeOf?_isSome_iff _).mpr
      (hwell.typed _ (List.getElem_mem hblock))
  rw [device_blocks, device_blocks] at hids hname htypeId ⊢
  simp only [List.map_map, Function.comp_def] at hids hname htypeId
  exact Slot.map_block_eq hids hname htypeId

theorem catalog_eq {name : String} {catalog another : Catalog}
    (h : (Tables.catalogTable name catalog).switch = (Tables.catalogTable name another).switch) :
    catalog = another := by
  have hinjective : Function.Injective fun entry : Int32 × String =>
      (⟨.index entry.1, .text entry.2⟩ : Case) := by
    rintro ⟨index, name⟩ ⟨other, another⟩ hcase
    simpa using hcase
  have hentries := List.map_injective_iff.mpr hinjective (congrArg (·.cases) h)
  cases catalog
  cases another
  rw [Catalog.mk.injEq]
  exact hentries

-- The program for a device shows all about it.
theorem device_eq (hwell : description.device.WellFormed)
    (hpairs : description.device.blocks.mapM (Tables.typed description.device) = .ok pairs)
    (hothers : other.device.blocks.mapM (Tables.typed other.device) = .ok others)
    (h : Program.ofDevice description.device (Tables.build description.device pairs) =
      Program.ofDevice other.device (Tables.build other.device others)) :
    description.device = other.device := by
  rw [Program.ofDevice, Program.ofDevice, Program.mk.injEq] at h
  obtain ⟨henumerations, hlookups⟩ := h
  have hswitches := congrArg (List.map Lookup.switch) hlookups
  simp only [Tables.lookups, Tables.common, Tables.build, List.map_cons, List.cons_append,
    List.cons.injEq] at hswitches
  obtain ⟨htyped, htypeNames, hblockNames, hbypasses, -, hamps, hcabs, -⟩ := hswitches
  have htypes := blockTypes_eq hwell henumerations htypeNames hbypasses
  have hblocks := blocks_eq hwell htypes hpairs hothers henumerations hblockNames htyped
  exact device_ext hblocks htypes (catalog_eq hamps) (catalog_eq hcabs)

end Description

namespace Sources

open Code

-- Documents with the same files describe the same device.
theorem read_eq_of_ofDocument {settings : Settings} {document other : String} {sources : Sources}
    (h : (ofDocument settings document).outcome = .ok sources)
    (hother : (ofDocument settings other).outcome = .ok sources) :
    ∃ device, (Device.read document).outcome = .ok device ∧
      (Device.read other).outcome = .ok device := by
  obtain ⟨_, pairs, rfl, -, hwell, hpairs, hshows⟩ := shows_of_ofDocument h
  obtain ⟨_, others, rfl, -, -, hothers, hshowsOther⟩ := shows_of_ofDocument hother
  have hprogram := Option.some.inj (hshows.shown.symm.trans hshowsOther.shown)
  have hsame := Description.device_eq hwell hpairs hothers hprogram
  exact ⟨_, hshows.read, hsame ▸ hshowsOther.read⟩

-- Two documents that differ in the places of attributes and in the form of an element.
def oneDrive : String :=
  r#"<EffectParameters typeID="16" name="Drive" bypassParam="3">
<EffectParameter id="3" name="BYPASS"/></EffectParameters>"#

def oneDriveTurned : String :=
  r#"<EffectParameters bypassParam="3" name="Drive" typeID="16">
<EffectParameter name="BYPASS" id="3"></EffectParameter></EffectParameters>"#

theorem read_eq_oneDrive :
    ∃ sources, (ofDocument {} oneDrive).outcome = .ok sources ∧
      (ofDocument {} oneDriveTurned).outcome = .ok sources ∧
      ∃ device, (Device.read oneDrive).outcome = .ok device ∧
        (Device.read oneDriveTurned).outcome = .ok device := by
  have hok : (ofDocument {} oneDrive).outcome.isOk := by decide +kernel
  have hread : (Device.read oneDriveTurned).outcome.isOk := by decide +kernel
  have hdescription : Description.ofEvents (Markup.read oneDrive).items =
      ⟨[], [⟨16, "Drive", some 3, [(3, "BYPASS")]⟩], [], []⟩ := by
    decide +kernel
  have hsame : Description.ofEvents (Markup.read oneDriveTurned).items =
      ⟨[], [⟨16, "Drive", some 3, [(3, "BYPASS")]⟩], [], []⟩ := by
    decide +kernel
  obtain ⟨sources, hsources⟩ := Outcome.exists_of_isOk hok
  obtain ⟨device, hfirst, hvalid, hdevice⟩ := ofDocument_eq_ok_iff.mp hsources
  obtain ⟨another, hsecond⟩ := Outcome.exists_of_isOk hread
  have hdevices : another = device := by
    rw [(Device.read_eq_ok_iff.mp hfirst).2, (Device.read_eq_ok_iff.mp hsecond).2, hdescription,
      hsame]
  have hturned := ofDocument_eq_ok_iff.mpr ⟨device, hdevices ▸ hsecond, hvalid, hdevice⟩
  exact ⟨sources, hsources, hturned, read_eq_of_ofDocument hsources hturned⟩

end Sources

end EffectTables
