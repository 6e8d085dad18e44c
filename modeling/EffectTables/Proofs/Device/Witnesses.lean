import EffectTables.Proofs.Device.WellFormed

open scoped List

namespace EffectTables

namespace Defect

-- The defect is one of the block types. Of two that have something in common the first stands
-- before the second.
inductive OfBlockTypes (types : List BlockType) : Defect → Prop
  | repeatedId {one other : BlockType} {id : Int32} (order : [one, other] <+ types)
      (first : one.typeId = id) (second : other.typeId = id) :
      OfBlockTypes types (.repeatedId .blockType id one.name other.name)
  | unusableName {type : BlockType} (mem : type ∈ types)
      (unusable : ¬ (Symbol.isIdentifier type.symbol ∧ Symbol.isIdentifier type.stem)) :
      OfBlockTypes types (.unusableName .blockType type.name)
  | reservedSymbol {type : BlockType} (mem : type ∈ types)
      (reserved : type.symbol = Symbol.noBlockType) :
      OfBlockTypes types (.reservedSymbol .blockType type.name type.symbol)
  | sharedSymbol {one other : BlockType} {symbol : String} (order : [one, other] <+ types)
      (first : one.symbol = symbol) (second : other.symbol = symbol) :
      OfBlockTypes types (.sharedSymbol .blockType symbol one.name other.name)
  | sharedStem {one other : BlockType} {symbol : String} (order : [one, other] <+ types)
      (stems : one.stem = other.stem) (first : one.parameterEnum = symbol)
      (second : other.parameterEnum = symbol) :
      OfBlockTypes types (.sharedSymbol .parameterEnum symbol one.name other.name)
  | unusableParameter {type : BlockType} {parameter : Parameter} (mem : type ∈ types)
      (parameterMem : parameter ∈ type.parameters)
      (unusable : ¬ Symbol.isIdentifier parameter.name) :
      OfBlockTypes types (.unusableName .parameter parameter.name)
  | repeatedParameterId {type : BlockType} {one other : Parameter} {id : Int32}
      (mem : type ∈ types) (order : [one, other] <+ type.parameters) (first : one.id = id)
      (second : other.id = id) :
      OfBlockTypes types (.repeatedParameter type.name (.sameId id other.name))
  | repeatedParameterName {type : BlockType} {one other : Parameter} {name : String}
      (mem : type ∈ types) (order : [one, other] <+ type.parameters) (first : one.name = name)
      (second : other.name = name) :
      OfBlockTypes types (.repeatedParameter type.name (.sameName name))

-- The defect is one of the blocks.
inductive OfBlocks (device : Device) : Defect → Prop
  | repeatedId {one other : Block} {id : Int32} (order : [one, other] <+ device.blocks)
      (first : one.id = id) (second : other.id = id) :
      OfBlocks device (.repeatedId .block id one.name other.name)
  | unusableName {block : Block} (mem : block ∈ device.blocks)
      (unusable : ¬ Symbol.isIdentifier block.symbol) :
      OfBlocks device (.unusableName .block block.name)
  | reservedSymbol {block : Block} (mem : block ∈ device.blocks)
      (reserved : block.symbol = Symbol.noBlock ∨ block.symbol = Symbol.shunt) :
      OfBlocks device (.reservedSymbol .block block.name block.symbol)
  | sharedSymbol {one other : Block} {symbol : String} (order : [one, other] <+ device.blocks)
      (first : one.symbol = symbol) (second : other.symbol = symbol) :
      OfBlocks device (.sharedSymbol .block symbol one.name other.name)
  | unknownType {block : Block} (mem : block ∈ device.blocks)
      (unknown : ∀ type ∈ device.blockTypes, type.typeId ≠ block.typeId) :
      OfBlocks device (.unknownType block.name block.typeId)

-- The defect is one of the enumerators of the header: the reserved ones, then those of block
-- types, blocks and parameters.
inductive OfEnumerators (device : Device) : Defect → Prop
  | sharedSymbol {one other : Device.Bearer} {symbol : String}
      (order : [one, other] <+ Device.reservedBearers ++ device.bearers)
      (mem : other ∈ device.bearers) (first : one.symbol = symbol)
      (second : other.symbol = symbol) :
      OfEnumerators device (.sharedSymbol other.kind symbol one.title other.title)

-- The defect is in the first part of the device that has any.
inductive Tells (device : Device) (defect : Defect) : Prop
  | blockTypes (found : defect.OfBlockTypes device.blockTypes)
  | blocks (types : ∀ other, ¬ OfBlockTypes device.blockTypes other)
      (found : defect.OfBlocks device)
  | enumerators (types : ∀ other, ¬ OfBlockTypes device.blockTypes other)
      (blocks : ∀ other, ¬ OfBlocks device other) (found : defect.OfEnumerators device)

end Defect

namespace Device

variable {device : Device} {defect : Defect}

-- The first find along a list is made at an item, and nothing is found at those before it.
theorem of_along_eq_cons {check : List α → α → List β} {before items : List α} {found : β}
    {more : List β} (h : along check before items = found :: more) :
    ∃ front item rest later, items = front ++ item :: rest ∧ along check before front = [] ∧
      check (front.reverse ++ before) item = found :: later := by
  induction items generalizing before with
  | nil => cases h
  | cons item rest ih =>
      rw [along] at h
      rcases List.append_eq_cons_iff.mp h with ⟨hnone, hmore⟩ | ⟨later, hfound, -⟩
      · obtain ⟨front, next, last, later, rfl, hfront, hcheck⟩ := ih hmore
        refine ⟨item :: front, next, last, later, rfl, ?_, ?_⟩
        · rw [along, hnone, hfront, List.append_nil]
        · rw [List.reverse_cons, List.append_assoc]
          exact hcheck
      · exact ⟨[], item, rest, later, rfl, rfl, hfound⟩

-- A device is refused for the first defect of the first part that has one.
theorem of_validate_eq_error (h : device.validate = .error defect) :
    (∃ more, along blockTypeDefects [] device.blockTypes = defect :: more) ∨
    along blockTypeDefects [] device.blockTypes = [] ∧
      ((∃ more, along (blockDefects device) [] device.blocks = defect :: more) ∨
        along (blockDefects device) [] device.blocks = [] ∧
          ∃ more, along bearerDefects reservedBearers device.bearers = defect :: more) := by
  have hfirst : ∃ more, device.defects = defect :: more := by
    unfold validate at h
    split at h
    next => cases h
    next =>
      cases h
      exact ⟨_, ‹_›⟩
  obtain ⟨more, hmore⟩ := hfirst
  rw [defects, List.append_assoc] at hmore
  rcases List.append_eq_cons_iff.mp hmore with ⟨htypes, hmore⟩ | ⟨later, hfound, -⟩
  · refine .inr ⟨htypes, ?_⟩
    rcases List.append_eq_cons_iff.mp hmore with ⟨hblocks, hmore⟩ | ⟨later, hfound, -⟩
    · exact .inr ⟨hblocks, more, hmore⟩
    · exact .inl ⟨later, hfound⟩
  · exact .inl ⟨later, hfound⟩

-- What is found along a list is found at one of its items, given items that stand before it.
theorem exists_of_mem_along {check : List α → α → List β} {initial items : List α} {found : β}
    (h : found ∈ along check initial items) :
    ∃ before item, item ∈ items ∧ (∀ other ∈ before, other ∈ initial ∨ [other, item] <+ items) ∧
      found ∈ check before item := by
  induction items generalizing initial with
  | nil => cases h
  | cons first rest ih =>
      rw [along] at h
      rcases List.mem_append.mp h with hfound | hlater
      · exact ⟨initial, first, List.mem_cons_self, fun _ => .inl, hfound⟩
      · obtain ⟨before, item, hitem, hbefore, hfound⟩ := ih hlater
        refine ⟨before, item, List.mem_cons_of_mem _ hitem, fun other hother => ?_, hfound⟩
        rcases hbefore other hother with hinitial | horder
        · rcases List.mem_cons.mp hinitial with rfl | hinitial
          · exact .inr ((List.singleton_sublist.mpr hitem).cons_cons other)
          · exact .inl hinitial
        · exact .inr (horder.cons first)

section

variable {before items : List α} {item : α} (hbefore : ∀ other ∈ before, [other, item] <+ items)
include hbefore

-- What is told of an item with a key that one of the items before it has.
theorem exists_of_mem_find? [DecidableEq κ] {key : α → κ} {report : α → β} {found : β}
    (h : found ∈ (before.find? fun other => key other == key item).toList.map report) :
    ∃ other, [other, item] <+ items ∧ key other = key item ∧ report other = found := by
  obtain ⟨other, hother, hreport⟩ := List.mem_map.mp h
  have hfind := Option.mem_toList.mp hother
  obtain ⟨hkey, -⟩ := List.find?_eq_some_iff_append.mp hfind
  exact ⟨other, hbefore other (List.mem_of_find?_eq_some hfind), eq_of_beq hkey, hreport⟩

theorem exists_of_any [DecidableEq κ] {key : α → κ}
    (h : before.any fun other => key other == key item) :
    ∃ other, [other, item] <+ items ∧ key other = key item := by
  obtain ⟨other, hother, hkey⟩ := List.any_eq_true.mp h
  exact ⟨other, hbefore other hother, eq_of_beq hkey⟩

end

theorem ofBlockTypes_of_mem_parameterDefects {types : List BlockType} {type : BlockType}
    (htype : type ∈ types) {before : List Parameter} {parameter : Parameter}
    (hparameter : parameter ∈ type.parameters)
    (hbefore : ∀ other ∈ before, [other, parameter] <+ type.parameters)
    (h : defect ∈ parameterDefects type.name before parameter) : defect.OfBlockTypes types := by
  rw [parameterDefects, List.mem_append, List.mem_append] at h
  rcases h with (hname | hid) | hname
  · split at hname
    next => cases hname
    next hunusable =>
      rw [List.mem_singleton.mp hname]
      exact .unusableParameter htype hparameter hunusable
  · split at hid
    next hany =>
      obtain ⟨other, horder, hsame⟩ := exists_of_any hbefore hany
      rw [List.mem_singleton.mp hid]
      exact .repeatedParameterId htype horder hsame rfl
    next => cases hid
  · split at hname
    next hany =>
      obtain ⟨other, horder, hsame⟩ := exists_of_any hbefore hany
      rw [List.mem_singleton.mp hname]
      exact .repeatedParameterName htype horder hsame rfl
    next => cases hname

theorem ofBlockTypes_of_mem {types before : List BlockType} {type : BlockType}
    (htype : type ∈ types) (hbefore : ∀ other ∈ before, [other, type] <+ types)
    (h : defect ∈ blockTypeDefects before type) : defect.OfBlockTypes types := by
  simp only [blockTypeDefects, List.mem_append] at h
  rcases h with ((((hid | hname) | hreserved) | hsymbol) | hstem) | hparameter
  · obtain ⟨other, horder, hsame, rfl⟩ := exists_of_mem_find? hbefore hid
    exact .repeatedId horder hsame rfl
  · split at hname
    next => cases hname
    next hunusable =>
      rw [List.mem_singleton.mp hname]
      exact .unusableName htype (mt (Bool.and_eq_true _ _ ▸ ·) hunusable)
  · split at hreserved
    next hsymbol =>
      rw [List.mem_singleton.mp hreserved]
      exact .reservedSymbol htype hsymbol
    next => cases hreserved
  · obtain ⟨other, horder, hsame, rfl⟩ := exists_of_mem_find? hbefore hsymbol
    exact .sharedSymbol horder hsame rfl
  · obtain ⟨other, horder, hsame, rfl⟩ := exists_of_mem_find? hbefore hstem
    exact .sharedStem horder hsame (congrArg (· ++ "ParamID") hsame) rfl
  · obtain ⟨others, parameter, hmem, hothers, hfound⟩ := exists_of_mem_along hparameter
    refine ofBlockTypes_of_mem_parameterDefects htype hmem (fun other hother => ?_) hfound
    exact (hothers other hother).resolve_left List.not_mem_nil

theorem ofBlocks_of_mem (hindexed : device.Indexed) {before : List Block} {block : Block}
    (hblock : block ∈ device.blocks) (hbefore : ∀ other ∈ before, [other, block] <+ device.blocks)
    (h : defect ∈ blockDefects device before block) : defect.OfBlocks device := by
  simp only [blockDefects, List.mem_append] at h
  rcases h with (((hid | hname) | hreserved) | hsymbol) | htype
  · obtain ⟨other, horder, hsame, rfl⟩ := exists_of_mem_find? hbefore hid
    exact .repeatedId horder hsame rfl
  · split at hname
    next => cases hname
    next hunusable =>
      rw [List.mem_singleton.mp hname]
      exact .unusableName hblock hunusable
  · split at hreserved
    next hsymbol =>
      rw [List.mem_singleton.mp hreserved]
      exact .reservedSymbol hblock hsymbol
    next => cases hreserved
  · obtain ⟨other, horder, hsame, rfl⟩ := exists_of_mem_find? hbefore hsymbol
    exact .sharedSymbol horder hsame rfl
  · split at htype
    next => cases htype
    next hunknown =>
      have hnone := Option.not_isSome_iff_eq_none.mp hunknown
      rw [List.mem_singleton.mp htype]
      exact .unknownType hblock ((hindexed.typeOf?_eq_none_iff block).mp hnone)

theorem ofBlockTypes_of_mem_along
    (h : defect ∈ along blockTypeDefects [] device.blockTypes) :
    defect.OfBlockTypes device.blockTypes := by
  obtain ⟨before, type, htype, hbefore, hfound⟩ := exists_of_mem_along h
  refine ofBlockTypes_of_mem htype (fun other hother => ?_) hfound
  exact (hbefore other hother).resolve_left List.not_mem_nil

theorem ofBlocks_of_mem_along (hindexed : device.Indexed)
    (h : defect ∈ along (blockDefects device) [] device.blocks) : defect.OfBlocks device := by
  obtain ⟨before, block, hblock, hbefore, hfound⟩ := exists_of_mem_along h
  refine ofBlocks_of_mem hindexed hblock (fun other hother => ?_) hfound
  exact (hbefore other hother).resolve_left List.not_mem_nil

theorem ofEnumerators_of_mem_along
    (h : defect ∈ along bearerDefects reservedBearers device.bearers) :
    defect.OfEnumerators device := by
  obtain ⟨before, bearer, hbearer, hbefore, hfound⟩ := exists_of_mem_along h
  have horder : ∀ other ∈ before, [other, bearer] <+ reservedBearers ++ device.bearers := by
    intro other hother
    rcases hbefore other hother with hreserved | horder
    · exact (List.singleton_sublist.mpr hreserved).append (List.singleton_sublist.mpr hbearer)
    · exact horder.trans (List.sublist_append_right _ _)
  obtain ⟨other, hbetween, hsame, rfl⟩ := exists_of_mem_find? horder hfound
  exact .sharedSymbol hbetween hbearer hsame rfl

-- Two items of which one stands before the other differ in a key that no two items share.
theorem ne_of_nodup_map {key : α → κ} {items : List α} (h : (items.map key).Nodup) {one other : α}
    (horder : [one, other] <+ items) : key one ≠ key other := by
  have hpair := h.sublist (horder.map key)
  simpa using hpair

-- Block types at which nothing is found have no defect.
theorem not_ofBlockTypes_of_along (h : along blockTypeDefects [] device.blockTypes = [])
    (defect : Defect) : ¬ defect.OfBlockTypes device.blockTypes := by
  obtain ⟨hsound, -, hpairs⟩ := (along_eq_nil_iff blockTypeDefects_eq_nil_iff _ _).mp h
  intro hdefect
  cases hdefect with
  | repeatedId order first second =>
      exact (List.pairwise_iff_forall_sublist.mp hpairs order).1 (first.trans second.symm)
  | unusableName mem unusable => exact unusable (hsound _ mem).1
  | reservedSymbol mem reserved => exact (hsound _ mem).2.1 reserved
  | sharedSymbol order first second =>
      exact (List.pairwise_iff_forall_sublist.mp hpairs order).2.1 (first.trans second.symm)
  | sharedStem order stems first second =>
      exact (List.pairwise_iff_forall_sublist.mp hpairs order).2.2 stems
  | unusableParameter mem parameterMem unusable =>
      exact unusable ((hsound _ mem).2.2.1 _ parameterMem)
  | repeatedParameterId mem order first second =>
      exact ne_of_nodup_map (hsound _ mem).2.2.2.1 order (first.trans second.symm)
  | repeatedParameterName mem order first second =>
      exact ne_of_nodup_map (hsound _ mem).2.2.2.2 order (first.trans second.symm)

-- Blocks at which nothing is found have no defect.
theorem not_ofBlocks_of_along (hindexed : device.Indexed)
    (h : along (blockDefects device) [] device.blocks = []) (defect : Defect) :
    ¬ defect.OfBlocks device := by
  obtain ⟨hsound, -, hpairs⟩ := (along_eq_nil_iff (blockDefects_eq_nil_iff device) _ _).mp h
  have hsound' : ∀ block ∈ device.blocks, _ := fun block hblock =>
    (hindexed.soundBlock_iff block).mp (hsound block hblock)
  intro hdefect
  cases hdefect with
  | repeatedId order first second =>
      exact (List.pairwise_iff_forall_sublist.mp hpairs order).1 (first.trans second.symm)
  | unusableName mem unusable => exact unusable (hsound' _ mem).1
  | reservedSymbol mem reserved =>
      obtain ⟨hblock, hshunt⟩ := (hsound' _ mem).2.1
      exact reserved.elim hblock hshunt
  | sharedSymbol order first second =>
      exact (List.pairwise_iff_forall_sublist.mp hpairs order).2 (first.trans second.symm)
  | unknownType mem unknown =>
      obtain ⟨type, htype, hid⟩ := (hsound' _ mem).2.2
      exact unknown type htype hid

-- The first defect of the first part that has one is a defect of that part.
theorem Indexed.tells_of_validate_eq_error (hindexed : device.Indexed)
    (h : device.validate = .error defect) : Defect.Tells device defect := by
  rcases of_validate_eq_error h with ⟨more, htypes⟩ | ⟨htypes, hlater⟩
  · exact .blockTypes (ofBlockTypes_of_mem_along (htypes ▸ List.mem_cons_self))
  · have hnone := not_ofBlockTypes_of_along htypes
    rcases hlater with ⟨more, hblocks⟩ | ⟨hblocks, more, hbearers⟩
    · exact .blocks hnone (ofBlocks_of_mem_along hindexed (hblocks ▸ List.mem_cons_self))
    · exact .enumerators hnone (not_ofBlocks_of_along hindexed hblocks)
        (ofEnumerators_of_mem_along (hbearers ▸ List.mem_cons_self))

-- What is told of a refused device is true of it: the entities named are there, in the order in
-- which they are named, and have in common what is said of them.
theorem tells_of_validate {additions : List Addition} {defect : Defect}
    (h : (ofAdditions additions).validate = .error defect) :
    Defect.Tells (ofAdditions additions) defect :=
  (ofAdditions_indexed additions).tells_of_validate_eq_error h

-- Two block types may not share the name of a parameter, for all enumerators live in one scope.
theorem tells_shared_parameter :
    let delay : BlockType := { typeId := 70, name := "Delay", parameters := [⟨"MIX", 1, false⟩] }
    let chorus : BlockType := { typeId := 78, name := "Chorus", parameters := [⟨"MIX", 1, false⟩] }
    let device := ofAdditions [.blockType delay, .blockType chorus]
    let defect := Defect.sharedSymbol .parameter "MIX" "Delay.MIX" "Chorus.MIX"
    device.validate = .error defect ∧ Defect.Tells device defect := by
  intro delay chorus device defect
  have hrefused : device.validate = .error defect := by decide +kernel
  exact ⟨hrefused, tells_of_validate hrefused⟩

end Device

end EffectTables
