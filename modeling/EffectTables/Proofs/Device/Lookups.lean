import EffectTables.Proofs.Device.Additions
import EffectTables.Proofs.Lookup

namespace EffectTables.Device

namespace Addition

def block? : Addition → Option Block
  | block added => some added
  | _ => none

def blockType? : Addition → Option BlockType
  | blockType added => some added
  | _ => none

theorem block?_eq_some_iff {addition : Addition} {added : Block} :
    addition.block? = some added ↔ addition = .block added := by
  cases addition <;> simp [block?]

theorem blockType?_eq_some_iff {addition : Addition} {added : BlockType} :
    addition.blockType? = some added ↔ addition = .blockType added := by
  cases addition <;> simp [blockType?]

end Addition

theorem add_blocks (device : Device) (addition : Addition) :
    (device.add addition).blocks = device.blocks ++ addition.block?.toList := by
  cases addition <;> simp [add, Addition.block?, addBlock, addBlockType, addAmp, addCab]

theorem add_blockTypes (device : Device) (addition : Addition) :
    (device.add addition).blockTypes = device.blockTypes ++ addition.blockType?.toList := by
  cases addition <;> simp [add, Addition.blockType?, addBlock, addBlockType, addAmp, addCab]

theorem addAll_blocks (device : Device) (additions : List Addition) :
    (device.addAll additions).blocks = device.blocks ++ additions.filterMap Addition.block? := by
  induction additions generalizing device with
  | nil => exact (List.append_nil _).symm
  | cons addition rest ih =>
      refine (ih (device.add addition)).trans ?_
      rw [add_blocks, List.append_assoc]
      cases h : addition.block? <;> simp [h]

theorem addAll_blockTypes (device : Device) (additions : List Addition) :
    (device.addAll additions).blockTypes =
      device.blockTypes ++ additions.filterMap Addition.blockType? := by
  induction additions generalizing device with
  | nil => exact (List.append_nil _).symm
  | cons addition rest ih =>
      refine (ih (device.add addition)).trans ?_
      rw [add_blockTypes, List.append_assoc]
      cases h : addition.blockType? <;> simp [h]

theorem ofAdditions_blocks (additions : List Addition) :
    (ofAdditions additions).blocks = additions.filterMap Addition.block? :=
  addAll_blocks {} additions

theorem ofAdditions_blockTypes (additions : List Addition) :
    (ofAdditions additions).blockTypes = additions.filterMap Addition.blockType? :=
  addAll_blockTypes {} additions

-- The block that an addition brings under an id.
def Addition.blockWith? (id : Int32) (addition : Addition) : Option Block :=
  addition.block?.filter (·.id == id)

def Addition.blockTypeWith? (typeId : Int32) (addition : Addition) : Option BlockType :=
  addition.blockType?.filter (·.typeId == typeId)

theorem Addition.blockWith?_eq_some_iff {addition : Addition} {id : Int32} {added : Block} :
    addition.blockWith? id = some added ↔ addition = .block added ∧ added.id = id := by
  rw [blockWith?, Option.filter_eq_some_iff, block?_eq_some_iff, beq_iff_eq]

theorem Addition.blockWith?_eq_none_iff {addition : Addition} {id : Int32} :
    addition.blockWith? id = none ↔ ∀ added, addition = .block added → added.id ≠ id := by
  simp only [blockWith?, Option.filter_eq_none_iff, block?_eq_some_iff, beq_iff_eq]

theorem Addition.blockTypeWith?_eq_some_iff {addition : Addition} {typeId : Int32}
    {added : BlockType} :
    addition.blockTypeWith? typeId = some added ↔
      addition = .blockType added ∧ added.typeId = typeId := by
  rw [blockTypeWith?, Option.filter_eq_some_iff, blockType?_eq_some_iff, beq_iff_eq]

theorem Addition.blockTypeWith?_eq_none_iff {addition : Addition} {typeId : Int32} :
    addition.blockTypeWith? typeId = none ↔
      ∀ added, addition = .blockType added → added.typeId ≠ typeId := by
  simp only [blockTypeWith?, Option.filter_eq_none_iff, blockType?_eq_some_iff, beq_iff_eq]

-- Of the blocks with one id the first counts.
theorem ofAdditions_block? (additions : List Addition) (id : Int32) :
    (ofAdditions additions).block? id = additions.findSome? (Addition.blockWith? id) := by
  rw [block?, ofAdditions_blocks, ← List.head?_filter, List.filter_filterMap, List.head?_filterMap]
  rfl

-- Of the block types with one id the last counts.
theorem ofAdditions_blockType? (additions : List Addition) (typeId : Int32) :
    (ofAdditions additions).blockType? typeId =
      additions.reverse.findSome? (Addition.blockTypeWith? typeId) := by
  rw [(ofAdditions_indexed additions).last, ofAdditions_blockTypes, ← List.filterMap_reverse,
    ← List.head?_filter, List.filter_filterMap, List.head?_filterMap]
  rfl

theorem ofAdditions_concat (additions : List Addition) (addition : Addition) :
    (ofAdditions additions).add addition = ofAdditions (additions ++ [addition]) := by
  rw [ofAdditions, ofAdditions, addAll, addAll, List.foldl_append]
  rfl

-- The block is the first that was added with its id.
def FirstAdded (additions : List Addition) (block : Block) : Prop :=
  ∃ before after, additions = before ++ .block block :: after ∧
    ∀ earlier, .block earlier ∈ before → earlier.id ≠ block.id

-- The block type is the last that was added with its id.
def LastAdded (additions : List Addition) (type : BlockType) : Prop :=
  ∃ before after, additions = before ++ .blockType type :: after ∧
    ∀ later, .blockType later ∈ after → later.typeId ≠ type.typeId

variable {additions : List Addition}

theorem ofAdditions_block?_eq_some_iff {id : Int32} {block : Block} :
    (ofAdditions additions).block? id = some block ↔
      block.id = id ∧ FirstAdded additions block := by
  simp only [ofAdditions_block?, List.findSome?_eq_some_iff, Addition.blockWith?_eq_some_iff,
    Addition.blockWith?_eq_none_iff, FirstAdded]
  constructor
  · rintro ⟨before, addition, after, hsplit, ⟨rfl, rfl⟩, hbefore⟩
    exact ⟨rfl, before, after, hsplit, fun earlier hmem => hbefore _ hmem earlier rfl⟩
  · rintro ⟨rfl, before, after, hsplit, hbefore⟩
    refine ⟨before, _, after, hsplit, ⟨rfl, rfl⟩, ?_⟩
    rintro _ hmem earlier rfl
    exact hbefore earlier hmem

theorem ofAdditions_block?_eq_none_iff {id : Int32} :
    (ofAdditions additions).block? id = none ↔
      ∀ block, .block block ∈ additions → block.id ≠ id := by
  simp only [ofAdditions_block?, List.findSome?_eq_none_iff, Addition.blockWith?_eq_none_iff]
  constructor
  · intro h block hmem
    exact h _ hmem block rfl
  · rintro h _ hmem block rfl
    exact h block hmem

theorem ofAdditions_blockType?_eq_some_iff {typeId : Int32} {type : BlockType} :
    (ofAdditions additions).blockType? typeId = some type ↔
      type.typeId = typeId ∧ LastAdded additions type := by
  simp only [ofAdditions_blockType?, List.findSome?_eq_some_iff,
    Addition.blockTypeWith?_eq_some_iff, Addition.blockTypeWith?_eq_none_iff, LastAdded]
  constructor
  · rintro ⟨after, addition, before, hsplit, ⟨rfl, rfl⟩, hafter⟩
    obtain ⟨before, after, hsplit, hafter⟩ :=
      Lookup.exists_reverse_eq_iff.mp ⟨after, before, hsplit, hafter⟩
    exact ⟨rfl, before, after, hsplit, fun later hmem => hafter _ hmem later rfl⟩
  · rintro ⟨rfl, before, after, hsplit, hafter⟩
    have hothers : ∀ addition ∈ after, ∀ later, addition = .blockType later →
        later.typeId ≠ type.typeId := by
      rintro _ hmem later rfl
      exact hafter later hmem
    obtain ⟨after, before, hsplit, hothers⟩ :=
      Lookup.exists_reverse_eq_iff.mpr ⟨before, after, hsplit, hothers⟩
    exact ⟨after, _, before, hsplit, ⟨rfl, rfl⟩, hothers⟩

theorem ofAdditions_blockType?_eq_none_iff {typeId : Int32} :
    (ofAdditions additions).blockType? typeId = none ↔
      ∀ type, .blockType type ∈ additions → type.typeId ≠ typeId := by
  simp only [ofAdditions_blockType?, List.findSome?_eq_none_iff, List.mem_reverse,
    Addition.blockTypeWith?_eq_none_iff]
  constructor
  · intro h type hmem
    exact h _ hmem type rfl
  · rintro h _ hmem type rfl
    exact h type hmem

-- A position in the index is that of a block type with the id.
theorem Indexed.exists_at {device : Device} (h : device.Indexed) {typeId : Int32} {position : Nat}
    (hposition : device.newest[typeId]? = some position) :
    ∃ type, device.blockTypes[position]? = some type ∧ type.typeId = typeId := by
  have hfound := h.last typeId
  rw [blockType?, hposition, Option.bind_some,
    List.getElem?_eq_getElem (h.inRange hposition)] at hfound
  refine ⟨_, List.getElem?_eq_getElem (h.inRange hposition), ?_⟩
  simpa using List.find?_some hfound.symm

-- What a device answers for an id, told by what was added: of block types the last one, of blocks
-- the first one. No position in the index leads out of the list.
structure AnswersAdded (additions : List Addition) (device : Device) : Prop where
  inRange : ∀ {typeId : Int32} {position : Nat}, device.newest[typeId]? = some position →
    ∃ type, device.blockTypes[position]? = some type ∧ type.typeId = typeId
  blockType : ∀ typeId type,
    device.blockType? typeId = some type ↔ type.typeId = typeId ∧ LastAdded additions type
  noBlockType : ∀ typeId, device.blockType? typeId = none ↔
    ∀ type, .blockType type ∈ additions → type.typeId ≠ typeId
  typeOf : ∀ block, device.typeOf? block = device.blockType? block.typeId
  block : ∀ id block, device.block? id = some block ↔ block.id = id ∧ FirstAdded additions block
  noBlock : ∀ id, device.block? id = none ↔ ∀ block, .block block ∈ additions → block.id ≠ id

-- An addition concerns the answers for its own id only.
structure AnswersKept (device : Device) (addition : Addition) : Prop where
  blockType : ∀ typeId, (∀ type, addition = .blockType type → type.typeId ≠ typeId) →
    (device.add addition).blockType? typeId = device.blockType? typeId
  block : ∀ id, (∀ block, addition = .block block → block.id ≠ id) →
    (device.add addition).block? id = device.block? id

theorem answersAdded_ofAdditions (additions : List Addition) :
    AnswersAdded additions (ofAdditions additions) where
  inRange := (ofAdditions_indexed additions).exists_at
  blockType _ _ := ofAdditions_blockType?_eq_some_iff
  noBlockType _ := ofAdditions_blockType?_eq_none_iff
  typeOf _ := rfl
  block _ _ := ofAdditions_block?_eq_some_iff
  noBlock _ := ofAdditions_block?_eq_none_iff

theorem answersKept_ofAdditions (additions : List Addition) (addition : Addition) :
    AnswersKept (ofAdditions additions) addition where
  blockType typeId hother := by
    rw [ofAdditions_concat, ofAdditions_blockType?, ofAdditions_blockType?, List.reverse_concat,
      List.findSome?_cons, Addition.blockTypeWith?_eq_none_iff.mpr hother]
  block id hother := by
    rw [ofAdditions_concat, ofAdditions_block?, ofAdditions_block?, List.findSome?_append,
      List.findSome?_singleton, Addition.blockWith?_eq_none_iff.mpr hother, Option.or_none]

-- However a device was built, its answers are those of its history, and one more addition changes
-- the answers for no other id.
theorem answers_of_additions (additions : List Addition) :
    AnswersAdded additions (ofAdditions additions) ∧
      ∀ addition, AnswersKept (ofAdditions additions) addition := by
  constructor
  · exact answersAdded_ofAdditions additions
  · exact answersKept_ofAdditions additions

example :
    let device := ofAdditions [.blockType { typeId := 5, name := "Amp", parameters := [] },
      .block { id := 106, name := "Amp 1", typeId := 5 },
      .blockType { typeId := 5, name := "Drive", parameters := [] },
      .block { id := 106, name := "Amp 2", typeId := 5 }]
    (device.blockType? 5).map (·.name) = some "Drive" ∧
      (device.block? 106).map (·.name) = some "Amp 1" := by decide

end EffectTables.Device
