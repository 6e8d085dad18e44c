import EffectTables.Device.Basic

namespace EffectTables.Device

-- One thing that a device is told.
inductive Addition where
  | block (block : Block)
  | blockType (type : BlockType)
  | amp (index : Int32) (name : String)
  | cab (index : Int32) (name : String)
  deriving DecidableEq

def add (device : Device) : Addition → Device
  | .block block => device.addBlock block
  | .blockType type => device.addBlockType type
  | .amp index name => device.addAmp index name
  | .cab index name => device.addCab index name

def addAll (device : Device) (additions : List Addition) : Device :=
  additions.foldl add device

-- A device that was built from nothing.
def ofAdditions (additions : List Addition) : Device := addAll {} additions

-- The index of block types agrees with their list. No position is out of range, and the type that
-- an id leads to is the last one with that id.
structure Indexed (device : Device) : Prop where
  inRange : ∀ {typeId : Int32} {position : Nat}, device.newest[typeId]? = some position →
    position < device.blockTypes.length
  last : ∀ typeId, device.blockType? typeId =
    device.blockTypes.reverse.find? (·.typeId == typeId)

theorem indexed_empty : Indexed {} where
  inRange h := by simp at h
  last typeId := by simp [blockType?]

theorem Indexed.addBlockType {device : Device} (h : device.Indexed) (type : BlockType) :
    (device.addBlockType type).Indexed where
  inRange := by
    intro typeId position hp
    simp only [Device.addBlockType, Std.TreeMap.getElem?_insert] at hp
    simp only [Device.addBlockType, List.length_append, List.length_singleton]
    split at hp
    · cases hp
      omega
    · have := h.inRange hp
      omega
  last typeId := by
    have hlast := h.last typeId
    simp only [blockType?] at hlast
    simp only [blockType?, Device.addBlockType, Std.TreeMap.getElem?_insert,
      Std.compare_eq_iff_eq, List.reverse_append, List.reverse_singleton, List.singleton_append,
      List.find?_cons]
    by_cases he : type.typeId = typeId
    · simp [he]
    · have hne : (type.typeId == typeId) = false := by simpa using he
      rw [if_neg he, hne, ← hlast]
      cases hp : device.newest[typeId]? with
      | none => rfl
      | some position =>
          -- The new type stands behind all positions that are in use.
          have hlt := h.inRange hp
          simp [List.getElem?_append_left hlt]

theorem Indexed.add {device : Device} (h : device.Indexed) (addition : Addition) :
    (device.add addition).Indexed := by
  cases addition with
  | blockType type => exact h.addBlockType type
  | block block => exact ⟨h.inRange, h.last⟩
  | amp index name => exact ⟨h.inRange, h.last⟩
  | cab index name => exact ⟨h.inRange, h.last⟩

theorem Indexed.addAll {device : Device} (h : device.Indexed) (additions : List Addition) :
    (device.addAll additions).Indexed := by
  induction additions generalizing device with
  | nil => exact h
  | cons addition rest ih => exact ih (h.add addition)

theorem ofAdditions_indexed (additions : List Addition) : (ofAdditions additions).Indexed :=
  indexed_empty.addAll additions

theorem Indexed.typeOf?_isSome_iff {device : Device} (h : device.Indexed) (block : Block) :
    (device.typeOf? block).isSome ↔ ∃ type ∈ device.blockTypes, type.typeId = block.typeId := by
  rw [typeOf?, h.last, List.find?_isSome]
  simp

theorem Indexed.typeOf?_eq_none_iff {device : Device} (h : device.Indexed) (block : Block) :
    device.typeOf? block = none ↔ ∀ type ∈ device.blockTypes, type.typeId ≠ block.typeId := by
  rw [typeOf?, h.last, List.find?_eq_none]
  simp

end EffectTables.Device
