import EffectTables.Proofs.Device.Additions
import EffectTables.Proofs.Device.Catalog
import EffectTables.Proofs.Document.Tag

namespace EffectTables

namespace Markup

-- The tag of an element that begins with the event.
def Event.tag? : Event → Option Tag
  | .opens tag | .selfCloses tag => some tag
  | .closes _ | .aside => none

-- The elements that begin in a stretch of a document.
def tags (events : List Event) : List Tag := events.filterMap Event.tag?

-- What follows an opening tag, up to the end of its element. Of the elements within, `depth` are
-- open already.
def inside (depth : Nat) : List Event → List Event
  | [] => []
  | event :: rest =>
      match event, depth with
      | .opens _, depth => event :: inside (depth + 1) rest
      | .closes _, 0 => []
      | .closes _, depth + 1 => event :: inside depth rest
      | _, depth => event :: inside depth rest

end Markup

-- A slot of the effects pool as it is written.
structure Slot where
  id : Int32
  name : String
  typeId : Int32
  deriving DecidableEq

def Slot.block (slot : Slot) : Block :=
  { id := slot.id, name := slot.name, typeId := slot.typeId }

-- A group of parameters as it is written, with the id of its bypass parameter and with the ids
-- and names of its parameters.
structure Group where
  typeId : Int32
  name : String
  bypass : Option Int32
  parameters : List (Int32 × String)
  deriving DecidableEq

namespace Group

def unmarked (parameters : List (Int32 × String)) : List Parameter :=
  parameters.map fun (id, name) => ⟨name, id, false⟩

-- The first parameter with the bypass id is marked, and no other.
def marked (bypass : Option Int32) : List (Int32 × String) → List Parameter
  | [] => []
  | (id, name) :: rest =>
      if bypass = some id then ⟨name, id, true⟩ :: unmarked rest
      else ⟨name, id, false⟩ :: marked bypass rest

def blockType (group : Group) : BlockType :=
  { typeId := group.typeId
    name := group.name
    parameters := marked group.bypass group.parameters }

end Group

-- What a document says about a device, in the order in which it is said.
structure Description where
  slots : List Slot
  groups : List Group
  amps : List (Int32 × String)
  cabs : List (Int32 × String)
  deriving DecidableEq

namespace Description

open Markup (Event Tag tags inside)

def slot? (tag : Tag) : Option Slot :=
  if tag.element? = some .poolInstance then do
    let typeId ← tag.number? "typeID"
    let id ← tag.number? "id"
    let name ← tag.value? "name"
    return ⟨id, name, typeId⟩
  else none

-- A number and a name, as parameters and the entries of the catalogs have them.
def listed? (element : Element) (tag : Tag) : Option (Int32 × String) :=
  if tag.element? = some element then do
    let id ← tag.number? "id"
    let name ← tag.value? "name"
    return (id, name)
  else none

def group? (tag : Tag) (content : List Event) : Option Group :=
  if tag.element? = some .group then do
    let typeId ← tag.number? "typeID"
    let name ← tag.value? "name"
    return ⟨typeId, name, tag.number? "bypassParam", (tags content).filterMap (listed? .parameter)⟩
  else none

-- The groups that begin in a stretch of a document. Each has the parameters that are written
-- between its opening tag and its end.
def groupsIn : List Event → List Group
  | [] => []
  | event :: rest =>
      match event with
      | .opens tag => (group? tag (inside 0 rest)).toList ++ groupsIn rest
      | .selfCloses tag => (group? tag []).toList ++ groupsIn rest
      | .closes _ | .aside => groupsIn rest

-- What a document with these events says.
def ofEvents (events : List Event) : Description where
  slots := (tags events).filterMap slot?
  groups := groupsIn events
  amps := (tags events).filterMap (listed? .amp)
  cabs := (tags events).filterMap (listed? .cab)

end Description

namespace Device

-- The positions of block types that are added behind the first `count` ones.
def positions (newest : Std.TreeMap Int32 Nat) (count : Nat) :
    List BlockType → Std.TreeMap Int32 Nat
  | [] => newest
  | type :: rest => positions (newest.insert type.typeId count) (count + 1) rest

def extend (device : Device) (blocks : List Block) (types : List BlockType)
    (amps cabs : List (Int32 × String)) : Device where
  blocks := device.blocks ++ blocks
  blockTypes := device.blockTypes ++ types
  amps := device.amps.insertAll amps
  cabs := device.cabs.insertAll cabs
  newest := positions device.newest device.blockTypes.length types

theorem positions_append (newest : Std.TreeMap Int32 Nat) (count : Nat)
    (types later : List BlockType) :
    positions newest count (types ++ later) =
      positions (positions newest count types) (count + types.length) later := by
  induction types generalizing newest count with
  | nil => rfl
  | cons type rest ih =>
      simp only [List.cons_append, positions, ih, List.length_cons]
      congr 1
      omega

theorem extend_nil (device : Device) : device.extend [] [] [] [] = device := by
  simp [extend, positions, Catalog.insertAll]

theorem extend_extend (device : Device) (blocks moreBlocks : List Block)
    (types moreTypes : List BlockType) (amps moreAmps cabs moreCabs : List (Int32 × String)) :
    (device.extend blocks types amps cabs).extend moreBlocks moreTypes moreAmps moreCabs =
      device.extend (blocks ++ moreBlocks) (types ++ moreTypes) (amps ++ moreAmps)
        (cabs ++ moreCabs) := by
  simp [extend, positions_append, Catalog.insertAll]

theorem addBlock_eq_extend (device : Device) (block : Block) :
    device.addBlock block = device.extend [block] [] [] [] := by
  simp [addBlock, extend, positions, Catalog.insertAll]

theorem addBlockType_eq_extend (device : Device) (type : BlockType) :
    device.addBlockType type = device.extend [] [type] [] [] := by
  simp [addBlockType, extend, positions, Catalog.insertAll]

theorem addAmp_eq_extend (device : Device) (index : Int32) (name : String) :
    device.addAmp index name = device.extend [] [] [(index, name)] [] := by
  simp [addAmp, extend, positions, Catalog.insertAll]

theorem addCab_eq_extend (device : Device) (index : Int32) (name : String) :
    device.addCab index name = device.extend [] [] [] [(index, name)] := by
  simp [addCab, extend, positions, Catalog.insertAll]

theorem Indexed.extend {device : Device} (h : device.Indexed) (blocks : List Block)
    (types : List BlockType) (amps cabs : List (Int32 × String)) :
    (device.extend blocks types amps cabs).Indexed := by
  induction types generalizing device with
  | nil =>
      refine ⟨?_, ?_⟩
      · intro typeId position hp
        simpa [Device.extend] using h.inRange hp
      · intro typeId
        simpa [Device.extend, blockType?, positions] using h.last typeId
  | cons type rest ih =>
      have hstep := addBlockType_eq_extend device type ▸
        extend_extend device [] blocks [type] rest [] amps [] cabs
      exact hstep ▸ ih (h.addBlockType type)

end Device

-- The device that a document describes.
def Description.device (description : Description) : Device :=
  ({} : Device).extend (description.slots.map Slot.block) (description.groups.map Group.blockType)
    description.amps description.cabs

-- A device holds what a document says. The last entry of a catalog and the last block type count
-- where several have one number.
structure Device.Records (device : Device) (description : Description) : Prop where
  blocks : device.blocks = description.slots.map Slot.block
  blockTypes : device.blockTypes = description.groups.map Group.blockType
  ampsAscending : device.amps.Ascending
  amps : ∀ index, device.amps.get? index = Catalog.lastName? description.amps index
  cabsAscending : device.cabs.Ascending
  cabs : ∀ index, device.cabs.get? index = Catalog.lastName? description.cabs index
  types : ∀ typeId, device.blockType? typeId =
    (description.groups.reverse.find? (·.typeId == typeId)).map Group.blockType

theorem Description.device_indexed (description : Description) : description.device.Indexed :=
  Device.indexed_empty.extend _ _ _ _

theorem Description.device_records (description : Description) :
    description.device.Records description where
  blocks := by simp [device, Device.extend]
  blockTypes := by simp [device, Device.extend]
  ampsAscending := Catalog.ascending_empty.insertAll description.amps
  amps index := by simp [device, Device.extend, Catalog.get?_insertAll]
  cabsAscending := Catalog.ascending_empty.insertAll description.cabs
  cabs index := by simp [device, Device.extend, Catalog.get?_insertAll]
  types typeId := by
    rw [description.device_indexed.last]
    simp [device, Device.extend, ← List.map_reverse, List.find?_map, Function.comp_def,
      Group.blockType]

end EffectTables
