import EffectTables.Device.Block
import EffectTables.Device.Catalog
import Std.Data.TreeMap

namespace EffectTables

-- The description of an effects device: its blocks and block types in the order in which they
-- were added, and the names of the amplifiers and cabinets. `newest` holds the position of the
-- block type that was added last under an id.
structure Device where
  blocks : List Block := []
  blockTypes : List BlockType := []
  amps : Catalog := {}
  cabs : Catalog := {}
  newest : Std.TreeMap Int32 Nat := ∅

namespace Device

def addBlock (device : Device) (block : Block) : Device :=
  { device with blocks := device.blocks ++ [block] }

def addBlockType (device : Device) (type : BlockType) : Device :=
  { device with
    blockTypes := device.blockTypes ++ [type]
    newest := device.newest.insert type.typeId device.blockTypes.length }

def addAmp (device : Device) (index : Int32) (name : String) : Device :=
  { device with amps := device.amps.insert index name }

def addCab (device : Device) (index : Int32) (name : String) : Device :=
  { device with cabs := device.cabs.insert index name }

-- Of several block types with one id, the last.
def blockType? (device : Device) (typeId : Int32) : Option BlockType :=
  device.newest[typeId]?.bind fun position => device.blockTypes[position]?

def typeOf? (device : Device) (block : Block) : Option BlockType :=
  device.blockType? block.typeId

-- Of several blocks with one id, the first.
def block? (device : Device) (id : Int32) : Option Block :=
  device.blocks.find? (·.id == id)

end Device

end EffectTables
