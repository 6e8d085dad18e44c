import EffectTables.Device.Basic
import EffectTables.Text.Numeral

namespace EffectTables.Code

structure Enumerator where
  name : String
  value : Int32
  deriving DecidableEq

def Enumerator.text (enumerator : Enumerator) : String :=
  "  " ++ enumerator.name ++ " = " ++ Text.Decimal.write enumerator.value

structure Enumeration where
  name : String
  enumerators : List Enumerator := []
  deriving DecidableEq

namespace Enumeration

def push (enumeration : Enumeration) (name : String) (value : Int32) : Enumeration :=
  { enumeration with enumerators := enumeration.enumerators ++ [⟨name, value⟩] }

-- The enumerators, one a line, each with a comma except the last.
def body : List Enumerator → List String
  | [] => []
  | [last] => [last.text]
  | enumerator :: rest => (enumerator.text ++ ",") :: body rest

def text (enumeration : Enumeration) : String :=
  "\n".intercalate
    (("enum " ++ enumeration.name ++ " \x7b") :: body enumeration.enumerators ++ ["\x7d;"])

-- Block types by id, after the marker for "none".
def ofBlockTypes (types : List BlockType) : Enumeration :=
  ⟨"AxeFxBlockType",
    ⟨Symbol.noBlockType, -1⟩ :: types.map fun type => ⟨type.symbol, type.typeId⟩⟩

-- Blocks by id, after the marker for "none", which is an empty cell of the routing grid, and
-- the slot of the shunt.
def ofBlocks (blocks : List Block) : Enumeration :=
  ⟨"AxeFxIIBlockID",
    ⟨Symbol.noBlock, 0⟩ :: ⟨Symbol.shunt, 200⟩ ::
      blocks.map fun block => ⟨block.symbol, block.id⟩⟩

def ofParameters (type : BlockType) : Enumeration :=
  ⟨type.parameterEnum, type.parameters.map fun parameter => ⟨parameter.name, parameter.id⟩⟩

def ofDevice (device : Device) : List Enumeration :=
  ofBlockTypes device.blockTypes :: ofBlocks device.blocks ::
    device.blockTypes.map ofParameters

end Enumeration

end EffectTables.Code
