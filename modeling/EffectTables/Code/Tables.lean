import EffectTables.Code.Switch
import EffectTables.Device.Basic

namespace EffectTables.Code

structure Function where
  result : String
  name : String
  parameters : List (String × String)
  deriving DecidableEq

def Function.signature (function : Function) : String :=
  function.result ++ " " ++ function.name ++ "(" ++
    ", ".intercalate (function.parameters.map fun (type, name) => type ++ " " ++ name) ++ ")"

-- A function of the generated code.
structure Lookup where
  function : Function
  switch : Switch
  deriving DecidableEq

namespace Lookup

def declaration (lookup : Lookup) : String := Switch.declaration lookup.function.signature

def definition (lookup : Lookup) : String := lookup.switch.definition lookup.function.signature

end Lookup

-- A block whose type the device does not have.
structure Dangling where
  block : String
  typeId : Int32
  deriving DecidableEq

-- Everything that the generated code can answer about a device.
structure Tables where
  blockType : Lookup
  blockTypeName : Lookup
  blockName : Lookup
  bypassId : Lookup
  parameterName : Lookup
  ampName : Lookup
  cabName : Lookup
  typeParameterNames : List Lookup
  deriving DecidableEq

namespace Tables

def blockTypeTable (typed : List (Block × BlockType)) : Lookup where
  function := ⟨"AxeFxBlockType", "GetBlockType", [("AxeFxIIBlockID", "id")]⟩
  switch :=
    ⟨"id", .symbol Symbol.noBlockType,
      typed.map fun (block, type) => ⟨.symbol block.symbol, .symbol type.symbol⟩⟩

def blockTypeNameTable (types : List BlockType) : Lookup where
  function := ⟨"const char*", "GetBlockTypeName", [("AxeFxBlockType", "type")]⟩
  switch := ⟨"type", .text "", types.map fun type => ⟨.symbol type.symbol, .text type.name⟩⟩

def blockNameTable (blocks : List Block) : Lookup where
  function := ⟨"const char*", "GetBlockName", [("AxeFxIIBlockID", "id")]⟩
  switch := ⟨"id", .text "", blocks.map fun block => ⟨.symbol block.symbol, .text block.name⟩⟩

def bypassIdTable (types : List BlockType) : Lookup where
  function := ⟨"int", "GetBlockBypassParamID", [("AxeFxBlockType", "type")]⟩
  switch :=
    ⟨"type", .number (-1),
      types.filterMap fun type => type.bypassId?.map fun id => ⟨.symbol type.symbol, .number id⟩⟩

-- A type without parameters is left out, for its enumeration is empty and no number can be one of
-- its values.
def parameterNameTable (types : List BlockType) : Lookup where
  function :=
    ⟨"const char*", "GetParamName", [("AxeFxBlockType", "type"), ("int", "param_id")]⟩
  switch :=
    ⟨"type", .text "",
      (types.filter fun type => !type.parameters.isEmpty).map fun type =>
        ⟨.symbol type.symbol, .parameterName type.parameterFunction type.parameterEnum⟩⟩

def catalogTable (name : String) (catalog : Catalog) : Lookup where
  function := ⟨"const char*", name, [("int", "index")]⟩
  switch := ⟨"index", .text "", catalog.entries.map fun (index, name) => ⟨.index index, .text name⟩⟩

def typeParameterNameTable (type : BlockType) : Lookup where
  function := ⟨"const char*", type.parameterFunction, [(type.parameterEnum, "id")]⟩
  switch :=
    ⟨"id", .text "",
      type.parameters.map fun parameter =>
        ⟨.symbol parameter.name, .text parameter.displayName⟩⟩

def typed (device : Device) (block : Block) : Except Dangling (Block × BlockType) :=
  match device.typeOf? block with
  | none => .error ⟨block.name, block.typeId⟩
  | some type => .ok (block, type)

-- The tables of a device. They exist if every block has a type.
def ofDevice (device : Device) : Except Dangling Tables := do
  let typed ← device.blocks.mapM (typed device)
  return {
    blockType := blockTypeTable typed
    blockTypeName := blockTypeNameTable device.blockTypes
    blockName := blockNameTable device.blocks
    bypassId := bypassIdTable device.blockTypes
    parameterName := parameterNameTable device.blockTypes
    ampName := catalogTable "GetAmpName" device.amps
    cabName := catalogTable "GetCabName" device.cabs
    typeParameterNames := device.blockTypes.map typeParameterNameTable }

-- The functions that are the same for every device, in the order of the output.
def common (tables : Tables) : List Lookup :=
  [tables.blockType, tables.blockTypeName, tables.blockName, tables.bypassId,
    tables.parameterName, tables.ampName, tables.cabName]

end Tables

end EffectTables.Code
