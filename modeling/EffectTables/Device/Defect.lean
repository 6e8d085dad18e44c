import EffectTables.Device.Basic
import EffectTables.Text.Numeral

namespace EffectTables

inductive NameKind where
  | reserved
  | blockType
  | block
  | parameter
  | parameterEnum
  deriving DecidableEq

def NameKind.text : NameKind → String
  | reserved => "reserved"
  | blockType => "block type"
  | block => "block"
  | parameter => "parameter"
  | parameterEnum => "parameter enum"

-- What two parameters of one block type have in common.
inductive Repetition where
  | sameId (id : Int32) (name : String)
  | sameName (name : String)
  deriving DecidableEq

def Repetition.message : Repetition → String
  | sameId id name => "duplicate parameter id " ++ Text.Decimal.write id ++ " ('" ++ name ++ "')"
  | sameName name => "duplicate parameter name '" ++ name ++ "'"

-- Why no sound tables can be generated for a device. Of two entities with something in common
-- the earlier one comes first.
inductive Defect where
  | repeatedId (kind : NameKind) (id : Int32) (first second : String)
  | unusableName (kind : NameKind) (name : String)
  | reservedSymbol (kind : NameKind) (name symbol : String)
  | sharedSymbol (kind : NameKind) (symbol first second : String)
  | repeatedParameter (blockType : String) (repetition : Repetition)
  | unknownType (block : String) (typeId : Int32)
  deriving DecidableEq

def Defect.message : Defect → String
  | repeatedId kind id first second =>
      "duplicate " ++ kind.text ++ " id " ++ Text.Decimal.write id ++ ": '" ++ first ++ "' and '" ++
        second ++ "'"
  | unusableName kind name =>
      kind.text ++ " name '" ++ name ++ "' does not produce a valid identifier"
  | reservedSymbol kind name symbol =>
      kind.text ++ " '" ++ name ++ "' normalizes to reserved identifier '" ++ symbol ++ "'"
  | sharedSymbol kind symbol first second =>
      kind.text ++ " '" ++ symbol ++ "' is produced by both '" ++ first ++ "' and '" ++ second ++
        "'"
  | repeatedParameter blockType repetition =>
      "block type '" ++ blockType ++ "': " ++ repetition.message
  | unknownType block typeId =>
      "block '" ++ block ++ "' references unknown block type id " ++ Text.Decimal.write typeId

namespace Device

-- Collects what a check finds at each item, given the items before it, nearest first.
def along (check : List α → α → List β) (before : List α) : List α → List β
  | [] => []
  | item :: rest => check before item ++ along check (item :: before) rest

def parameterDefects (blockType : String) (before : List Parameter) (parameter : Parameter) :
    List Defect :=
  (if Symbol.isIdentifier parameter.name then [] else [.unusableName .parameter parameter.name]) ++
    (if before.any (·.id == parameter.id) then
      [.repeatedParameter blockType (.sameId parameter.id parameter.name)] else []) ++
    (if before.any (·.name == parameter.name) then
      [.repeatedParameter blockType (.sameName parameter.name)] else [])

def blockTypeDefects (before : List BlockType) (type : BlockType) : List Defect :=
  (before.find? (·.typeId == type.typeId)).toList.map
      (fun other => .repeatedId .blockType type.typeId other.name type.name) ++
    (if Symbol.isIdentifier type.symbol && Symbol.isIdentifier type.stem then []
      else [.unusableName .blockType type.name]) ++
    (if type.symbol = Symbol.noBlockType then
      [.reservedSymbol .blockType type.name type.symbol] else []) ++
    (before.find? (·.symbol == type.symbol)).toList.map
      (fun other => .sharedSymbol .blockType type.symbol other.name type.name) ++
    (before.find? (·.stem == type.stem)).toList.map
      (fun other => .sharedSymbol .parameterEnum type.parameterEnum other.name type.name) ++
    along (parameterDefects type.name) [] type.parameters

def blockDefects (device : Device) (before : List Block) (block : Block) : List Defect :=
  (before.find? (·.id == block.id)).toList.map
      (fun other => .repeatedId .block block.id other.name block.name) ++
    (if Symbol.isIdentifier block.symbol then [] else [.unusableName .block block.name]) ++
    (if block.symbol = Symbol.noBlock ∨ block.symbol = Symbol.shunt then
      [.reservedSymbol .block block.name block.symbol] else []) ++
    (before.find? (·.symbol == block.symbol)).toList.map
      (fun other => .sharedSymbol .block block.symbol other.name block.name) ++
    (if (device.typeOf? block).isSome then [] else [.unknownType block.name block.typeId])

structure Bearer where
  kind : NameKind
  symbol : String
  title : String
  deriving DecidableEq

def reservedBearers : List Bearer :=
  [Symbol.noBlockType, Symbol.noBlock, Symbol.shunt].map fun symbol =>
    ⟨.reserved, symbol, "reserved"⟩

def bearers (device : Device) : List Bearer :=
  (device.blockTypes.map fun type => ⟨.blockType, type.symbol, "block type " ++ type.name⟩) ++
    (device.blocks.map fun block => ⟨.block, block.symbol, "block " ++ block.name⟩) ++
    device.blockTypes.flatMap fun type =>
      type.parameters.map fun parameter =>
        ⟨.parameter, parameter.name, type.name ++ "." ++ parameter.name⟩

def bearerDefects (before : List Bearer) (bearer : Bearer) : List Defect :=
  (before.find? (·.symbol == bearer.symbol)).toList.map fun other =>
    .sharedSymbol bearer.kind bearer.symbol other.title bearer.title

-- All defects in the order of their weight: those of block types, those of blocks, and last the
-- enumerators that share a name, for all enumerators live in one scope.
def defects (device : Device) : List Defect :=
  along blockTypeDefects [] device.blockTypes ++
    along (blockDefects device) [] device.blocks ++
    along bearerDefects reservedBearers device.bearers

-- The first defect speaks for the device.
def validate (device : Device) : Except Defect Unit :=
  match device.defects with
  | [] => .ok ()
  | defect :: _ => .error defect

end Device

end EffectTables
