import EffectTables.Symbol
import EffectTables.Text.Lowercase

namespace EffectTables

-- A slot of the effects pool. The enumerator follows from the name unless it is given.
structure Block where
  id : Int32
  name : String
  typeId : Int32
  symbol : String := Symbol.block name
  deriving DecidableEq

structure Parameter where
  name : String
  id : Int32
  bypass : Bool := false
  deriving DecidableEq

-- The name under which the generated tables report a parameter.
def Parameter.displayName (parameter : Parameter) : String := Text.lowercase parameter.name

-- A kind of block with the parameters that all blocks of the kind share. The enumerator and the
-- stem of longer identifiers follow from the name unless they are given.
structure BlockType where
  typeId : Int32
  name : String
  parameters : List Parameter
  symbol : String := Symbol.blockType name
  stem : String := Symbol.stem name
  deriving DecidableEq

namespace BlockType

def bypassId? (type : BlockType) : Option Int32 :=
  (type.parameters.find? (·.bypass)).map (·.id)

def parameterEnum (type : BlockType) : String := type.stem ++ "ParamID"

def parameterFunction (type : BlockType) : String := "Get" ++ type.stem ++ "ParamName"

end BlockType

-- A block type whose parameters are still being collected. The first parameter with the pending
-- id becomes the bypass parameter.
structure ParameterGroup where
  typeId : Int32
  name : String
  pending : Option Int32
  parameters : List Parameter := []
  marked : Bool := false

namespace ParameterGroup

def push (group : ParameterGroup) (name : String) (id : Int32) : ParameterGroup :=
  let bypass := !group.marked && group.pending == some id
  { group with
    parameters := group.parameters ++ [⟨name, id, bypass⟩]
    marked := group.marked || bypass }

def bypassUnmatched (group : ParameterGroup) : Bool :=
  group.pending.isSome && !group.marked

def close (group : ParameterGroup) : BlockType :=
  { typeId := group.typeId, name := group.name, parameters := group.parameters }

end ParameterGroup

end EffectTables
