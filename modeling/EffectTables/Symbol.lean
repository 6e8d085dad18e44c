namespace EffectTables.Symbol

def startsIdentifier (c : Char) : Bool := c.isAlpha || c == '_'

def continuesIdentifier (c : Char) : Bool := c.isAlphanum || c == '_'

def isIdentifier (text : String) : Bool :=
  match text.toList with
  | [] => false
  | c :: rest => startsIdentifier c && rest.all continuesIdentifier

-- Spaces and slashes become underscores, ASCII letters become capitals, the rest stays.
def suffixLetter (c : Char) : Char :=
  if c = ' ' ∨ c = '/' then '_' else c.toUpper

def suffix (name : String) : String :=
  String.ofList (name.toList.map suffixLetter)

def block (name : String) : String := "BLOCK_" ++ suffix name

def blockType (name : String) : String := "BLOCK_TYPE_" ++ suffix name

-- What is left of a name for use inside a longer identifier.
def stem (name : String) : String :=
  String.ofList (name.toList.filter continuesIdentifier)

-- Three enumerators are present in every header: "no block type", "no block" and the slot of
-- the shunt.
def noBlockType : String := "BLOCK_TYPE_INVALID"

def noBlock : String := "BLOCK_INVALID"

def shunt : String := "BLOCK_SHUNT_200"

end EffectTables.Symbol
