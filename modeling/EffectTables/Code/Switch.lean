import EffectTables.Text.Numeral

namespace EffectTables.Code

namespace Literal

def octalDigit (n : Nat) : Char := Char.ofNat (n % 8 + 0x30)

def isControl (c : Char) : Bool := c.toNat < 0x20 || c.toNat == 0x7F

-- Control characters without an escape of their own take three octal digits, so that a digit
-- after them is not read as one of theirs.
def escape (c : Char) : List Char :=
  if c = '\x22' then ['\\', '\x22']
  else if c = '\\' then ['\\', '\\']
  else if c = '\n' then ['\\', 'n']
  else if c = '\r' then ['\\', 'r']
  else if c = '\t' then ['\\', 't']
  else if isControl c then
    ['\\', octalDigit (c.toNat / 64), octalDigit (c.toNat / 8), octalDigit c.toNat]
  else [c]

-- The text as a string literal; text beyond ASCII stays as it is.
def quote (text : String) : String :=
  String.ofList ('\x22' :: text.toList.flatMap escape ++ ['\x22'])

end Literal

inductive Label where
  | symbol (name : String)
  | index (value : Int32)
  deriving DecidableEq

-- What a case returns. The last form passes the parameter number on to the table of one block
-- type.
inductive Value where
  | symbol (name : String)
  | text (content : String)
  | number (value : Int32)
  | parameterName (function enumeration : String)
  deriving DecidableEq

structure Case where
  label : Label
  value : Value
  deriving DecidableEq

-- The body of a function that chooses its result by cases.
structure Switch where
  subject : String
  fallback : Value
  cases : List Case := []
  deriving DecidableEq

def Label.code : Label → String
  | symbol name => name
  | index value => Text.Decimal.write value

def Value.code : Value → String
  | symbol name => name
  | text content => Literal.quote content
  | number value => Text.Decimal.write value
  | parameterName function enumeration =>
      function ++ "(static_cast<" ++ enumeration ++ ">(param_id))"

def Case.lines (case : Case) : List String :=
  ["    case " ++ case.label.code ++ ":", "      return " ++ case.value.code ++ ";"]

namespace Switch

def push (switch : Switch) (label : Label) (value : Value) : Switch :=
  { switch with cases := switch.cases ++ [⟨label, value⟩] }

-- The first case with the label counts.
def lookup? (switch : Switch) (label : Label) : Option Value :=
  (switch.cases.find? (·.label == label)).map (·.value)

def resolve (switch : Switch) (label : Label) : Value :=
  (switch.lookup? label).getD switch.fallback

def declaration (signature : String) : String := signature ++ ";"

-- The function with the given signature.
def definition (switch : Switch) (signature : String) : String :=
  "\n".intercalate
    ([signature ++ " \x7b", "  switch (" ++ switch.subject ++ ") \x7b", "    default:",
        "      break;"] ++
      switch.cases.flatMap Case.lines ++
      ["  \x7d", "  return " ++ switch.fallback.code ++ ";", "\x7d"])

end Switch

end EffectTables.Code
