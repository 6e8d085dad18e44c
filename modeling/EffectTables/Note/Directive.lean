import EffectTables.Text.Numeral
import EffectTables.Text.Pattern
import EffectTables.Text.Pieces

namespace EffectTables.Note

open Text (width)

inductive Verbosity where
  | off
  | error
  | warn
  | info
  | debug
  | trace
  deriving DecidableEq

namespace Verbosity

def all : List Verbosity := [off, error, warn, info, debug, trace]

def rank : Verbosity → Nat
  | off => 0
  | error => 1
  | warn => 2
  | info => 3
  | debug => 4
  | trace => 5

def name : Verbosity → List Char
  | off => "off".toList
  | error => "error".toList
  | warn => "warn".toList
  | info => "info".toList
  | debug => "debug".toList
  | trace => "trace".toList

def number? : List Char → Option Nat
  | '+' :: digits => Text.Decimal.natural? digits
  | digits => Text.Decimal.natural? digits

-- A rank in digits or a name in letters of any case.
def ofWord? (word : List Char) : Option Verbosity :=
  match number? word with
  | some rank => all[rank]?
  | none => all.find? (·.name == word.map Char.toLower)

end Verbosity

structure Condition where
  key : String
  hasValue : Bool
  deriving DecidableEq

namespace Condition

def isFraction (digits : List Char) : Bool :=
  match Text.pieces '.' digits with
  | [whole] => !whole.isEmpty && whole.all Char.isDigit
  | [whole, part] =>
      !(whole.isEmpty && part.isEmpty) && whole.all Char.isDigit && part.all Char.isDigit
  | _ => false

def isExponent : List Char → Bool
  | '+' :: digits | '-' :: digits => (Text.Decimal.natural? digits).isSome
  | digits => (Text.Decimal.natural? digits).isSome

def isNumber (text : List Char) : Bool :=
  let text := text.map Char.toLower
  ["inf".toList, "infinity".toList, "nan".toList].contains text ||
    match Text.pieces 'e' text with
    | [digits] => isFraction digits
    | [digits, exponent] => isFraction digits && isExponent exponent
    | _ => false

-- Almost every number has the form of a pattern; one with a plus sign has not.
def isValue : List Char → Bool
  | '+' :: text => isNumber text
  | text => Text.isPattern text

-- A key, or a key and a value after an equals sign. What follows a second one does not count.
def read? (text : List Char) : Option Condition :=
  match Text.pieces '=' text with
  | key :: value :: _ => if isValue value then some ⟨String.ofList key, true⟩ else none
  | _ => if text.isEmpty then none else some ⟨String.ofList text, false⟩

end Condition

-- A part of a wish for the log: how much is wanted of what comes from somewhere in the program,
-- from work that goes by a name, or under a condition.
structure Directive where
  origin : Option String := none
  work : Option String := none
  condition : Option Condition := none
  verbosity : Verbosity := .trace
  deriving DecidableEq

namespace Directive

def startsOrigin (c : Char) : Bool :=
  c == '-' || c == ':' || c == '_' || Text.isAlphanumeric c

def staysInOrigin (c : Char) : Bool := c != '=' && c != '['

def staysInWork (c : Char) : Bool := c != ']' && c != '\x7b'

def staysInCondition (c : Char) : Bool := c != '\x7d'

-- The verbosity from a place in a directive to its end. If it is left open, all is wanted.
def verbosityFrom? (whole : List Char) (start : Nat) : Option Verbosity :=
  (Text.fromByte? start whole).bind fun word =>
    if word.isEmpty then some .trace else Verbosity.ofWord? word

def afterBrackets? (whole : List Char) (directive : Directive) (position : Nat) :
    List Char → Option Directive
  | [] => some directive
  | '=' :: _ => do
      let verbosity ← verbosityFrom? whole (position + 1)
      return { directive with verbosity }
  | _ => none

-- The name of some work and a condition in braces, both of which may be missing. Brackets around
-- nothing at all name work without a name.
def inBrackets? (whole : List Char) (origin : Option String) (start : Nat) (text : List Char) :
    Option Directive := do
  let stop := start + width (text.takeWhile staysInWork)
  let work ← Text.betweenBytes? start stop whole
  match text.dropWhile staysInWork with
  | ']' :: rest =>
      afterBrackets? whole { origin, work := some (String.ofList work) } (stop + 1) rest
  | '\x7b' :: rest =>
      let close := stop + 1 + width (rest.takeWhile staysInCondition)
      let condition ← Condition.read? (← Text.betweenBytes? (stop + 1) close whole)
      match rest.dropWhile staysInCondition with
      | _ :: ']' :: rest =>
          afterBrackets? whole
            { origin
              work := if work.isEmpty then none else some (String.ofList work)
              condition := some condition } (close + 2) rest
      | _ => none
  | _ => none

-- Blanks around a directive are passed over when its marks are looked for. The places of the
-- marks are counted from there, but the parts are cut out of the directive with its blanks, so
-- that a directive with blanks before it is rarely what it seems.
def read? (whole : List Char) : Option Directive :=
  match Text.trim whole with
  | [] => none
  | c :: rest =>
      if c = '[' then inBrackets? whole none 1 rest
      else if !startsOrigin c then none
      else do
        let stop := width ((c :: rest).takeWhile staysInOrigin)
        match (c :: rest).dropWhile staysInOrigin with
        | [] =>
            match Verbosity.ofWord? whole with
            | some verbosity => return { verbosity }
            | none => return { origin := some (String.ofList whole) }
        | mark :: rest =>
            let origin := String.ofList (← Text.betweenBytes? 0 stop whole)
            if mark = '=' then
              let verbosity ← verbosityFrom? whole (stop + 1)
              return { origin := some origin, verbosity }
            else inBrackets? whole (some origin) (stop + 1) rest

end Directive

end EffectTables.Note
