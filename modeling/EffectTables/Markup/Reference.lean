import EffectTables.Text.Numeral
import EffectTables.Text.Pieces

namespace EffectTables.Markup.Reference

open Text (width)

inductive NumberFault where
  | signed
  | empty
  | badDigit
  | tooLarge
  | zero
  | noCharacter (number : Nat)
  deriving DecidableEq

-- Why a reference in the value of an attribute stands for no character. Positions count the bytes
-- of the value.
inductive Fault where
  | unclosed (start stop : Nat)
  | unknown (start stop : Nat) (name : String)
  | number (fault : NumberFault)
  deriving DecidableEq

def NumberFault.message : NumberFault → String
  | signed => "unexpected number sign"
  | empty => "cannot parse integer from empty string"
  | badDigit => "invalid digit found in string"
  | tooLarge => "number too large to fit in target type"
  | zero => "0x0 character is not permitted in XML"
  | noCharacter number => "`" ++ toString number ++ "` is not a valid codepoint"

def spanText (start stop : Nat) : String := toString start ++ ".." ++ toString stop

def Fault.message : Fault → String
  | unclosed start stop =>
      "Error while escaping character at range " ++ spanText start stop ++
        ": Cannot find ';' after '&'"
  | unknown start stop name =>
      "at " ++ spanText start stop ++ ": unrecognized entity `" ++ name ++ "`"
  | number fault => "invalid character reference: " ++ fault.message

-- Continues a number of 32 bits; the first bad digit or the first overflow from the left is
-- the fault.
def digitsFrom (base : Nat) (digit? : Char → Option Nat) (n : Nat) :
    List Char → Except NumberFault Nat
  | [] => .ok n
  | c :: rest =>
      match digit? c with
      | none => .error .badDigit
      | some d =>
          if n * base + d < 0x100000000 then digitsFrom base digit? (n * base + d) rest
          else .error .tooLarge

def unsigned (base : Nat) (digit? : Char → Option Nat) : List Char → Except NumberFault Nat
  | [] => .error .empty
  | c :: rest =>
      if c = '+' ∨ c = '-' then .error .signed else digitsFrom base digit? 0 (c :: rest)

def number : List Char → Except NumberFault Nat
  | 'x' :: text => unsigned 16 Text.Hex.digitValue? text
  | text => unsigned 10 Text.Decimal.digitValue? text

-- Every code point except zero is allowed.
def character (n : Nat) : Except NumberFault Char :=
  if n = 0 then .error .zero
  else if n.isValidChar then .ok (Char.ofNat n)
  else .error (.noCharacter n)

def entity? : List Char → Option Char
  | ['l', 't'] => some '<'
  | ['g', 't'] => some '>'
  | ['a', 'm', 'p'] => some '&'
  | ['a', 'p', 'o', 's'] => some '\x27'
  | ['q', 'u', 'o', 't'] => some '\x22'
  | _ => none

-- The character that a reference stands for; `start` is where its name stands.
def resolve (start : Nat) : List Char → Except Fault Char
  | '#' :: text => ((number text).bind character).mapError .number
  | name =>
      match entity? name with
      | some c => .ok c
      | none => .error (.unknown start (start + width name) (String.ofList name))

def NumberFault.inDigits : NumberFault → Bool
  | empty | badDigit | tooLarge => true
  | _ => false

-- The fault and what lies behind it, from the outside in. What is wrong with digits is told once
-- for the reference and once for the digits.
def Fault.trail : Fault → List String
  | number fault =>
      (number fault).message :: List.replicate (if fault.inDigits then 2 else 1) fault.message
  | fault => [fault.message]

def staysInName (c : Char) : Bool := c != '&' && c != ';'

-- Replaces the references from `position` on, in a value of `total` bytes. What a reference
-- stands for is not read again.
def decodeFrom (total position : Nat) : List Char → Except Fault (List Char)
  | [] => .ok []
  | c :: rest =>
      if c = '&' then
        let name := rest.takeWhile staysInName
        match h : rest.dropWhile staysInName with
        | ';' :: after => do
            let found ← resolve (position + 1) name
            let tail ← decodeFrom total (position + width name + 2) after
            return found :: tail
        | _ => .error (.unclosed position total)
      else do
        let tail ← decodeFrom total (position + c.utf8Size) rest
        return c :: tail
termination_by text => text.length
decreasing_by
  · have hle := (List.dropWhile_sublist (l := rest) staysInName).length_le
    rw [h] at hle
    simp only [List.length_cons] at hle ⊢
    omega
  · simp

def decode (value : List Char) : Except Fault (List Char) :=
  decodeFrom (width value) 0 value

end EffectTables.Markup.Reference
