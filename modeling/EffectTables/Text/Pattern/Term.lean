namespace EffectTables.Text.Pattern

-- How the terms of a pattern are to be taken from some place on, as the flags before it say: in
-- either case or as they are written, as characters of Unicode or as bytes, and with blanks and
-- comments between them or without.
structure Scope where
  foldsCase : Bool := false
  unicode : Bool := true
  spaced : Bool := false
  deriving DecidableEq

def Scope.withFlag? (scope : Scope) (on : Bool) (flag : Char) : Option Scope :=
  match flag with
  | 'i' => some { scope with foldsCase := on }
  | 'u' => some { scope with unicode := on }
  | 'x' => some { scope with spaced := on }
  | 'm' | 's' | 'U' | 'R' => some scope
  | _ => none

-- The smallest parts of a pattern: a character, which may be written as the two digits of a byte,
-- any character at all, one of a kind of characters, an end of a line or of the text, and an end
-- of a word.
inductive Term where
  | character (c : Char) (asByte : Bool)
  | anything
  | kind
  | edge
  | wordEdge
  deriving DecidableEq

-- The term of a backslash and a character, hexadecimal digits aside. The properties of Unicode
-- and what does not belong to a kind go beyond ASCII, for which there are no tables.
def Term.ofEscape? (c : Char) : Option Term :=
  match c with
  | 'd' | 's' | 'w' => some .kind
  | 'A' | 'z' => some .edge
  | 'b' | 'B' | '<' | '>' => some .wordEdge
  | 'a' => some (.character '\x07' false)
  | 't' => some (.character '\t' false)
  | 'n' => some (.character '\n' false)
  | 'v' => some (.character '\x0b' false)
  | 'f' => some (.character '\x0c' false)
  | 'r' => some (.character '\r' false)
  | c => if c.toNat < 0x80 ∧ !c.isAlphanum then some (.character c false) else none

namespace Scope

-- Without tables beyond ASCII, characters of Unicode have no cases, no kinds and no words. Bytes
-- must not be taken out of the middle of a character.
def allows (scope : Scope) : Term → Bool
  | .character c asByte =>
      if scope.unicode then !scope.foldsCase else !asByte || c.toNat < 0x80
  | .anything => scope.unicode
  | .kind | .wordEdge => !scope.unicode
  | .edge => true

def allowsInSet (scope : Scope) : Term → Bool
  | .character c _ => if scope.unicode then !scope.foldsCase else c.toNat < 0x80
  | .kind => !scope.unicode
  | _ => false

def allowsNamedKind (scope : Scope) (negated : Bool) : Bool :=
  if scope.unicode then !scope.foldsCase else !negated

def allowsNegatedSet (scope : Scope) : Bool := scope.unicode

end Scope

end EffectTables.Text.Pattern
