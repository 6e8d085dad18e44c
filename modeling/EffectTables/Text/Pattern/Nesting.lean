import EffectTables.Text.Pattern.Term

namespace EffectTables.Text.Pattern

-- Parts of a pattern one after another: how many there are, how deep those before the last one
-- nest, and how deep the last one does unless it cannot be repeated.
structure Row where
  length : Nat := 0
  depth : Nat := 0
  last : Option Nat := none
  deriving DecidableEq

namespace Row

def add (row : Row) (depth : Nat) : Row :=
  { length := row.length + 1, depth := max row.depth (row.last.getD 0), last := some depth }

def addFlags (row : Row) : Row :=
  { length := row.length + 1, depth := max row.depth (row.last.getD 0) }

def repeatLast? (row : Row) : Option Row :=
  row.last.map fun depth => { row with last := some (depth + 1) }

-- Two parts or more are one level deeper than the parts themselves.
def nesting (row : Row) : Nat :=
  let deepest := max row.depth (row.last.getD 0)
  if 1 < row.length then deepest + 1 else deepest

end Row

-- A group that is still open: the scope at this place, how deep the branches before this one nest,
-- if there are any, and the parts of this branch.
structure Group where
  scope : Scope := {}
  ended : Option Nat := none
  row : Row := {}
  deriving DecidableEq

namespace Group

def nesting (group : Group) : Nat :=
  match group.ended with
  | none => group.row.nesting
  | some depth => max depth group.row.nesting + 1

def branch (group : Group) : Group :=
  { group with ended := some (max (group.ended.getD 0) group.row.nesting), row := {} }

def add (group : Group) (depth : Nat) : Group := { group with row := group.row.add depth }

end Group

-- What stands before a place in a set: nothing that could begin a range, a character, a kind of
-- characters, or a hyphen after the first character of a range.
inductive Before where
  | nothing
  | character (c : Char)
  | kind
  | hyphen (first : Char)
  deriving DecidableEq

-- A set that is still open: how deep the operand before the operator nests, if there is an
-- operator, and the parts of this operand.
structure Bracket where
  left : Option Nat := none
  row : Row := {}
  before : Before := .nothing
  deriving DecidableEq

namespace Bracket

def nesting (bracket : Bracket) : Nat :=
  match bracket.left with
  | none => bracket.row.nesting
  | some depth => max depth bracket.row.nesting + 1

def operand (bracket : Bracket) : Bracket := { left := some bracket.nesting }

def add (bracket : Bracket) (depth : Nat) : Bracket :=
  { bracket with row := bracket.row.add depth, before := .nothing }

-- A range ends with a character that does not come before its first one. It is one part.
def take? (scope : Scope) (bracket : Bracket) (term : Term) : Option Bracket :=
  if !scope.allowsInSet term then none
  else
    match bracket.before, term with
    | .hyphen first, .character c _ =>
        if first ≤ c then some { bracket with before := .nothing } else none
    | .hyphen _, _ => none
    | _, .character c _ => some { bracket.add 0 with before := .character c }
    | _, _ => some { bracket.add 0 with before := .kind }

end Bracket

end EffectTables.Text.Pattern
