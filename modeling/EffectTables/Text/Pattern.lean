import EffectTables.Text.Alphanumeric
import EffectTables.Text.Numeral
import EffectTables.Text.Pattern.Nesting

namespace EffectTables.Text.Pattern

-- Where in a pattern the check of its form stands: where a term may begin, or inside something
-- that takes several characters. Flags and names keep what is written of them.
inductive Place where
  | free
  | escape
  | digits (left value : Nat) (asByte : Bool)
  | groupOpened
  | flags (written : List Char) (scope : Scope)
  | named
  | name (written : List Char)
  | setOpened (negated : Bool)
  | kindName
  | operator

-- All that is known about a pattern from its beginning up to some place. The innermost group and
-- the innermost set come first.
structure State where
  place : Place := .free
  inComment : Bool := false
  group : Group := {}
  outer : List Group := []
  sets : List Bracket := []
  names : List (List Char) := []

namespace State

def scope (state : State) : Scope := state.group.scope

def take? (state : State) (term : Term) : Option State :=
  match state.sets with
  | [] =>
      if state.scope.allows term then
        some { state with place := .free, group := state.group.add 0 }
      else none
  | set :: outer =>
      (set.take? state.scope term).map fun set =>
        { state with place := .free, sets := set :: outer }

def openGroup (state : State) (scope : Scope) : State :=
  { state with place := .free, group := { scope }, outer := state.group :: state.outer }

def closeGroup? (state : State) : Option State :=
  match state.outer with
  | [] => none
  | group :: outer => some { state with group := group.add (state.group.nesting + 1), outer }

def closeSet (state : State) : State :=
  match state.sets with
  | [] => state
  | [set] => { state with group := state.group.add (set.nesting + 1), sets := [] }
  | set :: next :: outer => { state with sets := next.add (set.nesting + 1) :: outer }

def openSet (state : State) : State :=
  { state with place := .setOpened false, sets := {} :: state.sets }

def nextFree? (state : State) (c : Char) : Option State :=
  match c with
  | '(' => some { state with place := .groupOpened }
  | ')' => state.closeGroup?
  | '|' => some { state with group := state.group.branch }
  | '[' => some state.openSet
  | '*' | '+' | '?' =>
      state.group.row.repeatLast?.map fun row => { state with group := { state.group with row } }
  | '\x7b' => none
  | '\\' => some { state with place := .escape }
  | '.' => state.take? .anything
  | '^' | '$' => state.take? .edge
  | c => state.take? (.character c false)

def kindNames : List (List Char) :=
  ["alnum".toList, "alpha".toList, "ascii".toList, "blank".toList, "cntrl".toList,
    "digit".toList, "graph".toList, "lower".toList, "print".toList, "punct".toList,
    "space".toList, "upper".toList, "word".toList, "xdigit".toList]

def beginsKindName (text : List Char) : Bool :=
  kindNames.any fun name => (name ++ [':', ']']).isPrefixOf text

-- Whether the name of a kind follows a bracket in a set, and whether the kind is negated.
def namedKind? : List Char → Option Bool
  | ':' :: '^' :: text => if beginsKindName text then some true else none
  | ':' :: text => if beginsKindName text then some false else none
  | _ => none

-- The next character that is no blank. Of a comment, it is the first one after the number sign.
def peek (spaced : Bool) (following : List Char) : Option Char :=
  match if spaced then following.dropWhile isBlank else following with
  | [] => none
  | c :: rest => if spaced ∧ c = '#' then (rest.dropWhile isBlank).head? else some c

-- A hyphen makes a range unless it is the last character of the set or one of two hyphens.
def beginsRange (scope : Scope) (set : Bracket) (following : List Char) : Bool :=
  set.before != .nothing &&
    match peek scope.spaced following with
    | some next => next != ']' && next != '-'
    | none => true

-- Where a part of a set or the second character of a range may begin.
def nextInSet? (state : State) (set : Bracket) (outer : List Bracket) (c : Char)
    (following : List Char) : Option State :=
  match set.before with
  | .hyphen _ =>
      if c = '\\' then some { state with place := .escape } else state.take? (.character c false)
  | before =>
      if c = '-' ∧ beginsRange state.scope set following then
        match before with
        | .character first =>
            some { state with sets := { set with before := .hyphen first } :: outer }
        | _ => none
      else if c = '[' then
        match namedKind? following with
        | some negated =>
            if state.scope.allowsNamedKind negated then
              some { state with place := .kindName, sets := set.add 0 :: outer }
            else none
        | none => some state.openSet
      else if c = ']' then some state.closeSet
      else if (c = '&' ∨ c = '-' ∨ c = '~') ∧ following.head? = some c then
        some { state with place := .operator, sets := set.operand :: outer }
      else if c = '\\' then some { state with place := .escape }
      else state.take? (.character c false)

def nextTerm? (state : State) (c : Char) (following : List Char) : Option State :=
  match state.sets with
  | [] => state.nextFree? c
  | set :: outer => state.nextInSet? set outer c following

-- A bracket right after the opening one and all hyphens there are characters of the set.
def nextSetOpened? (state : State) (negated : Bool) (c : Char) (following : List Char) :
    Option State :=
  let isFirst := state.sets.head?.all (·.row.length == 0)
  if c = '^' ∧ isFirst ∧ !negated then
    if state.scope.allowsNegatedSet then some { state with place := .setOpened true } else none
  else if c = '-' ∨ (c = ']' ∧ isFirst) then do
    let state ← state.take? (.character c false)
    let sets := match state.sets with
      | [] => []
      | set :: outer => { set with before := .nothing } :: outer
    return { state with place := if c = '-' then .setOpened true else .free, sets }
  else ({ state with place := .free } : State).nextTerm? c following

def nextEscape? (state : State) (c : Char) : Option State :=
  match c with
  | 'x' => some { state with place := .digits 2 0 true }
  | 'u' => some { state with place := .digits 4 0 false }
  | 'U' => some { state with place := .digits 8 0 false }
  | c => (Term.ofEscape? c).bind state.take?

def nextDigit? (state : State) (left value : Nat) (asByte : Bool) (c : Char) : Option State := do
  let digit ← Hex.digitValue? c
  let value := value * 16 + digit
  if 1 < left then return { state with place := .digits (left - 1) value asByte }
  else if value.isValidChar then state.take? (.character (Char.ofNat value) asByte)
  else none

-- No flag is given twice, and one must follow the minus sign. Flags that open no group need at
-- least one.
def nextFlag? (state : State) (written : List Char) (scope : Scope) (c : Char) : Option State :=
  if c = ':' ∨ c = ')' then
    if written.head? = some '-' then none
    else if c = ':' then some (state.openGroup scope)
    else if written.isEmpty then none
    else
      some { state with place := .free, group :=
        { state.group with scope, row := state.group.row.addFlags } }
  else if written.contains c then none
  else if c = '-' then some { state with place := .flags (c :: written) scope }
  else
    (scope.withFlag? (!written.contains '-') c).map fun scope =>
      { state with place := .flags (c :: written) scope }

def mayBeInName (isFirst : Bool) (c : Char) : Bool :=
  c == '_' ||
    if isFirst then isAlphabetic c else isAlphanumeric c || c == '.' || c == '[' || c == ']'

def nextInName? (state : State) (written : List Char) (c : Char) : Option State :=
  if c = '>' then
    if written.isEmpty ∨ state.names.contains written then none
    else some { state.openGroup state.scope with names := written :: state.names }
  else if mayBeInName written.isEmpty c then
    some { state with place := .name (c :: written) }
  else none

def isSpaced (state : State) : Bool :=
  state.scope.spaced &&
    match state.place with
    | .free | .digits _ _ _ | .groupOpened | .setOpened _ => true
    | _ => false

def next? (state : State) (c : Char) (following : List Char) : Option State :=
  if state.inComment then some { state with inComment := c != '\n' }
  else if state.isSpaced ∧ isBlank c then some state
  else if state.isSpaced ∧ c = '#' then some { state with inComment := true }
  else
    match state.place with
    | .free => state.nextTerm? c following
    | .escape => state.nextEscape? c
    | .digits left value asByte => state.nextDigit? left value asByte c
    | .groupOpened =>
        if c = '?' then
          if following.head? = some '<' then some { state with place := .named }
          else if ['P', '<'].isPrefixOf following then some { state with place := .named }
          else some { state with place := .flags [] state.scope }
        else (state.openGroup state.scope).nextTerm? c following
    | .flags written scope => state.nextFlag? written scope c
    | .named => some { state with place := if c = '<' then .name [] else .named }
    | .name written => state.nextInName? written c
    | .setOpened negated => state.nextSetOpened? negated c following
    | .kindName => some { state with place := if c = ']' then .free else .kindName }
    | .operator => some { state with place := .free }

def depthLimit : Nat := 250

def isComplete (state : State) : Bool :=
  match state.place, state.outer, state.sets with
  | .free, [], [] => state.group.nesting ≤ depthLimit
  | _, _, _ => false

def endsWell (state : State) : List Char → Bool
  | [] => state.isComplete
  | c :: rest => (state.next? c rest).any (·.endsWell rest)

end State

end EffectTables.Text.Pattern

namespace EffectTables.Text

-- Whether a text has the form of a pattern for texts: groups and sets are closed, what is to be
-- repeated is there, a backslash stands before something that it can change, and nothing needs a
-- table of the characters beyond ASCII.
def isPattern (text : List Char) : Bool := ({} : Pattern.State).endsWell text

end EffectTables.Text
