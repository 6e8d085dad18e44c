import EffectTables.Text.Casing

namespace EffectTables.Text

-- Membership in ascending ranges of code points; the search ends at the first range beyond.
def inRanges : List (Nat × Nat) → Nat → Bool
  | [], _ => false
  | (first, last) :: rest, n => first ≤ n && (n ≤ last || inRanges rest n)

def isCased (c : Char) : Bool := inRanges casedRanges c.toNat

def isCaseIgnorable (c : Char) : Bool := inRanges caseIgnorableRanges c.toNat

-- The distance from a letter to its small letter, in ascending runs of capitals.
def smallOffset : List CapitalRun → Nat → Int
  | [], _ => 0
  | run :: rest, n =>
      if n < run.first then 0
      else if n ≤ run.last then (if (n - run.first) % run.step = 0 then run.offset else 0)
      else smallOffset rest n

def smallLetter (c : Char) : Char :=
  Char.ofNat (c.toNat + smallOffset capitalRuns c.toNat).toNat

-- A cased letter comes next, after any number of characters that casing ignores.
def meetsCased (text : List Char) : Bool :=
  match text.dropWhile isCaseIgnorable with
  | [] => false
  | c :: _ => isCased c

def capitalSigma : Char := '\u03a3'

def dottedCapitalI : Char := '\u0130'

-- A capital sigma that ends a word takes the final form. The dotted capital I is the only letter
-- whose lower case has two characters. `before` holds the characters to the left, last one first.
def lowerLetter (before : List Char) (c : Char) (after : List Char) : List Char :=
  if c = capitalSigma then
    [if meetsCased before && !meetsCased after then '\u03c2' else '\u03c3']
  else if c = dottedCapitalI then ['i', '\u0307']
  else [smallLetter c]

def lowerFrom (before : List Char) : List Char → List Char
  | [] => []
  | c :: after => lowerLetter before c after ++ lowerFrom (c :: before) after

def lowercase (text : String) : String :=
  String.ofList (lowerFrom [] text.toList)

end EffectTables.Text
