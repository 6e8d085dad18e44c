import EffectTables.Markup.Tag

namespace EffectTables.Markup.Doctype

inductive Place where
  | outside
  | literal (quote : Quote)
  | subset
  | instruction (marked : Bool)
  | comment (dashes : Nat)
  | declaration (quote : Option Quote)
  | plain
  | closing

def quotedDeclarations : List (List Char) :=
  ["!ENTITY".toList, "!ATTLIST".toList, "!NOTATION".toList]

-- What a bracket in the internal subset opens, and how many characters belong to its opening.
-- A closing bracket between quotes counts as text in some declarations only.
def opened (text : List Char) : Nat × Place :=
  if ['?'].isPrefixOf text then (1, .instruction false)
  else if ['!', '-', '-'].isPrefixOf text then (3, .comment 0)
  else if quotedDeclarations.any (·.isPrefixOf text) then (0, .declaration none)
  else (0, .plain)

-- The place after the character `c`, with the number of characters to pass over before the next
-- one counts. Nothing if the declaration ends with `c`.
def Place.next (place : Place) (c : Char) (following : List Char) : Option (Nat × Place) :=
  match place with
  | outside =>
      if c = '>' then none
      else if c = '[' then some (0, .subset)
      else some (0, (Quote.ofChar? c).elim .outside .literal)
  | literal quote => some (0, if c = quote.char then .outside else .literal quote)
  | subset =>
      if c = '<' then some (opened following)
      else some (0, if c = ']' then .closing else .subset)
  | instruction marked => some (0, if marked ∧ c = '>' then .subset else .instruction (c = '?'))
  | comment dashes =>
      some (0, if 2 ≤ dashes ∧ c = '>' then .subset
        else if c = '-' then .comment (dashes + 1) else .comment 0)
  | declaration none =>
      some (0, if c = '>' then .subset else .declaration (Quote.ofChar? c))
  | declaration (some quote) =>
      some (0, .declaration (if c = quote.char then none else some quote))
  | plain => some (0, if c = '>' then .subset else .plain)
  | closing => if c = '>' then none else some (0, .closing)

def rest? (passed : Nat) (place : Place) : List Char → Option (List Char)
  | [] => none
  | c :: text =>
      match passed with
      | passed + 1 => rest? passed place text
      | 0 =>
          match place.next c text with
          | none => some text
          | some (passed, place) => rest? passed place text

theorem rest?_shorter {passed : Nat} {place : Place} {text rest : List Char}
    (h : rest? passed place text = some rest) : rest.length < text.length := by
  induction text generalizing passed place with
  | nil => simp [rest?] at h
  | cons c text ih =>
      cases passed with
      | succ passed =>
          have := ih (by simpa [rest?] using h)
          simp only [List.length_cons]
          omega
      | zero =>
          simp only [rest?] at h
          split at h
          · cases h
            simp
          · have := ih h
            simp only [List.length_cons]
            omega

end EffectTables.Markup.Doctype
