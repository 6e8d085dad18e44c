import EffectTables.Proofs.Code.Literal
import EffectTables.Proofs.Text.Delimited
import Mathlib.Data.List.Induction

namespace EffectTables.Code.Literal

-- How a compiler reads a string literal. What the literal stands for are bytes: a character gives
-- those of its encoding, an octal escape gives one.

def isOctalDigit (c : Char) : Bool := '0' ≤ c && c ≤ '7'

def octalValue (digits : List Char) : Nat :=
  digits.foldl (fun value digit => 8 * value + (digit.toNat - '0'.toNat)) 0

-- An octal escape takes all the octal digits that there are, but three at most.
def octalDigits (text : List Char) : List Char := (text.take 3).takeWhile isOctalDigit

def readOctal (text : List Char) : Option (List UInt8 × List Char) :=
  if octalDigits text = [] ∨ 0xFF < octalValue (octalDigits text) then none
  else some ([(octalValue (octalDigits text)).toUInt8], text.drop (octalDigits text).length)

-- What stands behind a backslash.
def readEscape : List Char → Option (List UInt8 × List Char)
  | [] => none
  | mark :: rest =>
      match marks.find? (·.2 == mark) with
      | some (c, _) => some (String.utf8EncodeChar c, rest)
      | none => readOctal (mark :: rest)

def readElement : List Char → Option (List UInt8 × List Char)
  | [] => none
  | c :: rest =>
      if c = '\\' then readEscape rest
      else if c = '\n' then none
      else some (String.utf8EncodeChar c, rest)

section

variable {text rest : List Char} {bytes : List UInt8}

theorem readOctal_shorter (h : readOctal text = some (bytes, rest)) :
    rest.length < text.length := by
  unfold readOctal at h
  split at h
  next => cases h
  next hdigits =>
    cases h
    have hdigits := List.length_pos_iff.mpr (not_or.mp hdigits).1
    have hrun : (octalDigits text).length ≤ text.length :=
      Nat.le_trans (List.takeWhile_prefix _).length_le (List.length_take_le' ..)
    rw [List.length_drop]
    omega

theorem readElement_shorter (h : readElement text = some (bytes, rest)) :
    rest.length < text.length := by
  cases text with
  | nil => cases h
  | cons c after =>
      rw [readElement] at h
      split_ifs at h
      · cases after with
        | nil => cases h
        | cons mark after =>
            rw [readEscape] at h
            split at h
            next =>
              cases h
              simp only [List.length_cons]
              omega
            next => exact Nat.lt_succ_of_lt (readOctal_shorter h)
      · cases h
        simp

end

-- All up to the quotation mark that ends the literal, and the text behind it.
def readBody (text : List Char) : Option (List UInt8 × List Char) :=
  if text.head? = some '\x22' then some ([], text.tail)
  else
    match _h : readElement text with
    | none => none
    | some (bytes, rest) => (readBody rest).map fun (more, after) => (bytes ++ more, after)
termination_by text.length
decreasing_by exact readElement_shorter _h

-- The text that the literal at the beginning stands for, and what follows the literal.
def read : List Char → Option (String × List Char)
  | '\x22' :: rest =>
      (readBody rest).bind fun (bytes, after) =>
        (String.fromUTF8? bytes.toByteArray).map fun text => (text, after)
  | _ => none

-- Behind a backslash, a mark is read as its character.
theorem readEscape_mark {c mark : Char} (h : (c, mark) ∈ marks) (rest : List Char) :
    readEscape (mark :: rest) = some (String.utf8EncodeChar c, rest) := by
  have hall : ∀ pair ∈ marks, marks.find? (·.2 == pair.2) = some pair := by decide
  have hfind : marks.find? (·.2 == mark) = some (c, mark) := hall _ h
  rw [readEscape, hfind]

theorem isOctalDigit_octalDigit (n : Nat) : isOctalDigit (octalDigit n) := by
  have hall : ∀ d < 8, isOctalDigit (Char.ofNat (d + 0x30)) := by decide
  exact hall _ (Nat.mod_lt n (by decide))

theorem octalDigit_toNat (n : Nat) : (octalDigit n).toNat - '0'.toNat = n % 8 := by
  have hall : ∀ d < 8, (Char.ofNat (d + 0x30)).toNat - '0'.toNat = d := by decide
  exact hall _ (Nat.mod_lt n (by decide))

-- An octal escape of three digits ends after them, whether another digit follows or not.
theorem octalDigits_three (a b c : Nat) (rest : List Char) :
    octalDigits (octalDigit a :: octalDigit b :: octalDigit c :: rest) =
      [octalDigit a, octalDigit b, octalDigit c] := by
  simp [octalDigits, isOctalDigit_octalDigit]

theorem octalValue_three {n : Nat} (h : n < 0x200) :
    octalValue [octalDigit (n / 64), octalDigit (n / 8), octalDigit n] = n := by
  simp only [octalValue, List.foldl_cons, List.foldl_nil, octalDigit_toNat]
  omega

theorem readEscape_octal {n : Nat} (h : n ≤ 0xFF) (rest : List Char) :
    readEscape (octalDigit (n / 64) :: octalDigit (n / 8) :: octalDigit n :: rest) =
      some ([n.toUInt8], rest) := by
  have hmark : marks.find? (·.2 == octalDigit (n / 64)) = none := by
    refine List.find?_eq_none.mpr fun pair hpair hmark => ?_
    exact mark_ne_octalDigit hpair _ (eq_of_beq hmark)
  have hvalue := octalValue_three (n := n) (by omega)
  rw [readEscape, hmark]
  simp only [readOctal, octalDigits_three, hvalue]
  simp [Nat.not_lt.mpr h]

theorem readElement_backslash (rest : List Char) :
    readElement ('\\' :: rest) = readEscape rest := by
  rw [readElement, if_pos rfl]

-- Whatever stands behind an escape, the escape is read as its character.
theorem readElement_escape (c : Char) (rest : List Char) :
    readElement (escape c ++ rest) = some (String.utf8EncodeChar c, rest) := by
  rcases escape_cases c with ⟨mark, hmark, hc⟩ | ⟨hcontrol, hc⟩ | ⟨hslash, -, hplain, hc⟩ <;>
    rw [hc] <;> simp only [List.cons_append, List.nil_append]
  · rw [readElement_backslash, readEscape_mark hmark]
  · simp only [isControl, Bool.or_eq_true, decide_eq_true_eq, beq_iff_eq] at hcontrol
    have hascii : c.toNat < 0x80 := by omega
    rw [readElement_backslash, readEscape_octal (by omega), Text.utf8EncodeChar_of_ascii hascii]
  · have hline : c ≠ '\n' := by
      rintro rfl
      cases hplain
    rw [readElement, if_neg hslash, if_neg hline]

theorem readBody_quote (rest : List Char) : readBody ('\x22' :: rest) = some ([], rest) := by
  rw [readBody, if_pos List.head?_cons, List.tail_cons]

theorem readBody_escape (c : Char) (rest : List Char) :
    readBody (escape c ++ rest) =
      (readBody rest).map fun (more, after) => (String.utf8EncodeChar c ++ more, after) := by
  have hhead : (escape c ++ rest).head? ≠ some '\x22' := by
    intro hhead
    obtain ⟨tail, htail⟩ := List.head?_eq_some_iff.mp hhead
    exact ends_quote tail trivial rest htail.symm
  rw [readBody, if_neg hhead]
  split
  next hnone => cases hnone.symm.trans (readElement_escape c rest)
  next bytes after hsome =>
    cases hsome.symm.trans (readElement_escape c rest)
    rfl

theorem readBody_flatMap (chars rest : List Char) :
    readBody (chars.flatMap escape ++ '\x22' :: rest) =
      some (chars.flatMap String.utf8EncodeChar, rest) := by
  induction chars with
  | nil => exact readBody_quote rest
  | cons c chars ih =>
      rw [List.flatMap_cons, List.append_assoc, readBody_escape, ih]
      rfl

-- The literal of a text is read as the text, and the reading stops where the literal ends.
theorem read_quote_append (text : String) (rest : List Char) :
    read ((quote text).toList ++ rest) = some (text, rest) := by
  have hbytes : String.fromUTF8? (text.toList.flatMap String.utf8EncodeChar).toByteArray =
      some text := Text.fromUTF8?_eq_some_iff.mpr (Text.toUTF8_eq text).symm
  simp only [quote, String.toList_ofList, List.cons_append, List.append_assoc, List.nil_append,
    read, readBody_flatMap, Option.bind_some, hbytes, Option.map_some]

-- A digit behind an escaped character is not read as a digit of the escape.
example : read ((quote "\x0123").toList ++ "4".toList) = some ("\x0123", ['4']) := by
  decide +kernel

-- The backslashes at the end of a text. What follows an odd number of them is escaped.
def trailing (front : List Char) : Nat := (front.reverse.takeWhile (· == '\\')).length

theorem trailing_concat_of_ne {c : Char} (h : c ≠ '\\') (front : List Char) :
    trailing (front ++ [c]) = 0 := by
  simp [trailing, h]

theorem trailing_concat_backslash (front : List Char) :
    trailing (front ++ ['\\']) = trailing front + 1 := by
  simp [trailing]

-- No escape leaves a backslash behind that could escape what follows.
theorem trailing_append_escape (c : Char) (front : List Char) :
    trailing (front ++ escape c) % 2 = 0 ∨
      trailing (front ++ escape c) = trailing front + 2 := by
  rcases escape_cases c with ⟨mark, -, hc⟩ | ⟨-, hc⟩ | ⟨hslash, -, -, hc⟩ <;> rw [hc]
  · rw [List.append_cons]
    by_cases hmark : mark = '\\'
    · rw [hmark, trailing_concat_backslash, trailing_concat_backslash]
      exact .inr rfl
    · rw [trailing_concat_of_ne hmark]
      exact .inl rfl
  · have hdigit : octalDigit c.toNat ≠ '\\' := fun h =>
      absurd (h ▸ isOctalDigit_octalDigit c.toNat) (by decide)
    rw [List.append_cons, List.append_cons, List.append_cons, trailing_concat_of_ne hdigit]
    exact .inl rfl
  · rw [trailing_concat_of_ne hslash]
    exact .inl rfl

theorem trailing_flatMap (chars : List Char) : trailing (chars.flatMap escape) % 2 = 0 := by
  induction chars using List.reverseRecOn with
  | nil => rfl
  | append_singleton chars c ih =>
      rw [List.flatMap_append, List.flatMap_singleton]
      rcases trailing_append_escape c (chars.flatMap escape) with heven | htwo <;> omega

-- A quotation mark in an escape stands behind the backslash.
theorem eq_of_escape_eq {c : Char} {front back : List Char}
    (h : escape c = front ++ '\x22' :: back) : front = ['\\'] := by
  have hmem : '\x22' ∈ escape c := h ▸ List.mem_append_right front List.mem_cons_self
  have hslash : '\x22' ≠ '\\' := by decide
  have hdigit (n : Nat) : '\x22' ≠ octalDigit n := mark_ne_octalDigit (c := '\x22') (by decide) n
  rcases escape_cases c with ⟨mark, -, hc⟩ | ⟨-, hc⟩ | ⟨-, hquote, -, hc⟩ <;> rw [hc] at h hmem
  · cases front with
    | nil => exact absurd (List.head_eq_of_cons_eq h).symm hslash
    | cons first front =>
        cases front with
        | nil => rw [← List.head_eq_of_cons_eq h]
        | cons second front => simp at h
  · simp [hslash, hdigit] at hmem
  · exact absurd (List.mem_singleton.mp hmem).symm hquote

-- So does a quotation mark among escapes, and what comes before are whole escapes.
theorem exists_of_flatMap_eq {chars front back : List Char}
    (h : chars.flatMap escape = front ++ '\x22' :: back) :
    ∃ before : List Char, front = before.flatMap escape ++ ['\\'] := by
  induction chars generalizing front with
  | nil => simp at h
  | cons c chars ih =>
      rw [List.flatMap_cons] at h
      obtain ⟨later, rfl, hlater⟩ | ⟨later, hc, hlater⟩ := List.append_eq_append_iff.mp h
      · obtain ⟨before, rfl⟩ := ih hlater
        exact ⟨c :: before, by rw [List.flatMap_cons, List.append_assoc]⟩
      · cases later with
        | nil =>
            have hback : chars.flatMap escape = [] ++ '\x22' :: back := hlater.symm
            obtain ⟨before, hbefore⟩ := ih hback
            simp at hbefore
        | cons first later =>
            rw [List.cons_append, List.cons.injEq] at hlater
            obtain ⟨rfl, -⟩ := hlater
            exact ⟨[], eq_of_escape_eq hc⟩

-- What stands between the quotation marks of a literal. It can be printed, and what could end the
-- literal early is escaped, but not what ends it.
structure Body (body : List Char) : Prop where
  printable : ∀ c ∈ body, 0x20 ≤ c.toNat ∧ c.toNat ≠ 0x7F
  escaped : ∀ front back, body = front ++ '\x22' :: back → trailing front % 2 = 1
  ended : trailing body % 2 = 0

theorem body_flatMap (chars : List Char) : Body (chars.flatMap escape) where
  printable c hc := by
    obtain ⟨d, -, hd⟩ := List.mem_flatMap.mp hc
    have hcontrol := not_isControl_of_mem_escape hd
    simp only [isControl, Bool.or_eq_false_iff, decide_eq_false_iff_not, beq_eq_false_iff_ne]
      at hcontrol
    exact ⟨Nat.not_lt.mp hcontrol.1, hcontrol.2⟩
  escaped front back h := by
    obtain ⟨before, rfl⟩ := exists_of_flatMap_eq h
    have heven := trailing_flatMap before
    rw [trailing_concat_backslash]
    omega
  ended := trailing_flatMap chars

-- The literal of a text is one token, and a compiler reads it as the text.
theorem quote_reads_back (text : String) :
    (∃ body, (quote text).toList = '\x22' :: body ++ ['\x22'] ∧ Body body) ∧
      (∀ rest, read ((quote text).toList ++ rest) = some (text, rest)) ∧
      ∀ other, quote other = quote text ↔ other = text := by
  refine ⟨⟨text.toList.flatMap escape, String.toList_ofList, body_flatMap _⟩,
    read_quote_append text, fun other => ⟨quote_injective, congrArg quote⟩⟩

end EffectTables.Code.Literal
