import EffectTables.Device.Document
import EffectTables.Proofs.Outcome
import EffectTables.Proofs.Text.Decimal
import Mathlib.Data.List.TakeWhile
import Mathlib.Data.Nat.Digits.Defs

namespace EffectTables

namespace Text

variable {before text after : List Char}

theorem exists_trim (text : List Char) :
    ∃ before after, text = before ++ trim text ++ after ∧ ∀ c ∈ before ++ after, isBlank c := by
  obtain ⟨rest, hrest⟩ : ∃ rest, text.dropWhile isBlank = rest := ⟨_, rfl⟩
  have hfront : text = text.takeWhile isBlank ++ rest := by
    rw [← hrest, List.takeWhile_append_dropWhile]
  have hback : rest = trim text ++ (rest.reverse.takeWhile isBlank).reverse := by
    rw [trim, hrest, ← List.reverse_append, List.takeWhile_append_dropWhile, List.reverse_reverse]
  refine ⟨text.takeWhile isBlank, (rest.reverse.takeWhile isBlank).reverse, ?_, ?_⟩
  · rw [List.append_assoc, ← hback, ← hfront]
  · intro c hc
    rcases List.mem_append.mp hc with hc | hc
    · exact List.mem_takeWhile_imp hc
    · exact List.mem_takeWhile_imp (List.mem_reverse.mp hc)

-- Blanks around a text without blanks are what is trimmed.
theorem trim_append (hblank : ∀ c ∈ before ++ after, isBlank c)
    (htext : ∀ c ∈ text, isBlank c = false) : trim (before ++ text ++ after) = text := by
  obtain ⟨hbefore, hafter⟩ := List.forall_mem_append.mp hblank
  have hself := trim_eq_self htext
  cases text with
  | nil =>
      rw [List.append_nil, trim, ← List.append_nil (before ++ after),
        List.dropWhile_append_of_pos hblank]
      rfl
  | cons c rest =>
      have hc : ¬ isBlank c := by simp [htext c List.mem_cons_self]
      have hdrop : (before ++ (c :: rest) ++ after).dropWhile isBlank = (c :: rest) ++ after := by
        rw [List.append_assoc, List.dropWhile_append_of_pos hbefore, List.cons_append,
          List.dropWhile_cons_of_neg hc]
      have hreverse : ∀ d ∈ after.reverse, isBlank d := fun d hd =>
        hafter d (List.mem_reverse.mp hd)
      rw [trim, List.dropWhile_cons_of_neg hc] at hself
      rw [trim, hdrop, List.reverse_append, List.dropWhile_append_of_pos hreverse, hself]

namespace Decimal

-- The value of digits, of which the last one counts the units.
def value (digits : List Char) : Nat :=
  Nat.ofDigits 10 (digits.reverse.map fun c => c.toNat - '0'.toNat)

-- At most one sign, then one or more digits.
inductive Numeral : List Char → Int → Prop
  | plain {digits : List Char} (nonempty : digits ≠ []) (all : ∀ c ∈ digits, c.isDigit) :
      Numeral digits (value digits)
  | plus {digits : List Char} (nonempty : digits ≠ []) (all : ∀ c ∈ digits, c.isDigit) :
      Numeral ('+' :: digits) (value digits)
  | minus {digits : List Char} (nonempty : digits ≠ []) (all : ∀ c ∈ digits, c.isDigit) :
      Numeral ('-' :: digits) (-value digits)

-- A numeral with any blanks before and behind it.
def Denotes (text : String) (n : Int) : Prop :=
  ∃ before numeral after, text.toList = before ++ numeral ++ after ∧
    (∀ c ∈ before ++ after, isBlank c) ∧ Numeral numeral n

theorem value_cons (c : Char) (rest : List Char) :
    value (c :: rest) = (c.toNat - '0'.toNat) * 10 ^ rest.length + value rest := by
  simp only [value, List.reverse_cons, List.map_append, List.map_cons, List.map_nil,
    Nat.ofDigits_append, Nat.ofDigits_singleton, List.length_map, List.length_reverse]
  rw [Nat.add_comm, Nat.mul_comm]

-- The running number moves up by as many places as digits follow.
theorem continue?_eq_some_iff {text : List Char} {m n : Nat} :
    continue? m text = some n ↔
      (∀ c ∈ text, c.isDigit) ∧ m * 10 ^ text.length + value text = n := by
  induction text generalizing m with
  | nil => simp [continue?, value]
  | cons c rest ih =>
      rw [continue?, digitValue?, List.forall_mem_cons, value_cons]
      by_cases hc : c.isDigit
      · have hzero : '0'.toNat = 0x30 := rfl
        rw [if_pos hc, Option.bind_some, ih, List.length_cons, hzero]
        simp only [hc, true_and]
        refine and_congr_right fun _ => ?_
        rw [Nat.add_mul, Nat.pow_succ', Nat.mul_assoc, Nat.add_assoc]
      · simp [hc]

theorem natural?_eq_some_iff {text : List Char} {n : Nat} :
    natural? text = some n ↔ text ≠ [] ∧ (∀ c ∈ text, c.isDigit) ∧ value text = n := by
  cases text with
  | nil => simp [natural?]
  | cons c rest =>
      rw [natural?, continue?_eq_some_iff, Nat.zero_mul, Nat.zero_add]
      · simp
      · exact List.cons_ne_nil c rest

theorem integer?_eq_some_iff {text : List Char} {n : Int} :
    integer? text = some n ↔ Numeral text n := by
  constructor
  · intro h
    unfold integer? at h
    split at h
    next rest =>
      cases hrest : natural? rest with
      | none =>
          rw [hrest] at h
          cases h
      | some m =>
          obtain ⟨hnonempty, hall, rfl⟩ := natural?_eq_some_iff.mp hrest
          rw [hrest] at h
          cases h
          exact .minus hnonempty hall
    next =>
      obtain ⟨_, hm, rfl⟩ := Option.map_eq_some_iff.mp h
      obtain ⟨hnonempty, hall, rfl⟩ := natural?_eq_some_iff.mp hm
      exact .plus hnonempty hall
    next =>
      obtain ⟨_, hm, rfl⟩ := Option.map_eq_some_iff.mp h
      obtain ⟨hnonempty, hall, rfl⟩ := natural?_eq_some_iff.mp hm
      exact .plain hnonempty hall
  · intro h
    cases h with
    | @plain digits hnonempty hall =>
        obtain ⟨c, rest, rfl⟩ := List.exists_cons_of_ne_nil hnonempty
        rw [integer?_of_isDigit (hall c List.mem_cons_self),
          natural?_eq_some_iff.mpr ⟨hnonempty, hall, rfl⟩]
        rfl
    | plus hnonempty hall =>
        rw [integer?, natural?_eq_some_iff.mpr ⟨hnonempty, hall, rfl⟩]
        rfl
    | minus hnonempty hall =>
        rw [integer?, natural?_eq_some_iff.mpr ⟨hnonempty, hall, rfl⟩]
        rfl

theorem Numeral.not_isBlank {text : List Char} {n : Int} (h : Numeral text n) :
    ∀ c ∈ text, isBlank c = false := by
  have hplus : isBlank '+' = false := by decide
  have hminus : isBlank '-' = false := by decide
  cases h with
  | plain _ hall => exact fun c hc => isBlank_of_isDigit (hall c hc)
  | plus _ hall =>
      exact List.forall_mem_cons.mpr ⟨hplus, fun c hc => isBlank_of_isDigit (hall c hc)⟩
  | minus _ hall =>
      exact List.forall_mem_cons.mpr ⟨hminus, fun c hc => isBlank_of_isDigit (hall c hc)⟩

theorem denotes_iff {text : String} {n : Int} :
    Denotes text n ↔ integer? (trim text.toList) = some n := by
  rw [integer?_eq_some_iff]
  constructor
  · intro h
    obtain ⟨before, numeral, after, htext, hblank, hnumeral⟩ := h
    rwa [htext, trim_append hblank hnumeral.not_isBlank]
  · intro h
    obtain ⟨before, after, htext, hblank⟩ := exists_trim text.toList
    exact ⟨before, _, after, htext, hblank, h⟩

theorem toInt32?_eq_some_iff {n : Int} {v : Int32} : toInt32? n = some v ↔ n = v.toInt := by
  constructor
  · intro h
    rw [toInt32?] at h
    split at h
    next hbounds =>
      cases h
      exact (Int32.toInt_ofInt_of_le hbounds.1 (Int.lt_add_one_of_le hbounds.2)).symm
    next => cases h
  · rintro rfl
    exact toInt32?_toInt v

theorem toInt32?_eq_none_iff {n : Int} :
    toInt32? n = none ↔ n < -2147483648 ∨ 2147483647 < n := by
  have hmin : Int32.minValue.toInt = -2147483648 := by decide
  have hmax : Int32.maxValue.toInt = 2147483647 := by decide
  rw [toInt32?, hmin, hmax]
  split
  next h => simpa using h
  next h => simpa [Decidable.or_iff_not_imp_left] using h

theorem read?_eq_some_iff {text : String} {v : Int32} :
    read? text = some v ↔ Denotes text v.toInt := by
  rw [read?, Option.bind_eq_some_iff, denotes_iff]
  constructor
  · intro h
    obtain ⟨n, hn, hv⟩ := h
    rw [hn, toInt32?_eq_some_iff.mp hv]
  · intro h
    exact ⟨_, h, toInt32?_toInt v⟩

theorem read?_eq_none_iff {text : String} :
    read? text = none ↔ ∀ n, Denotes text n → n < -2147483648 ∨ 2147483647 < n := by
  simp only [read?, Option.bind_eq_none_iff, denotes_iff, toInt32?_eq_none_iff]

-- One more than the greatest number.
example : read? "+2147483648" = none := by decide

theorem numeral_write (v : Int32) : Numeral (write v).toList v.toInt := by
  rw [← integer?_eq_some_iff, write, String.toList_ofList]
  split
  next hneg =>
    have hvalue : -(v.toInt.natAbs : Int) = v.toInt := by omega
    rw [integer?_minus_digits, hvalue]
  next hneg =>
    have hvalue : (v.toInt.natAbs : Int) = v.toInt := by omega
    rw [integer?_digits, hvalue]

end Decimal

end Text

namespace Device.Attributes

open Text (isBlank)
open Text.Decimal (Denotes write)

variable {attributes : Attributes} {key value : String}

theorem integer?_of_lookup (h : attributes.lookup key = some value) (element : Element) :
    attributes.integer? element key =
      match Text.Decimal.read? value with
      | none => .error (.noInteger element key value)
      | some v => .ok (some v) := by
  cases hread : Text.Decimal.read? value <;> simp [integer?, h, hread]

-- An attribute is read as a 32-bit number exactly if its text is a numeral of that number, blanks
-- aside. Any other text is refused as it stands, be it no numeral or one of a number out of range.
theorem reads_numerals (h : attributes.lookup key = some value) (element : Element) :
    (∀ v, attributes.integer? element key = .ok (some v) ↔ Denotes value v.toInt) ∧
    (attributes.integer? element key = .error (.noInteger element key value) ↔
      ∀ n, Denotes value n → n < -2147483648 ∨ 2147483647 < n) ∧
    (∀ v, attributes.integer element key = .ok v ↔
      attributes.integer? element key = .ok (some v)) ∧
    (∀ error, attributes.integer element key = .error error ↔
      attributes.integer? element key = .error error) ∧
    ∀ v before after, (∀ c ∈ before ++ after, isBlank c) →
      value.toList = before ++ (write v).toList ++ after →
        attributes.integer? element key = .ok (some v) := by
  have haccepted (v : Int32) :
      attributes.integer? element key = .ok (some v) ↔ Denotes value v.toInt := by
    rw [integer?_of_lookup h, ← Text.Decimal.read?_eq_some_iff]
    cases Text.Decimal.read? value <;> simp
  refine ⟨haccepted, ?_, fun v => ?_, fun error => ?_, fun v before after hblank hvalue => ?_⟩
  · rw [integer?_of_lookup h, ← Text.Decimal.read?_eq_none_iff]
    cases Text.Decimal.read? value <;> simp
  · rw [integer, integer?_of_lookup h]
    cases Text.Decimal.read? value <;> simp [bind, Except.bind, pure, Except.pure]
  · rw [integer, integer?_of_lookup h]
    cases Text.Decimal.read? value <;> simp [bind, Except.bind, pure, Except.pure]
  · refine (haccepted v).mpr ⟨before, _, after, hvalue, hblank, ?_⟩
    exact Text.Decimal.numeral_write v

-- A no-break space before the sign, and more digits than are needed.
theorem reads_numerals_padded :
    List.lookup "id" [("id", "\u00a0-0042 ")] = some "\u00a0-0042 " ∧
      integer? [("id", "\u00a0-0042 ")] .amp "id" = .ok (some (-42)) ∧
      Denotes "\u00a0-0042 " (-42) := by
  have hlookup : List.lookup "id" [("id", "\u00a0-0042 ")] = some "\u00a0-0042 " := rfl
  have hread : integer? [("id", "\u00a0-0042 ")] .amp "id" = .ok (some (-42)) := by decide
  exact ⟨hlookup, hread, ((reads_numerals hlookup .amp).1 (-42)).mp hread⟩

end Device.Attributes

end EffectTables
