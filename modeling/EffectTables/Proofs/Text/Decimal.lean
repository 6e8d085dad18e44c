import EffectTables.Text.Numeral
import Mathlib.Data.List.Basic

namespace EffectTables.Text

theorem trim_eq_self {text : List Char} (h : ∀ c ∈ text, isBlank c = false) : trim text = text := by
  have hdrop : ∀ {text : List Char}, (∀ c ∈ text, isBlank c = false) →
      text.dropWhile isBlank = text := by
    intro text h
    cases text with
    | nil => rfl
    | cons c rest => rw [List.dropWhile_cons_of_neg (by simp [h c List.mem_cons_self])]
  rw [trim, hdrop h, hdrop fun c hc => h c (List.mem_reverse.mp hc), List.reverse_reverse]

theorem isBlank_of_isDigit {c : Char} (h : c.isDigit) : isBlank c = false := by
  have hbounds := Char.isDigit_iff_toNat.mp h
  have hzero : '0'.toNat = 48 := by decide
  have hnine : '9'.toNat = 57 := by decide
  simp only [isBlank, Bool.or_eq_false_iff, Bool.and_eq_false_iff, decide_eq_false_iff_not,
    beq_eq_false_iff_ne]
  omega

namespace Decimal

theorem isDigit_digit (n : Nat) : (digit n).isDigit := by
  have hall : ∀ d < 10, (Char.ofNat (d + 0x30)).isDigit := by decide
  exact hall (n % 10) (Nat.mod_lt n (by decide))

theorem digitValue?_digit (n : Nat) : digitValue? (digit n) = some (n % 10) := by
  have hall : ∀ d < 10, digitValue? (Char.ofNat (d + 0x30)) = some d := by decide
  exact hall (n % 10) (Nat.mod_lt n (by decide))

theorem isDigit_of_mem_digits {n : Nat} {c : Char} (h : c ∈ digits n) : c.isDigit := by
  induction n using digits.induct with
  | case1 n hn =>
      rw [digits, if_pos hn, List.mem_singleton] at h
      exact h ▸ isDigit_digit n
  | case2 n hn ih =>
      rw [digits, if_neg hn, List.mem_append, List.mem_singleton] at h
      rcases h with h | rfl
      · exact ih h
      · exact isDigit_digit n

theorem digits_ne_nil (n : Nat) : digits n ≠ [] := by
  rw [digits]
  split <;> simp

theorem continue?_append (n : Nat) (text rest : List Char) :
    continue? n (text ++ rest) = (continue? n text).bind fun m => continue? m rest := by
  induction text generalizing n with
  | nil => rfl
  | cons c text ih =>
      simp only [List.cons_append, continue?]
      cases digitValue? c with
      | none => rfl
      | some d => exact ih _

-- Digits are read as the number that they were written for.
theorem continue?_digits (n : Nat) : continue? 0 (digits n) = some n := by
  induction n using digits.induct with
  | case1 n h =>
      rw [digits, if_pos h]
      simp [continue?, digitValue?_digit, Nat.mod_eq_of_lt h]
  | case2 n h ih =>
      rw [digits, if_neg h, continue?_append, ih]
      simp only [Option.bind_some, continue?, digitValue?_digit, Option.some.injEq]
      omega

theorem natural?_digits (n : Nat) : natural? (digits n) = some n := by
  rw [natural?, continue?_digits]
  exact digits_ne_nil n

theorem integer?_of_isDigit {c : Char} {rest : List Char} (h : c.isDigit) :
    integer? (c :: rest) = (natural? (c :: rest)).map Int.ofNat := by
  unfold integer?
  split
  next he => cases he; exact absurd h (by decide)
  next he => cases he; exact absurd h (by decide)
  next => rfl

theorem integer?_digits (n : Nat) : integer? (digits n) = some (n : Int) := by
  obtain ⟨c, rest, hdigits⟩ := List.exists_cons_of_ne_nil (digits_ne_nil n)
  have hdigit : c.isDigit := isDigit_of_mem_digits (hdigits ▸ List.mem_cons_self)
  rw [hdigits, integer?_of_isDigit hdigit, ← hdigits, natural?_digits]
  rfl

theorem integer?_minus_digits (n : Nat) : integer? ('-' :: digits n) = some (-(n : Int)) := by
  rw [integer?, natural?_digits]
  rfl

theorem toInt32?_toInt (v : Int32) : toInt32? v.toInt = some v := by
  rw [toInt32?, if_pos ⟨v.minValue_le_toInt, v.toInt_le⟩, Int32.ofInt_toInt]

-- A number is read as it was written.
theorem read?_write (v : Int32) : read? (write v) = some v := by
  have hblank : ∀ c ∈ digits v.toInt.natAbs, isBlank c = false :=
    fun c hc => isBlank_of_isDigit (isDigit_of_mem_digits hc)
  rw [read?, write, String.toList_ofList]
  split
  next hneg =>
    have hminus : isBlank '-' = false := by decide
    rw [trim_eq_self (List.forall_mem_cons.mpr ⟨hminus, hblank⟩), integer?_minus_digits,
      Option.bind_some]
    have hvalue : -(v.toInt.natAbs : Int) = v.toInt := by omega
    rw [hvalue, toInt32?_toInt]
  next hneg =>
    rw [trim_eq_self hblank, integer?_digits, Option.bind_some]
    have hvalue : (v.toInt.natAbs : Int) = v.toInt := by omega
    rw [hvalue, toInt32?_toInt]

theorem write_injective {v w : Int32} (h : write v = write w) : v = w := by
  have hread := congrArg read? h
  rwa [read?_write, read?_write, Option.some.injEq] at hread

-- A number begins with a digit or with a minus.
theorem exists_head?_write (v : Int32) :
    ∃ c, (write v).toList.head? = some c ∧ (c = '-' ∨ c.isDigit) := by
  rw [write, String.toList_ofList]
  split
  · exact ⟨'-', rfl, .inl rfl⟩
  · obtain ⟨c, rest, hdigits⟩ := List.exists_cons_of_ne_nil (digits_ne_nil v.toInt.natAbs)
    rw [hdigits]
    exact ⟨c, rfl, .inr (isDigit_of_mem_digits (hdigits ▸ List.mem_cons_self))⟩

theorem newline_not_mem_write (v : Int32) : '\n' ∉ (write v).toList := by
  have hdigits : '\n' ∉ digits v.toInt.natAbs := fun hmem =>
    absurd (isDigit_of_mem_digits hmem) (by decide)
  have hminus : '\n' ≠ '-' := by decide
  rw [write, String.toList_ofList]
  split
  · exact List.not_mem_cons_of_ne_of_not_mem hminus hdigits
  · exact hdigits

end Decimal

end EffectTables.Text
