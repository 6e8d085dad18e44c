import EffectTables.Code.Switch
import EffectTables.Proofs.Text.Delimited

namespace EffectTables.Code.Literal

open Text (Delimited Ends)

-- The characters whose escape is a backslash and a mark.
def marks : List (Char × Char) :=
  [('\x22', '\x22'), ('\\', '\\'), ('\n', 'n'), ('\r', 'r'), ('\t', 't')]

-- The three shapes of an escape.
theorem escape_cases (c : Char) :
    (∃ mark, (c, mark) ∈ marks ∧ escape c = ['\\', mark]) ∨
    (isControl c ∧
      escape c =
        ['\\', octalDigit (c.toNat / 64), octalDigit (c.toNat / 8), octalDigit c.toNat]) ∨
    (c ≠ '\\' ∧ c ≠ '\x22' ∧ isControl c = false ∧ escape c = [c]) := by
  by_cases hmarked : ∃ mark, (c, mark) ∈ marks
  · obtain ⟨mark, hmark⟩ := hmarked
    have hall : ∀ pair ∈ marks, escape pair.1 = ['\\', pair.2] := by decide
    exact .inl ⟨mark, hmark, hall _ hmark⟩
  · simp only [marks, List.mem_cons, Prod.mk.injEq, List.not_mem_nil, or_false] at hmarked
    push Not at hmarked
    have hquote : c ≠ '\x22' := fun h => (hmarked '\x22').1 h rfl
    have hslash : c ≠ '\\' := fun h => (hmarked '\\').2.1 h rfl
    have hline : c ≠ '\n' := fun h => (hmarked 'n').2.2.1 h rfl
    have hreturn : c ≠ '\r' := fun h => (hmarked 'r').2.2.2.1 h rfl
    have htab : c ≠ '\t' := fun h => (hmarked 't').2.2.2.2 h rfl
    refine .inr ?_
    simp only [escape, if_neg hquote, if_neg hslash, if_neg hline, if_neg hreturn, if_neg htab]
    cases hcontrol : isControl c with
    | true => exact .inl ⟨rfl, if_pos rfl⟩
    | false => exact .inr ⟨hslash, hquote, rfl, if_neg Bool.false_ne_true⟩

theorem octalDigit_inj {m n : Nat} (h : octalDigit m = octalDigit n) : m % 8 = n % 8 := by
  have hall : ∀ d < 8, ∀ e < 8, Char.ofNat (d + 0x30) = Char.ofNat (e + 0x30) → d = e := by decide
  exact hall _ (Nat.mod_lt m (by decide)) _ (Nat.mod_lt n (by decide)) h

-- No mark is an octal digit.
theorem mark_ne_octalDigit {c mark : Char} (h : (c, mark) ∈ marks) (n : Nat) :
    mark ≠ octalDigit n := by
  have hall : ∀ pair ∈ marks, ∀ d < 8, pair.2 ≠ Char.ofNat (d + 0x30) := by decide
  exact hall _ h _ (Nat.mod_lt n (by decide))

-- No mark belongs to two characters.
theorem mark_inj {c d mark : Char} (hc : (c, mark) ∈ marks) (hd : (d, mark) ∈ marks) : c = d := by
  have hall : ∀ pair ∈ marks, ∀ other ∈ marks, pair.2 = other.2 → pair.1 = other.1 := by decide
  exact hall _ hc _ hd rfl

-- Three octal digits are enough for a control character.
theorem eq_of_octalDigits {c d : Char} (hc : isControl c) (hd : isControl d)
    (hhigh : octalDigit (c.toNat / 64) = octalDigit (d.toNat / 64))
    (hmiddle : octalDigit (c.toNat / 8) = octalDigit (d.toNat / 8))
    (hlow : octalDigit c.toNat = octalDigit d.toNat) : c = d := by
  have hhigh := octalDigit_inj hhigh
  have hmiddle := octalDigit_inj hmiddle
  have hlow := octalDigit_inj hlow
  simp only [isControl, Bool.or_eq_true, decide_eq_true_eq, beq_iff_eq] at hc hd
  have hnumbers : c.toNat = d.toNat := by omega
  exact Char.ext (UInt32.toNat_inj.mp hnumbers)

-- Every escape shows by itself where it ends.
theorem delimited_escape : Delimited (fun _ => True) escape := by
  intro c d _ _ rest tail h
  rcases escape_cases c with ⟨mark, hmark, hc⟩ | ⟨hcontrol, hc⟩ | ⟨hslash, -, -, hc⟩ <;>
    rcases escape_cases d with ⟨sign, hsign, hd⟩ | ⟨hother, hd⟩ | ⟨hback, -, -, hd⟩ <;>
    rw [hc, hd] at h <;>
    simp only [List.cons_append, List.nil_append, List.cons.injEq, true_and] at h
  · obtain ⟨rfl, hrest⟩ := h
    exact ⟨mark_inj hmark hsign, hrest⟩
  · exact absurd h.1 (mark_ne_octalDigit hmark _)
  · exact absurd h.1.symm hback
  · exact absurd h.1.symm (mark_ne_octalDigit hsign _)
  · obtain ⟨hhigh, hmiddle, hlow, hrest⟩ := h
    exact ⟨eq_of_octalDigits hcontrol hother hhigh hmiddle hlow, hrest⟩
  · exact absurd h.1.symm hback
  · exact absurd h.1 hslash
  · exact absurd h.1 hslash
  · exact h

-- No escape begins with a quotation mark.
theorem ends_quote (rest : List Char) : Ends (fun _ => True) escape ('\x22' :: rest) := by
  intro c _ tail h
  rcases escape_cases c with ⟨mark, -, hc⟩ | ⟨-, hc⟩ | ⟨-, hquote, -, hc⟩ <;>
    rw [hc, List.cons_append, List.cons.injEq] at h
  · exact absurd h.1 (by decide)
  · exact absurd h.1 (by decide)
  · exact hquote h.1.symm

-- An escape can be printed, whatever it stands for.
theorem not_isControl_of_mem_escape {c d : Char} (h : d ∈ escape c) : isControl d = false := by
  have hmarks : ∀ pair ∈ marks, isControl pair.2 = false := by decide
  have hdigits : ∀ d < 8, isControl (Char.ofNat (d + 0x30)) = false := by decide
  have hdigit (n : Nat) : isControl (octalDigit n) = false := hdigits _ (Nat.mod_lt n (by decide))
  have hslash : isControl '\\' = false := by decide
  rcases escape_cases c with ⟨mark, hmark, hc⟩ | ⟨-, hc⟩ | ⟨-, -, hplain, hc⟩ <;> rw [hc] at h
  · simp only [List.mem_cons, List.not_mem_nil, or_false] at h
    rcases h with rfl | rfl
    · exact hslash
    · exact hmarks _ hmark
  · simp only [List.mem_cons, List.not_mem_nil, or_false] at h
    rcases h with rfl | rfl | rfl | rfl
    · exact hslash
    · exact hdigit _
    · exact hdigit _
    · exact hdigit _
  · rwa [List.mem_singleton.mp h]

theorem newline_not_mem_escape (c : Char) : '\n' ∉ escape c := fun h =>
  absurd (not_isControl_of_mem_escape h) (by decide)

-- A literal stands on one line, whatever it quotes.
theorem newline_not_mem_quote (text : String) : '\n' ∉ (quote text).toList := by
  have hquote : '\n' ≠ '\x22' := by decide
  simp [quote, newline_not_mem_escape, hquote]

-- No two texts have one literal.
theorem quote_injective {text other : String} (h : quote text = quote other) : text = other := by
  have hchars := String.ofList_injective h
  simp only [List.cons_append, List.cons.injEq, true_and] at hchars
  obtain ⟨hsame, -⟩ := delimited_escape.flatMap (fun _ _ => trivial) (fun _ _ => trivial)
    (ends_quote []) (ends_quote []) hchars
  exact String.toList_injective hsame

end EffectTables.Code.Literal
