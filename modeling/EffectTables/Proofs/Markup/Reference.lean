import EffectTables.Markup.Reference
import EffectTables.Proofs.Text.Delimited

namespace EffectTables.Markup.Reference

open Text (width)

-- The characters for which there are names, and the names.
def named : List (Char × List Char) :=
  [('&', ['a', 'm', 'p']), ('<', ['l', 't']), ('>', ['g', 't']), ('\x22', ['q', 'u', 'o', 't']),
    ('\x27', ['a', 'p', 'o', 's'])]

-- A character with a name is written as a reference, any other as it is.
def escape (c : Char) : List Char :=
  match named.lookup c with
  | some name => '&' :: name ++ [';']
  | none => [c]

-- The two shapes of an escape.
theorem escape_cases (c : Char) :
    (∃ name, (c, name) ∈ named ∧ escape c = '&' :: name ++ [';']) ∨
      (c ≠ '&' ∧ c ≠ '\x22' ∧ escape c = [c]) := by
  unfold escape
  cases hname : named.lookup c with
  | some name =>
      obtain ⟨before, after, hnamed, -⟩ := List.lookup_eq_some_iff.mp hname
      exact .inl ⟨name, hnamed ▸ List.mem_append_right _ List.mem_cons_self, rfl⟩
  | none =>
      refine .inr ⟨?_, ?_, rfl⟩
      · rintro rfl
        cases hname
      · rintro rfl
        cases hname

theorem quote_not_mem_escape (c : Char) : '\x22' ∉ escape c := by
  have hnames : ∀ pair ∈ named, '\x22' ∉ '&' :: pair.2 ++ [';'] := by decide
  rcases escape_cases c with ⟨name, hname, h⟩ | ⟨-, hquote, h⟩
  · exact h ▸ hnames _ hname
  · rw [h, List.mem_singleton]
    exact hquote.symm

-- A reference to a name is replaced by its character.
theorem decodeFrom_named {c : Char} {name rest text : List Char} {total position : Nat}
    (hname : (c, name) ∈ named)
    (hrest : decodeFrom total (position + width name + 2) rest = .ok text) :
    decodeFrom total position ('&' :: name ++ [';'] ++ rest) = .ok (c :: text) := by
  have hall : ∀ pair ∈ named, pair.2.all staysInName := by decide
  have hplain : ∀ c ∈ name, staysInName c := List.all_eq_true.mp (hall _ hname)
  have hresolve : ∀ pair ∈ named, ∀ start, resolve start pair.2 = .ok pair.1 := by
    simp only [named, List.forall_mem_cons]
    exact ⟨fun _ => rfl, fun _ => rfl, fun _ => rfl, fun _ => rfl, fun _ => rfl, by simp⟩
  have hstays : staysInName ';' = false := by decide
  have htake : (name ++ ';' :: rest).takeWhile staysInName = name :=
    Text.takeWhile_append_mark hplain hstays
  have hdrop : (name ++ ';' :: rest).dropWhile staysInName = ';' :: rest :=
    Text.dropWhile_append_mark hplain hstays
  have htext : '&' :: name ++ [';'] ++ rest = '&' :: (name ++ ';' :: rest) := by simp
  rw [htext, decodeFrom, if_pos rfl]
  split
  next after hafter =>
    rw [hdrop, List.cons.injEq] at hafter
    obtain ⟨-, rfl⟩ := hafter
    have hfound : resolve (position + 1) name = .ok c := hresolve _ hname _
    simp only [htake, hfound, hrest]
    rfl
  next hno => exact absurd hdrop (hno rest)

-- Any other character stays.
theorem decodeFrom_plain {c : Char} {rest text : List Char} {total position : Nat} (hc : c ≠ '&')
    (hrest : decodeFrom total (position + c.utf8Size) rest = .ok text) :
    decodeFrom total position (c :: rest) = .ok (c :: text) := by
  rw [decodeFrom, if_neg hc, hrest]
  rfl

theorem decodeFrom_escape (total position : Nat) (text : List Char) :
    decodeFrom total position (text.flatMap escape) = .ok text := by
  induction text generalizing position with
  | nil => rw [List.flatMap_nil, decodeFrom]
  | cons c rest ih =>
      rw [List.flatMap_cons]
      rcases escape_cases c with ⟨name, hname, h⟩ | ⟨hc, -, h⟩
      · rw [h]
        exact decodeFrom_named hname (ih _)
      · rw [h, List.singleton_append]
        exact decodeFrom_plain hc (ih _)

-- Decoding gives back what was escaped.
theorem decode_escape (text : List Char) : decode (text.flatMap escape) = .ok text :=
  decodeFrom_escape _ 0 text

theorem quote_not_mem_flatMap_escape (text : List Char) : '\x22' ∉ text.flatMap escape := by
  simp [quote_not_mem_escape]

end EffectTables.Markup.Reference
