import EffectTables.Path
import Mathlib.Data.List.Basic

namespace EffectTables

namespace Text

theorem pieces_ne_nil (separator : Char) (text : List Char) : pieces separator text ≠ [] := by
  cases text with
  | nil => exact List.cons_ne_nil _ _
  | cons c rest =>
      rw [pieces]
      split
      · exact List.cons_ne_nil _ _
      · split <;> exact List.cons_ne_nil _ _

-- A separator ends a piece.
theorem pieces_append (separator : Char) (first rest : List Char) :
    pieces separator (first ++ separator :: rest) =
      pieces separator first ++ pieces separator rest := by
  induction first with
  | nil => simp [pieces]
  | cons c first ih =>
      rw [List.cons_append, pieces, pieces, ih]
      by_cases hc : c = separator
      · rw [if_pos hc, if_pos hc, List.cons_append]
      · rw [if_neg hc, if_neg hc]
        cases hfirst : pieces separator first with
        | nil => cases pieces_ne_nil separator first hfirst
        | cons piece more => rfl

theorem pieces_eq_singleton {separator : Char} {text : List Char} (h : separator ∉ text) :
    pieces separator text = [text] := by
  induction text with
  | nil => rfl
  | cons c rest ih =>
      rw [List.mem_cons, not_or] at h
      obtain ⟨hc, hrest⟩ := h
      rw [pieces, if_neg (Ne.symm hc), ih hrest]

end Text

namespace Path

theorem names_slash (first rest : String) :
    names (first ++ "/" ++ rest) = names first ++ names rest := by
  have hslash : (first ++ "/" ++ rest).toList = first.toList ++ '/' :: rest.toList := by simp
  rw [names, hslash, Text.pieces_append, List.filter_append, List.map_append]
  rfl

theorem names_empty : names "" = [] := rfl

-- A slash at the end adds nothing to the names.
theorem exists_of_endsInSlash {path : String} (h : endsInSlash path) :
    ∃ first, path = first ++ "/" ∧ names path = names first := by
  rw [endsInSlash, beq_iff_eq, List.getLast?_eq_some_iff] at h
  obtain ⟨first, hfirst⟩ := h
  have hpath : path = String.ofList first ++ "/" := by
    rw [← String.toList_inj, hfirst]
    simp
  refine ⟨_, hpath, ?_⟩
  have hnames := names_slash (String.ofList first) ""
  rwa [String.append_empty, ← hpath, names_empty, List.append_nil] at hnames

section

variable {name : String} (h : isPlainName name)
include h

theorem ne_of_isPlainName : name ≠ "" ∧ name ≠ "." ∧ name ≠ ".." := by
  simp only [isPlainName, Bool.and_eq_true, bne_iff_ne, ne_eq] at h
  obtain ⟨⟨⟨hempty, hdot⟩, hdots⟩, -⟩ := h
  exact ⟨hempty, hdot, hdots⟩

theorem slash_not_mem_of_isPlainName : '/' ∉ name.toList := by
  simp only [isPlainName, Bool.and_eq_true, List.all_eq_true, bne_iff_ne, ne_eq] at h
  obtain ⟨-, hall⟩ := h
  intro hmem
  exact (hall '/' hmem).1.1 rfl

theorem toList_ne_nil_of_isPlainName : name.toList ≠ [] := by
  rw [ne_eq, String.toList_eq_nil_iff]
  exact (ne_of_isPlainName h).1

theorem names_of_isPlainName : names name = [name] := by
  have hne : ¬ name.toList.isEmpty := by simpa using toList_ne_nil_of_isPlainName h
  rw [names, Text.pieces_eq_singleton (slash_not_mem_of_isPlainName h),
    List.filter_cons_of_pos (by simpa using hne)]
  simp

-- A plain name stands behind a slash in a path, unless there is nothing before it.
theorem join_of_isPlainName (directory : String) :
    directory = "" ∧ join directory name = name ∨
      ∃ first, names directory = names first ∧ join directory name = first ++ "/" ++ name := by
  have hrelative : ¬ isAbsolute name := by
    rw [isAbsolute, beq_iff_eq]
    exact fun hslash => slash_not_mem_of_isPlainName h (List.mem_of_mem_head? hslash)
  rw [join, if_neg hrelative]
  split
  next hcut =>
    rcases hcut with rfl | hslash
    · exact .inl ⟨rfl, String.empty_append⟩
    · obtain ⟨first, rfl, hnames⟩ := exists_of_endsInSlash hslash
      exact .inr ⟨first, hnames, rfl⟩
  next => exact .inr ⟨directory, rfl, rfl⟩

theorem names_join (directory : String) :
    names (join directory name) = names directory ++ [name] := by
  rcases join_of_isPlainName h directory with ⟨rfl, hjoin⟩ | ⟨first, hnames, hjoin⟩
  · rw [hjoin, names_of_isPlainName h, names_empty, List.nil_append]
  · rw [hjoin, names_slash, hnames, names_of_isPlainName h]

theorem endsInSlash_append (front : String) : endsInSlash (front ++ name) = false := by
  rw [endsInSlash, String.toList_append,
    List.getLast?_append_of_ne_nil _ (toList_ne_nil_of_isPlainName h), beq_eq_false_iff_ne]
  exact fun hslash => slash_not_mem_of_isPlainName h (List.mem_of_getLast? hslash)

theorem endsInSlash_join (directory : String) : endsInSlash (join directory name) = false := by
  rcases join_of_isPlainName h directory with ⟨rfl, hjoin⟩ | ⟨first, -, hjoin⟩
  · rw [hjoin, ← String.empty_append (s := name)]
    exact endsInSlash_append h ""
  · rw [hjoin]
    exact endsInSlash_append h _

end

end Path

end EffectTables
