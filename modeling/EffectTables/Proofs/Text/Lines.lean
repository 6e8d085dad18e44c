import Mathlib.Data.List.Basic

namespace EffectTables.Text

-- The lines of a text. An empty text has one empty line.
def lines (text : String) : List String := (text.toList.splitOn '\n').map String.ofList

-- No two texts have the same lines.
theorem lines_injective {text other : String} (h : lines text = lines other) : text = other := by
  have hpieces := List.map_injective_iff.mpr (fun _ _ => String.ofList_injective) h
  have hchars := congrArg ['\n'].intercalate hpieces
  rw [List.intercalate_splitOn, List.intercalate_splitOn] at hchars
  exact String.toList_injective hchars

theorem lines_append (text other : String) :
    lines (text ++ "\n" ++ other) = lines text ++ lines other := by
  have hbreak : "\n".toList = ['\n'] := by decide
  rw [lines, String.toList_append, String.toList_append, hbreak, List.append_assoc,
    List.singleton_append, List.splitOn_append_cons_self, List.map_append]
  rfl

theorem lines_eq_singleton {text : String} (h : '\n' ∉ text.toList) : lines text = [text] := by
  rw [lines, List.splitOn_eq_singleton, List.map_singleton, String.ofList_toList]
  exact h

theorem lines_empty : lines "" = [""] := lines_eq_singleton (by decide)

-- No line goes on in another line.
theorem newline_not_mem_of_mem_lines {text line : String} (h : line ∈ lines text) :
    '\n' ∉ line.toList := by
  have hpieces : ∀ chars : List Char, ∀ piece ∈ chars.splitOn '\n', '\n' ∉ piece := by
    intro chars
    induction chars with
    | nil => simp
    | cons c rest ih =>
        rw [List.splitOn_cons_eq_if_modifyHead]
        split
        next => exact List.forall_mem_cons.mpr ⟨List.not_mem_nil, ih⟩
        next hc =>
          cases hrest : rest.splitOn '\n' with
          | nil => exact absurd hrest (List.splitOn_ne_nil _ _)
          | cons piece more =>
              rw [hrest] at ih
              obtain ⟨hpiece, hmore⟩ := List.forall_mem_cons.mp ih
              refine List.forall_mem_cons.mpr ⟨fun hmem => ?_, hmore⟩
              rcases List.mem_cons.mp hmem with rfl | hmem
              · exact hc (beq_self_eq_true _)
              · exact hpiece hmem
  obtain ⟨piece, hpiece, rfl⟩ := List.mem_map.mp h
  rw [String.toList_ofList]
  exact hpieces _ piece hpiece

-- Parts that are joined by line breaks bring their lines in.
theorem lines_intercalate {parts : List String} (h : parts ≠ []) :
    lines ("\n".intercalate parts) = parts.flatMap lines := by
  induction parts with
  | nil => exact absurd rfl h
  | cons part rest ih =>
      by_cases hrest : rest = []
      · simp [hrest]
      · rw [String.intercalate_cons_of_ne_nil hrest, lines_append, ih hrest, List.flatMap_cons]

-- Lines that are joined by line breaks stay as they are.
theorem lines_intercalate_lines {parts : List String} (h : parts ≠ [])
    (hlines : ∀ part ∈ parts, '\n' ∉ part.toList) : lines ("\n".intercalate parts) = parts := by
  rw [lines_intercalate h]
  clear h
  induction parts with
  | nil => rfl
  | cons part rest ih =>
      obtain ⟨hpart, hrest⟩ := List.forall_mem_cons.mp hlines
      rw [List.flatMap_cons, lines_eq_singleton hpart, ih hrest, List.singleton_append]

-- Parts that are joined by blank lines, with one more blank line at the end.
theorem lines_intercalate_blank {parts : List String} (h : parts ≠ []) :
    lines ("\n\n".intercalate parts) ++ [""] = parts.flatMap fun part => lines part ++ [""] := by
  have hbreaks : "\n\n" = "\n" ++ "" ++ "\n" := by decide
  induction parts with
  | nil => exact absurd rfl h
  | cons part rest ih =>
      by_cases hrest : rest = []
      · simp [hrest]
      · rw [String.intercalate_cons_of_ne_nil hrest, List.flatMap_cons, ← ih hrest]
        have hjoin : part ++ "\n\n" ++ "\n\n".intercalate rest =
            part ++ "\n" ++ ("" ++ "\n" ++ "\n\n".intercalate rest) := by
          rw [hbreaks]
          simp only [String.append_assoc]
        rw [hjoin, lines_append, lines_append, lines_empty]
        simp only [List.append_assoc]

-- The lines of a text that are picked.
def pickLines (pick : String → Bool) (text : String) : List String := (lines text).filter pick

section

variable {pick : String → Bool}

theorem pickLines_line {line : String} (h : '\n' ∉ line.toList) :
    pickLines pick line = [line].filter pick := by
  rw [pickLines, lines_eq_singleton h]

variable (hpick : pick "" = false)
include hpick

theorem pickLines_empty : pickLines pick "" = [] := by
  rw [pickLines, lines_empty, List.filter_singleton, hpick]
  rfl

-- From parts that are joined, the same lines are picked as from each of them.
theorem pickLines_intercalate (parts : List String) :
    pickLines pick ("\n".intercalate parts) = parts.flatMap (pickLines pick) := by
  by_cases hparts : parts = []
  · rw [hparts]
    exact pickLines_empty hpick
  · rw [pickLines, lines_intercalate hparts, List.filter_flatMap]
    rfl

theorem pickLines_intercalate_blank (parts : List String) :
    pickLines pick ("\n\n".intercalate parts) = parts.flatMap (pickLines pick) := by
  by_cases hparts : parts = []
  · rw [hparts]
    exact pickLines_empty hpick
  · have hblank : [""].filter pick = [] := pickLines_empty hpick
    have hlines := congrArg (List.filter pick) (lines_intercalate_blank hparts)
    simp only [List.filter_append, List.filter_flatMap, hblank, List.append_nil] at hlines
    exact hlines

end

-- What stands on a line between two texts with which it begins and ends.
def framed? (before after line : String) : Option String :=
  ((line.toList.dropPrefix? before.toList).bind (·.dropSuffix? after.toList)).map String.ofList

theorem framed?_append (before text after : String) :
    framed? before after (before ++ text ++ after) = some text := by
  have hafter : (text.toList ++ after.toList).dropSuffix? after.toList = some text.toList :=
    List.dropSuffix?_eq_some_iff.mpr ⟨_, rfl, beq_self_eq_true _⟩
  rw [framed?, String.append_assoc, String.toList_append, String.toList_append,
    List.dropPrefix?_append_of_beq _ (beq_self_eq_true _), Option.bind_some, hafter,
    Option.map_some, String.ofList_toList]

theorem framed?_prefix (before text : String) :
    framed? before "" (before ++ text) = some text := by
  have h := framed?_append before text ""
  rwa [String.append_empty] at h

theorem framed?_suffix (text after : String) : framed? "" after (text ++ after) = some text := by
  have h := framed?_append "" text after
  rwa [String.empty_append] at h

-- What is read from the lines in front of each mark, and the lines behind the last mark.
def readParts? (mark : String) (read? : List String → Option α) (lines : List String) :
    Option (List α × List String) :=
  ((lines.splitOn mark).dropLast.mapM read?).map fun items =>
    (items, (lines.splitOn mark).getLastD [])

section

variable {parts : List α} {text : α → List String} {mark : String} {rest : List String}

theorem splitOn_flatMap (hparts : ∀ part ∈ parts, mark ∉ text part) (hrest : mark ∉ rest) :
    ((parts.flatMap fun part => text part ++ [mark]) ++ rest).splitOn mark =
      parts.map text ++ [rest] := by
  induction parts with
  | nil => exact List.splitOn_eq_singleton hrest
  | cons part parts ih =>
      obtain ⟨hpart, hmore⟩ := List.forall_mem_cons.mp hparts
      rw [List.flatMap_cons, List.append_assoc, List.append_assoc, List.singleton_append,
        List.splitOn_append_cons_self, List.splitOn_eq_singleton hpart, ih hmore]
      rfl

-- If something is read from each item, this is read from all of them.
theorem mapM_map_eq_some {write : α → β} {read? : β → Option γ} {value : α → γ}
    (h : ∀ part ∈ parts, read? (write part) = some (value part)) :
    (parts.map write).mapM read? = some (parts.map value) := by
  induction parts with
  | nil => rfl
  | cons part parts ih =>
      obtain ⟨hpart, hmore⟩ := List.forall_mem_cons.mp h
      rw [List.map_cons, List.mapM_cons, hpart, ih hmore]
      rfl

theorem readParts?_flatMap {read? : List String → Option α}
    (hread : ∀ part ∈ parts, read? (text part) = some part)
    (hparts : ∀ part ∈ parts, mark ∉ text part) (hrest : mark ∉ rest) :
    readParts? mark read? ((parts.flatMap fun part => text part ++ [mark]) ++ rest) =
      some (parts, rest) := by
  rw [readParts?, splitOn_flatMap hparts hrest, List.dropLast_concat, mapM_map_eq_some hread,
    Option.map_some, List.map_id', List.getLastD_concat]

end

end EffectTables.Text
