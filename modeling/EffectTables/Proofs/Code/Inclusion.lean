import EffectTables.Proofs.Code.Layout
import EffectTables.Proofs.Settings

namespace EffectTables.Code.Layout

-- The directive that includes a file.
def inclusion (name : String) : String := "#include \x22" ++ name ++ "\x22"

theorem newline_mem_inclusion {name : String} :
    '\n' ∈ (inclusion name).toList ↔ '\n' ∈ name.toList := by
  have hframe : '\n' ∉ "#include \x22".toList ∧ '\n' ∉ "\x22".toList := by decide
  simp only [inclusion, String.toList_append, List.mem_append, hframe, false_or, or_false]

-- The third line shows the directive as far as the directive is one line.
theorem third_line_source (settings : Settings) (parts : SourceParts) :
    (Text.lines (source settings parts))[2]? =
      (Text.lines (inclusion settings.headerName)).head? := by
  have hbanner : Text.lines banner = [banner] := Text.lines_eq_singleton (by decide)
  obtain ⟨rest, hlines⟩ := lines_source settings parts
  rw [hlines]
  simp only [sourceStart, List.flatMap_cons, hbanner, Text.lines_empty, List.cons_append,
    List.getElem?_cons_succ]
  rw [← inclusion]
  cases hdirective : Text.lines (inclusion settings.headerName) with
  | nil => simp [Text.lines, List.splitOn_ne_nil] at hdirective
  | cons line more => rfl

-- With settings that are in order, the third line of the source file includes the file that the
-- header is written to, unless the header's name goes on in another line.
theorem third_line_includes_iff {settings : Settings} (h : settings.validate = .ok ())
    (parts : SourceParts) (directory : String) :
    ((Text.lines (source settings parts))[2]? = some (inclusion settings.headerName) ↔
      '\n' ∉ settings.headerName.toList) ∧
    '\x22' ∉ settings.headerName.toList ∧
    Path.components (settings.headerPath directory) =
      Path.components directory ++ [settings.headerName] := by
  have hvalid := Settings.validate_eq_ok_iff.mp h
  refine ⟨?_, (Path.isPlainName_iff.mp hvalid.headerName).quote,
    Path.components_join hvalid.headerName directory⟩
  rw [third_line_source, ← newline_mem_inclusion.not]
  constructor
  · intro hline
    exact Text.newline_not_mem_of_mem_lines (List.mem_of_mem_head? hline)
  · intro hnewline
    rw [Text.lines_eq_singleton hnewline]
    rfl

-- Other marks than line feeds are harmless.
theorem third_line_includes_spaced :
    Settings.validate { headerName := "my ids\r.h" } = .ok () ∧
      (Text.lines (source { headerName := "my ids\r.h" } ⟨"int F();", "\n"⟩))[2]? =
        some "#include \x22my ids\r.h\x22" ∧
      Path.components (Settings.headerPath { headerName := "my ids\r.h" } "gen/") =
        ["gen", "my ids\r.h"] := by
  have hvalid : Settings.validate { headerName := "my ids\r.h" } = .ok () := by decide
  obtain ⟨hline, -, hpath⟩ := third_line_includes_iff hvalid ⟨"int F();", "\n"⟩ "gen/"
  exact ⟨hvalid, hline.mpr (by decide), hpath.trans (by decide)⟩

-- A name that goes on in another line is in order all the same.
theorem third_line_not_inclusion :
    ∃ settings : Settings, settings.validate = .ok () ∧ ∀ parts,
      (Text.lines (source settings parts))[2]? ≠ some (inclusion settings.headerName) := by
  refine ⟨{ headerName := "a\nb.h" }, by decide, fun parts h => ?_⟩
  rw [third_line_source] at h
  exact Text.newline_not_mem_of_mem_lines (List.mem_of_mem_head? h) (by decide)

end EffectTables.Code.Layout
