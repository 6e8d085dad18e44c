import EffectTables.Proofs.Files.Tree
import EffectTables.Proofs.Sources

namespace EffectTables

namespace Path

-- What an entry of a directory may be called if its name is to stand between double quotes.
structure Ordinary (name : String) : Prop where
  nonempty : name ≠ ""
  notHere : name ≠ "."
  notAbove : name ≠ ".."
  slash : '/' ∉ name.toList
  backslash : '\\' ∉ name.toList
  quote : '\x22' ∉ name.toList

theorem isPlainName_iff {name : String} : isPlainName name ↔ Ordinary name := by
  simp only [isPlainName, Bool.and_eq_true, bne_iff_ne, ne_eq, List.all_eq_true]
  constructor
  · intro h
    obtain ⟨⟨⟨hempty, hdot⟩, hdots⟩, hall⟩ := h
    exact ⟨hempty, hdot, hdots, fun hmem => (hall _ hmem).1.1 rfl,
      fun hmem => (hall _ hmem).1.2 rfl, fun hmem => (hall _ hmem).2 rfl⟩
  · intro h
    refine ⟨⟨⟨h.nonempty, h.notHere⟩, h.notAbove⟩, fun c hmem => ⟨⟨?_, ?_⟩, ?_⟩⟩
    · exact ne_of_mem_of_not_mem hmem h.slash
    · exact ne_of_mem_of_not_mem hmem h.backslash
    · exact ne_of_mem_of_not_mem hmem h.quote

-- What stands between a directory and a name in it.
def separator (directory : String) : String :=
  if directory = "" ∨ "/".toList <:+ directory.toList then "" else "/"

theorem endsInSlash_iff {path : String} : endsInSlash path ↔ "/".toList <:+ path.toList := by
  rw [endsInSlash, beq_iff_eq, List.getLast?_eq_some_iff]
  exact exists_congr fun front => eq_comm

section

variable {name : String} (h : isPlainName name)
include h

theorem isAbsolute_of_isPlainName : isAbsolute name = false := by
  rw [isAbsolute, beq_eq_false_iff_ne]
  exact fun hslash => slash_not_mem_of_isPlainName h (List.mem_of_mem_head? hslash)

theorem join_eq (directory : String) :
    join directory name = directory ++ separator directory ++ name := by
  have hrelative : ¬ isAbsolute name := by simp [isAbsolute_of_isPlainName h]
  rw [join, if_neg hrelative, separator]
  simp only [endsInSlash_iff]
  split
  · rw [String.append_empty]
  · rfl

-- A path into a directory starts where the path of the directory starts.
theorem isAbsolute_join (directory : String) :
    isAbsolute (join directory name) = isAbsolute directory := by
  by_cases hempty : directory = ""
  · have hjoin : join "" name = name := by
      rw [join_eq h, separator, if_pos (.inl rfl), String.append_empty, String.empty_append]
    rw [hempty, hjoin, isAbsolute_of_isPlainName h]
    rfl
  · have hstart : directory.toList ≠ [] := mt String.toList_eq_nil_iff.mp hempty
    rw [join_eq h, String.append_assoc, isAbsolute, isAbsolute, String.toList_append,
      List.head?_append_of_ne_nil _ hstart]

-- A plain name is one more component, behind those of its directory.
theorem components_join (directory : String) :
    components (join directory name) = components directory ++ [name] := by
  obtain ⟨-, hdot, -⟩ := ne_of_isPlainName h
  have hname : [name].filter (· != ".") = [name] := by simp [hdot]
  rw [components, names_join h, isAbsolute_join h, components]
  cases names directory with
  | nil => simp [hdot]
  | cons first rest =>
      simp only [List.cons_append, List.filter_append, hname, List.append_assoc]

end

-- A path to a direct child of a directory: it is spelled as the directory with the name behind it,
-- and wherever the directory leads, it leads to the entry of that name there.
structure Child (directory name path : String) : Prop where
  relative : isAbsolute name = false
  spelled : path = directory ++ separator directory ++ name
  components : components path = components directory ++ [name]
  below : ∀ (tree : Files.Tree) (place : Files.Place), tree.Leads path place →
    ∃ parent, tree.walk [] (names directory) = .ok parent ∧ place = parent ++ [name]

theorem child_join {name : String} (h : isPlainName name) (directory : String) :
    Child directory name (join directory name) where
  relative := isAbsolute_of_isPlainName h
  spelled := join_eq h directory
  components := components_join h directory
  below tree place hleads := by
    obtain ⟨parent, hparent, rfl⟩ := Files.Tree.Leads.of_join h hleads
    exact ⟨parent, hparent, rfl⟩

-- Children of one directory under different names are apart, however paths are compared.
theorem Child.components_ne {directory name other path another : String}
    (h : Child directory name path) (hother : Child directory other another)
    (hne : name ≠ other) : Path.components path ≠ Path.components another := by
  rw [h.components, hother.components]
  exact fun hsame => hne (List.singleton_inj.mp (List.append_cancel_left hsame))

end Path

namespace Settings

-- Settings are in order if and only if their names are ones that can be written as they are, and
-- then the two files are two children of whichever directory they are written into.
theorem accepted_children (settings : Settings) :
    (settings.validate = .ok () ↔
      Symbol.isIdentifier settings.scope ∧ Symbol.isIdentifier settings.guard ∧
        Path.Ordinary settings.headerName ∧ Path.Ordinary settings.sourceName ∧
        settings.headerName ≠ settings.sourceName) ∧
    (settings.validate = .ok () → ∀ directory,
      Path.Child directory settings.headerName (settings.headerPath directory) ∧
      Path.Child directory settings.sourceName (settings.sourcePath directory) ∧
      Path.components (settings.headerPath directory) ≠
        Path.components (settings.sourcePath directory) ∧
      ∀ (tree : Files.Tree) (place : Files.Place),
        tree.Leads (settings.headerPath directory) place →
          ¬ tree.Leads (settings.sourcePath directory) place) := by
  rw [validate_eq_ok_iff]
  refine ⟨?_, fun hvalid directory => ?_⟩
  · rw [← Path.isPlainName_iff, ← Path.isPlainName_iff]
    constructor
    · intro h
      exact ⟨h.scope, h.guard, h.headerName, h.sourceName, h.apart⟩
    · intro h
      obtain ⟨hscope, hguard, hheader, hsource, hapart⟩ := h
      exact ⟨hscope, hguard, hheader, hsource, hapart⟩
  · have hheader := Path.child_join hvalid.headerName directory
    have hsource := Path.child_join hvalid.sourceName directory
    refine ⟨hheader, hsource, hheader.components_ne hsource hvalid.apart, fun tree place h ho => ?_⟩
    exact h.ne_of_join hvalid.headerName hvalid.sourceName hvalid.apart ho rfl

-- Three dots are a name like others.
theorem accepted_children_dots :
    validate { headerName := "...", sourceName := ".cc" } = .ok () ∧
      Path.Child "gen/" "..." "gen/..." ∧ Path.Child "gen/" ".cc" "gen/.cc" := by
  have hvalid : validate { headerName := "...", sourceName := ".cc" } = .ok () := by decide
  obtain ⟨hheader, hsource, -⟩ := (accepted_children _).2 hvalid "gen/"
  have hpaths : Path.join "gen/" "..." = "gen/..." ∧ Path.join "gen/" ".cc" = "gen/.cc" := by decide
  rw [headerPath, hpaths.1] at hheader
  rw [sourcePath, hpaths.2] at hsource
  exact ⟨hvalid, hheader, hsource⟩

end Settings

end EffectTables
