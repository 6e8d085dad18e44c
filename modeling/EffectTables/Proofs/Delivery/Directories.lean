import EffectTables.Delivery
import EffectTables.Proofs.Files.Faithful

namespace EffectTables

namespace Files.Tree

variable {before middle after : Tree} {paths : List String}

-- A new directory at the end of one of the paths.
structure Makes (before after : Tree) (paths : List String) (place : Place) : Prop where
  missing : before.node? place = none
  made : after.node? place = some .directory
  leads : ∃ path ∈ paths, after.Leads path place

theorem Makes.keeps {place : Place} (h : Makes before middle paths place)
    (hkeeps : middle.Keeps after) : Makes before after paths place := by
  obtain ⟨path, hpath, hleads⟩ := h.leads
  exact ⟨h.missing, hkeeps place h.made, path, hpath, hleads.keeps hkeeps⟩

-- All is as before, except for new directories.
def Grows (before after : Tree) (paths : List String) : Prop :=
  ∀ place, after.node? place = before.node? place ∨ Makes before after paths place

namespace Grows

theorem refl (tree : Tree) (paths : List String) : Grows tree tree paths := fun _ => .inl rfl

theorem keeps (h : Grows before after paths) : before.Keeps after := by
  intro place hplace
  rcases h place with hsame | hmakes
  · rw [hsame, hplace]
  · exact hmakes.made

theorem mono {more : List String} (h : Grows before after paths) (hsubset : paths ⊆ more) :
    Grows before after more := by
  intro place
  refine (h place).imp_right fun hmakes => ?_
  obtain ⟨path, hpath, hleads⟩ := hmakes.leads
  exact ⟨hmakes.missing, hmakes.made, path, hsubset hpath, hleads⟩

theorem file_iff (h : Grows before after paths) {place : Place} {bytes : ByteArray} :
    after.node? place = some (.file bytes) ↔ before.node? place = some (.file bytes) := by
  rcases h place with hsame | hmakes
  · rw [hsame]
  · rw [hmakes.made, hmakes.missing]
    simp

theorem read (h : Grows before after paths) {path : String} {bytes : ByteArray}
    (hread : before.read path = .ok bytes) : after.read path = .ok bytes := by
  obtain ⟨place, hnames, hfile⟩ := read_eq_ok_iff.mp hread
  exact read_eq_ok_iff.mpr ⟨place, hnames.keeps h.keeps, h.file_iff.mpr hfile⟩

theorem trans (h : Grows before middle paths) (hlater : Grows middle after paths) :
    Grows before after paths := by
  intro place
  rcases hlater place with hsame | hmakes
  · rcases h place with hfirst | hmakes
    · exact .inl (hsame.trans hfirst)
    · exact .inr (hmakes.keeps hlater.keeps)
  · rcases h place with hfirst | hfirst
    · exact .inr ⟨hfirst.symm.trans hmakes.missing, hmakes.made, hmakes.leads⟩
    · cases hfirst.made.symm.trans hmakes.missing

end Grows

theorem grows_of_makeDirectory {path : String} (h : before.makeDirectory path = .ok after) :
    Grows before after [path] := by
  obtain ⟨place, hplace, hleads, hmissing, rfl⟩ := of_makeDirectory h
  have hkeeps : before.Keeps (before.put place .directory) :=
    keeps_put hplace (by simp [hmissing]) .directory
  intro other
  by_cases hother : other = place
  · subst hother
    refine .inr ⟨hmissing, ?_, path, List.mem_cons_self, hleads.keeps hkeeps⟩
    rw [before.node?_put hplace, if_pos rfl]
  · rw [before.node?_put hplace, if_neg hother]
    exact .inl rfl

end Files.Tree

namespace Delivery

open Files (Tree Faithful)
open Files.Session (bind_eq_iff pure_eq_iff)

variable {σ : Type} [Host (StateM σ)] {tree : σ → Tree} (law : Faithful tree) {before after : σ}
  {outcome : Except Files.Fault Unit}

include law

theorem grows_makeOrFind {path : String}
    (h : makeOrFind (m := StateM σ) path before = (outcome, after)) :
    Tree.Grows (tree before) (tree after) [path] := by
  obtain ⟨made, middle, hmake, h⟩ := bind_eq_iff.mp h
  cases law.makeDirectory hmake with
  | done hdone =>
      rw [← (pure_eq_iff.mp h).2]
      exact Tree.grows_of_makeDirectory hdone
  | refused fault hsame =>
      obtain ⟨found, last, hfound, h⟩ := bind_eq_iff.mp h
      rw [← hsame, ← law.isDirectory hfound]
      split at h
      · rw [(pure_eq_iff.mp h).2]
        exact .refl _ _
      · rw [(pure_eq_iff.mp h).2]
        exact .refl _ _

-- Only the directories along a path are made, whether all of them can be or not.
theorem grows_makeDirectories {paths : List String}
    (h : makeDirectories (m := StateM σ) paths before = (outcome, after)) :
    Tree.Grows (tree before) (tree after) paths := by
  induction paths generalizing before after outcome with
  | nil =>
      rw [(pure_eq_iff.mp h).2]
      exact .refl _ _
  | cons path above ih =>
      obtain ⟨made, middle, hmake, h⟩ := bind_eq_iff.mp h
      have hfirst : Tree.Grows (tree before) (tree middle) (path :: above) :=
        (grows_makeOrFind law hmake).mono (List.cons_subset_cons path (List.nil_subset above))
      split at h
      next =>
        obtain ⟨found, later, habove, h⟩ := bind_eq_iff.mp h
        have hlater : Tree.Grows (tree middle) (tree later) (path :: above) :=
          (ih habove).mono (List.subset_cons_self path above)
        cases found with
        | ok _ =>
            have hlast : Tree.Grows (tree later) (tree after) (path :: above) :=
              (grows_makeOrFind law h).mono (List.cons_subset_cons path (List.nil_subset above))
            exact (hfirst.trans hlater).trans hlast
        | error fault =>
            rw [← (pure_eq_iff.mp h).2]
            exact hfirst.trans hlater
      next =>
        rw [← (pure_eq_iff.mp h).2]
        exact hfirst

theorem grows_makeDirectory {path : String}
    (h : makeDirectory (m := StateM σ) path before = (outcome, after)) :
    Tree.Grows (tree before) (tree after) (path :: Path.ancestors path) := by
  rw [makeDirectory] at h
  split at h
  · rw [(pure_eq_iff.mp h).2]
    exact .refl _ _
  · exact grows_makeDirectories law h

end Delivery

end EffectTables
