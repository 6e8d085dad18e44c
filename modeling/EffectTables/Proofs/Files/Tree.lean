import EffectTables.Files.Tree
import EffectTables.Proofs.Lookup
import EffectTables.Proofs.Outcome
import EffectTables.Proofs.Path

namespace EffectTables.Files.Tree

section

variable (tree : Tree) {place : Place} (h : place ≠ [])
include h

theorem node?_erase (other : Place) :
    (tree.erase place).node? other = if other = place then none else tree.node? other := by
  rw [node?, node?, erase, Lookup.lookup_filter_ne]
  by_cases hroot : other = []
  · rw [if_pos hroot, if_pos hroot, if_neg fun he => h (he.symm.trans hroot)]
  · rw [if_neg hroot, if_neg hroot]

theorem node?_put (node : Node) (other : Place) :
    (tree.put place node).node? other = if other = place then some node else tree.node? other := by
  have herased := tree.node?_erase h other
  rw [node?] at herased ⊢
  by_cases hroot : other = []
  · rw [if_pos hroot] at herased ⊢
    rw [if_neg fun he => h (he.symm.trans hroot)] at herased ⊢
    exact herased
  · rw [if_neg hroot] at herased ⊢
    rw [put, List.lookup_append, herased, Lookup.lookup_cons_eq_ite]
    by_cases hother : other = place
    · rw [if_pos hother, if_pos hother, if_pos hother.symm]
      rfl
    · rw [if_neg hother, if_neg hother, if_neg fun he => hother he.symm]
      exact Option.or_none

end

-- The directories of a tree are directories later.
def Keeps (tree later : Tree) : Prop :=
  ∀ place, tree.node? place = some .directory → later.node? place = some .directory

theorem holdsDirectory_iff {tree : Tree} {place : Place} :
    tree.holdsDirectory place ↔ tree.node? place = some .directory := by
  rw [holdsDirectory]
  cases tree.node? place with
  | none => simp
  | some node => cases node <;> simp [Node.isDirectory]

namespace Keeps

variable {tree later : Tree}

theorem refl (tree : Tree) : tree.Keeps tree := fun _ => id

theorem trans {last : Tree} (h : tree.Keeps later) (hlast : later.Keeps last) : tree.Keeps last :=
  fun place hplace => hlast place (h place hplace)

-- A walk goes the same way later, unless it runs into a file or breaks off at something that was
-- missing and is there now.
theorem walk_eq (h : tree.Keeps later) {place : Place} {names : List String}
    {outcome : Except Fault Place} (hwalk : tree.walk place names = outcome)
    (hmissing : outcome = .error .notFound →
      ∀ place, tree.node? place = none → later.node? place = none)
    (hfile : outcome ≠ .error .notADirectory) : later.walk place names = outcome := by
  induction names generalizing place with
  | nil => exact hwalk
  | cons name rest ih =>
      rw [Tree.walk] at hwalk ⊢
      split at hwalk
      next hdot =>
        rw [if_pos hdot]
        exact ih hwalk
      next hdot =>
        rw [if_neg hdot]
        split at hwalk
        next hdots =>
          rw [if_pos hdots]
          exact ih hwalk
        next hdots =>
          rw [if_neg hdots]
          split at hwalk
          next hlength => rw [if_pos hlength, hwalk]
          next hlength =>
            rw [if_neg hlength]
            split at hwalk
            next hnode => rw [hmissing hwalk.symm _ hnode, hwalk]
            next => exact absurd hwalk.symm hfile
            next hnode =>
              rw [h _ hnode]
              exact ih hwalk

theorem walk (h : tree.Keeps later) {place found : Place} {names : List String}
    (hwalk : tree.walk place names = .ok found) : later.walk place names = .ok found :=
  h.walk_eq hwalk nofun nofun

-- So does the way along a path.
theorem locate_eq (h : tree.Keeps later) {path : String} {outcome : Except Fault Location}
    (hlocate : tree.locate path = outcome)
    (hmissing : outcome = .error .notFound →
      ∀ place, tree.node? place = none → later.node? place = none)
    (hfile : outcome ≠ .error .notADirectory) : later.locate path = outcome := by
  rw [Tree.locate] at hlocate ⊢
  cases hfault : pathFault? path with
  | some fault => rwa [hfault] at hlocate
  | none =>
      cases hlast : (Path.names path).getLast? with
      | none => rwa [hfault, hlast] at hlocate
      | some last =>
          rw [hfault, hlast] at hlocate
          cases hwalk : tree.walk [] (Path.names path).dropLast with
          | ok parent =>
              rw [hwalk] at hlocate
              simp only [h.walk hwalk]
              exact hlocate
          | error fault =>
              rw [hwalk] at hlocate
              have hsame : outcome = .error fault := hlocate.symm
              have hlater := h.walk_eq hwalk
                (fun heq => hmissing (by rw [hsame, Except.error.inj heq]))
                (fun heq => hfile (by rw [hsame, Except.error.inj heq]))
              simp only [hlater]
              exact hlocate

-- Where a path leads somewhere, it leads there as long as no directory goes away.
theorem locate (h : tree.Keeps later) {path : String} {location : Location}
    (hlocate : tree.locate path = .ok location) : later.locate path = .ok location :=
  h.locate_eq hlocate nofun nofun

end Keeps

-- The place that a location stands for.
def Location.place : Location → Place
  | .directory place => place
  | .entry parent name _ => parent ++ [name]

-- The path leads to the place, whether there is something or not.
def Leads (tree : Tree) (path : String) (place : Place) : Prop :=
  ∃ location, tree.locate path = .ok location ∧ location.place = place

theorem Leads.keeps {tree later : Tree} {path : String} {place : Place}
    (h : tree.Leads path place) (hkeeps : tree.Keeps later) : later.Leads path place := by
  obtain ⟨location, hlocation, hplace⟩ := h
  exact ⟨location, hkeeps.locate hlocation, hplace⟩

theorem Leads.unique {tree : Tree} {path : String} {place other : Place}
    (h : tree.Leads path place) (hother : tree.Leads path other) : place = other := by
  obtain ⟨location, hlocation, rfl⟩ := h
  obtain ⟨another, hanother, rfl⟩ := hother
  rw [hlocation, Except.ok.injEq] at hanother
  rw [hanother]

-- Once the directory before a plain name is found, what the path leads to depends on it only.
theorem locate_join {tree : Tree} {directory name : String} {parent : Place}
    (hname : Path.isPlainName name) (hwalk : tree.walk [] (Path.names directory) = .ok parent) :
    tree.locate (Path.join directory name) =
      match pathFault? (Path.join directory name) with
      | some fault => .error fault
      | none => arrive parent name false := by
  rw [locate, Path.names_join hname, Path.endsInSlash_join hname, List.getLast?_concat,
    List.dropLast_concat, hwalk]
  rfl

-- A path that ends in a plain name leads into the directory before that name.
theorem Leads.of_join {tree : Tree} {directory name : String} {place : Place}
    (hname : Path.isPlainName name) (h : tree.Leads (Path.join directory name) place) :
    ∃ parent, tree.walk [] (Path.names directory) = .ok parent ∧ parent ++ [name] = place := by
  obtain ⟨location, hlocate, rfl⟩ := h
  rw [locate, Path.names_join hname, Path.endsInSlash_join hname, List.getLast?_concat,
    List.dropLast_concat] at hlocate
  split at hlocate
  next => cases hlocate
  next =>
    obtain ⟨parent, hparent, harrive⟩ := Outcome.bind_eq_ok_iff.mp hlocate
    obtain ⟨-, hdot, hdots⟩ := Path.ne_of_isPlainName hname
    rw [arrive, if_neg hdot, if_neg hdots] at harrive
    split at harrive
    next => cases harrive
    next =>
      cases harrive
      exact ⟨parent, hparent, rfl⟩

-- Different names in one directory stand for different places.
theorem Leads.ne_of_join {tree : Tree} {directory name other : String} {place another : Place}
    (hname : Path.isPlainName name) (hother : Path.isPlainName other) (hne : name ≠ other)
    (h : tree.Leads (Path.join directory name) place)
    (ho : tree.Leads (Path.join directory other) another) : place ≠ another := by
  obtain ⟨parent, hparent, rfl⟩ := h.of_join hname
  obtain ⟨above, habove, rfl⟩ := ho.of_join hother
  intro hplaces
  exact hne (List.singleton_inj.mp (List.append_inj_right' hplaces rfl))

end EffectTables.Files.Tree
