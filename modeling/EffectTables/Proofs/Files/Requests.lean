import EffectTables.Proofs.Files.Tree

namespace EffectTables.Files.Tree

variable {tree later : Tree} {path : String} {place : Place}

-- The path leads to a file, or to where a file of its last name would be.
def Names (tree : Tree) (path : String) (place : Place) : Prop :=
  ∃ parent name, tree.locate path = .ok (.entry parent name false) ∧ parent ++ [name] = place

namespace Names

theorem leads (h : tree.Names path place) : tree.Leads path place := by
  obtain ⟨parent, name, hlocate, hplace⟩ := h
  exact ⟨_, hlocate, hplace⟩

theorem keeps (h : tree.Names path place) (hkeeps : tree.Keeps later) : later.Names path place := by
  obtain ⟨parent, name, hlocate, hplace⟩ := h
  exact ⟨parent, name, hkeeps.locate hlocate, hplace⟩

theorem ne_nil (h : tree.Names path place) : place ≠ [] := by
  obtain ⟨parent, name, -, rfl⟩ := h
  simp

end Names

theorem keeps_put (hplace : place ≠ []) (h : tree.node? place ≠ some .directory) (node : Node) :
    tree.Keeps (tree.put place node) := by
  intro other hother
  have hne : other ≠ place := fun he => h (he ▸ hother)
  rw [tree.node?_put hplace, if_neg hne, hother]

-- A file is read from its place.
theorem read_eq_ok_iff {bytes : ByteArray} :
    tree.read path = .ok bytes ↔
      ∃ place, tree.Names path place ∧ tree.node? place = some (.file bytes) := by
  rw [read, Outcome.bind_eq_ok_iff]
  constructor
  · intro h
    obtain ⟨location, hlocate, h⟩ := h
    cases location with
    | directory place => cases h
    | entry parent name slash =>
        simp only at h
        split at h
        next => cases h
        next => cases h
        next content hnode =>
          cases slash with
          | true => cases h
          | false =>
              cases h
              exact ⟨_, ⟨parent, name, hlocate, rfl⟩, hnode⟩
  · intro h
    obtain ⟨_, ⟨parent, name, hlocate, rfl⟩, hnode⟩ := h
    refine ⟨_, hlocate, ?_⟩
    simp only [hnode]
    rfl

theorem remove_eq_ok_iff :
    tree.remove path = .ok later ↔
      ∃ place bytes, tree.Names path place ∧ tree.node? place = some (.file bytes) ∧
        tree.erase place = later := by
  rw [remove, Outcome.bind_eq_ok_iff]
  constructor
  · intro h
    obtain ⟨location, hlocate, h⟩ := h
    cases location with
    | directory place => cases h
    | entry parent name slash =>
        simp only at h
        split at h
        next => cases h
        next => cases h
        next bytes hnode =>
          cases slash with
          | true => cases h
          | false => exact ⟨_, bytes, ⟨parent, name, hlocate, rfl⟩, hnode, Except.ok.inj h⟩
  · intro h
    obtain ⟨_, bytes, ⟨parent, name, hlocate, rfl⟩, hnode, rfl⟩ := h
    refine ⟨_, hlocate, ?_⟩
    simp only [hnode]
    rfl

theorem of_create (h : tree.create path = .ok later) :
    ∃ place, tree.Names path place ∧ tree.node? place = none ∧
      tree.put place (.file .empty) = later := by
  obtain ⟨location, hlocate, h⟩ := Outcome.bind_eq_ok_iff.mp h
  cases location with
  | directory place => cases h
  | entry parent name slash =>
      cases slash with
      | true => cases h
      | false =>
          simp only [Bool.false_eq_true, if_false] at h
          split at h
          next => cases h
          next hnode => exact ⟨_, ⟨parent, name, hlocate, rfl⟩, hnode, Except.ok.inj h⟩

theorem of_write {bytes : ByteArray} (h : tree.write path bytes = .ok later) :
    ∃ place, tree.Names path place ∧ tree.node? place ≠ some .directory ∧
      tree.put place (.file bytes) = later := by
  obtain ⟨location, hlocate, h⟩ := Outcome.bind_eq_ok_iff.mp h
  cases location with
  | directory place => cases h
  | entry parent name slash =>
      simp only [Bool.or_eq_true] at h
      split at h
      next => cases h
      next hnone =>
        obtain ⟨hslash, hdirectory⟩ := not_or.mp hnone
        rw [Bool.not_eq_true] at hslash
        exact ⟨_, ⟨parent, name, hslash ▸ hlocate, rfl⟩, mt holdsDirectory_iff.mpr hdirectory,
          Except.ok.inj h⟩

theorem of_makeDirectory (h : tree.makeDirectory path = .ok later) :
    ∃ place, place ≠ [] ∧ tree.Leads path place ∧ tree.node? place = none ∧
      tree.put place .directory = later := by
  obtain ⟨location, hlocate, h⟩ := Outcome.bind_eq_ok_iff.mp h
  cases location with
  | directory place => cases h
  | entry parent name slash =>
      simp only at h
      split at h
      next => cases h
      next hnode => exact ⟨_, by simp [Location.place], ⟨_, hlocate, rfl⟩, hnode, Except.ok.inj h⟩

theorem of_rename {target : String} (h : tree.rename path target = .ok later) :
    ∃ source place bytes, tree.Names path source ∧ tree.node? source = some (.file bytes) ∧
      tree.Names target place ∧ tree.node? place ≠ some .directory ∧
      (tree.erase source).put place (.file bytes) = later := by
  obtain ⟨bytes, hread, h⟩ := Outcome.bind_eq_ok_iff.mp h
  obtain ⟨location, hlocate, h⟩ := Outcome.bind_eq_ok_iff.mp h
  obtain ⟨source, hsource, hnode⟩ := read_eq_ok_iff.mp hread
  cases location with
  | directory place => cases h
  | entry parent name slash =>
      simp only at h
      split at h
      next => cases h
      next hdirectory =>
        cases slash with
        | true => cases h
        | false =>
            have hremove : tree.remove path = .ok (tree.erase source) :=
              remove_eq_ok_iff.mpr ⟨source, bytes, hsource, hnode, rfl⟩
            simp only [hremove, Bool.false_eq_true, if_false] at h
            exact ⟨source, _, bytes, hsource, hnode, ⟨parent, name, hlocate, rfl⟩,
              mt holdsDirectory_iff.mpr hdirectory, Except.ok.inj h⟩

theorem holdsDirectory_eq_false (h : tree.node? place ≠ some .directory) :
    tree.holdsDirectory place = false := by
  rw [← Bool.not_eq_true, holdsDirectory_iff]
  exact h

-- A path that names a place without a directory can be read in vain, written and renamed to.
namespace Names

theorem read (h : tree.Names path place) (hnode : tree.node? place = none) :
    tree.read path = .error .notFound := by
  obtain ⟨parent, name, hlocate, rfl⟩ := h
  rw [Tree.read, hlocate]
  simp only [hnode, bind, Except.bind, throw, throwThe, MonadExceptOf.throw]

theorem write (h : tree.Names path place) (hvacant : tree.node? place ≠ some .directory)
    (bytes : ByteArray) : tree.write path bytes = .ok (tree.put place (.file bytes)) := by
  obtain ⟨parent, name, hlocate, rfl⟩ := h
  rw [Tree.write, hlocate]
  simp [holdsDirectory_eq_false hvacant, bind, Except.bind, pure, Except.pure]

theorem rename {source : String} {found : Place} {bytes : ByteArray} (h : tree.Names path place)
    (hvacant : tree.node? place ≠ some .directory) (hsource : tree.Names source found)
    (hfile : tree.node? found = some (.file bytes)) :
    tree.rename source path = .ok ((tree.erase found).put place (.file bytes)) := by
  have hread : tree.read source = .ok bytes := read_eq_ok_iff.mpr ⟨found, hsource, hfile⟩
  have hremove : tree.remove source = .ok (tree.erase found) :=
    remove_eq_ok_iff.mpr ⟨found, bytes, hsource, hfile, rfl⟩
  obtain ⟨parent, name, hlocate, rfl⟩ := h
  simp [Tree.rename, hread, hlocate, holdsDirectory_eq_false hvacant, hremove, bind, Except.bind,
    pure, Except.pure]

end Names

end EffectTables.Files.Tree
