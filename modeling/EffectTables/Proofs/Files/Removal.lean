import EffectTables.Proofs.Files.Requests

namespace EffectTables.Files.Tree

variable {tree before middle after : Tree} {path : String} {place : Place}

-- Something is found at the end of the path.
def Exists (tree : Tree) (path : String) : Prop :=
  ∃ place, tree.Leads path place ∧ (tree.node? place).isSome

-- A directory on the way is missing, or all of the way is there and nothing is at its end.
inductive Absent (tree : Tree) (path : String) : Prop where
  | unreached (unreached : tree.locate path = .error .notFound)
  | vacant (parent : Place) (name : String) (slash : Bool)
      (located : tree.locate path = .ok (.entry parent name slash))
      (vacant : tree.node? (parent ++ [name]) = none)

theorem Absent.not_exists (h : tree.Absent path) : ¬ tree.Exists path := by
  intro hexists
  obtain ⟨place, ⟨location, hlocate, rfl⟩, hnode⟩ := hexists
  cases h with
  | unreached hnone => cases hnone.symm.trans hlocate
  | vacant parent name slash hentry hvacant =>
      obtain rfl : .entry parent name slash = location :=
        Except.ok.inj (hentry.symm.trans hlocate)
      rw [Location.place, hvacant] at hnode
      cases hnode

theorem Names.exists (h : tree.Names path place) (hnode : (tree.node? place).isSome) :
    tree.Exists path := ⟨place, h.leads, hnode⟩

theorem exists_of_read {bytes : ByteArray} (h : tree.read path = .ok bytes) :
    tree.Exists path := by
  obtain ⟨place, hnames, hfile⟩ := read_eq_ok_iff.mp h
  exact hnames.exists (by rw [hfile]; rfl)

-- To remove what is not there is refused for that reason, and for no other.
theorem remove_eq_notFound_iff : tree.remove path = .error .notFound ↔ tree.Absent path := by
  rw [remove, Outcome.bind_eq_error_iff]
  constructor
  · rintro (hnone | ⟨location, hlocate, h⟩)
    · exact .unreached hnone
    · cases location with
      | directory place => cases h
      | entry parent name slash =>
          simp only at h
          split at h
          next hvacant => exact .vacant parent name slash hlocate hvacant
          next => cases h
          next => cases slash <;> cases h
  · intro h
    cases h with
    | unreached hnone => exact .inl hnone
    | vacant parent name slash hentry hvacant =>
        refine .inr ⟨_, hentry, ?_⟩
        simp only [hvacant]
        rfl

-- A request to remove is refused alike where the path leads to the same.
theorem remove_error_congr {fault : Fault} (hlocate : middle.locate path = before.locate path)
    (hnode : ∀ place, before.Leads path place → middle.node? place = before.node? place)
    (h : middle.remove path = .error fault) : before.remove path = .error fault := by
  rw [remove, Outcome.bind_eq_error_iff, hlocate] at h
  rw [remove, Outcome.bind_eq_error_iff]
  refine h.imp_right fun hlocated => ?_
  obtain ⟨location, hlocation, hrefused⟩ := hlocated
  refine ⟨location, hlocation, ?_⟩
  cases location with
  | directory place => exact hrefused
  | entry parent name slash =>
      have hsame : middle.node? (parent ++ [name]) = before.node? (parent ++ [name]) :=
        hnode _ ⟨_, hlocation, rfl⟩
      simp only [hsame] at hrefused ⊢
      split at hrefused
      next => exact hrefused
      next => exact hrefused
      next =>
        cases slash with
        | true => exact hrefused
        | false => cases hrefused

-- All is as before, except that some files are gone.
def Shrinks (before after : Tree) : Prop :=
  ∀ place, after.node? place = before.node? place ∨
    (∃ bytes, before.node? place = some (.file bytes)) ∧ after.node? place = none

theorem shrinks_erase {bytes : ByteArray} (hplace : place ≠ [])
    (hfile : before.node? place = some (.file bytes)) : before.Shrinks (before.erase place) := by
  intro other
  rw [before.node?_erase hplace]
  by_cases hother : other = place
  · rw [if_pos hother]
    exact .inr ⟨⟨bytes, hother ▸ hfile⟩, rfl⟩
  · rw [if_neg hother]
    exact .inl rfl

namespace Shrinks

theorem refl (tree : Tree) : tree.Shrinks tree := fun _ => .inl rfl

theorem trans (h : before.Shrinks middle) (hlater : middle.Shrinks after) :
    before.Shrinks after := by
  intro place
  rcases hlater place with hsame | ⟨⟨bytes, hfile⟩, hgone⟩
  · rw [hsame]
    exact h place
  · rcases h place with hfirst | ⟨-, hnone⟩
    · exact .inr ⟨⟨bytes, hfirst ▸ hfile⟩, hgone⟩
    · cases hnone.symm.trans hfile

theorem keeps (h : before.Shrinks after) : before.Keeps after := by
  intro place hplace
  rcases h place with hsame | ⟨⟨bytes, hfile⟩, -⟩
  · rw [hsame, hplace]
  · cases hplace.symm.trans hfile

theorem kept (h : before.Shrinks after) : after.Keeps before := by
  intro place hplace
  rcases h place with hsame | ⟨-, hnone⟩
  · rw [← hsame, hplace]
  · cases hnone.symm.trans hplace

theorem vacant (h : before.Shrinks after) (hplace : before.node? place = none) :
    after.node? place = none := by
  rcases h place with hsame | ⟨-, hnone⟩
  · rw [hsame, hplace]
  · exact hnone

-- A path that breaks off at a missing directory still does.
theorem locate (h : before.Shrinks after) (hlocate : before.locate path = .error .notFound) :
    after.locate path = .error .notFound :=
  h.keeps.locate_eq hlocate (fun _ _ => h.vacant) nofun

-- What was missing is missing still.
theorem absent (h : before.Shrinks after) (habsent : before.Absent path) : after.Absent path := by
  cases habsent with
  | unreached hnone => exact .unreached (h.locate hnone)
  | vacant parent name slash hentry hvacant =>
      exact .vacant parent name slash (h.keeps.locate hentry) (h.vacant hvacant)

-- Where a path leads is not changed by files that go away elsewhere.
theorem leads_iff (h : before.Shrinks after) : after.Leads path place ↔ before.Leads path place :=
  ⟨fun hleads => hleads.keeps h.kept, fun hleads => hleads.keeps h.keeps⟩

end Shrinks

-- A file that was removed is missing.
theorem absent_erase {bytes : ByteArray} (hnames : before.Names path place)
    (hfile : before.node? place = some (.file bytes)) : (before.erase place).Absent path := by
  have hshrinks := shrinks_erase hnames.ne_nil hfile
  obtain ⟨parent, name, hlocate, rfl⟩ := hnames
  refine .vacant parent name false (hshrinks.keeps.locate hlocate) ?_
  rw [before.node?_erase (by simp), if_pos rfl]

end EffectTables.Files.Tree
