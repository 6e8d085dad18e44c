import EffectTables.Proofs.Document.Balance
import EffectTables.Proofs.Document.Queries

namespace EffectTables

open Markup (Event Tag)

def Note.isRead : Note → Prop
  | documentRead .. => True
  | _ => False

-- The group asks for a bypass parameter that it does not have.
def Group.Unmatched (group : Group) : Prop :=
  ∃ id, group.bypass = some id ∧ ∀ entry ∈ group.parameters, entry.1 ≠ id

namespace ParameterGroup

theorem pushAll_pending (group : ParameterGroup) (parameters : List (Int32 × String)) :
    (group.pushAll parameters).pending = group.pending :=
  pushAll_keeps (fun _ _ _ => rfl) group parameters

theorem pushAll_marked (group : ParameterGroup) (parameters : List (Int32 × String)) :
    (group.pushAll parameters).marked =
      (group.marked || parameters.any fun entry => group.pending == some entry.1) := by
  induction parameters generalizing group with
  | nil => simp [pushAll]
  | cons entry rest ih =>
      refine (ih (group.push entry.2 entry.1)).trans ?_
      simp only [push, List.any_cons]
      cases group.marked <;> simp

end ParameterGroup

theorem Group.bypassUnmatched_filled_iff (group : Group) :
    group.filled.bypassUnmatched ↔ group.Unmatched := by
  rw [ParameterGroup.bypassUnmatched, Unmatched, filled, ParameterGroup.pushAll_pending,
    ParameterGroup.pushAll_marked]
  cases group.bypass with
  | none => simp
  | some id =>
      simp only [Option.isSome_some, Bool.true_and, Bool.false_or, Bool.not_eq_true',
        List.any_eq_false, beq_iff_eq, Option.some.injEq, exists_eq_left']
      exact forall₂_congr fun entry _ => ne_comm

instance (group : Group) : Decidable group.Unmatched :=
  decidable_of_iff _ group.bypassUnmatched_filled_iff

-- A bypass parameter that was asked for is missing in the block type if it is not in the group.
theorem Group.unmatched_iff (group : Group) :
    group.Unmatched ↔ group.bypass.isSome ∧ group.blockType.bypassId? = none := by
  rw [blockType_bypassId?, bypassId?, Unmatched]
  cases group.bypass with
  | none => simp
  | some id =>
      have hany : (group.parameters.any (·.1 == id)) = false ↔
          ∀ entry ∈ group.parameters, entry.1 ≠ id := by simp only [List.any_eq_false, beq_iff_eq]
      simp only [Option.some.injEq, exists_eq_left', ← hany, Option.isSome_some, true_and,
        Option.filter_some]
      cases group.parameters.any (·.1 == id) <;> simp

def Group.warning (group : Group) : Note := .bypassUnmatched group.name group.typeId

theorem Group.warning?_filled (group : Group) :
    Device.Progress.warning? group.filled =
      if group.Unmatched then some group.warning else none := by
  rw [Device.Progress.warning?, warning, filled, ParameterGroup.pushAll_name,
    ParameterGroup.pushAll_typeId]
  simp only [← group.bypassUnmatched_filled_iff, filled]

theorem Group.filterMap_warning? (groups : List Group) :
    (groups.map filled).filterMap Device.Progress.warning? =
      (groups.filter Unmatched).map warning := by
  rw [List.filterMap_map, ← List.filterMap_eq_map, List.filterMap_filter]
  refine List.filterMap_congr fun group _ => ?_
  simp [warning?_filled]

namespace Device

namespace Progress

open Traced (Remarks)

-- The end of a document is noted nowhere but there.
abbrev Underway (work : Traced ReadError α) : Prop := work.Remarks fun note => ¬ note.isRead

theorem underway_openInstance (progress : Progress) (tag : Tag) :
    Underway (progress.openInstance tag) := by
  refine (Remarks.ofExcept _).bind fun attributes => (Remarks.ofExcept _).bind fun typeId => ?_
  cases typeId with
  | none => exact (Remarks.note id).bind fun _ => .pure _
  | some typeId =>
      exact (Remarks.ofExcept _).bind fun _ => (Remarks.ofExcept _).bind fun _ => .pure _

theorem underway_openGroup (progress : Progress) (tag : Tag) :
    Underway (progress.openGroup tag) := by
  rw [openGroup]
  split
  next =>
    refine (Remarks.ofExcept _).bind fun attributes => (Remarks.ofExcept _).bind fun typeId => ?_
    cases typeId with
    | none => exact (Remarks.note id).bind fun _ => .pure _
    | some typeId =>
        exact (Remarks.ofExcept _).bind fun _ => (Remarks.ofExcept _).bind fun _ => .pure _
  next => exact .fail _

theorem underway_openParameter (progress : Progress) (tag : Tag) :
    Underway (progress.openParameter tag) := by
  rw [openParameter]
  split
  next =>
    exact (Remarks.ofExcept _).bind fun _ => (Remarks.ofExcept _).bind fun _ =>
      (Remarks.ofExcept _).bind fun _ => .pure _
  next => exact (Remarks.note id).bind fun _ => .pure _

theorem underway_openEntry (element : Element) (catalog : Catalog)
    (add : Int32 → String → Progress) (tag : Tag) :
    Underway (openEntry element catalog add tag) := by
  refine (Remarks.ofExcept _).bind fun _ => (Remarks.ofExcept _).bind fun _ =>
    (Remarks.ofExcept _).bind fun _ => ?_
  split
  next => exact .pure _
  next => exact (Remarks.note id).bind fun _ => .pure _

theorem underway_openElement (progress : Progress) (tag : Tag) :
    Underway (progress.openElement tag) := by
  rw [openElement]
  split
  next => exact .pure _
  next => exact underway_openInstance progress tag
  next => exact underway_openGroup progress tag
  next => exact underway_openParameter progress tag
  next => exact underway_openEntry _ _ _ tag
  next => exact underway_openEntry _ _ _ tag

theorem underway_closeElement (progress : Progress) (name : String) :
    Underway (progress.closeElement name) := by
  rw [closeElement]
  split
  next =>
    split
    next group _ =>
      cases hunmatched : group.bypassUnmatched with
      | false => exact Remarks.bind (.pure _) fun _ => .pure _
      | true => exact (Remarks.note id).bind fun _ => .pure _
    next => exact .pure _
  next => exact .pure _

theorem underway_onEvent (progress : Progress) (event : Event) :
    Underway (progress.onEvent event) := by
  cases event with
  | opens tag => exact underway_openElement _ tag
  | selfCloses tag =>
      exact (underway_openElement progress tag).bind fun opened => underway_closeElement opened _
  | closes name =>
      rw [onEvent]
      split
      next => exact .fail _
      next => exact underway_closeElement _ name
  | aside => exact .pure _

theorem underway_onEvents (progress : Progress) (events : List Event) :
    Underway (progress.onEvents events) := by
  induction events generalizing progress with
  | nil => exact .pure _
  | cons event rest ih => exact (underway_onEvent progress event).bind fun next => ih next

theorem not_isRead_of_onEvents {progress : Progress} {events : List Event} {notes : List Note}
    {outcome : Except ReadError Progress} (h : progress.onEvents events = ⟨notes, outcome⟩) :
    ∀ note ∈ notes, ¬ note.isRead := by
  have hunderway := underway_onEvents progress events
  rw [h] at hunderway
  exact hunderway

theorem finish_eq_error {progress : Progress} {notes : List Note} {error : ReadError}
    (h : progress.finish = ⟨notes, .error error⟩) : notes = [] := by
  rw [finish] at h
  split at h
  next => cases h
  next =>
    cases h
    rfl

theorem of_finish {progress : Progress} {notes : List Note} {device : Device}
    (h : progress.finish = ⟨notes, .ok device⟩) :
    progress.depth = 0 ∧ progress.device = device ∧
      notes = [.documentRead device.blocks.length device.blockTypes.length device.amps.size
        device.cabs.size] := by
  rw [finish] at h
  split at h
  next hdepth =>
    cases h
    exact ⟨hdepth, rfl, rfl⟩
  next => cases h

end Progress

open Progress (elements warnings)

-- A reading that succeeds accounts for all known elements: what did not become an item of the
-- device is in the notes, and so are the groups without the bypass parameter they ask for. The
-- last note is the only one that says that the document was read.
structure Accounts (events : List Event) (device : Device) (notes : List Note) : Prop where
  conserved : ∀ element, (elements events).count element =
    device.count element + (notes.filterMap Note.loss?).count element
  warned : warnings notes =
    ((Description.ofEvents events).groups.filter Group.Unmatched).map Group.warning
  types : device.blockTypes = (Description.ofEvents events).groups.map Group.blockType
  unmatched : ∀ group ∈ (Description.ofEvents events).groups,
    group.Unmatched ↔ group.bypass.isSome ∧ group.blockType.bypassId? = none
  finished : ∃ earlier,
    notes = earlier ++ [.documentRead device.blocks.length device.blockTypes.length
      device.amps.size device.cabs.size] ∧ ∀ note ∈ earlier, ¬ note.isRead

theorem accounts_of_ofEvents {found : Markup.Findings Event} (hfits : Markup.Fits [] found.items)
    {device : Device} {notes : List Note} (h : ofEvents found = ⟨notes, .ok device⟩) :
    Accounts found.items device notes := by
  obtain ⟨progress, earlier, later, hrun, hend, rfl⟩ := Traced.bind_eq_ok_iff.mp h
  have hdescribed := (ofEvents_eq_ok_iff hfits).mp (congrArg Traced.outcome h)
  cases hfault : found.fault with
  | some fault =>
      rw [hfault] at hend
      cases hend
  | none =>
      rw [hfault] at hend
      obtain ⟨hdepth, rfl, rfl⟩ := Progress.of_finish hend
      have haccounted := Progress.follows_nil.accounted ⟨.nil, .nil⟩ hfits hrun
      have hfollows := Progress.follows_nil.onEvents hfits (congrArg Traced.outcome hrun)
      have hopened := List.length_eq_zero_iff.mp (hfollows.depth.symm.trans hdepth)
      have houtside := Progress.Within.nil (hopened ▸ hfollows.within)
      refine ⟨fun element => ?_, ?_, ?_, fun group _ => group.unmatched_iff, earlier, rfl, ?_⟩
      · have hbalanced := haccounted.balanced element
        have hempty : ({} : Progress).count element = 0 := by cases element <;> rfl
        rw [Progress.count, houtside, hempty, Nat.zero_add] at hbalanced
        rw [← hbalanced, List.filterMap_append, List.count_append]
        rfl
      · have hwarnings := haccounted.warnings []
        rw [hopened, houtside, List.append_nil] at hwarnings
        rw [← Group.filterMap_warning?, Progress.warnings_append]
        exact hwarnings
      · rw [hdescribed.2]
        exact (Description.device_records _).blockTypes
      · exact Progress.not_isRead_of_onEvents hrun

theorem read_accounts (document : String) :
    match read document with
    | ⟨notes, .ok device⟩ => Accounts (Markup.read document).items device notes
    | ⟨notes, .error _⟩ => ∀ note ∈ notes, ¬ note.isRead := by
  rcases hread : read document with ⟨notes, error | device⟩
  · obtain hrun | ⟨progress, earlier, later, hrun, hend, rfl⟩ := Traced.bind_eq_error_iff.mp hread
    · exact Progress.not_isRead_of_onEvents hrun
    · have hlater : later = [] := by
        split at hend
        next => exact (Traced.mk.inj hend).1.symm
        next => exact Progress.finish_eq_error hend
      rw [hlater, List.append_nil]
      exact Progress.not_isRead_of_onEvents hrun
  · exact accounts_of_ofEvents (Markup.read_fits document) hread

end Device

end EffectTables
