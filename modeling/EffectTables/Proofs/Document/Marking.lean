import EffectTables.Proofs.Document.Accounts

namespace EffectTables

namespace Group

theorem not_bypass_of_mem_unmarked {parameters : List (Int32 × String)} {parameter : Parameter}
    (h : parameter ∈ unmarked parameters) : parameter.bypass = false := by
  obtain ⟨entry, -, rfl⟩ := List.mem_map.mp h
  rfl

-- A parameter is marked if and only if it has the bypass id and none before it has.
theorem bypass_of_marked_iff {bypass : Option Int32} {parameters : List (Int32 × String)}
    {position : Nat} {parameter : Parameter}
    (h : (marked bypass parameters)[position]? = some parameter) :
    parameter.bypass ↔ bypass = some parameter.id ∧
      ∀ earlier ∈ parameters.take position, earlier.1 ≠ parameter.id := by
  induction parameters generalizing position with
  | nil => cases h
  | cons entry rest ih =>
      rw [marked] at h
      by_cases hbypass : bypass = some entry.1
      · rw [if_pos hbypass] at h
        cases position with
        | zero =>
            cases h
            simp [hbypass]
        | succ position =>
            -- the mark is given away already, and the entry that has it stands before this one
            have hnot := not_bypass_of_mem_unmarked (List.mem_of_getElem? h)
            simp only [hnot, Bool.false_eq_true, false_iff, List.take_succ_cons,
              List.forall_mem_cons]
            intro hall
            exact hall.2.1 (Option.some.inj (hbypass.symm.trans hall.1))
      · rw [if_neg hbypass] at h
        cases position with
        | zero =>
            cases h
            simp [hbypass]
        | succ position =>
            rw [ih h, List.take_succ_cons, List.forall_mem_cons]
            refine and_congr_right fun hid => (and_iff_right ?_).symm
            intro hsame
            exact hbypass (hid.trans (congrArg some hsame.symm))

theorem countP_marked_le_one (bypass : Option Int32) (parameters : List (Int32 × String)) :
    (marked bypass parameters).countP (·.bypass) ≤ 1 := by
  induction parameters with
  | nil => exact Nat.zero_le 1
  | cons entry rest ih =>
      rw [marked]
      split
      · have hrest : (unmarked rest).countP (·.bypass) = 0 := by
          rw [List.countP_eq_zero]
          intro parameter hmem
          simp [not_bypass_of_mem_unmarked hmem]
        simp [hrest]
      · simpa using ih

-- The bypass id of the block type is the one that was asked for, unless no parameter has it.
theorem blockType_bypassId?_eq_ite (group : Group) :
    group.blockType.bypassId? = if group.filled.bypassUnmatched then none else group.bypass := by
  simp only [group.bypassUnmatched_filled_iff, group.unmatched_iff]
  rw [blockType_bypassId?, bypassId?]
  cases group.bypass with
  | none => rfl
  | some id =>
      rw [Option.filter_some]
      split <;> rfl

end Group

namespace ParameterGroup

-- What becomes of the parameters that are pushed into a group, one after another. They stay as they
-- are, and the first one with the pending id is the bypass parameter. A group whose pending id has
-- not come yet says so at any time.
structure Gathers (typeId : Int32) (name : String) (pending : Option Int32)
    (entries : List (Int32 × String)) (group : ParameterGroup) : Prop where
  typeId : group.close.typeId = typeId
  name : group.close.name = name
  pairs : group.close.parameters.map (fun parameter => (parameter.id, parameter.name)) = entries
  bypass_iff : ∀ (position : Nat) (parameter : Parameter),
    group.close.parameters[position]? = some parameter →
      (parameter.bypass ↔ pending = some parameter.id ∧
        ∀ earlier ∈ entries.take position, earlier.1 ≠ parameter.id)
  atMostOne : group.close.parameters.countP (·.bypass) ≤ 1
  bypassId : group.close.bypassId? = if group.bypassUnmatched then none else pending

theorem gathers_pushAll (typeId : Int32) (name : String) (pending : Option Int32)
    (entries : List (Int32 × String)) :
    Gathers typeId name pending entries (pushAll { typeId, name, pending } entries) ∧
      ∀ count, (pushAll { typeId, name, pending } (entries.take count)).bypassUnmatched ↔
        ∃ id, pending = some id ∧ ∀ entry ∈ entries.take count, entry.1 ≠ id := by
  have hclose : (pushAll { typeId, name, pending } entries).close =
      Group.blockType ⟨typeId, name, pending, entries⟩ :=
    Group.close_filled ⟨typeId, name, pending, entries⟩
  refine ⟨⟨?_, ?_, ?_, ?_, ?_, ?_⟩, fun count => ?_⟩
  · rw [hclose]
    rfl
  · rw [hclose]
    rfl
  · rw [hclose]
    exact Group.blockType_pairs _
  · rw [hclose]
    intro position parameter h
    exact Group.bypass_of_marked_iff h
  · rw [hclose]
    exact Group.countP_marked_le_one pending entries
  · rw [hclose]
    exact Group.blockType_bypassId?_eq_ite _
  · exact Group.bypassUnmatched_filled_iff ⟨typeId, name, pending, entries.take count⟩

example :
    let entries := [(1, "GAIN"), (3, "ON"), (2, "TONE"), (3, "OFF")]
    (pushAll ⟨5, "Amp", some 3, [], false⟩ entries).close.parameters.map (·.bypass) =
      [false, true, false, false] := by decide

end ParameterGroup

end EffectTables
