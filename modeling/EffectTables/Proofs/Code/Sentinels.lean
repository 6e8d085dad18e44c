import EffectTables.Proofs.Code.Answers

namespace EffectTables

-- What is described keeps clear of the numbers that stand for "none".
structure Description.Clear (description : Description) : Prop where
  types : ∀ slot ∈ description.slots, slot.typeId ≠ -1
  blocks : ∀ slot ∈ description.slots, slot.id ≠ 0
  bypasses : ∀ group ∈ description.groups, group.bypassId? ≠ some (-1)

namespace Code

namespace Program

-- The number that an answer is for the caller.
def answerNumber? (program : Program) : Answer → Option Int32
  | .symbol name => program.number? (.symbol name)
  | .number value => some value
  | .text _ => none

-- The call comes back with a number and with no other.
def Gives (program : Program) (name : String) (arguments : List Int32) (n : Int32) : Prop :=
  ∃ answer, program.Yields name arguments answer ∧ program.answerNumber? answer = some n

theorem Yields.unique {program : Program} {name : String} {arguments : List Int32}
    {answer other : Answer} (h : program.Yields name arguments answer)
    (hother : program.Yields name arguments other) : answer = other :=
  (hother answer).mp ((h answer).mpr rfl)

theorem gives_iff {program : Program} {name : String} {arguments : List Int32} {answer : Answer}
    (h : program.Yields name arguments answer) {n : Int32} :
    program.Gives name arguments n ↔ program.answerNumber? answer = some n := by
  constructor
  · intro hgives
    obtain ⟨other, hother, hnumber⟩ := hgives
    rwa [h.unique hother]
  · exact fun hnumber => ⟨answer, h, hnumber⟩

-- The numbers that stand for "none" are given where there is none, and only there.
def Sentinels (program : Program) (description : Description) : Prop :=
  ∃ noType noBlock, program.number? (.symbol Symbol.noBlockType) = some noType ∧
    program.number? (.symbol Symbol.noBlock) = some noBlock ∧
    (∀ n, program.Gives "GetBlockType" [n] noType ↔ ∀ slot ∈ description.slots, slot.id ≠ n) ∧
    (∀ group ∈ description.groups,
      program.Gives "GetBlockBypassParamID" [group.typeId] (-1) ↔ group.bypassId? = none) ∧
    program.Gives "GetBlockType" [noBlock] noType ∧
    program.Yields "GetBlockName" [noBlock] (.text "")

variable {program : Program} {description : Description}

theorem Answers.gives_bypassId_iff (h : program.Answers description) {group : Group}
    (hgroup : group ∈ description.groups) :
    program.Gives "GetBlockBypassParamID" [group.typeId] (-1) ↔
      group.bypassId?.getD (-1) = -1 := by
  have hfound : description.groupWith? group.typeId = some group :=
    Lookup.find?_key_self h.typeIds hgroup
  rw [gives_iff (h.bypassId group.typeId), hfound, answerNumber?, Option.some.injEq]
  rfl

-- As a number, the type of a block is the type of its slot, and -1 if there is no slot.
theorem Answers.gives_blockType_iff (h : program.Answers description) {n number : Int32} :
    program.Gives "GetBlockType" [n] number ↔
      ((description.slotWith? n).map (·.typeId)).getD (-1) = number := by
  rw [gives_iff (h.blockType n), answerNumber?]
  cases hslot : description.slotWith? n with
  | none =>
      simp only [Option.bind_none, Option.map_none, Option.getD_none, h.noBlockType,
        Option.some.injEq]
  | some slot =>
      have hmem : slot ∈ description.slots := List.mem_of_find?_eq_some hslot
      obtain ⟨group, hgroup⟩ := Option.isSome_iff_exists.mp (h.typed slot hmem)
      obtain ⟨hgroups, htype⟩ := (Lookup.find?_key_eq_some_iff h.typeIds).mp hgroup
      simp only [Option.bind_some, hgroup, Option.map_some, Option.getD_some,
        h.blockTypes group hgroups, Option.some.injEq, htype]

theorem Answers.slotWith?_eq_some_iff (h : program.Answers description) {n : Int32} {slot : Slot} :
    description.slotWith? n = some slot ↔ slot ∈ description.slots ∧ slot.id = n :=
  Lookup.find?_key_eq_some_iff h.slotIds

theorem slotWith?_eq_none_iff {n : Int32} :
    description.slotWith? n = none ↔ ∀ slot ∈ description.slots, slot.id ≠ n := by
  simp [Description.slotWith?]

-- The numbers for "none" mean what they say if and only if nothing that is described has them.
theorem Answers.sentinels_iff (h : program.Answers description)
    (hnoBlock : program.number? (.symbol Symbol.noBlock) = some 0) :
    program.Sentinels description ↔ description.Clear := by
  constructor
  · intro hsentinels
    obtain ⟨noType, noBlock, hnoType, hzero, htypes, hbypasses, hnone, -⟩ := hsentinels
    obtain rfl : -1 = noType := Option.some.inj (h.noBlockType.symm.trans hnoType)
    obtain rfl : 0 = noBlock := Option.some.inj (hnoBlock.symm.trans hzero)
    refine ⟨fun slot hslot htype => ?_, (htypes 0).mp hnone, fun group hgroup hbypass => ?_⟩
    · have hfound := h.slotWith?_eq_some_iff.mpr ⟨hslot, rfl⟩
      refine (htypes slot.id).mp (h.gives_blockType_iff.mpr ?_) slot hslot rfl
      rw [hfound, Option.map_some, Option.getD_some, htype]
    · have hgives := (h.gives_bypassId_iff hgroup).mpr (by rw [hbypass, Option.getD_some])
      cases hbypass.symm.trans ((hbypasses group hgroup).mp hgives)
  · intro hclear
    have htypes (n : Int32) :
        program.Gives "GetBlockType" [n] (-1) ↔ ∀ slot ∈ description.slots, slot.id ≠ n := by
      rw [h.gives_blockType_iff, ← slotWith?_eq_none_iff]
      cases hslot : description.slotWith? n with
      | none => simp
      | some slot =>
          have hmem := (h.slotWith?_eq_some_iff.mp hslot).1
          simpa using hclear.types slot hmem
    have hfree := slotWith?_eq_none_iff.mpr hclear.blocks
    refine ⟨-1, 0, h.noBlockType, hnoBlock, htypes, fun group hgroup => ?_,
      (htypes 0).mpr hclear.blocks, ?_⟩
    · rw [h.gives_bypassId_iff hgroup]
      cases hbypass : group.bypassId? with
      | none => simp
      | some id =>
          have hid : id ≠ -1 := fun he => hclear.bypasses group hgroup (he ▸ hbypass)
          simpa using hid
    · have hname := h.blockName 0
      rwa [hfree] at hname

end Program

theorem number?_noBlock {device : Device} (tables : Tables) (hwell : device.WellFormed) :
    (Program.ofDevice device tables).number? (.symbol Symbol.noBlock) = some 0 :=
  number?_enumerator hwell (List.mem_cons_of_mem _ List.mem_cons_self) List.mem_cons_self

end Code

namespace Sources

open Code

-- Wherever files are generated, the numbers for "none" in their program can be relied on if and
-- only if no block has the id 0 or a type with the id -1, and no bypass parameter has the id -1. No
-- check of the device sees to that.
theorem sentinels_iff_of_ofDocument {settings : Settings} {document : String} {sources : Sources}
    (h : (ofDocument settings document).outcome = .ok sources) :
    ∃ device program, sources.Shows settings document device program ∧
      (program.Sentinels (Description.ofEvents (Markup.read document).items) ↔
        (Description.ofEvents (Markup.read document).items).Clear) := by
  obtain ⟨_, pairs, rfl, -, hwell, hpairs, hshows⟩ := shows_of_ofDocument h
  exact ⟨_, _, hshows, (answers_build hwell pairs hpairs).sentinels_iff (number?_noBlock _ hwell)⟩

theorem sentinels_iff_oneAmp :
    ∃ sources program noType, (ofDocument {} oneAmp).outcome = .ok sources ∧
      sources.program? = some program ∧
      program.number? (.symbol Symbol.noBlockType) = some noType ∧
      program.Gives "GetBlockType" [107] noType ∧ ¬ program.Gives "GetBlockType" [106] noType ∧
      ¬ program.Gives "GetBlockBypassParamID" [5] (-1) := by
  have hok : (ofDocument {} oneAmp).outcome.isOk := by decide +kernel
  obtain ⟨sources, hsources⟩ := Outcome.exists_of_isOk hok
  obtain ⟨device, program, hshows, hsentinels⟩ := sentinels_iff_of_ofDocument hsources
  rw [description_oneAmp] at hsentinels
  have hclear : Description.Clear
      ⟨[⟨106, "Amp 1", 5⟩], [⟨5, "Amp", some 3, [(3, "BYPASS")]⟩], [], []⟩ :=
    ⟨by decide, by decide, by decide⟩
  obtain ⟨noType, noBlock, hnoType, -, htypes, hbypasses, -⟩ := hsentinels.mpr hclear
  refine ⟨sources, program, noType, hsources, hshows.shown, hnoType, ?_, ?_, ?_⟩
  · exact (htypes 107).mpr (by decide)
  · exact (htypes 106).not.mpr (by decide)
  · exact (hbypasses _ List.mem_cons_self).not.mpr (by decide)

-- A block in what the routing grid takes for an empty cell.
def blockZero : String :=
  r#"<EffectPoolInstance id="0" typeID="5" name="Amp 1"/>
<EffectParameters typeID="5" name="Amp"/>"#

theorem not_sentinels_blockZero :
    ∃ sources, (ofDocument {} blockZero).outcome = .ok sources ∧
      ∃ device program, sources.Shows {} blockZero device program ∧
        ¬ program.Sentinels (Description.ofEvents (Markup.read blockZero).items) := by
  have hok : (ofDocument {} blockZero).outcome.isOk := by decide +kernel
  have hdescription : Description.ofEvents (Markup.read blockZero).items =
      ⟨[⟨0, "Amp 1", 5⟩], [⟨5, "Amp", none, []⟩], [], []⟩ := by decide +kernel
  obtain ⟨sources, hsources⟩ := Outcome.exists_of_isOk hok
  obtain ⟨_, pairs, rfl, -, hwell, hpairs, hshows⟩ := shows_of_ofDocument hsources
  refine ⟨sources, hsources, _, _, hshows, ?_⟩
  rw [(answers_build hwell pairs hpairs).sentinels_iff (number?_noBlock _ hwell), hdescription]
  exact fun hclear => hclear.blocks _ List.mem_cons_self rfl

end Sources

end EffectTables
