import EffectTables.Proofs.Code.Names
import EffectTables.Proofs.Device.Witnesses
import EffectTables.Proofs.Document.Reading
import EffectTables.Proofs.Sources

namespace EffectTables

namespace Device

variable {device : Device}

-- Of the things found at a block only one is about its type.
theorem unknownType_mem_blockDefects_iff {before : List Block} {block : Block} {name : String}
    {typeId : Int32} :
    Defect.unknownType name typeId ∈ blockDefects device before block ↔
      device.typeOf? block = none ∧ name = block.name ∧ typeId = block.typeId := by
  simp [blockDefects]

-- A device that is refused for the type of a block has no defect at the blocks before it, so all
-- of these have types.
theorem exists_of_validate_unknownType {name : String} {typeId : Int32}
    (h : device.validate = .error (.unknownType name typeId)) :
    ∃ front block rest, device.blocks = front ++ block :: rest ∧
      (∀ other ∈ front, (device.typeOf? other).isSome) ∧ device.typeOf? block = none ∧
      name = block.name ∧ typeId = block.typeId := by
  rcases of_validate_eq_error h with ⟨more, htypes⟩ | ⟨-, ⟨more, hblocks⟩ | ⟨-, more, hbearers⟩⟩
  · cases ofBlockTypes_of_mem_along (htypes ▸ List.mem_cons_self)
  · obtain ⟨front, block, rest, later, hsplit, hfront, hfound⟩ := of_along_eq_cons hblocks
    obtain ⟨hsound, -⟩ := (along_eq_nil_iff (blockDefects_eq_nil_iff device) _ _).mp hfront
    refine ⟨front, block, rest, hsplit, fun other hother => (hsound other hother).2.2, ?_⟩
    exact unknownType_mem_blockDefects_iff.mp (hfound ▸ List.mem_cons_self)
  · cases ofEnumerators_of_mem_along (hbearers ▸ List.mem_cons_self)

end Device

namespace Code

-- What is told of the first block whose type the device does not have.
inductive Dangling.First (device : Device) : Dangling → Prop
  | intro {front rest : List Block} {block : Block}
      (blocks : device.blocks = front ++ block :: rest)
      (typed : ∀ other ∈ front, ∃ type ∈ device.blockTypes, type.typeId = other.typeId)
      (unknown : ∀ type ∈ device.blockTypes, type.typeId ≠ block.typeId) :
      First device ⟨block.name, block.typeId⟩

namespace Tables

variable {device : Device} {dangling : Dangling}

theorem typed_eq_error_iff {block : Block} :
    typed device block = .error dangling ↔
      device.typeOf? block = none ∧ dangling = ⟨block.name, block.typeId⟩ := by
  unfold typed
  split <;> simp [*, eq_comm]

theorem exists_typed_eq_ok_iff {block : Block} :
    (∃ pair, typed device block = .ok pair) ↔ (device.typeOf? block).isSome := by
  unfold typed
  split <;> simp [*]

-- Tables are missing for want of the type of one block, the first without one.
theorem ofDevice_eq_error_iff :
    ofDevice device = .error dangling ↔
      ∃ front block rest, device.blocks = front ++ block :: rest ∧
        (∀ other ∈ front, (device.typeOf? other).isSome) ∧ device.typeOf? block = none ∧
        dangling = ⟨block.name, block.typeId⟩ := by
  rw [ofDevice, Outcome.bind_eq_error_iff]
  simp only [pure, Except.pure, reduceCtorEq, and_false, exists_false, or_false,
    Outcome.mapM_eq_error_iff, exists_typed_eq_ok_iff, typed_eq_error_iff]

theorem ofDevice_eq_error_iff_first (hindexed : device.Indexed) :
    ofDevice device = .error dangling ↔ dangling.First device := by
  simp only [ofDevice_eq_error_iff, hindexed.typeOf?_isSome_iff, hindexed.typeOf?_eq_none_iff]
  constructor
  · rintro ⟨front, block, rest, hblocks, htyped, hunknown, rfl⟩
    exact ⟨hblocks, htyped, hunknown⟩
  · rintro ⟨hblocks, htyped, hunknown⟩
    exact ⟨_, _, _, hblocks, htyped, hunknown, rfl⟩

-- Where a block has no type, there is a first such block.
theorem exists_ofDevice_eq_error_iff :
    (∃ dangling, ofDevice device = .error dangling) ↔
      ∃ block ∈ device.blocks, device.typeOf? block = none := by
  constructor
  · intro h
    obtain ⟨dangling, h⟩ := h
    obtain ⟨front, block, rest, hblocks, -, hunknown, -⟩ := ofDevice_eq_error_iff.mp h
    exact ⟨block, by simp [hblocks], hunknown⟩
  · intro h
    obtain ⟨block, hblock, hunknown⟩ := h
    have hfind : (device.blocks.find? fun block => (device.typeOf? block).isNone).isSome :=
      List.find?_isSome.mpr ⟨block, hblock, Option.isNone_iff_eq_none.mpr hunknown⟩
    obtain ⟨first, hfirst⟩ := Option.isSome_iff_exists.mp hfind
    obtain ⟨hnone, front, rest, hblocks, hfront⟩ := List.find?_eq_some_iff_append.mp hfirst
    refine ⟨_, ofDevice_eq_error_iff.mpr ⟨front, first, rest, hblocks, fun other hother => ?_,
      Option.isNone_iff_eq_none.mp hnone, rfl⟩⟩
    simpa using hfront other hother

theorem exists_of_validate_eq_ok (hindexed : device.Indexed) (h : device.validate = .ok ()) :
    ∃ tables, ofDevice device = .ok tables := by
  have hwell := hindexed.validate_eq_ok_iff.mp h
  obtain ⟨pairs, hpairs⟩ := exists_typed fun block hblock =>
    (hindexed.typeOf?_isSome_iff block).mpr (hwell.typed block hblock)
  exact ⟨build device pairs, ofDevice_eq_ok_iff.mpr ⟨pairs, hpairs, rfl⟩⟩

end Tables

-- The search for the types of the blocks when tables are made, and the check of a device before
-- that, find the same block without a type.
structure Agreement (device : Device) : Prop where
  fails : (∃ dangling, Tables.ofDevice device = .error dangling) ↔
    ∃ block ∈ device.blocks, ∀ type ∈ device.blockTypes, type.typeId ≠ block.typeId
  first : ∀ dangling, Tables.ofDevice device = .error dangling ↔ dangling.First device
  accepted : device.validate = .ok () → ∃ tables, Tables.ofDevice device = .ok tables
  refused : ∀ block typeId, device.validate = .error (.unknownType block typeId) →
    Tables.ofDevice device = .error ⟨block, typeId⟩

theorem agreement_of_indexed {device : Device} (hindexed : device.Indexed) : Agreement device where
  fails := by
    simp only [Tables.exists_ofDevice_eq_error_iff, hindexed.typeOf?_eq_none_iff]
  first _ := Tables.ofDevice_eq_error_iff_first hindexed
  accepted := Tables.exists_of_validate_eq_ok hindexed
  refused block typeId h := by
    obtain ⟨front, block, rest, hblocks, htyped, hunknown, rfl, rfl⟩ :=
      Device.exists_of_validate_unknownType h
    exact Tables.ofDevice_eq_error_iff.mpr ⟨front, block, rest, hblocks, htyped, hunknown, rfl⟩

end Code

namespace Sources

-- Why there are no files for a document: it cannot be read, its device is not sound, or the
-- settings are not usable.
inductive Refusal (settings : Settings) (document : String) : Failure → Prop
  | document {error : ReadError} (unread : (Device.read document).outcome = .error error) :
      Refusal settings document (.document error)
  | unsound {device : Device} {defect : Defect} (read : (Device.read document).outcome = .ok device)
      (refused : device.validate = .error defect) : Refusal settings document (.unsound defect)
  | settings {device : Device} {fault : Settings.Fault}
      (read : (Device.read document).outcome = .ok device) (accepted : device.validate = .ok ())
      (unusable : settings.validate = .error fault) : Refusal settings document (.settings fault)

-- No block of a device that was read and accepted is without a type, so tables are never missing.
theorem ofDocument_eq_error_iff_refusal {settings : Settings} {document : String}
    {failure : Failure} :
    (ofDocument settings document).outcome = .error failure ↔
      Refusal settings document failure := by
  rw [ofDocument_eq_error_iff]
  constructor
  · rintro (⟨error, hread, rfl⟩ | ⟨device, hread, ⟨defect, hrefused, rfl⟩ | ⟨haccepted, hfiles⟩⟩)
    · exact .document hread
    · exact .unsound hread hrefused
    · obtain ⟨-, hdescribed⟩ := Device.read_eq_ok_iff.mp hread
      have hindexed : device.Indexed := hdescribed ▸ Description.device_indexed _
      obtain ⟨tables, htables⟩ := Code.Tables.exists_of_validate_eq_ok hindexed haccepted
      rcases ofDevice_eq_error_iff.mp hfiles with ⟨fault, hsettings, rfl⟩ | ⟨-, dangling, hnone, -⟩
      · exact .settings hread haccepted hsettings
      · exact nomatch htables.symm.trans hnone
  · rintro (hread | ⟨hread, hrefused⟩ | ⟨hread, haccepted, hsettings⟩)
    · exact .inl ⟨_, hread, rfl⟩
    · exact .inr ⟨_, hread, .inl ⟨_, hrefused, rfl⟩⟩
    · exact .inr ⟨_, hread, .inr ⟨haccepted, ofDevice_eq_error_iff.mpr (.inl ⟨_, hsettings, rfl⟩)⟩⟩

-- However a device was put together, the tables and the check agree on the types that its blocks
-- refer to. The one failure that would come from tables alone is never that of a document.
theorem agreement_ofAdditions :
    (∀ additions, Code.Agreement (Device.ofAdditions additions)) ∧
      ∀ settings document failure, (ofDocument settings document).outcome = .error failure ↔
        Refusal settings document failure :=
  ⟨fun additions => Code.agreement_of_indexed (Device.ofAdditions_indexed additions),
    fun _ _ _ => ofDocument_eq_error_iff_refusal⟩

-- Of two blocks without a type both speak of the first, whatever the order of blocks and types.
theorem agreement_two_dangling :
    let delay : Block := { id := 112, name := "Delay 1", typeId := 70 }
    let chorus : Block := { id := 116, name := "Chorus 1", typeId := 78 }
    let amp : BlockType := { typeId := 58, name := "Amp", parameters := [] }
    let cab : Block := { id := 108, name := "Cab 1", typeId := 58 }
    let device := Device.ofAdditions [.block cab, .block delay, .blockType amp, .block chorus]
    device.validate = .error (.unknownType "Delay 1" 70) ∧
      Code.Tables.ofDevice device = .error ⟨"Delay 1", 70⟩ := by
  intro delay chorus amp cab device
  have hrefused : device.validate = .error (.unknownType "Delay 1" 70) := by decide +kernel
  exact ⟨hrefused, (agreement_ofAdditions.1 _).refused _ _ hrefused⟩

end Sources

end EffectTables
