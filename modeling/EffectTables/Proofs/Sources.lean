import EffectTables.Proofs.Outcome
import EffectTables.Sources

namespace EffectTables

-- A failure that shows before anything is written: the input, what it says and the settings.
def Failure.OfInput (input : String) : Failure → Prop
  | .document _ | .unsound _ | .settings _ | .dangling _ | .noInput _ => True
  | .unread path _ => path = input
  | .unwritten _ _ | .unremoved _ _ => False

-- A failure to make the directory or to write one of the files.
def Failure.OfOutput (settings : Settings) (directory : String) : Failure → Prop
  | .unwritten path _ =>
      path ∈ [directory, settings.headerPath directory, settings.sourcePath directory]
  | .unread path _ => path ∈ [settings.headerPath directory, settings.sourcePath directory]
  | _ => False

-- Settings with which files can be generated.
structure Settings.Valid (settings : Settings) : Prop where
  scope : Symbol.isIdentifier settings.scope
  guard : Symbol.isIdentifier settings.guard
  headerName : Path.isPlainName settings.headerName
  sourceName : Path.isPlainName settings.sourceName
  apart : settings.headerName ≠ settings.sourceName

theorem Settings.validate_eq_ok_iff {settings : Settings} :
    settings.validate = .ok () ↔ settings.Valid := by
  unfold validate
  constructor
  · intro h
    split_ifs at h with hscope hguard hheader hsource hsame
    rw [Bool.not_eq_true', Bool.not_eq_false] at hscope hguard hheader hsource
    exact ⟨hscope, hguard, hheader, hsource, hsame⟩
  · intro h
    obtain ⟨hscope, hguard, hheader, hsource, hapart⟩ := h
    simp [hscope, hguard, hheader, hsource, hapart]

namespace Sources

-- The files for a device are laid out from its tables.
theorem ofDevice_eq_ok_iff {settings : Settings} {device : Device} {sources : Sources} :
    ofDevice settings device = .ok sources ↔
      settings.validate = .ok () ∧ ∃ tables, Code.Tables.ofDevice device = .ok tables ∧
        sources = {
          header := Code.Layout.header settings (headerParts device tables)
          source := Code.Layout.source settings (sourceParts tables) } := by
  rw [ofDevice, Outcome.bind_eq_ok_iff]
  constructor
  · intro h
    obtain ⟨_, hsettings, hrest⟩ := h
    obtain ⟨tables, htables, hsources⟩ := Outcome.bind_eq_ok_iff.mp hrest
    exact ⟨Outcome.mapError_eq_ok_iff.mp hsettings, tables, Outcome.mapError_eq_ok_iff.mp htables,
      (Outcome.pure_eq_ok_iff.mp hsources).symm⟩
  · intro h
    obtain ⟨hsettings, tables, htables, rfl⟩ := h
    refine ⟨(), Outcome.mapError_eq_ok_iff.mpr hsettings, Outcome.bind_eq_ok_iff.mpr ?_⟩
    exact ⟨tables, Outcome.mapError_eq_ok_iff.mpr htables, rfl⟩

-- A document is read and its device judged before there are files.
theorem ofDocument_eq_ok_iff {settings : Settings} {document : String} {sources : Sources} :
    (ofDocument settings document).outcome = .ok sources ↔
      ∃ device, (Device.read document).outcome = .ok device ∧ device.validate = .ok () ∧
        ofDevice settings device = .ok sources := by
  simp only [ofDocument, Traced.outcome_bind_eq_ok_iff, Traced.outcome_mapError,
    Traced.outcome_ofExcept, Outcome.mapError_eq_ok_iff]
  refine exists_congr fun device => and_congr_right fun _ => ?_
  constructor
  · intro h
    obtain ⟨_, hvalid, hsources⟩ := h
    exact ⟨hvalid, hsources⟩
  · intro h
    obtain ⟨hvalid, hsources⟩ := h
    exact ⟨(), hvalid, hsources⟩

theorem ofDevice_eq_error_iff {settings : Settings} {device : Device} {failure : Failure} :
    ofDevice settings device = .error failure ↔
      (∃ fault, settings.validate = .error fault ∧ .settings fault = failure) ∨
        settings.validate = .ok () ∧ ∃ dangling,
          Code.Tables.ofDevice device = .error dangling ∧ .dangling dangling = failure := by
  simp [ofDevice, Outcome.bind_eq_error_iff, Outcome.mapError_eq_error_iff,
    Outcome.mapError_eq_ok_iff, Unique.exists_iff, pure, Except.pure]

-- A document is refused where it is read, where its device is judged, or where files are made.
theorem ofDocument_eq_error_iff {settings : Settings} {document : String} {failure : Failure} :
    (ofDocument settings document).outcome = .error failure ↔
      (∃ error, (Device.read document).outcome = .error error ∧ .document error = failure) ∨
        ∃ device, (Device.read document).outcome = .ok device ∧
          ((∃ defect, device.validate = .error defect ∧ .unsound defect = failure) ∨
            device.validate = .ok () ∧ ofDevice settings device = .error failure) := by
  simp [ofDocument, Traced.outcome_bind_eq_error_iff, Outcome.mapError_eq_error_iff,
    Outcome.mapError_eq_ok_iff, Unique.exists_iff]

theorem ofInput_of_ofDocument {settings : Settings} {document input : String} {failure : Failure}
    (h : (ofDocument settings document).outcome = .error failure) : failure.OfInput input := by
  rcases ofDocument_eq_error_iff.mp h with ⟨error, -, rfl⟩ | ⟨device, -, ⟨defect, -, rfl⟩ | ⟨-, h⟩⟩
  · trivial
  · trivial
  · rcases ofDevice_eq_error_iff.mp h with ⟨fault, -, rfl⟩ | ⟨-, dangling, -, rfl⟩ <;> trivial

end Sources

end EffectTables
