import EffectTables.Delivery
import EffectTables.Proofs.Files.Faithful
import EffectTables.Proofs.Files.Removal
import EffectTables.Proofs.Sources

namespace EffectTables.Delivery

open Files (Session Contrary Tree Fault Faithful)

variable {settings : Settings} {directory path : String}

theorem Removal.eq_missing_iff {removal : Removal} : removal = .missing ↔ removal ≠ .removed := by
  cases removal <;> simp

section

variable {before middle after : Tree}

-- What can have become of a file that was to be removed.
inductive Removed (path : String) (before after : Tree) : Except Failure Removal → Prop
  | removed (place : Files.Place) (bytes : ByteArray) (names : before.Names path place)
      (file : before.node? place = some (.file bytes)) (erased : before.erase place = after) :
      Removed path before after (.ok .removed)
  | missing (absent : before.Absent path) (same : after = before) :
      Removed path before after (.ok .missing)
  | unremoved (fault : Fault) (refused : before.remove path = .error fault)
      (found : fault ≠ .notFound) (same : after = before) :
      Removed path before after (.error (.unremoved path fault))

namespace Removed

theorem shrinks {outcome : Except Failure Removal} (h : Removed path before after outcome) :
    before.Shrinks after := by
  cases h with
  | removed place bytes names file erased => exact erased ▸ Tree.shrinks_erase names.ne_nil file
  | missing _ same => exact same ▸ .refl _
  | unremoved _ _ _ same => exact same ▸ .refl _

theorem absent {removal : Removal} (h : Removed path before after (.ok removal)) :
    after.Absent path := by
  cases h with
  | removed place bytes names file erased => exact erased ▸ Tree.absent_erase names file
  | missing absent same => exact same ▸ absent

theorem removed_iff {removal : Removal} (h : Removed path before after (.ok removal)) :
    removal = .removed ↔ before.Exists path := by
  cases h with
  | removed place bytes names file => exact iff_of_true rfl (names.exists (by simp [file]))
  | missing absent => exact iff_of_false nofun absent.not_exists

-- What is removed is a file that could be read.
theorem removed_iff_read {removal : Removal} (h : Removed path before after (.ok removal)) :
    removal = .removed ↔ ∃ bytes, before.read path = .ok bytes := by
  cases h with
  | removed place bytes names file =>
      exact iff_of_true rfl ⟨bytes, Tree.read_eq_ok_iff.mpr ⟨place, names, file⟩⟩
  | missing absent =>
      exact iff_of_false nofun fun ⟨_, hread⟩ => absent.not_exists (Tree.exists_of_read hread)

theorem of_absent {outcome : Except Failure Removal} (h : Removed path before after outcome)
    (habsent : before.Absent path) : outcome = .ok .missing ∧ after = before := by
  cases h with
  | removed place bytes names file =>
      exact absurd (names.exists (by simp [file])) habsent.not_exists
  | missing _ same => exact ⟨rfl, same⟩
  | unremoved fault refused found =>
      rw [Tree.remove_eq_notFound_iff.mpr habsent, Except.error.injEq] at refused
      exact absurd refused.symm found

-- A place that the path does not lead to holds what it held.
theorem others {outcome : Except Failure Removal} (h : Removed path before after outcome)
    {place : Files.Place} (hplace : ¬ before.Leads path place) :
    after.node? place = before.node? place := by
  cases h with
  | removed found bytes names file erased =>
      rw [← erased, before.node?_erase names.ne_nil,
        if_neg fun he : place = found => hplace (he ▸ names.leads)]
  | missing _ same => rw [same]
  | unremoved _ _ _ same => rw [same]

end Removed

theorem removed_removeFile {σ : Type} [Host (StateM σ)] {tree : σ → Tree} (law : Faithful tree)
    {before after : σ} {outcome : Except Failure Removal}
    (h : Job.Ends (removeFile path) before outcome after) :
    Removed path (tree before) (tree after) outcome := by
  obtain ⟨result, middle, hremove, h⟩ | ⟨failure, hremove, rfl⟩ := Job.ends_bind_iff.mp h
  swap
  · obtain ⟨_, -, hok⟩ := Job.ends_perform_iff.mp hremove
    cases hok
  obtain ⟨_, hremove, hok⟩ := Job.ends_perform_iff.mp hremove
  cases hok
  obtain ⟨hanswer, hrefused⟩ := law.remove hremove
  cases hanswer with
  | refused fault hsame =>
      have hfault := hrefused fault rfl
      split at h
      next hok => cases hok
      next hmissing =>
        cases hmissing
        obtain ⟨_, later, hnote, h⟩ | ⟨failure, hnote, rfl⟩ := Job.ends_bind_iff.mp h
        · obtain ⟨rfl, rfl⟩ := Job.ends_pure_iff.mp h
          exact .missing (Tree.remove_eq_notFound_iff.mp hfault)
            ((Job.tree_note law hnote).2.trans hsame)
        · cases (Job.tree_note law hnote).1
      next other hother hfound =>
        obtain ⟨rfl, rfl⟩ := Job.ends_fail_iff.mp h
        obtain rfl : fault = other := Except.error.inj hfound
        exact .unremoved fault hfault hother hsame
  | done hdone =>
      obtain ⟨_, later, hnote, h⟩ | ⟨failure, hnote, rfl⟩ := Job.ends_bind_iff.mp h
      · obtain ⟨rfl, rfl⟩ := Job.ends_pure_iff.mp h
        obtain ⟨place, bytes, hnames, hfile, herased⟩ := Tree.remove_eq_ok_iff.mp hdone
        rw [(Job.tree_note law hnote).2]
        exact .removed place bytes hnames hfile herased
      · cases (Job.tree_note law hnote).1

-- The file is gone, and the report says whether it was there.
structure Cleared (path : String) (before after : Tree) (report : Report Removal) : Prop where
  reported : report.path = path
  removed : report.outcome = .removed ↔ before.Exists path
  missing : report.outcome = .missing ↔ ¬ before.Exists path
  gone : ¬ after.Exists path

-- Both files are gone, and nothing else is.
def Cleaned (settings : Settings) (directory : String) (before after : Tree)
    (reports : List (Report Removal)) : Prop :=
  ∃ source header, reports = [source, header] ∧
    Cleared (settings.sourcePath directory) before after source ∧
    Cleared (settings.headerPath directory) before after header ∧
    (∀ place, ¬ before.Leads (settings.sourcePath directory) place →
      ¬ before.Leads (settings.headerPath directory) place →
        after.node? place = before.node? place) ∧
    ∀ place, after.node? place = some .directory ↔ before.node? place = some .directory

-- One of the two files was there, or something in its place, and could not be removed. It is as it
-- was. Only if it was the second one may something have changed: the first one may be gone.
inductive Refused (settings : Settings) (directory : String) (before after : Tree) :
    Failure → Prop
  | source (fault : Fault) (refused : before.remove (settings.sourcePath directory) = .error fault)
      (found : fault ≠ .notFound) (same : after = before) :
      Refused settings directory before after (.unremoved (settings.sourcePath directory) fault)
  | header (fault : Fault) (refused : before.remove (settings.headerPath directory) = .error fault)
      (found : fault ≠ .notFound)
      (kept : ∀ place, before.Leads (settings.headerPath directory) place →
        after.node? place = before.node? place)
      (only : ∀ place, after.node? place = before.node? place ∨
        before.Names (settings.sourcePath directory) place ∧
          (∃ bytes, before.node? place = some (.file bytes)) ∧ after.node? place = none) :
      Refused settings directory before after (.unremoved (settings.headerPath directory) fault)

section

variable (hvalid : settings.Valid)
include hvalid

-- The removal of the first file leaves the place of the second one alone.
theorem Removed.header_untouched {removal : Removal}
    (h : Removed (settings.sourcePath directory) before middle (.ok removal)) {place : Files.Place}
    (hplace : before.Leads (settings.headerPath directory) place) :
    middle.node? place = before.node? place :=
  h.others fun hleads =>
    hleads.ne_of_join hvalid.sourceName hvalid.headerName hvalid.apart.symm hplace rfl

theorem Removed.header_exists_iff {removal : Removal}
    (h : Removed (settings.sourcePath directory) before middle (.ok removal)) :
    middle.Exists (settings.headerPath directory) ↔
      before.Exists (settings.headerPath directory) := by
  refine exists_congr fun place => ?_
  rw [h.shrinks.leads_iff]
  refine and_congr_right fun hleads => ?_
  rw [h.header_untouched hvalid hleads]

theorem Removed.header_read_iff {removal : Removal}
    (h : Removed (settings.sourcePath directory) before middle (.ok removal)) {bytes : ByteArray} :
    middle.read (settings.headerPath directory) = .ok bytes ↔
      before.read (settings.headerPath directory) = .ok bytes := by
  simp only [Tree.read_eq_ok_iff]
  constructor
  · intro hread
    obtain ⟨place, hnames, hfile⟩ := hread
    have hbefore := hnames.keeps h.shrinks.kept
    exact ⟨place, hbefore, (h.header_untouched hvalid hbefore.leads) ▸ hfile⟩
  · intro hread
    obtain ⟨place, hnames, hfile⟩ := hread
    have huntouched := h.header_untouched hvalid hnames.leads
    exact ⟨place, hnames.keeps h.shrinks.keeps, huntouched.trans hfile⟩

theorem Removed.header_locate {removal : Removal}
    (h : Removed (settings.sourcePath directory) before middle (.ok removal)) :
    middle.locate (settings.headerPath directory) =
      before.locate (settings.headerPath directory) := by
  cases h with
  | removed place bytes names file erased =>
      obtain ⟨parent, hwalk, -⟩ := names.leads.of_join hvalid.sourceName
      have hlater := (erased ▸ Tree.shrinks_erase names.ne_nil file :
        before.Shrinks middle).keeps.walk hwalk
      rw [Settings.headerPath, Tree.locate_join hvalid.headerName hwalk,
        Tree.locate_join hvalid.headerName hlater]
  | missing _ same => rw [same]

theorem cleaned_of_removed {source header : Removal}
    (hsource : Removed (settings.sourcePath directory) before middle (.ok source))
    (hheader : Removed (settings.headerPath directory) middle after (.ok header)) :
    Cleaned settings directory before after
      [⟨settings.sourcePath directory, source⟩, ⟨settings.headerPath directory, header⟩] := by
  have hshrinks := hsource.shrinks.trans hheader.shrinks
  have hexists := hheader.removed_iff.trans (hsource.header_exists_iff hvalid)
  refine ⟨_, _, rfl, ?_, ?_, ?_, ?_⟩
  · exact ⟨rfl, hsource.removed_iff, Removal.eq_missing_iff.trans hsource.removed_iff.not,
      (hheader.shrinks.absent hsource.absent).not_exists⟩
  · exact ⟨rfl, hexists, Removal.eq_missing_iff.trans hexists.not, hheader.absent.not_exists⟩
  · intro place hsourcePlace hheaderPlace
    rw [hheader.others (hsource.shrinks.leads_iff.not.mpr hheaderPlace),
      hsource.others hsourcePlace]
  · exact fun place => ⟨hshrinks.kept place, hshrinks.keeps place⟩

theorem refused_of_removed {source : Removal} {failure : Failure}
    (hsource : Removed (settings.sourcePath directory) before middle (.ok source))
    (hheader : Removed (settings.headerPath directory) middle after (.error failure)) :
    Refused settings directory before after failure := by
  cases hheader with
  | unremoved fault refused found same =>
      subst same
      refine .header fault ?_ found (fun place => hsource.header_untouched hvalid) fun place => ?_
      · exact Tree.remove_error_congr (hsource.header_locate hvalid)
          (fun place => hsource.header_untouched hvalid) refused
      · cases hsource with
        | missing _ same => exact .inl (by rw [same])
        | removed found bytes names file erased =>
            by_cases hplace : place = found
            · subst hplace
              exact .inr ⟨names, ⟨bytes, file⟩,
                by rw [← erased, before.node?_erase names.ne_nil, if_pos rfl]⟩
            · exact .inl (by rw [← erased, before.node?_erase names.ne_nil, if_neg hplace])

end

end

section

variable {σ : Type} [Host (StateM σ)] {tree : σ → Tree} (law : Faithful tree) {before after : σ}
include law

-- With settings that are in order, a cleaning removes the one file and then the other.
theorem of_clean (hvalid : settings.validate = .ok ())
    {outcome : Except Failure (List (Report Removal))}
    (h : Job.Ends (clean settings directory) before outcome after) :
    (∃ middle source header, outcome = .ok [⟨settings.sourcePath directory, source⟩,
        ⟨settings.headerPath directory, header⟩] ∧
      Removed (settings.sourcePath directory) (tree before) middle (.ok source) ∧
      Removed (settings.headerPath directory) middle (tree after) (.ok header)) ∨
    ∃ failure, outcome = .error failure ∧
      (Removed (settings.sourcePath directory) (tree before) (tree after) (.error failure) ∨
        ∃ middle source,
          Removed (settings.sourcePath directory) (tree before) middle (.ok source) ∧
          Removed (settings.headerPath directory) middle (tree after) (.error failure)) := by
  rw [clean, hvalid] at h
  obtain ⟨source, middle, hsource, h⟩ | ⟨failure, hsource, rfl⟩ := Job.ends_bind_iff.mp h
  swap
  · exact .inr ⟨failure, rfl, .inl (removed_removeFile law hsource)⟩
  obtain ⟨header, last, hheader, h⟩ | ⟨failure, hheader, rfl⟩ := Job.ends_bind_iff.mp h
  · obtain ⟨rfl, rfl⟩ := Job.ends_pure_iff.mp h
    exact .inl ⟨_, source, header, rfl, removed_removeFile law hsource,
      removed_removeFile law hheader⟩
  · exact .inr ⟨failure, rfl, .inr ⟨_, source, removed_removeFile law hsource,
      removed_removeFile law hheader⟩⟩

-- To clean where nothing is left changes nothing.
theorem clean_of_absent (hvalid : settings.validate = .ok ())
    (hsource : (tree before).Absent (settings.sourcePath directory))
    (hheader : (tree before).Absent (settings.headerPath directory))
    {outcome : Except Failure (List (Report Removal))}
    (h : Job.Ends (clean settings directory) before outcome after) :
    outcome = .ok [⟨settings.sourcePath directory, .missing⟩,
        ⟨settings.headerPath directory, .missing⟩] ∧
      tree after = tree before := by
  obtain ⟨middle, source, header, rfl, hremoved, hlater⟩ | ⟨failure, -, hremoved | hlater⟩ :=
    of_clean law hvalid h
  · obtain ⟨hok, rfl⟩ := hremoved.of_absent hsource
    obtain ⟨hlast, hsame⟩ := hlater.of_absent hheader
    cases hok
    cases hlast
    exact ⟨rfl, hsame⟩
  · cases (hremoved.of_absent hsource).1
  · obtain ⟨middle, source, hremoved, hlater⟩ := hlater
    obtain ⟨-, rfl⟩ := hremoved.of_absent hsource
    cases (hlater.of_absent hheader).1

end

-- Cleaning touches nothing but the two files. If the settings are out of order it does nothing at
-- all, and if it succeeds both files are gone and a second cleaning finds nothing to do.
def Confined {σ : Type} [Host (StateM σ)] (tree : σ → Tree) (settings : Settings)
    (directory : String) (before : σ) : Prop :=
  match settings.validate, (clean settings directory : Job (StateM σ) _).run.run before with
  | .error fault, (outcome, after) =>
      outcome = .error (.settings fault) ∧ tree after = tree before
  | .ok (), (.ok reports, after) =>
      Cleaned settings directory (tree before) (tree after) reports ∧
        ∃ again, (clean settings directory : Job (StateM σ) _).run.run after =
            (.ok [⟨settings.sourcePath directory, .missing⟩,
              ⟨settings.headerPath directory, .missing⟩], again) ∧
          tree again = tree after
  | .ok (), (.error failure, after) => Refused settings directory (tree before) (tree after) failure

theorem confined {σ : Type} [Host (StateM σ)] {tree : σ → Tree} (law : Faithful tree)
    (settings : Settings) (directory : String) (before : σ) :
    Confined tree settings directory before := by
  rcases hrun : (clean settings directory : Job (StateM σ) _).run.run before with
    ⟨outcome, after⟩
  rw [Confined, hrun]
  cases hvalidate : settings.validate with
  | error fault =>
      rw [clean, hvalidate] at hrun
      obtain ⟨rfl, rfl⟩ := Job.ends_fail_iff.mp hrun
      exact ⟨rfl, rfl⟩
  | ok _ =>
      have hvalid := Settings.validate_eq_ok_iff.mp hvalidate
      obtain ⟨middle, source, header, rfl, hsource, hheader⟩ |
          ⟨failure, rfl, hsource | ⟨middle, source, hsource, hheader⟩⟩ :=
        of_clean law hvalidate hrun
      · refine ⟨cleaned_of_removed hvalid hsource hheader, ?_⟩
        rcases hagain : (clean settings directory : Job (StateM σ) _).run.run after with
          ⟨outcome, again⟩
        obtain ⟨rfl, hsame⟩ := clean_of_absent law hvalidate
          (hheader.shrinks.absent hsource.absent) hheader.absent hagain
        exact ⟨again, rfl, hsame⟩
      · cases hsource with
        | unremoved fault refused found same => exact .source fault refused found same
      · exact refused_of_removed hvalid hsource hheader

-- It makes no difference that the file system may refuse other requests than to remove a file.
theorem clean_confined (settings : Settings) (directory : String) :
    (∀ before : Session, Confined Session.tree settings directory before) ∧
      ∀ before : Contrary,
        Confined (fun contrary : Contrary => contrary.session.tree) settings directory before :=
  ⟨confined Session.faithful settings directory, confined Contrary.faithful settings directory⟩

end EffectTables.Delivery
