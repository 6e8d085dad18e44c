import EffectTables.Delivery
import EffectTables.Proofs.Files.Faithful
import EffectTables.Proofs.Text.Delimited

namespace EffectTables

namespace Files.Tree

variable {before middle after : Tree} {path : String} {bytes content : ByteArray} {place : Place}

-- The place holds the same file, if it holds one.
def SameFile (before after : Tree) (place : Place) : Prop :=
  ∀ bytes, after.node? place = some (.file bytes) ↔ before.node? place = some (.file bytes)

-- Nothing has changed.
def Same (before after : Tree) : Prop := ∀ place, after.node? place = before.node? place

theorem Same.keeps (h : Same before after) : before.Keeps after := by
  intro place hplace
  rw [h place, hplace]

-- At the end of the path there is a file with these bytes now. All else is as before.
structure Replaces (before after : Tree) (path : String) (bytes : ByteArray) (place : Place) :
    Prop where
  names : before.Names path place
  vacant : before.node? place ≠ some .directory
  file : after.node? place = some (.file bytes)
  others : ∀ other, other ≠ place → after.node? other = before.node? other

theorem replaces_put (h : before.Names path place) (hvacant : before.node? place ≠ some .directory)
    (bytes : ByteArray) : Replaces before (before.put place (.file bytes)) path bytes place where
  names := h
  vacant := hvacant
  file := by rw [before.node?_put h.ne_nil, if_pos rfl]
  others other hother := by rw [before.node?_put h.ne_nil, if_neg hother]

-- A file that holds the bytes already is as good as a new one.
theorem replaces_self (h : before.Names path place)
    (hfile : before.node? place = some (.file bytes)) :
    Replaces before before path bytes place where
  names := h
  vacant := by simp [hfile]
  file := hfile
  others _ _ := rfl

namespace Replaces

theorem keeps (h : Replaces before after path bytes place) : before.Keeps after := by
  intro other hother
  rw [h.others other, hother]
  rintro rfl
  exact h.vacant hother

theorem kept (h : Replaces before after path bytes place) : after.Keeps before := by
  intro other hother
  rw [← h.others other, hother]
  rintro rfl
  cases h.file.symm.trans hother

theorem read (h : Replaces before after path bytes place) {other : String}
    (hread : before.read other = .ok content) : ∃ bytes, after.read other = .ok bytes := by
  obtain ⟨found, hnames, hfile⟩ := read_eq_ok_iff.mp hread
  by_cases hfound : found = place
  · exact ⟨bytes, read_eq_ok_iff.mpr ⟨place, hfound ▸ hnames.keeps h.keeps, h.file⟩⟩
  · refine ⟨content, read_eq_ok_iff.mpr ⟨found, hnames.keeps h.keeps, ?_⟩⟩
    rw [h.others found hfound, hfile]

theorem trans (h : Replaces before middle path bytes place)
    (hlater : Replaces middle after path content place) :
    Replaces before after path content place where
  names := h.names
  vacant := h.vacant
  file := hlater.file
  others other hother := (hlater.others other hother).trans (h.others other hother)

-- A new file can be removed again.
theorem remove (h : Replaces before middle path bytes place) (hnew : before.node? place = none) :
    ∃ after, middle.remove path = .ok after ∧ Same before after := by
  refine ⟨_, remove_eq_ok_iff.mpr ⟨place, bytes, h.names.keeps h.keeps, h.file, rfl⟩, ?_⟩
  intro other
  rw [middle.node?_erase h.names.ne_nil]
  by_cases hother : other = place
  · rw [if_pos hother, hother, hnew]
  · rw [if_neg hother, h.others other hother]

-- A new file can take the place of another one.
theorem rename {target : String} (h : Replaces before middle path bytes place)
    (hnew : before.node? place = none) (hrename : middle.rename path target = .ok after) :
    ∃ found, Replaces before after target bytes found := by
  obtain ⟨source, found, content, hsource, hnode, hfound, hvacant, rfl⟩ := of_rename hrename
  obtain rfl : place = source := (h.names.keeps h.keeps).leads.unique hsource.leads
  obtain rfl : bytes = content := by
    have hfile := h.file.symm.trans hnode
    cases hfile
    rfl
  refine ⟨found, hfound.keeps h.kept, fun hdirectory => hvacant (h.keeps _ hdirectory), ?_, ?_⟩
  · rw [node?_put _ hfound.ne_nil, if_pos rfl]
  · intro other hother
    rw [node?_put _ hfound.ne_nil, if_neg hother, node?_erase _ hsource.ne_nil]
    by_cases hplace : other = place
    · rw [if_pos hplace, hplace, hnew]
    · rw [if_neg hplace, h.others other hplace]

end Replaces

end Files.Tree

namespace Delivery

open Files (Session Tree Fault Faithful Answer)
open Files.Session (bind_eq_iff pure_eq_iff)

section

variable {σ : Type} [Host (StateM σ)] {tree : σ → Tree} (law : Faithful tree) {before after : σ}
  {path : String} {bytes : ByteArray} {outcome : Except Fault Unit}

include law

-- A temporary file is a new file; there is one or nothing has happened.
theorem of_makeTemporary {directory : String} {tries : Nat} {outcome : Except Fault String}
    (h : makeTemporary (m := StateM σ) directory tries before = (outcome, after)) :
    (∃ fault, outcome = .error fault ∧ tree after = tree before) ∨
      ∃ temporary place, outcome = .ok temporary ∧ (tree before).node? place = none ∧
        (tree before).Replaces (tree after) temporary .empty place := by
  induction tries generalizing before with
  | zero =>
      obtain ⟨rfl, rfl⟩ := pure_eq_iff.mp h
      exact .inl ⟨_, rfl, rfl⟩
  | succ tries ih =>
      obtain ⟨created, middle, hcreate, h⟩ := bind_eq_iff.mp h
      split at h
      next =>
        cases law.create hcreate with
        | done hdone =>
            obtain ⟨rfl, rfl⟩ := pure_eq_iff.mp h
            obtain ⟨place, hnames, hnew, hput⟩ := Tree.of_create hdone
            refine .inr ⟨_, place, rfl, hnew, ?_⟩
            rw [← hput]
            exact Tree.replaces_put hnames (by simp [hnew]) .empty
      next =>
        cases law.create hcreate with
        | refused _ hsame =>
            rw [← hsame]
            exact ih h
      next =>
        cases law.create hcreate with
        | refused _ hsame =>
            obtain ⟨rfl, rfl⟩ := pure_eq_iff.mp h
            exact .inl ⟨_, rfl, hsame⟩

-- When a temporary file is discarded, all is as it was before that file.
theorem of_discard {temporary : String} {fault : Fault} {origin : Tree} {place : Files.Place}
    (hmade : origin.Replaces (tree before) temporary bytes place)
    (hnew : origin.node? place = none)
    (h : discard (m := StateM σ) temporary fault before = (outcome, after)) :
    outcome = .error fault ∧ origin.Same (tree after) := by
  obtain ⟨_, middle, hremove, h⟩ := bind_eq_iff.mp h
  obtain ⟨rfl, rfl⟩ := pure_eq_iff.mp h
  obtain ⟨later, hlater, hsame⟩ := hmade.remove hnew
  refine ⟨rfl, ?_⟩
  obtain ⟨hanswer, hrefused⟩ := law.remove hremove
  cases hanswer with
  | done hdone => exact Except.ok.inj (hlater.symm.trans hdone) ▸ hsame
  | refused fault => cases hlater.symm.trans (hrefused fault rfl)

-- Either the complete new file is in its place or nothing has changed.
theorem of_replace (h : replace (m := StateM σ) path bytes before = (outcome, after)) :
    (∃ fault, outcome = .error fault ∧ (tree before).Same (tree after)) ∨
      outcome = .ok () ∧ ∃ place, (tree before).Replaces (tree after) path bytes place := by
  obtain ⟨made, middle, hmake, h⟩ := bind_eq_iff.mp h
  rcases of_makeTemporary law hmake with ⟨fault, rfl, hsame⟩ | ⟨temporary, place, rfl, hnew, hempty⟩
  · obtain ⟨rfl, rfl⟩ := pure_eq_iff.mp h
    exact .inl ⟨fault, rfl, fun _ => hsame ▸ rfl⟩
  -- What is written to the temporary file, in full or in part, is all that changes.
  have hfilled {written : Tree} {content : ByteArray}
      (hwrite : (tree middle).write temporary content = .ok written) :
      (tree before).Replaces written temporary content place := by
    obtain ⟨other, hnames, hvacant, hput⟩ := Tree.of_write hwrite
    obtain rfl : place = other := (hempty.names.keeps hempty.keeps).leads.unique hnames.leads
    exact hempty.trans (hput ▸ Tree.replaces_put hnames hvacant content)
  obtain ⟨filled, full, hfill, h⟩ := bind_eq_iff.mp h
  obtain hanswer | ⟨fault, part, rfl, hpart⟩ := law.fill hfill
  swap
  · exact .inl ⟨fault, of_discard law (hfilled hpart) hnew h⟩
  cases hanswer with
  | refused fault hsame => exact .inl ⟨fault, of_discard law (hsame ▸ hempty) hnew h⟩
  | done hdone =>
      have hcomplete := hfilled hdone
      obtain ⟨renamed, last, hrename, h⟩ := bind_eq_iff.mp h
      cases law.rename hrename with
      | refused fault hsame => exact .inl ⟨fault, of_discard law (hsame ▸ hcomplete) hnew h⟩
      | done hdone =>
          obtain ⟨rfl, rfl⟩ := pure_eq_iff.mp h
          exact .inr ⟨rfl, hcomplete.rename hnew hdone⟩

end

-- How an attempt ends to have a file hold the contents, given what was found in its place.
inductive Attempted (path contents : String) (found : Except Fault ByteArray)
    (before after : Tree) : Except Failure Writing → Prop
  | unchanged (place : Files.Place) (names : before.Names path place)
      (holds : before.node? place = some (.file contents.toUTF8)) (same : after = before) :
      Attempted path contents found before after (.ok .unchanged)
  | generated (place : Files.Place) (replaces : before.Replaces after path contents.toUTF8 place)
      (differs : before.node? place ≠ some (.file contents.toUTF8)) :
      Attempted path contents found before after (.ok .generated)
  | unread (fault : Fault) (unread : found = .error fault) (same : before.Same after) :
      Attempted path contents found before after (.error (.unread path fault))
  | unwritten (fault : Fault) (same : before.Same after) :
      Attempted path contents found before after (.error (.unwritten path fault))

section

variable {σ : Type} [Host (StateM σ)] {tree : σ → Tree} (law : Faithful tree) {before after : σ}
  {path contents : String} {found : Except Fault ByteArray} {outcome : Except Failure Writing}

include law

theorem attempted_generateFile (hdiffers : (tree before).read path ≠ .ok contents.toUTF8)
    (h : Job.Ends (generateFile path contents) before outcome after) :
    Attempted path contents found (tree before) (tree after) outcome := by
  obtain ⟨_, middle, hreplace, h⟩ | ⟨failure, hreplace, rfl⟩ := Job.ends_bind_iff.mp h
  · obtain ⟨result, hresult, hok⟩ := Job.ends_request_iff.mp hreplace
    rcases of_replace law hresult with ⟨fault, rfl, -⟩ | ⟨rfl, place, hreplaces⟩
    · cases hok
    obtain ⟨_, later, hnote, h⟩ | ⟨failure, hnote, rfl⟩ := Job.ends_bind_iff.mp h
    · obtain ⟨rfl, rfl⟩ := Job.ends_pure_iff.mp h
      have hother : (tree before).node? place ≠ some (.file contents.toUTF8) := fun hfile =>
        hdiffers (Tree.read_eq_ok_iff.mpr ⟨place, hreplaces.names, hfile⟩)
      rw [(Job.tree_note law hnote).2]
      exact .generated place hreplaces hother
    · cases (Job.tree_note law hnote).1
  · obtain ⟨result, hresult, herror⟩ := Job.ends_request_iff.mp hreplace
    rcases of_replace law hresult with ⟨fault, rfl, hsame⟩ | ⟨rfl, -⟩
    · cases herror
      exact .unwritten fault hsame
    · cases herror

-- A file is as it is to be and all else as it was, or nothing has changed.
theorem attempted_writeIfChanged
    (h : Job.Ends (writeIfChanged path contents) before outcome after) :
    Attempted path contents ((Host.read path : StateM σ _) before).1 (tree before) (tree after)
      outcome := by
  obtain ⟨found, middle, hread, h⟩ | ⟨failure, hread, rfl⟩ := Job.ends_bind_iff.mp h
  swap
  · obtain ⟨_, -, hok⟩ := Job.ends_perform_iff.mp hread
    cases hok
  obtain ⟨_, hread, hok⟩ := Job.ends_perform_iff.mp hread
  cases hok
  obtain ⟨hsame, hfound⟩ := law.read hread
  rw [hread, ← hsame]
  rw [← hsame] at hfound
  split at h
  next bytes =>
    obtain hbytes | ⟨fault, hfault, -⟩ := hfound
    swap
    · cases hfault
    split at h
    next htext =>
      obtain rfl := Text.fromUTF8?_eq_some_iff.mp htext
      obtain ⟨place, hnames, hnode⟩ := Tree.read_eq_ok_iff.mp hbytes.symm
      obtain ⟨_, later, hnote, h⟩ | ⟨failure, hnote, rfl⟩ := Job.ends_bind_iff.mp h
      · obtain ⟨rfl, rfl⟩ := Job.ends_pure_iff.mp h
        exact .unchanged place hnames hnode (Job.tree_note law hnote).2
      · cases (Job.tree_note law hnote).1
    next htext =>
      refine attempted_generateFile law (fun hholds => htext ?_) h
      exact Text.fromUTF8?_eq_some_iff.mpr (Except.ok.inj (hbytes.trans hholds))
  next =>
    refine attempted_generateFile law (fun hholds => ?_) h
    obtain hmissing | ⟨fault, hfault, hpresent⟩ := hfound
    · cases hmissing.trans hholds
    · cases hfault
      exact hpresent rfl
  next fault _ _ =>
    obtain ⟨rfl, rfl⟩ := Job.ends_fail_iff.mp h
    exact .unread fault rfl fun _ => rfl

end

namespace Attempted

variable {path contents : String} {found : Except Fault ByteArray} {before after : Tree}
  {writing : Writing} {failure : Failure}

theorem replaces (h : Attempted path contents found before after (.ok writing)) :
    ∃ place, before.Replaces after path contents.toUTF8 place ∧
      (writing = .unchanged ↔ before.node? place = some (.file contents.toUTF8)) := by
  cases h with
  | unchanged place hnames hholds hsame =>
      rw [hsame]
      exact ⟨place, Tree.replaces_self hnames hholds, iff_of_true rfl hholds⟩
  | generated place hreplaces hdiffers => exact ⟨place, hreplaces, iff_of_false nofun hdiffers⟩

theorem read (h : Attempted path contents found before after (.ok writing)) :
    after.read path = .ok contents.toUTF8 := by
  obtain ⟨place, hreplaces, -⟩ := h.replaces
  exact Tree.read_eq_ok_iff.mpr ⟨place, hreplaces.names.keeps hreplaces.keeps, hreplaces.file⟩

theorem same (h : Attempted path contents found before after (.error failure)) :
    before.Same after := by
  cases h with
  | unread _ _ hsame => exact hsame
  | unwritten _ hsame => exact hsame

end Attempted

-- A file that is up to date is left as it is.
theorem writeIfChanged_of_read {path contents : String} {before : Session}
    (h : before.tree.read path = .ok contents.toUTF8) :
    ∃ after, Job.Ends (writeIfChanged path contents) before (.ok .unchanged) after ∧
      after.tree = before.tree := by
  have hread : Job.Ends (Job.perform (Host.read path)) before (.ok (.ok contents.toUTF8)) before :=
    Job.ends_perform_iff.mpr ⟨_, congrArg (·, before) h, rfl⟩
  refine ⟨{ before with notes := before.notes ++ [.upToDate path] },
    Job.ends_bind_ok_iff.mpr ⟨_, _, hread, ?_⟩, rfl⟩
  simp only [if_pos (Text.fromUTF8?_eq_some_iff.mpr (Eq.refl contents.toUTF8))]
  rfl

end Delivery

end EffectTables
