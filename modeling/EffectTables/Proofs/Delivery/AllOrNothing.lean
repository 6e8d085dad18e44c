import EffectTables.Proofs.Delivery.Replacement

namespace EffectTables

namespace Delivery

open Files (Session Contrary Tree Fault)
open Files.Session (bind_eq_iff pure_eq_iff)

variable {before middle : Session} {path contents temporary : String} {bytes : ByteArray}
  {place : Files.Place}

-- Where the path names a place for a file, nothing stands in the way of a new file there but the
-- making of a temporary one.
theorem replace_of_makeTemporary (hnames : before.tree.Names path place)
    (hvacant : before.tree.node? place ≠ some .directory)
    (hmake : makeTemporary (m := StateM Session) (Path.directory path) temporaryTries before =
      (.ok temporary, middle)) :
    ∃ after, replace (m := StateM Session) path bytes before = (.ok (), after) := by
  obtain ⟨_, herror, -⟩ | ⟨_, new, hok, -, hempty⟩ := of_makeTemporary Session.faithful hmake
  · cases herror
  cases hok
  have htemporary := hempty.names.keeps hempty.keeps
  have hunfilled : middle.tree.node? new ≠ some .directory := by simp [hempty.file]
  have hfull := Tree.replaces_put htemporary hunfilled bytes
  have hfree : (middle.tree.put new (.file bytes)).node? place ≠ some .directory :=
    fun hdirectory => hvacant (hempty.kept _ (hfull.kept _ hdirectory))
  have hrename := Tree.Names.rename ((hnames.keeps hempty.keeps).keeps hfull.keeps) hfree
    (htemporary.keeps hfull.keeps) hfull.file
  have hfill : (Host.fill temporary bytes : StateM Session _) middle = _ :=
    Session.change_of_ok (htemporary.write hunfilled bytes)
  have hrenamed : (Host.rename temporary path : StateM Session _)
      { middle with tree := middle.tree.put new (.file bytes) } = _ :=
    Session.change_of_ok hrename
  exact ⟨_, bind_eq_iff.mpr ⟨_, _, hmake, bind_eq_iff.mpr ⟨_, _, hfill,
    bind_eq_iff.mpr ⟨_, _, hrenamed, rfl⟩⟩⟩⟩

theorem generateFile_of_makeTemporary (hnames : before.tree.Names path place)
    (hvacant : before.tree.node? place ≠ some .directory)
    (hmake : makeTemporary (m := StateM Session) (Path.directory path) temporaryTries before =
      (.ok temporary, middle)) :
    ∃ after, Job.Ends (generateFile path contents) before (.ok .generated) after := by
  obtain ⟨after, hreplace⟩ := replace_of_makeTemporary hnames hvacant hmake
  exact ⟨_, Job.ends_bind_ok_iff.mpr ⟨(), after, Job.ends_request_iff.mpr ⟨_, hreplace, rfl⟩,
    Job.ends_bind_ok_iff.mpr ⟨_, _, rfl, rfl⟩⟩⟩

theorem exists_of_generateFile {writing : Writing} {after : Session}
    (h : Job.Ends (generateFile path contents) before (.ok writing) after) :
    ∃ temporary middle, makeTemporary (m := StateM Session) (Path.directory path) temporaryTries
      before = (.ok temporary, middle) := by
  obtain ⟨_, _, hreplace, -⟩ := Job.ends_bind_ok_iff.mp h
  obtain ⟨result, hresult, hok⟩ := Job.ends_request_iff.mp hreplace
  obtain rfl := Outcome.mapError_eq_ok_iff.mp hok
  obtain ⟨made, middle, hmake, h⟩ := bind_eq_iff.mp hresult
  cases made with
  | ok temporary => exact ⟨temporary, middle, hmake⟩
  | error fault => cases (pure_eq_iff.mp h).1

-- The job goes on from what is found in the place of the file.
theorem ends_writeIfChanged_iff {outcome : Except Failure Writing} {after : Session} :
    Job.Ends (writeIfChanged path contents) before outcome after ↔
      Job.Ends
        (match before.tree.read path with
        | .ok bytes =>
            if String.fromUTF8? bytes = some contents then do
              Job.note (.upToDate path)
              return .unchanged
            else generateFile path contents
        | .error .notFound => generateFile path contents
        | .error fault => Job.fail (.unread path fault)) before outcome after := Iff.rfl

theorem exists_of_generated {after : Session}
    (h : Job.Ends (writeIfChanged path contents) before (.ok .generated) after) :
    ∃ temporary middle, makeTemporary (m := StateM Session) (Path.directory path) temporaryTries
      before = (.ok temporary, middle) := by
  rw [ends_writeIfChanged_iff] at h
  split at h
  next =>
    split at h
    next =>
      obtain ⟨_, _, -, h⟩ := Job.ends_bind_ok_iff.mp h
      cases (Job.ends_pure_iff.mp h).1
    next => exact exists_of_generateFile h
  next => exact exists_of_generateFile h
  next => cases (Job.ends_fail_iff.mp h).1

-- The path names a place for a file, and a temporary file can be made beside it.
def Writable (path : String) (before : Session) : Prop :=
  ∃ place temporary middle, before.tree.Names path place ∧
    before.tree.node? place ≠ some .directory ∧
    makeTemporary (m := StateM Session) (Path.directory path) temporaryTries before =
      (.ok temporary, middle)

-- Nothing else stands in the way of a file.
theorem exists_writeIfChanged_iff :
    (∃ writing after, Job.Ends (writeIfChanged path contents) before (.ok writing) after) ↔
      before.tree.read path = .ok contents.toUTF8 ∨ Writable path before := by
  constructor
  · intro h
    obtain ⟨writing, after, h⟩ := h
    cases attempted_writeIfChanged Session.faithful h with
    | unchanged place hnames hholds => exact .inl (Tree.read_eq_ok_iff.mpr ⟨place, hnames, hholds⟩)
    | generated place hreplaces =>
        obtain ⟨temporary, middle, hmake⟩ := exists_of_generated h
        exact .inr ⟨place, temporary, middle, hreplaces.names, hreplaces.vacant, hmake⟩
  · rintro (hread | ⟨place, temporary, middle, hnames, hvacant, hmake⟩)
    · obtain ⟨after, h, -⟩ := writeIfChanged_of_read hread
      exact ⟨.unchanged, after, h⟩
    · obtain ⟨after, h⟩ : ∃ after, Job.Ends (generateFile path contents) before _ after :=
        generateFile_of_makeTemporary hnames hvacant hmake
      simp only [ends_writeIfChanged_iff]
      cases hnode : before.tree.node? place with
      | none =>
          rw [hnames.read hnode]
          exact ⟨.generated, after, h⟩
      | some node =>
          cases node with
          | directory => exact absurd hnode hvacant
          | file bytes =>
              rw [Tree.read_eq_ok_iff.mpr ⟨place, hnames, hnode⟩]
              dsimp only
              split
              next => exact ⟨.unchanged, _, Job.ends_bind_ok_iff.mpr ⟨_, _, rfl, rfl⟩⟩
              next => exact ⟨.generated, after, h⟩

-- What comes of a file that is to hold the contents. It does so, or nothing has changed.
structure AllOrNothing (path contents : String) (before : Session)
    (outcome : Except Failure Writing) (after : Session) : Prop where
  unchanged : outcome = .ok .unchanged ↔ before.tree.read path = .ok contents.toUTF8
  untouched : outcome = .ok .unchanged → after.tree = before.tree
  generated : outcome = .ok .generated → after.tree.read path = .ok contents.toUTF8 ∧
    ∃ place, before.tree.Replaces after.tree path contents.toUTF8 place
  failed : ∀ failure, outcome = .error failure → before.tree.Same after.tree ∧
    ∃ fault, failure = .unread path fault ∨ failure = .unwritten path fault
  possible : (∃ writing, outcome = .ok writing) ↔
    before.tree.read path = .ok contents.toUTF8 ∨ Writable path before
  again : ∀ writing, outcome = .ok writing → ∃ later,
    Job.Ends (writeIfChanged path contents) after (.ok .unchanged) later ∧ later.tree = after.tree

theorem allOrNothing_of_ends {outcome : Except Failure Writing} {after : Session}
    (h : Job.Ends (writeIfChanged path contents) before outcome after) :
    AllOrNothing path contents before outcome after := by
  have hattempted := attempted_writeIfChanged Session.faithful h
  have hdetermined {other : Except Failure Writing} {later : Session}
      (hother : Job.Ends (writeIfChanged path contents) before other later) :
      other = outcome ∧ later = after :=
    Prod.mk.inj (hother.symm.trans h)
  refine {
    unchanged := ⟨?holds, ?found⟩
    untouched := ?untouched
    generated := ?generated
    failed := ?failed
    possible := ⟨?able, ?done⟩
    again := ?again }
  case holds =>
    rintro rfl
    cases hattempted with
    | unchanged place hnames hholds => exact Tree.read_eq_ok_iff.mpr ⟨place, hnames, hholds⟩
  case found =>
    intro hread
    obtain ⟨later, hlater, -⟩ := writeIfChanged_of_read hread
    exact (hdetermined hlater).1.symm
  case untouched =>
    rintro rfl
    cases hattempted with
    | unchanged _ _ _ hsame => exact hsame
  case generated =>
    rintro rfl
    refine ⟨hattempted.read, ?_⟩
    cases hattempted with
    | generated place hreplaces => exact ⟨place, hreplaces⟩
  case failed =>
    rintro failure rfl
    cases hattempted with
    | unread fault _ hsame => exact ⟨hsame, fault, .inl rfl⟩
    | unwritten fault hsame => exact ⟨hsame, fault, .inr rfl⟩
  case able =>
    rintro ⟨writing, rfl⟩
    exact exists_writeIfChanged_iff.mp ⟨writing, after, h⟩
  case done =>
    intro hpossible
    obtain ⟨writing, later, hlater⟩ := exists_writeIfChanged_iff.mpr hpossible
    exact ⟨writing, (hdetermined hlater).1.symm⟩
  case again =>
    rintro writing rfl
    exact writeIfChanged_of_read hattempted.read

-- A file is written in full or not at all. Where the file system refuses, be it when some of the
-- bytes have been written, all files are as they were, and none is left over.
theorem writeIfChanged_allOrNothing (path contents : String) :
    (∀ before : Session,
      let run := (writeIfChanged path contents : Job (StateM Session) Writing).run.run before
      AllOrNothing path contents before run.1 run.2) ∧
    ∀ before : Contrary,
      let run := (writeIfChanged path contents : Job (StateM Contrary) Writing).run.run before
      Attempted path contents ((Host.read path : StateM Contrary _) before).1 before.session.tree
        run.2.session.tree run.1 :=
  ⟨fun _ => allOrNothing_of_ends rfl, fun _ => attempted_writeIfChanged Contrary.faithful rfl⟩

-- A file system that is full by the second byte. The file with the first one does not stay.
example :
    let full : Files.Refusal := ⟨.other "No space left on device", 1, by decide⟩
    let run := (writeIfChanged "out.h" "int x;" : Job (StateM Contrary) Writing).run.run
      { refusals := [none, none, some full] }
    run.1 = .error (.unwritten "out.h" full.fault) ∧ run.2.session.tree.nodes.length = 0 := by
  decide +kernel

end Delivery

end EffectTables
