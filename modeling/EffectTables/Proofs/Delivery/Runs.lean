import EffectTables.Proofs.Delivery.Cleaning
import EffectTables.Proofs.Delivery.Lockstep
import EffectTables.Proofs.Delivery.Sparing
import EffectTables.Proofs.Files.Grounded

namespace EffectTables.Delivery

open Files (Session Tree Watched Faithful Beside)

inductive Call where
  | generate (input : String)
  | clean

inductive Answer where
  | written (reports : List (Report Writing))
  | removed (reports : List (Report Removal))
  deriving DecidableEq

def Call.perform {m : Type → Type} [Monad m] [Host m] (settings : Settings) (directory : String) :
    Call → Job m Answer
  | generate input => do return .written (← Delivery.generate settings input directory)
  | clean => do return .removed (← Delivery.clean settings directory)

-- A call that succeeded, with what it found and what it left behind.
structure Turn (σ : Type) where
  call : Call
  found : σ
  answer : Answer
  left : σ

section

variable (settings : Settings) (directory : String)

def Answer.ofWritings (header source : Writing) : Answer :=
  .written [⟨settings.headerPath directory, header⟩, ⟨settings.sourcePath directory, source⟩]

def Answer.ofRemovals (source header : Removal) : Answer :=
  .removed [⟨settings.sourcePath directory, source⟩, ⟨settings.headerPath directory, header⟩]

-- Any files may have been edited but the two generated ones: those read as they did, if they do.
structure Edited (tree later : Tree) : Prop where
  grounded : tree.Grounded → later.Grounded
  read : ∀ path ∈ [settings.headerPath directory, settings.sourcePath directory], ∀ bytes,
    later.read path = .ok bytes ↔ tree.read path = .ok bytes

variable {σ : Type} [Host (StateM σ)] (tree : σ → Tree)

def Turn.Happens (turn : Turn σ) : Prop :=
  (turn.call.perform settings directory).Ends turn.found (.ok turn.answer) turn.left

-- Calls one after another, with edits in between.
inductive Run : Tree → List (Turn σ) → Prop
  | done (start : Tree) : Run start []
  | next (start : Tree) (turn : Turn σ) (rest : List (Turn σ))
      (edited : Edited settings directory start (tree turn.found))
      (happens : turn.Happens settings directory) (run : Run (tree turn.left) rest) :
      Run start (turn :: rest)

-- After a generation both files hold what the input renders to, and one that is reported unchanged
-- was not touched. After a cleaning neither is there.
def Turn.Settled (turn : Turn σ) : Prop :=
  match turn.call with
  | .generate input =>
      ∃ sources header source touched,
        rendered settings input turn.found = .ok sources ∧
        turn.answer = .ofWritings settings directory header source ∧
        (tree turn.left).read (settings.headerPath directory) = .ok sources.header.toUTF8 ∧
        (tree turn.left).read (settings.sourcePath directory) = .ok sources.source.toUTF8 ∧
        (turn.call.perform settings directory).Ends (Watched.mk turn.found [] : Watched tree)
          (.ok turn.answer) (Watched.mk turn.left touched) ∧
        ∀ place ∈ touched,
          ((tree turn.left).Leads (settings.headerPath directory) place → header = .generated) ∧
          ((tree turn.left).Leads (settings.sourcePath directory) place → source = .generated)
  | .clean =>
      ¬ (tree turn.left).Exists (settings.headerPath directory) ∧
        ¬ (tree turn.left).Exists (settings.sourcePath directory)

-- What the answer to a call says after the call before.
def Turn.Continues (first second : Turn σ) : Prop :=
  match first.call, second.call with
  | .clean, .generate _ =>
      (tree second.found).Passable directory →
        second.answer = .ofWritings settings directory .generated .generated
  | .generate old, .generate new =>
      ∃ before after header source,
        rendered settings old first.found = .ok before ∧
        rendered settings new second.found = .ok after ∧
        second.answer = .ofWritings settings directory header source ∧
        (header = .unchanged ↔ after.header = before.header) ∧
        (source = .unchanged ↔ after.source = before.source)
  | .generate _, .clean => second.answer = .ofRemovals settings directory .removed .removed
  | .clean, .clean => second.answer = .ofRemovals settings directory .missing .missing

end

variable {settings : Settings} {directory : String}

section

variable {σ : Type} [Host (StateM σ)] {before after : σ} {answer : Answer}

theorem perform_generate_iff {input : String} :
    ((Call.generate input).perform settings directory).Ends before (.ok answer) after ↔
      ∃ reports, (generate settings input directory).Ends before (.ok reports) after ∧
        answer = .written reports :=
  Job.ends_return_iff

-- The header is reported on first, and then the source.
theorem reports_of_generate {input : String} {reports : List (Report Writing)}
    (h : Job.Ends (generate settings input directory) before (.ok reports) after) :
    ∃ header source, reports =
      [⟨settings.headerPath directory, header⟩, ⟨settings.sourcePath directory, source⟩] := by
  obtain ⟨sources, _, -, h⟩ := Job.ends_bind_ok_iff.mp h
  obtain ⟨_, _, -, h⟩ := Job.ends_bind_ok_iff.mp h
  obtain ⟨header, _, -, h⟩ := Job.ends_bind_ok_iff.mp h
  obtain ⟨source, _, -, h⟩ := Job.ends_bind_ok_iff.mp h
  exact ⟨header, source, (Except.ok.inj (Job.ends_pure_iff.mp h).1).symm⟩

theorem perform_clean_iff :
    (Call.clean.perform settings directory).Ends before (.ok answer) after ↔
      ∃ reports, (clean settings directory).Ends before (.ok reports) after ∧
        answer = .removed reports :=
  Job.ends_return_iff

end

-- What a cleaning that succeeded has done.
structure Clearance (settings : Settings) (directory : String) (source header : Removal)
    (before after : Tree) : Prop where
  shrinks : before.Shrinks after
  source : source = .removed ↔ ∃ bytes, before.read (settings.sourcePath directory) = .ok bytes
  header : header = .removed ↔ ∃ bytes, before.read (settings.headerPath directory) = .ok bytes
  sourceGone : after.Absent (settings.sourcePath directory)
  headerGone : after.Absent (settings.headerPath directory)

section

variable {σ : Type} [Host (StateM σ)] {tree : σ → Tree} (law : Faithful tree)
include law

theorem clearance_of_ends {before after : σ} {reports : List (Report Removal)}
    (h : Job.Ends (clean settings directory) before (.ok reports) after) :
    ∃ source header, Answer.removed reports = .ofRemovals settings directory source header ∧
      Clearance settings directory source header (tree before) (tree after) := by
  cases hvalidate : settings.validate with
  | error fault =>
      rw [clean, hvalidate] at h
      cases (Job.ends_fail_iff.mp h).1
  | ok _ =>
      have hvalid := Settings.validate_eq_ok_iff.mp hvalidate
      obtain ⟨middle, source, header, hreports, hsource, hheader⟩ | ⟨_, hfail, -⟩ :=
        of_clean law hvalidate h
      swap
      · cases hfail
      cases hreports
      refine ⟨source, header, rfl, hsource.shrinks.trans hheader.shrinks, hsource.removed_iff_read,
        hheader.removed_iff_read.trans ?_, hheader.shrinks.absent hsource.absent, hheader.absent⟩
      exact exists_congr fun bytes => hsource.header_read_iff hvalid

-- Nothing is done at the place of a file that is reported unchanged.
theorem complete_spares {input : String} {sources : Sources} {header source : Writing}
    {found left : σ} {touched : List Files.Place}
    (hcomplete : Complete settings directory sources (tree found) (tree left) header source)
    (h : Job.Ends (generate settings input directory) (Watched.mk found [] : Watched tree)
      (.ok [⟨settings.headerPath directory, header⟩, ⟨settings.sourcePath directory, source⟩])
      (Watched.mk left touched)) {place : Files.Place} (hplace : place ∈ touched) :
    ((tree left).Leads (settings.headerPath directory) place → header = .generated) ∧
      ((tree left).Leads (settings.sourcePath directory) place → source = .generated) := by
  have hspares (hfile : ((tree found).node? place).isSome)
      (hheader : (tree left).Leads (settings.headerPath directory) place → header = .unchanged)
      (hsource : (tree left).Leads (settings.sourcePath directory) place → source = .unchanged) :
      False := by
    refine List.not_mem_nil (spares_generate law ?_ h hheader hsource hplace)
    exact hfile
  obtain ⟨headerPlace, hheader⟩ := hcomplete.header
  obtain ⟨sourcePlace, hsource⟩ := hcomplete.source
  refine ⟨fun hleads => ?_, fun hleads => ?_⟩
  · cases hwriting : header with
    | generated => rfl
    | unchanged =>
        obtain rfl := hheader.names.leads.unique hleads
        refine (hspares (by rw [hheader.unchanged.mp hwriting]; rfl) (fun _ => hwriting)
          fun hother => ?_).elim
        exact absurd rfl (places_ne hcomplete.valid hleads hother)
  · cases hwriting : source with
    | generated => rfl
    | unchanged =>
        obtain rfl := hsource.names.leads.unique hleads
        refine (hspares (by rw [hsource.unchanged.mp hwriting]; rfl) (fun hother => ?_)
          fun _ => hwriting).elim
        exact absurd rfl (places_ne hcomplete.valid hother hleads)

variable {first second turn : Turn σ} {start : Tree} {turns : List (Turn σ)}

theorem Turn.Happens.settled (h : turn.Happens settings directory) :
    turn.Settled settings directory tree := by
  obtain ⟨call, found, answer, left⟩ := turn
  cases call with
  | clean =>
      obtain ⟨reports, hends, rfl⟩ := perform_clean_iff.mp h
      obtain ⟨source, header, -, hclearance⟩ := clearance_of_ends law hends
      exact ⟨hclearance.headerGone.not_exists, hclearance.sourceGone.not_exists⟩
  | generate input =>
      obtain ⟨reports, hends, rfl⟩ := perform_generate_iff.mp h
      obtain ⟨sources, header, source, hrendered, rfl, hcomplete⟩ := complete_of_generate law hends
      obtain ⟨_, hheader⟩ := hcomplete.header
      obtain ⟨_, hsource⟩ := hcomplete.source
      rcases hwatched : (generate settings input directory : Job (StateM (Watched tree)) _).run.run
        (Watched.mk found []) with ⟨outcome, state, touched⟩
      obtain ⟨_, hplain, rfl⟩ :=
        (lockstep_generate Watched.paired settings input directory).ends rfl hwatched
      cases hplain.symm.trans hends
      exact ⟨sources, header, source, touched, hrendered, rfl, hheader.read, hsource.read,
        perform_generate_iff.mpr ⟨_, hwatched, rfl⟩,
        fun place hplace => complete_spares law hcomplete hwatched hplace⟩

theorem Turn.Happens.grounded (h : turn.Happens settings directory)
    (hfound : (tree turn.found).Grounded) : (tree turn.left).Grounded := by
  obtain ⟨call, found, answer, left⟩ := turn
  cases call with
  | clean =>
      obtain ⟨reports, hends, -⟩ := perform_clean_iff.mp h
      obtain ⟨source, header, -, hclearance⟩ := clearance_of_ends law hends
      exact hfound.shrinks hclearance.shrinks
  | generate input =>
      obtain ⟨reports, hends, -⟩ := perform_generate_iff.mp h
      obtain ⟨sources, header, source, -, -, hcomplete⟩ := complete_of_generate law hends
      exact hcomplete.grounded hfound

-- Where neither file could be read, a call finds nothing to keep or to remove.
theorem Turn.Happens.answer_of_unread (h : turn.Happens settings directory)
    (hgrounded : (tree turn.found).Grounded)
    (hheader : ∀ bytes, (tree turn.found).read (settings.headerPath directory) ≠ .ok bytes)
    (hsource : ∀ bytes, (tree turn.found).read (settings.sourcePath directory) ≠ .ok bytes) :
    match turn.call with
    | .generate _ => (tree turn.found).Passable directory →
        turn.answer = .ofWritings settings directory .generated .generated
    | .clean => turn.answer = .ofRemovals settings directory .missing .missing := by
  obtain ⟨call, found, answer, left⟩ := turn
  cases call with
  | clean =>
      obtain ⟨reports, hends, rfl⟩ := perform_clean_iff.mp h
      obtain ⟨source, header, hreports, hclearance⟩ := clearance_of_ends law hends
      obtain rfl := Removal.eq_missing_iff.mpr
        (hclearance.source.not.mpr (not_exists.mpr hsource))
      obtain rfl := Removal.eq_missing_iff.mpr
        (hclearance.header.not.mpr (not_exists.mpr hheader))
      exact hreports
  | generate input =>
      intro hpass
      obtain ⟨reports, hends, rfl⟩ := perform_generate_iff.mp h
      obtain ⟨_, _, _, -, rfl, hcomplete⟩ := complete_of_generate law hends
      obtain rfl := hcomplete.told_header.generated hgrounded hpass hheader
      obtain rfl := hcomplete.told_source.generated hgrounded hpass hsource
      rfl

-- Where both files could be read, a generation keeps what is right, and a cleaning removes both.
theorem Turn.Happens.answer_of_read (h : turn.Happens settings directory) {old : Sources}
    (hheader : (tree turn.found).read (settings.headerPath directory) = .ok old.header.toUTF8)
    (hsource : (tree turn.found).read (settings.sourcePath directory) = .ok old.source.toUTF8) :
    match turn.call with
    | .generate input =>
        ∃ sources header source, rendered settings input turn.found = .ok sources ∧
          turn.answer = .ofWritings settings directory header source ∧
          (header = .unchanged ↔ sources.header = old.header) ∧
          (source = .unchanged ↔ sources.source = old.source)
    | .clean => turn.answer = .ofRemovals settings directory .removed .removed := by
  obtain ⟨call, found, answer, left⟩ := turn
  cases call with
  | clean =>
      obtain ⟨reports, hends, rfl⟩ := perform_clean_iff.mp h
      obtain ⟨_, _, hreports, hclearance⟩ := clearance_of_ends law hends
      obtain rfl := hclearance.source.mpr ⟨_, hsource⟩
      obtain rfl := hclearance.header.mpr ⟨_, hheader⟩
      exact hreports
  | generate input =>
      obtain ⟨reports, hends, rfl⟩ := perform_generate_iff.mp h
      obtain ⟨sources, header, source, hrendered, rfl, hcomplete⟩ := complete_of_generate law hends
      obtain ⟨_, hheaderNow⟩ := hcomplete.header
      obtain ⟨_, hsourceNow⟩ := hcomplete.source
      exact ⟨sources, header, source, hrendered, rfl,
        hheaderNow.unchanged_iff hcomplete.keeps hheader,
        hsourceNow.unchanged_iff hcomplete.keeps hsource⟩

theorem Turn.Settled.continues (h : first.Settled settings directory tree)
    (hedited : Edited settings directory (tree first.left) (tree second.found))
    (hgrounded : (tree second.found).Grounded) (hsecond : second.Happens settings directory) :
    first.Continues settings directory tree second := by
  obtain ⟨call, found, answer, left⟩ := first
  obtain ⟨later, middle, reply, last⟩ := second
  have hheaderRead := hedited.read _ List.mem_cons_self
  have hsourceRead := hedited.read _ (List.mem_cons_of_mem _ List.mem_cons_self)
  cases call with
  | clean =>
      obtain ⟨hheaderGone, hsourceGone⟩ := h
      have hanswer := hsecond.answer_of_unread law hgrounded
        (fun bytes hread => hheaderGone (Tree.exists_of_read ((hheaderRead bytes).mp hread)))
        (fun bytes hread => hsourceGone (Tree.exists_of_read ((hsourceRead bytes).mp hread)))
      cases later with
      | clean => exact hanswer
      | generate new => exact hanswer
  | generate old =>
      obtain ⟨before, _, _, _, hbefore, -, hheaderOld, hsourceOld, -, -⟩ := h
      have hanswer := hsecond.answer_of_read law
        ((hheaderRead _).mpr hheaderOld) ((hsourceRead _).mpr hsourceOld)
      cases later with
      | clean => exact hanswer
      | generate new =>
          obtain ⟨after, header, source, hafter, hreply⟩ := hanswer
          exact ⟨before, after, header, source, hbefore, hafter, hreply⟩

-- Calls that succeed, one after another.
theorem run_settles (hstart : start.Grounded) (h : Run settings directory tree start turns) :
    (∀ turn ∈ turns, turn.Settled settings directory tree) ∧
      turns.IsChain (Turn.Continues settings directory tree) := by
  induction h with
  | done start => exact ⟨nofun, .nil⟩
  | next start turn rest hedited hhappens hrun ih =>
      have hfound := hedited.grounded hstart
      obtain ⟨hsettled, hchain⟩ := ih (hhappens.grounded law hfound)
      refine ⟨List.forall_mem_cons.mpr ⟨hhappens.settled law, hsettled⟩, ?_⟩
      cases hrun with
      | done => exact .singleton turn
      | next _ second more hagain hlater _ =>
          refine .cons_cons ?_ hchain
          exact (hhappens.settled law).continues law hagain
            (hagain.grounded (hhappens.grounded law hfound)) hlater

end

-- The turns of calls that are made one after another, up to the first that fails.
def trace {σ : Type} [Host (StateM σ)] (settings : Settings) (directory : String) :
    σ → List Call → List (Turn σ)
  | _, [] => []
  | found, call :: rest =>
      match (call.perform settings directory : Job (StateM σ) _).run.run found with
      | (.error _, _) => []
      | (.ok answer, left) => ⟨call, found, answer, left⟩ :: trace settings directory left rest

theorem Edited.refl (settings : Settings) (directory : String) (tree : Tree) :
    Edited settings directory tree tree := ⟨id, fun _ _ _ => .rfl⟩

theorem run_trace {σ : Type} [Host (StateM σ)] (tree : σ → Tree) (found : σ) (calls : List Call) :
    Run settings directory tree (tree found) (trace settings directory found calls) := by
  induction calls generalizing found with
  | nil => exact .done _
  | cons call rest ih =>
      rw [trace]
      split
      next => exact .done _
      next answer left hends => exact .next _ _ _ (.refl _ _ _) hends (ih left)

theorem run_settles_stocked :
    let turns := trace {} "out" stocked [.clean, .generate "in.xml", .clean]
    turns.map Turn.answer = [.ofRemovals {} "out" .missing .missing,
      .ofWritings {} "out" .generated .generated, .ofRemovals {} "out" .removed .removed] ∧
    Faithful Session.tree ∧ stocked.tree.Grounded ∧
    Run {} "out" Session.tree stocked.tree turns ∧
    (∀ turn ∈ turns, turn.Settled {} "out" Session.tree) ∧
      turns.IsChain (Turn.Continues {} "out" Session.tree) := by
  have hrun : Run {} "out" Session.tree stocked.tree _ :=
    run_trace Session.tree stocked [.clean, .generate "in.xml", .clean]
  exact ⟨by decide +kernel, Session.faithful, grounded_stocked, hrun,
    run_settles Session.faithful grounded_stocked hrun⟩

-- What is left of the hidden files' session once the directory was cleaned.
def cleared : Session := ((clean {} "x/../out" : Job (StateM Session) _).run.run hidden).2

theorem perform_clean_hidden :
    (Call.clean.perform {} "x/../out").Ends hidden
      (.ok (.ofRemovals {} "x/../out" .missing .missing)) cleared ∧ cleared.tree = hidden.tree := by
  have hends : Job.Ends (clean {} "x/../out") hidden _ cleared := rfl
  obtain ⟨hmissing, hsame⟩ := clean_of_absent Session.faithful (by decide +kernel)
    (.unreached (by decide +kernel)) (.unreached (by decide +kernel)) hends
  exact ⟨perform_clean_iff.mpr ⟨_, hmissing ▸ hends, rfl⟩, hsame⟩

-- Generation finds the same whether the directory was cleaned before or not.
theorem perform_generate_cleared :
    ∃ after, ((Call.generate "in.xml").perform {} "x/../out").Ends cleared
      (.ok (.ofWritings {} "x/../out" .unchanged .unchanged)) after := by
  obtain ⟨_, hgenerate⟩ := generate_hidden
  have hbeside : Beside Session.tree Session.said hidden.said hidden cleared :=
    ⟨perform_clean_hidden.2.symm, rfl⟩
  obtain ⟨after, hafter, -⟩ :=
    (lockstep_generate (Session.paired _) {} "in.xml" "x/../out").ends hbeside hgenerate
  exact ⟨after, perform_generate_iff.mpr ⟨_, hafter, rfl⟩⟩

-- The condition that the directory's path can be passed is needed: a cleaning does not reach files
-- behind a directory that is missing, and the generation that makes the directory finds them.
theorem unchanged_after_clean :
    ¬ ∀ settings directory start (turns : List (Turn Session)), start.Grounded →
      Run settings directory Session.tree start turns →
      turns.IsChain fun first second => first.call = .clean → ∀ input,
        second.call = .generate input →
          second.answer = .ofWritings settings directory .generated .generated := by
  intro h
  obtain ⟨after, hgenerate⟩ := perform_generate_cleared
  have hchain := h {} "x/../out" hidden.tree
    [⟨.clean, hidden, _, cleared⟩, ⟨.generate "in.xml", cleared, _, after⟩] grounded_hidden
    (.next _ _ _ (.refl _ _ _) perform_clean_hidden.1
      (.next _ _ _ (.refl _ _ _) hgenerate (.done _)))
  have hgenerated := (List.isChain_cons_cons.mp hchain).1 rfl "in.xml" rfl
  cases hgenerated

end EffectTables.Delivery
