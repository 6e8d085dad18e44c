import EffectTables.Proofs.Delivery.Directories
import EffectTables.Proofs.Delivery.Replacement
import EffectTables.Proofs.Files.Grounded
import EffectTables.Proofs.Sources

namespace EffectTables.Delivery

open Files (Session Contrary Tree Faithful)
open Files.Session (bind_eq_iff pure_eq_iff)

variable {settings : Settings} {input directory : String} {sources : Sources}

section

variable {σ : Type} [Host (StateM σ)]

-- What the input renders to.
def rendered (settings : Settings) (input : String) (state : σ) : Except Failure Sources :=
  ((sourcesOf settings input : Job (StateM σ) _).run.run state).1

-- There is a file that cannot be read, for reasons of the host's own.
def Withholds (tree : σ → Tree) (path : String) : Prop :=
  ∃ state bytes fault, (tree state).read path = .ok bytes ∧
    ((Host.read path : StateM σ _) state).1 = .error fault

theorem not_withholds {path : String} : ¬ Withholds Session.tree path := by
  rintro ⟨_, _, _, hread, hunread⟩
  cases hread.symm.trans hunread

end

section

variable {σ : Type} [Host (StateM σ)] {tree : σ → Tree} (law : Faithful tree) {before after : σ}
include law

theorem of_readText {path : String} {outcome : Except Files.Fault String}
    (h : readText (m := StateM σ) path before = (outcome, after)) :
    tree after = tree before ∧
      ∀ text, outcome = .ok text → (tree before).read path = .ok text.toUTF8 := by
  obtain ⟨found, middle, hread, h⟩ := bind_eq_iff.mp h
  obtain ⟨hsame, hfound⟩ := law.read hread
  split at h
  next =>
    obtain ⟨rfl, rfl⟩ := pure_eq_iff.mp h
    exact ⟨hsame, nofun⟩
  next bytes =>
    obtain hbytes | ⟨_, hfault, -⟩ := hfound
    swap
    · cases hfault
    cases htext : String.fromUTF8? bytes with
    | none =>
        rw [htext] at h
        obtain ⟨rfl, rfl⟩ := pure_eq_iff.mp h
        exact ⟨hsame, nofun⟩
    | some text =>
        rw [htext] at h
        obtain ⟨rfl, rfl⟩ := pure_eq_iff.mp h
        refine ⟨hsame, fun _ hok => ?_⟩
        cases hok
        rw [← hbytes, Text.fromUTF8?_eq_some_iff.mp htext]

-- The input is read and judged, and the files are left alone.
theorem of_sourcesOf {outcome : Except Failure Sources}
    (h : Job.Ends (sourcesOf settings input) before outcome after) :
    tree after = tree before ∧
      ((∃ failure, outcome = .error failure ∧ failure.OfInput input) ∨
        ∃ sources bytes, outcome = .ok sources ∧ settings.Valid ∧
          (tree before).read input = .ok bytes) := by
  obtain ⟨document, middle, hdocument, h⟩ | ⟨failure, hdocument, rfl⟩ := Job.ends_bind_iff.mp h
  · obtain ⟨result, hresult, hok⟩ := Job.ends_request_iff.mp hdocument
    obtain ⟨hsame, hread⟩ := of_readText law hresult
    obtain ⟨houtcome, htree⟩ := Job.tree_ofTraced law h
    refine ⟨htree.trans hsame, ?_⟩
    cases outcome with
    | error failure => exact .inl ⟨failure, rfl, Sources.ofInput_of_ofDocument houtcome.symm⟩
    | ok sources =>
        obtain ⟨device, -, -, hsources⟩ := Sources.ofDocument_eq_ok_iff.mp houtcome.symm
        have hvalid := (Sources.ofDevice_eq_ok_iff.mp hsources).1
        exact .inr ⟨sources, _, rfl, Settings.validate_eq_ok_iff.mp hvalid,
          hread document (Outcome.mapError_eq_ok_iff.mp hok)⟩
  · obtain ⟨result, hresult, herror⟩ := Job.ends_request_iff.mp hdocument
    obtain ⟨fault, -, rfl⟩ := Outcome.mapError_eq_error_iff.mp herror
    refine ⟨(of_readText law hresult).1, .inl ⟨_, rfl, ?_⟩⟩
    unfold unreadInput
    split
    · trivial
    · rfl

end

variable {before grown headed after : Tree} {header source : Writing}

-- A file with the right contents, and whether it had them before.
structure Delivered (path contents : String) (before after : Tree) (writing : Writing)
    (place : Files.Place) : Prop where
  names : after.Names path place
  vacant : before.node? place ≠ some .directory
  file : after.node? place = some (.file contents.toUTF8)
  unchanged : writing = .unchanged ↔ before.node? place = some (.file contents.toUTF8)

-- Both files are there, and nothing else is new but the directories they needed.
structure Complete (settings : Settings) (directory : String) (sources : Sources)
    (before after : Tree) (header source : Writing) : Prop where
  valid : settings.Valid
  header : ∃ place,
    Delivered (settings.headerPath directory) sources.header before after header place
  source : ∃ place,
    Delivered (settings.sourcePath directory) sources.source before after source place
  others : ∀ place, ¬ after.Names (settings.headerPath directory) place →
    ¬ after.Names (settings.sourcePath directory) place →
      after.node? place = before.node? place ∨
        before.Makes after (directory :: Path.ancestors directory) place

-- The second file is as before. The first one is so too or complete, and nothing else is new but
-- directories they need.
structure Halted (settings : Settings) (directory : String) (sources : Sources)
    (before after : Tree) : Prop where
  source : ∀ place, after.Leads (settings.sourcePath directory) place →
    before.SameFile after place
  places : ∀ place, (after.node? place = before.node? place ∨
      before.Makes after (directory :: Path.ancestors directory) place) ∨
    after.Leads (settings.headerPath directory) place ∧
      after.node? place = some (.file sources.header.toUTF8)

-- What a report says of the path. A file that could be read and was right is unchanged. The other
-- way around this holds as long as the path does not turn back from a directory that is missing:
-- such a path leads nowhere before that directory is made.
structure Told (before : Tree) (directory path contents : String) (writing : Writing) : Prop where
  held : before.read path = .ok contents.toUTF8 → writing = .unchanged
  reads : before.Grounded → before.Passable directory → writing = .unchanged →
    before.read path = .ok contents.toUTF8

theorem Told.generated {path contents : String} {writing : Writing}
    (h : Told before directory path contents writing) (hgrounded : before.Grounded)
    (hpass : before.Passable directory) (hunread : ∀ bytes, before.read path ≠ .ok bytes) :
    writing = .generated := by
  cases writing with
  | generated => rfl
  | unchanged => exact absurd (h.reads hgrounded hpass rfl) (hunread _)

namespace Delivered

variable {path contents : String} {writing : Writing} {place : Files.Place}

theorem read (h : Delivered path contents before after writing place) :
    after.read path = .ok contents.toUTF8 :=
  Tree.read_eq_ok_iff.mpr ⟨place, h.names, h.file⟩

-- A file that could be read is reported unchanged if and only if it read the same.
theorem unchanged_iff (h : Delivered path contents before after writing place)
    (hkeeps : before.Keeps after) {old : String} (hread : before.read path = .ok old.toUTF8) :
    writing = .unchanged ↔ contents = old := by
  obtain ⟨found, hnames, hfile⟩ := Tree.read_eq_ok_iff.mp hread
  obtain rfl : found = place := (hnames.keeps hkeeps).leads.unique h.names.leads
  rw [h.unchanged, hfile, Option.some.injEq, Files.Node.file.injEq]
  exact String.toByteArray_inj.trans eq_comm

theorem told {name : String}
    (h : Delivered (Path.join directory name) contents before after writing place)
    (hname : Path.isPlainName name) (hkeeps : before.Keeps after) :
    Told before directory (Path.join directory name) contents writing where
  held hread := (h.unchanged_iff hkeeps hread).mpr rfl
  reads hgrounded hpass hunchanged := by
    have hfile := h.unchanged.mp hunchanged
    have hnames := h.names.of_later hname hgrounded hpass (by rw [hfile]; rfl)
    exact Tree.read_eq_ok_iff.mpr ⟨place, hnames, hfile⟩

end Delivered

namespace Complete

variable (h : Complete settings directory sources before after header source)
include h

-- No directory goes away.
theorem keeps : before.Keeps after := by
  obtain ⟨-, ⟨headerPlace, hheader⟩, ⟨sourcePlace, hsource⟩, hothers⟩ := h
  intro place hplace
  have hnoHeader : ¬ after.Names (settings.headerPath directory) place := by
    intro hnames
    obtain rfl := hnames.leads.unique hheader.names.leads
    exact hheader.vacant hplace
  have hnoSource : ¬ after.Names (settings.sourcePath directory) place := by
    intro hnames
    obtain rfl := hnames.leads.unique hsource.names.leads
    exact hsource.vacant hplace
  rcases hothers place hnoHeader hnoSource with hsame | hmakes
  · rw [hsame, hplace]
  · exact hmakes.made

theorem grounded (hgrounded : before.Grounded) : after.Grounded := by
  refine hgrounded.keeps h.keeps fun place hplace => ?_
  by_cases hheader : after.Names (settings.headerPath directory) place
  · exact .inr ⟨_, hheader.leads⟩
  by_cases hsource : after.Names (settings.sourcePath directory) place
  · exact .inr ⟨_, hsource.leads⟩
  rcases h.others place hheader hsource with hsame | hmakes
  · exact .inl (hsame ▸ hplace)
  · obtain ⟨path, -, hleads⟩ := hmakes.leads
    exact .inr ⟨path, hleads⟩

theorem told_header :
    Told before directory (settings.headerPath directory) sources.header header := by
  obtain ⟨_, hheader⟩ := h.header
  exact hheader.told h.valid.headerName h.keeps

theorem told_source :
    Told before directory (settings.sourcePath directory) sources.source source := by
  obtain ⟨_, hsource⟩ := h.source
  exact hsource.told h.valid.sourceName h.keeps

end Complete

theorem halted_of_grows (h : before.Grows after (directory :: Path.ancestors directory)) :
    Halted settings directory sources before after where
  source _ _ _ := h.file_iff
  places place := .inl (h place)

theorem places_ne (hvalid : settings.Valid) {headerPlace sourcePlace : Files.Place}
    (hheader : after.Leads (settings.headerPath directory) headerPlace)
    (hsource : after.Leads (settings.sourcePath directory) sourcePlace) :
    sourcePlace ≠ headerPlace :=
  hsource.ne_of_join hvalid.sourceName hvalid.headerName hvalid.apart.symm hheader

section

variable {headerPlace : Files.Place} (hvalid : settings.Valid)
  (hgrows : before.Grows grown (directory :: Path.ancestors directory))
  (hheader : grown.Replaces headed (settings.headerPath directory) sources.header.toUTF8
    headerPlace)
include hvalid hgrows hheader

theorem halted_of_replaces (hsame : headed.Same after) :
    Halted settings directory sources before after := by
  have hkeeps : headed.Keeps after := hsame.keeps
  have hleads : after.Leads (settings.headerPath directory) headerPlace :=
    (hheader.names.leads.keeps hheader.keeps).keeps hkeeps
  have hother : ∀ place, place ≠ headerPlace → after.node? place = grown.node? place := by
    intro place hplace
    rw [hsame place, hheader.others place hplace]
  refine ⟨?_, ?_⟩
  · intro place hplace bytes
    rw [hother place (places_ne hvalid hleads hplace), hgrows.file_iff]
  · intro place
    by_cases hplace : place = headerPlace
    · rw [hplace, hsame headerPlace]
      exact .inr ⟨hleads, hheader.file⟩
    · rw [hother place hplace]
      refine .inl ((hgrows place).imp_right fun hmakes => ?_)
      exact (hmakes.keeps hheader.keeps).keeps hkeeps

theorem complete_of_replaces {sourcePlace : Files.Place}
    (hsource : headed.Replaces after (settings.sourcePath directory) sources.source.toUTF8
      sourcePlace)
    (hheaderUnchanged : header = .unchanged ↔
      grown.node? headerPlace = some (.file sources.header.toUTF8))
    (hsourceUnchanged : source = .unchanged ↔
      headed.node? sourcePlace = some (.file sources.source.toUTF8)) :
    Complete settings directory sources before after header source := by
  have hheaderNames := (hheader.names.keeps hheader.keeps).keeps hsource.keeps
  have hsourceNames := hsource.names.keeps hsource.keeps
  have hne : sourcePlace ≠ headerPlace := places_ne hvalid hheaderNames.leads hsourceNames.leads
  refine ⟨hvalid, ⟨headerPlace, hheaderNames, ?_, ?_, ?_⟩, ⟨sourcePlace, hsourceNames, ?_,
    hsource.file, ?_⟩, ?_⟩
  · exact fun hdirectory => hheader.vacant (hgrows.keeps _ hdirectory)
  · rw [hsource.others headerPlace hne.symm, hheader.file]
  · exact hheaderUnchanged.trans hgrows.file_iff
  · exact fun hdirectory => hsource.vacant (hheader.keeps _ (hgrows.keeps _ hdirectory))
  · rw [hsourceUnchanged, hheader.others sourcePlace hne, hgrows.file_iff]
  · intro place hnoHeader hnoSource
    rw [hsource.others place fun hplace => hnoSource (hplace ▸ hsourceNames),
      hheader.others place fun hplace => hnoHeader (hplace ▸ hheaderNames)]
    exact (hgrows place).imp_right fun hmakes => (hmakes.keeps hheader.keeps).keeps hsource.keeps

end

theorem Attempted.ofOutput {path contents : String} {found : Except Files.Fault ByteArray}
    {failure : Failure} (h : Attempted path contents found before after (.error failure))
    (hpath : path ∈ [settings.headerPath directory, settings.sourcePath directory]) :
    failure.OfOutput settings directory := by
  cases h with
  | unread fault => exact hpath
  | unwritten fault => exact List.mem_cons_of_mem _ hpath

section

variable {σ : Type} [Host (StateM σ)] {tree : σ → Tree}

-- The failure to write a file is not taken for one of the input, unless that is withheld.
theorem Attempted.withholds {path contents : String} {state : σ} {failure : Failure}
    {bytes : ByteArray}
    (h : Attempted path contents ((Host.read path : StateM σ _) state).1 (tree state) after
      (.error failure))
    (hread : (tree state).read input = .ok bytes) (hinput : failure.OfInput input) :
    Withholds tree input := by
  cases h with
  | unread fault hunread =>
      obtain rfl : path = input := hinput
      exact ⟨state, bytes, fault, hread, hunread⟩
  | unwritten fault => exact hinput.elim

variable (law : Faithful tree) {start last : σ}
include law

theorem of_write (input : String) (hvalid : settings.Valid)
    {outcome : Except Failure (List (Report Writing))}
    (h : Job.Ends (write settings directory sources) start outcome last) :
    (∃ header source, outcome = .ok [⟨settings.headerPath directory, header⟩,
        ⟨settings.sourcePath directory, source⟩] ∧
      Complete settings directory sources (tree start) (tree last) header source) ∨
    ∃ failure, outcome = .error failure ∧
      Halted settings directory sources (tree start) (tree last) ∧
      failure.OfOutput settings directory ∧
      ∀ bytes, (tree start).read input = .ok bytes → failure.OfInput input →
        Withholds tree input := by
  obtain ⟨_, grown, hmake, h⟩ | ⟨failure, hmake, rfl⟩ := Job.ends_bind_iff.mp h
  swap
  · obtain ⟨result, hresult, herror⟩ := Job.ends_request_iff.mp hmake
    obtain ⟨fault, -, rfl⟩ := Outcome.mapError_eq_error_iff.mp herror
    exact .inr ⟨_, rfl, halted_of_grows (grows_makeDirectory law hresult), List.mem_cons_self,
      fun _ _ => False.elim⟩
  obtain ⟨result, hresult, -⟩ := Job.ends_request_iff.mp hmake
  have hgrows := grows_makeDirectory law hresult
  obtain ⟨header, headed, hheader, h⟩ | ⟨failure, hheader, rfl⟩ := Job.ends_bind_iff.mp h
  swap
  · have hattempted := attempted_writeIfChanged law hheader
    refine .inr ⟨failure, rfl, ?_, hattempted.ofOutput List.mem_cons_self, fun bytes hread => ?_⟩
    · exact halted_of_grows (hgrows.trans fun place => .inl (hattempted.same place))
    · exact hattempted.withholds (hgrows.read hread)
  obtain ⟨headerPlace, hheaderReplaces, hheaderUnchanged⟩ :=
    (attempted_writeIfChanged law hheader).replaces
  obtain ⟨source, _, hsource, h⟩ | ⟨failure, hsource, rfl⟩ := Job.ends_bind_iff.mp h
  · obtain ⟨rfl, rfl⟩ := Job.ends_pure_iff.mp h
    obtain ⟨sourcePlace, hsourceReplaces, hsourceUnchanged⟩ :=
      (attempted_writeIfChanged law hsource).replaces
    exact .inl ⟨header, source, rfl, complete_of_replaces hvalid hgrows hheaderReplaces
      hsourceReplaces hheaderUnchanged hsourceUnchanged⟩
  · have hattempted := attempted_writeIfChanged law hsource
    have houtput := hattempted.ofOutput (List.mem_cons_of_mem _ List.mem_cons_self)
    refine .inr ⟨failure, rfl, ?_, houtput, fun bytes hread => ?_⟩
    · exact halted_of_replaces hvalid hgrows hheaderReplaces hattempted.same
    · obtain ⟨content, hcontent⟩ := hheaderReplaces.read (hgrows.read hread)
      exact hattempted.withholds hcontent

end

-- Generation ends in one of three ways: both files are delivered, the input is found wanting and
-- the files are as before, or the files could not be written and the second one is as before.
inductive Ended (settings : Settings) (input directory : String)
    (rendered : Except Failure Sources) (before after : Tree) :
    Except Failure (List (Report Writing)) → Prop
  | delivered (sources : Sources) (header source : Writing) (renders : rendered = .ok sources)
      (complete : Complete settings directory sources before after header source)
      (told_header : Told before directory (settings.headerPath directory) sources.header header)
      (told_source : Told before directory (settings.sourcePath directory) sources.source source) :
      Ended settings input directory rendered before after
        (.ok [⟨settings.headerPath directory, header⟩, ⟨settings.sourcePath directory, source⟩])
  | wanting (failure : Failure) (ofInput : failure.OfInput input)
      (renders : rendered = .error failure) (same : after = before) :
      Ended settings input directory rendered before after (.error failure)
  | halted (failure : Failure) (sources : Sources)
      (ofOutput : failure.OfOutput settings directory) (renders : rendered = .ok sources)
      (halted : Halted settings directory sources before after) :
      Ended settings input directory rendered before after (.error failure)

section

variable {σ : Type} [Host (StateM σ)] {tree : σ → Tree} (law : Faithful tree) {start last : σ}
include law

-- A generation that succeeds has delivered what the input renders to.
theorem complete_of_generate {reports : List (Report Writing)}
    (h : Job.Ends (generate settings input directory) start (.ok reports) last) :
    ∃ sources header source, rendered settings input start = .ok sources ∧
      reports = [⟨settings.headerPath directory, header⟩,
        ⟨settings.sourcePath directory, source⟩] ∧
      Complete settings directory sources (tree start) (tree last) header source := by
  obtain ⟨sources, middle, hsources, h⟩ := Job.ends_bind_ok_iff.mp h
  obtain ⟨htree, ⟨_, hfail, -⟩ | ⟨_, _, -, hvalid, -⟩⟩ := of_sourcesOf law hsources
  · cases hfail
  obtain ⟨header, source, hreports, hcomplete⟩ | ⟨_, hfail, -⟩ := of_write law input hvalid h
  · exact ⟨sources, header, source, congrArg Prod.fst hsources, Except.ok.inj hreports,
      htree ▸ hcomplete⟩
  · cases hfail

theorem ended_generate {outcome : Except Failure (List (Report Writing))}
    (h : Job.Ends (generate settings input directory) start outcome last) :
    Ended settings input directory (rendered settings input start) (tree start) (tree last)
        outcome ∧
      ∀ failure, outcome = .error failure → failure.OfInput input → ¬ Withholds tree input →
        tree last = tree start := by
  obtain ⟨sources, middle, hsources, h⟩ | ⟨failure, hsources, rfl⟩ := Job.ends_bind_iff.mp h
  · obtain ⟨htree, ⟨_, hfail, -⟩ | ⟨_, bytes, -, hvalid, hread⟩⟩ := of_sourcesOf law hsources
    · cases hfail
    have hrenders : rendered settings input start = .ok sources := congrArg Prod.fst hsources
    obtain ⟨header, source, rfl, hcomplete⟩ | ⟨failure, rfl, hhalted, houtput, hinput⟩ :=
      of_write law input hvalid h
    · rw [htree] at hcomplete
      exact ⟨.delivered sources header source hrenders hcomplete hcomplete.told_header
        hcomplete.told_source, nofun⟩
    · refine ⟨.halted failure sources houtput hrenders (htree ▸ hhalted), ?_⟩
      rintro _ hfailure hofInput hreads
      cases hfailure
      exact absurd (hinput bytes (htree ▸ hread) hofInput) hreads
  · obtain ⟨htree, ⟨_, hfail, hinput⟩ | ⟨_, _, hok, -, -⟩⟩ := of_sourcesOf law hsources
    · cases hfail
      exact ⟨.wanting failure hinput (congrArg Prod.fst hsources) htree, fun _ _ _ _ => htree⟩
    · cases hok

end

-- Also where the file system refuses what could be done, no file is written in part, none is left
-- over and none is written before the input is known to be good. If it refuses nothing, a failure
-- of the input is known by its kind.
theorem generate_delivers (settings : Settings) (input directory : String) :
    (∀ before : Session,
      let run := (generate settings input directory : Job (StateM Session) _).run.run before
      Ended settings input directory (rendered settings input before) before.tree run.2.tree
          run.1 ∧
        ∀ failure, run.1 = .error failure → failure.OfInput input →
          run.2.tree = before.tree) ∧
    ∀ before : Contrary,
      let run := (generate settings input directory : Job (StateM Contrary) _).run.run before
      Ended settings input directory (rendered settings input before) before.session.tree
        run.2.session.tree run.1 := by
  refine ⟨fun before => ?_, fun before => (ended_generate Contrary.faithful rfl).1⟩
  have hends : Job.Ends (generate settings input directory) before _ _ := rfl
  obtain ⟨hended, hinput⟩ := ended_generate Session.faithful hends
  exact ⟨hended, fun failure hfailure hofInput => hinput failure hfailure hofInput not_withholds⟩

-- A directory with one document in it.
def stocked : Session where
  tree := ({} : Tree).put ["in.xml"] (.file (
    "<EffectPoolInstance id=\x221\x22 typeID=\x225\x22 name=\x22Amp 1\x22/>" ++
      "<EffectParameters typeID=\x225\x22 name=\x22Amp\x22/>").toUTF8)

theorem grounded_stocked : stocked.tree.Grounded :=
  Tree.grounded_of_nodes (by decide +kernel)

-- The same directory in a file system that is full by the second file.
def full : Contrary where
  session := stocked
  refusals := List.replicate 8 none ++ [some ⟨.other "No space left on device", 1, by decide⟩]

-- A document that is missing is no reason to make the directory, and of the file that could not be
-- written in full nothing is left.
theorem generate_delivers_full :
    (let run := (generate {} "other.xml" "out" : Job (StateM Session) _).run.run stocked
     run.1 = .error (.noInput "other.xml") ∧ run.2.tree = stocked.tree) ∧
    let run := (generate {} "in.xml" "out" : Job (StateM Contrary) _).run.run full
    run.1 = .error (.unwritten "out/axefx_ii_ids.cc" (.other "No space left on device")) ∧
      ∃ sources, rendered {} "in.xml" full = .ok sources ∧
        ∀ place bytes, run.2.session.tree.node? place = some (.file bytes) →
          bytes = sources.header.toUTF8 ∨
            stocked.tree.node? place = some (.file bytes) := by
  have hmissing : ((generate {} "other.xml" "out" : Job (StateM Session) _).run.run stocked).1 =
      .error (.noInput "other.xml") := by decide +kernel
  have hfull : ((generate {} "in.xml" "out" : Job (StateM Contrary) _).run.run full).1 =
      .error (.unwritten "out/axefx_ii_ids.cc" (.other "No space left on device")) := by
    decide +kernel
  refine ⟨⟨hmissing, ((generate_delivers {} "other.xml" "out").1 stocked).2 _ hmissing trivial⟩,
    hfull, ?_⟩
  have hended := (generate_delivers {} "in.xml" "out").2 full
  simp only [hfull] at hended
  cases hended with
  | wanting _ ofInput => exact ofInput.elim
  | halted _ sources _ renders halted =>
      refine ⟨sources, renders, fun place bytes hfile => ?_⟩
      rcases halted.places place with (hsame | hmakes) | ⟨-, hheader⟩
      · exact .inr (hsame ▸ hfile)
      · cases hmakes.made.symm.trans hfile
      · cases hheader.symm.trans hfile
        exact .inl rfl

section

variable {before grown : Session}

theorem readText_eq (path : String) (session : Session) :
    readText (m := StateM Session) path session =
      ((session.tree.read path).bind fun bytes =>
        (String.fromUTF8? bytes).elim (.error .notText) .ok, session) := by
  refine bind_eq_iff.mpr ⟨_, session, rfl, ?_⟩
  cases session.tree.read path with
  | error fault => rfl
  | ok bytes =>
      simp only [Except.bind]
      cases String.fromUTF8? bytes <;> rfl

-- The input renders to the same wherever it reads the same.
theorem rendered_congr {other : Session} (h : before.tree.read input = other.tree.read input) :
    rendered settings input before = rendered settings input other := by
  have hrendered (session : Session) : rendered settings input session =
      ((readText (m := StateM Session) input session).1.mapError (unreadInput input)).bind
        fun document => (Sources.ofDocument settings document).outcome := by
    show (ExceptT.bindCont (m := StateM Session)
      (fun document => Job.ofTraced (Sources.ofDocument settings document))
      ((readText (m := StateM Session) input session).1.mapError (unreadInput input))
      (readText (m := StateM Session) input session).2).1 = _
    cases (readText (m := StateM Session) input session).1 <;> rfl
  rw [hrendered, hrendered, readText_eq, readText_eq, h]

theorem write_of_read
    (hmake : makeDirectory (m := StateM Session) directory before = (.ok (), grown))
    (hheader : grown.tree.read (settings.headerPath directory) = .ok sources.header.toUTF8)
    (hsource : grown.tree.read (settings.sourcePath directory) = .ok sources.source.toUTF8) :
    ∃ after, Job.Ends (write settings directory sources) before
      (.ok [⟨settings.headerPath directory, .unchanged⟩,
        ⟨settings.sourcePath directory, .unchanged⟩]) after := by
  obtain ⟨headed, hfirst, hheaded⟩ := writeIfChanged_of_read hheader
  obtain ⟨after, hsecond, -⟩ := writeIfChanged_of_read (hheaded ▸ hsource)
  exact ⟨after, Job.ends_bind_ok_iff.mpr ⟨_, _, Job.ends_request_iff.mpr ⟨_, hmake, rfl⟩,
    Job.ends_bind_ok_iff.mpr ⟨_, _, hfirst, Job.ends_bind_ok_iff.mpr ⟨_, _, hsecond, rfl⟩⟩⟩⟩

end

-- What the document renders to.
def stale : Sources :=
  match rendered {} "in.xml" stocked with
  | .ok sources => sources
  | .error _ => ⟨"", ""⟩

theorem rendered_stocked : rendered {} "in.xml" stocked = .ok stale := by
  have hok : (rendered {} "in.xml" stocked).isOk := by decide +kernel
  obtain ⟨sources, hsources⟩ := Outcome.exists_of_isOk hok
  rw [stale, hsources]

-- The files are up to date in a directory to which another path leads that turns back from a
-- directory that is missing.
def hidden : Session where
  tree := ((stocked.tree.put ["out"] .directory).put ["out", "axefx_ii_ids.h"]
    (.file stale.header.toUTF8)).put ["out", "axefx_ii_ids.cc"] (.file stale.source.toUTF8)

theorem grounded_hidden : hidden.tree.Grounded :=
  Tree.grounded_of_nodes (by decide +kernel)

theorem rendered_hidden : rendered {} "in.xml" hidden = .ok stale := by
  rw [← rendered_stocked]
  exact rendered_congr (by decide +kernel)

-- What is left once the document is read, and then when the directory is made.
def judged : Session := ((sourcesOf {} "in.xml" : Job (StateM Session) _).run.run hidden).2

def opened : Session := (makeDirectory (m := StateM Session) "x/../out" judged).2

theorem generate_hidden : ∃ after,
    Job.Ends (generate {} "in.xml" "x/../out") hidden
      (.ok [⟨Settings.headerPath {} "x/../out", .unchanged⟩,
        ⟨Settings.sourcePath {} "x/../out", .unchanged⟩]) after := by
  have hsources : Job.Ends (sourcesOf {} "in.xml") hidden (.ok stale) judged :=
    Prod.ext rendered_hidden rfl
  have hmake : makeDirectory (m := StateM Session) "x/../out" judged = (.ok (), opened) :=
    Prod.ext (by decide +kernel) rfl
  have hgrows : hidden.tree.Grows opened.tree ("x/../out" :: Path.ancestors "x/../out") :=
    (of_sourcesOf Session.faithful hsources).1 ▸ grows_makeDirectory Session.faithful hmake
  have hheaderNode :
      hidden.tree.node? ["out", "axefx_ii_ids.h"] = some (.file stale.header.toUTF8) := by
    rw [hidden, Tree.node?_put _ (by decide), if_neg (by decide), Tree.node?_put _ (by decide),
      if_pos rfl]
  have hsourceNode :
      hidden.tree.node? ["out", "axefx_ii_ids.cc"] = some (.file stale.source.toUTF8) := by
    rw [hidden, Tree.node?_put _ (by decide), if_pos rfl]
  have hheader : opened.tree.read (Settings.headerPath {} "x/../out") = .ok stale.header.toUTF8 :=
    Tree.read_eq_ok_iff.mpr ⟨_, ⟨["out"], "axefx_ii_ids.h", by decide +kernel, rfl⟩,
      hgrows.file_iff.mpr hheaderNode⟩
  have hsource : opened.tree.read (Settings.sourcePath {} "x/../out") = .ok stale.source.toUTF8 :=
    Tree.read_eq_ok_iff.mpr ⟨_, ⟨["out"], "axefx_ii_ids.cc", by decide +kernel, rfl⟩,
      hgrows.file_iff.mpr hsourceNode⟩
  obtain ⟨after, hwrite⟩ := write_of_read hmake hheader hsource
  exact ⟨after, Job.ends_bind_ok_iff.mpr ⟨stale, judged, hsources, hwrite⟩⟩

-- That the directory's path can be passed is needed to tell by the path whether a file is
-- unchanged: behind a directory that is missing it cannot be read, and the generation that makes
-- that directory finds it.
theorem unchanged_of_unread :
    ¬ ∀ settings input directory (before after : Session) sources header source,
      before.tree.Grounded → rendered settings input before = .ok sources →
      Job.Ends (generate settings input directory) before
        (.ok [⟨settings.headerPath directory, header⟩, ⟨settings.sourcePath directory, source⟩])
        after →
      (header = .unchanged ↔
          before.tree.read (settings.headerPath directory) = .ok sources.header.toUTF8) ∧
        (source = .unchanged ↔
          before.tree.read (settings.sourcePath directory) = .ok sources.source.toUTF8) := by
  intro h
  obtain ⟨after, hgenerate⟩ := generate_hidden
  have hread := (h _ _ _ _ _ _ _ _ grounded_hidden rendered_hidden hgenerate).1.mp rfl
  have hunread : ¬ (hidden.tree.read (Settings.headerPath {} "x/../out")).isOk := by decide +kernel
  rw [hread] at hunread
  exact hunread rfl

end EffectTables.Delivery
