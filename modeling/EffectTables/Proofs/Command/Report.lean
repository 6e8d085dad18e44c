import EffectTables.Command.Run
import EffectTables.Proofs.Delivery.Runs

namespace EffectTables.Command

open Files (Session Contrary Tree Beside Discreet)
open Files.Session (bind_eq_iff pure_eq_iff)
open Delivery (Writing Report)

section

variable {σ φ : Type} [Host (StateM σ)] (files : σ → φ) (said : σ → List String)

-- A run of an action does to the files what its operation does by itself, and fails if that fails.
-- Of a generation that fails nothing is said, of one that succeeds a line for each file, and of a
-- cleaning the same line in any case.
inductive Tells (settings : Settings) (before after : σ) : Action → Except Complaint Unit → Prop
  | generated {input output : String} {header source : Writing} {left : σ}
      (succeeds : Job.Ends (Delivery.generate settings input output) before
        (.ok [⟨settings.headerPath output, header⟩, ⟨settings.sourcePath output, source⟩]) left)
      (same : files after = files left)
      (lines : said after = said before ++ [statusLine ⟨settings.headerPath output, header⟩,
        statusLine ⟨settings.sourcePath output, source⟩]) :
      Tells settings before after (.generate input output) (.ok ())
  | ungenerated {input output : String} {failure : Failure} {left : σ}
      (fails : Job.Ends (Delivery.generate settings input output) before (.error failure) left)
      (same : files after = files left) (silent : said after = said before) :
      Tells settings before after (.generate input output)
        (.error ⟨"generating from " ++ input, failure⟩)
  | cleaned {output : String} {reports : List (Report Delivery.Removal)} {left : σ}
      (succeeds : Job.Ends (Delivery.clean settings output) before (.ok reports) left)
      (same : files after = files left)
      (line : said after = said before ++ ["Deleting generated files in " ++ output ++ "\n"]) :
      Tells settings before after (.clean output) (.ok ())
  | uncleaned {output : String} {failure : Failure} {left : σ}
      (fails : Job.Ends (Delivery.clean settings output) before (.error failure) left)
      (same : files after = files left)
      (line : said after = said before ++ ["Deleting generated files in " ++ output ++ "\n"]) :
      Tells settings before after (.clean output) (.error ⟨"cleaning " ++ output, failure⟩)

-- How a run of the program on a command line exits.
inductive Exits (arguments : List String) (scope : Option String) (before after : σ) : Nat → Prop
  | informed (usage : Usage) (unread : read arguments scope = .error usage)
      (asked : usage = .help ∨ usage = .version) (same : files after = files before) :
      Exits arguments scope before after 0
  | misused (usage : Usage) (unread : read arguments scope = .error usage)
      (unasked : ¬ (usage = .help ∨ usage = .version)) (same : files after = files before) :
      Exits arguments scope before after 2
  | succeeded (request : Request) (parsed : read arguments scope = .ok request)
      (tells : Tells files said request.settings before after request.action (.ok ())) :
      Exits arguments scope before after 0
  | failed (request : Request) (complaint : Complaint)
      (parsed : read arguments scope = .ok request)
      (tells : Tells files said request.settings before after request.action
        (.error complaint)) :
      Exits arguments scope before after 1

-- Whatever the program is asked to do, it tells of it and exits as is due.
structure Accounts (before : σ) : Prop where
  run : ∀ request : Request,
    let ran := (run request : StateM σ _) before
    Tells files said request.settings before ran.2 request.action ran.1
  execute : ∀ (arguments : List String) (scope : Option String),
    let ended := (execute arguments scope : StateM σ _) before
    Exits files said arguments scope before ended.2 ended.1

end

section

variable {σ φ : Type} [Host (StateM σ)] {files : σ → φ} {said : σ → List String}
  (law : Discreet files said) {settings : Settings} {before after : σ}
  {outcome : Except Complaint Unit}

theorem Tells.later {action : Action} {last : σ}
    (h : Tells files said settings before after action outcome)
    (hbeside : Beside files said (said after) last after) :
    Tells files said settings before last action outcome := by
  obtain ⟨hfiles, hsaid⟩ := hbeside
  cases h with
  | generated succeeds same lines =>
      exact .generated succeeds (hfiles.trans same) (hsaid.trans lines)
  | ungenerated fails same silent =>
      exact .ungenerated fails (hfiles.trans same) (hsaid.trans silent)
  | cleaned succeeds same line => exact .cleaned succeeds (hfiles.trans same) (hsaid.trans line)
  | uncleaned fails same line => exact .uncleaned fails (hfiles.trans same) (hsaid.trans line)

theorem Usage.exitCode_eq_zero {usage : Usage} (h : usage = .help ∨ usage = .version) :
    usage.exitCode = 0 := by
  rcases h with rfl | rfl <;> rfl

theorem Usage.exitCode_eq_two {usage : Usage} (h : ¬ (usage = .help ∨ usage = .version)) :
    usage.exitCode = 2 := by
  cases usage <;> first | rfl | simp at h

include law

theorem beside_sayAll {lines : List String} {answer : Unit}
    (h : (sayAll lines : StateM σ Unit) before = (answer, after)) :
    Beside files said (said before ++ lines) after before := by
  induction lines generalizing before with
  | nil =>
      obtain ⟨-, rfl⟩ := pure_eq_iff.mp h
      exact ⟨rfl, (List.append_nil _).symm⟩
  | cons text rest ih =>
      obtain ⟨_, middle, hsay, h⟩ := bind_eq_iff.mp h
      have hfirst := law.say hsay
      refine ⟨(ih h).files.trans hfirst.files, (ih h).said.trans ?_⟩
      rw [hfirst.said, List.append_assoc, List.singleton_append]

theorem tells_runGenerate {input output : String}
    (h : (runGenerate settings input output : StateM σ _) before = (outcome, after)) :
    Tells files said settings before after (.generate input output) outcome := by
  obtain ⟨_, started, hnote, h⟩ := bind_eq_iff.mp h
  obtain ⟨result, middle, hgenerate, h⟩ := bind_eq_iff.mp h
  have hlockstep := Delivery.lockstep_generate (law.paired (said before)) settings input output
  obtain ⟨left, hleft, hfiles, hsaid⟩ := hlockstep.ends (law.note hnote) hgenerate
  cases result with
  | error failure =>
      obtain ⟨rfl, rfl⟩ := pure_eq_iff.mp h
      exact .ungenerated hleft hfiles hsaid
  | ok reports =>
      obtain ⟨header, source, rfl⟩ := Delivery.reports_of_generate hleft
      obtain ⟨_, last, hsay, h⟩ := bind_eq_iff.mp h
      obtain ⟨rfl, rfl⟩ := pure_eq_iff.mp h
      have hlast := beside_sayAll law hsay
      rw [hsaid] at hlast
      exact .generated hleft (hlast.files.trans hfiles) hlast.said

theorem tells_runClean {output : String}
    (h : (runClean settings output : StateM σ _) before = (outcome, after)) :
    Tells files said settings before after (.clean output) outcome := by
  obtain ⟨_, started, hsay, h⟩ := bind_eq_iff.mp h
  obtain ⟨result, middle, hclean, h⟩ := bind_eq_iff.mp h
  obtain ⟨left, hleft, hfiles, hsaid⟩ :=
    (Delivery.lockstep_clean (law.paired _) settings output).ends (law.say hsay) hclean
  cases result with
  | error failure =>
      obtain ⟨rfl, rfl⟩ := pure_eq_iff.mp h
      exact .uncleaned hleft hfiles hsaid
  | ok reports =>
      obtain ⟨_, last, hnote, h⟩ := bind_eq_iff.mp h
      obtain ⟨rfl, rfl⟩ := pure_eq_iff.mp h
      have hlast := law.note hnote
      exact .cleaned hleft (hlast.files.trans hfiles) (hlast.said.trans hsaid)

theorem tells_run {request : Request}
    (h : (run request : StateM σ _) before = (outcome, after)) :
    Tells files said request.settings before after request.action outcome := by
  obtain ⟨action, settings⟩ := request
  cases action with
  | generate input output => exact tells_runGenerate law h
  | clean output => exact tells_runClean law h

theorem files_inform {usage : Usage} {answer : Unit}
    (h : (inform usage : StateM σ Unit) before = (answer, after)) : files after = files before := by
  rw [inform] at h
  split at h
  next => exact (law.say h).files
  next => exact (law.complain h).files

theorem exits_execute {arguments : List String} {scope : Option String} {code : Nat}
    (h : (execute arguments scope : StateM σ _) before = (code, after)) :
    Exits files said arguments scope before after code := by
  cases hread : read arguments scope with
  | error usage =>
      rw [execute, hread] at h
      obtain ⟨_, informed, hinform, h⟩ := bind_eq_iff.mp h
      obtain ⟨rfl, rfl⟩ := pure_eq_iff.mp h
      have hsame := files_inform law hinform
      by_cases hasked : usage = .help ∨ usage = .version
      · exact Usage.exitCode_eq_zero hasked ▸ .informed usage hread hasked hsame
      · exact Usage.exitCode_eq_two hasked ▸ .misused usage hread hasked hsame
  | ok request =>
      rw [execute, hread] at h
      obtain ⟨outcome, ran, hrun, h⟩ := bind_eq_iff.mp h
      have htells := tells_run law hrun
      cases outcome with
      | ok _ =>
          obtain ⟨rfl, rfl⟩ := pure_eq_iff.mp h
          exact .succeeded request hread htells
      | error complaint =>
          obtain ⟨_, complained, hcomplain, h⟩ := bind_eq_iff.mp h
          obtain ⟨rfl, rfl⟩ := pure_eq_iff.mp h
          exact .failed request complaint hread (htells.later (law.complain hcomplain))

theorem accounts (before : σ) : Accounts files said before where
  run _ := tells_run law rfl
  execute _ _ := exits_execute law rfl

end

-- The line about a file says whether it held what it is to hold.
inductive Announces (path : String) (held : Prop) : String → Prop
  | generating (differs : ¬ held) : Announces path held ("Generating " ++ path ++ "\n")
  | upToDate (holds : held) : Announces path held (path ++ " is up to date.\n")

-- The two lines about a path are told apart by their lengths.
theorem generating_ne_upToDate (path : String) :
    "Generating " ++ path ++ "\n" ≠ path ++ " is up to date.\n" := by
  intro h
  have hlengths := congrArg String.length h
  simp only [String.length_append] at hlengths
  have hgenerating : "Generating ".length = 11 := rfl
  have hupToDate : " is up to date.\n".length = 16 := rfl
  have hend : "\n".length = 1 := rfl
  omega

theorem announces_statusLine_iff {path : String} {held : Prop} {writing : Writing} :
    Announces path held (statusLine ⟨path, writing⟩) ↔ (writing = .unchanged ↔ held) := by
  constructor
  · intro h
    generalize hline : statusLine ⟨path, writing⟩ = line at h
    cases h with
    | generating differs =>
        cases writing with
        | generated => exact iff_of_false nofun differs
        | unchanged => exact absurd hline.symm (generating_ne_upToDate path)
    | upToDate holds =>
        cases writing with
        | generated => exact absurd hline (generating_ne_upToDate path)
        | unchanged => exact iff_of_true rfl holds
  · intro h
    cases writing with
    | unchanged => exact .upToDate (h.mp rfl)
    | generated => exact .generating fun hheld => nomatch h.mpr hheld

-- What a line says of the place that the path leads to in the end, and of the path itself where
-- the directory's path does not turn back from what is missing.
structure Announced (before after : Tree) (directory path contents line : String) : Prop where
  place : ∃ place, after.Names path place ∧
    Announces path (before.node? place = some (.file contents.toUTF8)) line
  reads : before.Passable directory →
    Announces path (before.read path = .ok contents.toUTF8) line
  held : before.read path = .ok contents.toUTF8 → line = path ++ " is up to date.\n"

-- A generation that succeeds announces both of its files.
def AnnouncesBoth (before : Session) (settings : Settings) (input output : String) : Prop :=
  ∀ header source left,
    Job.Ends (Delivery.generate settings input output) before
      (.ok [⟨settings.headerPath output, header⟩, ⟨settings.sourcePath output, source⟩]) left →
    ∃ sources, Delivery.rendered settings input before = .ok sources ∧
      Announced before.tree left.tree output (settings.headerPath output) sources.header
        (statusLine ⟨settings.headerPath output, header⟩) ∧
      Announced before.tree left.tree output (settings.sourcePath output) sources.source
        (statusLine ⟨settings.sourcePath output, source⟩)

theorem announced_of_delivered {before after : Tree} {directory path contents : String}
    {writing : Writing} {place : Files.Place}
    (h : Delivery.Delivered path contents before after writing place)
    (htold : Delivery.Told before directory path contents writing) (hgrounded : before.Grounded) :
    Announced before after directory path contents (statusLine ⟨path, writing⟩) where
  place := ⟨place, h.names, announces_statusLine_iff.mpr h.unchanged⟩
  reads hpass := announces_statusLine_iff.mpr ⟨htold.reads hgrounded hpass, htold.held⟩
  held hread := by
    obtain rfl : writing = .unchanged := htold.held hread
    rfl

theorem announcesBoth {before : Session} (hgrounded : before.tree.Grounded) (settings : Settings)
    (input output : String) : AnnouncesBoth before settings input output := by
  intro header source left h
  obtain ⟨sources, _, _, hrendered, hreports, hcomplete⟩ :=
    Delivery.complete_of_generate Session.faithful h
  cases hreports
  obtain ⟨_, hheader⟩ := hcomplete.header
  obtain ⟨_, hsource⟩ := hcomplete.source
  exact ⟨sources, hrendered, announced_of_delivered hheader hcomplete.told_header hgrounded,
    announced_of_delivered hsource hcomplete.told_source hgrounded⟩

-- What the program says and how it exits is what it did, also where the file system refuses
-- requests that it could meet.
theorem accounts_and_announces :
    (∀ before : Session, Accounts Session.tree Session.said before ∧
      (before.tree.Grounded → ∀ settings input output,
        AnnouncesBoth before settings input output)) ∧
    ∀ before : Contrary, Accounts Contrary.outlook Contrary.said before :=
  ⟨fun before => ⟨accounts Session.discreet before, announcesBoth⟩, accounts Contrary.discreet⟩

theorem accounts_and_announces_stocked :
    Delivery.stocked.tree.Grounded ∧ Delivery.stocked.tree.Passable "out" ∧
    Accounts Session.tree Session.said Delivery.stocked ∧
    AnnouncesBoth Delivery.stocked {} "in.xml" "out" ∧
    let ended := (execute ["generate", "in.xml", "out"] none : StateM Session Nat) Delivery.stocked
    ended.1 = 0 ∧ ended.2.said =
      ["Generating out/axefx_ii_ids.h\n", "Generating out/axefx_ii_ids.cc\n"] := by
  obtain ⟨haccounts, hannounces⟩ := accounts_and_announces.1 Delivery.stocked
  exact ⟨Delivery.grounded_stocked, Tree.passable_of_onward (by decide +kernel), haccounts,
    hannounces Delivery.grounded_stocked _ _ _, by decide +kernel⟩

-- A file system that is full by the second file. The first one stays, and nothing is said of it.
example :
    let full : Files.Refusal := ⟨.other "No space left on device", 1, by decide⟩
    let ended := (execute ["generate", "in.xml", "out"] none : StateM Contrary Nat)
      { session := Delivery.stocked, refusals := List.replicate 8 none ++ [some full] }
    ended.1 = 1 ∧ ended.2.session.said = [] ∧
      (ended.2.session.tree.read "out/axefx_ii_ids.h").isOk ∧
      ¬ (ended.2.session.tree.read "out/axefx_ii_ids.cc").isOk := by
  decide +kernel

-- That the directory's path can be passed is needed: behind a directory that is missing a path
-- leads nowhere, and the generation that makes the directory finds the file.
theorem upToDate_of_unread :
    ¬ ∀ settings input output before after sources, before.tree.Grounded →
      Delivery.rendered settings input before = .ok sources →
      (run ⟨.generate input output, settings⟩ : StateM Session _) before = (.ok (), after) →
      ∃ header source, after.said = before.said ++ [header, source] ∧
        Announces (settings.headerPath output)
          (before.tree.read (settings.headerPath output) = .ok sources.header.toUTF8) header ∧
        Announces (settings.sourcePath output)
          (before.tree.read (settings.sourcePath output) = .ok sources.source.toUTF8) source := by
  intro h
  obtain ⟨left, hgenerate⟩ := Delivery.generate_hidden
  rcases hrun : (run ⟨.generate "in.xml" "x/../out", {}⟩ : StateM Session _) Delivery.hidden with
    ⟨outcome, after⟩
  cases tells_run Session.discreet hrun with
  | ungenerated fails => cases hgenerate.symm.trans fails
  | generated succeeds _ lines =>
      cases hgenerate.symm.trans succeeds
      obtain ⟨header, source, hsaid, hheader, -⟩ := h {} "in.xml" "x/../out" Delivery.hidden after
        Delivery.stale Delivery.grounded_hidden Delivery.rendered_hidden hrun
      have hlines := List.append_cancel_left (hsaid.symm.trans lines)
      obtain rfl := (List.cons.inj hlines).1
      have hread := (announces_statusLine_iff.mp hheader).mp rfl
      have hmissing : ¬ (Delivery.hidden.tree.read (Settings.headerPath {} "x/../out")).isOk := by
        decide +kernel
      rw [hread] at hmissing
      exact hmissing rfl

end EffectTables.Command
