import EffectTables.Proofs.Delivery.Runs

namespace EffectTables

-- Both paths lead to one place, be there a file or not.
def Files.Tree.SamePlace (tree : Files.Tree) (path other : String) : Prop :=
  ∃ place, tree.Names path place ∧ tree.Names other place

namespace Delivery

open Files (Session Tree Faithful)

variable {settings : Settings} {input directory path : String} {sources : Sources}

-- What has become of a file once the two generated ones are delivered: it is the one of them whose
-- path leads to its place, and it reads as before if neither path does.
structure Kept (settings : Settings) (directory : String) (sources : Sources) (after : Tree)
    (path : String) (bytes : ByteArray) : Prop where
  header : after.SamePlace path (settings.headerPath directory) →
    after.read path = .ok sources.header.toUTF8
  source : after.SamePlace path (settings.sourcePath directory) →
    after.read path = .ok sources.source.toUTF8
  other : ¬ after.SamePlace path (settings.headerPath directory) →
    ¬ after.SamePlace path (settings.sourcePath directory) → after.read path = .ok bytes

-- A path to a delivered file reads that file.
theorem Delivered.read_samePlace {contents target : String} {before after : Tree}
    {writing : Writing} {place : Files.Place}
    (h : Delivered target contents before after writing place)
    (hsame : after.SamePlace path target) : after.read path = .ok contents.toUTF8 := by
  obtain ⟨common, hpath, htarget⟩ := hsame
  obtain rfl : common = place := htarget.leads.unique h.names.leads
  exact Tree.read_eq_ok_iff.mpr ⟨common, hpath, h.file⟩

theorem Complete.kept {before after : Tree} {header source : Writing} {bytes : ByteArray}
    (h : Complete settings directory sources before after header source)
    (hread : before.read path = .ok bytes) : Kept settings directory sources after path bytes := by
  obtain ⟨place, hnames, hfile⟩ := Tree.read_eq_ok_iff.mp hread
  have hlater := hnames.keeps h.keeps
  obtain ⟨_, hheader⟩ := h.header
  obtain ⟨_, hsource⟩ := h.source
  refine ⟨hheader.read_samePlace, hsource.read_samePlace, fun hnoHeader hnoSource => ?_⟩
  rcases h.others place (fun hnames => hnoHeader ⟨place, hlater, hnames⟩)
    (fun hnames => hnoSource ⟨place, hlater, hnames⟩) with hsame | hmakes
  · exact Tree.read_eq_ok_iff.mpr ⟨place, hlater, hsame.trans hfile⟩
  · cases hmakes.missing.symm.trans hfile

-- A generation that succeeds leaves its input as it was, unless it was asked to write one of its
-- files in the place of the input.
theorem generate_keeps_input {σ : Type} [Host (StateM σ)] {tree : σ → Tree} (law : Faithful tree)
    {before after : σ} {reports : List (Report Writing)}
    (h : Job.Ends (generate settings input directory) before (.ok reports) after) :
    ∃ bytes sources, (tree before).read input = .ok bytes ∧
      rendered settings input before = .ok sources ∧
      Kept settings directory sources (tree after) input bytes := by
  obtain ⟨sources, header, source, hrendered, -, hcomplete⟩ := complete_of_generate law h
  obtain ⟨_, _, hsources, -⟩ := Job.ends_bind_ok_iff.mp h
  obtain ⟨-, ⟨_, hfail, -⟩ | ⟨_, bytes, -, -, hread⟩⟩ := of_sourcesOf law hsources
  · cases hfail
  · exact ⟨bytes, sources, hread, hrendered, hcomplete.kept hread⟩

theorem generate_keeps_input_stocked :
    ∃ reports after, Job.Ends (generate {} "in.xml" "out") stocked (.ok reports) after ∧
      ∃ bytes sources, stocked.tree.read "in.xml" = .ok bytes ∧
        rendered {} "in.xml" stocked = .ok sources ∧
        Kept {} "out" sources after.tree "in.xml" bytes := by
  have hok : ((generate {} "in.xml" "out" : Job (StateM Session) _).run.run stocked).1.isOk := by
    decide +kernel
  obtain ⟨reports, hreports⟩ := Outcome.exists_of_isOk hok
  have hends : Job.Ends (generate {} "in.xml" "out") stocked (.ok reports) _ :=
    Prod.ext hreports rfl
  exact ⟨reports, _, hends, generate_keeps_input Session.faithful hends⟩

-- A generation whose header is called as its input is.
def overwriting : Except Failure (List (Report Writing)) × Session :=
  (generate { headerName := "in.xml" } "in.xml" "" : Job (StateM Session) _).run.run stocked

theorem overwriting_differs :
    overwriting.1.isOk ∧ overwriting.2.tree.read "in.xml" ≠ stocked.tree.read "in.xml" := by
  decide +kernel

theorem generate_overwrites_input :
    ¬ ∀ (settings : Settings) (input directory : String) (before after : Session) reports,
      Job.Ends (generate settings input directory) before (.ok reports) after →
        after.tree.read input = before.tree.read input := by
  intro h
  obtain ⟨hok, hdiffers⟩ := overwriting_differs
  obtain ⟨reports, hreports⟩ := Outcome.exists_of_isOk hok
  exact hdiffers (h { headerName := "in.xml" } "in.xml" "" stocked overwriting.2 reports
    (Prod.ext hreports rfl))

end Delivery

end EffectTables
