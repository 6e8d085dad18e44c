import EffectTables.Proofs.Command.Level
import Mathlib.Data.List.Perm.Basic

namespace EffectTables.Command

-- An option that both levels have, with its value.
structure Choice where
  setting : Setting
  value : String
  joined : Bool
  shared : setting ≠ .clean := by decide
  plain : Plain value := by decide

namespace Choice

def words (choice : Choice) : List String := choice.setting.words choice.value choice.joined

def entry (choice : Choice) : Slot × String := (.option choice.setting, choice.value)

theorem accepts (choice : Choice) : (Slot.option choice.setting).accepts choice.value := by
  have hshared := choice.shared
  cases hsetting : choice.setting with
  | clean => exact absurd hsetting hshared
  | scope | headerName | sourceName => rfl

end Choice

-- A value that can be written where a slot is wanted.
def Slot.Fits (slot : Slot) (value : String) : Prop := slot.accepts value ∧ Plain value

-- The value that options give to a setting.
def chosen? (setting : Setting) (choices : List Choice) : Option String :=
  (choices.find? (·.setting = setting)).map (·.value)

-- Values in their order, with options anywhere between them.
inductive Spread : List Choice → List String → List String → Prop
  | done : Spread [] [] []
  | choice {choices : List Choice} {values words : List String} (choice : Choice)
      (rest : Spread choices values words) :
      Spread (choice :: choices) values (choice.words ++ words)
  | value {choices : List Choice} {values words : List String} (value : String)
      (rest : Spread choices values words) : Spread choices (value :: values) (value :: words)

structure IsPath (text : String) : Prop where
  nonempty : text ≠ ""
  plain : Plain text

theorem IsPath.fits {text : String} (h : IsPath text) {slot : Slot}
    (hslot : slot = .input ∨ slot = .output) : slot.Fits text := by
  refine ⟨?_, h.plain⟩
  rcases hslot with rfl | rfl <;> simpa [Slot.accepts] using h.nonempty

-- A command line that asks for an action, with the options before its subcommand and those after
-- it. Where an option stands for the subcommand there is no "after".
inductive Asks : Action → List Choice → List Choice → List String → Prop
  | generate {input output : String} {words : List String} (front back : List Choice)
      (input_path : IsPath input) (output_path : IsPath output)
      (spread : Spread back [input, output] words) :
      Asks (.generate input output) front back (front.flatMap Choice.words ++ "generate" :: words)
  | clean {output : String} {words : List String} (front back : List Choice)
      (output_path : IsPath output) (spread : Spread back [output] words) :
      Asks (.clean output) front back (front.flatMap Choice.words ++ "clean" :: words)
  | cleanOption {output : String} (before after : List Choice) (output_path : IsPath output) :
      Asks (.clean output) (before ++ after) []
        (before.flatMap Choice.words ++ ["--clean", output] ++ after.flatMap Choice.words)

-- An option after the subcommand counts more than one before it, and the surroundings count if
-- neither names a scope.
def chosenSettings (front back : List Choice) (scope : Option String) : Settings where
  scope := (((chosen? .scope back).or (chosen? .scope front)).or scope).getD "axefx"
  headerName := ((chosen? .headerName back).or (chosen? .headerName front)).getD "axefx_ii_ids.h"
  sourceName := ((chosen? .sourceName back).or (chosen? .sourceName front)).getD "axefx_ii_ids.cc"

section

variable {setting : Setting} {front back choices : List Choice}

theorem lookup_entries (setting : Setting) (choices : List Choice) :
    (choices.map Choice.entry).lookup (.option setting) = chosen? setting choices := by
  induction choices with
  | nil => rfl
  | cons choice rest ih =>
      rw [List.map_cons, Lookup.lookup_cons_eq_ite, ih]
      by_cases hsetting : choice.setting = setting <;> simp [Choice.entry, chosen?, hsetting]

theorem lookup_entries_clean (choices : List Choice) :
    (choices.map Choice.entry).lookup (.option .clean) = none := by
  rw [lookup_entries, chosen?, Option.map_eq_none_iff, List.find?_eq_none]
  intro choice _ hclean
  exact choice.shared (of_decide_eq_true hclean)

theorem nodup_entries_iff :
    ((choices.map Choice.entry).map Prod.fst).Nodup ↔ (choices.map Choice.setting).Nodup := by
  have hslots : (choices.map Choice.entry).map Prod.fst =
      (choices.map Choice.setting).map Slot.option := by
    rw [List.map_map, List.map_map]
    rfl
  rw [hslots]
  exact List.nodup_map_iff fun _ _ => Slot.option.inj

theorem chosen?_append (setting : Setting) (front back : List Choice) :
    chosen? setting (front ++ back) = (chosen? setting front).or (chosen? setting back) := by
  rw [← lookup_entries, List.map_append, List.lookup_append, lookup_entries, lookup_entries]

-- Where each option is given once, neither its place nor its spelling matters.
theorem chosen?_perm (h : (front.map Choice.entry).Perm (back.map Choice.entry))
    (hnodup : (front.map Choice.setting).Nodup) (setting : Setting) :
    chosen? setting front = chosen? setting back := by
  rw [← lookup_entries, ← lookup_entries]
  exact Lookup.lookup_perm h (nodup_entries_iff.mpr hnodup) _

theorem nodup_settings_of_perm (h : (front.map Choice.entry).Perm (back.map Choice.entry))
    (hnodup : (front.map Choice.setting).Nodup) : (back.map Choice.setting).Nodup :=
  nodup_entries_iff.mp ((h.map Prod.fst).nodup_iff.mp (nodup_entries_iff.mpr hnodup))

theorem chosenSettings_perm {otherFront otherBack : List Choice}
    (h : ((front ++ back).map Choice.entry).Perm ((otherFront ++ otherBack).map Choice.entry))
    (hnodup : ((front ++ back).map Choice.setting).Nodup) (scope : Option String) :
    chosenSettings front back scope = chosenSettings otherFront otherBack scope := by
  have hfirst : (back ++ front).Perm (front ++ back) := List.perm_append_comm
  have hperm : ((back ++ front).map Choice.entry).Perm
      ((otherBack ++ otherFront).map Choice.entry) :=
    (hfirst.map _).trans (h.trans (List.perm_append_comm.map _))
  have hchosen := chosen?_perm hperm ((hfirst.map Choice.setting).nodup_iff.mpr hnodup)
  simp only [chosenSettings, ← chosen?_append, hchosen]

theorem nodup_cleanOption {before after : List Choice} (output : String)
    (h : ((before ++ after).map Choice.setting).Nodup) :
    ((before.map Choice.entry ++ (Slot.option .clean, output) ::
      after.map Choice.entry).map Prod.fst).Nodup := by
  have hperm : (before.map Choice.entry ++ (Slot.option .clean, output) ::
      after.map Choice.entry).Perm
      ((Slot.option .clean, output) :: (before ++ after).map Choice.entry) := by
    rw [List.map_append]
    exact List.perm_middle
  rw [(hperm.map _).nodup_iff, List.map_cons, List.nodup_cons]
  refine ⟨fun hmem => ?_, nodup_entries_iff.mpr h⟩
  obtain ⟨entry, hentry, hslot⟩ := List.mem_map.mp hmem
  have hne := List.lookup_eq_none_iff.mp (lookup_entries_clean (before ++ after)) entry hentry
  exact bne_iff_ne.mp hne hslot.symm

-- The option that stands for a subcommand is no obstacle to finding the others.
theorem lookup_cleanOption (setting : Setting) (before after : List Choice) (output : String) :
    (before.map Choice.entry ++ [(Slot.option .clean, output)] ++ after.map Choice.entry).lookup
        (Slot.option setting) =
      if setting = .clean then some output else chosen? setting (before ++ after) := by
  rw [List.lookup_append, List.lookup_append, lookup_entries, lookup_entries, chosen?_append,
    Lookup.lookup_cons_eq_ite, List.lookup_nil]
  by_cases hclean : setting = .clean
  · rw [hclean, ← lookup_entries, lookup_entries_clean]
    rfl
  · rw [if_neg hclean, if_neg fun h => hclean (Slot.option.inj h).symm, Option.or_none]

end

namespace Level

variable {level : Level} {top : Bool} {wanted : List Slot} {given : List (Slot × String)}
  {choices : List Choice} {values words : List String}

theorem Settles.takes_choice (h : level.Settles top wanted given) (choice : Choice)
    {rest : List (Slot × String)}
    (hnodup : ((given ++ choice.entry :: rest).map Prod.fst).Nodup) :
    ∃ later, Takes level choice.words later ∧
      later.Settles top wanted (given ++ [choice.entry]) :=
  h.takes_words (fun hclean => absurd hclean choice.shared)
    (Lookup.lookup_eq_none_of_nodup hnodup) choice.accepts choice.plain choice.joined

theorem Settles.takes_choices (h : level.Settles top wanted given)
    (hnodup : ((given ++ choices.map Choice.entry).map Prod.fst).Nodup) :
    ∃ later, Takes level (choices.flatMap Choice.words) later ∧
      later.Settles top wanted (given ++ choices.map Choice.entry) := by
  induction choices generalizing level given with
  | nil => exact ⟨level, .done level, by rwa [List.map_nil, List.append_nil]⟩
  | cons choice rest ih =>
      obtain ⟨middle, hfirst, hmiddle⟩ := h.takes_choice choice hnodup
      rw [List.map_cons, List.append_cons] at hnodup ⊢
      obtain ⟨later, hrest, hlater⟩ := ih hmiddle hnodup
      exact ⟨later, hfirst.append hrest, hlater⟩

-- Values go to the slots that are wanted, whatever stands between them.
theorem Settles.takeAll_spread (h : level.Settles top wanted given)
    (hspread : Spread choices values words)
    (hvalues : List.Forall₂ Slot.Fits wanted values)
    (hnodup : ((given ++ (wanted.zip values ++ choices.map Choice.entry)).map Prod.fst).Nodup) :
    ∃ last, level.takeAll words = .ok last ∧ last.wanted = [] ∧
      last.given.Perm (given ++ (wanted.zip values ++ choices.map Choice.entry)) := by
  induction hspread generalizing level wanted given with
  | done =>
      cases hvalues
      exact ⟨_, h, rfl, by simp⟩
  | @choice choices values words choice rest ih =>
      -- The option is given before the values that are still to come.
      have hperm : (given ++ (wanted.zip values ++ (choice :: choices).map Choice.entry)).Perm
          (given ++ choice.entry :: (wanted.zip values ++ choices.map Choice.entry)) :=
        List.perm_middle.append_left given
      have hnew := (hperm.map Prod.fst).nodup_iff.mp hnodup
      obtain ⟨middle, hfirst, hmiddle⟩ := h.takes_choice choice hnew
      rw [List.append_cons] at hnew hperm
      obtain ⟨last, htake, hwanted, hgiven⟩ := ih hmiddle hvalues hnew
      exact ⟨last, (hfirst.takeAll_append words).trans htake, hwanted, hgiven.trans hperm.symm⟩
  | @value choices values words value rest ih =>
      cases hvalues with
      | @cons slot _ wanted _ hvalue hmore =>
          rw [List.zip_cons_cons, List.cons_append] at hnodup ⊢
          obtain ⟨middle, hfirst, hmiddle⟩ :=
            h.take_value rfl (Lookup.lookup_eq_none_of_nodup hnodup) hvalue.1 hvalue.2
          rw [List.append_cons] at hnodup ⊢
          obtain ⟨last, htake, hlast⟩ := ih hmiddle hmore hnodup
          refine ⟨last, ?_, hlast⟩
          rw [takeAll, hfirst]
          exact htake

end Level

section

variable {action : Action} {front back : List Choice} {words : List String}

-- What follows a subcommand is read in whatever order it is mixed.
theorem readInner_spread (subcommand : Subcommand) {values : List String}
    (hspread : Spread back values words) (hback : (back.map Choice.setting).Nodup)
    (hvalues : List.Forall₂ Slot.Fits subcommand.wanted values) :
    ∃ inner, readInner subcommand words = .ok inner ∧
      (∀ setting, inner.value? (.option setting) = chosen? setting back) ∧
      ∀ slot value, (slot, value) ∈ subcommand.wanted.zip values →
        inner.value? slot = some value := by
  have hwanted : subcommand.wanted.Nodup ∧ ∀ setting, .option setting ∉ subcommand.wanted := by
    cases subcommand <;> simp [Subcommand.wanted]
  have hnodup : ((subcommand.wanted.zip values ++ back.map Choice.entry).map Prod.fst).Nodup := by
    rw [List.map_append, List.map_fst_zip hvalues.length_eq.le, List.nodup_append]
    refine ⟨hwanted.1, nodup_entries_iff.mpr hback, fun slot hslot other hother => ?_⟩
    obtain ⟨entry, hentry, rfl⟩ := List.mem_map.mp hother
    obtain ⟨choice, -, rfl⟩ := List.mem_map.mp hentry
    rintro rfl
    exact hwanted.2 _ hslot
  obtain ⟨inner, htake, hnone, hgiven⟩ :=
    (Level.settles_self false subcommand.wanted []).takeAll_spread hspread hvalues hnodup
  rw [List.nil_append] at hgiven
  have hlookup (slot : Slot) : inner.value? slot =
      (subcommand.wanted.zip values ++ back.map Choice.entry).lookup slot :=
    (Lookup.lookup_perm hgiven.symm hnodup slot).symm
  refine ⟨inner, ?_, fun setting => ?_, fun slot value hmem => ?_⟩
  · rw [readInner, htake]
    simp [bind, Except.bind, hnone, pure, Except.pure]
  · have hnot : (subcommand.wanted.zip values).lookup (.option setting) = none := by
      rw [List.lookup_eq_none_iff]
      intro entry hentry
      rw [bne_iff_ne]
      intro heq
      exact hwanted.2 setting (heq ▸ (List.of_mem_zip hentry).1)
    rw [hlookup, List.lookup_append, hnot, Option.none_or, lookup_entries]
  · rw [hlookup, Lookup.lookup_eq_some_iff_mem hnodup]
    exact List.mem_append_left _ hmem

theorem readArguments_subcommand {outer inner : Level} {given : List (Slot × String)}
    (h : outer.Settles true [] given) {subcommand : Subcommand} (hhelp : subcommand ≠ .help)
    (hinner : readInner subcommand words = .ok inner) :
    readArguments outer (subcommand.name :: words) =
      .ok ⟨{ top := true, wanted := [], given }, some (subcommand, inner)⟩ := by
  obtain ⟨-, -, hfree, -⟩ := h.fields
  have hsettle : outer.settle = .ok { top := true, wanted := [], given } := h
  have hname : Subcommand.ofName? subcommand.name = some subcommand := by
    cases subcommand <;> rfl
  rw [readArguments]
  simp only [h.awaitsValue, hfree, Bool.or_false, Bool.false_eq_true, if_false, hname]
  cases subcommand with
  | help => exact absurd rfl hhelp
  | generate | clean =>
      simp only [hinner, hsettle]
      rfl

-- The options before a subcommand are read first, the rest after it.
theorem readArguments_words (hfront : (front.map Choice.setting).Nodup) {subcommand : Subcommand}
    (hhelp : subcommand ≠ .help) {inner : Level} (hinner : readInner subcommand words = .ok inner) :
    readArguments .before (front.flatMap Choice.words ++ subcommand.name :: words) =
      .ok ⟨{ top := true, wanted := [], given := front.map Choice.entry },
        some (subcommand, inner)⟩ := by
  obtain ⟨outer, htakes, houter⟩ :=
    (Level.settles_self true [] []).takes_choices (nodup_entries_iff.mpr hfront)
  rw [Level.before, htakes.readArguments_append]
  exact readArguments_subcommand houter hhelp hinner

-- The option that stands for a subcommand is read among the others.
theorem readArguments_cleanOption {output : String} {before after : List Choice}
    (houtput : IsPath output) (hnodup : ((before ++ after).map Choice.setting).Nodup) :
    readArguments .before
        (before.flatMap Choice.words ++ ["--clean", output] ++ after.flatMap Choice.words) =
      .ok ⟨{ top := true, wanted := [], given := before.map Choice.entry ++
        [(.option .clean, output)] ++ after.map Choice.entry }, none⟩ := by
  have hentries := nodup_cleanOption output hnodup
  have hbefore : ((before.map Choice.entry).map Prod.fst).Nodup := by
    rw [List.map_append] at hnodup
    exact nodup_entries_iff.mpr (List.nodup_append.mp hnodup).1
  have hwords : ["--clean", output] = Setting.words .clean output false := by
    have hname : "--clean" = "--" ++ String.ofList Setting.clean.name := by decide
    rw [hname]
    rfl
  obtain ⟨first, hfirst, hsettles⟩ := (Level.settles_self true [] []).takes_choices hbefore
  obtain ⟨second, hsecond, hclean⟩ := hsettles.takes_words (fun _ => rfl)
    (Lookup.lookup_eq_none_of_nodup hentries) (by simpa [Slot.accepts] using houtput.nonempty)
    houtput.plain false
  rw [List.append_cons] at hentries
  obtain ⟨last, hlast, hall⟩ := hclean.takes_choices hentries
  have htakes := (hfirst.append (hwords ▸ hsecond)).append hlast
  have hsettle : last.settle = .ok _ := hall
  rw [← List.append_nil (_ ++ _ ++ _), Level.before, htakes.readArguments_append, readArguments,
    hsettle]
  rfl

-- Only what is said about the three settings counts.
theorem settings_eq {arguments : Arguments} {scope : Option String}
    (h : ∀ setting, setting ≠ .clean → arguments.value? (.option setting) =
      (chosen? setting back).or (chosen? setting front)) :
    arguments.settings scope = chosenSettings front back scope := by
  simp only [Arguments.settings, chosenSettings, h .scope nofun, h .headerName nofun,
    h .sourceName nofun]

theorem read_eq {arguments : Arguments} {scope : Option String}
    (hread : readArguments .before words = .ok arguments)
    (haction : arguments.action scope = .ok action)
    (hsettings : arguments.settings scope = chosenSettings front back scope) :
    read words scope = .ok ⟨action, chosenSettings front back scope⟩ := by
  rw [read, hread]
  simp only [bind, Except.bind, haction, hsettings]
  rfl

-- A line with a subcommand is read once the action is known from what follows the subcommand.
theorem read_subcommand (subcommand : Subcommand) (hhelp : subcommand ≠ .help)
    (hfront : (front.map Choice.setting).Nodup) (hback : (back.map Choice.setting).Nodup)
    {values : List String} (hspread : Spread back values words)
    (hvalues : List.Forall₂ Slot.Fits subcommand.wanted values) (scope : Option String)
    (haction : ∀ outer inner : Level, outer.value? (.option .clean) = none →
      (∀ slot value, (slot, value) ∈ subcommand.wanted.zip values →
        inner.value? slot = some value) →
      Arguments.action ⟨outer, some (subcommand, inner)⟩ scope = .ok action) :
    read (front.flatMap Choice.words ++ subcommand.name :: words) scope =
      .ok ⟨action, chosenSettings front back scope⟩ := by
  obtain ⟨inner, hinner, hchosen, hgiven⟩ := readInner_spread subcommand hspread hback hvalues
  refine read_eq (readArguments_words hfront hhelp hinner)
    (haction _ _ (lookup_entries_clean front) hgiven) (settings_eq fun setting _ => ?_)
  rw [← lookup_entries setting front, ← hchosen setting]
  rfl

theorem Asks.read_eq (h : Asks action front back words) (hfront : (front.map Choice.setting).Nodup)
    (hback : (back.map Choice.setting).Nodup) (scope : Option String) :
    read words scope = .ok ⟨action, chosenSettings front back scope⟩ := by
  cases h with
  | @generate input output words front back hinput houtput hspread =>
      refine read_subcommand .generate nofun hfront hback hspread
        (.cons (hinput.fits (.inl rfl)) (.cons (houtput.fits (.inr rfl)) .nil)) scope
        fun outer inner hclean hgiven => ?_
      rw [Arguments.action]
      simp only [hclean, hgiven .input input (by simp [Subcommand.wanted]),
        hgiven .output output (by simp [Subcommand.wanted]), Option.getD_some]
  | @clean output words front back houtput hspread =>
      refine read_subcommand .clean nofun hfront hback hspread
        (.cons (houtput.fits (.inr rfl)) .nil) scope fun outer inner hclean hgiven => ?_
      rw [Arguments.action]
      simp only [hclean, hgiven .output output (by simp [Subcommand.wanted]), Option.getD_some]
  | @cleanOption output before after houtput =>
      refine Command.read_eq (readArguments_cleanOption houtput hfront) ?_
        (settings_eq fun setting hshared => ?_)
      · have hclean := lookup_cleanOption .clean before after output
        rw [if_pos rfl] at hclean
        rw [Arguments.action]
        simp only [Level.value?, hclean]
      · refine (lookup_cleanOption setting before after output).trans ?_
        rw [if_neg hshared]
        rfl

-- Whatever the places of the options, the action is the one that is asked for. What is said after
-- a subcommand counts more than what is said before it, and a line that says the same is read
-- alike, be its options elsewhere or its action asked for by an option.
theorem read_asked (h : Asks action front back words) (hfront : (front.map Choice.setting).Nodup)
    (hback : (back.map Choice.setting).Nodup) (scope : Option String) :
    read words scope = .ok ⟨action, chosenSettings front back scope⟩ ∧
      ∀ otherFront otherBack others, Asks action otherFront otherBack others →
        ((front ++ back).map Choice.setting).Nodup →
        ((front ++ back).map Choice.entry).Perm ((otherFront ++ otherBack).map Choice.entry) →
        read others scope = read words scope := by
  refine ⟨h.read_eq hfront hback scope, fun otherFront otherBack others hothers hnodup hperm => ?_⟩
  have hsame := nodup_settings_of_perm hperm hnodup
  rw [List.map_append, List.nodup_append] at hsame
  rw [h.read_eq hfront hback, hothers.read_eq hsame.1 hsame.2.1,
    chosenSettings_perm hperm hnodup]

theorem read_asked_mixed :
    read ["--namespace", "a", "generate", "--header-name=x.h", "in.xml", "--namespace=", "out"]
        (some "env") =
      .ok ⟨.generate "in.xml" "out", { scope := "", headerName := "x.h" }⟩ ∧
    read ["--namespace", "a", "clean", "--header-name=x.h", "out"] none =
      .ok ⟨.clean "out", { scope := "a", headerName := "x.h" }⟩ ∧
    read ["--header-name", "x.h", "--clean", "out", "--namespace=a"] none =
      read ["--namespace", "a", "clean", "--header-name=x.h", "out"] none := by
  have hgenerate : Asks (.generate "in.xml" "out")
      [{ setting := .scope, value := "a", joined := false }]
      [{ setting := .headerName, value := "x.h", joined := true },
        { setting := .scope, value := "", joined := true }]
      ["--namespace", "a", "generate", "--header-name=x.h", "in.xml", "--namespace=", "out"] :=
    .generate _ _ ⟨by decide, by decide⟩ ⟨by decide, by decide⟩
      (.choice _ (.value _ (.choice _ (.value _ .done))))
  have hclean : Asks (.clean "out") [{ setting := .scope, value := "a", joined := false }]
      [{ setting := .headerName, value := "x.h", joined := true }]
      ["--namespace", "a", "clean", "--header-name=x.h", "out"] :=
    .clean _ _ ⟨by decide, by decide⟩ (.choice _ (.value _ .done))
  have hoption : Asks (.clean "out")
      ([{ setting := .headerName, value := "x.h", joined := false }] ++
        [{ setting := .scope, value := "a", joined := true }]) []
      ["--header-name", "x.h", "--clean", "out", "--namespace=a"] :=
    .cleanOption _ _ ⟨by decide, by decide⟩
  exact ⟨(read_asked hgenerate (by simp) (by simp) (some "env")).1,
    (read_asked hclean (by simp) (by simp) none).1,
    (read_asked hclean (by simp) (by simp) none).2 _ _ _ hoption (by simp) (.swap _ _ _)⟩

end

end EffectTables.Command
