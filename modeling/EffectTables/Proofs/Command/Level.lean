import EffectTables.Command.Line
import EffectTables.Proofs.Lookup
import EffectTables.Proofs.Outcome
import EffectTables.Proofs.Text.Delimited
import Mathlib.Data.List.TakeWhile

namespace EffectTables.Command

-- A text that is not taken for an option.
def Plain (text : String) : Prop := text.toList.head? ≠ some '-'

instance (text : String) : Decidable (Plain text) := inferInstanceAs (Decidable (_ ≠ _))

-- The words for an option with its value: one with an equals sign in it, or two.
def Setting.words (setting : Setting) (value : String) (joined : Bool) : List String :=
  let option := "--" ++ String.ofList setting.name
  if joined then [option ++ "=" ++ value] else [option, value]

-- No subcommand is called as an option.
theorem Subcommand.ofName?_dash {text : String} (h : text.toList.head? = some '-') :
    ofName? text = none := by
  rw [ofName?, List.find?_eq_none]
  intro subcommand _ hname
  rw [← eq_of_beq hname] at h
  cases subcommand <;> simp [name] at h

namespace Level

-- The level takes the words one after another, none of them for a subcommand.
inductive Takes : Level → List String → Level → Prop
  | done (level : Level) : Takes level [] level
  | next {level middle later : Level} {word : String} {words : List String}
      (word_plain : level.awaitsValue ∨ Subcommand.ofName? word = none)
      (take : level.take word = .ok middle) (rest : Takes middle words later) :
      Takes level (word :: words) later

variable {level later : Level} {words : List String}

namespace Takes

theorem append {more : List String} {last : Level} (h : Takes level words later)
    (hmore : Takes later more last) : Takes level (words ++ more) last := by
  induction h with
  | done => exact hmore
  | next hword htake _ ih => exact .next hword htake (ih hmore)

theorem takeAll_append (h : Takes level words later) (rest : List String) :
    level.takeAll (words ++ rest) = later.takeAll rest := by
  induction h with
  | done => rfl
  | next _ htake _ ih =>
      rw [List.cons_append, takeAll, htake]
      exact ih

theorem readArguments_append (h : Takes level words later) (rest : List String) :
    readArguments level (words ++ rest) = readArguments later rest := by
  induction h with
  | done => rfl
  | @next level _ _ word words hword htake _ ih =>
      have hnone : (if level.awaitsValue || level.onlyValues then none
          else Subcommand.ofName? word) = none := by
        split
        next => rfl
        next hneither =>
          rw [Bool.or_eq_true, not_or] at hneither
          exact hword.resolve_left hneither.1
      rw [List.cons_append, readArguments]
      simp only [hnone, htake]
      exact ih

end Takes

variable {top : Bool} {wanted : List Slot} {given : List (Slot × String)} {setting : Setting}
  {slot : Slot} {value : String}

-- What a level has been given so far, the slot that came last included. All of it is in order.
def Settles (level : Level) (top : Bool) (wanted : List Slot) (given : List (Slot × String)) :
    Prop :=
  level.settle = .ok { top, wanted, given }

theorem settles_self (top : Bool) (wanted : List Slot) (given : List (Slot × String)) :
    Settles { top, wanted, given } top wanted given := rfl

theorem give_eq (hnew : given.lookup slot = none) (haccepts : slot.accepts value) :
    ({ top, wanted, given } : Level).give slot value =
      .ok { top, wanted, given := given ++ [(slot, value)] } := by
  simp [give, value?, hnew, haccepts]

-- A value that came last counts as soon as something else comes.
theorem settles_waiting (hnew : given.lookup slot = none) (haccepts : slot.accepts value) :
    Settles { top, wanted, given, waiting := some (slot, some value) } top wanted
      (given ++ [(slot, value)]) :=
  give_eq hnew haccepts

theorem Settles.fields (h : level.Settles top wanted given) :
    level.top = top ∧ level.wanted = wanted ∧ level.onlyValues = false ∧
      ∀ slot, level.waiting ≠ some (slot, none) := by
  obtain ⟨_, _, _, waiting, _⟩ := level
  rcases waiting with _ | ⟨slot, _ | value⟩
  · cases h
    exact ⟨rfl, rfl, rfl, nofun⟩
  · cases h
  · simp only [Settles, settle, give] at h
    split_ifs at h
    cases h
    exact ⟨rfl, rfl, rfl, nofun⟩

theorem Settles.awaitsValue (h : level.Settles top wanted given) : level.awaitsValue = false := by
  obtain ⟨-, -, -, hwaiting⟩ := h.fields
  rw [Level.awaitsValue]
  split
  next slot hslot => exact absurd hslot (hwaiting slot)
  next => rfl

-- An option that is spelled out is read at its first equals sign.
theorem take_dashes (hfree : level.onlyValues = false) (setting : Setting) (text : String) :
    level.take ("--" ++ String.ofList setting.name ++ text) =
      level.takeLong ((setting.name ++ text.toList).takeWhile (· != '='))
        (match (setting.name ++ text.toList).dropWhile (· != '=') with
          | [] => none
          | _ :: value => some (String.ofList value)) := by
  have hname : ∃ c rest, setting.name = c :: rest := by
    cases setting <;> exact ⟨_, _, rfl⟩
  obtain ⟨c, rest, hname⟩ := hname
  have hchars : ("--" ++ String.ofList setting.name ++ text).toList =
      '-' :: '-' :: c :: (rest ++ text.toList) := by
    simp [hname]
  rw [take, hfree, hchars, hname]
  rfl

theorem ne_equals_of_mem_name : ∀ c ∈ setting.name, (c != '=') = true := by
  have hall : setting.name.all (· != '=') = true := by
    cases setting <;> decide
  exact List.all_eq_true.mp hall

-- Every option but the one of the top level is found by its name at both levels.
theorem find?_settings (h : setting = .clean → level.top = true) :
    level.settings.find? (·.name == setting.name) = some setting := by
  rw [settings]
  cases htop : level.top with
  | true => cases setting <;> rfl
  | false =>
      cases setting with
      | clean => cases htop.symm.trans (h rfl)
      | scope => rfl
      | headerName => rfl
      | sourceName => rfl

theorem takeLong_name (h : setting = .clean → level.top = true) (value : Option String) :
    level.takeLong setting.name value = do
      let level ← level.settle
      match value with
      | some value => level.give (.option setting) value
      | none => return { level with waiting := some (.option setting, none) } := by
  rewrite [takeLong, find?_settings h]
  rfl

theorem take_plain (hfree : level.onlyValues = false) (hplain : Plain value) :
    level.take value =
      match level.waiting with
      | some (slot, none) => .ok { level with waiting := some (slot, some value) }
      | _ => level.takePlain value := by
  rewrite [take, hfree, if_neg Bool.false_ne_true]
  split
  next hdashes => exact absurd (congrArg List.head? hdashes) hplain
  next hlong => exact absurd (congrArg List.head? hlong) hplain
  next hshort => exact absurd (congrArg List.head? hshort) hplain
  next => rfl

section

variable (h : level.Settles top wanted given)
include h

-- An option and its value are taken, written either way.
theorem Settles.takes_words (hallowed : setting = .clean → top = true)
    (hnew : given.lookup (.option setting) = none) (haccepts : (Slot.option setting).accepts value)
    (hplain : Plain value) (joined : Bool) :
    ∃ later, Takes level (setting.words value joined) later ∧
      later.Settles top wanted (given ++ [(.option setting, value)]) := by
  obtain ⟨rfl, -, hfree, -⟩ := h.fields
  have hdash (text : String) :
      Subcommand.ofName? ("--" ++ String.ofList setting.name ++ text) = none :=
    Subcommand.ofName?_dash (by simp)
  have hsettle : level.settle = .ok { top := level.top, wanted, given } := h
  cases joined with
  | true =>
      refine ⟨{ top := level.top, wanted, given := given ++ [(.option setting, value)] },
        .next (.inr ?_) ?_ (.done _), settles_self _ _ _⟩
      · rw [String.append_assoc]
        exact hdash _
      · have htext : ("=" ++ value).toList = '=' :: value.toList := by simp
        rw [String.append_assoc, take_dashes hfree, htext,
          Text.takeWhile_append_mark ne_equals_of_mem_name (by decide),
          Text.dropWhile_append_mark ne_equals_of_mem_name (by decide),
          takeLong_name hallowed, hsettle]
        simp only [String.ofList_toList]
        exact give_eq hnew haccepts
  | false =>
      have hoption := hdash ""
      have htake := take_dashes hfree setting ""
      rw [String.append_empty] at hoption htake
      rw [String.toList_empty, List.append_nil,
        List.takeWhile_eq_self_iff.mpr ne_equals_of_mem_name,
        List.dropWhile_eq_nil_iff.mpr ne_equals_of_mem_name, takeLong_name hallowed, hsettle]
        at htake
      refine ⟨_, .next (.inr hoption) htake
        (.next (.inl rfl) (take_plain rfl hplain) (.done _)), ?_⟩
      exact settles_waiting hnew haccepts

-- A value without an option is taken for the slot that is wanted next.
theorem Settles.take_value {rest : List Slot} (hwanted : wanted = slot :: rest)
    (hnew : given.lookup slot = none) (haccepts : slot.accepts value) (hplain : Plain value) :
    ∃ later, level.take value = .ok later ∧
      later.Settles top rest (given ++ [(slot, value)]) := by
  subst hwanted
  obtain ⟨rfl, hwanted, hfree, hwaiting⟩ := h.fields
  have hsettle : level.settle = .ok { top := level.top, wanted := slot :: rest, given } := h
  refine ⟨{ top := level.top, wanted := rest, given, waiting := some (slot, some value) }, ?_,
    settles_waiting hnew haccepts⟩
  have htake : level.take value = level.takePlain value := by
    rw [take_plain hfree hplain]
    split
    next other hother => exact absurd hother (hwaiting other)
    next => rfl
  rw [htake, takePlain, hwanted, hsettle]
  rfl

end

end Level

end EffectTables.Command
