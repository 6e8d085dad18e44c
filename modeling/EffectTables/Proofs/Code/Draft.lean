import EffectTables.Proofs.Code.Rendering

namespace EffectTables.Code

namespace Switch

-- The switch once some cases are pushed into it, one after another.
def pushAll (switch : Switch) (cases : List Case) : Switch :=
  cases.foldl (fun switch case => switch.push case.label case.value) switch

-- The new cases stand behind the old ones as they came, repeated labels and all, and nothing else
-- changes.
theorem pushAll_eq (switch : Switch) (cases : List Case) :
    switch.pushAll cases = { switch with cases := switch.cases ++ cases } := by
  induction cases generalizing switch with
  | nil =>
      rw [List.append_nil]
      rfl
  | cons case rest ih =>
      have hstep : switch.pushAll (case :: rest) =
          (switch.push case.label case.value).pushAll rest := rfl
      rw [hstep, ih, push, List.append_assoc, List.singleton_append]

end Switch

-- How a function comes about: what it begins with, and the cases that are pushed after that.
structure Draft where
  signature : String
  subject : String
  fallback : Value
  pushed : List Case := []

namespace Draft

def switch (draft : Draft) : Switch :=
  Switch.pushAll { subject := draft.subject, fallback := draft.fallback } draft.pushed

def definition (draft : Draft) : String := draft.switch.definition draft.signature

-- What is written as it stands keeps to its line, and names are identifiers. Texts and numbers may
-- be any.
structure Sound (draft : Draft) : Prop where
  signature : '\n' ∉ draft.signature.toList
  subject : '\n' ∉ draft.subject.toList
  fallback : draft.fallback.Sound
  pushed : ∀ case ∈ draft.pushed, case.Sound

instance (draft : Draft) : Decidable draft.Sound :=
  decidable_of_iff
    ('\n' ∉ draft.signature.toList ∧ '\n' ∉ draft.subject.toList ∧ draft.fallback.Sound ∧
      ∀ case ∈ draft.pushed, case.Sound)
    ⟨fun h => ⟨h.1, h.2.1, h.2.2.1, h.2.2.2⟩,
      fun h => ⟨h.signature, h.subject, h.fallback, h.pushed⟩⟩

theorem switch_eq (draft : Draft) :
    draft.switch = ⟨draft.subject, draft.fallback, draft.pushed⟩ := by
  rw [switch, Switch.pushAll_eq, List.nil_append]

variable {draft other : Draft}

theorem Sound.switch (h : draft.Sound) : draft.switch.Sound := by
  rw [switch_eq]
  exact ⟨h.fallback, h.pushed⟩

theorem Sound.lines_definition (h : draft.Sound) :
    Text.lines draft.definition = draft.switch.lines draft.signature := by
  have hsubject : '\n' ∉ draft.switch.subject.toList := by
    rw [switch_eq]
    exact h.subject
  exact Switch.lines_definition h.switch h.signature hsubject

-- The text of a function tells all that it was made of, and it ends where the text shows it,
-- whatever lines follow.
theorem definition_append_inj (hdraft : draft.Sound) (hother : other.Sound) {rest tail : String}
    (h : draft.definition ++ "\n" ++ rest = other.definition ++ "\n" ++ tail) :
    draft.signature = other.signature ∧ draft.switch = other.switch ∧ rest = tail := by
  have hlines := congrArg Text.lines h
  rw [Text.lines_append, Text.lines_append, hdraft.lines_definition, hother.lines_definition]
    at hlines
  have hcut : (draft.signature, draft.switch) = (other.signature, other.switch) ∧
      Text.lines rest = Text.lines tail :=
    Switch.delimited_lines hdraft.switch hother.switch hlines
  obtain ⟨hsignature, hswitch⟩ := Prod.mk.inj hcut.1
  exact ⟨hsignature, hswitch, Text.lines_injective hcut.2⟩

-- Two functions have one text only if they have one signature and one switch, for which the same
-- cases were pushed in the same order.
theorem definition_eq_iff (hdraft : draft.Sound) (hother : other.Sound) :
    draft.definition = other.definition ↔
      draft.signature = other.signature ∧ draft.switch = other.switch ∧
        draft.pushed = other.pushed := by
  constructor
  · intro h
    have hfollowed : draft.definition ++ "\n" ++ "" = other.definition ++ "\n" ++ "" := by rw [h]
    obtain ⟨hsignature, hswitch, -⟩ := definition_append_inj hdraft hother hfollowed
    have hpushed := congrArg Switch.cases hswitch
    rw [switch_eq, switch_eq] at hpushed
    exact ⟨hsignature, hswitch, hpushed⟩
  · rintro ⟨hsignature, hswitch, -⟩
    rw [definition, definition, hsignature, hswitch]

-- A text that spells out the end of its literal and one more case for its label, beside a function
-- that has the two cases.
def oneForged : Draft where
  signature := "const char* GetAmpName(int index)"
  subject := "index"
  fallback := .text ""
  pushed := [⟨.index 1, .text "Plexi\x22;\n    case 1:\n      return \x22Recto"⟩]

def twoPushed : Draft :=
  { oneForged with pushed := [⟨.index 1, .text "Plexi"⟩, ⟨.index 1, .text "Recto"⟩] }

theorem definition_ne_oneForged :
    oneForged.Sound ∧ twoPushed.Sound ∧ oneForged.definition ≠ twoPushed.definition := by
  have hforged : oneForged.Sound := by decide
  have hpushed : twoPushed.Sound := by decide
  refine ⟨hforged, hpushed, fun h => ?_⟩
  obtain ⟨-, -, hcases⟩ := (definition_eq_iff hforged hpushed).mp h
  exact absurd hcases (by decide)

-- A name that is no identifier can pass for a text.
example :
    (⟨"const char* F(int index)", "index", .symbol "\x22\x22", []⟩ : Draft).definition =
      (⟨"const char* F(int index)", "index", .text "", []⟩ : Draft).definition := by decide

end Draft

end EffectTables.Code
