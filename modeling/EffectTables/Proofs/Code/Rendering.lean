import EffectTables.Code.Enumeration
import EffectTables.Code.Switch
import EffectTables.Proofs.Code.Literal
import EffectTables.Proofs.Text.Decimal
import EffectTables.Proofs.Text.Lines

namespace EffectTables

namespace Symbol

theorem continues_of_starts {c : Char} (h : startsIdentifier c) : continuesIdentifier c := by
  simp only [startsIdentifier, continuesIdentifier, Char.isAlphanum, Bool.or_eq_true] at h ⊢
  exact h.imp_left .inl

theorem not_starts_of_isDigit {c : Char} (h : c.isDigit) : startsIdentifier c = false := by
  have hall : ∀ n < 58, 48 ≤ n → startsIdentifier (Char.ofNat n) = false := by decide
  have hzero : '0'.toNat = 48 := by decide
  have hnine : '9'.toNat = 57 := by decide
  have hbounds := Char.isDigit_iff_toNat.mp h
  rw [← Char.ofNat_toNat c]
  exact hall c.toNat (by omega) (by omega)

theorem isIdentifier_iff {text : String} :
    isIdentifier text ↔
      (∃ c ∈ text.toList.head?, startsIdentifier c) ∧ text.toList.all continuesIdentifier := by
  unfold isIdentifier
  cases text.toList with
  | nil => simp
  | cons c rest =>
      simp only [Bool.and_eq_true, List.head?_cons, Option.mem_some, List.all_cons]
      constructor
      · intro h
        exact ⟨⟨c, rfl, h.1⟩, continues_of_starts h.1, h.2⟩
      · intro h
        obtain ⟨⟨_, rfl, hstart⟩, -, hrest⟩ := h
        exact ⟨hstart, hrest⟩

-- What continues an identifier may be put behind it.
theorem isIdentifier_append {text tail : String} (h : isIdentifier text)
    (htail : tail.toList.all continuesIdentifier) : isIdentifier (text ++ tail) := by
  rw [isIdentifier_iff] at h ⊢
  obtain ⟨⟨c, hc, hstart⟩, hall⟩ := h
  rw [String.toList_append, List.all_append, hall, htail]
  exact ⟨⟨c, List.mem_head?_append_of_mem_head? hc, hstart⟩, rfl⟩

theorem not_mem_of_isIdentifier {text : String} (h : isIdentifier text) {c : Char}
    (hc : continuesIdentifier c = false) : c ∉ text.toList := by
  intro hmem
  have hall := List.all_eq_true.mp (isIdentifier_iff.mp h).2 c hmem
  rw [hc] at hall
  cases hall

end Symbol

namespace Code

open Text (Delimited Ends)

-- Names in a label or in a value are identifiers.
def Label.Sound : Label → Prop
  | symbol name => Symbol.isIdentifier name
  | index _ => True

def Value.Sound : Value → Prop
  | symbol name => Symbol.isIdentifier name
  | text _ | number _ => True
  | parameterName function enumeration =>
      Symbol.isIdentifier function ∧ Symbol.isIdentifier enumeration

def Case.Sound (case : Case) : Prop := case.label.Sound ∧ case.value.Sound

def Switch.Sound (switch : Switch) : Prop :=
  switch.fallback.Sound ∧ ∀ case ∈ switch.cases, case.Sound

instance (label : Label) : Decidable label.Sound :=
  match label with
  | .symbol name => inferInstanceAs (Decidable (Symbol.isIdentifier name))
  | .index _ => inferInstanceAs (Decidable True)

instance (value : Value) : Decidable value.Sound :=
  match value with
  | .symbol name => inferInstanceAs (Decidable (Symbol.isIdentifier name))
  | .text _ => inferInstanceAs (Decidable True)
  | .number _ => inferInstanceAs (Decidable True)
  | .parameterName function enumeration =>
      inferInstanceAs
        (Decidable (Symbol.isIdentifier function ∧ Symbol.isIdentifier enumeration))

instance (case : Case) : Decidable case.Sound := inferInstanceAs (Decidable (_ ∧ _))

namespace Value

-- The form of a value.
inductive Form where
  | symbol
  | text
  | number
  | parameterName
  deriving DecidableEq

def form : Value → Form
  | symbol _ => .symbol
  | text _ => .text
  | number _ => .number
  | parameterName .. => .parameterName

-- The form of the value with the code. Its first character tells literals, numbers and names
-- apart, a parenthesis tells the names.
def formOf (code : String) : Form :=
  match code.toList.head? with
  | none => .number
  | some c =>
      if c = '\x22' then .text
      else if !Symbol.startsIdentifier c then .number
      else if '(' ∈ code.toList then .parameterName
      else .symbol

theorem formOf_number {code : String} {c : Char} (hc : code.toList.head? = some c)
    (h : c = '-' ∨ c.isDigit) : formOf code = .number := by
  have hquote : c ≠ '\x22' := by
    rintro rfl
    exact absurd h (by decide)
  have hstart : Symbol.startsIdentifier c = false := by
    rcases h with rfl | h
    · decide
    · exact Symbol.not_starts_of_isDigit h
  rw [formOf, hc]
  simp only [if_neg hquote, hstart, Bool.not_false, if_pos]

theorem formOf_name {code : String} {c : Char} (hc : code.toList.head? = some c)
    (h : Symbol.startsIdentifier c) :
    formOf code = if '(' ∈ code.toList then .parameterName else .symbol := by
  have hquote : c ≠ '\x22' := by
    rintro rfl
    exact absurd h (by decide)
  rw [formOf, hc]
  simp [hquote, h]

theorem formOf_code {value : Value} (h : value.Sound) : formOf value.code = value.form := by
  cases value with
  | symbol name =>
      obtain ⟨⟨c, hc, hstart⟩, -⟩ := Symbol.isIdentifier_iff.mp h
      have hplain : '(' ∉ name.toList := Symbol.not_mem_of_isIdentifier h (by decide)
      rw [code, formOf_name hc hstart, if_neg hplain, form]
  | text content =>
      rw [code, Literal.quote, formOf, String.toList_ofList]
      rfl
  | number value =>
      obtain ⟨c, hc, hstart⟩ := Text.Decimal.exists_head?_write value
      exact formOf_number hc hstart
  | parameterName function enumeration =>
      obtain ⟨⟨c, hc, hstart⟩, -⟩ := Symbol.isIdentifier_iff.mp h.1
      have hhead : (parameterName function enumeration).code.toList.head? = some c := by
        simp only [code, String.toList_append, List.append_assoc]
        exact List.mem_head?_append_of_mem_head? hc
      have hopen : '(' ∈ (parameterName function enumeration).code.toList := by
        simp [code]
      rw [formOf_name hhead hstart, if_pos hopen, form]

-- No two sound values have one code.
theorem code_inj {value other : Value} (hvalue : value.Sound) (hother : other.Sound)
    (h : value.code = other.code) : value = other := by
  have hform : value.form = other.form := by
    rw [← formOf_code hvalue, ← formOf_code hother, h]
  cases value <;> cases other <;> cases hform
  case symbol.symbol => exact congrArg symbol h
  case text.text => exact congrArg text (Literal.quote_injective h)
  case number.number => exact congrArg number (Text.Decimal.write_injective h)
  case parameterName.parameterName function enumeration one another =>
    have hopen : "(static_cast<".toList = '(' :: "static_cast<".toList := by decide
    have hchars := congrArg String.toList h
    simp only [code, hopen, String.toList_append, List.append_assoc, List.cons_append] at hchars
    have hfirst := Symbol.not_mem_of_isIdentifier hvalue.1 (c := '(') (by decide)
    have hsecond := Symbol.not_mem_of_isIdentifier hother.1 (c := '(') (by decide)
    obtain ⟨hfunction, hrest⟩ := Text.eq_of_append_mark hfirst hsecond hchars
    have henumeration := List.append_cancel_right (List.append_cancel_left hrest)
    rw [String.toList_injective hfunction, String.toList_injective henumeration]

end Value

-- A label is written as the value of its kind.
def Label.value : Label → Value
  | symbol name => .symbol name
  | index value => .number value

theorem Label.code_inj {label other : Label} (hlabel : label.Sound) (hother : other.Sound)
    (h : label.code = other.code) : label = other := by
  have hvalue : label.value = other.value := by
    apply Value.code_inj
    · cases label <;> exact hlabel
    · cases other <;> exact hother
    · cases label <;> cases other <;> exact h
  cases label <;> cases other <;> cases hvalue <;> rfl

-- None of the codes has a line break in it.
theorem Value.newline_not_mem_code {value : Value} (h : value.Sound) :
    '\n' ∉ value.code.toList := by
  have hname : ∀ {name : String}, Symbol.isIdentifier name → '\n' ∉ name.toList :=
    fun hname => Symbol.not_mem_of_isIdentifier hname (by decide)
  cases value with
  | symbol name => exact hname h
  | text content => exact Literal.newline_not_mem_quote content
  | number value => exact Text.Decimal.newline_not_mem_write value
  | parameterName function enumeration => simp [code, hname h.1, hname h.2]

theorem Label.newline_not_mem_code {label : Label} (h : label.Sound) :
    '\n' ∉ label.code.toList := by
  cases label with
  | symbol name => exact Symbol.not_mem_of_isIdentifier h (by decide)
  | index value => exact Text.Decimal.newline_not_mem_write value

namespace Case

theorem delimited_lines : Delimited Sound lines := by
  intro case other hcase hother rest tail h
  simp only [lines, List.cons_append, List.nil_append, List.cons.injEq, String.append_left_inj,
    String.append_right_inj] at h
  obtain ⟨hlabel, hvalue, hrest⟩ := h
  cases case
  cases other
  rw [mk.injEq]
  exact ⟨⟨Label.code_inj hcase.1 hother.1 hlabel, Value.code_inj hcase.2 hother.2 hvalue⟩, hrest⟩

-- A line that is too short for it begins no case.
theorem ends_lines {line : String} (h : line.length < 9) (rest : List String) :
    Ends Sound lines (line :: rest) := by
  intro case _ tail heq
  rw [lines, List.cons_append, List.cons.injEq] at heq
  have hframe : "    case ".length = 9 := by decide
  rw [heq.1, String.length_append, String.length_append, hframe] at h
  omega

theorem newline_not_mem_lines {case : Case} (h : case.Sound) :
    ∀ line ∈ case.lines, '\n' ∉ line.toList := by
  have hlabel := Label.newline_not_mem_code h.1
  have hvalue := Value.newline_not_mem_code h.2
  simp [lines, hlabel, hvalue]

end Case

namespace Switch

-- The lines of a function.
def lines (switch : Switch) (signature : String) : List String :=
  [signature ++ " \x7b", "  switch (" ++ switch.subject ++ ") \x7b", "    default:",
      "      break;"] ++
    switch.cases.flatMap Case.lines ++
    ["  \x7d", "  return " ++ switch.fallback.code ++ ";", "\x7d"]

theorem lines_definition {switch : Switch} {signature : String} (h : switch.Sound)
    (hsignature : '\n' ∉ signature.toList) (hsubject : '\n' ∉ switch.subject.toList) :
    Text.lines (switch.definition signature) = switch.lines signature := by
  have hcases : ∀ line ∈ switch.cases.flatMap Case.lines, '\n' ∉ line.toList := by
    intro line hline
    obtain ⟨case, hcase, hline⟩ := List.mem_flatMap.mp hline
    exact Case.newline_not_mem_lines (h.2 case hcase) line hline
  have hfallback := Value.newline_not_mem_code h.1
  refine Text.lines_intercalate_lines (by simp) ?_
  simp only [List.forall_mem_append]
  refine ⟨⟨?_, hcases⟩, ?_⟩
  · simp [hsignature, hsubject]
  · simp [hfallback]

-- A function is known from its lines, and these show by themselves where they end.
theorem delimited_lines :
    Delimited (fun function : String × Switch => function.2.Sound)
      fun function => function.2.lines function.1 := by
  intro ⟨signature, switch⟩ ⟨sign, other⟩ hswitch hother rest tail h
  simp only [lines, List.cons_append, List.nil_append, List.append_assoc, List.cons.injEq,
    String.append_left_inj, String.append_right_inj, true_and] at h
  obtain ⟨hsignature, hsubject, hbody⟩ := h
  have hshort : "  \x7d".length < 9 := by decide
  obtain ⟨hcases, hreturn⟩ := Case.delimited_lines.flatMap hswitch.2 hother.2
    (Case.ends_lines hshort _) (Case.ends_lines hshort _) hbody
  simp only [List.cons.injEq, String.append_left_inj, String.append_right_inj, true_and] at hreturn
  obtain ⟨hfallback, hrest⟩ := hreturn
  have hvalue := Value.code_inj hswitch.1 hother.1 hfallback
  cases switch
  cases other
  cases hsignature
  cases hsubject
  cases hcases
  cases hvalue
  exact ⟨rfl, hrest⟩

end Switch

-- The names of enumerators are identifiers.
def Enumerator.Sound (enumerator : Enumerator) : Prop := Symbol.isIdentifier enumerator.name

namespace Enumeration

def Sound (enumeration : Enumeration) : Prop :=
  ∀ enumerator ∈ enumeration.enumerators, enumerator.Sound

-- Every line of the body is an enumerator, with or without a comma behind it.
theorem exists_of_mem_body {enumerators : List Enumerator} {line : String}
    (h : line ∈ body enumerators) :
    ∃ enumerator ∈ enumerators, line = enumerator.text ∨ line = enumerator.text ++ "," := by
  induction enumerators using body.induct with
  | case1 => cases h
  | case2 last =>
      rw [body, List.mem_singleton] at h
      exact ⟨last, List.mem_cons_self, .inl h⟩
  | case3 enumerator rest hne ih =>
      rw [body, List.mem_cons] at h
      · rcases h with rfl | h
        · exact ⟨enumerator, List.mem_cons_self, .inr rfl⟩
        · obtain ⟨other, hother, hline⟩ := ih h
          exact ⟨other, List.mem_cons_of_mem _ hother, hline⟩
      · exact hne

-- The line of an enumerator is longer than the last line.
theorem end_not_mem_body (enumerators : List Enumerator) : "\x7d;" ∉ body enumerators := by
  intro hmem
  obtain ⟨enumerator, -, hline⟩ := exists_of_mem_body hmem
  have hindent : "  ".length = 2 := by decide
  have hequals : " = ".length = 3 := by decide
  have hend : "\x7d;".length = 2 := by decide
  rcases hline with hline | hline
  all_goals
    have hlength := congrArg String.length hline
    simp only [Enumerator.text, String.length_append, hindent, hequals, hend] at hlength
    omega

theorem length_body (enumerators : List Enumerator) :
    (body enumerators).length = enumerators.length := by
  induction enumerators using body.induct with
  | case1 => rfl
  | case2 last => rfl
  | case3 enumerator rest hne ih =>
      rw [body, List.length_cons, List.length_cons, ih]
      exact hne

-- The lines of a declaration.
def lines (enumeration : Enumeration) : List String :=
  ("enum " ++ enumeration.name ++ " \x7b") :: body enumeration.enumerators ++ ["\x7d;"]

theorem lines_text {enumeration : Enumeration} (h : enumeration.Sound)
    (hname : '\n' ∉ enumeration.name.toList) :
    Text.lines enumeration.text = enumeration.lines := by
  refine Text.lines_intercalate_lines (by simp) ?_
  simp only [List.forall_mem_append, List.forall_mem_cons]
  refine ⟨⟨?_, ?_⟩, by simp⟩
  · simp [hname]
  · intro line hline
    obtain ⟨enumerator, hmem, hline⟩ := exists_of_mem_body hline
    have hplain := Symbol.not_mem_of_isIdentifier (h enumerator hmem) (c := '\n') (by decide)
    have hvalue := Text.Decimal.newline_not_mem_write enumerator.value
    rcases hline with rfl | rfl <;> simp [Enumerator.text, hplain, hvalue]

end Enumeration

end Code

end EffectTables
