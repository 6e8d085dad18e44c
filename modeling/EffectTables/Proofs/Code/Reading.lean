import EffectTables.Code.Tables
import EffectTables.Proofs.Code.Rendering
import EffectTables.Proofs.Code.Unquoting

namespace EffectTables.Code

-- How a compiler reads the code, line by line. The readers know the language and nothing of the
-- texts that are written here: names are told from the characters around them.

-- A decimal number. Zeros in front would make it an octal one.
def readNumber? (code : String) : Option Int32 :=
  (Text.Decimal.read? code).filter (Text.Decimal.write · == code)

theorem readNumber?_write (v : Int32) : readNumber? (Text.Decimal.write v) = some v := by
  rw [readNumber?, Text.Decimal.read?_write, Option.filter_some, beq_self_eq_true, if_pos rfl]

namespace Value

-- A call with the parameter of the caller cast to an enumeration.
def readCall? (code : String) : Option Value := do
  let (function, rest) ← Text.cut? '(' code.toList
  let enumeration ← Text.framed? "static_cast<" ">(param_id))" (String.ofList rest)
  return .parameterName (String.ofList function) enumeration

def readText? (code : String) : Option Value :=
  match Literal.read code.toList with
  | some (content, []) => some (.text content)
  | _ => none

def readAs? (code : String) : Form → Option Value
  | .symbol => some (.symbol code)
  | .text => readText? code
  | .number => (readNumber? code).map .number
  | .parameterName => readCall? code

-- All names in a value have to be identifiers.
def read? (code : String) : Option Value :=
  (readAs? code (formOf code)).filter fun value => value.Sound

theorem readText?_quote (content : String) :
    readText? (Literal.quote content) = some (.text content) := by
  have hread := Literal.read_quote_append content []
  rw [List.append_nil] at hread
  rw [readText?, hread]

theorem readCall?_code {function enumeration : String} (h : Symbol.isIdentifier function) :
    readCall? (parameterName function enumeration).code =
      some (.parameterName function enumeration) := by
  have hopen : "(static_cast<".toList = '(' :: "static_cast<".toList := by decide
  have hcode : (parameterName function enumeration).code.toList =
      function.toList ++ '(' :: ("static_cast<" ++ enumeration ++ ">(param_id))").toList := by
    simp only [code, String.toList_append, hopen, List.append_assoc, List.cons_append]
  have hfunction : '(' ∉ function.toList := Symbol.not_mem_of_isIdentifier h (by decide)
  rw [readCall?, hcode, Text.cut?_append hfunction]
  simp only [bind, Option.bind_some, String.ofList_toList, Text.framed?_append, pure]

theorem read?_code {value : Value} (h : value.Sound) : read? value.code = some value := by
  have hread : readAs? value.code value.form = some value := by
    cases value with
    | symbol name => rfl
    | text content => exact readText?_quote content
    | number value => rw [form, code, readAs?, readNumber?_write, Option.map_some]
    | parameterName function enumeration => exact readCall?_code h.1
  rw [read?, formOf_code h, hread, Option.filter_some, decide_eq_true h, if_pos rfl]

end Value

-- A label is read as a value, which has to be a name or a number.
def Label.read? (code : String) : Option Label :=
  match Value.read? code with
  | some (.symbol name) => some (.symbol name)
  | some (.number value) => some (.index value)
  | _ => none

theorem Label.read?_code {label : Label} (h : label.Sound) : read? label.code = some label := by
  have hvalue : Value.read? label.value.code = some label.value := by
    apply Value.read?_code
    cases label <;> exact h
  cases label <;>
  · simp only [value, Value.code] at hvalue
    rw [read?, code, hvalue]

-- The cases of a switch up to its end, and the lines behind it.
def Switch.readCases? : List String → Option (List Case × List String)
  | line :: next :: more =>
      if line = "  \x7d" then some ([], next :: more)
      else do
        let label ← (Text.framed? "    case " ":" line).bind Label.read?
        let value ← (Text.framed? "      return " ";" next).bind Value.read?
        let (cases, behind) ← readCases? more
        return (⟨label, value⟩ :: cases, behind)
  | _ => none

theorem Switch.readCases?_lines {cases : List Case} (h : ∀ case ∈ cases, case.Sound)
    (last : String) (rest : List String) :
    readCases? (cases.flatMap Case.lines ++ "  \x7d" :: last :: rest) =
      some (cases, last :: rest) := by
  induction cases with
  | nil => rw [List.flatMap_nil, List.nil_append, readCases?, if_pos rfl]
  | cons case cases ih =>
      obtain ⟨hcase, hmore⟩ := List.forall_mem_cons.mp h
      have hline : "    case " ++ case.label.code ++ ":" ≠ "  \x7d" := by
        intro hline
        have hends : Text.Ends Case.Sound Case.lines
            ["  \x7d", "      return " ++ case.value.code ++ ";"] := Case.ends_lines (by decide) _
        exact hends hcase [] (by rw [Case.lines, hline, List.append_nil])
      rw [List.flatMap_cons, Case.lines, List.append_assoc, List.cons_append, List.cons_append,
        List.nil_append, readCases?, if_neg hline]
      simp only [Text.framed?_append, Option.bind_some, Label.read?_code hcase.1,
        Value.read?_code hcase.2, ih hmore, bind, pure]

namespace Function

-- A name behind its type.
def typed (entry : String × String) : String := entry.1 ++ " " ++ entry.2

def readTyped? (text : List Char) : Option (String × String) :=
  (Text.cutLast? ' ' text).map fun parts => (String.ofList parts.1, String.ofList parts.2)

-- Blanks in front of a parameter do not count.
def readParameters? (text : List Char) : Option (List (String × String)) :=
  if text = [] then some []
  else (text.splitOn ',').mapM fun piece => readTyped? (piece.dropWhile (· == ' '))

def read? (signature : String) : Option Function := do
  let inner ← Text.framed? "" ")" signature
  let (head, parameters) ← Text.cut? '(' inner.toList
  let (result, name) ← readTyped? head
  let parameters ← readParameters? parameters
  return ⟨result, name, parameters⟩

theorem readTyped?_typed (entry : String × String) (h : Symbol.isIdentifier entry.2) :
    readTyped? (typed entry).toList = some entry := by
  have hblank : " ".toList = [' '] := by decide
  have hname : ' ' ∉ entry.2.toList := Symbol.not_mem_of_isIdentifier h (by decide)
  rw [readTyped?, typed, String.toList_append, String.toList_append, hblank, List.append_assoc,
    List.singleton_append, Text.cutLast?_append hname, Option.map_some, String.ofList_toList,
    String.ofList_toList]

-- The type of a parameter is an identifier as its name is.
def Named (parameter : String × String) : Prop :=
  Symbol.isIdentifier parameter.1 ∧ Symbol.isIdentifier parameter.2

instance (parameter : String × String) : Decidable (Named parameter) :=
  inferInstanceAs (Decidable (_ ∧ _))

section

variable {parameter : String × String}

theorem typed_toList_ne_nil (parameter : String × String) : (typed parameter).toList ≠ [] := by
  simp [typed]

theorem Named.comma_not_mem (h : Named parameter) : ',' ∉ (typed parameter).toList := by
  have hcomma : ∀ {name : String}, Symbol.isIdentifier name → ',' ∉ name.toList :=
    fun hname => Symbol.not_mem_of_isIdentifier hname (by decide)
  simp [typed, hcomma h.1, hcomma h.2]

theorem Named.dropWhile_typed (h : Named parameter) :
    (typed parameter).toList.dropWhile (· == ' ') = (typed parameter).toList := by
  obtain ⟨⟨c, hc, hstart⟩, -⟩ := Symbol.isIdentifier_iff.mp h.1
  obtain ⟨rest, hrest⟩ := List.head?_eq_some_iff.mp hc
  have hne : c ≠ ' ' := by
    rintro rfl
    exact absurd hstart (by decide)
  rw [typed, String.toList_append, String.toList_append, hrest, List.cons_append, List.cons_append,
    List.dropWhile_cons_of_neg (by simpa using hne)]

end

theorem readParameters?_blank {text : List Char} (h : text ≠ []) :
    readParameters? (' ' :: text) = readParameters? text := by
  have hcomma : (' ' == ',') = false := by decide
  rw [readParameters?, if_neg (List.cons_ne_nil _ _), readParameters?, if_neg h,
    List.splitOn_cons_eq_if_modifyHead, hcomma, if_neg Bool.false_ne_true]
  cases hsplit : text.splitOn ',' with
  | nil => exact absurd hsplit (List.splitOn_ne_nil _ _)
  | cons piece more =>
      rw [List.modifyHead_cons, List.mapM_cons, List.mapM_cons]
      rfl

-- What stands in front of a comma is a parameter.
theorem readParameters?_cons {parameter : String × String} (h : Named parameter)
    {text : List Char} (htext : text ≠ []) :
    readParameters? ((typed parameter).toList ++ ',' :: ' ' :: text) =
      (readParameters? text).map (parameter :: ·) := by
  have hne : (typed parameter).toList ++ ',' :: ' ' :: text ≠ [] := by simp
  have hrest := readParameters?_blank htext
  rw [readParameters?, if_neg (List.cons_ne_nil _ _)] at hrest
  rw [readParameters?, if_neg hne, List.splitOn_append_cons_self,
    List.splitOn_eq_singleton h.comma_not_mem, List.singleton_append, List.mapM_cons,
    h.dropWhile_typed, readTyped?_typed _ h.2, hrest]
  cases readParameters? text <;> rfl

theorem readParameters?_typed {parameters : List (String × String)}
    (h : ∀ parameter ∈ parameters, Named parameter) :
    readParameters? (", ".intercalate (parameters.map typed)).toList = some parameters := by
  have hseparator : ", ".toList = [',', ' '] := by decide
  induction parameters with
  | nil => rfl
  | cons parameter parameters ih =>
      obtain ⟨hnamed, hmore⟩ := List.forall_mem_cons.mp h
      cases parameters with
      | nil =>
          rw [List.map_singleton, String.intercalate_singleton, readParameters?,
            if_neg (typed_toList_ne_nil parameter), List.splitOn_eq_singleton hnamed.comma_not_mem,
            List.mapM_cons, hnamed.dropWhile_typed, readTyped?_typed _ hnamed.2]
          rfl
      | cons other others =>
          have hrest : (", ".intercalate ((other :: others).map typed)).toList ≠ [] := by
            cases others <;> simp [typed]
          rw [List.map_cons, String.intercalate_cons_of_ne_nil (by simp), String.toList_append,
            String.toList_append, hseparator, List.append_assoc, List.cons_append,
            List.singleton_append, readParameters?_cons hnamed hrest, ih hmore]
          rfl

-- The name of the function and all about its parameters are identifiers.
structure Sound (function : Function) : Prop where
  result : '(' ∉ function.result.toList
  name : Symbol.isIdentifier function.name
  parameters : ∀ parameter ∈ function.parameters, Named parameter

theorem sound_iff {function : Function} :
    function.Sound ↔ '(' ∉ function.result.toList ∧ Symbol.isIdentifier function.name ∧
      ∀ parameter ∈ function.parameters, Named parameter :=
  ⟨fun h => ⟨h.result, h.name, h.parameters⟩, fun h => ⟨h.1, h.2.1, h.2.2⟩⟩

instance (function : Function) : Decidable function.Sound := decidable_of_iff _ sound_iff.symm

theorem signature_eq (function : Function) :
    function.signature = typed (function.result, function.name) ++ "(" ++
      ", ".intercalate (function.parameters.map typed) ++ ")" :=
  rfl

theorem read?_signature {function : Function} (h : function.Sound) :
    read? function.signature = some function := by
  have hopen : "(".toList = ['('] := by decide
  have hname : '(' ∉ function.name.toList := Symbol.not_mem_of_isIdentifier h.name (by decide)
  have hhead : '(' ∉ (typed (function.result, function.name)).toList := by
    simp [typed, h.result, hname]
  have htyped := readTyped?_typed (function.result, function.name) h.name
  rw [read?, signature_eq, Text.framed?_suffix]
  simp only [bind, Option.bind_some, String.toList_append, hopen, List.append_assoc,
    List.singleton_append, Text.cut?_append hhead, htyped, readParameters?_typed h.parameters, pure]

end Function

namespace Lookup

-- A function without the brace that ends it.
def read? : List String → Option Lookup
  | heading :: subject :: line :: next :: rest => do
      let function ← (Text.framed? "" " \x7b" heading).bind Function.read?
      let subject ← Text.framed? "  switch (" ") \x7b" subject
      let (cases, behind) ← Switch.readCases? rest
      match behind with
      | [last] =>
          if line = "    default:" ∧ next = "      break;" then do
            let fallback ← (Text.framed? "  return " ";" last).bind Value.read?
            return ⟨function, subject, fallback, cases⟩
          else none
      | _ => none
  | _ => none

-- The lines of a function without the last one.
def front (lookup : Lookup) : List String :=
  [lookup.function.signature ++ " \x7b", "  switch (" ++ lookup.switch.subject ++ ") \x7b",
      "    default:", "      break;"] ++
    lookup.switch.cases.flatMap Case.lines ++
    ["  \x7d", "  return " ++ lookup.switch.fallback.code ++ ";"]

theorem lines_eq (lookup : Lookup) :
    lookup.switch.lines lookup.function.signature = lookup.front ++ ["\x7d"] := by
  simp only [Switch.lines, front, List.append_assoc, List.cons_append, List.nil_append]

theorem read?_front {lookup : Lookup} (hfunction : lookup.function.Sound)
    (hswitch : lookup.switch.Sound) : read? lookup.front = some lookup := by
  rw [front]
  simp only [List.cons_append, List.nil_append, read?, Text.framed?_suffix, Text.framed?_append,
    Option.bind_some, Function.read?_signature hfunction, bind,
    Switch.readCases?_lines hswitch.2, pure, Value.read?_code hswitch.1, and_self, if_pos]

end Lookup

namespace Enumerator

def read? (line : String) : Option Enumerator := do
  let text ← Text.framed? "  " "" line
  let (name, rest) ← Text.cut? ' ' text.toList
  let value ← (Text.framed? "= " "" (String.ofList rest)).bind readNumber?
  if Symbol.isIdentifier (String.ofList name) then return ⟨String.ofList name, value⟩ else none

theorem read?_text {enumerator : Enumerator} (h : enumerator.Sound) :
    read? enumerator.text = some enumerator := by
  have hequals : " = ".toList = ' ' :: "= ".toList := by decide
  have hname : ' ' ∉ enumerator.name.toList := Symbol.not_mem_of_isIdentifier h (by decide)
  have hchars : (enumerator.name ++ " = " ++ Text.Decimal.write enumerator.value).toList =
      enumerator.name.toList ++ ' ' :: ("= " ++ Text.Decimal.write enumerator.value).toList := by
    simp only [String.toList_append, hequals, List.append_assoc, List.cons_append]
  have htext : enumerator.text =
      "  " ++ (enumerator.name ++ " = " ++ Text.Decimal.write enumerator.value) := by
    simp only [text, String.append_assoc]
  rw [read?, htext, Text.framed?_prefix]
  simp only [bind, Option.bind_some, hchars, Text.cut?_append hname, String.ofList_toList,
    Text.framed?_prefix, readNumber?_write, pure]
  exact if_pos h

end Enumerator

namespace Enumeration

-- The enumerators, one a line, with a comma behind each but the last.
def readBody? : List String → Option (List Enumerator)
  | [] => some []
  | [last] => (Enumerator.read? last).map fun enumerator => [enumerator]
  | line :: rest => do
      let enumerator ← (Text.framed? "" "," line).bind Enumerator.read?
      let enumerators ← readBody? rest
      return enumerator :: enumerators

theorem body_ne_nil {enumerators : List Enumerator} (h : enumerators ≠ []) :
    body enumerators ≠ [] := by
  intro hnil
  have hlength := length_body enumerators
  rw [hnil, List.length_nil, eq_comm, List.length_eq_zero_iff] at hlength
  exact h hlength

theorem readBody?_body {enumerators : List Enumerator}
    (h : ∀ enumerator ∈ enumerators, enumerator.Sound) :
    readBody? (body enumerators) = some enumerators := by
  induction enumerators using body.induct with
  | case1 => rfl
  | case2 last =>
      rw [body, readBody?, Enumerator.read?_text (h last List.mem_cons_self), Option.map_some]
  | case3 enumerator rest hne ih =>
      obtain ⟨henumerator, hrest⟩ := List.forall_mem_cons.mp h
      rw [body, readBody?, Text.framed?_suffix, Option.bind_some,
        Enumerator.read?_text henumerator, ih hrest]
      · rfl
      · exact body_ne_nil hne
      · exact hne

-- A declaration without the brace that ends it.
def read? : List String → Option Enumeration
  | [] => none
  | heading :: lines => do
      let name ← Text.framed? "enum " " \x7b" heading
      let enumerators ← readBody? lines
      return ⟨name, enumerators⟩

-- The lines of a declaration without the last one.
def front (enumeration : Enumeration) : List String :=
  ("enum " ++ enumeration.name ++ " \x7b") :: body enumeration.enumerators

theorem read?_front {enumeration : Enumeration} (h : enumeration.Sound) :
    read? enumeration.front = some enumeration := by
  rw [front, read?, Text.framed?_append]
  simp only [bind, Option.bind_some, readBody?_body h, pure]

end Enumeration

end EffectTables.Code
