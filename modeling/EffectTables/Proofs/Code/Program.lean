import EffectTables.Code.Enumeration
import EffectTables.Code.Tables
import EffectTables.Proofs.Lookup
import Mathlib.Data.List.Nodup

namespace EffectTables.Code

-- The generated code: enumerations, whose enumerators share one scope, and functions.
structure Program where
  enumerations : List Enumeration
  lookups : List Lookup

-- What a call comes back with in the end.
inductive Answer where
  | symbol (name : String)
  | text (content : String)
  | number (value : Int32)
  deriving DecidableEq

def Answer.value : Answer → Value
  | symbol name => .symbol name
  | text content => .text content
  | number value => .number value

theorem Answer.value_injective {a b : Answer} (h : a.value = b.value) : a = b := by
  cases a <;> cases b <;> simp_all [Answer.value]

-- The number that a call gives for a parameter of the function.
def Function.argument? (function : Function) (arguments : List Int32) (name : String) :
    Option Int32 :=
  ((function.parameters.map (·.2)).zip arguments).lookup name

-- The functions of the tables, in the order of the output.
def Tables.lookups (tables : Tables) : List Lookup := tables.common ++ tables.typeParameterNames

-- The code that is generated for a device.
def Program.ofDevice (device : Device) (tables : Tables) : Program where
  enumerations := Enumeration.ofDevice device
  lookups := tables.lookups

namespace Program

variable {program : Program}

def enumerators (program : Program) : List Enumerator :=
  program.enumerations.flatMap (·.enumerators)

-- A switch compares numbers. The name of an enumerator stands for the number in its declaration.
def number? (program : Program) : Label → Option Int32
  | .symbol name => (program.enumerators.find? (·.name == name)).map (·.value)
  | .index value => some value

-- What a switch may choose for a number: the value of any case with the number, or the value
-- after the switch if there is no such case.
inductive Chooses (program : Program) (switch : Switch) (n : Int32) : Value → Prop where
  | matched {case : Case} (mem : case ∈ switch.cases)
      (number : program.number? case.label = some n) : Chooses program switch n case.value
  | unmatched (none : ∀ case ∈ switch.cases, program.number? case.label ≠ some n) :
      Chooses program switch n switch.fallback

-- A call of a function by its name. A cast to an enumeration keeps the number.
inductive Returns (program : Program) : String → List Int32 → Answer → Prop where
  | chosen {lookup : Lookup} {arguments : List Int32} {n : Int32} {answer : Answer}
      (declared : lookup ∈ program.lookups)
      (arity : arguments.length = lookup.function.parameters.length)
      (subject : lookup.function.argument? arguments lookup.switch.subject = some n)
      (chooses : program.Chooses lookup.switch n answer.value) :
      Returns program lookup.function.name arguments answer
  | passed {lookup : Lookup} {arguments : List Int32} {n p : Int32} {answer : Answer}
      {function enumeration : String}
      (declared : lookup ∈ program.lookups)
      (arity : arguments.length = lookup.function.parameters.length)
      (subject : lookup.function.argument? arguments lookup.switch.subject = some n)
      (chooses : program.Chooses lookup.switch n (.parameterName function enumeration))
      (parameter : lookup.function.argument? arguments "param_id" = some p)
      (returns : Returns program function [p] answer) :
      Returns program lookup.function.name arguments answer

-- The call comes back with the answer, and it can come back with no other.
def Yields (program : Program) (name : String) (arguments : List Int32) (answer : Answer) : Prop :=
  ∀ other, program.Returns name arguments other ↔ other = answer

-- At most one case of the switch has a given number.
def Unambiguous (program : Program) (switch : Switch) : Prop :=
  ∀ n, (switch.cases.filter fun case => program.number? case.label == some n).length ≤ 1

-- What a call can do if no two functions share a name.
theorem returns_iff (hnames : (program.lookups.map (·.function.name)).Nodup) {lookup : Lookup}
    (hlookup : lookup ∈ program.lookups) {arguments : List Int32} {answer : Answer} :
    program.Returns lookup.function.name arguments answer ↔
      arguments.length = lookup.function.parameters.length ∧
        ∃ n, lookup.function.argument? arguments lookup.switch.subject = some n ∧
          (program.Chooses lookup.switch n answer.value ∨
            ∃ function enumeration p,
              program.Chooses lookup.switch n (.parameterName function enumeration) ∧
                lookup.function.argument? arguments "param_id" = some p ∧
                program.Returns function [p] answer) := by
  constructor
  · intro h
    generalize hname : lookup.function.name = name at h
    cases h with
    | chosen declared arity subject chooses =>
        obtain rfl := List.inj_on_of_nodup_map hnames hlookup declared hname
        exact ⟨arity, _, subject, .inl chooses⟩
    | passed declared arity subject chooses parameter returns =>
        obtain rfl := List.inj_on_of_nodup_map hnames hlookup declared hname
        exact ⟨arity, _, subject, .inr ⟨_, _, _, chooses, parameter, returns⟩⟩
  · intro hall
    rcases hall with
      ⟨arity, n, subject, chooses | ⟨function, enumeration, p, chooses, parameter, returns⟩⟩
    · exact .chosen hlookup arity subject chooses
    · exact .passed hlookup arity subject chooses parameter returns

theorem number?_symbol (hnames : (program.enumerators.map (·.name)).Nodup)
    {enumerator : Enumerator} (h : enumerator ∈ program.enumerators) :
    program.number? (.symbol enumerator.name) = some enumerator.value := by
  rw [number?, Lookup.find?_key_self hnames h]
  rfl

end Program

end EffectTables.Code
