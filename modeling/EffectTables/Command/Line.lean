import EffectTables.Settings

namespace EffectTables.Command

inductive Action where
  | generate (input output : String)
  | clean (output : String)
  deriving DecidableEq

structure Request where
  action : Action
  settings : Settings
  deriving DecidableEq

-- Why a command line asks for no action. The last two ask for information instead.
inductive Usage where
  | invalidValue
  | unknownArgument
  | conflict
  | tooManyValues
  | invalidSubcommand
  | missingArgument
  | missingSubcommand
  | nothingGiven
  | help
  | version
  deriving DecidableEq

def Usage.exitCode : Usage → Nat
  | help | version => 0
  | _ => 2

inductive Setting where
  | clean
  | scope
  | headerName
  | sourceName
  deriving DecidableEq

def Setting.name : Setting → List Char
  | clean => "clean".toList
  | scope => "namespace".toList
  | headerName => "header-name".toList
  | sourceName => "source-name".toList

inductive Slot where
  | option (setting : Setting)
  | input
  | output
  deriving DecidableEq

-- A path must not be empty, everything else may.
def Slot.accepts (slot : Slot) (value : String) : Bool :=
  match slot with
  | option .clean | input | output => value != ""
  | _ => true

inductive Subcommand where
  | generate
  | clean
  | help
  deriving DecidableEq

namespace Subcommand

def name : Subcommand → String
  | generate => "generate"
  | clean => "clean"
  | help => "help"

def ofName? (text : String) : Option Subcommand :=
  [generate, clean, help].find? (·.name == text)

def wanted : Subcommand → List Slot
  | generate => [.input, .output]
  | clean => [.output]
  | help => []

end Subcommand

-- The arguments come at two levels, before the subcommand and after it. A level knows which values
-- it still wants and collects the ones it got. The slot that came last waits, with its value or
-- for its value, until what comes next has been looked at.
structure Level where
  top : Bool
  wanted : List Slot
  given : List (Slot × String) := []
  waiting : Option (Slot × Option String) := none
  onlyValues : Bool := false

namespace Level

def before : Level := { top := true, wanted := [] }

def value? (level : Level) (slot : Slot) : Option String := level.given.lookup slot

def give (level : Level) (slot : Slot) (value : String) : Except Usage Level :=
  if (level.value? slot).isSome then .error .conflict
  else if slot.accepts value then .ok { level with given := level.given ++ [(slot, value)] }
  else .error .invalidValue

def settle (level : Level) : Except Usage Level :=
  match level.waiting with
  | none => .ok level
  | some (_, none) => .error .invalidValue
  | some (slot, some value) => { level with waiting := none }.give slot value

def awaitsValue (level : Level) : Bool :=
  match level.waiting with
  | some (_, none) => !level.onlyValues
  | _ => false

-- Only the top level can do away with files by an option.
def settings (level : Level) : List Setting :=
  (if level.top then [.clean] else []) ++ [.scope, .headerName, .sourceName]

-- A long option, split at its first equals sign.
def takeLong (level : Level) (name : List Char) (value : Option String) : Except Usage Level :=
  match level.settings.find? (·.name == name) with
  | some setting => do
      let level ← level.settle
      match value with
      | some value => level.give (.option setting) value
      | none => return { level with waiting := some (.option setting, none) }
  | none =>
      if name = "help".toList then question .help
      else if level.top ∧ name = "version".toList then question .version
      else .error .unknownArgument
where
  question (usage : Usage) : Except Usage Level :=
    if value.isSome then .error .tooManyValues
    else level.settle.bind fun _ => .error usage

def takeShort (level : Level) (letter : Char) : Except Usage Level :=
  if letter = 'h' then level.settle.bind fun _ => .error .help
  else if level.top ∧ letter = 'V' then level.settle.bind fun _ => .error .version
  else .error .unknownArgument

-- A value without an option. At the top level it is taken for a subcommand that does not exist,
-- and a subcommand that does exist is out of place where only values may follow.
def takePlain (level : Level) (value : String) : Except Usage Level :=
  match level.wanted with
  | slot :: wanted => do
      let level ← level.settle
      return { level with wanted, waiting := some (slot, some value) }
  | [] =>
      .error (if level.top ∧ Subcommand.ofName? value = none then .invalidSubcommand
        else .unknownArgument)

def take (level : Level) (argument : String) : Except Usage Level :=
  if level.onlyValues then level.takePlain argument
  else
    match argument.toList with
    | ['-', '-'] => .ok { level with onlyValues := true }
    | '-' :: '-' :: text =>
        level.takeLong (text.takeWhile (· != '='))
          (match text.dropWhile (· != '=') with
            | [] => none
            | _ :: value => some (String.ofList value))
    | '-' :: letter :: _ => level.takeShort letter
    | _ =>
        match level.waiting with
        | some (slot, none) => .ok { level with waiting := some (slot, some argument) }
        | _ => level.takePlain argument

def takeAll (level : Level) : List String → Except Usage Level
  | [] => level.settle
  | argument :: rest => do
      let level ← level.take argument
      level.takeAll rest

end Level

-- Both levels of a command line, the second with its subcommand.
structure Arguments where
  outer : Level
  inner : Option (Subcommand × Level)

-- Help is given on the program or on one subcommand.
def helpOn : List String → Usage
  | [] => .help
  | [topic] => if (Subcommand.ofName? topic).isSome then .help else .invalidSubcommand
  | _ => .invalidSubcommand

def readInner (subcommand : Subcommand) (arguments : List String) : Except Usage Level := do
  let level ← ({ top := false, wanted := subcommand.wanted } : Level).takeAll arguments
  if level.wanted.isEmpty then return level else throw .missingArgument

-- The first word that is no value of an option may be a subcommand, to which all that follows
-- belongs.
def readArguments (outer : Level) : List String → Except Usage Arguments
  | [] => do return ⟨← outer.settle, none⟩
  | argument :: rest =>
      match (if outer.awaitsValue || outer.onlyValues then none
        else Subcommand.ofName? argument) with
      | some .help => .error (helpOn rest)
      | some subcommand => do
          let inner ← readInner subcommand rest
          return ⟨← outer.settle, some (subcommand, inner)⟩
      | none => do
          let outer ← outer.take argument
          readArguments outer rest

namespace Arguments

-- A value after the subcommand counts more than one before it.
def value? (arguments : Arguments) (slot : Slot) : Option String :=
  (arguments.inner.bind fun inner => inner.2.value? slot).or (arguments.outer.value? slot)

-- The surroundings of the program may name a scope, which counts if the command line does not.
def settings (arguments : Arguments) (scope : Option String) : Settings :=
  let standard : Settings := {}
  { scope := ((arguments.value? (.option .scope)).or scope).getD standard.scope
    headerName := (arguments.value? (.option .headerName)).getD standard.headerName
    sourceName := (arguments.value? (.option .sourceName)).getD standard.sourceName }

def action (arguments : Arguments) (scope : Option String) : Except Usage Action :=
  match arguments.inner, arguments.outer.value? (.option .clean) with
  | some _, some _ => .error .conflict
  | some (.generate, inner), none =>
      .ok (.generate ((inner.value? .input).getD "") ((inner.value? .output).getD ""))
  | some (_, inner), none => .ok (.clean ((inner.value? .output).getD ""))
  | none, some output => .ok (.clean output)
  | none, none =>
      .error (if arguments.outer.given.isEmpty && scope.isNone then .nothingGiven
        else .missingSubcommand)

end Arguments

-- Reads a command line; `scope` is what the surroundings say.
def read (arguments : List String) (scope : Option String) : Except Usage Request := do
  let arguments ← readArguments .before arguments
  return ⟨← arguments.action scope, arguments.settings scope⟩

end EffectTables.Command
