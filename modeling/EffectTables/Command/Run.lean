import EffectTables.Command.Help
import EffectTables.Delivery

namespace EffectTables.Command

variable {m : Type → Type} [Monad m] [Host m]

-- A failure with the action that it put an end to.
structure Complaint where
  context : String
  failure : Failure

def Complaint.trail (complaint : Complaint) : List String :=
  complaint.context :: complaint.failure.trail

def Complaint.text (complaint : Complaint) : String :=
  "error: " ++ ": ".intercalate complaint.trail

def sayAll : List String → m Unit
  | [] => pure ()
  | text :: rest => do
      Host.say text
      sayAll rest

def statusLine (report : Delivery.Report Delivery.Writing) : String :=
  match report.outcome with
  | .generated => "Generating " ++ report.path ++ "\n"
  | .unchanged => report.path ++ " is up to date.\n"

def runGenerate (settings : Settings) (input output : String) : m (Except Complaint Unit) := do
  Host.note (.generating input output)
  match ← (Delivery.generate settings input output).run with
  | .error failure => return .error ⟨"generating from " ++ input, failure⟩
  | .ok reports =>
      sayAll (reports.map statusLine)
      return .ok ()

def runClean (settings : Settings) (output : String) : m (Except Complaint Unit) := do
  Host.say ("Deleting generated files in " ++ output ++ "\n")
  match ← (Delivery.clean settings output).run with
  | .error failure => return .error ⟨"cleaning " ++ output, failure⟩
  | .ok reports =>
      Host.note (.cleaned (reports.countP (·.outcome = .removed)))
      return .ok ()

def run (request : Request) : m (Except Complaint Unit) :=
  match request.action with
  | .generate input output => runGenerate request.settings input output
  | .clean output => runClean request.settings output

-- What a command line that asks for no action gets to read: an answer or a complaint.
def inform (usage : Usage) : m Unit :=
  if usage.exitCode = 0 then Host.say (usage.text ++ "\n") else Host.complain usage.text

-- A whole run of the program on its command line, ending in its exit code.
def execute (arguments : List String) (scope : Option String) : m Nat := do
  match read arguments scope with
  | .error usage =>
      inform usage
      return usage.exitCode
  | .ok request =>
      match ← run request with
      | .ok () => return 0
      | .error complaint =>
          Host.complain complaint.text
          return 1

end EffectTables.Command
