import EffectTables.Sources
import EffectTables.Job

namespace EffectTables.Delivery

variable {m : Type → Type} [Monad m] [Host m]

inductive Writing where
  | unchanged
  | generated
  deriving DecidableEq

inductive Removal where
  | removed
  | missing
  deriving DecidableEq

structure Report (α : Type) where
  path : String
  outcome : α
  deriving DecidableEq

def readText (path : String) : m (Except Files.Fault String) := do
  match ← Host.read path with
  | .error fault => return .error fault
  | .ok bytes =>
      match String.fromUTF8? bytes with
      | none => return .error .notText
      | some text => return .ok text

def unreadInput (path : String) : Files.Fault → Failure
  | .notFound => .noInput path
  | fault => .unread path fault

def sourcesOf (settings : Settings) (input : String) : Job m Sources := do
  let document ← Job.request (unreadInput input) (readText input)
  Job.ofTraced (Sources.ofDocument settings document)

-- A directory that is there already is as good as a new one.
def makeOrFind (path : String) : m (Except Files.Fault Unit) := do
  match ← Host.makeDirectory path with
  | .ok () => return .ok ()
  | .error fault => if ← Host.isDirectory path then return .ok () else return .error fault

-- Makes the first of the directories, and before it those after it that it needs.
def makeDirectories : List String → m (Except Files.Fault Unit)
  | [] => return .ok ()
  | path :: above => do
      match ← makeOrFind path with
      | .error .notFound =>
          match ← makeDirectories above with
          | .ok () => makeOrFind path
          | .error fault => return .error fault
      | outcome => return outcome

def makeDirectory (path : String) : m (Except Files.Fault Unit) :=
  if path = "" then return .ok () else makeDirectories (path :: Path.ancestors path)

def temporaryName (number : Nat) : String :=
  ".tmp" ++ String.ofList (Text.Decimal.digits number)

-- Makes an empty file of a name that was not in use, for which so many names are tried.
def makeTemporary (directory : String) : Nat → m (Except Files.Fault String)
  | 0 => return .error .alreadyExists
  | tries + 1 => do
      let path := Path.join directory (temporaryName tries)
      match ← Host.create path with
      | .ok () => return .ok path
      | .error .alreadyExists => makeTemporary directory tries
      | .error fault => return .error fault

def temporaryTries : Nat := 0x10000

def discard (temporary : String) (fault : Files.Fault) : m (Except Files.Fault Unit) := do
  let _ ← Host.remove temporary
  return .error fault

-- Puts a complete new file in the place of an old one. Nobody sees an incomplete file.
def replace (path : String) (bytes : ByteArray) : m (Except Files.Fault Unit) := do
  match ← makeTemporary (Path.directory path) temporaryTries with
  | .error fault => return .error fault
  | .ok temporary =>
      match ← Host.fill temporary bytes with
      | .error fault => discard temporary fault
      | .ok () =>
          match ← Host.rename temporary path with
          | .error fault => discard temporary fault
          | .ok () => return .ok ()

def generateFile (path contents : String) : Job m Writing := do
  Job.request (.unwritten path) (replace path contents.toUTF8)
  Job.note (.written path contents.utf8ByteSize)
  return .generated

-- A file that holds the contents already is not touched.
def writeIfChanged (path contents : String) : Job m Writing := do
  match ← Job.perform (Host.read path) with
  | .ok bytes =>
      if String.fromUTF8? bytes = some contents then
        Job.note (.upToDate path)
        return .unchanged
      else generateFile path contents
  | .error .notFound => generateFile path contents
  | .error fault => Job.fail (.unread path fault)

-- Writes the two files into a directory, which is made if it is missing.
def write (settings : Settings) (directory : String) (sources : Sources) :
    Job m (List (Report Writing)) := do
  Job.request (.unwritten directory) (makeDirectory directory)
  let header ← writeIfChanged (settings.headerPath directory) sources.header
  let source ← writeIfChanged (settings.sourcePath directory) sources.source
  return [⟨settings.headerPath directory, header⟩, ⟨settings.sourcePath directory, source⟩]

-- Nothing is written unless all of the document could be used.
def generate (settings : Settings) (input directory : String) :
    Job m (List (Report Writing)) := do
  let sources ← sourcesOf settings input
  write settings directory sources

def removeFile (path : String) : Job m Removal := do
  match ← Job.perform (Host.remove path) with
  | .ok () =>
      Job.note (.removed path)
      return .removed
  | .error .notFound =>
      Job.note (.absent path)
      return .missing
  | .error fault => Job.fail (.unremoved path fault)

-- Removes the two files from a directory; it does not matter if they are missing.
def clean (settings : Settings) (directory : String) : Job m (List (Report Removal)) := do
  match settings.validate with
  | .error fault => Job.fail (.settings fault)
  | .ok () =>
      let source ← removeFile (settings.sourcePath directory)
      let header ← removeFile (settings.headerPath directory)
      return [⟨settings.sourcePath directory, source⟩, ⟨settings.headerPath directory, header⟩]

end EffectTables.Delivery
