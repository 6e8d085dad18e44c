import EffectTables.Command.Run
import EffectTables.Note.Filter

namespace EffectTables.Program

-- Some requests give the number of a fault with its sign changed.
def faultNumber (code : UInt32) : Nat :=
  if code.toNat < 0x80000000 then code.toNat else 0x100000000 - code.toNat

def faultOf (error : IO.Error) : Files.Fault :=
  match error with
  | .noFileOrDirectory _ code details | .alreadyExists _ code details
  | .inappropriateType _ code details | .invalidArgument _ code details
  | .resourceExhausted _ code details | .permissionDenied _ code details =>
      .ofCode (faultNumber code) details
  | other => .other (toString other)

def attempt (work : IO α) : IO (Except Files.Fault α) := do
  match ← work.toBaseIO with
  | .ok result => return .ok result
  | .error error => return .error (faultOf error)

-- Makes a file unless there is something of its name already.
def create (path : String) : IO Unit := do
  let _ ← IO.FS.Handle.mk path .writeNew

-- Every directory holds itself under the name of a dot, and nothing else does.
def isDirectory (path : String) : IO Bool := do
  match ← attempt (IO.FS.createDir (path ++ "/.")) with
  | .error .alreadyExists => return true
  | _ => return false

def logWish : IO (Option String) := IO.getEnv "RUST_LOG"

instance : Host IO where
  read path := attempt (IO.FS.readBinFile path)
  isDirectory := isDirectory
  makeDirectory path := attempt (IO.FS.createDir path)
  create path := attempt (create path)
  fill path bytes := attempt (IO.FS.writeBinFile path bytes)
  rename source target := attempt (IO.FS.rename source target)
  remove path := attempt (IO.FS.removeFile path)
  note note := do
    if (Note.Filter.ofWish (← logWish)).shows note then IO.eprintln note.line
  say := IO.print
  complain := IO.eprintln

end EffectTables.Program

def main (arguments : List String) : IO UInt32 := do
  let code ← EffectTables.Command.execute arguments (← IO.getEnv "AFXGEN_NAMESPACE")
  return code.toUInt32
