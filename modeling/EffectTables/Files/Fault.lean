namespace EffectTables.Files

inductive Fault where
  | notFound
  | alreadyExists
  | notADirectory
  | isADirectory
  | nameTooLong
  | zeroInPath
  | notText
  | other (message : String)
  deriving DecidableEq

namespace Fault

-- The number by which the operating system calls the fault.
def code? : Fault → Option Nat
  | notFound => some 2
  | alreadyExists => some 17
  | notADirectory => some 20
  | isADirectory => some 21
  | nameTooLong => some 36
  | _ => none

def title : Fault → String
  | notFound => "No such file or directory"
  | alreadyExists => "File exists"
  | notADirectory => "Not a directory"
  | isADirectory => "Is a directory"
  | nameTooLong => "File name too long"
  | zeroInPath => "file name contained an unexpected NUL byte"
  | notText => "stream did not contain valid UTF-8"
  | other message => message

def message (fault : Fault) : String :=
  match fault.code? with
  | none => fault.title
  | some code => fault.title ++ " (os error " ++ toString code ++ ")"

def ofCode (code : Nat) (message : String) : Fault :=
  ([notFound, alreadyExists, notADirectory, isADirectory, nameTooLong].find?
    (·.code? == some code)).getD (.other message)

end Fault

end EffectTables.Files
