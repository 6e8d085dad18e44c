import EffectTables.Symbol
import EffectTables.Path

namespace EffectTables

-- What the user may choose about the generated files.
structure Settings where
  scope : String := "axefx"
  headerName : String := "axefx_ii_ids.h"
  sourceName : String := "axefx_ii_ids.cc"
  guard : String := "__AXEFX_II_GENERATED_TYPE_IDS__"
  deriving DecidableEq

namespace Settings

inductive Fault where
  | scope (text : String)
  | guard (text : String)
  | fileName (text : String)
  | sameFile
  deriving DecidableEq

def Fault.message : Fault → String
  | scope text => "namespace '" ++ text ++ "' is not an identifier"
  | guard text => "include guard '" ++ text ++ "' is not an identifier"
  | fileName text => "'" ++ text ++ "' must be a plain file name"
  | sameFile => "header and source files must have different names"

-- Every value can be written into the files and the two names lead to two files of one directory.
def validate (settings : Settings) : Except Fault Unit :=
  if !Symbol.isIdentifier settings.scope then .error (.scope settings.scope)
  else if !Symbol.isIdentifier settings.guard then .error (.guard settings.guard)
  else if !Path.isPlainName settings.headerName then .error (.fileName settings.headerName)
  else if !Path.isPlainName settings.sourceName then .error (.fileName settings.sourceName)
  else if settings.headerName = settings.sourceName then .error .sameFile
  else .ok ()

def headerPath (settings : Settings) (directory : String) : String :=
  Path.join directory settings.headerName

def sourcePath (settings : Settings) (directory : String) : String :=
  Path.join directory settings.sourceName

end Settings

end EffectTables
