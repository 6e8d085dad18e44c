import EffectTables.Text.Pieces

namespace EffectTables.Path

-- A name that stands for an entry of the directory it is looked up in, and that can be written
-- between double quotes.
def isPlainName (name : String) : Bool :=
  name != "" && name != "." && name != ".." &&
    name.toList.all fun c => c != '/' && c != '\\' && c != '\x22'

def isAbsolute (path : String) : Bool := path.toList.head? == some '/'

def endsInSlash (path : String) : Bool := path.toList.getLast? == some '/'

-- An absolute path stands for itself in every directory.
def join (directory path : String) : String :=
  if isAbsolute path then path
  else if directory = "" ∨ endsInSlash directory then directory ++ path
  else directory ++ "/" ++ path

-- The names along a path. Empty ones lead nowhere.
def names (path : String) : List String :=
  ((Text.pieces '/' path.toList).filter (!·.isEmpty)).map String.ofList

-- The names along a path that count when it is shortened: a dot counts at the start only.
def components (path : String) : List String :=
  match names path with
  | [] => []
  | first :: rest =>
      (if first = "." && isAbsolute path then [] else [first]) ++ rest.filter (· != ".")

def ofComponents (absolute : Bool) (components : List String) : String :=
  (if absolute then "/" else "") ++ "/".intercalate components

-- The paths of the directories above a path, nearest first. The current directory is left out.
def ancestors (path : String) : List String :=
  let components := components path
  let absolute := isAbsolute path
  ((List.range components.length).reverse.map fun count =>
    ofComponents absolute (components.take count)).filter (· != "")

def directory (path : String) : String :=
  (ancestors path).headD "."

end EffectTables.Path
