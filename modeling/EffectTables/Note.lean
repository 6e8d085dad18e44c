import EffectTables.Text.Quoted

namespace EffectTables

-- What the library has to say about its work while it goes on. Some of it is a warning, the
-- rest is of interest only to someone who follows the work closely.
inductive Note where
  | instanceIgnored (name : Option String)
  | groupIgnored (name : Option String)
  | parameterDropped
  | entryReplaced (element : String) (index : Int32) (previous : String)
  | bypassUnmatched (blockType : String) (typeId : Int32)
  | documentRead (blocks blockTypes amps cabs : Nat)
  | upToDate (path : String)
  | written (path : String) (bytes : Nat)
  | removed (path : String)
  | absent (path : String)
  | generating (input output : String)
  | cleaned (count : Nat)
  deriving DecidableEq

namespace Note

inductive Level where
  | debug
  | info
  | warn
  deriving DecidableEq

-- A value beside a note: a name is quoted in the log, a path and a number are not.
inductive Field where
  | name (text : String)
  | path (text : String)
  | number (value : Int)
  deriving DecidableEq

def level : Note → Level
  | bypassUnmatched .. | absent .. => .warn
  | upToDate .. | written .. | removed .. => .info
  | _ => .debug

def message : Note → String
  | instanceIgnored _ => "block instance without typeID ignored"
  | groupIgnored _ => "parameter group without typeID ignored"
  | parameterDropped => "parameter outside a typed group dropped"
  | entryReplaced .. => "catalog entry replaced"
  | bypassUnmatched .. => "bypassParam does not match any parameter id"
  | documentRead .. => "schema read"
  | upToDate _ => "up to date"
  | written .. => "generated"
  | removed _ => "removed"
  | absent _ => "doesn't exist"
  | generating .. => "generate"
  | cleaned _ => "clean finished"

def fields : Note → List (String × Field)
  | instanceIgnored name | groupIgnored name =>
      name.toList.map fun text => ("name", .name text)
  | parameterDropped => []
  | entryReplaced element index previous =>
      [("element", .name element), ("index", .number index.toInt), ("previous", .name previous)]
  | bypassUnmatched blockType typeId =>
      [("block_type", .name blockType), ("type_id", .number typeId.toInt)]
  | documentRead blocks blockTypes amps cabs =>
      [("blocks", .number blocks), ("block_types", .number blockTypes), ("amps", .number amps),
        ("cabs", .number cabs)]
  | upToDate path | removed path | absent path => [("path", .path path)]
  | written path bytes => [("path", .path path), ("bytes", .number bytes)]
  | generating input output => [("input", .path input), ("output_dir", .path output)]
  | cleaned count => [("removed", .number count)]

def Level.text : Level → String
  | debug => "DEBUG"
  | info => "INFO"
  | warn => "WARN"

def Field.text : Field → String
  | name text => Text.Quoted.quote text
  | path text => text
  | number value => toString value

def line (note : Note) : String :=
  " ".intercalate (note.level.text :: note.message ::
    note.fields.map fun (key, value) => key ++ "=" ++ value.text)

-- The part of the program that has the note, by the name under which it can be asked for.
def origin : Note → String
  | generating .. | cleaned _ => "afxgen::cli"
  | upToDate _ | written .. | removed _ | absent _ => "afxgen_codegen::output"
  | _ => "afxgen_schema::parser"

-- The keys of all that may come with the note, be it there or not.
def keys (note : Note) : List String :=
  "message" ::
    match note with
    | instanceIgnored _ | groupIgnored _ => ["name"]
    | other => other.fields.map (·.1)

end Note

end EffectTables
