import EffectTables.Note
import EffectTables.Note.Directive

namespace EffectTables.Note

def Level.rank : Level → Nat
  | warn => Verbosity.warn.rank
  | info => Verbosity.info.rank
  | debug => Verbosity.debug.rank

namespace Directive

-- No work of the program goes by a name, and what a value must be is checked for such work only.
def concernsNotes (directive : Directive) : Bool :=
  directive.work.isNone && directive.condition.all (!·.hasValue)

def selects (directive : Directive) (note : Note) : Bool :=
  directive.origin.all (·.toList.isPrefixOf note.origin.toList) &&
    directive.condition.all (note.keys.contains ·.key)

-- How closely a directive describes what it is about: by the length of the origin above all,
-- one without an origin being the least close.
def closeness (directive : Directive) : Nat :=
  match directive.origin with
  | none => 0
  | some origin => origin.utf8ByteSize + 1

-- A directive gives way to a later one of the same closeness unless its condition is the closer
-- one. A condition is closer than none, and the later of two keys in the order of texts counts
-- as the closer one.
def yieldsTo (directive later : Directive) : Bool :=
  if directive.closeness = later.closeness then
    match directive.condition, later.condition with
    | none, _ => true
    | some _, none => false
    | some condition, some other => condition.key ≤ other.key
  else directive.closeness < later.closeness

end Directive

structure Filter where
  directives : List Directive
  deriving DecidableEq

namespace Filter

def deciding? (note : Note) : List Directive → Option Directive
  | [] => none
  | directive :: rest =>
      match deciding? note rest with
      | none => if directive.selects note then some directive else none
      | some later =>
          if directive.selects note && !directive.yieldsTo later then some directive
          else some later

def shows (filter : Filter) (note : Note) : Bool :=
  (deciding? note filter.directives).any fun directive =>
    note.level.rank ≤ directive.verbosity.rank

def warnings : Filter := ⟨[{ verbosity := .warn }]⟩

-- The directives of a wish stand between commas. If one cannot be read, the wish is void.
def read? (wish : String) : Option Filter :=
  (((Text.pieces ',' wish.toList).filter (!·.isEmpty)).mapM Directive.read?).map fun directives =>
    ⟨directives.filter Directive.concernsNotes⟩

def ofWish (wish : Option String) : Filter :=
  (wish.bind read?).getD warnings

end Filter

end EffectTables.Note
