namespace EffectTables

-- Names by index, in ascending order of the indices, each of which occurs once.
structure Catalog where
  entries : List (Int32 × String) := []
  deriving DecidableEq

namespace Catalog

def get? (catalog : Catalog) (index : Int32) : Option String :=
  catalog.entries.lookup index

def place (index : Int32) (name : String) : List (Int32 × String) → List (Int32 × String)
  | [] => [(index, name)]
  | (other, old) :: rest =>
      if index < other then (index, name) :: (other, old) :: rest
      else if index = other then (index, name) :: rest
      else (other, old) :: place index name rest

-- The last name given for an index stays.
def insert (catalog : Catalog) (index : Int32) (name : String) : Catalog :=
  ⟨place index name catalog.entries⟩

-- An insertion, with the name that it takes the place of.
def exchange (catalog : Catalog) (index : Int32) (name : String) : Option String × Catalog :=
  (catalog.get? index, catalog.insert index name)

def size (catalog : Catalog) : Nat := catalog.entries.length

def isEmpty (catalog : Catalog) : Bool := catalog.entries.isEmpty

end Catalog

end EffectTables
