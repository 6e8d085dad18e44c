import EffectTables.Files.Tree
import EffectTables.Note

namespace EffectTables

-- What the work on files needs from its surroundings: a file system, a log, a place for messages
-- to the user and one for the final complaint.
class Host (m : Type → Type) where
  read : String → m (Except Files.Fault ByteArray)
  isDirectory : String → m Bool
  makeDirectory : String → m (Except Files.Fault Unit)
  create : String → m (Except Files.Fault Unit)
  fill : String → ByteArray → m (Except Files.Fault Unit)
  rename : String → String → m (Except Files.Fault Unit)
  remove : String → m (Except Files.Fault Unit)
  note : Note → m Unit
  say : String → m Unit
  complain : String → m Unit

namespace Files

-- All that a run of the program can change, as a value.
structure Session where
  tree : Tree := {}
  notes : List Note := []
  said : List String := []
  complaints : List String := []

namespace Session

def change (request : Tree → Except Fault Tree) : StateM Session (Except Fault Unit) :=
  fun session =>
    match request session.tree with
    | .error fault => (.error fault, session)
    | .ok tree => (.ok (), { session with tree })

instance : Host (StateM Session) where
  read path session := (session.tree.read path, session)
  isDirectory path session := (session.tree.isDirectory path, session)
  makeDirectory path := change (·.makeDirectory path)
  create path := change (·.create path)
  fill path bytes := change (·.write path bytes)
  rename source target := change (·.rename source target)
  remove path := change (·.remove path)
  note note session := ((), { session with notes := session.notes ++ [note] })
  say text session := ((), { session with said := session.said ++ [text] })
  complain text session := ((), { session with complaints := session.complaints ++ [text] })

end Session

end Files

end EffectTables
