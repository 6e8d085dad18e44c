import EffectTables.Failure
import EffectTables.Files.Host
import EffectTables.Traced

namespace EffectTables

-- Work on files that may end in a failure.
abbrev Job (m : Type → Type) := ExceptT Failure m

namespace Job

variable {m : Type → Type} [Monad m] [Host m]

def fail (failure : Failure) : Job m α := ExceptT.mk (pure (.error failure))

-- A request of the host; a fault is the failure of the job.
def request (failure : Files.Fault → Failure) (work : m (Except Files.Fault α)) : Job m α :=
  ExceptT.mk do return (← work).mapError failure

def perform (work : m α) : Job m α := ExceptT.lift work

def note (note : Note) : Job m Unit := perform (Host.note note)

def noteAll : List Note → m Unit
  | [] => pure ()
  | note :: rest => do
      Host.note note
      noteAll rest

-- Work without a host; its notes go to the host.
def ofTraced (work : Traced Failure α) : Job m α :=
  ExceptT.mk do
    noteAll work.notes
    return work.outcome

end Job

end EffectTables
