import EffectTables.Note

namespace EffectTables

-- The outcome of some work together with the notes made on the way. The notes made before a
-- failure are kept.
structure Traced (ε α : Type) where
  notes : List Note
  outcome : Except ε α

namespace Traced

def note (n : Note) : Traced ε Unit := ⟨[n], .ok ()⟩

def fail (e : ε) : Traced ε α := ⟨[], .error e⟩

def ofExcept (outcome : Except ε α) : Traced ε α := ⟨[], outcome⟩

def mapError (f : ε → δ) (work : Traced ε α) : Traced δ α :=
  ⟨work.notes, work.outcome.mapError f⟩

def andThen (work : Traced ε α) (next : α → Traced ε β) : Traced ε β :=
  match work.outcome with
  | .error e => ⟨work.notes, .error e⟩
  | .ok a =>
      let later := next a
      ⟨work.notes ++ later.notes, later.outcome⟩

instance : Monad (Traced ε) where
  pure a := ⟨[], .ok a⟩
  bind := andThen

end Traced

end EffectTables
