import EffectTables.Traced
import Mathlib.Data.List.Forall2

namespace EffectTables

namespace Outcome

variable {ε δ α β : Type}

theorem bind_eq_ok_iff {work : Except ε α} {next : α → Except ε β} {b : β} :
    (work >>= next) = .ok b ↔ ∃ a, work = .ok a ∧ next a = .ok b := by
  cases work <;> simp [bind, Except.bind]

theorem bind_eq_error_iff {work : Except ε α} {next : α → Except ε β} {e : ε} :
    (work >>= next) = .error e ↔ work = .error e ∨ ∃ a, work = .ok a ∧ next a = .error e := by
  cases work <;> simp [bind, Except.bind]

theorem pure_eq_ok_iff {a b : α} : (pure a : Except ε α) = .ok b ↔ a = b := by
  simp [pure, Except.pure]

theorem mapError_eq_ok_iff {work : Except ε α} {f : ε → δ} {a : α} :
    work.mapError f = .ok a ↔ work = .ok a := by
  cases work <;> simp [Except.mapError]

theorem mapError_eq_error_iff {work : Except ε α} {f : ε → δ} {d : δ} :
    work.mapError f = .error d ↔ ∃ e, work = .error e ∧ f e = d := by
  cases work <;> simp [Except.mapError]

theorem exists_of_isOk {work : Except ε α} (h : work.isOk) : ∃ a, work = .ok a := by
  cases work with
  | error e => cases h
  | ok a => exact ⟨a, rfl⟩

-- Work on a list succeeds if and only if it succeeds on each item.
theorem mapM_eq_ok_iff {f : α → Except ε β} {xs : List α} {ys : List β} :
    xs.mapM f = .ok ys ↔ List.Forall₂ (fun x y => f x = .ok y) xs ys := by
  induction xs generalizing ys with
  | nil => simp [pure, Except.pure, eq_comm]
  | cons x xs ih =>
      simp only [List.mapM_cons, bind_eq_ok_iff, pure_eq_ok_iff, ih, List.forall₂_cons_left_iff]
      constructor
      · intro h
        obtain ⟨y, hy, rest, hrest, rfl⟩ := h
        exact ⟨y, rest, hy, hrest, rfl⟩
      · intro h
        obtain ⟨y, rest, hy, hrest, rfl⟩ := h
        exact ⟨y, hy, rest, hrest, rfl⟩

-- Work on a list fails at an item if and only if it succeeds on all items before.
theorem mapM_eq_error_iff {f : α → Except ε β} {xs : List α} {e : ε} :
    xs.mapM f = .error e ↔
      ∃ front x rest, xs = front ++ x :: rest ∧ (∀ y ∈ front, ∃ b, f y = .ok b) ∧
        f x = .error e := by
  induction xs with
  | nil => simp [pure, Except.pure]
  | cons x xs ih =>
      simp only [List.mapM_cons, bind_eq_error_iff, ih, pure, Except.pure, reduceCtorEq, and_false,
        exists_false, or_false]
      constructor
      · rintro (hfirst | ⟨b, hb, front, y, rest, rfl, hfront, hy⟩)
        · exact ⟨[], x, xs, rfl, nofun, hfirst⟩
        · exact ⟨x :: front, y, rest, rfl, List.forall_mem_cons.mpr ⟨⟨b, hb⟩, hfront⟩, hy⟩
      · rintro ⟨front, y, rest, hsplit, hfront, hy⟩
        rcases List.cons_eq_append_iff.mp hsplit with ⟨rfl, hhere⟩ | ⟨front, rfl, rfl⟩
        · cases hhere
          exact .inl hy
        · obtain ⟨⟨b, hb⟩, hfront⟩ := List.forall_mem_cons.mp hfront
          exact .inr ⟨b, hb, front, y, rest, rfl, hfront, hy⟩

end Outcome

namespace Traced

variable {ε δ α β γ : Type}

theorem outcome_bind_eq_ok_iff {work : Traced ε α} {next : α → Traced ε β} {b : β} :
    (work >>= next).outcome = .ok b ↔
      ∃ a, work.outcome = .ok a ∧ (next a).outcome = .ok b := by
  show (work.andThen next).outcome = .ok b ↔ _
  unfold andThen
  cases work.outcome <;> simp

theorem outcome_bind_eq_error_iff {work : Traced ε α} {next : α → Traced ε β} {e : ε} :
    (work >>= next).outcome = .error e ↔
      work.outcome = .error e ∨ ∃ a, work.outcome = .ok a ∧ (next a).outcome = .error e := by
  show (work.andThen next).outcome = .error e ↔ _
  unfold andThen
  cases work.outcome <;> simp

@[simp] theorem outcome_pure (a : α) : (pure a : Traced ε α).outcome = .ok a := rfl

@[simp] theorem outcome_fail (e : ε) : (fail e : Traced ε α).outcome = .error e := rfl

@[simp] theorem outcome_ofExcept (outcome : Except ε α) :
    (ofExcept outcome).outcome = outcome := rfl

@[simp] theorem outcome_mapError (work : Traced ε α) (f : ε → δ) :
    (work.mapError f).outcome = work.outcome.mapError f := rfl

-- A note in between does not change an outcome.
@[simp] theorem outcome_note_bind (n : Note) (next : Unit → Traced ε α) :
    (note n >>= next).outcome = (next ()).outcome := rfl

-- Work that succeeds as a whole makes the notes of its parts, one part after the other.
theorem bind_eq_ok_iff {work : Traced ε α} {next : α → Traced ε β} {notes : List Note} {b : β} :
    work >>= next = ⟨notes, .ok b⟩ ↔
      ∃ a first later, work = ⟨first, .ok a⟩ ∧ next a = ⟨later, .ok b⟩ ∧
        first ++ later = notes := by
  obtain ⟨first, outcome⟩ := work
  show andThen _ next = _ ↔ _
  cases outcome with
  | error e => simp [andThen]
  | ok a =>
      simp only [andThen, Traced.mk.injEq, Except.ok.injEq]
      constructor
      · intro h
        obtain ⟨hnotes, hnext⟩ := h
        exact ⟨a, first, (next a).notes, ⟨rfl, rfl⟩, by rw [← hnext], hnotes⟩
      · intro h
        obtain ⟨_, _, later, ⟨rfl, rfl⟩, hnext, hnotes⟩ := h
        rw [hnext]
        exact ⟨hnotes, rfl⟩

-- Work that fails keeps the notes that were made up to then.
theorem bind_eq_error_iff {work : Traced ε α} {next : α → Traced ε β} {notes : List Note} {e : ε} :
    work >>= next = ⟨notes, .error e⟩ ↔
      work = ⟨notes, .error e⟩ ∨ ∃ a first later, work = ⟨first, .ok a⟩ ∧
        next a = ⟨later, .error e⟩ ∧ first ++ later = notes := by
  obtain ⟨first, outcome⟩ := work
  show andThen _ next = _ ↔ _
  cases outcome with
  | error e => simp [andThen]
  | ok a =>
      simp only [andThen, Traced.mk.injEq, Except.ok.injEq, reduceCtorEq, and_false, false_or]
      constructor
      · intro h
        obtain ⟨hnotes, hnext⟩ := h
        exact ⟨a, first, (next a).notes, ⟨rfl, rfl⟩, by rw [← hnext], hnotes⟩
      · intro h
        obtain ⟨_, _, later, ⟨rfl, rfl⟩, hnext, hnotes⟩ := h
        rw [hnext]
        exact ⟨hnotes, rfl⟩

theorem ofExcept_bind_eq_ok_iff {outcome : Except ε α} {next : α → Traced ε β}
    {notes : List Note} {b : β} :
    ofExcept outcome >>= next = ⟨notes, .ok b⟩ ↔
      ∃ a, outcome = .ok a ∧ next a = ⟨notes, .ok b⟩ := by
  rw [bind_eq_ok_iff]
  simp [ofExcept, Traced.mk.injEq, and_assoc]

theorem pure_eq_ok_iff {notes : List Note} {a b : α} :
    (pure a : Traced ε α) = ⟨notes, .ok b⟩ ↔ notes = [] ∧ a = b := by
  show Traced.mk [] (.ok a) = _ ↔ _
  rw [Traced.mk.injEq, Except.ok.injEq, eq_comm]

-- All that is noted on the way is of one kind, however the work ends.
def Remarks (P : Note → Prop) (work : Traced ε α) : Prop := ∀ n ∈ work.notes, P n

namespace Remarks

variable {P : Note → Prop}

theorem pure (a : α) : Remarks (ε := ε) P (Pure.pure a) := nofun

theorem fail (e : ε) : Remarks (α := α) P (fail e) := nofun

theorem ofExcept (outcome : Except ε α) : Remarks P (ofExcept outcome) := nofun

theorem note {n : Note} (h : P n) : Remarks (ε := ε) P (note n) := List.forall_mem_singleton.mpr h

theorem bind {work : Traced ε α} {next : α → Traced ε β} (h : work.Remarks P)
    (hnext : ∀ a, (next a).Remarks P) : (work >>= next).Remarks P := by
  obtain ⟨notes, outcome⟩ := work
  cases outcome with
  | error e => exact h
  | ok a => exact List.forall_mem_append.mpr ⟨h, hnext a⟩

end Remarks

-- The work does not end with the error.
def Avoids (error : ε) (work : Traced ε α) : Prop := work.outcome ≠ .error error

namespace Avoids

variable {error : ε}

theorem pure (a : α) : Avoids error (Pure.pure a) := nofun

theorem ofExcept {outcome : Except ε α} (h : outcome ≠ .error error) :
    Avoids error (ofExcept outcome) := h

theorem fail {other : ε} (h : other ≠ error) : Avoids (α := α) error (fail other) :=
  ofExcept fun herror => h (Except.error.inj herror)

theorem note (n : Note) : Avoids error (note n) := nofun

theorem bind {work : Traced ε α} {next : α → Traced ε β} (h : work.Avoids error)
    (hnext : ∀ a, (next a).Avoids error) : (work >>= next).Avoids error := by
  intro herror
  rcases outcome_bind_eq_error_iff.mp herror with herror | ⟨a, -, herror⟩
  · exact h herror
  · exact hnext a herror

end Avoids

theorem outcome_bind_of_ok {work : Traced ε α} {a : α} (h : work.outcome = .ok a)
    (next : α → Traced ε β) : (work >>= next).outcome = (next a).outcome := by
  show (work.andThen next).outcome = _
  unfold andThen
  rw [h]

theorem map_outcome_bind (work : Traced ε α) (next : α → Traced ε β) (f : β → γ) :
    (work >>= next).outcome.map f = work.outcome.bind fun a => (next a).outcome.map f := by
  show (work.andThen next).outcome.map f = _
  unfold andThen
  cases work.outcome <;> rfl

-- Two pieces of work that begin alike and go on alike end alike.
theorem map_outcome_bind_congr {first second : Traced ε α} {next later : α → Traced ε β}
    {f : α → γ} {g : β → δ} (hfirst : first.outcome.map f = second.outcome.map f)
    (h : ∀ a b, f a = f b → (next a).outcome.map g = (later b).outcome.map g) :
    (first >>= next).outcome.map g = (second >>= later).outcome.map g := by
  rw [map_outcome_bind, map_outcome_bind]
  cases hleft : first.outcome <;> cases hright : second.outcome <;>
    simp only [hleft, hright, Except.map, reduceCtorEq, Except.ok.injEq, Except.error.injEq]
      at hfirst
  case error.error => exact congrArg Except.error hfirst
  case ok.ok a b => exact h a b hfirst

theorem map_outcome_bind_right {work : Traced ε α} {next later : α → Traced ε β} {g : β → δ}
    (h : ∀ a, (next a).outcome.map g = (later a).outcome.map g) :
    (work >>= next).outcome.map g = (work >>= later).outcome.map g := by
  refine map_outcome_bind_congr (f := id) rfl ?_
  rintro a _ rfl
  exact h a

end Traced

end EffectTables
