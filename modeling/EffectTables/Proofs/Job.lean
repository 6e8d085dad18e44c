import EffectTables.Job

namespace EffectTables

open Files (Session)

namespace Files.Session

variable {α β σ : Type}

section

variable {before after : σ}

-- One piece of work after another.
theorem bind_eq_iff {work : StateM σ α} {next : α → StateM σ β} {b : β} :
    (work >>= next) before = (b, after) ↔
      ∃ a middle, work before = (a, middle) ∧ next a middle = (b, after) := by
  constructor
  · intro h
    exact ⟨(work before).1, (work before).2, rfl, h⟩
  · intro h
    obtain ⟨a, middle, hwork, hnext⟩ := h
    show next (work before).1 (work before).2 = (b, after)
    rw [hwork]
    exact hnext

theorem pure_eq_iff {a b : α} :
    (pure a : StateM σ α) before = (b, after) ↔ a = b ∧ before = after :=
  Prod.mk.injEq _ _ _ _ ▸ Iff.rfl

end

-- A request either changes the tree or leaves all as it is.
theorem of_change {before after : Session} {request : Files.Tree → Except Files.Fault Files.Tree}
    {outcome : Except Files.Fault Unit} (h : change request before = (outcome, after)) :
    (∃ fault, outcome = .error fault ∧ request before.tree = .error fault ∧ before = after) ∨
      outcome = .ok () ∧ request before.tree = .ok after.tree := by
  rw [change] at h
  split at h
  next fault hfault =>
    cases h
    exact .inl ⟨fault, rfl, hfault, rfl⟩
  next tree htree =>
    cases h
    exact .inr ⟨rfl, htree⟩

theorem change_of_ok {request : Files.Tree → Except Files.Fault Files.Tree} {before : Session}
    {tree : Files.Tree} (h : request before.tree = .ok tree) :
    change request before = (.ok (), { before with tree }) := by
  rw [change, h]

end Files.Session

namespace Job

variable {α β σ : Type}

-- How a job ends and what it leaves behind.
def Ends (job : Job (StateM σ) α) (before : σ) (outcome : Except Failure α) (after : σ) : Prop :=
  job.run.run before = (outcome, after)

section

variable {before after : σ}

-- A job goes on if what it began with has come to an end without a failure.
theorem ends_bind_iff {job : Job (StateM σ) α} {next : α → Job (StateM σ) β}
    {outcome : Except Failure β} :
    Ends (job >>= next) before outcome after ↔
      (∃ a middle, job.Ends before (.ok a) middle ∧ (next a).Ends middle outcome after) ∨
        ∃ failure, job.Ends before (.error failure) after ∧ outcome = .error failure := by
  have hrun : (job >>= next).run.run before =
      match job.run.run before with
      | (.ok a, middle) => (next a).run.run middle
      | (.error failure, middle) => (.error failure, middle) := by
    show ExceptT.bindCont next (job.run.run before).1 (job.run.run before).2 = _
    rcases job.run.run before with ⟨_ | _, _⟩ <;> rfl
  unfold Ends
  rw [hrun]
  rcases job.run.run before with ⟨failure | a, middle⟩
  · constructor
    · intro h
      cases h
      exact .inr ⟨failure, rfl, rfl⟩
    · intro h
      obtain ⟨a, middle, hjob, -⟩ | ⟨failure, hjob, rfl⟩ := h
      · cases hjob
      · cases hjob
        rfl
  · constructor
    · intro h
      exact .inl ⟨a, middle, rfl, h⟩
    · intro h
      obtain ⟨a, middle, hjob, hnext⟩ | ⟨failure, hjob, -⟩ := h
      · cases hjob
        exact hnext
      · cases hjob

-- A job succeeds if both what it began with and what came next did.
theorem ends_bind_ok_iff {job : Job (StateM σ) α} {next : α → Job (StateM σ) β} {b : β} :
    Ends (job >>= next) before (.ok b) after ↔
      ∃ a middle, job.Ends before (.ok a) middle ∧ (next a).Ends middle (.ok b) after := by
  rw [ends_bind_iff]
  exact or_iff_left fun ⟨_, _, hfailure⟩ => nomatch hfailure

theorem ends_pure_iff {a : α} {outcome : Except Failure α} :
    Ends (pure a) before outcome after ↔ .ok a = outcome ∧ before = after :=
  Prod.mk.injEq _ _ _ _ ▸ Iff.rfl

theorem ends_return_iff {job : Job (StateM σ) α} {f : α → β} {b : β} :
    Ends (do return f (← job)) before (.ok b) after ↔
      ∃ a, job.Ends before (.ok a) after ∧ b = f a := by
  rw [ends_bind_ok_iff]
  constructor
  · intro h
    obtain ⟨a, middle, hjob, hreturn⟩ := h
    obtain ⟨hb, rfl⟩ := ends_pure_iff.mp hreturn
    exact ⟨a, hjob, (Except.ok.inj hb).symm⟩
  · intro h
    obtain ⟨a, hjob, rfl⟩ := h
    exact ⟨a, after, hjob, ends_pure_iff.mpr ⟨rfl, rfl⟩⟩

theorem ends_fail_iff {failure : Failure} {outcome : Except Failure α} :
    Ends (fail failure) before outcome after ↔ .error failure = outcome ∧ before = after :=
  Prod.mk.injEq _ _ _ _ ▸ Iff.rfl

theorem ends_request_iff {failure : Files.Fault → Failure}
    {work : StateM σ (Except Files.Fault α)} {outcome : Except Failure α} :
    Ends (request failure work) before outcome after ↔
      ∃ result, work before = (result, after) ∧ result.mapError failure = outcome := by
  constructor
  · intro h
    cases h
    exact ⟨_, rfl, rfl⟩
  · intro h
    obtain ⟨result, hwork, rfl⟩ := h
    show ((work before).1.mapError failure, (work before).2) = _
    rw [hwork]

theorem ends_perform_iff {work : StateM σ α} {outcome : Except Failure α} :
    Ends (perform work) before outcome after ↔
      ∃ a, work before = (a, after) ∧ .ok a = outcome := by
  constructor
  · intro h
    cases h
    exact ⟨_, rfl, rfl⟩
  · intro h
    obtain ⟨a, hwork, rfl⟩ := h
    show (Except.ok (work before).1, (work before).2) = _
    rw [hwork]

end

end Job

end EffectTables
