import EffectTables.Proofs.Files.Faithful

namespace EffectTables

namespace Files

section

variable {σ τ α β : Type} {related : σ → τ → Prop}

-- Work in two states that are related: the answers are the same and the states stay related.
def Lockstep (related : σ → τ → Prop) (work : StateM σ α) (other : StateM τ α) : Prop :=
  ∀ state twin, related state twin →
    (work state).1 = (other twin).1 ∧ related (work state).2 (other twin).2

namespace Lockstep

variable {work : StateM σ α} {other : StateM τ α}

theorem pure (a : α) : Lockstep related (Pure.pure a) (Pure.pure a) := fun _ _ h => ⟨rfl, h⟩

theorem bind (h : Lockstep related work other) {next : α → StateM σ β} {later : α → StateM τ β}
    (hnext : ∀ a, Lockstep related (next a) (later a)) :
    Lockstep related (work >>= next) (other >>= later) := by
  intro state twin hrelated
  obtain ⟨hanswer, hstates⟩ := h state twin hrelated
  have hlater := hnext (work state).1 (work state).2 (other twin).2 hstates
  show (next (work state).1 (work state).2).1 = (later (other twin).1 (other twin).2).1 ∧
    related (next (work state).1 (work state).2).2 (later (other twin).1 (other twin).2).2
  rwa [← hanswer]

theorem run (h : Lockstep related work other) {before after : σ} {twin : τ} {a : α}
    (hrelated : related before twin) (hrun : work before = (a, after)) :
    ∃ last, other twin = (a, last) ∧ related after last := by
  obtain ⟨hanswer, hstates⟩ := h before twin hrelated
  rw [hrun] at hanswer hstates
  exact ⟨_, Prod.ext hanswer.symm rfl, hstates⟩

end Lockstep

-- Two hosts that answer alike, and stay related, whatever they are asked to do with files.
structure Paired [Host (StateM σ)] [Host (StateM τ)] (related : σ → τ → Prop) : Prop where
  read : ∀ path, Lockstep related (Host.read path) (Host.read path)
  isDirectory : ∀ path, Lockstep related (Host.isDirectory path) (Host.isDirectory path)
  makeDirectory : ∀ path, Lockstep related (Host.makeDirectory path) (Host.makeDirectory path)
  create : ∀ path, Lockstep related (Host.create path) (Host.create path)
  fill : ∀ path bytes, Lockstep related (Host.fill path bytes) (Host.fill path bytes)
  rename : ∀ source target,
    Lockstep related (Host.rename source target) (Host.rename source target)
  remove : ∀ path, Lockstep related (Host.remove path) (Host.remove path)
  note : ∀ note, Lockstep related (Host.note note) (Host.note note)

end

section

variable {σ φ : Type} [Host (StateM σ)]

-- The files are the same, and no more has been said than the texts.
structure Beside (files : σ → φ) (said : σ → List String) (texts : List String)
    (state twin : σ) : Prop where
  files : files state = files twin
  said : said state = texts

-- What becomes of the files depends on nothing but the files, and nothing is said unasked.
structure Discreet (files : σ → φ) (said : σ → List String) : Prop where
  paired : ∀ texts, Paired (Beside files said texts)
  note : ∀ {n : Note} {before after : σ} {answer : Unit},
    (Host.note n : StateM σ Unit) before = (answer, after) →
      Beside files said (said before) after before
  say : ∀ {text : String} {before after : σ} {answer : Unit},
    (Host.say text : StateM σ Unit) before = (answer, after) →
      Beside files said (said before ++ [text]) after before
  complain : ∀ {text : String} {before after : σ} {answer : Unit},
    (Host.complain text : StateM σ Unit) before = (answer, after) →
      Beside files said (said before) after before

end

namespace Session

variable {texts : List String}

theorem lockstep_change (request : Tree → Except Fault Tree) :
    Lockstep (Beside tree said texts) (change request) (change request) := by
  intro state twin h
  rw [change, change, ← h.files]
  cases request state.tree with
  | error fault => exact ⟨rfl, h⟩
  | ok later => exact ⟨rfl, rfl, h.said⟩

theorem paired (texts : List String) : Paired (Beside tree said texts) where
  read path _ _ h := ⟨congrArg (Tree.read · path) h.files, h⟩
  isDirectory path _ _ h := ⟨congrArg (Tree.isDirectory · path) h.files, h⟩
  makeDirectory _ := lockstep_change _
  create _ := lockstep_change _
  fill _ _ := lockstep_change _
  rename _ _ := lockstep_change _
  remove _ := lockstep_change _
  note _ _ _ h := ⟨rfl, h.files, h.said⟩

theorem discreet : Discreet tree said where
  paired := paired
  note h := by
    cases h
    exact ⟨rfl, rfl⟩
  say h := by
    cases h
    exact ⟨rfl, rfl⟩
  complain h := by
    cases h
    exact ⟨rfl, rfl⟩

end Session

namespace Contrary

variable {α : Type} {texts : List String} {work : StateM Session α}

-- The files, and which of the requests to come are refused.
def outlook (contrary : Contrary) : Tree × List (Option Refusal) :=
  (contrary.session.tree, contrary.refusals)

def said (contrary : Contrary) : List String := contrary.session.said

theorem lockstep_always (h : Lockstep (Beside Session.tree Session.said texts) work work) :
    Lockstep (Beside outlook said texts) (always work) (always work) := by
  intro state twin hbeside
  obtain ⟨htree, hrefusals⟩ := Prod.mk.inj hbeside.files
  obtain ⟨hanswer, hstates⟩ := h state.session twin.session ⟨htree, hbeside.said⟩
  exact ⟨hanswer, Prod.ext hstates.files hrefusals, hstates.said⟩

theorem lockstep_grant {refuse : Refusal → StateM Session α}
    (h : Lockstep (Beside Session.tree Session.said texts) work work)
    (hrefuse : ∀ refusal,
      Lockstep (Beside Session.tree Session.said texts) (refuse refusal) (refuse refusal)) :
    Lockstep (Beside outlook said texts) (grant work refuse) (grant work refuse) := by
  intro state twin hbeside
  obtain ⟨htree, hrefusals⟩ := Prod.mk.inj hbeside.files
  have hgranted : Lockstep (Beside Session.tree Session.said texts)
      (state.refusals.head?.join.elim work refuse) (twin.refusals.head?.join.elim work refuse) := by
    rw [hrefusals]
    cases twin.refusals.head?.join with
    | none => exact h
    | some refusal => exact hrefuse refusal
  obtain ⟨hanswer, hstates⟩ := hgranted state.session twin.session ⟨htree, hbeside.said⟩
  exact ⟨hanswer, Prod.ext hstates.files (congrArg List.tail hrefusals), hstates.said⟩

theorem paired (texts : List String) : Paired (Beside outlook said texts) where
  read path := lockstep_grant ((Session.paired texts).read path) fun _ => .pure _
  isDirectory path := lockstep_always ((Session.paired texts).isDirectory path)
  makeDirectory path := lockstep_grant ((Session.paired texts).makeDirectory path) fun _ => .pure _
  create path := lockstep_grant ((Session.paired texts).create path) fun _ => .pure _
  fill path bytes := lockstep_grant ((Session.paired texts).fill path bytes) fun _ =>
    ((Session.paired texts).fill path _).bind fun _ => .pure _
  rename source target :=
    lockstep_grant ((Session.paired texts).rename source target) fun _ => .pure _
  remove path := lockstep_always ((Session.paired texts).remove path)
  note note := lockstep_always ((Session.paired texts).note note)

theorem discreet : Discreet outlook said where
  paired := paired
  note h := by
    cases h
    exact ⟨rfl, rfl⟩
  say h := by
    cases h
    exact ⟨rfl, rfl⟩
  complain h := by
    cases h
    exact ⟨rfl, rfl⟩

end Contrary

end Files

namespace Job

variable {σ τ α β : Type} {related : σ → τ → Prop}

def Lockstep (related : σ → τ → Prop) (job : Job (StateM σ) α) (other : Job (StateM τ) α) : Prop :=
  Files.Lockstep related job.run other.run

namespace Lockstep

variable {job : Job (StateM σ) α} {other : Job (StateM τ) α}

theorem ends (h : Lockstep related job other) {before after : σ} {twin : τ}
    {outcome : Except Failure α} (hrelated : related before twin)
    (hends : job.Ends before outcome after) :
    ∃ last, other.Ends twin outcome last ∧ related after last :=
  Files.Lockstep.run h hrelated hends

theorem pure (a : α) : Lockstep related (Pure.pure a) (Pure.pure a) := fun _ _ h => ⟨rfl, h⟩

theorem fail (failure : Failure) :
    Lockstep (α := α) related (Job.fail failure) (Job.fail failure) := fun _ _ h => ⟨rfl, h⟩

theorem bind (h : Lockstep related job other) {next : α → Job (StateM σ) β}
    {later : α → Job (StateM τ) β} (hnext : ∀ a, Lockstep related (next a) (later a)) :
    Lockstep related (job >>= next) (other >>= later) := by
  show Files.Lockstep related (job.run >>= ExceptT.bindCont next)
    (other.run >>= ExceptT.bindCont later)
  refine Files.Lockstep.bind h fun result => ?_
  cases result with
  | error failure => exact .pure _
  | ok a => exact hnext a

theorem request {work : StateM σ (Except Files.Fault α)} {same : StateM τ (Except Files.Fault α)}
    (h : Files.Lockstep related work same) (failure : Files.Fault → Failure) :
    Lockstep related (Job.request failure work) (Job.request failure same) :=
  Files.Lockstep.bind h fun _ => .pure _

theorem perform {work : StateM σ α} {same : StateM τ α} (h : Files.Lockstep related work same) :
    Lockstep related (Job.perform work) (Job.perform same) :=
  Files.Lockstep.bind h fun _ => .pure _

section

variable [Host (StateM σ)] [Host (StateM τ)] (law : Files.Paired related)
include law

theorem note (n : Note) : Lockstep related (Job.note n) (Job.note n) := perform (law.note n)

theorem ofTraced (work : Traced Failure α) :
    Lockstep related (Job.ofTraced work) (Job.ofTraced work) := by
  refine Files.Lockstep.bind ?_ fun _ => .pure _
  induction work.notes with
  | nil => exact .pure _
  | cons n rest ih => exact (law.note n).bind fun _ => ih

end

end Lockstep

end Job

end EffectTables
