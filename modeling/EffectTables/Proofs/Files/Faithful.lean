import EffectTables.Proofs.Files.Requests
import EffectTables.Proofs.Job

namespace EffectTables

namespace Files

-- A request to change the tree was done as a tree does it, or refused without a trace.
inductive Answer (request : Tree → Except Fault Tree) (before after : Tree) :
    Except Fault Unit → Prop
  | done (changed : request before = .ok after) : Answer request before after (.ok ())
  | refused (fault : Fault) (same : after = before) : Answer request before after (.error fault)

-- The surroundings deal with one tree. What they say they have done was done as a tree does it,
-- and what they refuse was not, but for a file that was to be filled and may have been in part.
-- To remove a file is refused only as a tree refuses it, and only what is missing is said to be
-- missing when it is to be read.
structure Faithful {σ : Type} [Host (StateM σ)] (tree : σ → Tree) : Prop where
  read : ∀ {path : String} {before after : σ} {found : Except Fault ByteArray},
    (Host.read path : StateM σ _) before = (found, after) →
      tree after = tree before ∧
        (found = (tree before).read path ∨ ∃ fault, found = .error fault ∧ fault ≠ .notFound)
  isDirectory : ∀ {path : String} {before after : σ} {found : Bool},
    (Host.isDirectory path : StateM σ _) before = (found, after) → tree after = tree before
  makeDirectory : ∀ {path : String} {before after : σ} {outcome : Except Fault Unit},
    (Host.makeDirectory path : StateM σ _) before = (outcome, after) →
      Answer (·.makeDirectory path) (tree before) (tree after) outcome
  create : ∀ {path : String} {before after : σ} {outcome : Except Fault Unit},
    (Host.create path : StateM σ _) before = (outcome, after) →
      Answer (·.create path) (tree before) (tree after) outcome
  fill : ∀ {path : String} {bytes : ByteArray} {before after : σ} {outcome : Except Fault Unit},
    (Host.fill path bytes : StateM σ _) before = (outcome, after) →
      Answer (·.write path bytes) (tree before) (tree after) outcome ∨
        ∃ fault part, outcome = .error fault ∧ (tree before).write path part = .ok (tree after)
  rename : ∀ {source target : String} {before after : σ} {outcome : Except Fault Unit},
    (Host.rename source target : StateM σ _) before = (outcome, after) →
      Answer (·.rename source target) (tree before) (tree after) outcome
  remove : ∀ {path : String} {before after : σ} {outcome : Except Fault Unit},
    (Host.remove path : StateM σ _) before = (outcome, after) →
      Answer (·.remove path) (tree before) (tree after) outcome ∧
        ∀ fault, outcome = .error fault → (tree before).remove path = .error fault
  note : ∀ {n : Note} {before after : σ},
    (Host.note n : StateM σ _) before = ((), after) → tree after = tree before

namespace Session

theorem answer_of_change {request : Tree → Except Fault Tree} {before after : Session}
    {outcome : Except Fault Unit} (h : change request before = (outcome, after)) :
    Answer request before.tree after.tree outcome := by
  obtain ⟨fault, rfl, -, hsame⟩ | ⟨rfl, hdone⟩ := of_change h
  · exact .refused fault (congrArg tree hsame.symm)
  · exact .done hdone

theorem faithful : Faithful Session.tree where
  read h := by
    cases h
    exact ⟨rfl, .inl rfl⟩
  isDirectory h := by
    cases h
    rfl
  makeDirectory := answer_of_change
  create := answer_of_change
  fill h := .inl (answer_of_change h)
  rename := answer_of_change
  remove h := by
    refine ⟨answer_of_change h, ?_⟩
    rintro fault rfl
    obtain ⟨_, hfault, hrefused, -⟩ | ⟨hok, -⟩ := of_change h
    · cases hfault
      exact hrefused
    · cases hok
  note h := by
    cases h
    rfl

end Session

-- What keeps a request from being done, and how many of the bytes to be written were written by
-- then. Nothing that is there is called missing.
structure Refusal where
  fault : Fault
  filled : Nat
  present : fault ≠ .notFound

-- A session with a file system that may refuse what could be done, as when it is full or may not
-- be written to. Which of the requests to come are refused is laid down beforehand. To remove a
-- file is never refused.
structure Contrary where
  session : Session := {}
  refusals : List (Option Refusal) := []

namespace Contrary

variable {α : Type}

-- Work that may be refused.
def grant (work : StateM Session α) (refuse : Refusal → StateM Session α) : StateM Contrary α :=
  fun contrary =>
    let answer := (contrary.refusals.head?.join.elim work refuse) contrary.session
    (answer.1, ⟨answer.2, contrary.refusals.tail⟩)

def always (work : StateM Session α) : StateM Contrary α :=
  fun contrary =>
    ((work contrary.session).1, { contrary with session := (work contrary.session).2 })

def refused (refusal : Refusal) : StateM Session (Except Fault α) := pure (.error refusal.fault)

instance : Host (StateM Contrary) where
  read path := grant (Host.read path) refused
  isDirectory path := always (Host.isDirectory path)
  makeDirectory path := grant (Host.makeDirectory path) refused
  create path := grant (Host.create path) refused
  fill path bytes := grant (Host.fill path bytes) fun refusal => do
    let _ ← Host.fill path (bytes.extract 0 refusal.filled)
    refused refusal
  rename source target := grant (Host.rename source target) refused
  remove path := always (Host.remove path)
  note note := always (Host.note note)
  say text := always (Host.say text)
  complain text := always (Host.complain text)

theorem of_grant {work : StateM Session α} {refuse : Refusal → StateM Session α}
    {before after : Contrary} {a : α} (h : grant work refuse before = (a, after)) :
    work before.session = (a, after.session) ∨
      ∃ refusal, refuse refusal before.session = (a, after.session) := by
  cases h
  cases before.refusals.head?.join with
  | none => exact .inl rfl
  | some refusal => exact .inr ⟨refusal, rfl⟩

theorem of_refused {refusal : Refusal} {before after : Session} {outcome : Except Fault α}
    (h : refused refusal before = (outcome, after)) :
    outcome = .error refusal.fault ∧ after.tree = before.tree := by
  obtain ⟨houtcome, hsame⟩ := Session.pure_eq_iff.mp h
  exact ⟨houtcome.symm, congrArg Session.tree hsame.symm⟩

theorem answer_of_grant {request : Tree → Except Fault Tree} {before after : Contrary}
    {outcome : Except Fault Unit}
    (h : grant (Session.change request) refused before = (outcome, after)) :
    Answer request before.session.tree after.session.tree outcome := by
  rcases of_grant h with h | ⟨refusal, h⟩
  · exact Session.answer_of_change h
  · obtain ⟨rfl, hsame⟩ := of_refused h
    exact .refused _ hsame

theorem faithful : Faithful fun contrary : Contrary => contrary.session.tree where
  read h := by
    rcases of_grant h with h | ⟨refusal, h⟩
    · exact Session.faithful.read h
    · obtain ⟨houtcome, hsame⟩ := of_refused h
      exact ⟨hsame, .inr ⟨_, houtcome, refusal.present⟩⟩
  isDirectory h := by
    cases h
    rfl
  makeDirectory := answer_of_grant
  create := answer_of_grant
  fill h := by
    rcases of_grant h with h | ⟨refusal, h⟩
    · exact Session.faithful.fill h
    · obtain ⟨_, middle, hfill, h⟩ := Session.bind_eq_iff.mp h
      obtain ⟨rfl, hsame⟩ := of_refused h
      rcases Session.of_change hfill with ⟨_, -, -, hunfilled⟩ | ⟨-, hpart⟩
      · exact .inl (.refused _ (hsame.trans (congrArg Session.tree hunfilled.symm)))
      · exact .inr ⟨_, _, rfl, hsame ▸ hpart⟩
  rename := answer_of_grant
  remove h := by
    cases h
    exact Session.faithful.remove rfl
  note h := by
    cases h
    rfl

end Contrary

end Files

namespace Job

open Files (Faithful Tree)

variable {σ α : Type} [Host (StateM σ)] {tree : σ → Tree}

theorem tree_note (law : Faithful tree) {n : Note} {before after : σ}
    {outcome : Except Failure Unit} (h : Ends (note n) before outcome after) :
    outcome = .ok () ∧ tree after = tree before := by
  obtain ⟨_, hnote, rfl⟩ := ends_perform_iff.mp h
  exact ⟨rfl, law.note hnote⟩

-- Notes leave the files alone.
theorem tree_noteAll (law : Faithful tree) {notes : List Note} {before after : σ} {answer : Unit}
    (h : (noteAll notes : StateM σ Unit) before = (answer, after)) :
    tree after = tree before := by
  induction notes generalizing before with
  | nil => rw [(Files.Session.pure_eq_iff.mp h).2]
  | cons note rest ih =>
      obtain ⟨_, middle, hnote, hrest⟩ := Files.Session.bind_eq_iff.mp h
      rw [ih hrest, law.note hnote]

theorem tree_ofTraced (law : Faithful tree) {work : Traced Failure α} {before after : σ}
    {outcome : Except Failure α} (h : Ends (ofTraced work) before outcome after) :
    outcome = work.outcome ∧ tree after = tree before := by
  cases h
  exact ⟨rfl, tree_noteAll law rfl⟩

end Job

end EffectTables
