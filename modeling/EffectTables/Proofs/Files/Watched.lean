import EffectTables.Proofs.Files.Lockstep

namespace EffectTables

namespace Files

-- The state of a host with a record of the places where something was made, filled or taken away.
structure Watched {σ : Type} (tree : σ → Tree) where
  state : σ
  touched : List Place := []

namespace Watched

variable {σ α : Type} {tree : σ → Tree} {before middle after : Watched tree} {place : Place}

def files (watched : Watched tree) : Tree := tree watched.state

def touchedBy (tree : Tree) (path : String) : Option Place :=
  match tree.locate path with
  | .error _ => none
  | .ok location => some location.place

-- Work that touches what some paths lead to, which may depend on how it ends.
def watch (paths : α → List String) (work : StateM σ α) : StateM (Watched tree) α :=
  fun watched =>
    let ran := work watched.state
    (ran.1, ⟨ran.2, watched.touched ++ (paths ran.1).filterMap (touchedBy watched.files)⟩)

-- A request touches nothing if it is refused.
def ifDone (paths : List String) : Except Fault Unit → List String
  | .ok () => paths
  | .error _ => []

-- A file that is to be filled is touched in any case: some of the bytes may have been written.
instance [Host (StateM σ)] : Host (StateM (Watched tree)) where
  read path := watch (fun _ => []) (Host.read path)
  isDirectory path := watch (fun _ => []) (Host.isDirectory path)
  makeDirectory path := watch (ifDone [path]) (Host.makeDirectory path)
  create path := watch (ifDone [path]) (Host.create path)
  fill path bytes := watch (fun _ => [path]) (Host.fill path bytes)
  rename source target := watch (ifDone [source, target]) (Host.rename source target)
  remove path := watch (ifDone [path]) (Host.remove path)
  note note := watch (fun _ => []) (Host.note note)
  say text := watch (fun _ => []) (Host.say text)
  complain text := watch (fun _ => []) (Host.complain text)

-- Watched work does what the same work does unwatched.
theorem run_watch {paths : α → List String} {work : StateM σ α} {a : α}
    (h : watch paths work before = (a, after)) : work before.state = (a, after.state) := by
  cases h
  rfl

-- The state is the one that is watched.
def Shows (watched : Watched tree) (state : σ) : Prop := watched.state = state

theorem lockstep_watch (paths : α → List String) (work : StateM σ α) :
    Lockstep (Shows : Watched tree → σ → Prop) (watch paths work) work := by
  rintro before _ rfl
  exact ⟨rfl, rfl⟩

theorem paired [Host (StateM σ)] : Paired (Shows : Watched tree → σ → Prop) where
  read _ := lockstep_watch _ _
  isDirectory _ := lockstep_watch _ _
  makeDirectory _ := lockstep_watch _ _
  create _ := lockstep_watch _ _
  fill _ _ := lockstep_watch _ _
  rename _ _ := lockstep_watch _ _
  remove _ := lockstep_watch _ _
  note _ := lockstep_watch _ _

-- Nothing was done at the place.
def Spares (before after : Watched tree) (place : Place) : Prop :=
  place ∈ after.touched → place ∈ before.touched

namespace Spares

theorem refl (watched : Watched tree) (place : Place) : watched.Spares watched place := id

theorem trans (h : before.Spares middle place) (hlater : middle.Spares after place) :
    before.Spares after place :=
  h ∘ hlater

theorem pure (h : before.Spares middle place) {a b : α}
    (hpure : (Pure.pure a : StateM (Watched tree) α) middle = (b, after)) :
    before.Spares after place := by
  rw [← (Session.pure_eq_iff.mp hpure).2]
  exact h

theorem of_watch {paths : α → List String} {work : StateM σ α} {a : α}
    (h : watch paths work before = (a, after))
    (hplace : ∀ path ∈ paths a, ¬ before.files.Leads path place) : before.Spares after place := by
  cases h
  intro htouched
  refine (List.mem_append.mp htouched).resolve_right fun hnew => ?_
  obtain ⟨path, hpath, hfound⟩ := List.mem_filterMap.mp hnew
  rw [touchedBy] at hfound
  split at hfound
  next => cases hfound
  next location hlocation =>
    exact hplace path hpath ⟨location, hlocation, Option.some.inj hfound⟩

theorem quietly {work : StateM σ α} {a : α}
    (h : watch (fun _ => []) work before = (a, after)) : before.Spares after place :=
  of_watch h fun _ hpath => nomatch hpath

-- A request spares a place that none of its paths leads to if it is done.
theorem ifDone {paths : List String} {request : StateM σ (Except Fault Unit)}
    {outcome : Except Fault Unit}
    (h : watch (Watched.ifDone paths) request before = (outcome, after))
    (hplace : outcome = .ok () → ∀ path ∈ paths, ¬ before.files.Leads path place) :
    before.Spares after place := by
  refine of_watch h fun path hpath => ?_
  cases outcome with
  | ok _ => exact hplace rfl path hpath
  | error _ => cases hpath

end Spares

end Watched

-- A host that is faithful is so when it is watched.
theorem Faithful.watched {σ : Type} [Host (StateM σ)] {tree : σ → Tree} (law : Faithful tree) :
    Faithful (Watched.files : Watched tree → Tree) where
  read h := law.read (Watched.run_watch h)
  isDirectory h := law.isDirectory (Watched.run_watch h)
  makeDirectory h := law.makeDirectory (Watched.run_watch h)
  create h := law.create (Watched.run_watch h)
  fill h := law.fill (Watched.run_watch h)
  rename h := law.rename (Watched.run_watch h)
  remove h := law.remove (Watched.run_watch h)
  note h := law.note (Watched.run_watch h)

end Files

namespace Job

open Files (Tree Watched)

variable {σ α : Type} [Host (StateM σ)] {tree : σ → Tree}

theorem spares_noteAll {notes : List Note} {before after : Watched tree} {place : Files.Place}
    {answer : Unit} (h : (noteAll notes : StateM (Watched tree) Unit) before = (answer, after)) :
    before.Spares after place := by
  induction notes generalizing before with
  | nil => exact (Watched.Spares.refl before place).pure h
  | cons note rest ih =>
      obtain ⟨_, middle, hnote, hrest⟩ := Files.Session.bind_eq_iff.mp h
      exact (Watched.Spares.quietly hnote).trans (ih hrest)

theorem spares_ofTraced {work : Traced Failure α} {before after : Watched tree}
    {place : Files.Place} {outcome : Except Failure α}
    (h : Ends (ofTraced work) before outcome after) : before.Spares after place := by
  cases h
  exact spares_noteAll rfl

end Job

end EffectTables
