import EffectTables.Proofs.Files.Removal
import Mathlib.Data.List.Induction

namespace EffectTables.Files.Tree

variable {tree before after : Tree} {path directory name : String} {place found : Place}

-- What there is stands in a directory.
def Grounded (tree : Tree) : Prop :=
  ∀ place name, (tree.node? (place ++ [name])).isSome → tree.node? place = some .directory

-- All the way from the root to the place there are directories.
def Reached (tree : Tree) (place : Place) : Prop :=
  ∀ front, front <+: place → tree.node? front = some .directory

-- Wherever the path turns back by two dots, it has got as far as that.
def Passable (tree : Tree) (path : String) : Prop :=
  ∀ front rest, Path.names path = front ++ ".." :: rest → ∃ place, tree.walk [] front = .ok place

-- A path that never turns back can be passed, whatever there is.
theorem passable_of_onward (h : ".." ∉ Path.names path) : tree.Passable path := by
  intro front rest hnames
  rw [hnames] at h
  exact absurd (List.mem_append_right front List.mem_cons_self) h

-- Whether a tree is grounded shows in its list of nodes.
theorem grounded_of_nodes (h : ∀ entry ∈ tree.nodes, tree.holdsDirectory entry.1.dropLast) :
    tree.Grounded := by
  intro place name hnode
  rw [node?, if_neg (by simp), List.lookup_isSome_iff] at hnode
  obtain ⟨entry, hentry, hplace⟩ := hnode
  have habove := holdsDirectory_iff.mp (h entry hentry)
  rwa [← eq_of_beq hplace, List.dropLast_concat] at habove

theorem reached_root (tree : Tree) : tree.Reached [] := by
  intro front hfront
  rw [List.prefix_nil.mp hfront]
  rfl

theorem Reached.parent (h : tree.Reached place) : tree.Reached place.dropLast :=
  fun front hfront => h front (hfront.trans (List.dropLast_prefix place))

theorem Reached.enter (h : tree.Reached place)
    (hnode : tree.node? (place ++ [name]) = some .directory) : tree.Reached (place ++ [name]) := by
  intro front hfront
  rcases List.prefix_concat_iff.mp hfront with rfl | hfront
  · exact hnode
  · exact h front hfront

-- In a grounded tree a place is reached as soon as there is a directory.
theorem Grounded.reached (h : tree.Grounded) (hplace : tree.node? place = some .directory) :
    tree.Reached place := by
  induction place using List.reverseRecOn with
  | nil => exact tree.reached_root
  | append_singleton place name ih => exact (ih (h place name (by simp [hplace]))).enter hplace

-- A walk goes down by a name if there is a directory of that name.
theorem walk_cons_eq_ok_iff {rest : List String} (hdot : name ≠ ".") (hdots : name ≠ "..") :
    tree.walk place (name :: rest) = .ok found ↔
      name.utf8ByteSize ≤ longestName ∧ tree.node? (place ++ [name]) = some .directory ∧
        tree.walk (place ++ [name]) rest = .ok found := by
  rw [walk, if_neg hdot, if_neg hdots]
  by_cases hlength : longestName < name.utf8ByteSize
  · rw [if_pos hlength]
    refine iff_of_false (fun h => ?_) fun h => Nat.not_lt.mpr h.1 hlength
    cases h
  · rw [if_neg hlength]
    rcases tree.node? (place ++ [name]) with _ | _ | _ <;> simp [Nat.not_lt.mp hlength]

theorem walk_reached {names : List String} (hplace : tree.Reached place)
    (h : tree.walk place names = .ok found) : tree.Reached found := by
  induction names generalizing place with
  | nil =>
      cases h
      exact hplace
  | cons name rest ih =>
      by_cases hdot : name = "."
      · rw [walk, if_pos hdot] at h
        exact ih hplace h
      by_cases hdots : name = ".."
      · rw [walk, if_neg hdot, if_pos hdots] at h
        exact ih hplace.parent h
      obtain ⟨-, hnode, h⟩ := (walk_cons_eq_ok_iff hdot hdots).mp h
      exact ih (hplace.enter hnode) h

-- Who never turns back ends below where he began.
theorem prefix_of_walk {names : List String} (hback : ".." ∉ names)
    (h : tree.walk place names = .ok found) : place <+: found := by
  induction names generalizing place with
  | nil =>
      cases h
      exact List.prefix_rfl
  | cons name rest ih =>
      rw [List.mem_cons, not_or] at hback
      obtain ⟨hdots, hrest⟩ := hback
      by_cases hdot : name = "."
      · rw [walk, if_pos hdot] at h
        exact ih hrest h
      · obtain ⟨-, -, h⟩ := (walk_cons_eq_ok_iff hdot (Ne.symm hdots)).mp h
        exact (List.prefix_append place [name]).trans (ih hrest h)

-- A way that a later tree has is there already if it ends where the earlier tree has directories
-- and turns back only where the earlier tree lets it come to. The steps after the last turn lead
-- down to the end, and those before it are part of what the earlier tree can pass.
theorem walk_of_later {names : List String} (h : after.walk place names = .ok found)
    (hfound : before.Reached found)
    (hpass : ∀ front rest, names = front ++ ".." :: rest →
      ∃ turn, before.walk place front = .ok turn) :
    before.walk place names = .ok found := by
  induction names generalizing place with
  | nil => exact h
  | cons name rest ih =>
      by_cases hdot : name = "."
      · rw [walk, if_pos hdot] at h ⊢
        refine ih h fun front more hrest => ?_
        obtain ⟨turn, hturn⟩ := hpass (name :: front) more (by rw [hrest, List.cons_append])
        rw [walk, if_pos hdot] at hturn
        exact ⟨turn, hturn⟩
      by_cases hdots : name = ".."
      · rw [walk, if_neg hdot, if_pos hdots] at h ⊢
        refine ih h fun front more hrest => ?_
        obtain ⟨turn, hturn⟩ := hpass (name :: front) more (by rw [hrest, List.cons_append])
        rw [walk, if_neg hdot, if_pos hdots] at hturn
        exact ⟨turn, hturn⟩
      rw [walk_cons_eq_ok_iff hdot hdots] at h ⊢
      obtain ⟨hlength, -, h⟩ := h
      have hpassed : ∀ front more, rest = front ++ ".." :: more → ∃ turn,
          before.node? (place ++ [name]) = some .directory ∧
            before.walk (place ++ [name]) front = .ok turn := by
        intro front more hrest
        obtain ⟨turn, hturn⟩ := hpass (name :: front) more (by rw [hrest, List.cons_append])
        obtain ⟨-, hnode, hturn⟩ := (walk_cons_eq_ok_iff hdot hdots).mp hturn
        exact ⟨turn, hnode, hturn⟩
      have hnode : before.node? (place ++ [name]) = some .directory := by
        by_cases hback : ".." ∈ rest
        · obtain ⟨front, more, hrest⟩ := List.append_of_mem hback
          obtain ⟨_, hnode, -⟩ := hpassed front more hrest
          exact hnode
        · exact hfound _ (prefix_of_walk hback h)
      refine ⟨hlength, hnode, ih h fun front more hrest => ?_⟩
      obtain ⟨turn, -, hturn⟩ := hpassed front more hrest
      exact ⟨turn, hturn⟩

-- Where a path leads, there is a directory to hold something.
theorem Leads.above (h : tree.Leads path (place ++ [name])) :
    tree.node? place = some .directory := by
  obtain ⟨location, hlocate, hplace⟩ := h
  rw [locate] at hlocate
  split at hlocate
  next => cases hlocate
  split at hlocate
  next =>
    cases hlocate
    cases (List.append_eq_nil_iff.mp hplace.symm).2
  next last _ =>
    obtain ⟨parent, hwalk, harrive⟩ := Outcome.bind_eq_ok_iff.mp hlocate
    have hparent : tree.Reached parent := walk_reached tree.reached_root hwalk
    have hbelow : ∀ reached, tree.Reached reached → reached = place ++ [name] →
        tree.node? place = some .directory := by
      rintro _ hreached rfl
      exact hreached place (List.prefix_append place [name])
    rw [arrive] at harrive
    split at harrive
    next =>
      cases harrive
      exact hbelow parent hparent hplace
    next =>
      split at harrive
      next =>
        cases harrive
        exact hbelow _ hparent.parent hplace
      next =>
        split at harrive
        next => cases harrive
        next =>
          cases harrive
          rw [← (List.append_inj' hplace rfl).1]
          exact hparent parent List.prefix_rfl

-- A tree stays grounded when directories stay and what is new stands where a path leads.
theorem Grounded.keeps (h : before.Grounded) (hkeeps : before.Keeps after)
    (hnew : ∀ place, (after.node? place).isSome → (before.node? place).isSome ∨
      ∃ path, after.Leads path place) : after.Grounded := by
  intro place name hnode
  rcases hnew _ hnode with hold | ⟨path, hleads⟩
  · exact hkeeps place (h place name hold)
  · exact hleads.above

theorem Grounded.shrinks (h : before.Grounded) (hshrinks : before.Shrinks after) :
    after.Grounded := by
  refine h.keeps hshrinks.keeps fun place hnode => .inl ?_
  rcases hshrinks place with hsame | ⟨-, hgone⟩
  · exact hsame ▸ hnode
  · rw [hgone] at hnode
    cases hnode

-- A file that a path leads to later on is where the path leads already, as long as the path does
-- not turn back from what is missing.
theorem Names.of_later (h : after.Names (Path.join directory name) place)
    (hname : Path.isPlainName name) (hgrounded : before.Grounded)
    (hpass : before.Passable directory) (hnode : (before.node? place).isSome) :
    before.Names (Path.join directory name) place := by
  obtain ⟨parent, hwalk, rfl⟩ := h.leads.of_join hname
  have hreached : before.Reached parent := hgrounded.reached (hgrounded parent name hnode)
  obtain ⟨above, last, hlocate, hplace⟩ := h
  have hbefore := walk_of_later hwalk hreached hpass
  refine ⟨above, last, ?_, hplace⟩
  rw [locate_join hname hbefore, ← locate_join hname hwalk, hlocate]

end EffectTables.Files.Tree
