import EffectTables.Proofs.Delivery.Generation
import EffectTables.Proofs.Files.Watched

namespace EffectTables

namespace Files.Tree

variable {before after : Tree} {path : String} {bytes : ByteArray} {place other : Place}

theorem Grows.occupied {paths : List String} (h : before.Grows after paths)
    (hplace : (before.node? place).isSome) : (after.node? place).isSome := by
  rcases h place with hsame | hmakes
  · rw [hsame, hplace]
  · rw [hmakes.made]
    rfl

theorem Replaces.occupied (h : before.Replaces after path bytes place)
    (hother : (before.node? other).isSome) : (after.node? other).isSome := by
  by_cases hplace : other = place
  · rw [hplace, h.file]
    rfl
  · rw [h.others other hplace, hother]

-- What is made where there was nothing is not made at the place of something.
theorem Leads.vacant (h : before.Leads path place) (hplace : (before.node? place).isSome)
    (hother : before.Leads path other) (hnone : before.node? other = none) : False := by
  rw [hother.unique h] at hnone
  rw [hnone] at hplace
  cases hplace

end Files.Tree

namespace Delivery

open Files (Tree Faithful Watched Fault)
open Files.Session (bind_eq_iff)
open Files.Watched (Spares)

-- What is generated is reported so.
theorem eq_generated_of_generateFile {σ : Type} [Host (StateM σ)] {path contents : String}
    {before after : σ} {writing : Writing}
    (h : Job.Ends (generateFile path contents) before (.ok writing) after) :
    writing = .generated := by
  obtain ⟨_, _, -, h⟩ := Job.ends_bind_ok_iff.mp h
  obtain ⟨_, _, -, h⟩ := Job.ends_bind_ok_iff.mp h
  cases (Job.ends_pure_iff.mp h).1
  rfl

section

variable {σ : Type} [Host (StateM σ)] {tree : σ → Tree} {before after : Watched tree}
  {path : String} {bytes : ByteArray} {place : Files.Place}

theorem spares_discard {temporary : String} {fault : Fault} {outcome : Except Fault Unit}
    (h : discard (m := StateM (Watched tree)) temporary fault before = (outcome, after))
    (hplace : ¬ before.files.Leads temporary place) : before.Spares after place := by
  obtain ⟨_, middle, hremove, h⟩ := bind_eq_iff.mp h
  exact (Spares.ifDone hremove fun _ => List.forall_mem_singleton.mpr hplace).pure h

theorem spares_readText {outcome : Except Fault String}
    (h : readText (m := StateM (Watched tree)) path before = (outcome, after)) :
    before.Spares after place := by
  obtain ⟨found, middle, hread, h⟩ := bind_eq_iff.mp h
  have hspares : before.Spares middle place := Spares.quietly hread
  split at h
  next => exact hspares.pure h
  next bytes =>
    cases htext : String.fromUTF8? bytes with
    | none =>
        rw [htext] at h
        exact hspares.pure h
    | some text =>
        rw [htext] at h
        exact hspares.pure h

-- To read the input and to judge it touches nothing.
theorem spares_sourcesOf {settings : Settings} {input : String} {sources : Sources}
    (h : Job.Ends (sourcesOf settings input) before (.ok sources) after) :
    before.Spares after place := by
  obtain ⟨document, middle, hdocument, h⟩ := Job.ends_bind_ok_iff.mp h
  obtain ⟨result, hresult, -⟩ := Job.ends_request_iff.mp hdocument
  exact (spares_readText hresult).trans (Job.spares_ofTraced h)

-- A file that was to be filled, be it in full or in part, is no directory.
theorem kept_of_fill (law : Faithful tree) {before after : σ} {outcome : Except Fault Unit}
    (h : (Host.fill path bytes : StateM σ _) before = (outcome, after)) :
    (tree after).Keeps (tree before) := by
  have hkept {content : ByteArray} (hwrite : (tree before).write path content = .ok (tree after)) :
      (tree after).Keeps (tree before) := by
    obtain ⟨_, hnames, hvacant, hput⟩ := Tree.of_write hwrite
    rw [← hput]
    exact (Tree.replaces_put hnames hvacant content).kept
  rcases law.fill h with hanswer | ⟨_, _, _, hpart⟩
  · cases hanswer with
    | done hdone => exact hkept hdone
    | refused fault hsame => exact hsame ▸ .refl _
  · exact hkept hpart

variable (law : Faithful tree) (hplace : (before.files.node? place).isSome)
include law hplace

theorem spares_makeOrFind {outcome : Except Fault Unit}
    (h : makeOrFind (m := StateM (Watched tree)) path before = (outcome, after)) :
    before.Spares after place := by
  obtain ⟨made, middle, hmake, h⟩ := bind_eq_iff.mp h
  have hspares : before.Spares middle place := by
    refine Spares.ifDone hmake fun hmade => List.forall_mem_singleton.mpr fun hleads => ?_
    subst hmade
    cases law.watched.makeDirectory hmake with
    | done hdone =>
        obtain ⟨other, -, hother, hnone, -⟩ := Tree.of_makeDirectory hdone
        exact hleads.vacant hplace hother hnone
  split at h
  next => exact hspares.pure h
  next =>
    obtain ⟨found, later, hfound, h⟩ := bind_eq_iff.mp h
    have hlater : before.Spares later place := hspares.trans (Spares.quietly hfound)
    split at h
    · exact hlater.pure h
    · exact hlater.pure h

theorem spares_makeDirectories {paths : List String} {outcome : Except Fault Unit}
    (h : makeDirectories (m := StateM (Watched tree)) paths before = (outcome, after)) :
    before.Spares after place := by
  induction paths generalizing before after outcome with
  | nil => exact (Spares.refl _ _).pure h
  | cons path above ih =>
      obtain ⟨made, middle, hmake, h⟩ := bind_eq_iff.mp h
      have hfirst : before.Spares middle place := spares_makeOrFind law hplace hmake
      have hmiddle := (grows_makeOrFind law.watched hmake).occupied hplace
      split at h
      next =>
        obtain ⟨found, later, habove, h⟩ := bind_eq_iff.mp h
        have hlater : before.Spares later place := hfirst.trans (ih hmiddle habove)
        split at h
        next =>
          have hgrows := grows_makeDirectories law.watched habove
          exact hlater.trans (spares_makeOrFind law (hgrows.occupied hmiddle) h)
        next => exact hlater.pure h
      next =>
        exact hfirst.pure h

theorem spares_makeDirectory {outcome : Except Fault Unit}
    (h : makeDirectory (m := StateM (Watched tree)) path before = (outcome, after)) :
    before.Spares after place := by
  rw [makeDirectory] at h
  split at h
  · exact (Spares.refl _ _).pure h
  · exact spares_makeDirectories law hplace h

-- A temporary file is made where there is nothing.
theorem spares_makeTemporary {directory : String} {tries : Nat} {outcome : Except Fault String}
    (h : makeTemporary (m := StateM (Watched tree)) directory tries before = (outcome, after)) :
    before.Spares after place := by
  induction tries generalizing before with
  | zero => exact (Spares.refl _ _).pure h
  | succ tries ih =>
      obtain ⟨created, middle, hcreate, h⟩ := bind_eq_iff.mp h
      have hspares : before.Spares middle place := by
        refine Spares.ifDone hcreate fun hmade => List.forall_mem_singleton.mpr fun hleads => ?_
        subst hmade
        cases law.watched.create hcreate with
        | done hdone =>
            obtain ⟨other, hnames, hnone, -⟩ := Tree.of_create hdone
            exact hleads.vacant hplace hnames.leads hnone
      split at h
      next => exact hspares.pure h
      next =>
        cases law.watched.create hcreate with
        | refused _ hsame => exact hspares.trans (ih (hsame ▸ hplace) h)
      next => exact hspares.pure h

-- A file is replaced by way of a place where there was nothing.
theorem spares_replace {outcome : Except Fault Unit}
    (h : replace (m := StateM (Watched tree)) path bytes before = (outcome, after))
    (hpath : ¬ before.files.Leads path place) : before.Spares after place := by
  obtain ⟨made, middle, hmake, h⟩ := bind_eq_iff.mp h
  have hspares : before.Spares middle place := spares_makeTemporary law hplace hmake
  rcases of_makeTemporary law.watched hmake with
    ⟨fault, rfl, -⟩ | ⟨temporary, new, rfl, hnew, hempty⟩
  · exact hspares.pure h
  have hmiddle : ¬ middle.files.Leads temporary place := fun hleads =>
    (hleads.keeps hempty.kept).vacant hplace hempty.names.leads hnew
  have hpathMiddle : ¬ middle.files.Leads path place := fun hleads =>
    hpath (hleads.keeps hempty.kept)
  obtain ⟨filled, full, hfill, h⟩ := bind_eq_iff.mp h
  have hfull : before.Spares full place :=
    hspares.trans (Spares.of_watch hfill (List.forall_mem_singleton.mpr hmiddle))
  -- Be it filled or not, the directories are the same as before.
  have hkept : full.files.Keeps middle.files := kept_of_fill law.watched hfill
  have htemporary : ¬ full.files.Leads temporary place := fun hleads =>
    hmiddle (hleads.keeps hkept)
  cases filled with
  | error fault => exact hfull.trans (spares_discard h htemporary)
  | ok _ =>
      obtain ⟨renamed, last, hrename, h⟩ := bind_eq_iff.mp h
      have hlast : before.Spares last place := hfull.trans <| Spares.ifDone hrename fun _ =>
        List.forall_mem_cons.mpr ⟨htemporary, List.forall_mem_singleton.mpr fun hleads =>
          hpathMiddle (hleads.keeps hkept)⟩
      cases law.watched.rename hrename with
      | refused fault hsame => exact hlast.trans (spares_discard h (hsame ▸ htemporary))
      | done => exact hlast.pure h

theorem spares_generateFile {contents : String} {writing : Writing}
    (h : Job.Ends (generateFile path contents) before (.ok writing) after)
    (hpath : ¬ before.files.Leads path place) : before.Spares after place := by
  obtain ⟨_, middle, hreplace, h⟩ := Job.ends_bind_ok_iff.mp h
  obtain ⟨result, hresult, -⟩ := Job.ends_request_iff.mp hreplace
  obtain ⟨_, later, hnote, h⟩ := Job.ends_bind_ok_iff.mp h
  obtain ⟨_, hnoted, -⟩ := Job.ends_perform_iff.mp hnote
  rw [← (Job.ends_pure_iff.mp h).2]
  exact (spares_replace law hplace hresult hpath).trans (Spares.quietly hnoted)

-- A file that is reported unchanged is not touched.
theorem spares_writeIfChanged {contents : String} {writing : Writing}
    (h : Job.Ends (writeIfChanged path contents) before (.ok writing) after)
    (hpath : before.files.Leads path place → writing = .unchanged) :
    before.Spares after place := by
  obtain ⟨found, middle, hread, h⟩ := Job.ends_bind_ok_iff.mp h
  obtain ⟨_, hread, hfound⟩ := Job.ends_perform_iff.mp hread
  cases hfound
  have hspares : before.Spares middle place := Spares.quietly hread
  have hsame := (law.watched.read hread).1
  have hgenerated (h : Job.Ends (generateFile path contents) middle (.ok writing) after) :
      before.Spares after place := by
    refine hspares.trans (spares_generateFile law (hsame ▸ hplace) h fun hleads => ?_)
    cases (hpath (hsame ▸ hleads)).symm.trans (eq_generated_of_generateFile h)
  split at h
  next =>
    split at h
    next =>
      obtain ⟨_, later, hnote, h⟩ := Job.ends_bind_ok_iff.mp h
      obtain ⟨_, hnoted, -⟩ := Job.ends_perform_iff.mp hnote
      rw [← (Job.ends_pure_iff.mp h).2]
      exact hspares.trans (Spares.quietly hnoted)
    next => exact hgenerated h
  next => exact hgenerated h
  next => cases (Job.ends_fail_iff.mp h).1

theorem spares_write {settings : Settings} {directory : String} {sources : Sources}
    {header source : Writing}
    (h : Job.Ends (write settings directory sources) before
      (.ok [⟨settings.headerPath directory, header⟩, ⟨settings.sourcePath directory, source⟩])
      after)
    (hheader : after.files.Leads (settings.headerPath directory) place → header = .unchanged)
    (hsource : after.files.Leads (settings.sourcePath directory) place → source = .unchanged) :
    before.Spares after place := by
  obtain ⟨_, grown, hmake, h⟩ := Job.ends_bind_ok_iff.mp h
  obtain ⟨result, hmake, -⟩ := Job.ends_request_iff.mp hmake
  have hgrown := (grows_makeDirectory law.watched hmake).occupied hplace
  obtain ⟨_, headed, hfirst, h⟩ := Job.ends_bind_ok_iff.mp h
  obtain ⟨_, last, hsecond, h⟩ := Job.ends_bind_ok_iff.mp h
  obtain ⟨hreports, rfl⟩ := Job.ends_pure_iff.mp h
  cases hreports
  obtain ⟨headerPlace, hreplaces, -⟩ := (attempted_writeIfChanged law.watched hfirst).replaces
  obtain ⟨sourcePlace, hlater, -⟩ := (attempted_writeIfChanged law.watched hsecond).replaces
  have hspares : before.Spares grown place := spares_makeDirectory law hplace hmake
  refine (hspares.trans (spares_writeIfChanged law hgrown hfirst ?_)).trans
    (spares_writeIfChanged law (hreplaces.occupied hgrown) hsecond ?_)
  · exact fun hleads => hheader ((hleads.keeps hreplaces.keeps).keeps hlater.keeps)
  · exact fun hleads => hsource (hleads.keeps hlater.keeps)

theorem spares_generate {settings : Settings} {input directory : String} {header source : Writing}
    (h : Job.Ends (generate settings input directory) before
      (.ok [⟨settings.headerPath directory, header⟩, ⟨settings.sourcePath directory, source⟩])
      after)
    (hheader : after.files.Leads (settings.headerPath directory) place → header = .unchanged)
    (hsource : after.files.Leads (settings.sourcePath directory) place → source = .unchanged) :
    before.Spares after place := by
  obtain ⟨sources, middle, hsources, h⟩ := Job.ends_bind_ok_iff.mp h
  have hsame := (of_sourcesOf law.watched hsources).1
  exact (spares_sourcesOf hsources).trans
    (spares_write law (hsame ▸ hplace) h hheader hsource)

end

end Delivery

end EffectTables
