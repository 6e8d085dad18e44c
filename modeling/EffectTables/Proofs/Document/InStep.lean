import EffectTables.Proofs.Document.Collecting

namespace EffectTables

namespace Markup

-- What is delivered is the beginning of what is written.
theorem nested_items_prefix (names : List String) (fault : Option Fault) (events : List Event) :
    (nested names fault events).items <+: events := by
  induction events generalizing names with
  | nil => exact List.prefix_rfl
  | cons event rest ih =>
      cases event with
      | opens tag => exact (List.prefix_cons_inj _).mpr (ih _)
      | selfCloses tag => exact (List.prefix_cons_inj _).mpr (ih _)
      | aside => exact (List.prefix_cons_inj _).mpr (ih _)
      | closes found =>
          cases names with
          | nil => exact List.nil_prefix
          | cons name outer =>
              rw [nested]
              split
              · exact (List.prefix_cons_inj _).mpr (ih _)
              · exact List.nil_prefix

-- The reader of the markup has delivered some events and holds elements with these names open,
-- from the inside out: it goes on as one that begins with these names at what is left.
def Holds (document : String) (before : List Event) (names : List String) : Prop :=
  ∃ rest, (events document.toList).items = before ++ rest ∧
    let later := nested names (events document.toList).fault rest
    read document = ⟨before ++ later.items, later.fault⟩

theorem holds_openTags {document : String} {before after : List Event}
    (h : (read document).items = before ++ after) :
    Holds document before ((openTags before).map (·.name)) := by
  obtain ⟨cut, hcut⟩ := nested_items_prefix [] (events document.toList).fault
    (events document.toList).items
  have hdelivered : (nested [] (events document.toList).fault
      (events document.toList).items).items = before ++ after := h
  rw [hdelivered, List.append_assoc] at hcut
  have hfits : Fits [] before := (fits_append.mp (h ▸ read_fits document)).1
  refine ⟨after ++ cut, hcut.symm, ?_⟩
  have hnested := nested_append (events document.toList).fault hfits (after ++ cut)
  rwa [hcut] at hnested

end Markup

namespace Device.Progress

open Markup

variable {opened : List Tag}

theorem Within.length_le_one {grouping : Grouping} (h : Within opened grouping) :
    (opened.filter Tag.isGroup).length ≤ 1 := by
  cases grouping with
  | outside => simp [show opened.filter Tag.isGroup = [] from h]
  | inside group =>
      obtain ⟨tag, htag, -⟩ := h
      simp [htag]
  | untyped =>
      obtain ⟨tag, htag, -⟩ := h
      simp [htag]

theorem Within.ne_outside {grouping : Grouping} {tag : Tag} (h : Within opened grouping)
    (hmem : tag ∈ opened) (hgroup : tag.isGroup) : grouping ≠ .outside := by
  intro houtside
  exact h.forall_not_isGroup_iff.mpr houtside tag hmem hgroup

theorem Within.inside_iff {grouping : Grouping} (h : Within opened grouping) :
    (∃ group, grouping = .inside group) ↔
      ∃ tag ∈ opened, tag.isGroup ∧ tag.Has "typeID" := by
  cases grouping with
  | outside =>
      simp only [reduceCtorEq, exists_false, false_iff]
      rintro ⟨tag, hmem, hgroup, -⟩
      exact h.ne_outside hmem hgroup rfl
  | inside group =>
      obtain ⟨tag, htag, htyped⟩ := h
      simp [exists_mem_filter htag (P := (·.Has "typeID")), htyped]
  | untyped =>
      obtain ⟨tag, htag, huntyped⟩ := h
      simp [exists_mem_filter htag (P := (·.Has "typeID")), huntyped]

-- The three accounts that are kept of the open elements agree: the names that the reader of the
-- markup holds, the depth, and the state of the groups.
structure InStep (progress : Progress) (document : String) (before : List Event) : Prop where
  holds : Holds document before ((openTags before).map (·.name))
  depth : progress.depth = (openTags before).length
  atMostOne : ((openTags before).filter Tag.isGroup).length ≤ 1
  outside : progress.grouping = .outside ↔ ∀ tag ∈ openTags before, ¬ tag.isGroup
  inside : (∃ group, progress.grouping = .inside group) ↔
    ∃ tag ∈ openTags before, tag.isGroup ∧ tag.Has "typeID"
  collected : ∀ group, progress.grouping = .inside group →
    ∃ tag content, OpenSince tag content before ∧ Collects tag content group

end Device.Progress

namespace Device

open Markup

namespace Attributes

variable {fault : StructureFault} {attributes : Attributes} {element : Element} {key : String}

theorem ofTag_ne_malformed (tag : Tag) : ofTag tag ≠ .error (.malformed fault) := by
  intro h
  rw [ofTag, ofFindings] at h
  rcases Outcome.bind_eq_error_iff.mp h with h | ⟨attributes, -, h⟩
  · obtain ⟨-, item, -, -, -, hitem⟩ := Outcome.mapM_eq_error_iff.mp h
    rw [decode] at hitem
    split at hitem <;> cases hitem
  · split at h <;> cases h

theorem text_ne_malformed : attributes.text element key ≠ .error (.malformed fault) := by
  intro h
  rw [text] at h
  split at h <;> cases h

theorem integer?_ne_malformed : attributes.integer? element key ≠ .error (.malformed fault) := by
  intro h
  rw [integer?] at h
  split at h
  · cases h
  · split at h <;> cases h

theorem integer_ne_malformed : attributes.integer element key ≠ .error (.malformed fault) := by
  intro h
  rcases Outcome.bind_eq_error_iff.mp h with h | ⟨found, -, h⟩
  · exact integer?_ne_malformed h
  · split at h <;> cases h

end Attributes

namespace Progress

open Attributes Traced

-- The work never ends because of a closing tag that nothing is open for.
abbrev Expected (work : Step) : Prop := work.Avoids (.malformed .unexpectedClosing)

theorem expected_openInstance (progress : Progress) (tag : Tag) :
    Expected (progress.openInstance tag) := by
  refine (Avoids.ofExcept (ofTag_ne_malformed tag)).bind fun attributes =>
    (Avoids.ofExcept integer?_ne_malformed).bind fun typeId => ?_
  cases typeId with
  | none => exact (Avoids.note _).bind fun _ => .pure _
  | some typeId =>
      exact (Avoids.ofExcept integer_ne_malformed).bind fun _ =>
        (Avoids.ofExcept text_ne_malformed).bind fun _ => .pure _

theorem expected_openGroup (progress : Progress) (tag : Tag) :
    Expected (progress.openGroup tag) := by
  rw [openGroup]
  split
  next =>
    refine (Avoids.ofExcept (ofTag_ne_malformed tag)).bind fun attributes =>
      (Avoids.ofExcept integer?_ne_malformed).bind fun typeId => ?_
    cases typeId with
    | none => exact (Avoids.note _).bind fun _ => .pure _
    | some typeId =>
        exact (Avoids.ofExcept text_ne_malformed).bind fun _ =>
          (Avoids.ofExcept integer?_ne_malformed).bind fun _ => .pure _
  next => exact .fail (by simp)

theorem expected_openParameter (progress : Progress) (tag : Tag) :
    Expected (progress.openParameter tag) := by
  rw [openParameter]
  split
  next =>
    exact (Avoids.ofExcept (ofTag_ne_malformed tag)).bind fun _ =>
      (Avoids.ofExcept integer_ne_malformed).bind fun _ =>
        (Avoids.ofExcept text_ne_malformed).bind fun _ => .pure _
  next => exact (Avoids.note _).bind fun _ => .pure _

theorem expected_openEntry (element : Element) (catalog : Catalog)
    (add : Int32 → String → Progress) (tag : Tag) :
    Expected (openEntry element catalog add tag) := by
  refine (Avoids.ofExcept (ofTag_ne_malformed tag)).bind fun _ =>
    (Avoids.ofExcept integer_ne_malformed).bind fun _ =>
      (Avoids.ofExcept text_ne_malformed).bind fun _ => ?_
  split
  next => exact .pure _
  next => exact (Avoids.note _).bind fun _ => .pure _

theorem expected_openElement (progress : Progress) (tag : Tag) :
    Expected (progress.openElement tag) := by
  rw [openElement]
  split
  next => exact .pure _
  next => exact expected_openInstance progress tag
  next => exact expected_openGroup progress tag
  next => exact expected_openParameter progress tag
  next => exact expected_openEntry _ _ _ tag
  next => exact expected_openEntry _ _ _ tag

theorem expected_closeElement (progress : Progress) (tag : Tag) :
    Expected (progress.closeElement tag.name) := by
  rw [closeElement_eq]
  nofun

variable {progress : Progress} {opened : List Tag} {event : Event} {events : List Event}

-- Where an element ends, one is open.
theorem Follows.expected_onEvent (h : progress.Follows opened)
    (hfits : ∀ name, event = .closes name →
      ∃ tag outer, opened = tag :: outer ∧ tag.name = name) :
    Expected (progress.onEvent event) := by
  cases event with
  | opens tag => exact expected_openElement _ tag
  | selfCloses tag =>
      exact (expected_openElement progress tag).bind fun opened => expected_closeElement opened tag
  | closes name =>
      obtain ⟨tag, outer, rfl, rfl⟩ := hfits name rfl
      simp only [onEvent, h.depth, List.length_cons]
      exact expected_closeElement _ tag
  | aside => exact .pure _

theorem Follows.expected_onEvents (h : progress.Follows opened) (hfits : Fits opened events) :
    Expected (progress.onEvents events) := by
  induction events generalizing progress opened with
  | nil => exact .pure _
  | cons event rest ih =>
      obtain ⟨hname, hrest⟩ := hfits
      intro herror
      rcases outcome_bind_eq_error_iff.mp herror with herror | ⟨middle, hmiddle, herror⟩
      · exact h.expected_onEvent hname herror
      · obtain ⟨hsound, rfl⟩ := (h.onEvent_eq_ok_iff hname).mp hmiddle
        exact ih (h.passed hsound) hrest herror

end Progress

open Progress

-- What holds of the reader at each event of a document, and at its end.
structure ReadsInStep (document : String) : Prop where
  inStep : ∀ (before after : List Event) (progress : Progress),
    (Markup.read document).items = before ++ after →
      (({} : Progress).onEvents before).outcome = .ok progress → progress.InStep document before
  closes : ∀ (before : List Event) (name : String) (after : List Event) (progress : Progress),
    (Markup.read document).items = before ++ .closes name :: after →
      (({} : Progress).onEvents before).outcome = .ok progress →
        0 < progress.depth ∧ (Element.ofName? name = some .group → progress.grouping ≠ .outside)
  selfCloses : ∀ (before : List Event) (tag : Tag) (after : List Event)
    (progress opened : Progress),
    (Markup.read document).items = before ++ .selfCloses tag :: after →
      (({} : Progress).onEvents before).outcome = .ok progress →
        (progress.openElement tag).outcome = .ok opened →
          Element.ofName? tag.name = some .group → opened.grouping ≠ .outside
  expected : (read document).outcome ≠ .error (.malformed .unexpectedClosing)
  finished : ∀ device, (read document).outcome = .ok device →
    ∃ progress, (({} : Progress).onEvents (Markup.read document).items).outcome = .ok progress ∧
      progress.grouping = .outside ∧ progress.device = device

section

variable {document name : String} {tag : Tag} {before after : List Event}
  {progress opened : Progress} {device : Device}

theorem follows_read (h : (Markup.read document).items = before ++ after)
    (hrun : (({} : Progress).onEvents before).outcome = .ok progress) :
    progress.Follows (openTags before) :=
  follows_nil.onEvents (fits_append.mp (h ▸ read_fits document)).1 hrun

theorem inStep_read (h : (Markup.read document).items = before ++ after)
    (hrun : (({} : Progress).onEvents before).outcome = .ok progress) :
    progress.InStep document before := by
  obtain ⟨hfits, -⟩ := fits_append.mp (h ▸ read_fits document)
  have hfollows := follows_read h hrun
  exact {
    holds := holds_openTags h
    depth := hfollows.depth
    atMostOne := hfollows.within.length_le_one
    outside := hfollows.within.forall_not_isGroup_iff.symm
    inside := hfollows.within.inside_iff
    collected := collected_onEvents hfits hrun }

-- The element that ends is the innermost of the open ones, and a group is known to be open.
theorem closes_read (h : (Markup.read document).items = before ++ .closes name :: after)
    (hrun : (({} : Progress).onEvents before).outcome = .ok progress) :
    0 < progress.depth ∧ (Element.ofName? name = some .group → progress.grouping ≠ .outside) := by
  obtain ⟨-, hlast, -⟩ := fits_append.mp (h ▸ read_fits document)
  obtain ⟨tag, outer, hopened, rfl⟩ := hlast name rfl
  replace hopened : openTags before = tag :: outer := hopened
  have hfollows := follows_read h hrun
  rw [hopened] at hfollows
  refine ⟨hfollows.depth ▸ Nat.succ_pos _, fun hgroup => ?_⟩
  exact hfollows.within.ne_outside List.mem_cons_self (decide_eq_true hgroup)

theorem selfCloses_read (h : (Markup.read document).items = before ++ .selfCloses tag :: after)
    (hrun : (({} : Progress).onEvents before).outcome = .ok progress)
    (hopened : (progress.openElement tag).outcome = .ok opened)
    (hgroup : Element.ofName? tag.name = some .group) : opened.grouping ≠ .outside := by
  have hfollows := follows_read h hrun
  obtain ⟨hsound, rfl⟩ := (openElement_eq_ok_iff hfollows.within).mp hopened
  have hwithin := hfollows.within.opens hsound
  exact hwithin.ne_outside List.mem_cons_self (decide_eq_true hgroup)

theorem expected_finish (progress : Progress) :
    progress.finish.Avoids (.malformed .unexpectedClosing) := by
  rw [finish]
  split
  next => exact (Traced.Avoids.note _).bind fun _ => .pure _
  next => exact .fail (by simp)

theorem expected_read (document : String) :
    (read document).Avoids (.malformed .unexpectedClosing) := by
  refine Traced.Avoids.bind (follows_nil.expected_onEvents (read_fits document)) fun progress => ?_
  split
  next => exact .fail (by simp)
  next => exact expected_finish progress

theorem exists_outside_of_read (h : (read document).outcome = .ok device) :
    ∃ progress, (({} : Progress).onEvents (Markup.read document).items).outcome = .ok progress ∧
      progress.grouping = .outside ∧ progress.device = device := by
  obtain ⟨progress, hrun, hend⟩ := Traced.outcome_bind_eq_ok_iff.mp h
  have hstand := stand_of_conclude (read_fits document) hrun hend
  refine ⟨progress, hrun, congrArg Prod.fst hstand, ?_⟩
  split at hend
  next => cases hend
  next => exact (finish_eq_ok_iff.mp hend).2

end

theorem read_inStep (document : String) : ReadsInStep document where
  inStep _ _ _ := inStep_read
  closes _ _ _ _ := closes_read
  selfCloses _ _ _ _ _ := selfCloses_read
  expected := expected_read document
  finished _ := exists_outside_of_read

-- The document breaks off in a group, below an element that nothing is known of.
def openGain : String :=
  "<A><EffectParameters typeID='1' name='Amp'><B><EffectParameter id='2' name='GAIN'/>"

theorem read_inStep_openGain :
    ∃ progress group,
      (({} : Progress).onEvents (Markup.read openGain).items).outcome = .ok progress ∧
        progress.depth = 3 ∧ progress.grouping = .inside group := by
  have hok : (({} : Progress).onEvents (Markup.read openGain).items).outcome.isOk := by
    decide +kernel
  have hdepth : (openTags (Markup.read openGain).items).length = 3 := by decide +kernel
  have hgroup : ∃ tag ∈ openTags (Markup.read openGain).items,
      tag.isGroup ∧ ∃ item ∈ tag.attributes.items, item.key = "typeID" := by decide +kernel
  obtain ⟨progress, hrun⟩ := Outcome.exists_of_isOk hok
  have hstep := (read_inStep openGain).inStep _ [] progress (List.append_nil _).symm hrun
  obtain ⟨group, hinside⟩ := hstep.inside.mpr hgroup
  exact ⟨progress, group, hrun, hstep.depth.trans hdepth, hinside⟩

end Device

end EffectTables
