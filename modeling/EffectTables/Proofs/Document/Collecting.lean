import EffectTables.Proofs.Document.Accounts
import Mathlib.Data.List.Induction

namespace EffectTables

namespace Markup

theorem openTags_concat (before : List Event) (event : Event) :
    openTags (before ++ [event]) = event.openAfter (openTags before) := by
  rw [openTags, List.foldl_append]
  rfl

-- A group begins or ends.
def Event.isGroup : Event → Bool
  | .opens tag | .selfCloses tag => tag.isGroup
  | .closes name => Element.ofName? name = some .group
  | .aside => false

-- The one group that is open, with what was read since it was opened.
structure OpenSince (tag : Tag) (content before : List Event) : Prop where
  only : (openTags before).filter Tag.isGroup = [tag]
  since : ∃ earlier, before = earlier ++ .opens tag :: content
  within : ∀ event ∈ content, ¬ event.isGroup

-- Other elements that begin or end leave the open groups alone.
theorem filter_openAfter {opened : List Tag} {event : Event} (hquiet : ¬ event.isGroup)
    (hfits : ∀ name, event = .closes name → ∃ tag outer, opened = tag :: outer ∧ tag.name = name) :
    (event.openAfter opened).filter Tag.isGroup = opened.filter Tag.isGroup := by
  cases event with
  | opens tag => exact List.filter_cons_of_neg hquiet
  | selfCloses tag => rfl
  | closes name =>
      obtain ⟨tag, outer, rfl, rfl⟩ := hfits name rfl
      have hother : ¬ tag.isGroup := hquiet
      exact (List.filter_cons_of_neg hother).symm
  | aside => rfl

theorem OpenSince.concat {tag : Tag} {content before : List Event} {event : Event}
    (h : OpenSince tag content before) (hquiet : ¬ event.isGroup)
    (hfits : ∀ name, event = .closes name →
      ∃ tag outer, openTags before = tag :: outer ∧ tag.name = name) :
    OpenSince tag (content ++ [event]) (before ++ [event]) where
  only := by rw [openTags_concat, filter_openAfter hquiet hfits, h.only]
  since := by
    obtain ⟨earlier, rfl⟩ := h.since
    exact ⟨earlier, by rw [List.append_assoc, List.cons_append]⟩
  within := by
    intro other hmem
    rcases List.mem_append.mp hmem with hmem | hmem
    · exact h.within other hmem
    · exact List.mem_singleton.mp hmem ▸ hquiet

theorem openSince_opens {tag : Tag} {before : List Event} (hgroup : tag.isGroup)
    (hnone : (openTags before).filter Tag.isGroup = []) :
    OpenSince tag [] (before ++ [.opens tag]) where
  only := by rw [openTags_concat, Event.openAfter, List.filter_cons_of_pos hgroup, hnone]
  since := ⟨before, rfl⟩
  within := nofun

end Markup

namespace Device.Progress

open Markup
open Description (listed? group?)

-- A group as it was opened, with the parameters that were read since.
structure Collects (tag : Tag) (content : List Event) (group : ParameterGroup) : Prop where
  typeId : tag.number? "typeID" = some group.typeId
  name : tag.value? "name" = some group.name
  pending : tag.number? "bypassParam" = group.pending
  parameters : List.Forall₂
    (fun written parameter => listed? .parameter written = some (parameter.id, parameter.name))
    ((tags content).filter fun written => written.element? = some .parameter) group.parameters

theorem collects_groupOf {tag : Tag} {group : ParameterGroup} (h : groupOf tag = .inside group) :
    Collects tag [] group := by
  rw [groupOf, group?] at h
  split at h
  next => cases h
  next hgroup =>
    cases h
    split at hgroup
    next =>
      obtain ⟨typeId, htype, hgroup⟩ := Option.bind_eq_some_iff.mp hgroup
      obtain ⟨name, hname, hgroup⟩ := Option.bind_eq_some_iff.mp hgroup
      cases hgroup
      exact ⟨htype, hname, rfl, .nil⟩
    next => cases hgroup

-- The parameters that are read with an event.
def entries (event : Event) : List (Int32 × String) :=
  (event.tag?.bind (listed? .parameter)).toList

-- With the tag of a parameter, and with no other, the group gets one parameter more.
theorem exists_pushed (group : ParameterGroup) {event : Event}
    (hsound : ∀ written, event.tag? = some written → written.element? = some .parameter →
      written.SoundEntry) :
    ∃ pushed, (group.pushAll (entries event)).parameters = group.parameters ++ pushed ∧
      List.Forall₂
        (fun written parameter => listed? .parameter written = some (parameter.id, parameter.name))
        ((tags [event]).filter fun written => written.element? = some .parameter) pushed := by
  cases htag : event.tag? with
  | none =>
      refine ⟨[], ?_, ?_⟩
      · simp [entries, htag, ParameterGroup.pushAll]
      · simp [tags, htag]
  | some written =>
      by_cases helement : written.element? = some .parameter
      · obtain ⟨id, name, hid, hname⟩ := exists_of_soundEntry (hsound written htag helement)
        have hlisted : listed? .parameter written = some (id, name) := by
          simp [listed?, helement, hid, hname]
        refine ⟨[⟨name, id, !group.marked && group.pending == some id⟩], ?_, ?_⟩
        · simp only [entries, htag, Option.bind_some, hlisted]
          rfl
        · simpa [tags, htag, helement] using hlisted
      · have hlisted : listed? .parameter written = none := if_neg helement
        refine ⟨[], ?_, ?_⟩
        · simp [entries, htag, hlisted, ParameterGroup.pushAll]
        · simp [tags, htag, helement]

theorem Collects.concat {tag : Tag} {content : List Event} {group : ParameterGroup}
    (h : Collects tag content group) {event : Event}
    (hsound : ∀ written, event.tag? = some written → written.element? = some .parameter →
      written.SoundEntry) :
    Collects tag (content ++ [event]) (group.pushAll (entries event)) := by
  obtain ⟨pushed, hpushed, hwritten⟩ := exists_pushed group hsound
  refine ⟨?_, ?_, ?_, ?_⟩
  · rw [ParameterGroup.pushAll_typeId, h.typeId]
  · rw [ParameterGroup.pushAll_name, h.name]
  · rw [ParameterGroup.pushAll_pending, h.pending]
  · have htags : tags (content ++ [event]) = tags content ++ tags [event] :=
      List.filterMap_append
    rw [hpushed, htags, List.filter_append]
    exact List.rel_append h.parameters hwritten

-- A group that is open holds what was read since it was opened.
def Collected (before : List Event) (grouping : Grouping) : Prop :=
  ∀ group, grouping = .inside group →
    ∃ tag content, OpenSince tag content before ∧ Collects tag content group

variable {progress next : Progress} {before : List Event} {event : Event} {opened : List Tag}

-- What becomes of the state of the groups with an event that begins or ends no group: a parameter
-- goes into the group that is open.
def groupingWith (event : Event) : Grouping → Grouping
  | .inside group => .inside (group.pushAll (entries event))
  | grouping => grouping

theorem groupingAfter_of_not_isGroup {tag : Tag} (hquiet : ¬ tag.isGroup) (grouping : Grouping)
    (hevent : event.tag? = some tag) :
    groupingAfter grouping tag = groupingWith event grouping := by
  cases grouping with
  | outside => exact groupingAfter_not_inside hquiet nofun
  | untyped => exact groupingAfter_not_inside hquiet nofun
  | inside group =>
      rw [groupingAfter_inside hquiet, groupingWith, entries, hevent]
      rfl

theorem groupingWith_of_no_tag (h : event.tag? = none) (grouping : Grouping) :
    groupingWith event grouping = grouping := by
  cases grouping with
  | outside => rfl
  | untyped => rfl
  | inside group =>
      rw [groupingWith, entries, h]
      rfl

theorem passed_grouping (hquiet : ¬ event.isGroup)
    (hfits : ∀ name, event = .closes name → ∃ tag outer, opened = tag :: outer ∧ tag.name = name) :
    (progress.passed opened event).grouping = groupingWith event progress.grouping := by
  cases event with
  | opens tag => exact groupingAfter_of_not_isGroup hquiet progress.grouping rfl
  | selfCloses tag =>
      have hother : ¬ tag.isGroup := hquiet
      rw [passed, closed, if_neg hother]
      exact groupingAfter_of_not_isGroup hother progress.grouping rfl
  | closes name =>
      obtain ⟨tag, outer, rfl, rfl⟩ := hfits name rfl
      have hother : ¬ tag.isGroup := hquiet
      rw [passed, closed, if_neg hother, groupingWith_of_no_tag rfl]
  | aside => exact (groupingWith_of_no_tag rfl progress.grouping).symm

-- A group that is opened holds nothing yet, and one that ends is not open any more.
theorem collected_of_isGroup (hgroup : event.isGroup)
    (hsound : ∀ tag, event.tag? = some tag → tag.Sound (openTags before))
    (hfits : ∀ name, event = .closes name →
      ∃ tag outer, openTags before = tag :: outer ∧ tag.name = name) :
    Collected (before ++ [event]) (progress.passed (openTags before) event).grouping := by
  intro group hinside
  cases event with
  | opens tag =>
      have htag : tag.isGroup := hgroup
      have helement : tag.element? = some .group := by simpa [Tag.isGroup] using htag
      have hnone := hsound tag rfl
      simp only [Tag.Sound, helement] at hnone
      simp only [passed, after, groupingAfter, helement] at hinside
      exact ⟨tag, [], openSince_opens htag (List.filter_eq_nil_iff.mpr hnone.1),
        collects_groupOf hinside⟩
  | selfCloses tag =>
      have htag : tag.isGroup := hgroup
      rw [passed, closed, if_pos htag] at hinside
      cases hinside
  | closes name =>
      obtain ⟨tag, outer, hopened, rfl⟩ := hfits name rfl
      have htag : tag.isGroup := hgroup
      rw [hopened, passed, closed, if_pos htag] at hinside
      cases hinside
  | aside => cases hgroup

theorem Follows.collected_of_quiet (h : progress.Follows (openTags before))
    (hcollected : Collected before progress.grouping) (hquiet : ¬ event.isGroup)
    (hsound : ∀ tag, event.tag? = some tag → tag.Sound (openTags before))
    (hfits : ∀ name, event = .closes name →
      ∃ tag outer, openTags before = tag :: outer ∧ tag.name = name) :
    Collected (before ++ [event]) (progress.passed (openTags before) event).grouping := by
  rw [passed_grouping hquiet hfits]
  intro group hinside
  cases hgrouping : progress.grouping with
  | outside =>
      rw [hgrouping] at hinside
      cases hinside
  | untyped =>
      rw [hgrouping] at hinside
      cases hinside
  | inside current =>
      rw [hgrouping] at hinside
      cases hinside
      obtain ⟨tag, content, hsince, hcollects⟩ := hcollected current hgrouping
      refine ⟨tag, content ++ [event], hsince.concat hquiet hfits, hcollects.concat ?_⟩
      intro written hwritten helement
      -- the group has a type, so that its parameters need a number and a name
      obtain ⟨outer, houter, htyped⟩ := hgrouping ▸ h.within
      have hwithin := (exists_mem_filter houter (P := (·.Has "typeID"))).mpr htyped
      have htag := hsound written hwritten
      simp only [Tag.Sound, helement] at htag
      exact htag hwithin

theorem Follows.collected_passed (h : progress.Follows (openTags before))
    (hcollected : Collected before progress.grouping)
    (hsound : ∀ tag, event.tag? = some tag → tag.Sound (openTags before))
    (hfits : ∀ name, event = .closes name →
      ∃ tag outer, openTags before = tag :: outer ∧ tag.name = name) :
    Collected (before ++ [event]) (progress.passed (openTags before) event).grouping := by
  by_cases hgroup : event.isGroup
  · exact collected_of_isGroup hgroup hsound hfits
  · exact h.collected_of_quiet hcollected hgroup hsound hfits

theorem exists_of_onEvents_concat
    (h : (progress.onEvents (before ++ [event])).outcome = .ok next) :
    ∃ middle, (progress.onEvents before).outcome = .ok middle ∧
      (middle.onEvent event).outcome = .ok next := by
  induction before generalizing progress with
  | nil =>
      obtain ⟨last, hlast, hnext⟩ := Traced.outcome_bind_eq_ok_iff.mp h
      cases hnext
      exact ⟨progress, rfl, hlast⟩
  | cons first rest ih =>
      obtain ⟨middle, hfirst, hrest⟩ := Traced.outcome_bind_eq_ok_iff.mp h
      obtain ⟨last, hlast, hnext⟩ := ih hrest
      exact ⟨last, Traced.outcome_bind_eq_ok_iff.mpr ⟨middle, hfirst, hlast⟩, hnext⟩

-- Up to any event of a document, the reader has collected the parameters of the open group.
theorem collected_onEvents (hfits : Fits [] before)
    (h : (({} : Progress).onEvents before).outcome = .ok progress) :
    Collected before progress.grouping := by
  induction before using List.reverseRecOn generalizing progress with
  | nil =>
      cases h
      exact nofun
  | append_singleton before event ih =>
      obtain ⟨hbefore, hevent, -⟩ := fits_append.mp hfits
      obtain ⟨middle, hmiddle, hnext⟩ := exists_of_onEvents_concat h
      have hfollows : middle.Follows (openTags before) := follows_nil.onEvents hbefore hmiddle
      obtain ⟨hsound, rfl⟩ := (hfollows.onEvent_eq_ok_iff hevent).mp hnext
      exact hfollows.collected_passed (ih hbefore hmiddle) hsound hevent

end Device.Progress

end EffectTables
