import EffectTables.Proofs.Document.Sound

namespace EffectTables

namespace Markup

theorem fits_append {opened : List Tag} {events more : List Event} :
    Fits opened (events ++ more) ↔
      Fits opened events ∧ Fits (events.foldl Event.openAfter opened) more := by
  induction events generalizing opened with
  | nil => simp [Fits]
  | cons event rest ih => rw [List.cons_append, Fits, Fits, ih, and_assoc, List.foldl_cons]

theorem soundFrom_append {opened : List Tag} {events more : List Event} :
    SoundFrom opened (events ++ more) ↔
      SoundFrom opened events ∧ SoundFrom (events.foldl Event.openAfter opened) more := by
  induction events generalizing opened with
  | nil => simp [SoundFrom]
  | cons event rest ih =>
      rw [List.cons_append, SoundFrom, SoundFrom, ih, and_assoc, List.foldl_cons]

-- Events that fit are not cut short, and what follows them is read within what they leave open.
theorem nested_append {opened : List Tag} {events : List Event} (fault : Option Fault)
    (h : Fits opened events) (more : List Event) :
    nested (opened.map (·.name)) fault (events ++ more) =
      let later := nested ((events.foldl Event.openAfter opened).map (·.name)) fault more
      ⟨events ++ later.items, later.fault⟩ := by
  induction events generalizing opened with
  | nil => rfl
  | cons event rest ih =>
      obtain ⟨hname, hrest⟩ := h
      cases event with
      | opens tag => exact congrArg (Findings.cons _) (ih hrest)
      | selfCloses tag => exact congrArg (Findings.cons _) (ih hrest)
      | aside => exact congrArg (Findings.cons _) (ih hrest)
      | closes name =>
          obtain ⟨tag, outer, rfl, rfl⟩ := hname name rfl
          rw [List.map_cons, List.cons_append, nested]
          exact (if_pos rfl).trans (congrArg (Findings.cons _) (ih hrest))

theorem nested_of_fits {opened : List Tag} {events : List Event} (fault : Option Fault)
    (h : Fits opened events) : nested (opened.map (·.name)) fault events = ⟨events, fault⟩ := by
  have hall := nested_append fault h []
  simpa [nested] using hall

-- A stretch of a document in which every element that begins also ends.
inductive Complete : List Event → Prop where
  | nil : Complete []
  | aside (rest : Complete later) : Complete (.aside :: later)
  | selfCloses (tag : Tag) (rest : Complete later) : Complete (.selfCloses tag :: later)
  | element (tag : Tag) (content : Complete within) (rest : Complete later) :
      Complete (.opens tag :: within ++ .closes tag.name :: later)

namespace Complete

variable {events more : List Event}

theorem append (h : Complete events) (hmore : Complete more) : Complete (events ++ more) := by
  induction h with
  | nil => exact hmore
  | aside _ ih => exact .aside ih
  | selfCloses tag _ ih => exact .selfCloses tag ih
  | @element within later tag content _ _ ih =>
      rw [List.append_assoc, List.cons_append]
      exact .element tag content ih

theorem flatMap {found : α → List Event} {items : List α}
    (h : ∀ item ∈ items, Complete (found item)) : Complete (items.flatMap found) := by
  induction items with
  | nil => exact .nil
  | cons item rest ih =>
      obtain ⟨hitem, hrest⟩ := List.forall_mem_cons.mp h
      exact hitem.append (ih hrest)

-- What was open stays open.
theorem foldl_openAfter (h : Complete events) (opened : List Tag) :
    events.foldl Event.openAfter opened = opened := by
  induction h generalizing opened with
  | nil => rfl
  | aside _ ih => exact ih opened
  | selfCloses tag _ ih => exact ih opened
  | element tag _ _ hwithin hlater =>
      rw [List.cons_append, List.foldl_cons, List.foldl_append, hwithin]
      exact hlater opened

theorem openTags_eq_nil (h : Complete events) : openTags events = [] := h.foldl_openAfter []

theorem fits (h : Complete events) (opened : List Tag) : Fits opened events := by
  induction h generalizing opened with
  | nil => trivial
  | aside _ ih => exact ⟨nofun, ih opened⟩
  | selfCloses tag _ ih => exact ⟨nofun, ih opened⟩
  | element tag content _ hwithin hlater =>
      rw [List.cons_append]
      refine ⟨nofun, fits_append.mpr ⟨hwithin _, ?_⟩⟩
      rw [content.foldl_openAfter]
      refine ⟨?_, hlater opened⟩
      rintro name ⟨⟩
      exact ⟨tag, opened, rfl, rfl⟩

theorem soundFrom_append_iff (h : Complete events) {opened : List Tag} :
    SoundFrom opened (events ++ more) ↔ SoundFrom opened events ∧ SoundFrom opened more := by
  rw [soundFrom_append, h.foldl_openAfter]

theorem soundFrom_flatMap {found : α → List Event} {items : List α} {opened : List Tag}
    (hcomplete : ∀ item ∈ items, Complete (found item))
    (hsound : ∀ item ∈ items, SoundFrom opened (found item)) :
    SoundFrom opened (items.flatMap found) := by
  induction items with
  | nil => trivial
  | cons item rest ih =>
      obtain ⟨hitem, hrest⟩ := List.forall_mem_cons.mp hcomplete
      obtain ⟨hfirst, hlater⟩ := List.forall_mem_cons.mp hsound
      exact hitem.soundFrom_append_iff.mpr ⟨hfirst, ih hrest hlater⟩

-- Complete elements lie within what they are written in.
theorem inside_append (h : Complete events) (depth : Nat) :
    inside depth (events ++ more) = events ++ inside depth more := by
  induction h generalizing depth more with
  | nil => rfl
  | aside _ ih => exact congrArg (List.cons _) (ih depth)
  | selfCloses tag _ ih => exact congrArg (List.cons _) (ih depth)
  | element tag _ _ hwithin hlater =>
      rw [List.cons_append, List.cons_append, inside, List.append_assoc, hwithin, List.cons_append,
        inside, hlater]
      simp

theorem inside_closes (h : Complete events) (name : String) :
    inside 0 (events ++ .closes name :: more) = events := by
  rw [h.inside_append, inside, List.append_nil]

end Complete

-- Events that close the open elements one after another, and in between complete ones.
def Closing : List Tag → List Event → Prop
  | [], events => Complete events
  | tag :: outer, events =>
      ∃ within later, events = within ++ .closes tag.name :: later ∧ Complete within ∧
        Closing outer later

theorem Closing.prepend {opened : List Tag} {events more : List Event} (h : Complete events)
    (hmore : Closing opened more) : Closing opened (events ++ more) := by
  cases opened with
  | nil => exact h.append hmore
  | cons tag outer =>
      obtain ⟨within, later, rfl, hwithin, hlater⟩ := hmore
      exact ⟨events ++ within, later, by rw [List.append_assoc], h.append hwithin, hlater⟩

theorem closing_of_fits {opened : List Tag} {events : List Event} (hfits : Fits opened events)
    (hclosed : events.foldl Event.openAfter opened = []) : Closing opened events := by
  induction events generalizing opened with
  | nil =>
      rw [List.foldl_nil] at hclosed
      subst hclosed
      exact .nil
  | cons event rest ih =>
      obtain ⟨hname, hfits⟩ := hfits
      have hrest := ih hfits hclosed
      cases event with
      | aside => exact Closing.prepend (.aside .nil) hrest
      | selfCloses tag => exact Closing.prepend (.selfCloses tag .nil) hrest
      | opens tag =>
          obtain ⟨within, later, rfl, hwithin, hlater⟩ := hrest
          have hwhole : .opens tag :: (within ++ .closes tag.name :: later) =
              (.opens tag :: within ++ [.closes tag.name]) ++ later := by simp
          rw [hwhole]
          exact hlater.prepend (.element tag hwithin .nil)
      | closes name =>
          obtain ⟨tag, outer, rfl, rfl⟩ := hname name rfl
          exact ⟨[], rest, rfl, .nil, hrest⟩

-- A document that leaves no element open is complete.
theorem complete_of_fits {events : List Event} (hfits : Fits [] events)
    (hclosed : openTags events = []) : Complete events :=
  closing_of_fits hfits hclosed

theorem Findings.Sound.complete {document : String} (h : (read document).Sound) :
    Complete (read document).items :=
  complete_of_fits (read_fits document) h.closed

end Markup

namespace Description

open Markup

variable {events : List Event}

theorem groupsIn_append (h : Complete events) (more : List Event) :
    groupsIn (events ++ more) = groupsIn events ++ groupsIn more := by
  induction h generalizing more with
  | nil => rfl
  | aside _ ih => exact ih more
  | selfCloses tag _ ih =>
      rw [List.cons_append, groupsIn, groupsIn, ih, List.append_assoc]
  | @element within later tag content _ hwithin hlater =>
      have hwhole : .opens tag :: within ++ .closes tag.name :: later ++ more =
          .opens tag :: (within ++ .closes tag.name :: (later ++ more)) := by simp
      rw [hwhole, List.cons_append, groupsIn, groupsIn, content.inside_closes,
        content.inside_closes, hwithin, hwithin, groupsIn, groupsIn, hlater]
      simp only [List.append_assoc]

-- One description after another.
instance : Append Description where
  append description other :=
    ⟨description.slots ++ other.slots, description.groups ++ other.groups,
      description.amps ++ other.amps, description.cabs ++ other.cabs⟩

@[simp] theorem slots_append (description other : Description) :
    (description ++ other).slots = description.slots ++ other.slots := rfl

@[simp] theorem groups_append (description other : Description) :
    (description ++ other).groups = description.groups ++ other.groups := rfl

@[simp] theorem amps_append (description other : Description) :
    (description ++ other).amps = description.amps ++ other.amps := rfl

@[simp] theorem cabs_append (description other : Description) :
    (description ++ other).cabs = description.cabs ++ other.cabs := rfl

-- A document says what its parts say, one after another.
theorem ofEvents_append (h : Complete events) (more : List Event) :
    ofEvents (events ++ more) = ofEvents events ++ ofEvents more := by
  simp only [ofEvents, tags, List.filterMap_append, groupsIn_append h]
  rfl

end Description

end EffectTables
