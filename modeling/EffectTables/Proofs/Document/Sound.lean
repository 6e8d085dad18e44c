import EffectTables.Proofs.Document.Description

namespace EffectTables.Markup

-- The open elements after an event, from the inside out.
def Event.openAfter (opened : List Tag) : Event → List Tag
  | .opens tag => tag :: opened
  | .closes _ => opened.tail
  | .selfCloses _ | .aside => opened

-- The elements that a stretch of a document leaves open, from the inside out.
def openTags (events : List Event) : List Tag := events.foldl Event.openAfter []

namespace Tag

def isGroup (tag : Tag) : Bool := tag.element? = some .group

def SoundSlot (tag : Tag) : Prop :=
  tag.Readable ∧
    (tag.Has "typeID" →
      (tag.number? "typeID").isSome ∧ (tag.number? "id").isSome ∧ tag.Has "name")

def SoundGroup (tag : Tag) : Prop :=
  tag.Readable ∧
    (tag.Has "typeID" →
      (tag.number? "typeID").isSome ∧ tag.Has "name" ∧
        (tag.Has "bypassParam" → (tag.number? "bypassParam").isSome))

def SoundEntry (tag : Tag) : Prop :=
  tag.Readable ∧ (tag.number? "id").isSome ∧ tag.Has "name"

-- What is asked of a tag inside of the open elements. Of a parameter it is asked only within a
-- group that has a type.
def Sound (opened : List Tag) (tag : Tag) : Prop :=
  match tag.element? with
  | none => True
  | some .poolInstance => tag.SoundSlot
  | some .group => (∀ outer ∈ opened, ¬ outer.isGroup) ∧ tag.SoundGroup
  | some .parameter => (∃ group ∈ opened, group.isGroup ∧ group.Has "typeID") → tag.SoundEntry
  | some .amp | some .cab => tag.SoundEntry

end Tag

-- A document that was read to its end, with all its elements closed and all known elements in
-- order.
structure Findings.Sound (found : Findings Event) : Prop where
  faultless : found.fault = none
  closed : openTags found.items = []
  elements : ∀ (before : List Event) (event : Event) (after : List Event) (tag : Tag),
    found.items = before ++ event :: after → event.tag? = some tag → tag.Sound (openTags before)

-- The same element by element, within elements that are open already.
def SoundFrom (opened : List Tag) : List Event → Prop
  | [] => True
  | event :: rest =>
      (∀ tag, event.tag? = some tag → tag.Sound opened) ∧ SoundFrom (event.openAfter opened) rest

theorem soundFrom_iff {opened : List Tag} {events : List Event} :
    SoundFrom opened events ↔
      ∀ (before : List Event) (event : Event) (after : List Event) (tag : Tag),
        events = before ++ event :: after → event.tag? = some tag →
          tag.Sound (before.foldl Event.openAfter opened) := by
  induction events generalizing opened with
  | nil => simp [SoundFrom]
  | cons first rest ih =>
      simp only [SoundFrom, ih]
      constructor
      · rintro ⟨hfirst, hrest⟩ before event after tag he ht
        cases before with
        | nil =>
            obtain ⟨rfl, rfl⟩ := List.cons.inj he
            exact hfirst tag ht
        | cons other before =>
            obtain ⟨rfl, rfl⟩ := List.cons.inj he
            exact hrest before event after tag rfl ht
      · intro h
        refine ⟨fun tag ht => h [] first rest tag rfl ht, ?_⟩
        intro before event after tag he ht
        exact h (first :: before) event after tag (by rw [he, List.cons_append]) ht

theorem Findings.sound_iff (found : Findings Event) :
    found.Sound ↔ found.fault = none ∧ SoundFrom [] found.items ∧ openTags found.items = [] := by
  rw [soundFrom_iff]
  constructor
  · intro h
    obtain ⟨hfault, hclosed, helements⟩ := h
    exact ⟨hfault, helements, hclosed⟩
  · intro h
    obtain ⟨hfault, helements, hclosed⟩ := h
    exact ⟨hfault, hclosed, helements⟩

-- Every closing tag has the name of the innermost open element.
def Fits (opened : List Tag) : List Event → Prop
  | [] => True
  | event :: rest =>
      (∀ name, event = .closes name → ∃ tag outer, opened = tag :: outer ∧ tag.name = name) ∧
        Fits (event.openAfter opened) rest

theorem nested_fits (opened : List Tag) (fault : Option Fault) (events : List Event) :
    Fits opened (nested (opened.map (·.name)) fault events).items := by
  induction events generalizing opened with
  | nil => trivial
  | cons event rest ih =>
      cases event with
      | opens tag => exact ⟨nofun, ih (tag :: opened)⟩
      | selfCloses tag => exact ⟨nofun, ih opened⟩
      | aside => exact ⟨nofun, ih opened⟩
      | closes found =>
          cases opened with
          | nil => trivial
          | cons tag outer =>
              simp only [nested, List.map_cons]
              by_cases hname : tag.name = found
              · rw [if_pos hname]
                refine ⟨?_, ih outer⟩
                rintro name ⟨⟩
                exact ⟨tag, outer, rfl, hname⟩
              · rw [if_neg hname]
                trivial

theorem read_fits (document : String) : Fits [] (read document).items := nested_fits [] _ _

end EffectTables.Markup
