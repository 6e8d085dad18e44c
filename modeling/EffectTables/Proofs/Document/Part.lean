import EffectTables.Proofs.Document.Complete

namespace EffectTables.Markup

-- A complete element of a document. Without content it closes itself.
structure Part where
  tag : Tag
  content? : Option (List Event)
  complete : ∀ content ∈ content?, Complete content

namespace Part

variable (part : Part)

-- The events of what is within the element.
def within : List Event := part.content?.getD []

def events : List Event :=
  match part.content? with
  | none => [.selfCloses part.tag]
  | some content => .opens part.tag :: content ++ [.closes part.tag.name]

theorem complete_within : Complete part.within := by
  rw [within]
  cases hcontent : part.content? with
  | none => exact .nil
  | some content => exact part.complete content hcontent

theorem complete_events : Complete part.events := by
  rw [events]
  split
  next => exact .selfCloses _ .nil
  next content hcontent => exact .element part.tag (part.complete content hcontent) .nil

-- An element is sound if its tag is and all that is within.
theorem soundFrom_events (opened : List Tag) :
    SoundFrom opened part.events ↔
      part.tag.Sound opened ∧ SoundFrom (part.tag :: opened) part.within := by
  have hends : SoundFrom (part.tag :: opened) [.closes part.tag.name] := ⟨nofun, trivial⟩
  rw [events, within]
  split
  next hcontent => simp [SoundFrom, Event.tag?, hcontent]
  next content hcontent =>
    rw [List.cons_append, SoundFrom, hcontent, Option.getD_some]
    simp only [Event.tag?, Option.some.injEq, forall_eq', Event.openAfter,
      (part.complete content hcontent).soundFrom_append_iff, hends, and_true]

theorem tags_events : tags part.events = part.tag :: tags part.within := by
  rw [events, within]
  split
  next hcontent =>
    rw [hcontent]
    rfl
  next content hcontent => simp [tags, Event.tag?, hcontent]

theorem groupsIn_events :
    Description.groupsIn part.events =
      (Description.group? part.tag part.within).toList ++
        Description.groupsIn part.within := by
  rw [events, within]
  split
  next hcontent =>
    rw [hcontent]
    rfl
  next content hcontent =>
    have hcomplete := part.complete content hcontent
    rw [List.cons_append, Description.groupsIn, hcomplete.inside_closes,
      Description.groupsIn_append hcomplete, hcontent]
    simp [Description.groupsIn]

end Part

end EffectTables.Markup
