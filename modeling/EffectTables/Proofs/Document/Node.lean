import EffectTables.Proofs.Document.Part
import EffectTables.Proofs.Markup.Spelling

namespace EffectTables.Markup

-- What is written as markup and read back as complete elements.
class Writes (α : Type) where
  chars : α → List Char
  events : α → List Event
  lexes (item : α) : Lexes (chars item) (events item)
  complete (item : α) : Complete (events item)

instance : Writes Empty where
  chars := nofun
  events := nofun
  lexes := nofun
  complete := nofun

-- What stands between the two tags of an element, and the spaces in the second of them.
structure Content (α : Type) where
  children : List (Spaces × α)
  last : Spaces
  closing : Spaces

-- An element as it is written. Without content it closes itself.
structure Node (α : Type) where
  spelling : Spelling
  content? : Option (Content α)

namespace Node

variable {α : Type} [Writes α]

def children (node : Node α) : List α :=
  match node.content? with
  | none => []
  | some content => content.children.map (·.2)

def chars (node : Node α) : List Char :=
  match node.content? with
  | none => '<' :: node.spelling.chars ++ ['/', '>']
  | some content =>
      '<' :: node.spelling.chars ++ ['>'] ++
        (content.children.flatMap (fun child => child.1.chars ++ Writes.chars child.2) ++
          content.last.chars) ++
        ('<' :: '/' :: node.spelling.name.toList ++ content.closing.chars ++ ['>'])

-- The events of what is within the element.
def within (node : Node α) : List Event := node.children.flatMap Writes.events

def events (node : Node α) : List Event :=
  match node.content? with
  | none => [.selfCloses node.spelling.tag]
  | some _ => .opens node.spelling.tag :: node.within ++ [.closes node.spelling.name]

theorem complete_within (node : Node α) : Complete node.within :=
  Complete.flatMap fun item _ => Writes.complete item

theorem within_eq_nil {node : Node α} (h : node.content? = none) : node.within = [] := by
  rw [within, children, h]
  rfl

-- The element as it is read.
def part (node : Node α) : Part where
  tag := node.spelling.tag
  content? := node.content?.map fun _ => node.within
  complete content hcontent := by
    obtain ⟨_, _, rfl⟩ := Option.map_eq_some_iff.mp hcontent
    exact node.complete_within

theorem content?_part (node : Node α) :
    node.part.content? = node.content?.map fun _ => node.within := rfl

theorem events_part (node : Node α) : node.part.events = node.events := by
  rw [Part.events, content?_part, events]
  cases node.content? <;> rfl

theorem within_part (node : Node α) : node.part.within = node.within := by
  rw [Part.within, content?_part]
  cases hcontent : node.content? with
  | none => exact (within_eq_nil hcontent).symm
  | some _ => rfl

theorem complete (node : Node α) : Complete node.events :=
  node.events_part ▸ node.part.complete_events

theorem lexes (node : Node α) : Lexes node.chars node.events := by
  rw [chars, events]
  cases hcontent : node.content? with
  | none => exact node.spelling.lexes_selfCloses
  | some content =>
      have hwithin : node.within = content.children.flatMap fun child => Writes.events child.2 := by
        rw [within, children, hcontent, List.flatMap_map]
      have hchildren : Lexes
          (content.children.flatMap fun child => child.1.chars ++ Writes.chars child.2)
          node.within := by
        rw [hwithin]
        exact Lexes.flatMap fun child _ => child.1.lexes.append (Writes.lexes child.2)
      have hall := (node.spelling.lexes_opens.append (hchildren.append content.last.lexes)).append
        (node.spelling.lexes_closes content.closing)
      rwa [List.append_nil] at hall

instance : Writes (Node α) where
  chars := chars
  events := events
  lexes := lexes
  complete := complete

-- An element is sound if its tag is and all that is within.
theorem soundFrom_events (node : Node α) (opened : List Tag) :
    SoundFrom opened node.events ↔
      node.spelling.tag.Sound opened ∧ SoundFrom (node.spelling.tag :: opened) node.within := by
  rw [← events_part, Part.soundFrom_events, within_part]
  rfl

theorem tags_events (node : Node α) : tags node.events = node.spelling.tag :: tags node.within := by
  rw [← events_part, Part.tags_events, within_part]
  rfl

theorem groupsIn_events (node : Node α) :
    Description.groupsIn node.events =
      (Description.group? node.spelling.tag node.within).toList ++
        Description.groupsIn node.within := by
  rw [← events_part, Part.groupsIn_events, within_part]
  rfl

end Node

end EffectTables.Markup
