import EffectTables.Markup.Event

namespace EffectTables.Markup

theorem after?_shorter {pattern text rest : List Char} (h : after? pattern text = some rest) :
    rest.length ≤ text.length := by
  induction text with
  | nil => simp [after?] at h
  | cons c text ih =>
      simp only [after?] at h
      split at h
      · cases h
        simp only [List.length_drop]
        omega
      · have := ih h
        simp only [List.length_cons]
        omega

theorem tagText_shorter {quote : Option Quote} {text inside rest : List Char}
    (h : tagText quote text = .ok (inside, rest)) : rest.length ≤ text.length := by
  induction text generalizing quote inside with
  | nil => simp [tagText] at h
  | cons c text ih =>
      have step : ∀ {quote : Option Quote},
          (tagText quote text).map (fun found => (c :: found.1, found.2)) = .ok (inside, rest) →
            rest.length ≤ (c :: text).length := by
        intro quote h
        cases ht : tagText quote text with
        | error _ => simp [ht, Except.map] at h
        | ok found =>
            simp only [ht, Except.map, Except.ok.injEq, Prod.mk.injEq] at h
            have := ih (ht.trans (by rw [← h.2]))
            simp only [List.length_cons]
            omega
      simp only [tagText] at h
      cases quote with
      | none =>
          simp only at h
          split at h
          · cases h
            simp
          · exact step h
      | some _ => exact step h

namespace Event

theorem aside?_shorter {construct : Construct} {outcome : Option (List Char)} {event : Event}
    {rest : List Char} (h : aside? construct outcome = .found event rest) :
    outcome = some rest := by
  cases outcome with
  | none => simp [aside?] at h
  | some _ => simp only [aside?, Next.found.injEq] at h; rw [h.2]

theorem nextReference_shorter {text rest : List Char} {event : Event}
    (h : nextReference text = .found event rest) : rest.length ≤ text.length := by
  unfold nextReference at h
  have hle := (List.dropWhile_sublist (l := text)
    fun c => c != ';' && c != '&' && c != '<').length_le
  split at h
  next hd =>
    simp only [Next.found.injEq] at h
    rw [hd, h.2] at hle
    simp only [List.length_cons] at hle
    omega
  next => simp at h

theorem nextInstruction_shorter {text rest : List Char} {event : Event}
    (h : nextInstruction text = .found event rest) : rest.length ≤ text.length := by
  unfold nextInstruction at h
  split at h
  · simp at h
  · exact after?_shorter (aside?_shorter h)

theorem nextDoctype_shorter {text rest : List Char} {event : Event}
    (h : nextDoctype text = .found event rest) : rest.length ≤ text.length := by
  unfold nextDoctype at h
  split at h
  · split at h
    · simp at h
    · have := Doctype.rest?_shorter (aside?_shorter h)
      simp only [List.length_drop] at this
      omega
  · simp at h

theorem nextDeclaration_shorter {text rest : List Char} {event : Event}
    (h : nextDeclaration text = .found event rest) : rest.length ≤ text.length := by
  unfold nextDeclaration at h
  split at h
  · split at h
    · have := after?_shorter (aside?_shorter h)
      simp only [List.length_drop, List.length_cons] at this ⊢
      omega
    · simp at h
  · split at h
    · have := after?_shorter (aside?_shorter h)
      simp only [List.length_cons]
      omega
    · simp at h
  · exact nextDoctype_shorter h
  · exact nextDoctype_shorter h
  · simp at h

theorem nextMarkup_shorter {text rest : List Char} {event : Event}
    (h : nextMarkup text = .found event rest) : rest.length ≤ text.length := by
  unfold nextMarkup at h
  split at h
  · simp at h
  · have := nextDeclaration_shorter h
    simp only [List.length_cons]
    omega
  · have := nextInstruction_shorter h
    simp only [List.length_cons]
    omega
  · unfold nextClosing at h
    split at h
    · simp at h
    next ht =>
      have := tagText_shorter ht
      simp only [Next.found.injEq] at h
      rw [h.2] at this
      simp only [List.length_cons]
      omega
  · unfold nextOpening at h
    split at h
    · simp at h
    next ht =>
      have := tagText_shorter ht
      split at h <;> simp only [Next.found.injEq] at h <;> rw [h.2] at this <;> exact this

theorem next_shorter {text rest : List Char} {event : Event}
    (h : next text = .found event rest) : rest.length < text.length := by
  unfold next at h
  have hle := (List.dropWhile_sublist (l := text) fun c => c != '<' && c != '&').length_le
  split at h
  · simp at h
  next hd =>
    rw [hd] at hle
    simp only [List.length_cons] at hle
    split at h
    · have := nextMarkup_shorter h
      omega
    · have := nextReference_shorter h
      omega

end Event

-- All events of a text in order, up to the first fault in the writing of one of them.
def events (text : List Char) : Findings Event :=
  match h : Event.next text with
  | .done => ⟨[], none⟩
  | .failed fault => ⟨[], some fault⟩
  | .found event rest =>
      have := Event.next_shorter h
      (events rest).cons event
termination_by text.length

-- Ends the events at the first closing tag that does not fit the innermost open element. The
-- names of the open elements are given from the inside out.
def nested (names : List String) (fault : Option Fault) : List Event → Findings Event
  | [] => ⟨[], fault⟩
  | event :: rest =>
      match event with
      | .opens tag => (nested (tag.name :: names) fault rest).cons event
      | .closes found =>
          match names with
          | [] => ⟨[], some (.unopened found)⟩
          | name :: outer =>
              if name = found then (nested outer fault rest).cons event
              else ⟨[], some (.mismatched name found)⟩
      | _ => (nested names fault rest).cons event

def read (document : String) : Findings Event :=
  let found := events document.toList
  nested [] found.fault found.items

end EffectTables.Markup
