import EffectTables.Markup.Stream
import Mathlib.Data.List.Basic

namespace EffectTables.Markup

theorem Quote.ofChar?_eq_none {c : Char} (hsingle : c ≠ '\x27') (hdouble : c ≠ '\x22') :
    ofChar? c = none := by
  rw [ofChar?, if_neg hsingle, if_neg hdouble]

-- A stretch of a tag in which every quoted value is closed and outside of which no closing
-- bracket stands.
def Unbroken (text : List Char) : Prop :=
  ∀ rest, tagText none (text ++ rest) =
    (tagText none rest).map fun found => (text ++ found.1, found.2)

namespace Unbroken

theorem nil : Unbroken [] := by
  intro rest
  rw [List.nil_append]
  cases tagText none rest <;> rfl

theorem append {text more : List Char} (htext : Unbroken text) (hmore : Unbroken more) :
    Unbroken (text ++ more) := by
  intro rest
  rw [List.append_assoc, htext, hmore]
  cases tagText none rest with
  | error quote => rfl
  | ok found => simp [Except.map]

theorem flatMap {text : α → List Char} {items : List α} (h : ∀ item ∈ items, Unbroken (text item)) :
    Unbroken (items.flatMap text) := by
  induction items with
  | nil => exact nil
  | cons item rest ih =>
      obtain ⟨hitem, hrest⟩ := List.forall_mem_cons.mp h
      exact hitem.append (ih hrest)

theorem char {c : Char} (hbracket : c ≠ '>') (hsingle : c ≠ '\x27') (hdouble : c ≠ '\x22') :
    Unbroken [c] := by
  intro rest
  rw [List.singleton_append, tagText]
  simp only [if_neg hbracket, Quote.ofChar?_eq_none hsingle hdouble, List.singleton_append]

theorem of_forall {text : List Char}
    (h : ∀ c ∈ text, c ≠ '>' ∧ c ≠ '\x27' ∧ c ≠ '\x22') : Unbroken text := by
  induction text with
  | nil => exact nil
  | cons c rest ih =>
      obtain ⟨⟨hbracket, hsingle, hdouble⟩, hrest⟩ := List.forall_mem_cons.mp h
      exact (char hbracket hsingle hdouble).append (ih hrest)

theorem tagText_some_double {value : List Char} (h : '\x22' ∉ value) (rest : List Char) :
    tagText (some .double) (value ++ '\x22' :: rest) =
      (tagText none rest).map fun found => (value ++ '\x22' :: found.1, found.2) := by
  induction value with
  | nil =>
      rw [List.nil_append, tagText]
      rfl
  | cons c value ih =>
      have hquote : c ≠ Quote.double.char := fun hc => h (hc ▸ List.mem_cons_self)
      have hrest : '\x22' ∉ value := fun hmem => h (List.mem_cons_of_mem _ hmem)
      rw [List.cons_append, tagText, if_neg hquote, ih hrest]
      cases tagText none rest <;> rfl

-- A value in double quotes may hold everything but a double quote.
theorem quoted {value : List Char} (h : '\x22' ∉ value) :
    Unbroken ('\x22' :: value ++ ['\x22']) := by
  intro rest
  have htext : '\x22' :: value ++ ['\x22'] ++ rest = '\x22' :: (value ++ '\x22' :: rest) := by simp
  have hopen : Quote.ofChar? '\x22' = some .double := by decide
  have hbracket : '\x22' ≠ '>' := by decide
  rw [htext, tagText]
  simp only [if_neg hbracket, hopen, tagText_some_double h]
  cases tagText none rest <;> simp [Except.map]

theorem tagText_eq {text : List Char} (h : Unbroken text) (rest : List Char) :
    tagText none (text ++ '>' :: rest) = .ok (text, rest) := by
  rw [h, tagText]
  simp [Except.map]

end Unbroken

theorem events_of_next_found {text rest : List Char} {event : Event}
    (h : Event.next text = .found event rest) : events text = (events rest).cons event := by
  rw [events]
  split <;> simp_all

theorem events_eq_of_next_eq {text other : List Char} (h : Event.next text = Event.next other) :
    events text = events other := by
  rw [events, events.eq_def other]
  split <;> split <;> simp_all

theorem events_nil : events [] = ⟨[], none⟩ := by
  rw [events]
  rfl

-- A stretch of a document that is read as some events, whatever follows it.
def Lexes (text : List Char) (found : List Event) : Prop :=
  ∀ rest, events (text ++ rest) = ⟨found ++ (events rest).items, (events rest).fault⟩

namespace Lexes

theorem nil : Lexes [] [] := fun _ => rfl

theorem append {text more : List Char} {found further : List Event} (htext : Lexes text found)
    (hmore : Lexes more further) : Lexes (text ++ more) (found ++ further) := by
  intro rest
  rw [List.append_assoc, htext, hmore, List.append_assoc]

theorem flatMap {text : α → List Char} {found : α → List Event} {items : List α}
    (h : ∀ item ∈ items, Lexes (text item) (found item)) :
    Lexes (items.flatMap text) (items.flatMap found) := by
  induction items with
  | nil => exact nil
  | cons item rest ih =>
      obtain ⟨hitem, hrest⟩ := List.forall_mem_cons.mp h
      exact hitem.append (ih hrest)

theorem events_eq {text : List Char} {found : List Event} (h : Lexes text found) :
    events text = ⟨found, none⟩ := by
  have hall := h []
  rwa [List.append_nil, events_nil, List.append_nil] at hall

theorem of_next {text : List Char} {event : Event}
    (h : ∀ rest, Event.next (text ++ rest) = .found event rest) : Lexes text [event] := by
  intro rest
  rw [events_of_next_found (h rest)]
  rfl

-- White space is no event.
theorem spaces {text : List Char} (h : ∀ c ∈ text, isSpace c) : Lexes text [] := by
  intro rest
  have hplain : ∀ c ∈ text, (c != '<' && c != '&') = true := by
    intro c hc
    have hspace := h c hc
    simp only [isSpace, Bool.or_eq_true, beq_iff_eq] at hspace
    rcases hspace with ((rfl | rfl) | rfl) | rfl <;> rfl
  refine events_eq_of_next_eq ?_
  rw [Event.next, List.dropWhile_append_of_pos hplain]
  rfl

end Lexes

end EffectTables.Markup
