import EffectTables.Proofs.Markup.Lexing
import Mathlib.Data.List.TakeWhile

namespace EffectTables.Markup

variable {text rest : List Char}

-- A search for a pattern that ends within a text ends there whatever follows the text.
theorem length_add_le_of_after? {pattern : List Char} (h : after? pattern text = some rest) :
    pattern.length + rest.length ≤ text.length := by
  induction text with
  | nil => simp [after?] at h
  | cons c text ih =>
      simp only [after?] at h
      split at h
      next hstart =>
        have hle := (List.isPrefixOf_iff_prefix.mp hstart).length_le
        cases h
        rw [List.length_drop]
        omega
      next =>
        have := ih h
        rw [List.length_cons]
        omega

theorem after?_append {pattern : List Char} (h : after? pattern text = some rest)
    (more : List Char) : after? pattern (text ++ more) = some (rest ++ more) := by
  induction text with
  | nil => simp [after?] at h
  | cons c text ih =>
      have hlength := length_add_le_of_after? h
      simp only [after?] at h
      rw [List.cons_append, after?, ← List.cons_append]
      split at h
      next hstart =>
        have hstart := List.isPrefixOf_iff_prefix.mp hstart
        rw [if_pos (List.isPrefixOf_iff_prefix.mpr (hstart.trans (List.prefix_append _ _))),
          List.drop_append_of_le_length hstart.length_le]
        cases h
        rfl
      next hno =>
        -- the pattern is not longer than the text, so that it cannot reach beyond its end
        have hno' : ¬ pattern.isPrefixOf (c :: text ++ more) := by
          intro hstart
          apply hno
          rw [List.isPrefixOf_iff_prefix] at hstart ⊢
          exact List.prefix_of_prefix_length_le hstart (List.prefix_append _ _) (by omega)
        rw [if_neg hno']
        exact ih h

theorem tagText_append {quote : Option Quote} {inside : List Char}
    (h : tagText quote text = .ok (inside, rest)) (more : List Char) :
    tagText quote (text ++ more) = .ok (inside, rest ++ more) := by
  induction text generalizing quote inside with
  | nil => simp [tagText] at h
  | cons c text ih =>
      have hstep : ∀ {quote : Option Quote},
          (tagText quote text).map (fun found => (c :: found.1, found.2)) = .ok (inside, rest) →
            (tagText quote (text ++ more)).map (fun found => (c :: found.1, found.2)) =
              .ok (inside, rest ++ more) := by
        intro quote h
        cases ht : tagText quote text with
        | error _ => simp [ht, Except.map] at h
        | ok found =>
            simp only [ht, Except.map, Except.ok.injEq, Prod.mk.injEq] at h
            obtain ⟨rfl, rfl⟩ := h
            rw [ih ht]
            rfl
      rw [List.cons_append]
      simp only [tagText] at h ⊢
      cases quote with
      | none =>
          simp only at h ⊢
          split at h
          next hclosing =>
            cases h
            rw [if_pos hclosing]
          next hopen =>
            rw [if_neg hopen]
            exact hstep h
      | some _ => exact hstep h

namespace Doctype

-- Only a closing bracket ends the declaration.
theorem Place.eq_of_next_eq_none {place : Place} {c : Char} {following : List Char}
    (h : place.next c following = none) : c = '>' := by
  cases place with
  | outside =>
      by_contra hne
      simp only [next, if_neg hne] at h
      split at h <;> cases h
  | closing =>
      by_contra hne
      simp [next, hne] at h
  | subset =>
      simp only [next] at h
      split at h <;> cases h
  | declaration quote => cases quote <;> cases h
  | _ => cases h

theorem mem_of_rest? {passed : Nat} {place : Place} (h : rest? passed place text = some rest) :
    '>' ∈ text := by
  induction text generalizing passed place with
  | nil => simp [rest?] at h
  | cons c text ih =>
      cases passed with
      | succ passed => exact List.mem_cons_of_mem _ (ih (by simpa [rest?] using h))
      | zero =>
          simp only [rest?] at h
          split at h
          next hends => exact Place.eq_of_next_eq_none hends ▸ List.mem_cons_self
          next => exact List.mem_cons_of_mem _ (ih h)

-- A pattern without the bracket does not reach beyond the bracket.
theorem isPrefixOf_append {pattern : List Char} (hmem : '>' ∈ text) (hpattern : '>' ∉ pattern)
    (more : List Char) : pattern.isPrefixOf (text ++ more) = pattern.isPrefixOf text := by
  induction pattern generalizing text with
  | nil => rfl
  | cons p pattern ih =>
      cases text with
      | nil => cases hmem
      | cons c text =>
          rw [List.cons_append, List.isPrefixOf, List.isPrefixOf]
          by_cases hp : p = c
          · subst hp
            have hne : '>' ≠ p := fun he => hpattern (he ▸ List.mem_cons_self)
            rw [ih (List.mem_of_ne_of_mem hne hmem) fun h => hpattern (List.mem_cons_of_mem _ h)]
          · have hfalse : (p == c) = false := beq_eq_false_iff_ne.mpr hp
            rw [hfalse, Bool.false_and, Bool.false_and]

theorem opened_append (hmem : '>' ∈ text) (more : List Char) :
    opened (text ++ more) = opened text := by
  have hpatterns : ∀ pattern ∈ ['?'] :: ['!', '-', '-'] :: quotedDeclarations,
      '>' ∉ pattern := by decide
  obtain ⟨hinstruction, hrest⟩ := List.forall_mem_cons.mp hpatterns
  obtain ⟨hcomment, hquoted⟩ := List.forall_mem_cons.mp hrest
  have hany : quotedDeclarations.any (·.isPrefixOf (text ++ more)) =
      quotedDeclarations.any (·.isPrefixOf text) := by
    rw [Bool.eq_iff_iff, List.any_eq_true, List.any_eq_true]
    refine exists_congr fun pattern => and_congr_right fun hpattern => ?_
    rw [isPrefixOf_append hmem (hquoted pattern hpattern)]
  rw [opened, opened, isPrefixOf_append hmem hinstruction, isPrefixOf_append hmem hcomment, hany]

-- Only where an element of the subset begins does it matter what follows.
theorem Place.next_append {place : Place} {c : Char}
    (h : place.next c text = none ∨ '>' ∈ text) (more : List Char) :
    place.next c (text ++ more) = place.next c text := by
  cases place with
  | subset =>
      have hmem : c = '<' → '>' ∈ text := by
        rintro rfl
        exact h.resolve_left nofun
      simp only [next]
      by_cases hc : c = '<'
      · rw [if_pos hc, if_pos hc, opened_append (hmem hc)]
      · rw [if_neg hc, if_neg hc]
  | declaration quote => cases quote <;> rfl
  | _ => rfl

theorem rest?_append {passed : Nat} {place : Place} (h : rest? passed place text = some rest)
    (more : List Char) : rest? passed place (text ++ more) = some (rest ++ more) := by
  induction text generalizing passed place with
  | nil => simp [rest?] at h
  | cons c text ih =>
      rw [List.cons_append]
      cases passed with
      | succ passed =>
          rw [rest?] at h ⊢
          exact ih h
      | zero =>
          simp only [rest?] at h ⊢
          cases hnext : place.next c text with
          | none =>
              rw [Place.next_append (.inl hnext), hnext]
              simp only [hnext] at h ⊢
              cases h
              rfl
          | some found =>
              simp only [hnext] at h
              rw [Place.next_append (.inr (mem_of_rest? h)), hnext]
              exact ih h

end Doctype

namespace Event

variable {event : Event}

theorem aside?_append {construct : Construct} {outcome : Option (List Char)}
    {longer : Option (List Char)} {more : List Char}
    (h : aside? construct outcome = .found event rest)
    (hlonger : outcome = some rest → longer = some (rest ++ more)) (other : Construct) :
    aside? other longer = .found event (rest ++ more) := by
  have houtcome := aside?_shorter h
  rw [houtcome] at h
  rw [hlonger houtcome]
  cases h
  rfl

theorem nextReference_append (h : nextReference text = .found event rest) (more : List Char) :
    nextReference (text ++ more) = .found event (rest ++ more) := by
  unfold nextReference at h ⊢
  rw [List.dropWhile_append]
  split at h
  next hd =>
    cases h
    rw [hd]
    rfl
  next => cases h

theorem nextInstruction_append (h : nextInstruction text = .found event rest)
    (more : List Char) : nextInstruction (text ++ more) = .found event (rest ++ more) := by
  cases text with
  | nil => simp [nextInstruction, after?, aside?] at h
  | cons c text =>
      rw [List.cons_append]
      simp only [nextInstruction] at h ⊢
      split at h
      · cases h
      next hne =>
        split
        next heq => exact absurd (List.cons.inj heq).1 fun he => hne text (he ▸ rfl)
        next => exact aside?_append h (fun hfound => after?_append hfound more) _

theorem nextDoctype_append (h : nextDoctype text = .found event rest) (more : List Char) :
    nextDoctype (text ++ more) = .found event (rest ++ more) := by
  unfold nextDoctype at h ⊢
  split at h
  next hword =>
    have hlength : 7 ≤ text.length := by
      have htake := congrArg List.length hword
      have hseven : "DOCTYPE".toList.length = 7 := by decide
      rw [List.length_map, List.length_take, hseven] at htake
      omega
    rw [List.take_append_of_le_length hlength, List.drop_append_of_le_length hlength,
      if_pos hword]
    split at h
    · cases h
    next hnamed =>
      have hrest := aside?_shorter h
      have hmem := Doctype.mem_of_rest? hrest
      -- the closing bracket is no space, so that something is left behind the spaces
      have hleft : ((text.drop 7).dropWhile isSpace).isEmpty = false := by
        rw [List.isEmpty_eq_false_iff, ne_eq, List.dropWhile_eq_nil_iff]
        exact fun hall => absurd (hall '>' hmem) (by decide)
      rw [List.dropWhile_append, hleft]
      cases hd : (text.drop 7).dropWhile isSpace with
      | nil => simp [hd] at hleft
      | cons c after =>
          have hc : c ≠ '>' := fun he => hnamed after (by rw [hd, he])
          simp only [Bool.false_eq_true, if_false, List.cons_append]
          split
          next heq => exact absurd (List.cons.inj heq).1 hc
          next => exact aside?_append h (fun hfound => Doctype.rest?_append hfound more) _
  next => cases h

theorem nextDeclaration_append (h : nextDeclaration text = .found event rest)
    (more : List Char) : nextDeclaration (text ++ more) = .found event (rest ++ more) := by
  unfold nextDeclaration at h
  split at h
  next body =>
    split at h
    next hword =>
      have hstart := List.isPrefixOf_iff_prefix.mp hword
      have hlonger := List.isPrefixOf_iff_prefix.mpr (hstart.trans (List.prefix_append _ more))
      have hdrop : (body ++ more).drop 6 = body.drop 6 ++ more :=
        List.drop_append_of_le_length hstart.length_le
      rw [List.cons_append, nextDeclaration]
      simp only [hlonger, if_true, hdrop]
      exact aside?_append h (fun hfound => after?_append hfound more) _
    next => cases h
  next =>
    split at h
    next =>
      rw [List.cons_append, List.cons_append, nextDeclaration]
      exact aside?_append h (fun hfound => after?_append hfound more) _
    next => cases h
  next => exact nextDoctype_append h more
  next => exact nextDoctype_append h more
  next => cases h

theorem nextClosing_append (h : nextClosing text = .found event rest) (more : List Char) :
    nextClosing (text ++ more) = .found event (rest ++ more) := by
  unfold nextClosing at h ⊢
  split at h
  · cases h
  next htag =>
    rw [tagText_append htag more]
    cases h
    rfl

theorem nextOpening_append (h : nextOpening text = .found event rest) (more : List Char) :
    nextOpening (text ++ more) = .found event (rest ++ more) := by
  unfold nextOpening at h ⊢
  split at h
  · cases h
  next htag =>
    rw [tagText_append htag more]
    split at h
    next hslash =>
      cases h
      exact if_pos hslash
    next hslash =>
      cases h
      exact if_neg hslash

theorem nextMarkup_append (h : nextMarkup text = .found event rest) (more : List Char) :
    nextMarkup (text ++ more) = .found event (rest ++ more) := by
  unfold nextMarkup at h
  split at h
  · cases h
  · exact nextDeclaration_append h more
  · exact nextInstruction_append h more
  · exact nextClosing_append h more
  next hempty hdeclaration hinstruction hclosing =>
    cases text with
    | nil => exact absurd rfl hempty
    | cons c text =>
        have hopening := nextOpening_append h more
        rw [List.cons_append] at hopening ⊢
        unfold nextMarkup
        split
        next heq => cases heq
        next heq => exact absurd (by rw [(List.cons.inj heq).1]) (hdeclaration text)
        next heq => exact absurd (by rw [(List.cons.inj heq).1]) (hinstruction text)
        next heq => exact absurd (by rw [(List.cons.inj heq).1]) (hclosing text)
        next => exact hopening

-- An event that was found is found whatever follows.
theorem next_append (h : next text = .found event rest) (more : List Char) :
    next (text ++ more) = .found event (rest ++ more) := by
  unfold next at h ⊢
  rw [List.dropWhile_append]
  split at h
  · cases h
  next c after hd =>
    rw [hd]
    simp only [List.isEmpty_cons, Bool.false_eq_true, if_false, List.cons_append]
    split at h
    next hc =>
      rw [if_pos hc]
      exact nextMarkup_append h more
    next hc =>
      rw [if_neg hc]
      exact nextReference_append h more

theorem nextReference_ne_done (text : List Char) : nextReference text ≠ .done := by
  unfold nextReference
  split <;> nofun

theorem aside?_ne_done (construct : Construct) (outcome : Option (List Char)) :
    aside? construct outcome ≠ .done := by
  cases outcome <;> nofun

theorem nextDoctype_ne_done (text : List Char) : nextDoctype text ≠ .done := by
  unfold nextDoctype
  split
  · split
    · nofun
    · exact aside?_ne_done _ _
  · nofun

theorem nextDeclaration_ne_done (text : List Char) : nextDeclaration text ≠ .done := by
  unfold nextDeclaration
  split
  · split
    · exact aside?_ne_done _ _
    · nofun
  · split
    · exact aside?_ne_done _ _
    · nofun
  · exact nextDoctype_ne_done _
  · exact nextDoctype_ne_done _
  · nofun

theorem nextMarkup_ne_done (text : List Char) : nextMarkup text ≠ .done := by
  unfold nextMarkup
  split
  · nofun
  · exact nextDeclaration_ne_done _
  · unfold nextInstruction
    split
    · nofun
    · exact aside?_ne_done _ _
  · unfold nextClosing
    split <;> nofun
  · unfold nextOpening
    split
    · nofun
    · split <;> nofun

-- Where no event was found, what follows is read as if nothing stood before it.
theorem next_append_of_done (h : next text = .done) (more : List Char) :
    next (text ++ more) = next more := by
  have hplain : text.dropWhile (fun c => c != '<' && c != '&') = [] := by
    unfold next at h
    split at h
    next hd => exact hd
    next =>
      split at h
      · exact absurd h (nextMarkup_ne_done _)
      · exact absurd h (nextReference_ne_done _)
  rw [next, List.dropWhile_append, hplain]
  rfl

end Event

-- A text that is read to its end without a fault is read in the same way before any other text.
theorem lexes_of_faultless (h : (events text).fault = none) : Lexes text (events text).items := by
  intro more
  induction text using events.induct with
  | case1 text hnext =>
      have hnone : (events text).items = [] := by
        rw [events]
        split <;> simp_all
      rw [events_eq_of_next_eq (Event.next_append_of_done hnext more), hnone, List.nil_append]
  | case2 text fault hnext =>
      rw [events] at h
      split at h <;> simp_all
  | case3 text event rest hnext _ ih =>
      rw [events_of_next_found hnext] at h ⊢
      rw [events_of_next_found (Event.next_append hnext more), ih h]
      rfl

end EffectTables.Markup
