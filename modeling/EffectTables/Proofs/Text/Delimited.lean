import Mathlib.Data.List.Basic

namespace EffectTables.Text

theorem fromUTF8?_eq_some_iff {bytes : ByteArray} {text : String} :
    String.fromUTF8? bytes = some text ↔ bytes = text.toUTF8 := by
  rw [String.fromUTF8?]
  constructor
  · intro h
    split at h
    next =>
      cases h
      rfl
    next => cases h
  · rintro rfl
    exact dif_pos text.isValidUTF8

-- The bytes of a text are those of its characters, one after another.
theorem toUTF8_eq (text : String) :
    text.toUTF8 = (text.toList.flatMap String.utf8EncodeChar).toByteArray :=
  String.utf8Encode_toList.symm

-- A character of ASCII is one byte.
theorem utf8EncodeChar_of_ascii {c : Char} (h : c.toNat < 0x80) :
    String.utf8EncodeChar c = [c.toNat.toUInt8] :=
  if_pos (Nat.le_of_lt_succ h)

-- The texts of the sound parts show by themselves where they end. Whatever follows the text of a
-- part, no other part begins the same text.
def Delimited (sound : α → Prop) (text : α → List β) : Prop :=
  ∀ ⦃part other⦄, sound part → sound other → ∀ ⦃rest tail⦄,
    text part ++ rest = text other ++ tail → part = other ∧ rest = tail

-- None of the sound parts begins the text.
def Ends (sound : α → Prop) (text : α → List β) (rest : List β) : Prop :=
  ∀ ⦃part⦄, sound part → ∀ tail, rest ≠ text part ++ tail

variable {sound : α → Prop} {text : α → List β}

theorem Ends.append {rest : List β} (h : Ends sound text rest) (mark : List β) :
    Ends sound (fun part => text part ++ mark) rest := by
  intro part hpart tail heq
  rw [List.append_assoc] at heq
  exact h hpart _ heq

namespace Delimited

-- A mark behind every part does no harm.
theorem append (h : Delimited sound text) (mark : List β) :
    Delimited sound (fun part => text part ++ mark) := by
  intro part other hpart hother rest tail heq
  rw [List.append_assoc, List.append_assoc] at heq
  obtain ⟨hsame, hrest⟩ := h hpart hother heq
  exact ⟨hsame, List.append_cancel_left hrest⟩

-- Parts that are written one after another are known from their text.
theorem flatMap (h : Delimited sound text) {parts others : List α} {rest tail : List β}
    (hparts : ∀ part ∈ parts, sound part) (hothers : ∀ other ∈ others, sound other)
    (hrest : Ends sound text rest) (htail : Ends sound text tail)
    (heq : parts.flatMap text ++ rest = others.flatMap text ++ tail) :
    parts = others ∧ rest = tail := by
  induction parts generalizing others with
  | nil =>
      cases others with
      | nil => exact ⟨rfl, heq⟩
      | cons other others =>
          rw [List.flatMap_cons, List.append_assoc] at heq
          exact absurd heq (hrest (hothers other List.mem_cons_self) _)
  | cons part parts ih =>
      cases others with
      | nil =>
          rw [List.flatMap_cons, List.append_assoc] at heq
          exact absurd heq.symm (htail (hparts part List.mem_cons_self) _)
      | cons other others =>
          obtain ⟨hfirst, hmore⟩ := List.forall_mem_cons.mp hparts
          obtain ⟨hsecond, hlater⟩ := List.forall_mem_cons.mp hothers
          rw [List.flatMap_cons, List.flatMap_cons, List.append_assoc, List.append_assoc] at heq
          obtain ⟨rfl, hcut⟩ := h hfirst hsecond heq
          obtain ⟨rfl, hend⟩ := ih hmore hlater hcut
          exact ⟨rfl, hend⟩

end Delimited

-- Texts without a mark that ends them are known.
theorem eq_of_append_mark {part other rest tail : List β} {mark : β} (hpart : mark ∉ part)
    (hother : mark ∉ other) (h : part ++ mark :: rest = other ++ mark :: tail) :
    part = other ∧ rest = tail := by
  have hdelimited : Delimited (· ≠ mark) fun c => [c] := by
    intro c d _ _ rest tail h
    rwa [List.singleton_append, List.singleton_append, List.cons.injEq] at h
  have hends : ∀ rest, Ends (· ≠ mark) (fun c => [c]) (mark :: rest) := by
    intro rest c hc tail h
    rw [List.singleton_append, List.cons.injEq] at h
    exact hc h.1.symm
  rw [← List.flatMap_singleton' part, ← List.flatMap_singleton' other] at h
  obtain ⟨hsame, hrest⟩ := hdelimited.flatMap (fun c hc => ne_of_mem_of_not_mem hc hpart)
    (fun c hc => ne_of_mem_of_not_mem hc hother) (hends rest) (hends tail) h
  exact ⟨hsame, List.tail_eq_of_cons_eq hrest⟩

-- A search stops at the first mark that it is for.
theorem takeWhile_append_mark {p : α → Bool} {text rest : List α} {mark : α}
    (htext : ∀ c ∈ text, p c) (hmark : p mark = false) :
    (text ++ mark :: rest).takeWhile p = text := by
  rw [List.takeWhile_append_of_pos htext, List.takeWhile_cons_of_neg (by simp [hmark]),
    List.append_nil]

theorem dropWhile_append_mark {p : α → Bool} {text rest : List α} {mark : α}
    (htext : ∀ c ∈ text, p c) (hmark : p mark = false) :
    (text ++ mark :: rest).dropWhile p = mark :: rest := by
  rw [List.dropWhile_append_of_pos htext, List.dropWhile_cons_of_neg (by simp [hmark])]

-- What stands in front of the first such mark, and what stands behind it.
def cut? [DecidableEq α] (mark : α) (text : List α) : Option (List α × List α) :=
  match text.dropWhile (· != mark) with
  | [] => none
  | _ :: back => some (text.takeWhile (· != mark), back)

-- The same for the last such mark.
def cutLast? [DecidableEq α] (mark : α) (text : List α) : Option (List α × List α) :=
  (cut? mark text.reverse).map fun parts => (parts.2.reverse, parts.1.reverse)

section

variable [DecidableEq α] {mark : α} {front back : List α}

theorem cut?_append (h : mark ∉ front) :
    cut? mark (front ++ mark :: back) = some (front, back) := by
  have hfront : ∀ c ∈ front, c != mark := fun c hc => bne_iff_ne.mpr (ne_of_mem_of_not_mem hc h)
  have hmark : (mark != mark) = false := bne_self_eq_false mark
  rw [cut?, takeWhile_append_mark hfront hmark, dropWhile_append_mark hfront hmark]

theorem cutLast?_append (h : mark ∉ back) :
    cutLast? mark (front ++ mark :: back) = some (front, back) := by
  have hback : mark ∉ back.reverse := mt List.mem_reverse.mp h
  rw [cutLast?, List.reverse_append, List.reverse_cons, List.append_assoc, List.singleton_append,
    cut?_append hback, Option.map_some, List.reverse_reverse, List.reverse_reverse]

end

end EffectTables.Text
