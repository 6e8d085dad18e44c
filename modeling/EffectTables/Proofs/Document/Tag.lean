import EffectTables.Device.Document
import EffectTables.Proofs.Lookup
import EffectTables.Proofs.Outcome

namespace EffectTables

namespace Markup.Tag

-- The known element that the tag opens.
def element? (tag : Tag) : Option Element := Element.ofName? tag.name

-- All attributes are well-written, and so are all references in their values.
def Readable (tag : Tag) : Prop :=
  tag.attributes.fault = none ∧
    ∀ item ∈ tag.attributes.items, ∃ value, Reference.decode item.value = .ok value

def Has (tag : Tag) (key : String) : Prop := ∃ item ∈ tag.attributes.items, item.key = key

-- The text that an attribute stands for.
def value? (tag : Tag) (key : String) : Option String :=
  (tag.attributes.items.find? (·.key == key)).bind fun item =>
    (Reference.decode item.value).toOption.map String.ofList

-- The number that an attribute stands for.
def number? (tag : Tag) (key : String) : Option Int32 := (tag.value? key).bind Text.Decimal.read?

end Markup.Tag

namespace Device.Attributes

open Markup (Tag)

theorem decode_eq_ok_iff {item : Markup.Attribute} {entry : String × String} :
    decode item = .ok entry ↔
      item.key = entry.1 ∧ ∃ text, Markup.Reference.decode item.value = .ok text ∧
        String.ofList text = entry.2 := by
  unfold decode
  cases Markup.Reference.decode item.value <;> simp [Prod.ext_iff]

theorem ofTag_eq_ok_iff {tag : Tag} {attributes : Attributes} :
    ofTag tag = .ok attributes ↔
      tag.attributes.fault = none ∧
        List.Forall₂ (fun item entry => decode item = .ok entry) tag.attributes.items
          attributes := by
  simp only [ofTag, ofFindings, Outcome.bind_eq_ok_iff, Outcome.mapM_eq_ok_iff]
  cases tag.attributes.fault with
  | none => simp [pure, Except.pure]
  | some fault => simp [throw, throwThe, MonadExceptOf.throw]

theorem readable_of_ofTag {tag : Tag} {attributes : Attributes}
    (h : ofTag tag = .ok attributes) : tag.Readable := by
  obtain ⟨hfault, hitems⟩ := ofTag_eq_ok_iff.mp h
  refine ⟨hfault, ?_⟩
  clear h
  generalize tag.attributes.items = items at hitems
  induction hitems with
  | nil => simp
  | cons hfirst _ ih =>
      obtain ⟨-, text, htext, -⟩ := decode_eq_ok_iff.mp hfirst
      exact List.forall_mem_cons.mpr ⟨⟨text, htext⟩, ih⟩

theorem exists_ofTag {tag : Tag} (h : tag.Readable) : ∃ attributes, ofTag tag = .ok attributes := by
  obtain ⟨hfault, hitems⟩ := h
  simp only [ofTag_eq_ok_iff, hfault, true_and]
  generalize tag.attributes.items = items at hitems
  induction items with
  | nil => exact ⟨[], .nil⟩
  | cons item rest ih =>
      obtain ⟨⟨text, htext⟩, hrest⟩ := List.forall_mem_cons.mp hitems
      obtain ⟨attributes, hattributes⟩ := ih hrest
      exact ⟨(item.key, String.ofList text) :: attributes,
        .cons (decode_eq_ok_iff.mpr ⟨rfl, text, htext, rfl⟩) hattributes⟩

-- What is read under a key is what the tag says there.
theorem lookup_ofTag {tag : Tag} {attributes : Attributes} (h : ofTag tag = .ok attributes)
    (key : String) : attributes.lookup key = tag.value? key := by
  obtain ⟨-, hitems⟩ := ofTag_eq_ok_iff.mp h
  unfold Tag.value?
  clear h
  generalize tag.attributes.items = items at hitems
  induction hitems with
  | nil => rfl
  | @cons item entry _ _ hfirst _ ih =>
      obtain ⟨hkey, text, htext, hvalue⟩ := decode_eq_ok_iff.mp hfirst
      rw [Lookup.lookup_cons_eq_ite, List.find?_cons, hkey, ih]
      by_cases he : entry.1 = key
      · simp [he, htext, hvalue, Except.toOption]
      · have hne : (entry.1 == key) = false := by simpa using he
        simp [he, hne]

theorem has_iff_lookup {tag : Tag} {attributes : Attributes} (h : ofTag tag = .ok attributes)
    (key : String) : tag.Has key ↔ ∃ value, attributes.lookup key = some value := by
  obtain ⟨-, hitems⟩ := ofTag_eq_ok_iff.mp h
  unfold Tag.Has
  clear h
  generalize tag.attributes.items = items at hitems
  induction hitems with
  | nil => simp
  | @cons item entry _ _ hfirst _ ih =>
      obtain ⟨hkey, -⟩ := decode_eq_ok_iff.mp hfirst
      rw [Lookup.lookup_cons_eq_ite, List.exists_mem_cons_iff, hkey, ih]
      by_cases he : entry.1 = key <;> simp [he]

section Reads

variable {tag : Tag} {attributes : Attributes} (h : ofTag tag = .ok attributes)
include h

theorem text_eq_ok_iff {element : Element} {key value : String} :
    attributes.text element key = .ok value ↔ tag.value? key = some value := by
  rw [← lookup_ofTag h, text]
  cases attributes.lookup key <;> simp

theorem integer?_eq_none_iff {element : Element} {key : String} :
    attributes.integer? element key = .ok none ↔ ¬ tag.Has key := by
  rw [has_iff_lookup h, integer?]
  cases attributes.lookup key with
  | none => simp
  | some value => cases hr : Text.Decimal.read? value <;> simp [hr]

theorem integer?_eq_some_iff {element : Element} {key : String} {number : Int32} :
    attributes.integer? element key = .ok (some number) ↔ tag.number? key = some number := by
  rw [Tag.number?, ← lookup_ofTag h, integer?]
  cases attributes.lookup key with
  | none => simp
  | some value => cases hr : Text.Decimal.read? value <;> simp [hr]

theorem integer_eq_ok_iff {element : Element} {key : String} {number : Int32} :
    attributes.integer element key = .ok number ↔ tag.number? key = some number := by
  rw [← @integer?_eq_some_iff tag attributes h element, integer, Outcome.bind_eq_ok_iff]
  constructor
  · intro hall
    obtain ⟨found, hfound, hnumber⟩ := hall
    cases found with
    | none => simp [throw, throwThe, MonadExceptOf.throw] at hnumber
    | some other =>
        have he : other = number := by simpa [pure, Except.pure] using hnumber
        rw [hfound, he]
  · intro hfound
    exact ⟨some number, hfound, rfl⟩

end Reads

end Device.Attributes

open Device.Attributes in
theorem Markup.Tag.Readable.has_iff {tag : Markup.Tag} (h : tag.Readable) {key : String} :
    tag.Has key ↔ ∃ value, tag.value? key = some value := by
  obtain ⟨attributes, hattributes⟩ := exists_ofTag h
  rw [has_iff_lookup hattributes, lookup_ofTag hattributes]

theorem Markup.Tag.Readable.has_of_number {tag : Markup.Tag} (h : tag.Readable) {key : String}
    {number : Int32} (hn : tag.number? key = some number) : tag.Has key := by
  obtain ⟨value, hvalue, -⟩ := Option.bind_eq_some_iff.mp hn
  exact h.has_iff.mpr ⟨value, hvalue⟩

theorem Markup.Tag.Readable.number?_eq_none {tag : Markup.Tag} (h : tag.Readable) {key : String}
    (hno : ¬ tag.Has key) : tag.number? key = none := by
  cases hn : tag.number? key with
  | none => rfl
  | some number => exact absurd (h.has_of_number hn) hno

end EffectTables
