import EffectTables.Proofs.Code.Program
import Mathlib.Data.Option.Basic

namespace EffectTables.Code

variable {α : Type}

-- The cases for some items, each under the label of its item. An item without a value has none.
def casesOf (items : List α) (label : α → Label) (value? : α → Option Value) : List Case :=
  items.filterMap fun item => (value? item).map fun value => ⟨label item, value⟩

theorem mem_casesOf {items : List α} {label : α → Label} {value? : α → Option Value}
    {case : Case} :
    case ∈ casesOf items label value? ↔
      ∃ item ∈ items, label item = case.label ∧ value? item = some case.value := by
  simp only [casesOf, List.mem_filterMap, Option.map_eq_some_iff]
  constructor
  · intro h
    obtain ⟨item, hitem, value, hvalue, rfl⟩ := h
    exact ⟨item, hitem, rfl, hvalue⟩
  · intro h
    obtain ⟨item, hitem, hlabel, hvalue⟩ := h
    exact ⟨item, hitem, case.value, hvalue, by rw [hlabel]⟩

theorem map_eq_casesOf (items : List α) (label : α → Label) (value : α → Value) :
    items.map (fun item => ⟨label item, value item⟩) =
      casesOf items label fun item => some (value item) := by
  simp [casesOf]

theorem map_filter_eq_casesOf (items : List α) (keep : α → Bool) (label : α → Label)
    (value : α → Value) :
    (items.filter keep).map (fun item => ⟨label item, value item⟩) =
      casesOf items label fun item => if keep item then some (value item) else none := by
  induction items with
  | nil => rfl
  | cons item rest ih =>
      by_cases h : keep item
      · simpa [casesOf, h] using ih
      · simpa [casesOf, h] using ih

-- The labels of the cases are among the labels of the items.
theorem labels_sublist (items : List α) (label : α → Label) (value? : α → Option Value) :
    ((casesOf items label value?).map (·.label)).Sublist (items.map label) := by
  induction items with
  | nil => exact List.Sublist.slnil
  | cons item rest ih =>
      cases hvalue : value? item with
      | none => simpa [casesOf, hvalue] using ih.cons (label item)
      | some value => simpa [casesOf, hvalue] using ih.cons_cons (label item)

-- Where each item has a value, there is a case for each.
theorem labels_eq {items : List α} (label : α → Label) {value? : α → Option Value}
    (h : ∀ item ∈ items, (value? item).isSome) :
    (casesOf items label value?).map (·.label) = items.map label := by
  induction items with
  | nil => rfl
  | cons item rest ih =>
      obtain ⟨hitem, hrest⟩ := List.forall_mem_cons.mp h
      obtain ⟨value, hvalue⟩ := Option.isSome_iff_exists.mp hitem
      simpa [casesOf, hvalue] using ih hrest

-- Where no two items share a label, the label of an item leads to its value.
theorem lookup?_casesOf {switch : Switch} {items : List α} {label : α → Label}
    {value? : α → Option Value} (hcases : switch.cases = casesOf items label value?)
    (hnodup : (items.map label).Nodup) {item : α} (hitem : item ∈ items) :
    switch.lookup? (label item) = value? item := by
  rw [Switch.lookup?, hcases]
  cases hvalue : value? item with
  | none =>
      rw [Option.map_eq_none_iff, List.find?_eq_none]
      intro case hcase hlabel
      obtain ⟨other, hother, hsame, hsome⟩ := mem_casesOf.mp hcase
      obtain rfl := List.inj_on_of_nodup_map hnodup hother hitem (hsame.trans (eq_of_beq hlabel))
      rw [hvalue] at hsome
      cases hsome
  | some value =>
      have hcase : ⟨label item, value⟩ ∈ casesOf items label value? :=
        mem_casesOf.mpr ⟨item, hitem, rfl, hvalue⟩
      have hlabels := hnodup.sublist (labels_sublist items label value?)
      rw [Lookup.find?_key_self hlabels hcase, Option.map_some]

-- One switch over two lists of items with the same labels gives both the same values.
theorem values_eq_of_casesOf {switch : Switch} {items others : List α} {label : α → Label}
    {value? other? : α → Option Value} (hcases : switch.cases = casesOf items label value?)
    (hothers : switch.cases = casesOf others label other?)
    (hlabels : items.map label = others.map label) (hnodup : (items.map label).Nodup) :
    items.map value? = others.map other? := by
  have hleft : items.map value? = (items.map label).map switch.lookup? := by
    rw [List.map_map]
    exact List.map_congr_left fun item hitem => (lookup?_casesOf hcases hnodup hitem).symm
  have hright : others.map other? = (others.map label).map switch.lookup? := by
    rw [List.map_map]
    exact List.map_congr_left fun item hitem =>
      (lookup?_casesOf hothers (hlabels ▸ hnodup) hitem).symm
  rw [hleft, hright, hlabels]

-- A switch over some items, each under a number of its own.
structure Keyed (program : Program) (switch : Switch) (items : List α) (label : α → Label)
    (value? : α → Option Value) (key : α → Int32) : Prop where
  cases : switch.cases = casesOf items label value?
  number : ∀ item ∈ items, program.number? (label item) = some (key item)
  keys : (items.map key).Nodup

namespace Keyed

variable {program : Program} {switch : Switch} {items : List α} {label : α → Label}
  {value? : α → Option Value} {key : α → Int32}

-- The cases with a number are the one of the item with the number, if the item has a value.
theorem exists_case_iff (h : Keyed program switch items label value? key) {n : Int32}
    {value : Value} :
    (∃ case ∈ switch.cases, program.number? case.label = some n ∧ case.value = value) ↔
      (items.find? (key · == n)).bind value? = some value := by
  simp only [h.cases, mem_casesOf, Option.bind_eq_some_iff, Lookup.find?_key_eq_some_iff h.keys]
  constructor
  · intro hall
    obtain ⟨case, ⟨item, hitem, hlabel, hvalue⟩, hn, rfl⟩ := hall
    rw [← hlabel, h.number item hitem, Option.some.injEq] at hn
    exact ⟨item, ⟨hitem, hn⟩, hvalue⟩
  · intro hall
    obtain ⟨item, ⟨hitem, rfl⟩, hvalue⟩ := hall
    exact ⟨⟨label item, value⟩, ⟨item, hitem, rfl, hvalue⟩, h.number item hitem, rfl⟩

-- The number decides which item is chosen.
theorem chooses_iff (h : Keyed program switch items label value? key) {n : Int32} {value : Value} :
    program.Chooses switch n value ↔
      value = ((items.find? (key · == n)).bind value?).getD switch.fallback := by
  constructor
  · intro hchooses
    cases hchooses with
    | matched mem number => rw [h.exists_case_iff.mp ⟨_, mem, number, rfl⟩, Option.getD_some]
    | unmatched none =>
        cases hfound : (items.find? (key · == n)).bind value? with
        | none => rfl
        | some value =>
            obtain ⟨case, hcase, hn, -⟩ := h.exists_case_iff.mpr hfound
            exact absurd hn (none case hcase)
  · rintro rfl
    cases hfound : (items.find? (key · == n)).bind value? with
    | none =>
        refine .unmatched fun case hcase hn => ?_
        rw [h.exists_case_iff.mp ⟨case, hcase, hn, rfl⟩] at hfound
        cases hfound
    | some value =>
        obtain ⟨case, hcase, hn, rfl⟩ := h.exists_case_iff.mpr hfound
        exact .matched hcase hn

theorem declared (h : Keyed program switch items label value? key) :
    ∀ case ∈ switch.cases, (program.number? case.label).isSome := by
  intro case hcase
  rw [h.cases, mem_casesOf] at hcase
  obtain ⟨item, hitem, hlabel, -⟩ := hcase
  rw [← hlabel, h.number item hitem]
  rfl

-- The numbers of the cases are among the numbers of the items.
theorem numbers_sublist (h : Keyed program switch items label value? key) :
    (switch.cases.map fun case => program.number? case.label).Sublist
      (items.map fun item => some (key item)) := by
  have hlabels := (labels_sublist items label value?).map program.number?
  have hnumbers : (items.map label).map program.number? =
      items.map fun item => some (key item) := by
    rw [List.map_map]
    exact List.map_congr_left h.number
  rwa [hnumbers, List.map_map, ← h.cases] at hlabels

theorem unambiguous (h : Keyed program switch items label value? key) :
    program.Unambiguous switch := by
  intro n
  have hnodup : (items.map fun item => some (key item)).Nodup := by
    simpa [Function.comp_def] using h.keys.map (Option.some_injective Int32)
  have hcount := List.nodup_iff_count_le_one.mp (hnodup.sublist h.numbers_sublist) (some n)
  rw [List.count_eq_countP, List.countP_map, List.countP_eq_length_filter] at hcount
  exact hcount

theorem declared_and_unambiguous (h : Keyed program switch items label value? key) :
    (∀ case ∈ switch.cases, (program.number? case.label).isSome) ∧ program.Unambiguous switch :=
  ⟨h.declared, h.unambiguous⟩

end Keyed

end EffectTables.Code
