import EffectTables.Proofs.Code.Cases
import EffectTables.Proofs.Code.Names
import EffectTables.Proofs.Device.Catalog
import EffectTables.Proofs.Text.Decimal
import Mathlib.Data.List.Dedup

namespace EffectTables

namespace Catalog

-- The catalog that some insertions make of nothing.
def filled (entries : List (Int32 × String)) : Catalog := ({} : Catalog).insertAll entries

-- The name was given for the index, and none after it.
def GivenLast (entries : List (Int32 × String)) (index : Int32) (name : String) : Prop :=
  ∃ before after, entries = before ++ (index, name) :: after ∧ ∀ later ∈ after, later.1 ≠ index

theorem lastName?_eq_some_iff {entries : List (Int32 × String)} {index : Int32} {name : String} :
    lastName? entries index = some name ↔ GivenLast entries index name := by
  rw [GivenLast, ← Lookup.exists_reverse_eq_iff]
  simp only [lastName?, Option.map_eq_some_iff, List.find?_eq_some_iff_append, Prod.exists,
    exists_eq_right, beq_iff_eq, Bool.not_eq_true', beq_eq_false_iff_ne, ne_eq]
  constructor
  · rintro ⟨_, rfl, hsplit⟩
    exact hsplit
  · intro hsplit
    exact ⟨index, rfl, hsplit⟩

theorem lastName?_eq_none_iff {entries : List (Int32 × String)} {index : Int32} :
    lastName? entries index = none ↔ ∀ entry ∈ entries, entry.1 ≠ index := by
  simp [lastName?]

theorem get?_filled (entries : List (Int32 × String)) (index : Int32) :
    (filled entries).get? index = lastName? entries index := by
  rw [filled, get?_insertAll, get?_empty, Option.or_none]

theorem ascending_filled (entries : List (Int32 × String)) : (filled entries).Ascending :=
  ascending_empty.insertAll entries

theorem mem_entries_filled_iff {entries : List (Int32 × String)} {index : Int32} {name : String} :
    (index, name) ∈ (filled entries).entries ↔ GivenLast entries index name := by
  rw [(ascending_filled entries).mem_entries_iff, get?_filled, lastName?_eq_some_iff]

-- The indices of the catalog are those that were inserted.
theorem mem_indices_filled_iff {entries : List (Int32 × String)} {index : Int32} :
    index ∈ (filled entries).entries.map (·.1) ↔ index ∈ entries.map (·.1) := by
  have hnone : (filled entries).get? index = none ↔ ∀ entry ∈ entries, entry.1 ≠ index := by
    rw [get?_filled, lastName?_eq_none_iff]
  rw [get?_eq_find?, Option.map_eq_none_iff, List.find?_eq_none] at hnone
  simpa using not_congr hnone

-- Two insertions for one index count once.
theorem size_filled (entries : List (Int32 × String)) :
    (filled entries).size = (entries.map (·.1)).dedup.length := by
  have hperm : ((filled entries).entries.map (·.1)).Perm (entries.map (·.1)).dedup :=
    (List.perm_ext_iff_of_nodup (ascending_filled entries).indices_nodup
      (List.nodup_dedup _)).mpr fun index => by rw [mem_indices_filled_iff, List.mem_dedup]
  rw [size, ← hperm.length_eq, List.length_map]

theorem Ascending.indices_pairwise {catalog : Catalog} (h : catalog.Ascending) :
    (catalog.entries.map (·.1.toInt)).Pairwise (· < ·) :=
  List.pairwise_map.mpr (h.imp Int32.lt_iff_toInt_lt.mp)

-- What some insertions make of nothing. Each index has the name that was given for it last, and an
-- insertion tells the name that it takes the place of.
structure Fills (entries : List (Int32 × String)) (catalog : Catalog) : Prop where
  ascending : (catalog.entries.map (·.1.toInt)).Pairwise (· < ·)
  indices : ∀ index, index ∈ catalog.entries.map (·.1) ↔ index ∈ entries.map (·.1)
  names : ∀ index name, (index, name) ∈ catalog.entries ↔ GivenLast entries index name
  size : catalog.size = (entries.map (·.1)).dedup.length
  replaced : ∀ index name previous,
    (catalog.exchange index name).1 = some previous ↔ GivenLast entries index previous
  fresh : ∀ index name,
    (catalog.exchange index name).1 = none ↔ ∀ entry ∈ entries, entry.1 ≠ index
  next : ∀ index name, (catalog.exchange index name).2 = filled (entries ++ [(index, name)])

theorem fills_filled (entries : List (Int32 × String)) : Fills entries (filled entries) where
  ascending := (ascending_filled entries).indices_pairwise
  indices _ := mem_indices_filled_iff
  names _ _ := mem_entries_filled_iff
  size := size_filled entries
  replaced index _ previous := by
    rw [exchange, get?_filled, lastName?_eq_some_iff]
  fresh index _ := by
    rw [exchange, get?_filled, lastName?_eq_none_iff]
  next index name := by
    rw [exchange, filled, filled, insertAll, insertAll, List.foldl_append]
    rfl

-- Insertions with the same last names make the same catalog.
theorem filled_congr {entries others : List (Int32 × String)}
    (h : ∀ index name, GivenLast entries index name ↔ GivenLast others index name) :
    filled entries = filled others := by
  refine (ascending_filled entries).ext (ascending_filled others) fun index => ?_
  refine Option.ext fun name => ?_
  rw [get?_filled, get?_filled, lastName?_eq_some_iff, lastName?_eq_some_iff, h]

end Catalog

namespace Code

namespace Tables

variable (function : String) (catalog : Catalog)

theorem labels_catalogTable :
    (catalogTable function catalog).switch.cases.map (·.label) =
      (catalog.entries.map (·.1)).map .index := by
  rw [catalogTable_cases, List.map_map]
  exact labels_eq _ fun _ _ => rfl

theorem resolve_catalogTable (index : Int32) :
    (catalogTable function catalog).switch.resolve (.index index) =
      .text ((catalog.get? index).getD "") := by
  have hlabel : ((fun case : Case => case.label == .index index) ∘
      fun entry : Int32 × String => (⟨.index entry.1, .text entry.2⟩ : Case)) =
        fun entry => entry.1 == index := by
    funext entry
    rw [Function.comp_apply, Bool.eq_iff_iff, beq_iff_eq, beq_iff_eq, Label.index.injEq]
  rw [Switch.resolve, Switch.lookup?, catalogTable, List.find?_map, hlabel, Catalog.get?_eq_find?]
  cases catalog.entries.find? (·.1 == index) <;> rfl

end Tables

-- The look-up that is made of a catalog: a case for each index, in ascending order.
structure Lookup.Lists (lookup : Lookup) (catalog : Catalog) : Prop where
  labels : lookup.switch.cases.map (·.label) = (catalog.entries.map (·.1)).map .index
  ascending : (catalog.entries.map (·.1.toInt)).Pairwise (· < ·)
  distinct : (lookup.switch.cases.map (·.label)).Nodup
  written : (lookup.switch.cases.map (·.label.code)).Nodup
  resolve : ∀ index,
    lookup.switch.resolve (.index index) = .text ((catalog.get? index).getD "")

theorem Tables.lists_catalogTable (function : String) {catalog : Catalog}
    (h : catalog.Ascending) : (catalogTable function catalog).Lists catalog where
  labels := labels_catalogTable function catalog
  ascending := h.indices_pairwise
  distinct := by
    rw [labels_catalogTable]
    exact h.indices_nodup.map fun _ _ => Label.index.inj
  written := by
    have hcodes := congrArg (List.map Label.code) (labels_catalogTable function catalog)
    rw [List.map_map, List.map_map] at hcodes
    refine hcodes ▸ h.indices_nodup.map fun _ _ hcode => ?_
    exact Text.Decimal.write_injective hcode
  resolve := resolve_catalogTable function catalog

-- A catalog that is filled from nothing holds the last names in ascending order, and its look-up
-- answers with them. Its text does not depend on how the last names came about.
theorem Tables.catalogTable_filled (function : String) (entries : List (Int32 × String)) :
    Catalog.Fills entries (.filled entries) ∧
      (catalogTable function (.filled entries)).Lists (.filled entries) ∧
      ∀ others : List (Int32 × String),
        (∀ index name,
          Catalog.GivenLast entries index name ↔ Catalog.GivenLast others index name) →
          (catalogTable function (.filled entries)).definition =
            (catalogTable function (.filled others)).definition := by
  refine ⟨Catalog.fills_filled entries, ?_, fun others h => ?_⟩
  · exact lists_catalogTable function (Catalog.ascending_filled entries)
  · rw [Catalog.filled_congr h]

theorem Tables.catalogTable_filled_recto :
    let entries : List (Int32 × String) := [(10, "Plexi"), (-1, "Deluxe"), (10, "Recto")]
    let others : List (Int32 × String) := [(10, "Recto"), (-1, "Deluxe")]
    (∀ index name,
      Catalog.GivenLast entries index name ↔ Catalog.GivenLast others index name) ∧
      (catalogTable "GetAmpName" (.filled entries)).definition =
        (catalogTable "GetAmpName" (.filled others)).definition := by
  intro entries others
  have hlast : ∀ index, Catalog.lastName? entries index = Catalog.lastName? others index := by
    intro index
    by_cases hten : (10 : Int32) = index
    · subst hten
      rfl
    · by_cases hone : (-1 : Int32) = index <;>
        simp [entries, others, Catalog.lastName?, hten, hone]
  have hsame : ∀ index name,
      Catalog.GivenLast entries index name ↔ Catalog.GivenLast others index name := by
    intro index name
    rw [← Catalog.lastName?_eq_some_iff, ← Catalog.lastName?_eq_some_iff, hlast]
  exact ⟨hsame, (catalogTable_filled "GetAmpName" entries).2.2 others hsame⟩

end Code

end EffectTables
