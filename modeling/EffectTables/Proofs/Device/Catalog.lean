import EffectTables.Device.Catalog
import EffectTables.Proofs.Lookup
import Mathlib.Data.List.Perm.Basic

namespace EffectTables.Catalog

-- The indices ascend, so that each of them occurs once.
def Ascending (catalog : Catalog) : Prop := catalog.entries.Pairwise (·.1 < ·.1)

def insertAll (catalog : Catalog) (entries : List (Int32 × String)) : Catalog :=
  entries.foldl (fun catalog entry => catalog.insert entry.1 entry.2) catalog

-- The name that was given last for an index.
def lastName? (entries : List (Int32 × String)) (index : Int32) : Option String :=
  (entries.reverse.find? (·.1 == index)).map (·.2)

-- The later one of two lists counts.
theorem lastName?_append (entries more : List (Int32 × String)) (index : Int32) :
    lastName? (entries ++ more) index = (lastName? more index).or (lastName? entries index) := by
  rw [lastName?, List.reverse_append, List.find?_append, Option.map_or]
  rfl

theorem ascending_empty : ({} : Catalog).Ascending := List.Pairwise.nil

@[simp] theorem get?_empty (index : Int32) : ({} : Catalog).get? index = none := rfl

theorem get?_eq_find? (catalog : Catalog) (index : Int32) :
    catalog.get? index = (catalog.entries.find? (·.1 == index)).map (·.2) := by
  rw [get?]
  induction catalog.entries with
  | nil => rfl
  | cons entry rest ih =>
      rw [Lookup.lookup_cons_eq_ite, ih, List.find?_cons]
      by_cases h : entry.1 = index
      · simp [h]
      · have hne : (entry.1 == index) = false := beq_eq_false_iff_ne.mpr h
        simp only [if_neg h, hne]

private theorem mem_place {index : Int32} {name : String} {entry : Int32 × String}
    {entries : List (Int32 × String)} (h : entry ∈ place index name entries) :
    entry = (index, name) ∨ entry ∈ entries := by
  induction entries with
  | nil => simpa [place] using h
  | cons first rest ih =>
      simp only [place] at h
      split at h
      · simpa using h
      · split at h
        · exact (List.mem_cons.mp h).imp_right (List.mem_cons_of_mem _)
        · rcases List.mem_cons.mp h with rfl | h
          · exact .inr List.mem_cons_self
          · exact (ih h).imp_right (List.mem_cons_of_mem _)

theorem Ascending.insert {catalog : Catalog} (h : catalog.Ascending) (index : Int32)
    (name : String) : (catalog.insert index name).Ascending := by
  obtain ⟨entries⟩ := catalog
  simp only [Ascending, Catalog.insert] at h ⊢
  induction entries with
  | nil => simp [place]
  | cons first rest ih =>
      obtain ⟨hfirst, hrest⟩ := List.pairwise_cons.mp h
      simp only [place]
      by_cases hlt : index < first.1
      · rw [if_pos hlt]
        refine List.pairwise_cons.mpr ⟨fun entry he => ?_, h⟩
        rcases List.mem_cons.mp he with rfl | he
        · exact hlt
        · exact Int32.lt_trans hlt (hfirst entry he)
      · rw [if_neg hlt]
        by_cases heq : index = first.1
        · rw [if_pos heq]
          exact List.pairwise_cons.mpr ⟨fun entry he => heq ▸ hfirst entry he, hrest⟩
        · rw [if_neg heq]
          refine List.pairwise_cons.mpr ⟨fun entry he => ?_, ih hrest⟩
          rcases mem_place he with rfl | he
          · exact Int32.lt_of_le_of_ne (Int32.not_lt.mp hlt) (Ne.symm heq)
          · exact hfirst entry he

theorem Ascending.insertAll {catalog : Catalog} (h : catalog.Ascending)
    (entries : List (Int32 × String)) : (catalog.insertAll entries).Ascending := by
  induction entries generalizing catalog with
  | nil => exact h
  | cons entry rest ih => exact ih (h.insert entry.1 entry.2)

theorem get?_insert (catalog : Catalog) (index : Int32) (name : String) (other : Int32) :
    (catalog.insert index name).get? other =
      if index = other then some name else catalog.get? other := by
  simp only [get?, Catalog.insert]
  induction catalog.entries with
  | nil => rw [place, Lookup.lookup_cons_eq_ite]
  | cons first rest ih =>
      simp only [place]
      split
      · rw [Lookup.lookup_cons_eq_ite]
      · split
        next heq =>
          simp only [Lookup.lookup_cons_eq_ite, heq]
          split <;> rfl
        next hne =>
          simp only [Lookup.lookup_cons_eq_ite, ih]
          by_cases hi : index = other
          · subst hi
            simp [Ne.symm hne]
          · simp [hi]

theorem Ascending.indices_nodup {catalog : Catalog} (h : catalog.Ascending) :
    (catalog.entries.map (·.1)).Nodup :=
  List.pairwise_map.mpr (h.imp fun hlt => Int32.ne_of_lt hlt)

theorem Ascending.mem_entries_iff {catalog : Catalog} (h : catalog.Ascending)
    {entry : Int32 × String} : entry ∈ catalog.entries ↔ catalog.get? entry.1 = some entry.2 := by
  rw [get?_eq_find?, Option.map_eq_some_iff]
  constructor
  · intro hmem
    exact ⟨entry, Lookup.find?_key_self h.indices_nodup hmem, rfl⟩
  · intro hfound
    obtain ⟨other, hother, hname⟩ := hfound
    obtain ⟨hmem, hindex⟩ := (Lookup.find?_key_eq_some_iff h.indices_nodup).mp hother
    exact (Prod.ext hindex hname : other = entry) ▸ hmem

-- A catalog is known from its answers.
theorem Ascending.ext {catalog other : Catalog} (h : catalog.Ascending) (hother : other.Ascending)
    (hget : ∀ index, catalog.get? index = other.get? index) : catalog = other := by
  have hmem : ∀ entry, entry ∈ catalog.entries ↔ entry ∈ other.entries := by
    intro entry
    rw [h.mem_entries_iff, hother.mem_entries_iff, hget]
  have hperm : catalog.entries.Perm other.entries :=
    (List.perm_ext_iff_of_nodup (List.Nodup.of_map _ h.indices_nodup)
      (List.Nodup.of_map _ hother.indices_nodup)).mpr hmem
  have hentries : catalog.entries = other.entries := by
    refine hperm.eq_of_pairwise ?_ h hother
    intro entry another _ _ hlt hgt
    exact absurd hlt (Int32.not_lt.mpr (Int32.le_of_lt hgt))
  cases catalog
  cases other
  rw [mk.injEq]
  exact hentries

-- The last name that was given for an index stays.
theorem get?_insertAll (catalog : Catalog) (entries : List (Int32 × String)) (index : Int32) :
    (catalog.insertAll entries).get? index =
      (lastName? entries index).or (catalog.get? index) := by
  induction entries generalizing catalog with
  | nil => simp [insertAll, lastName?]
  | cons entry rest ih =>
      have hstep : catalog.insertAll (entry :: rest) =
          (catalog.insert entry.1 entry.2).insertAll rest := rfl
      rw [hstep, ih, get?_insert]
      simp only [lastName?, List.reverse_cons, List.find?_append]
      cases hr : rest.reverse.find? (·.1 == index) with
      | some _ => simp
      | none => by_cases he : entry.1 = index <;> simp [he]

end EffectTables.Catalog
