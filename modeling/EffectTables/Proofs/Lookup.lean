import Mathlib.Data.List.Nodup

namespace EffectTables.Lookup

variable {α β κ : Type}

theorem lookup_cons_eq_ite [DecidableEq κ] [BEq κ] [LawfulBEq κ] (key : κ) (entry : κ × β)
    (rest : List (κ × β)) :
    (entry :: rest).lookup key = if entry.1 = key then some entry.2 else rest.lookup key := by
  obtain ⟨first, value⟩ := entry
  rw [List.lookup_cons]
  by_cases h : first = key
  · simp [h]
  · have hne : (key == first) = false := by simpa using Ne.symm h
    simp [h, hne]

-- Entries that are left out are not found.
theorem lookup_filter_ne [DecidableEq κ] [BEq κ] [LawfulBEq κ] (removed key : κ)
    (entries : List (κ × β)) :
    (entries.filter fun entry => entry.1 != removed).lookup key =
      if key = removed then none else entries.lookup key := by
  induction entries with
  | nil => simp
  | cons entry rest ih =>
      by_cases hentry : entry.1 = removed
      · rw [List.filter_cons_of_neg (by simp [hentry]), ih, lookup_cons_eq_ite]
        by_cases hkey : key = removed
        · rw [if_pos hkey, if_pos hkey]
        · rw [if_neg hkey, if_neg hkey, if_neg fun he => hkey (he.symm.trans hentry)]
      · rw [List.filter_cons_of_pos (by simp [hentry]), lookup_cons_eq_ite, ih, lookup_cons_eq_ite]
        by_cases hkey : key = removed
        · rw [if_pos hkey, if_pos hkey, if_neg fun he => hentry (he.trans hkey)]
        · rw [if_neg hkey, if_neg hkey]

-- Where keys occur once, what is found for a key does not depend on the order.
theorem lookup_eq_some_iff_mem [DecidableEq κ] [BEq κ] [LawfulBEq κ] {entries : List (κ × β)}
    (h : (entries.map Prod.fst).Nodup) {key : κ} {value : β} :
    entries.lookup key = some value ↔ (key, value) ∈ entries := by
  induction entries with
  | nil => simp
  | cons entry rest ih =>
      obtain ⟨first, found⟩ := entry
      obtain ⟨hfirst, hrest⟩ := List.nodup_cons.mp h
      rw [lookup_cons_eq_ite, List.mem_cons, Prod.mk.injEq]
      by_cases hkey : first = key
      · subst hkey
        have hother : (first, value) ∉ rest := fun hmem =>
          hfirst (List.mem_map.mpr ⟨_, hmem, rfl⟩)
        simp [hother, eq_comm]
      · rw [if_neg hkey, ih hrest]
        exact (or_iff_right fun hsame => hkey hsame.1.symm).symm

theorem lookup_perm [DecidableEq κ] [BEq κ] [LawfulBEq κ] {entries others : List (κ × β)}
    (h : entries.Perm others) (hnodup : (entries.map Prod.fst).Nodup) (key : κ) :
    entries.lookup key = others.lookup key := by
  refine Option.ext fun value => ?_
  rw [lookup_eq_some_iff_mem hnodup, lookup_eq_some_iff_mem ((h.map _).nodup_iff.mp hnodup),
    h.mem_iff]

-- The key of a later entry is not found among those before it.
theorem lookup_eq_none_of_nodup [DecidableEq κ] [BEq κ] [LawfulBEq κ] {entries : List (κ × β)}
    {entry : κ × β} {rest : List (κ × β)}
    (h : ((entries ++ entry :: rest).map Prod.fst).Nodup) : entries.lookup entry.1 = none := by
  rw [List.map_append, List.map_cons, List.nodup_append] at h
  rw [List.lookup_eq_none_iff]
  intro other hother
  exact bne_iff_ne.mpr
    (h.2.2 other.1 (List.mem_map_of_mem hother) entry.1 List.mem_cons_self).symm

-- Where keys occur once, the first item with a key is the only one.
theorem find?_key_eq_some_iff [DecidableEq κ] {key : α → κ} {items : List α}
    (h : (items.map key).Nodup) {sought : κ} {item : α} :
    items.find? (fun other => key other == sought) = some item ↔
      item ∈ items ∧ key item = sought := by
  induction items with
  | nil => simp
  | cons first rest ih =>
      obtain ⟨hfirst, hrest⟩ := List.nodup_cons.mp h
      rw [List.find?_cons]
      by_cases he : key first = sought
      · simp only [he, beq_self_eq_true, Option.some.injEq, List.mem_cons]
        constructor
        · rintro rfl
          exact ⟨.inl rfl, he⟩
        · intro hall
          rcases hall with ⟨rfl | hin, hkey⟩
          · rfl
          · exact absurd (List.mem_map.mpr ⟨item, hin, hkey.trans he.symm⟩) hfirst
      · have hne : (key first == sought) = false := by simpa using he
        simp only [hne, ih hrest, List.mem_cons]
        constructor
        · intro hall
          obtain ⟨hin, hkey⟩ := hall
          exact ⟨.inr hin, hkey⟩
        · intro hall
          rcases hall with ⟨rfl | hin, hkey⟩
          · exact absurd hkey he
          · exact ⟨hin, hkey⟩

theorem find?_key_self [DecidableEq κ] {key : α → κ} {items : List α} (h : (items.map key).Nodup)
    {item : α} (hi : item ∈ items) :
    items.find? (fun other => key other == key item) = some item :=
  (find?_key_eq_some_iff h).mpr ⟨hi, rfl⟩

-- A search from the end splits the items behind those that it passes.
theorem exists_reverse_eq_iff {items : List α} {item : α} {P : α → Prop} :
    (∃ after before, items.reverse = after ++ item :: before ∧ ∀ later ∈ after, P later) ↔
      ∃ before after, items = before ++ item :: after ∧ ∀ later ∈ after, P later := by
  constructor
  · rintro ⟨after, before, hsplit, hafter⟩
    refine ⟨before.reverse, after.reverse, ?_, fun later hmem => ?_⟩
    · rw [List.reverse_eq_iff] at hsplit
      simpa using hsplit
    · exact hafter later (List.mem_reverse.mp hmem)
  · rintro ⟨before, after, rfl, hafter⟩
    refine ⟨after.reverse, before.reverse, by simp, fun later hmem => ?_⟩
    exact hafter later (List.mem_reverse.mp hmem)

end EffectTables.Lookup
