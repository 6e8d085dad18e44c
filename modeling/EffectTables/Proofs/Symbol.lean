import EffectTables.Proofs.Code.Rendering
import Mathlib.Data.List.Forall2

namespace EffectTables.Symbol

-- Characters that all become underscores.
def gaps : List Char := [' ', '/', '_']

-- All characters of the name have a place in a symbol.
def Speakable (name : String) : Prop := ∀ c ∈ name.toList, c.isAlphanum ∨ c ∈ gaps

-- The characters differ in their case at most, or in the kind of gap.
def Alike (c d : Char) : Prop := c.toLower = d.toLower ∨ c ∈ gaps ∧ d ∈ gaps

-- The characters of a name without its spaces and slashes.
def bare (name : String) : List Char := name.toList.filter fun c => c != ' ' && c != '/'

theorem mem_gaps_iff {c : Char} : c ∈ gaps ↔ c = ' ' ∨ c = '/' ∨ c = '_' := by
  simp [gaps]

-- The letters and the gaps by their numbers, with which their changes of case are plain sums.
theorem isLower_iff {c : Char} : c.isLower ↔ 0x61 ≤ c.toNat ∧ c.toNat ≤ 0x7A := by
  show (decide ('a'.val ≤ c.val) && decide (c.val ≤ 'z'.val)) = true ↔ _
  simp [UInt32.le_iff_toNat_le]

theorem isUpper_iff {c : Char} : c.isUpper ↔ 0x41 ≤ c.toNat ∧ c.toNat ≤ 0x5A := by
  show decide ('A'.val ≤ c.val ∧ c.val ≤ 'Z'.val) = true ↔ _
  simp [UInt32.le_iff_toNat_le]

theorem isAlphanum_iff {c : Char} :
    c.isAlphanum ↔ ((0x41 ≤ c.toNat ∧ c.toNat ≤ 0x5A) ∨ 0x61 ≤ c.toNat ∧ c.toNat ≤ 0x7A) ∨
      0x30 ≤ c.toNat ∧ c.toNat ≤ 0x39 := by
  show (c.isUpper || c.isLower || c.isDigit) = true ↔ _
  rw [Bool.or_eq_true, Bool.or_eq_true, isUpper_iff, isLower_iff]
  simp [Char.isDigit, UInt32.le_iff_toNat_le]

theorem toNat_gaps_iff {c : Char} :
    c ∈ gaps ↔ c.toNat = 0x20 ∨ c.toNat = 0x2F ∨ c.toNat = 0x5F := by
  simp only [mem_gaps_iff, ← Char.toNat_inj]
  rfl

theorem toNat_toUpper (c : Char) :
    c.toUpper.toNat = if 0x61 ≤ c.toNat ∧ c.toNat ≤ 0x7A then c.toNat - 0x20 else c.toNat := by
  have hlower : 'a'.val ≤ c.val ∧ c.val ≤ 'z'.val ↔ 0x61 ≤ c.toNat ∧ c.toNat ≤ 0x7A := by
    simp [UInt32.le_iff_toNat_le]
  unfold Char.toUpper
  split
  next h =>
    have hrange := hlower.mp h
    have hshift : ('A'.val - 'a'.val).toNat = 2 ^ 32 - 0x20 := by decide
    rw [if_pos hrange]
    show (c.val + ('A'.val - 'a'.val)).toNat = _
    rw [UInt32.toNat_add, hshift, Char.toNat_val]
    omega
  next h => rw [if_neg (mt hlower.mpr h)]

theorem toNat_toLower (c : Char) :
    c.toLower.toNat = if 0x41 ≤ c.toNat ∧ c.toNat ≤ 0x5A then c.toNat + 0x20 else c.toNat := by
  have hupper : 'A'.val ≤ c.val ∧ c.val ≤ 'Z'.val ↔ 0x41 ≤ c.toNat ∧ c.toNat ≤ 0x5A := by
    simp [UInt32.le_iff_toNat_le]
  unfold Char.toLower
  split
  next h =>
    have hrange := hupper.mp h
    have hshift : ('a'.val - 'A'.val).toNat = 0x20 := by decide
    rw [if_pos hrange]
    show (c.val + ('a'.val - 'A'.val)).toNat = _
    rw [UInt32.toNat_add, hshift, Char.toNat_val]
    omega
  next h => rw [if_neg (mt hupper.mpr h)]

theorem toUpper_eq_iff {c d : Char} : c.toUpper = d.toUpper ↔ c.toLower = d.toLower := by
  rw [← Char.toNat_inj, ← Char.toNat_inj, toNat_toUpper, toNat_toUpper, toNat_toLower,
    toNat_toLower]
  split_ifs <;> omega

theorem suffixLetter_eq (c : Char) : suffixLetter c = if c ∈ gaps then '_' else c.toUpper := by
  by_cases hgap : c ∈ gaps
  · rw [if_pos hgap]
    rcases mem_gaps_iff.mp hgap with rfl | rfl | rfl <;> decide
  · have hne : ¬ (c = ' ' ∨ c = '/') := by
      rintro (rfl | rfl) <;> exact hgap (by decide)
    rw [if_neg hgap, suffixLetter, if_neg hne]

-- Only a gap becomes an underscore.
theorem toUpper_ne_underscore {c : Char} (h : c ∉ gaps) : c.toUpper ≠ '_' := by
  have hunderscore : '_'.toNat = 0x5F := rfl
  rw [toNat_gaps_iff] at h
  rw [Ne, ← Char.toNat_inj, toNat_toUpper, hunderscore]
  split_ifs <;> omega

theorem suffixLetter_eq_iff {c d : Char} : suffixLetter c = suffixLetter d ↔ Alike c d := by
  rw [suffixLetter_eq, suffixLetter_eq, Alike]
  have hsame (h : c.toLower = d.toLower) : c ∈ gaps ↔ d ∈ gaps := by
    rw [← Char.toNat_inj, toNat_toLower, toNat_toLower] at h
    rw [toNat_gaps_iff, toNat_gaps_iff]
    split_ifs at h <;> omega
  by_cases hc : c ∈ gaps <;> by_cases hd : d ∈ gaps
  · rw [if_pos hc, if_pos hd]
    exact iff_of_true rfl (.inr ⟨hc, hd⟩)
  · rw [if_pos hc, if_neg hd, or_iff_left fun h => hd h.2]
    exact iff_of_false (toUpper_ne_underscore hd).symm fun h => hd ((hsame h).mp hc)
  · rw [if_neg hc, if_pos hd, or_iff_left fun h => hc h.1]
    exact iff_of_false (toUpper_ne_underscore hc) fun h => hc ((hsame h).mpr hd)
  · rw [if_neg hc, if_neg hd, or_iff_left fun h => hc h.1, toUpper_eq_iff]

-- Suffixes are equal exactly if the names are alike at each position.
theorem suffix_eq_iff {name other : String} :
    suffix name = suffix other ↔ List.Forall₂ Alike name.toList other.toList := by
  rw [suffix, suffix, String.ofList_inj, ← List.forall₂_eq_eq_eq, List.forall₂_map_left_iff,
    List.forall₂_map_right_iff]
  simp only [suffixLetter_eq_iff]

theorem continues_suffixLetter_iff {c : Char} :
    continuesIdentifier (suffixLetter c) ↔ c.isAlphanum ∨ c ∈ gaps := by
  rw [suffixLetter_eq]
  by_cases hgap : c ∈ gaps
  · rw [if_pos hgap]
    exact iff_of_true (by decide) (.inr hgap)
  · rw [if_neg hgap, continuesIdentifier, Bool.or_eq_true, beq_iff_eq,
      or_iff_left (toUpper_ne_underscore hgap), or_iff_left hgap, isAlphanum_iff, isAlphanum_iff,
      toNat_toUpper]
    split_ifs <;> omega

-- Behind a frame that is an identifier, a name makes one exactly if it is speakable.
theorem isIdentifier_append_suffix_iff {frame name : String} (hframe : isIdentifier frame) :
    isIdentifier (frame ++ suffix name) ↔ Speakable name := by
  have hsuffix : (suffix name).toList.all continuesIdentifier ↔ Speakable name := by
    rw [suffix, String.toList_ofList, List.all_map, List.all_eq_true]
    exact forall₂_congr fun c _ => continues_suffixLetter_iff
  rw [← hsuffix]
  constructor
  · intro h
    have hall := (isIdentifier_iff.mp h).2
    rw [String.toList_append, List.all_append, Bool.and_eq_true] at hall
    exact hall.2
  · exact isIdentifier_append hframe

theorem isIdentifier_block_iff {name : String} : isIdentifier (block name) ↔ Speakable name :=
  isIdentifier_append_suffix_iff (by decide)

theorem isIdentifier_blockType_iff {name : String} :
    isIdentifier (blockType name) ↔ Speakable name :=
  isIdentifier_append_suffix_iff (by decide)

-- A stem drops more than spaces and slashes only if the name is not speakable.
theorem Speakable.toList_stem {name : String} (h : Speakable name) :
    (stem name).toList = bare name := by
  rw [stem, String.toList_ofList, bare]
  refine List.filter_congr fun c hc => ?_
  rcases h c hc with halphanum | hgap
  · have hspace : c ≠ ' ' := by
      rintro rfl
      exact absurd halphanum (by decide)
    have hslash : c ≠ '/' := by
      rintro rfl
      exact absurd halphanum (by decide)
    simp [continuesIdentifier, halphanum, hspace, hslash]
  · rcases mem_gaps_iff.mp hgap with rfl | rfl | rfl <;> decide

theorem starts_iff {c : Char} : startsIdentifier c ↔ continuesIdentifier c ∧ ¬ c.isDigit := by
  constructor
  · intro h
    refine ⟨continues_of_starts h, fun hdigit => ?_⟩
    rw [not_starts_of_isDigit hdigit] at h
    cases h
  · intro h
    obtain ⟨hcontinues, hdigit⟩ := h
    simpa [startsIdentifier, continuesIdentifier, Char.isAlphanum, hdigit] using hcontinues

theorem isIdentifier_stem_iff {name : String} :
    isIdentifier (stem name) ↔ ∃ c ∈ (stem name).toList.head?, ¬ c.isDigit := by
  have hall : (stem name).toList.all continuesIdentifier := by
    rw [stem, String.toList_ofList, List.all_eq_true]
    exact fun c hc => List.of_mem_filter hc
  rw [isIdentifier_iff, and_iff_left hall]
  refine exists_congr fun c => and_congr_right fun hc => ?_
  rw [starts_iff, and_iff_right (List.all_eq_true.mp hall c (List.mem_of_mem_head? hc))]

theorem stem_eq_iff {name other : String} (h : Speakable name) (hother : Speakable other) :
    stem name = stem other ↔ bare name = bare other := by
  rw [← h.toList_stem, ← hother.toList_stem, String.toList_inj]

-- Which names of blocks and block types are accepted, and which of them collide.
theorem accepted_and_alike (name other : String) :
    (isIdentifier (block name) ↔ Speakable name) ∧
    (isIdentifier (blockType name) ∧ isIdentifier (stem name) ↔
      Speakable name ∧ ∃ c rest, bare name = c :: rest ∧ ¬ c.isDigit) ∧
    (block name = block other ↔ List.Forall₂ Alike name.toList other.toList) ∧
    (blockType name = blockType other ↔ List.Forall₂ Alike name.toList other.toList) ∧
    (Speakable name → Speakable other → (stem name = stem other ↔ bare name = bare other)) := by
  refine ⟨isIdentifier_block_iff, ?_, ?_, ?_, stem_eq_iff⟩
  · rw [isIdentifier_blockType_iff]
    refine and_congr_right fun h => ?_
    rw [isIdentifier_stem_iff, h.toList_stem]
    cases bare name <;> simp
  · rw [block, block, String.append_right_inj, suffix_eq_iff]
  · rw [blockType, blockType, String.append_right_inj, suffix_eq_iff]

theorem accepted_and_alike_slash :
    Speakable "Filter/EQ 1" ∧ Speakable "FilterEQ1" ∧ bare "Filter/EQ 1" = bare "FilterEQ1" ∧
      stem "Filter/EQ 1" = stem "FilterEQ1" := by
  have hslash : Speakable "Filter/EQ 1" := isIdentifier_block_iff.mp (by decide)
  have hplain : Speakable "FilterEQ1" := isIdentifier_block_iff.mp (by decide)
  have hbare : bare "Filter/EQ 1" = bare "FilterEQ1" := by decide
  exact ⟨hslash, hplain, hbare, ((accepted_and_alike _ _).2.2.2.2 hslash hplain).mpr hbare⟩

end EffectTables.Symbol
