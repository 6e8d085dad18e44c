import EffectTables.Proofs.Device.WellFormed
import Mathlib.Data.List.Perm.Basic

namespace EffectTables

-- Two block types that differ only in the order of their parameters.
structure BlockType.SameParameters (one other : BlockType) : Prop where
  typeId : one.typeId = other.typeId
  name : one.name = other.name
  symbol : one.symbol = other.symbol
  stem : one.stem = other.stem
  parameters : one.parameters.Perm other.parameters

theorem BlockType.SameParameters.symm {one other : BlockType} (h : one.SameParameters other) :
    other.SameParameters one :=
  ⟨h.typeId.symm, h.name.symm, h.symbol.symm, h.stem.symm, h.parameters.symm⟩

namespace Device

-- Two devices that differ only in the order of their blocks, block types and parameters, and
-- perhaps in their catalogs.
structure Rearranged (device other : Device) : Prop where
  blocks : device.blocks.Perm other.blocks
  blockTypes : ∃ types, device.blockTypes.Perm types ∧
    List.Forall₂ BlockType.SameParameters types other.blockTypes

namespace Rearranged

variable {device other : Device}

theorem symm (h : device.Rearranged other) : other.Rearranged device := by
  obtain ⟨types, hperm, hsame⟩ := h.blockTypes
  have hback : List.Forall₂ BlockType.SameParameters other.blockTypes types :=
    List.Forall₂.flip (hsame.imp fun _ _ h => h.symm)
  -- A change within the types may come before or after a change of their order.
  have hcomp : Relation.Comp (List.Forall₂ BlockType.SameParameters) List.Perm
      other.blockTypes device.blockTypes := ⟨types, hback, hperm.symm⟩
  rw [List.forall₂_comp_perm_eq_perm_comp_forall₂] at hcomp
  exact ⟨h.blocks.symm, hcomp⟩

private theorem exists_of_forall₂ {R : α → β → Prop} {xs : List α} {ys : List β}
    (h : List.Forall₂ R xs ys) {y : β} (hy : y ∈ ys) : ∃ x ∈ xs, R x y := by
  induction h with
  | nil => cases hy
  | cons hfirst _ ih =>
      rcases List.mem_cons.mp hy with rfl | hy
      · exact ⟨_, List.mem_cons_self, hfirst⟩
      · obtain ⟨x, hx, hr⟩ := ih hy
        exact ⟨x, List.mem_cons_of_mem _ hx, hr⟩

theorem exists_type (h : device.Rearranged other) {type : BlockType}
    (ht : type ∈ other.blockTypes) :
    ∃ before ∈ device.blockTypes, before.SameParameters type := by
  obtain ⟨types, hperm, hsame⟩ := h.blockTypes
  obtain ⟨before, hb, hs⟩ := exists_of_forall₂ hsame ht
  exact ⟨before, hperm.mem_iff.mpr hb, hs⟩

-- What is gathered from single block types is the same up to its order.
theorem flatMap_perm (h : device.Rearranged other) {f : BlockType → List α}
    (hf : ∀ {one other : BlockType}, one.SameParameters other → (f one).Perm (f other)) :
    (device.blockTypes.flatMap f).Perm (other.blockTypes.flatMap f) := by
  obtain ⟨types, hperm, hsame⟩ := h.blockTypes
  refine (hperm.flatMap_right f).trans ?_
  clear hperm
  generalize other.blockTypes = others at hsame
  induction hsame with
  | nil => rfl
  | cons hfirst _ ih =>
      simp only [List.flatMap_cons]
      exact (hf hfirst).append ih

theorem map_perm (h : device.Rearranged other) {f : BlockType → α}
    (hf : ∀ {one other : BlockType}, one.SameParameters other → f one = f other) :
    (device.blockTypes.map f).Perm (other.blockTypes.map f) := by
  simp only [List.map_eq_flatMap]
  exact h.flatMap_perm fun hsame => by rw [hf hsame]

theorem enumeratorNames_perm (h : device.Rearranged other) :
    device.enumeratorNames.Perm other.enumeratorNames := by
  have htypes := h.map_perm (f := (·.symbol)) fun hsame => hsame.symbol
  have hparameters := h.flatMap_perm (f := fun type => type.parameters.map (·.name))
    fun hsame => hsame.parameters.map _
  exact (((List.Perm.refl _).append htypes).append (h.blocks.map _)).append hparameters

theorem wellFormed (h : device.Rearranged other) (hw : device.WellFormed) : other.WellFormed where
  typeIds := (h.map_perm fun hsame => hsame.typeId).nodup hw.typeIds
  typeNames := by
    intro type ht
    obtain ⟨before, hb, hsame⟩ := h.exists_type ht
    rw [← hsame.symbol, ← hsame.stem]
    exact hw.typeNames before hb
  stems := (h.map_perm fun hsame => hsame.stem).nodup hw.stems
  parameterNames := by
    intro type ht parameter hp
    obtain ⟨before, hb, hsame⟩ := h.exists_type ht
    exact hw.parameterNames before hb parameter (hsame.parameters.mem_iff.mpr hp)
  parameterIds := by
    intro type ht
    obtain ⟨before, hb, hsame⟩ := h.exists_type ht
    exact (hsame.parameters.map _).nodup (hw.parameterIds before hb)
  blockIds := (h.blocks.map _).nodup hw.blockIds
  blockNames := fun block hb => hw.blockNames block (h.blocks.mem_iff.mpr hb)
  typed := by
    intro block hb
    obtain ⟨type, ht, he⟩ := hw.typed block (h.blocks.mem_iff.mpr hb)
    obtain ⟨after, ha, hsame⟩ := h.symm.exists_type ht
    exact ⟨after, ha, hsame.typeId.trans he⟩
  enumerators := h.enumeratorNames_perm.nodup hw.enumerators

theorem wellFormed_iff (h : device.Rearranged other) : device.WellFormed ↔ other.WellFormed :=
  ⟨h.wellFormed, h.symm.wellFormed⟩

end Rearranged

-- However a device was built, it is accepted if and only if it is well-formed. In particular the
-- order of its parts does not count.
theorem validate_ofAdditions_eq_ok_iff (additions : List Addition) :
    ((ofAdditions additions).validate = .ok () ↔ (ofAdditions additions).WellFormed) ∧
      ∀ others : List Addition, (ofAdditions additions).Rearranged (ofAdditions others) →
        ((ofAdditions additions).validate = .ok () ↔ (ofAdditions others).validate = .ok ()) := by
  have hvalid := fun additions => (ofAdditions_indexed additions).validate_eq_ok_iff
  refine ⟨hvalid additions, fun others h => ?_⟩
  rw [hvalid, hvalid]
  exact h.wellFormed_iff

-- A block may come before its type, and the parameters of the type may change places.
theorem validate_shuffled :
    (ofAdditions [.block { id := 106, name := "Amp 1", typeId := 5 },
      .blockType
        { typeId := 5, name := "Amp"
          parameters := [⟨"BYPASS", 3, true⟩, ⟨"GAIN", 1, false⟩] }]).validate = .ok () := by
  refine ((validate_ofAdditions_eq_ok_iff
    [.blockType
        { typeId := 5, name := "Amp"
          parameters := [⟨"GAIN", 1, false⟩, ⟨"BYPASS", 3, true⟩] },
      .block { id := 106, name := "Amp 1", typeId := 5 }]).2 _ ⟨?_, ?_⟩).mp ?_
  · exact List.Perm.refl _
  · exact ⟨_, List.Perm.refl _, .cons ⟨rfl, rfl, rfl, rfl, List.Perm.swap ..⟩ .nil⟩
  · decide +kernel

end Device

end EffectTables
