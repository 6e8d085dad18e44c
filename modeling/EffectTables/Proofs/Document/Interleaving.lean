import EffectTables.Proofs.Document.Part
import EffectTables.Proofs.Document.Queries
import EffectTables.Proofs.Document.Reading
import EffectTables.Proofs.Sources

namespace EffectTables

open Markup

namespace Markup

-- Open elements that make no difference to what may stand in them.
def AlikeOpen : List Tag → List Tag → Prop :=
  List.Forall₂ fun tag other => tag = other ∨ ¬ tag.isGroup ∧ ¬ other.isGroup

theorem AlikeOpen.filter_eq {opened others : List Tag} (h : AlikeOpen opened others) :
    opened.filter Tag.isGroup = others.filter Tag.isGroup := by
  induction h with
  | nil => rfl
  | cons hfirst _ ih =>
      rcases hfirst with rfl | ⟨htag, hother⟩
      · simp only [List.filter_cons, ih]
      · rw [List.filter_cons_of_neg htag, List.filter_cons_of_neg hother, ih]

theorem AlikeOpen.refl (opened : List Tag) : AlikeOpen opened opened :=
  List.forall₂_same.mpr fun _ _ => .inl rfl

theorem AlikeOpen.openAfter {opened others : List Tag} (h : AlikeOpen opened others)
    (event : Event) : AlikeOpen (event.openAfter opened) (event.openAfter others) := by
  cases event with
  | opens tag => exact .cons (.inl rfl) h
  | closes name =>
      cases h with
      | nil => exact .nil
      | cons _ hrest => exact hrest
  | _ => exact h

theorem AlikeOpen.sound_iff {opened others : List Tag} (h : AlikeOpen opened others) (tag : Tag) :
    tag.Sound opened ↔ tag.Sound others := by
  have hmem : ∀ group, group ∈ opened ∧ group.isGroup ↔ group ∈ others ∧ group.isGroup := by
    intro group
    rw [← List.mem_filter, h.filter_eq, List.mem_filter]
  have hnone : (∀ outer ∈ opened, ¬ outer.isGroup) ↔ ∀ outer ∈ others, ¬ outer.isGroup := by
    rw [← List.filter_eq_nil_iff, h.filter_eq, List.filter_eq_nil_iff]
  have htyped : (∃ group ∈ opened, group.isGroup ∧ group.Has "typeID") ↔
      ∃ group ∈ others, group.isGroup ∧ group.Has "typeID" := by
    simp only [← and_assoc, hmem]
  rw [Tag.Sound, Tag.Sound, hnone, htyped]

theorem AlikeOpen.soundFrom_iff {opened others : List Tag} (h : AlikeOpen opened others)
    (events : List Event) : SoundFrom opened events ↔ SoundFrom others events := by
  induction events generalizing opened others with
  | nil => rfl
  | cons event rest ih =>
      simp only [SoundFrom, h.sound_iff, ih (h.openAfter event)]

-- Parts one after another, with asides before, between and behind them.
inductive Consists : List Part → List Event → Prop where
  | nil : Consists [] []
  | aside (rest : Consists parts later) : Consists parts (.aside :: later)
  | part (part : Part) (rest : Consists parts later) :
      Consists (part :: parts) (part.events ++ later)

namespace Consists

variable {parts : List Part} {found : List Event}

theorem complete (h : Consists parts found) : Complete found := by
  induction h with
  | nil => exact .nil
  | aside _ ih => exact .aside ih
  | part part _ ih => exact part.complete_events.append ih

theorem soundFrom_iff (h : Consists parts found) (opened : List Tag) :
    SoundFrom opened found ↔ ∀ part ∈ parts, SoundFrom opened part.events := by
  induction h with
  | nil => simp [SoundFrom]
  | aside _ ih =>
      rw [← ih]
      simp [SoundFrom, Event.tag?, Event.openAfter]
  | part part _ ih =>
      rw [part.complete_events.soundFrom_append_iff, ih, List.forall_mem_cons]

theorem tags_eq (h : Consists parts found) :
    tags found = parts.flatMap fun part => tags part.events := by
  induction h with
  | nil => rfl
  | aside _ ih => exact ih
  | part part _ ih => rw [tags, List.filterMap_append, ← tags, ← tags, ih, List.flatMap_cons]

theorem groupsIn_eq (h : Consists parts found) :
    Description.groupsIn found = parts.flatMap fun part => Description.groupsIn part.events := by
  induction h with
  | nil => rfl
  | aside _ ih => exact ih
  | part part _ ih =>
      rw [Description.groupsIn_append part.complete_events, ih, List.flatMap_cons]

end Consists

theorem consists_flatMap (parts : List Part) : Consists parts (parts.flatMap Part.events) := by
  induction parts with
  | nil => exact .nil
  | cons part rest ih => exact .part part ih

-- An element with parts in it and nothing in between.
def Part.holding (tag : Tag) (parts : List Part) : Part where
  tag := tag
  content? := some (parts.flatMap Part.events)
  complete content hcontent := by
    cases hcontent
    exact (consists_flatMap parts).complete

-- The document has one root, and these are the elements right under it.
def HasChildren (document : String) (root : Tag) (children : List Part) : Prop :=
  (read document).fault = none ∧
    ∃ part : Part, part.tag = root ∧ Consists [part] (read document).items ∧
      Consists children part.within

deriving instance DecidableEq for Findings

theorem hasChildren_of_read {document : String} {root : Tag} {children : List Part}
    (h : read document = ⟨(Part.holding root children).events, none⟩) :
    HasChildren document root children := by
  rw [HasChildren, h]
  refine ⟨rfl, Part.holding root children, rfl, ?_, consists_flatMap children⟩
  rw [← List.flatMap_singleton Part.events]
  exact consists_flatMap _

namespace Part

def isOf (element : Element) (part : Part) : Bool := part.tag.element? = some element

-- A slot, a group with its parameters, or an entry of a catalog, with nothing else in it that says
-- something about a device.
def SelfContained (part : Part) : Prop :=
  part.tag.element? ∈ [some .poolInstance, some .group, some .amp, some .cab] ∧
    ∀ tag ∈ tags part.within,
      tag.element? = none ∨ part.tag.isGroup ∧ tag.element? = some .parameter

instance (part : Part) : Decidable part.SelfContained := inferInstanceAs (Decidable (_ ∧ _))

variable {part : Part}

theorem SelfContained.ne_parameter (h : part.SelfContained) :
    part.tag.element? ≠ some .parameter := by
  intro heq
  have hkind := heq ▸ h.1
  simp at hkind

-- There are parameters in groups only.
theorem SelfContained.of_not_isGroup (h : part.SelfContained) (hgroup : ¬ part.tag.isGroup) :
    ∀ tag ∈ tags part.within, tag.element? = none := fun tag htag =>
  (h.2 tag htag).resolve_right fun hparameter => hgroup hparameter.1

theorem SelfContained.within (h : part.SelfContained) :
    ∀ tag ∈ tags part.within, tag.element? = none ∨ tag.element? = some .parameter :=
  fun tag htag => (h.2 tag htag).imp_right And.right

end Part

end Markup

namespace Description

theorem groupsIn_eq_nil {events : List Event} (h : ∀ tag ∈ tags events, ¬ tag.isGroup) :
    groupsIn events = [] := by
  induction events with
  | nil => rfl
  | cons event rest ih =>
      have hrest : ∀ tag ∈ tags rest, ¬ tag.isGroup := by
        intro tag htag
        apply h
        cases event with
        | opens _ | selfCloses _ => exact List.mem_cons_of_mem _ htag
        | closes _ | aside => exact htag
      cases event with
      | opens tag | selfCloses tag =>
          rw [groupsIn, ih hrest, Device.Progress.group?_eq_none (h tag List.mem_cons_self)]
          rfl
      | closes name | aside => exact ih hrest

-- What the root of a document says by itself.
def ofRoot (root : Tag) : Description where
  slots := (slot? root).toList
  groups := (group? root []).toList
  amps := (listed? .amp root).toList
  cabs := (listed? .cab root).toList

-- What parts say, each for itself.
def ofParts (parts : List Part) : Description where
  slots := parts.filterMap fun part => slot? part.tag
  groups := parts.filterMap fun part => group? part.tag part.within
  amps := parts.filterMap fun part => listed? .amp part.tag
  cabs := parts.filterMap fun part => listed? .cab part.tag

-- Nothing within a part counts beside its tag, except for the parameters of a group.
theorem filterMap_tags {β : Type} {part : Part} (h : part.SelfContained) {says? : Tag → Option β}
    (hsilent : ∀ tag, tag.element? = none ∨ tag.element? = some .parameter → says? tag = none) :
    (tags part.events).filterMap says? = (says? part.tag).toList := by
  have hwithin : (tags part.within).filterMap says? = [] :=
    List.filterMap_eq_nil_iff.mpr fun tag htag => hsilent tag (h.within tag htag)
  rw [part.tags_events, List.filterMap_cons, hwithin]
  cases says? part.tag <;> rfl

theorem ofEvents_parts {parts : List Part} {found : List Event} (h : Consists parts found)
    (hself : ∀ part ∈ parts, part.SelfContained) : ofEvents found = ofParts parts := by
  have hunsaid : ∀ element, element ≠ .parameter → ∀ tag : Tag,
      tag.element? = none ∨ tag.element? = some .parameter → tag.element? ≠ some element := by
    rintro element hne tag (htag | htag)
    · rw [htag]
      nofun
    · rw [htag]
      exact fun he => hne (Option.some.inj he).symm
  have hgroups : ∀ part ∈ parts,
      groupsIn part.events = (group? part.tag part.within).toList := by
    intro part hpart
    rw [part.groupsIn_events, groupsIn_eq_nil, List.append_nil]
    intro tag htag hgroup
    exact hunsaid .group (by decide) tag ((hself part hpart).within tag htag)
      (of_decide_eq_true hgroup)
  have htags : ∀ {β : Type} {says? : Tag → Option β} {element : Element}, element ≠ .parameter →
      (∀ tag, tag.element? ≠ some element → says? tag = none) →
        (tags found).filterMap says? = parts.filterMap fun part => says? part.tag := by
    intro β says? element hne hsilent
    rw [h.tags_eq, List.filterMap_flatMap, List.filterMap_eq_flatMap_toList]
    exact List.flatMap_congr fun part hpart =>
      filterMap_tags (hself part hpart) fun tag htag => hsilent tag (hunsaid element hne tag htag)
  have hslots : (tags found).filterMap slot? = parts.filterMap fun part => slot? part.tag :=
    htags (by decide : Element.poolInstance ≠ .parameter) fun _ hne => if_neg hne
  have hamps : (tags found).filterMap (listed? .amp) =
      parts.filterMap fun part => listed? .amp part.tag :=
    htags (by decide) fun _ hne => if_neg hne
  have hcabs : (tags found).filterMap (listed? .cab) =
      parts.filterMap fun part => listed? .cab part.tag :=
    htags (by decide) fun _ hne => if_neg hne
  have hgroup : groupsIn found = parts.filterMap fun part => group? part.tag part.within := by
    rw [h.groupsIn_eq, List.filterMap_eq_flatMap_toList]
    exact List.flatMap_congr hgroups
  rw [ofEvents, ofParts, hslots, hamps, hcabs, hgroup]

-- If a root is a group, there is no group in it, and so no parameter.
theorem group?_root {root : Part} {children : List Part} (h : Consists children root.within)
    (hself : ∀ child ∈ children, child.SelfContained)
    (hsound : ∀ child ∈ children, SoundFrom [root.tag] child.events) :
    group? root.tag root.within = group? root.tag [] := by
  by_cases hroot : root.tag.isGroup
  · have hchild : ∀ child ∈ children, ¬ child.tag.isGroup := by
      intro child hchild hgroup
      have htag := ((child.soundFrom_events _).mp (hsound child hchild)).1
      rw [Tag.Sound, of_decide_eq_true hgroup] at htag
      exact htag.1 root.tag List.mem_cons_self hroot
    have hnone : (tags root.within).filterMap (listed? .parameter) = [] := by
      rw [List.filterMap_eq_nil_iff, h.tags_eq]
      intro tag htag
      obtain ⟨child, hmem, htag⟩ := List.mem_flatMap.mp htag
      rw [child.tags_events] at htag
      rcases List.mem_cons.mp htag with rfl | htag
      · exact if_neg (hself child hmem).ne_parameter
      · refine if_neg ?_
        rw [(hself child hmem).of_not_isGroup (hchild child hmem) tag htag]
        exact (Option.some_ne_none _).symm
    rw [group?, hnone]
    rfl
  · rw [Device.Progress.group?_eq_none hroot, Device.Progress.group?_eq_none hroot]

-- What a document with a root says.
theorem ofEvents_root {root : Part} {children : List Part} {found : List Event}
    (hroot : Consists [root] found) (h : Consists children root.within)
    (hself : ∀ child ∈ children, child.SelfContained)
    (hsound : ∀ child ∈ children, SoundFrom [root.tag] child.events) :
    ofEvents found = ofRoot root.tag ++ ofParts children := by
  have hevents : ofEvents found = ofEvents root.events := by
    rw [ofEvents, hroot.tags_eq, hroot.groupsIn_eq, List.flatMap_singleton, List.flatMap_singleton]
    rfl
  rw [hevents, ← ofEvents_parts h hself, ofEvents, root.tags_events, root.groupsIn_events,
    group?_root h hself hsound]
  simp only [Device.Progress.filterMap_cons_toList]
  rfl

end Description

namespace Markup

open Description

-- The same parts in another order, in which slots and groups stand as before among themselves, and
-- the name that is given last for each number of a catalog is the same.
structure Interleaved (parts others : List Part) : Prop where
  perm : parts.Perm others
  slots : parts.filter (Part.isOf .poolInstance) = others.filter (Part.isOf .poolInstance)
  groups : parts.filter (Part.isOf .group) = others.filter (Part.isOf .group)
  amps : ∀ index, Catalog.lastName? (parts.filterMap fun part => listed? .amp part.tag) index =
    Catalog.lastName? (others.filterMap fun part => listed? .amp part.tag) index
  cabs : ∀ index, Catalog.lastName? (parts.filterMap fun part => listed? .cab part.tag) index =
    Catalog.lastName? (others.filterMap fun part => listed? .cab part.tag) index

theorem Interleaved.symm {parts others : List Part} (h : Interleaved parts others) :
    Interleaved others parts where
  perm := h.perm.symm
  slots := h.slots.symm
  groups := h.groups.symm
  amps index := (h.amps index).symm
  cabs index := (h.cabs index).symm

-- What only the parts of one kind say depends on their order only.
theorem filterMap_eq_of_filter_eq {parts others : List Part} {element : Element} {β : Type}
    {says? : Part → Option β}
    (h : parts.filter (Part.isOf element) = others.filter (Part.isOf element))
    (hsilent : ∀ part : Part, part.tag.element? ≠ some element → says? part = none) :
    parts.filterMap says? = others.filterMap says? := by
  have hfilter : ∀ parts : List Part,
      parts.filterMap says? = (parts.filter (Part.isOf element)).filterMap says? := by
    intro parts
    rw [List.filterMap_filter]
    refine List.filterMap_congr fun part _ => ?_
    by_cases hof : part.isOf element
    · rw [if_pos hof]
    · rw [if_neg hof]
      exact hsilent part fun helement => hof (decide_eq_true helement)
  rw [hfilter parts, hfilter others, h]

-- The two roots are the same, or neither of them says anything.
def AlikeRoots (root other : Tag) : Prop :=
  root = other ∨ root.element? = none ∧ other.element? = none

theorem AlikeRoots.symm {root other : Tag} (h : AlikeRoots root other) : AlikeRoots other root :=
  h.imp Eq.symm And.symm

theorem AlikeRoots.alikeOpen {root other : Tag} (h : AlikeRoots root other) :
    AlikeOpen [root] [other] := by
  refine .cons (h.imp_right fun hnone => ?_) .nil
  rw [Tag.isGroup, Tag.isGroup, hnone.1, hnone.2]
  decide

theorem AlikeRoots.sound {root other : Tag} (h : AlikeRoots root other) (hsound : root.Sound []) :
    other.Sound [] := by
  rcases h with rfl | ⟨-, hother⟩
  · exact hsound
  · rw [Tag.Sound, hother]
    trivial

theorem AlikeRoots.ofRoot_eq {root other : Tag} (h : AlikeRoots root other) :
    ofRoot root = ofRoot other := by
  rcases h with rfl | ⟨hroot, hother⟩
  · rfl
  · simp [ofRoot, slot?, group?, listed?, hroot, hother]

-- Parts in another order describe the same device.
theorem Interleaved.device_eq {parts others : List Part} (h : Interleaved parts others)
    (description : Description) :
    (description ++ ofParts parts).device = (description ++ ofParts others).device := by
  have hslots : (ofParts parts).slots = (ofParts others).slots :=
    filterMap_eq_of_filter_eq h.slots fun _ hne => if_neg hne
  have hgroups : (ofParts parts).groups = (ofParts others).groups :=
    filterMap_eq_of_filter_eq h.groups fun _ hne => if_neg hne
  have hamps : ∀ index, Catalog.lastName? (ofParts parts).amps index =
    Catalog.lastName? (ofParts others).amps index := h.amps
  have hcabs : ∀ index, Catalog.lastName? (ofParts parts).cabs index =
    Catalog.lastName? (ofParts others).cabs index := h.cabs
  have hone := (description ++ ofParts parts).device_records
  have hother := (description ++ ofParts others).device_records
  apply device_ext
  · rw [hone.blocks, hother.blocks, slots_append, slots_append, hslots]
  · rw [hone.blockTypes, hother.blockTypes, groups_append, groups_append, hgroups]
  · refine hone.ampsAscending.ext hother.ampsAscending fun index => ?_
    rw [hone.amps, hother.amps, amps_append, amps_append, Catalog.lastName?_append,
      Catalog.lastName?_append, hamps]
  · refine hone.cabsAscending.ext hother.cabsAscending fun index => ?_
    rw [hone.cabs, hother.cabs, cabs_append, cabs_append, Catalog.lastName?_append,
      Catalog.lastName?_append, hcabs]

end Markup

namespace Device

open Markup

variable {document second : String} {root other : Tag} {children others : List Part}

-- A document can be read if its root is sound and each child is, wherever it stands.
theorem read_eq_ok_iff_children (h : HasChildren document root children)
    (hself : ∀ child ∈ children, child.SelfContained) {device : Device} :
    (read document).outcome = .ok device ↔
      (root.Sound [] ∧ ∀ child ∈ children, SoundFrom [root] child.events) ∧
        device = (Description.ofRoot root ++ Description.ofParts children).device := by
  obtain ⟨hfault, part, rfl, hroot, hchildren⟩ := h
  have hsound : (Markup.read document).Sound ↔
      part.tag.Sound [] ∧ ∀ child ∈ children, SoundFrom [part.tag] child.events := by
    rw [Findings.sound_iff, hroot.soundFrom_iff, List.forall_mem_singleton, part.soundFrom_events,
      hchildren.soundFrom_iff]
    exact ⟨fun hall => hall.2.1, fun hall => ⟨hfault, hall, hroot.complete.openTags_eq_nil⟩⟩
  rw [read_eq_ok_iff, hsound]
  refine and_congr_right fun hall => ?_
  rw [Description.ofEvents_root hroot hchildren hself hall.2]

theorem read_interleaved {device : Device} (hfirst : HasChildren document root children)
    (hsecond : HasChildren second other others) (hroot : AlikeRoots root other)
    (hself : ∀ child ∈ children, child.SelfContained) (h : Interleaved children others)
    (hread : (read document).outcome = .ok device) : (read second).outcome = .ok device := by
  have hselfOther : ∀ child ∈ others, child.SelfContained :=
    fun child hchild => hself child (h.perm.mem_iff.mpr hchild)
  obtain ⟨⟨hsound, hall⟩, rfl⟩ := (read_eq_ok_iff_children hfirst hself).mp hread
  refine (read_eq_ok_iff_children hsecond hselfOther).mpr ⟨⟨hroot.sound hsound, ?_⟩, ?_⟩
  · intro child hchild
    exact (hroot.alikeOpen.soundFrom_iff _).mp (hall child (h.perm.mem_iff.mpr hchild))
  · rw [h.device_eq, hroot.ofRoot_eq]

end Device

namespace Sources

open Markup
open Description (listed?)

-- The parts of a document may stand in any order that keeps the slots and the groups in theirs and
-- the last name for each number of a catalog.
theorem ofDocument_interleaved {first second : String} {root other : Tag}
    {children others : List Part} (hfirst : HasChildren first root children)
    (hsecond : HasChildren second other others) (hroot : AlikeRoots root other)
    (hself : ∀ child ∈ children, child.SelfContained) (h : Interleaved children others)
    (hread : (Device.read first).outcome.isOk ∨ (Device.read second).outcome.isOk) :
    (∃ device, (Device.read first).outcome = .ok device ∧
      (Device.read second).outcome = .ok device) ∧
      ∀ settings, (ofDocument settings first).outcome = (ofDocument settings second).outcome := by
  have hselfOther : ∀ child ∈ others, child.SelfContained :=
    fun child hchild => hself child (h.perm.mem_iff.mpr hchild)
  have hboth : ∃ device, (Device.read first).outcome = .ok device ∧
      (Device.read second).outcome = .ok device := by
    rcases hread with hok | hok
    · obtain ⟨device, hdevice⟩ := Outcome.exists_of_isOk hok
      exact ⟨device, hdevice, Device.read_interleaved hfirst hsecond hroot hself h hdevice⟩
    · obtain ⟨device, hdevice⟩ := Outcome.exists_of_isOk hok
      exact ⟨device,
        Device.read_interleaved hsecond hfirst hroot.symm hselfOther h.symm hdevice, hdevice⟩
  refine ⟨hboth, fun settings => ?_⟩
  obtain ⟨device, hone, hanother⟩ := hboth
  rw [ofDocument, ofDocument, Traced.outcome_bind_of_ok (a := device),
    Traced.outcome_bind_of_ok (a := device)]
  · rw [Traced.outcome_mapError, hanother]
    rfl
  · rw [Traced.outcome_mapError, hone]
    rfl

-- A slot that stands before the group with its parameters, and one that stands behind it.
def slotPart : Part := ⟨.ofText "EffectPoolInstance typeID='1' id='1' name='A'".toList, none, nofun⟩

def groupPart : Part :=
  .holding (.ofText "EffectParameters typeID='1' name='D'".toList)
    [⟨.ofText "EffectParameter id='1' name='L'".toList, none, nofun⟩]

def firstAmp : Part := ⟨.ofText "Amp id='1' name='R'".toList, none, nofun⟩

def secondAmp : Part := ⟨.ofText "Amp id='2' name='P'".toList, none, nofun⟩

def slotFirst : String :=
  "<P><EffectPoolInstance typeID='1' id='1' name='A'/><Amp id='1' name='R'/>" ++
    "<EffectParameters typeID='1' name='D'><EffectParameter id='1' name='L'/></EffectParameters>" ++
    "<Amp id='2' name='P'/></P>"

def slotBehind : String :=
  "<P><EffectParameters typeID='1' name='D'><EffectParameter id='1' name='L'/></EffectParameters>" ++
    "<Amp id='2' name='P'/><EffectPoolInstance typeID='1' id='1' name='A'/>" ++
    "<Amp id='1' name='R'/></P>"

theorem interleaved_slot :
    Interleaved ([slotPart, firstAmp] ++ [groupPart, secondAmp])
      ([groupPart, secondAmp] ++ [slotPart, firstAmp]) where
  perm := List.perm_append_comm
  slots := by
    have hnone : [groupPart, secondAmp].filter (Part.isOf .poolInstance) = [] :=
      List.filter_eq_nil_iff.mpr (by decide +kernel)
    rw [List.filter_append, List.filter_append, hnone, List.append_nil, List.nil_append]
  groups := by
    have hnone : [slotPart, firstAmp].filter (Part.isOf .group) = [] :=
      List.filter_eq_nil_iff.mpr (by decide +kernel)
    rw [List.filter_append, List.filter_append, hnone, List.append_nil, List.nil_append]
  amps index := by
    have hfirst : [slotPart, firstAmp].filterMap (fun part => listed? .amp part.tag) =
        [(1, "R")] := by decide +kernel
    have hsecond : [groupPart, secondAmp].filterMap (fun part => listed? .amp part.tag) =
        [(2, "P")] := by decide +kernel
    rw [List.filterMap_append, List.filterMap_append, hfirst, hsecond]
    by_cases hindex : (1 : Int32) = index
    · subst hindex
      rfl
    · by_cases hother : (2 : Int32) = index <;> simp [Catalog.lastName?, hindex, hother]
  cabs _ := by
    have hnone : ∀ parts : List Part, (∀ part ∈ parts, ¬ part.isOf .cab) →
        parts.filterMap (fun part => listed? .cab part.tag) = [] :=
      fun parts hparts => List.filterMap_eq_nil_iff.mpr fun part hpart =>
        if_neg fun helement => hparts part hpart (decide_eq_true helement)
    rw [hnone _ (by decide +kernel), hnone _ (by decide +kernel)]

theorem ofDocument_interleaved_slot :
    (∃ device, (Device.read slotFirst).outcome = .ok device ∧
      (Device.read slotBehind).outcome = .ok device) ∧
      ∀ settings,
        (ofDocument settings slotFirst).outcome = (ofDocument settings slotBehind).outcome := by
  have hfirst : Markup.read slotFirst =
      ⟨(Part.holding (.ofText "P".toList)
        ([slotPart, firstAmp] ++ [groupPart, secondAmp])).events, none⟩ := by
    decide +kernel
  have hsecond : Markup.read slotBehind =
      ⟨(Part.holding (.ofText "P".toList)
        ([groupPart, secondAmp] ++ [slotPart, firstAmp])).events, none⟩ := by
    decide +kernel
  have hok : (Device.read slotFirst).outcome.isOk := by
    rw [Device.read, hfirst]
    decide +kernel
  exact ofDocument_interleaved (hasChildren_of_read hfirst) (hasChildren_of_read hsecond) (.inl rfl)
    (by decide +kernel) interleaved_slot (.inl hok)

end Sources

end EffectTables
