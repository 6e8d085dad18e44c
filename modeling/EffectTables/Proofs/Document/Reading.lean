import EffectTables.Proofs.Document.Opening

namespace EffectTables

namespace Device.Progress

open Markup (Event Tag tags inside SoundFrom Fits)
open Description (slot? listed? group? groupsIn)

-- What the reader holds of the open elements. There is at most one group among them.
def Within (opened : List Tag) : Grouping → Prop
  | .outside => opened.filter Tag.isGroup = []
  | .inside _ => ∃ group, opened.filter Tag.isGroup = [group] ∧ group.Has "typeID"
  | .untyped => ∃ group, opened.filter Tag.isGroup = [group] ∧ ¬ group.Has "typeID"

def groupingAfter (grouping : Grouping) (tag : Tag) : Grouping :=
  match tag.element?, grouping with
  | some .group, _ => groupOf tag
  | some .parameter, .inside group => .inside (group.pushAll (listed? .parameter tag).toList)
  | _, grouping => grouping

-- What the reader holds once it has read a tag.
def after (progress : Progress) (tag : Tag) : Progress where
  device := progress.device.extend ((slot? tag).toList.map Slot.block) []
    (listed? .amp tag).toList (listed? .cab tag).toList
  grouping := groupingAfter progress.grouping tag
  depth := progress.depth

theorem exists_mem_filter {opened : List Tag} {group : Tag}
    (h : opened.filter Tag.isGroup = [group]) {P : Tag → Prop} :
    (∃ other ∈ opened, other.isGroup ∧ P other) ↔ P group := by
  have hmem : ∀ other, other ∈ opened ∧ other.isGroup ↔ other = group := by
    intro other
    rw [← List.mem_filter, h, List.mem_singleton]
  constructor
  · intro hall
    obtain ⟨other, ho, hg, hp⟩ := hall
    exact (hmem other).mp ⟨ho, hg⟩ ▸ hp
  · intro hp
    obtain ⟨ho, hg⟩ := (hmem group).mpr rfl
    exact ⟨group, ho, hg, hp⟩

theorem Within.forall_not_isGroup_iff {opened : List Tag} {grouping : Grouping}
    (h : Within opened grouping) :
    (∀ outer ∈ opened, ¬ outer.isGroup) ↔ grouping = .outside := by
  rw [← List.filter_eq_nil_iff]
  cases grouping with
  | outside => simpa [Within] using h
  | inside group =>
      obtain ⟨tag, htag, -⟩ := h
      simp [htag]
  | untyped =>
      obtain ⟨tag, htag, -⟩ := h
      simp [htag]

theorem exists_of_soundEntry {tag : Tag} (h : tag.SoundEntry) :
    ∃ id name, tag.number? "id" = some id ∧ tag.value? "name" = some name := by
  obtain ⟨hreadable, hid, hname⟩ := h
  obtain ⟨id, hid⟩ := Option.isSome_iff_exists.mp hid
  obtain ⟨name, hname⟩ := hreadable.has_iff.mp hname
  exact ⟨id, name, hid, hname⟩

-- A tag is read without an error if and only if it is sound within the open elements.
theorem openElement_eq_ok_iff {opened : List Tag} {progress next : Progress} {tag : Tag}
    (h : Within opened progress.grouping) :
    (progress.openElement tag).outcome = .ok next ↔
      tag.Sound opened ∧ progress.after tag = next := by
  have hname : Element.ofName? tag.name = tag.element? := rfl
  rw [openElement, hname, Tag.Sound, after]
  cases helement : tag.element? with
  | none => simp [slot?, listed?, groupingAfter, helement, extend_nil]
  | some element =>
      cases element with
      | poolInstance =>
          simp [openInstance_eq_ok_iff helement, listed?, groupingAfter, helement]
      | amp =>
          simp only [openEntry_eq_ok_iff]
          apply and_congr_right
          intro hsound
          obtain ⟨id, name, hid, hname⟩ := exists_of_soundEntry hsound
          simp [slot?, listed?, groupingAfter, helement, hid, hname, addAmp_eq_extend]
      | cab =>
          simp only [openEntry_eq_ok_iff]
          apply and_congr_right
          intro hsound
          obtain ⟨id, name, hid, hname⟩ := exists_of_soundEntry hsound
          simp [slot?, listed?, groupingAfter, helement, hid, hname, addCab_eq_extend]
      | group =>
          simp only [h.forall_not_isGroup_iff]
          by_cases houtside : progress.grouping = .outside
          · simp only [openGroup_eq_ok_iff helement houtside, houtside, true_and]
            simp [slot?, listed?, groupingAfter, helement, extend_nil]
          · simp only [houtside, false_and, iff_false]
            unfold openGroup
            split
            next hout => exact absurd hout houtside
            next => simp
      | parameter =>
          obtain ⟨device, grouping, depth⟩ := progress
          cases grouping with
          | outside =>
              have hnone := h.forall_not_isGroup_iff.mpr rfl
              have hno : ¬ ∃ group ∈ opened, group.isGroup ∧ group.Has "typeID" := by
                intro hgroup
                obtain ⟨group, ho, hg, -⟩ := hgroup
                exact hnone group ho hg
              simp [openParameter, hno, slot?, listed?, groupingAfter, helement, extend_nil]
          | untyped =>
              obtain ⟨group, hgroup, htyped⟩ := h
              have hno := (exists_mem_filter hgroup (P := (·.Has "typeID"))).not.mpr htyped
              simp [openParameter, hno, slot?, listed?, groupingAfter, helement, extend_nil]
          | inside current =>
              obtain ⟨group, hgroup, htyped⟩ := h
              have hyes := (exists_mem_filter hgroup (P := (·.Has "typeID"))).mpr htyped
              have hopen := @openParameter_eq_ok_iff ⟨device, .inside current, depth⟩ next tag
                current helement rfl
              simp only [hopen, hyes, forall_const]
              simp [slot?, listed?, groupingAfter, helement, extend_nil]

theorem Within.congr {opened others : List Tag} {grouping : Grouping}
    (h : Within opened grouping)
    (hfilter : others.filter Tag.isGroup = opened.filter Tag.isGroup) :
    Within others grouping := by
  cases grouping <;> simpa only [Within, hfilter] using h

theorem groupOf_within {opened : List Tag} {tag : Tag} (helement : tag.element? = some .group)
    (hnone : opened.filter Tag.isGroup = []) (hsound : tag.SoundGroup) :
    Within (tag :: opened) (groupOf tag) := by
  obtain ⟨hreadable, hsound⟩ := hsound
  have hfilter : (tag :: opened).filter Tag.isGroup = [tag] := by
    simp [Tag.isGroup, helement, hnone]
  cases htype : tag.number? "typeID" with
  | none =>
      have hno : ¬ tag.Has "typeID" := fun hhas => by simp [htype] at hsound; exact hsound hhas
      simp only [groupOf, group?, helement, htype, if_true]
      exact ⟨tag, hfilter, hno⟩
  | some typeId =>
      have hhas := hreadable.has_of_number htype
      obtain ⟨name, hname⟩ := hreadable.has_iff.mp (hsound hhas).2.1
      simp only [groupOf, group?, helement, htype, hname, if_true]
      exact ⟨tag, hfilter, hhas⟩

-- The reader keeps up with the open elements when one more is opened.
theorem Within.opens {opened : List Tag} {grouping : Grouping} {tag : Tag}
    (h : Within opened grouping) (hsound : tag.Sound opened) :
    Within (tag :: opened) (groupingAfter grouping tag) := by
  by_cases hgroup : tag.element? = some .group
  · simp only [Tag.Sound, hgroup] at hsound
    have hnone := List.filter_eq_nil_iff.mpr hsound.1
    simp only [groupingAfter, hgroup]
    exact groupOf_within hgroup hnone hsound.2
  · have hfilter : (tag :: opened).filter Tag.isGroup = opened.filter Tag.isGroup := by
      simp [Tag.isGroup, hgroup]
    unfold groupingAfter
    split
    next hg => exact absurd hg hgroup
    next => exact h.congr hfilter
    next => exact h.congr hfilter

-- What the reader holds once an element has ended.
def closed (progress : Progress) (tag : Tag) : Progress :=
  if tag.isGroup then
    { progress with
      device := progress.device.extend []
        (match progress.grouping with | .inside group => [group.close] | _ => []) [] []
      grouping := .outside }
  else progress

-- The end of an element leaves the count of the open ones alone.
theorem closed_withDepth (progress : Progress) (tag : Tag) (depth : Nat) :
    { progress with depth := depth }.closed tag = { progress.closed tag with depth := depth } := by
  unfold closed
  split <;> rfl

theorem closed_depth (progress : Progress) (tag : Tag) :
    (progress.closed tag).depth = progress.depth := by
  unfold closed
  split <;> rfl

theorem closeElement_eq_ok_iff {progress next : Progress} {tag : Tag} :
    (progress.closeElement tag.name).outcome = .ok next ↔ progress.closed tag = next := by
  have hname : Element.ofName? tag.name = tag.element? := rfl
  rw [closeElement, hname, closed]
  by_cases hgroup : tag.element? = some .group
  · simp only [Tag.isGroup, hgroup]
    cases hg : progress.grouping with
    | outside => simp [extend_nil]
    | untyped => simp [extend_nil]
    | inside group =>
        by_cases hu : group.bypassUnmatched <;> simp [hu, addBlockType_eq_extend]
  · simp [Tag.isGroup, hgroup]

theorem Within.closes {opened : List Tag} {progress : Progress} {tag : Tag}
    (h : Within (tag :: opened) progress.grouping) :
    Within opened (progress.closed tag).grouping := by
  by_cases hgroup : tag.isGroup
  · have hfilter : (tag :: opened).filter Tag.isGroup = tag :: opened.filter Tag.isGroup := by
      simp [hgroup]
    simp only [closed, hgroup, if_true, Within]
    cases hg : progress.grouping with
    | outside => simp [hg, Within, hgroup] at h
    | inside group =>
        obtain ⟨other, hother, -⟩ := hg ▸ h
        rw [hfilter] at hother
        exact (List.cons.inj hother).2
    | untyped =>
        obtain ⟨other, hother, -⟩ := hg ▸ h
        rw [hfilter] at hother
        exact (List.cons.inj hother).2
  · have hfilter : (tag :: opened).filter Tag.isGroup = opened.filter Tag.isGroup := by
      simp [hgroup]
    rw [closed, if_neg hgroup]
    exact h.congr hfilter.symm

-- The group that is open, with the parameters that are still to come.
def pendingGroups (grouping : Grouping) (opened : List Tag) (events : List Event) :
    List ParameterGroup :=
  match grouping with
  | .inside group =>
      [group.pushAll ((tags (inside (opened.findIdx Tag.isGroup) events)).filterMap
        (listed? .parameter))]
  | _ => []

-- All groups that are still to be closed, in the order in which they are.
def groupsAhead (grouping : Grouping) (opened : List Tag) (events : List Event) :
    List ParameterGroup :=
  pendingGroups grouping opened events ++ (groupsIn events).map Group.filled

-- The block type of the group that is open, with the parameters that are still to come.
def pendingTypes (grouping : Grouping) (opened : List Tag) (events : List Event) :
    List BlockType :=
  match grouping with
  | .inside group =>
      [(group.pushAll ((tags (inside (opened.findIdx Tag.isGroup) events)).filterMap
        (listed? .parameter))).close]
  | _ => []

-- The block types to come are those of the groups.
theorem types_eq (grouping : Grouping) (opened : List Tag) (events : List Event) :
    pendingTypes grouping opened events ++ (groupsIn events).map Group.blockType =
      (groupsAhead grouping opened events).map ParameterGroup.close := by
  have hfilled : (ParameterGroup.close ∘ Group.filled) = Group.blockType :=
    funext Group.close_filled
  rw [groupsAhead, List.map_append, List.map_map, hfilled]
  cases grouping <;> rfl

-- The device once the rest of a document is read.
def outlook (progress : Progress) (opened : List Tag) (events : List Event) : Device :=
  progress.device.extend (((tags events).filterMap slot?).map Slot.block)
    (pendingTypes progress.grouping opened events ++ (groupsIn events).map Group.blockType)
    ((tags events).filterMap (listed? .amp)) ((tags events).filterMap (listed? .cab))

theorem filterMap_cons_toList (f : α → Option β) (x : α) (xs : List α) :
    (x :: xs).filterMap f = (f x).toList ++ xs.filterMap f := by
  cases hx : f x <;> simp [hx]

theorem groupingAfter_inside {tag : Tag} (hgroup : ¬ tag.isGroup) (group : ParameterGroup) :
    groupingAfter (.inside group) tag =
      .inside (group.pushAll (listed? .parameter tag).toList) := by
  have hne : tag.element? ≠ some .group := by simpa [Tag.isGroup] using hgroup
  unfold groupingAfter
  split
  next he => exact absurd he hne
  next he hg =>
    cases hg
    rfl
  next hother =>
    have hnone : listed? .parameter tag = none := if_neg fun he => hother group he rfl
    rw [hnone]
    rfl

theorem groupingAfter_not_inside {tag : Tag} (hgroup : ¬ tag.isGroup) {grouping : Grouping}
    (hnone : ∀ group, grouping ≠ .inside group) : groupingAfter grouping tag = grouping := by
  have hne : tag.element? ≠ some .group := by simpa [Tag.isGroup] using hgroup
  unfold groupingAfter
  split
  next he => exact absurd he hne
  next group he => exact absurd rfl (hnone group)
  next => rfl

theorem group?_eq_none {tag : Tag} (hgroup : ¬ tag.isGroup) (content : List Event) :
    group? tag content = none := by
  have hne : tag.element? ≠ some .group := by simpa [Tag.isGroup] using hgroup
  exact if_neg hne

theorem tags_opens (tag : Tag) (rest : List Event) : tags (.opens tag :: rest) = tag :: tags rest :=
  rfl

-- The groups to come do not change when an element begins.
theorem groupsAhead_opens {opened : List Tag} {grouping : Grouping} {tag : Tag}
    (h : Within opened grouping) (hsound : tag.Sound opened) (rest : List Event) :
    groupsAhead (groupingAfter grouping tag) (tag :: opened) rest =
      groupsAhead grouping opened (.opens tag :: rest) := by
  -- a tag of a group moves it from the groups to come to the one that is pending, any other tag is
  -- at most a parameter of the pending one
  by_cases hgroup : tag.isGroup
  · have helement : tag.element? = some .group := by simpa [Tag.isGroup] using hgroup
    simp only [Tag.Sound, helement] at hsound
    obtain rfl := h.forall_not_isGroup_iff.mp hsound.1
    simp only [groupsAhead, groupingAfter, helement, groupOf, groupsIn, group?, if_true]
    cases tag.number? "typeID" with
    | none => simp [pendingGroups]
    | some typeId =>
        cases tag.value? "name" with
        | none => simp [pendingGroups]
        | some name => simp [pendingGroups, List.findIdx_cons, hgroup, Group.filled]
  · have hindex : (tag :: opened).findIdx Tag.isGroup = opened.findIdx Tag.isGroup + 1 := by
      simp [List.findIdx_cons, hgroup]
    simp only [groupsAhead, groupsIn, group?_eq_none hgroup, Option.toList_none, List.nil_append]
    cases grouping with
    | outside => rw [groupingAfter_not_inside hgroup (fun _ he => by cases he)]; rfl
    | untyped => rw [groupingAfter_not_inside hgroup (fun _ he => by cases he)]; rfl
    | inside group =>
        rw [groupingAfter_inside hgroup]
        simp only [pendingGroups, hindex, inside, tags_opens, filterMap_cons_toList,
          ParameterGroup.pushAll_append]

-- An element that begins makes come true what was to come.
theorem outlook_opens {progress : Progress} {opened : List Tag} {tag : Tag}
    (h : Within opened progress.grouping) (hsound : tag.Sound opened) (rest : List Event) :
    (progress.after tag).outlook (tag :: opened) rest =
      progress.outlook opened (.opens tag :: rest) := by
  simp only [outlook, after, extend_extend, tags_opens, filterMap_cons_toList, List.map_append,
    List.nil_append, types_eq, groupsAhead_opens h hsound]

-- The group that the end of an element closes, if it is the end of a group.
def closing (grouping : Grouping) : List ParameterGroup :=
  match grouping with
  | .inside group => [group]
  | _ => []

theorem groupsAhead_closes (grouping : Grouping) (outer : List Tag) {tag : Tag}
    (hgroup : tag.isGroup) (rest : List Event) :
    groupsAhead grouping (tag :: outer) (.closes tag.name :: rest) =
      closing grouping ++ groupsAhead .outside outer rest := by
  cases grouping with
  | outside => rfl
  | untyped => rfl
  | inside group =>
      simp [groupsAhead, pendingGroups, closing, List.findIdx_cons, hgroup, inside, tags,
        ParameterGroup.pushAll, groupsIn]

-- The end of another element closes none.
theorem groupsAhead_closes_other (grouping : Grouping) (outer : List Tag) {tag : Tag}
    (hgroup : ¬ tag.isGroup) (rest : List Event) :
    groupsAhead grouping (tag :: outer) (.closes tag.name :: rest) =
      groupsAhead grouping outer rest := by
  have hindex : (tag :: outer).findIdx Tag.isGroup = outer.findIdx Tag.isGroup + 1 := by
    simp [List.findIdx_cons, hgroup]
  simp only [groupsAhead, groupsIn, pendingGroups, hindex, inside]
  rfl

theorem outlook_closes (progress : Progress) (outer : List Tag) (tag : Tag) (rest : List Event) :
    (progress.closed tag).outlook outer rest =
      progress.outlook (tag :: outer) (.closes tag.name :: rest) := by
  by_cases hgroup : tag.isGroup
  · rw [closed, if_pos hgroup, outlook, outlook, types_eq, types_eq,
      groupsAhead_closes _ outer hgroup, List.map_append, extend_extend]
    cases progress.grouping <;> rfl
  · rw [closed, if_neg hgroup, outlook, outlook, types_eq, types_eq,
      groupsAhead_closes_other _ outer hgroup]
    rfl

-- A self-closing tag stands for an opening tag and its end.
theorem groupsAhead_selfCloses (grouping : Grouping) (opened : List Tag) (tag : Tag)
    (rest : List Event) :
    groupsAhead grouping opened (.opens tag :: .closes tag.name :: rest) =
      groupsAhead grouping opened (.selfCloses tag :: rest) := by
  cases grouping <;> rfl

theorem outlook_selfCloses {progress : Progress} {opened : List Tag} {tag : Tag}
    (h : Within opened progress.grouping) (hsound : tag.Sound opened) (rest : List Event) :
    ((progress.after tag).closed tag).outlook opened rest =
      progress.outlook opened (.selfCloses tag :: rest) := by
  have htags : tags (.opens tag :: .closes tag.name :: rest) = tags (.selfCloses tag :: rest) := rfl
  rw [outlook_closes, outlook_opens h hsound, outlook, outlook, htags, types_eq, types_eq,
    groupsAhead_selfCloses]

theorem Within.nil {grouping : Grouping} (h : Within [] grouping) : grouping = .outside :=
  h.forall_not_isGroup_iff.mp fun _ hmem => absurd hmem List.not_mem_nil

theorem outlook_nil {progress : Progress} (h : Within [] progress.grouping) :
    progress.outlook [] [] = progress.device := by
  simp [outlook, tags, groupsIn, pendingTypes, h.nil, extend_nil]

theorem finish_eq_ok_iff {progress : Progress} {device : Device} :
    progress.finish.outcome = .ok device ↔ progress.depth = 0 ∧ progress.device = device := by
  unfold finish
  split <;> simp [*]

theorem onEvents_cons_finish_eq_ok_iff {progress : Progress} {event : Event} {rest : List Event}
    {device : Device} :
    (progress.onEvents (event :: rest) >>= finish).outcome = .ok device ↔
      ∃ next, (progress.onEvent event).outcome = .ok next ∧
        (next.onEvents rest >>= finish).outcome = .ok device := by
  simp only [onEvents, Traced.outcome_bind_eq_ok_iff]
  constructor
  · intro h
    obtain ⟨last, ⟨next, hnext, hlast⟩, hdevice⟩ := h
    exact ⟨next, hnext, last, hlast, hdevice⟩
  · intro h
    obtain ⟨next, hnext, last, hlast, hdevice⟩ := h
    exact ⟨last, ⟨next, hnext, hlast⟩, hdevice⟩

-- What the reader holds is in step with the open elements.
structure Follows (progress : Progress) (opened : List Tag) : Prop where
  depth : progress.depth = opened.length
  within : Within opened progress.grouping

-- What the reader holds after an event.
def passed (progress : Progress) (opened : List Tag) : Event → Progress
  | .opens tag => { progress with depth := progress.depth + 1 }.after tag
  | .selfCloses tag => (progress.after tag).closed tag
  | .closes _ =>
      match opened with
      | [] => progress
      | tag :: outer => { progress with depth := outer.length }.closed tag
  | .aside => progress

-- Reading an event succeeds if and only if the element that begins with it is sound.
theorem Follows.onEvent_eq_ok_iff {progress next : Progress} {opened : List Tag} {event : Event}
    (h : progress.Follows opened)
    (hfits : ∀ name, event = .closes name →
      ∃ tag outer, opened = tag :: outer ∧ tag.name = name) :
    (progress.onEvent event).outcome = .ok next ↔
      (∀ tag, event.tag? = some tag → tag.Sound opened) ∧ progress.passed opened event = next := by
  cases event with
  | opens tag =>
      have hwithin : Within opened { progress with depth := progress.depth + 1 }.grouping :=
        h.within
      simp only [onEvent, Event.tag?, Option.some.injEq, forall_eq', passed]
      exact openElement_eq_ok_iff hwithin
  | selfCloses tag =>
      simp only [onEvent, Event.tag?, Option.some.injEq, forall_eq', passed,
        Traced.outcome_bind_eq_ok_iff, openElement_eq_ok_iff h.within, closeElement_eq_ok_iff]
      constructor
      · intro hall
        obtain ⟨middle, ⟨hsound, rfl⟩, hnext⟩ := hall
        exact ⟨hsound, hnext⟩
      · intro hall
        obtain ⟨hsound, hnext⟩ := hall
        exact ⟨_, ⟨hsound, rfl⟩, hnext⟩
  | closes name =>
      obtain ⟨tag, outer, rfl, rfl⟩ := hfits name rfl
      simp only [onEvent, h.depth, List.length_cons, closeElement_eq_ok_iff, Event.tag?, passed]
      simp
  | aside => simp [onEvent, Event.tag?, passed]

theorem Follows.passed {progress : Progress} {opened : List Tag} {event : Event}
    (h : progress.Follows opened)
    (hsound : ∀ tag, event.tag? = some tag → tag.Sound opened) :
    (progress.passed opened event).Follows (event.openAfter opened) := by
  cases event with
  | opens tag =>
      have hdepth : progress.depth + 1 = (tag :: opened).length := by rw [h.depth, List.length_cons]
      exact ⟨hdepth, h.within.opens (hsound tag rfl)⟩
  | selfCloses tag =>
      refine ⟨(closed_depth (progress.after tag) tag).trans h.depth, ?_⟩
      exact Within.closes (h.within.opens (hsound tag rfl))
  | closes name =>
      cases opened with
      | nil => exact h
      | cons tag outer =>
          simp only [Progress.passed, closed_withDepth]
          exact ⟨rfl, h.within.closes⟩
  | aside => exact h

theorem Follows.outlook_passed {progress : Progress} {opened : List Tag} {event : Event}
    (h : progress.Follows opened)
    (hsound : ∀ tag, event.tag? = some tag → tag.Sound opened)
    (hfits : ∀ name, event = .closes name →
      ∃ tag outer, opened = tag :: outer ∧ tag.name = name) (rest : List Event) :
    (progress.passed opened event).outlook (event.openAfter opened) rest =
      progress.outlook opened (event :: rest) := by
  cases event with
  | opens tag => exact outlook_opens h.within (hsound tag rfl) rest
  | selfCloses tag => exact outlook_selfCloses h.within (hsound tag rfl) rest
  | closes name =>
      obtain ⟨tag, outer, rfl, rfl⟩ := hfits name rfl
      simp only [Progress.passed, closed_withDepth]
      exact outlook_closes progress outer tag rest
  | aside => rfl

-- The whole document from an event on.
theorem Follows.onEvents_eq_ok_iff {progress : Progress} {opened : List Tag} {events : List Event}
    {device : Device} (h : progress.Follows opened) (hfits : Fits opened events) :
    (progress.onEvents events >>= finish).outcome = .ok device ↔
      SoundFrom opened events ∧ events.foldl Event.openAfter opened = [] ∧
        progress.outlook opened events = device := by
  -- `Follows` carries the induction over the events, and the outlook stays the same along them
  induction events generalizing progress opened with
  | nil =>
      simp only [onEvents, Traced.outcome_bind_eq_ok_iff, Traced.outcome_pure, Except.ok.injEq,
        exists_eq_left', finish_eq_ok_iff, SoundFrom, List.foldl_nil, true_and, h.depth,
        List.length_eq_zero_iff]
      apply and_congr_right
      rintro rfl
      rw [outlook_nil h.within]
  | cons event rest ih =>
      obtain ⟨hfits, hrest⟩ := hfits
      simp only [onEvents_cons_finish_eq_ok_iff, h.onEvent_eq_ok_iff hfits, SoundFrom,
        List.foldl_cons]
      constructor
      · intro hall
        obtain ⟨next, ⟨hsound, rfl⟩, hdevice⟩ := hall
        obtain ⟨hsounds, hclosed, hdevice⟩ := (ih (h.passed hsound) hrest).mp hdevice
        rw [h.outlook_passed hsound hfits] at hdevice
        exact ⟨⟨hsound, hsounds⟩, hclosed, hdevice⟩
      · intro hall
        obtain ⟨⟨hsound, hsounds⟩, hclosed, hdevice⟩ := hall
        rw [← h.outlook_passed hsound hfits] at hdevice
        exact ⟨_, ⟨hsound, rfl⟩, (ih (h.passed hsound) hrest).mpr ⟨hsounds, hclosed, hdevice⟩⟩

theorem follows_nil : ({} : Progress).Follows [] := ⟨rfl, rfl⟩

end Device.Progress

namespace Device

open Markup (Findings Event)

theorem ofEvents_eq_ok_iff {found : Findings Event} {device : Device}
    (hfits : Markup.Fits [] found.items) :
    (ofEvents found).outcome = .ok device ↔
      found.Sound ∧ device = (Description.ofEvents found.items).device := by
  have hrun : (({} : Progress).onEvents found.items >>= Progress.finish).outcome = .ok device ↔
      Markup.SoundFrom [] found.items ∧ Markup.openTags found.items = [] ∧
        (Description.ofEvents found.items).device = device :=
    Progress.follows_nil.onEvents_eq_ok_iff hfits
  rw [found.sound_iff]
  cases hfault : found.fault with
  | some fault => simp [ofEvents, hfault, Traced.outcome_bind_eq_ok_iff, Traced.outcome_fail]
  | none =>
      simp only [ofEvents, hfault, hrun, true_and, and_assoc, eq_comm]

-- A document is read without an error if and only if it is sound.
theorem read_eq_ok_iff {document : String} {device : Device} :
    (read document).outcome = .ok device ↔
      (Markup.read document).Sound ∧
        device = (Description.ofEvents (Markup.read document).items).device :=
  ofEvents_eq_ok_iff (Markup.read_fits document)

-- What is read is what the document describes.
theorem read_eq_ok_iff_described (document : String) (device : Device) :
    ((read document).outcome = .ok device ↔
      (Markup.read document).Sound ∧
        device = (Description.ofEvents (Markup.read document).items).device) ∧
      (Description.ofEvents (Markup.read document).items).device.Records
        (Description.ofEvents (Markup.read document).items) := by
  constructor
  · exact read_eq_ok_iff
  · exact Description.device_records _

end Device

end EffectTables
