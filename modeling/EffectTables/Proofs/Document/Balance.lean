import EffectTables.Proofs.Document.Concatenation

namespace EffectTables

-- The element of which the note says that it came to nothing, or took the place of another one.
def Note.loss? : Note → Option Element
  | instanceIgnored _ => some .poolInstance
  | groupIgnored _ => some .group
  | parameterDropped => some .parameter
  | entryReplaced element _ _ => Element.ofName? element
  | _ => none

theorem Element.ofName?_name (element : Element) : ofName? element.name = some element := by
  cases element <;> decide +kernel

-- How many items of a device come from elements of one kind.
def Device.count (device : Device) : Element → Nat
  | .poolInstance => device.blocks.length
  | .group => device.blockTypes.length
  | .parameter => (device.blockTypes.flatMap (·.parameters)).length
  | .amp => device.amps.size
  | .cab => device.cabs.size

namespace Catalog

-- An entry for an index that has one already takes its place.
theorem size_insert {catalog : Catalog} (h : catalog.Ascending) (index : Int32) (name : String) :
    (catalog.insert index name).size + (catalog.get? index).toList.length = catalog.size + 1 := by
  obtain ⟨entries⟩ := catalog
  simp only [size, Catalog.insert, get?, Ascending] at h ⊢
  induction entries with
  | nil => rfl
  | cons first rest ih =>
      obtain ⟨hfirst, hrest⟩ := List.pairwise_cons.mp h
      have hlookup := Lookup.lookup_cons_eq_ite index first rest
      by_cases hlt : index < first.1
      · have hnone : rest.lookup index = none := by
          rw [List.lookup_eq_none_iff]
          intro entry hentry
          exact bne_iff_ne.mpr (Int32.ne_of_lt (Int32.lt_trans hlt (hfirst entry hentry)))
        rw [if_neg (Int32.ne_of_lt hlt).symm, hnone] at hlookup
        rw [hlookup, place, if_pos hlt]
        rfl
      · by_cases heq : index = first.1
        · rw [if_pos heq.symm] at hlookup
          rw [hlookup, place, if_neg hlt, if_pos heq]
          rfl
        · rw [if_neg (Ne.symm heq)] at hlookup
          rw [hlookup, place, if_neg hlt, if_neg heq, List.length_cons, List.length_cons,
            Nat.add_right_comm, ih hrest]

end Catalog

namespace Device.Progress

open Markup (Event Tag tags Fits)

variable {progress before middle after : Progress} {tag : Tag} {notes more : List Note}

def groupingCount : Grouping → Element → Nat
  | .inside _, .group => 1
  | .inside group, .parameter => group.parameters.length
  | _, _ => 0

def count (progress : Progress) (element : Element) : Nat :=
  progress.device.count element + groupingCount progress.grouping element

-- What can come of a tag that is read, with the notes that are made of it.
inductive Opens (progress : Progress) (tag : Tag) : List Note → Progress → Prop
  | unknown (unknown : tag.element? = none) : Opens progress tag [] progress
  | ignoredInstance (name : Option String) (element : tag.element? = some .poolInstance) :
      Opens progress tag [.instanceIgnored name] progress
  | block (block : Block) (element : tag.element? = some .poolInstance) :
      Opens progress tag [] { progress with device := progress.device.addBlock block }
  | ignoredGroup (name : Option String) (element : tag.element? = some .group)
      (outside : progress.grouping = .outside) :
      Opens progress tag [.groupIgnored name] { progress with grouping := .untyped }
  | group (group : ParameterGroup) (element : tag.element? = some .group)
      (outside : progress.grouping = .outside) (empty : group.parameters = []) :
      Opens progress tag [] { progress with grouping := .inside group }
  | droppedParameter (element : tag.element? = some .parameter) :
      Opens progress tag [.parameterDropped] progress
  | parameter (group : ParameterGroup) (name : String) (id : Int32)
      (element : tag.element? = some .parameter) (inside : progress.grouping = .inside group) :
      Opens progress tag [] { progress with grouping := .inside (group.push name id) }
  | amp (index : Int32) (name : String) (element : tag.element? = some .amp) :
      Opens progress tag
        ((progress.device.amps.get? index).map (.entryReplaced Element.amp.name index)).toList
        { progress with device := progress.device.addAmp index name }
  | cab (index : Int32) (name : String) (element : tag.element? = some .cab) :
      Opens progress tag
        ((progress.device.cabs.get? index).map (.entryReplaced Element.cab.name index)).toList
        { progress with device := progress.device.addCab index name }

open Traced (ofExcept_bind_eq_ok_iff pure_eq_ok_iff bind_eq_ok_iff)

theorem of_openInstance (element : tag.element? = some .poolInstance)
    (h : progress.openInstance tag = ⟨notes, .ok after⟩) : Opens progress tag notes after := by
  obtain ⟨attributes, -, h⟩ := ofExcept_bind_eq_ok_iff.mp h
  obtain ⟨typeId, -, h⟩ := ofExcept_bind_eq_ok_iff.mp h
  cases typeId with
  | none =>
      cases h
      exact .ignoredInstance _ element
  | some typeId =>
      obtain ⟨id, -, h⟩ := ofExcept_bind_eq_ok_iff.mp h
      obtain ⟨name, -, h⟩ := ofExcept_bind_eq_ok_iff.mp h
      cases h
      exact .block _ element

theorem of_openGroup (element : tag.element? = some .group)
    (h : progress.openGroup tag = ⟨notes, .ok after⟩) : Opens progress tag notes after := by
  rw [openGroup] at h
  split at h
  next houtside =>
    obtain ⟨attributes, -, h⟩ := ofExcept_bind_eq_ok_iff.mp h
    obtain ⟨typeId, -, h⟩ := ofExcept_bind_eq_ok_iff.mp h
    cases typeId with
    | none =>
        cases h
        exact .ignoredGroup _ element houtside
    | some typeId =>
        obtain ⟨name, -, h⟩ := ofExcept_bind_eq_ok_iff.mp h
        obtain ⟨pending, -, h⟩ := ofExcept_bind_eq_ok_iff.mp h
        cases h
        exact .group _ element houtside rfl
  next => cases h

theorem of_openParameter (element : tag.element? = some .parameter)
    (h : progress.openParameter tag = ⟨notes, .ok after⟩) : Opens progress tag notes after := by
  rw [openParameter] at h
  split at h
  next group hinside =>
    obtain ⟨attributes, -, h⟩ := ofExcept_bind_eq_ok_iff.mp h
    obtain ⟨id, -, h⟩ := ofExcept_bind_eq_ok_iff.mp h
    obtain ⟨name, -, h⟩ := ofExcept_bind_eq_ok_iff.mp h
    cases h
    exact .parameter group name id element hinside
  next =>
    cases h
    exact .droppedParameter element

theorem of_openEntry {element : Element} {catalog : Catalog} {add : Int32 → String → Progress}
    (h : openEntry element catalog add tag = ⟨notes, .ok after⟩) :
    ∃ index name, notes = ((catalog.get? index).map (.entryReplaced element.name index)).toList ∧
      after = add index name := by
  obtain ⟨attributes, -, h⟩ := ofExcept_bind_eq_ok_iff.mp h
  obtain ⟨index, -, h⟩ := ofExcept_bind_eq_ok_iff.mp h
  obtain ⟨name, -, h⟩ := ofExcept_bind_eq_ok_iff.mp h
  refine ⟨index, name, ?_⟩
  split at h
  next hnone =>
    cases h
    exact ⟨by rw [hnone]; rfl, rfl⟩
  next previous hprevious =>
    cases h
    exact ⟨by rw [hprevious]; rfl, rfl⟩

theorem of_openElement (h : progress.openElement tag = ⟨notes, .ok after⟩) :
    Opens progress tag notes after := by
  rw [openElement] at h
  split at h
  next hnone =>
    cases h
    exact .unknown hnone
  next element => exact of_openInstance element h
  next element => exact of_openGroup element h
  next element => exact of_openParameter element h
  next element =>
    obtain ⟨index, name, rfl, rfl⟩ := of_openEntry h
    exact .amp index name element
  next element =>
    obtain ⟨index, name, rfl, rfl⟩ := of_openEntry h
    exact .cab index name element

-- Both catalogs are in order.
structure Ordered (progress : Progress) : Prop where
  amps : progress.device.amps.Ascending
  cabs : progress.device.cabs.Ascending

theorem Opens.ordered (h : Opens progress tag notes after) (hordered : progress.Ordered) :
    after.Ordered := by
  cases h with
  | amp index name => exact ⟨hordered.amps.insert index name, hordered.cabs⟩
  | cab index name => exact ⟨hordered.amps, hordered.cabs.insert index name⟩
  | _ => exact ⟨hordered.amps, hordered.cabs⟩

-- The elements have all become items, or there are notes about them.
def Balanced (before : Progress) (elements : List Element) (notes : List Note)
    (after : Progress) : Prop :=
  ∀ element, after.count element + (notes.filterMap Note.loss?).count element =
    before.count element + elements.count element

namespace Balanced

theorem refl (progress : Progress) : Balanced progress [] [] progress := fun _ => rfl

theorem trans {elements others : List Element} (h : Balanced before elements notes middle)
    (hlater : Balanced middle others more after) :
    Balanced before (elements ++ others) (notes ++ more) after := by
  intro element
  have hfirst := h element
  have hsecond := hlater element
  rw [List.filterMap_append, List.count_append, List.count_append]
  omega

end Balanced

theorem count_replaced (element : Element) (index : Int32) (previous : Option String)
    (other : Element) :
    ((previous.map (Note.entryReplaced element.name index)).toList.filterMap
      Note.loss?).count other = if element = other then previous.toList.length else 0 := by
  cases previous <;> simp [Note.loss?, Element.ofName?_name, List.count_singleton]

theorem Opens.balanced (h : Opens progress tag notes after) (hordered : progress.Ordered) :
    Balanced progress tag.element?.toList notes after := by
  intro other
  cases h with
  | unknown hnone => rw [hnone]; rfl
  | ignoredInstance name element => rw [element]; rfl
  | block block element =>
      rw [element]
      cases other <;> simp [count, Device.count, addBlock, Nat.add_right_comm]
  | ignoredGroup name element houtside =>
      rw [element]
      cases other <;> simp [count, Note.loss?, houtside, groupingCount]
  | group group element houtside hempty =>
      rw [element]
      cases other <;> simp [count, houtside, groupingCount, hempty]
  | droppedParameter element => rw [element]; rfl
  | parameter group name id element hinside =>
      rw [element]
      cases other <;> simp [count, hinside, groupingCount, ParameterGroup.push, Nat.add_assoc]
  | amp index name element =>
      rw [element]
      have hsize := Catalog.size_insert hordered.amps index name
      rw [count_replaced]
      cases other with
      | amp =>
          simp only [count, Device.count, addAmp, if_pos]
          rw [Nat.add_right_comm, hsize, Nat.add_right_comm]
          rfl
      | _ => rfl
  | cab index name element =>
      rw [element]
      have hsize := Catalog.size_insert hordered.cabs index name
      rw [count_replaced]
      cases other with
      | cab =>
          simp only [count, Device.count, addCab, if_pos]
          rw [Nat.add_right_comm, hsize, Nat.add_right_comm]
          rfl
      | _ => rfl

-- The warning about a group whose bypass parameter is not among its parameters.
def warning? (group : ParameterGroup) : Option Note :=
  if group.bypassUnmatched then some (.bypassUnmatched group.name group.typeId) else none

-- The end of an element never fails, and only that of a group may lead to a warning.
theorem closeElement_eq (progress : Progress) (tag : Tag) :
    progress.closeElement tag.name =
      ⟨if tag.isGroup then (closing progress.grouping).filterMap warning? else [],
        .ok (progress.closed tag)⟩ := by
  have houtcome := closeElement_eq_ok_iff.mpr (Eq.refl (progress.closed tag))
  have hname : Element.ofName? tag.name = tag.element? := rfl
  suffices hnotes : (progress.closeElement tag.name).notes =
      if tag.isGroup then (closing progress.grouping).filterMap warning? else [] by
    rw [← hnotes, ← houtcome]
  rw [closeElement, hname]
  by_cases hgroup : tag.element? = some .group
  · simp only [Tag.isGroup, hgroup]
    cases progress.grouping with
    | outside => rfl
    | untyped => rfl
    | inside group => cases hu : group.bypassUnmatched <;> simp [closing, warning?, hu] <;> rfl
  · simp [Tag.isGroup, hgroup]
    rfl

theorem losses_warnings (groups : List ParameterGroup) :
    (groups.filterMap warning?).filterMap Note.loss? = [] := by
  rw [List.filterMap_filterMap, List.filterMap_eq_nil_iff]
  intro group _
  rw [warning?]
  split <;> rfl

theorem closed_ordered (hordered : progress.Ordered) (tag : Tag) :
    (progress.closed tag).Ordered := by
  rw [closed]
  split
  · exact ⟨hordered.amps, hordered.cabs⟩
  · exact hordered

-- The end of a group makes its block type of it.
theorem closed_balanced (progress : Progress) (tag : Tag) :
    Balanced progress []
      (if tag.isGroup then (closing progress.grouping).filterMap warning? else [])
      (progress.closed tag) := by
  intro element
  rw [closed]
  split
  next =>
    rw [losses_warnings]
    cases hgrouping : progress.grouping <;> cases element <;>
      simp [count, groupingCount, hgrouping, Device.count, extend, Catalog.insertAll,
        ParameterGroup.close]
  next => rfl

-- The warnings among the notes.
def warnings (notes : List Note) : List Note := notes.filter (·.level = .warn)

theorem warnings_append (notes more : List Note) :
    warnings (notes ++ more) = warnings notes ++ warnings more := List.filter_append ..

theorem Opens.warnings_eq_nil (h : Opens progress tag notes after) : warnings notes = [] := by
  cases h with
  | amp index => cases progress.device.amps.get? index <;> rfl
  | cab index => cases progress.device.cabs.get? index <;> rfl
  | _ => rfl

theorem warnings_filterMap (groups : List ParameterGroup) :
    warnings (groups.filterMap warning?) = groups.filterMap warning? := by
  refine List.filter_eq_self.mpr fun note hnote => ?_
  obtain ⟨group, -, hwarning⟩ := List.mem_filterMap.mp hnote
  rw [warning?] at hwarning
  split at hwarning
  · cases hwarning
    rfl
  · cases hwarning

-- What is warned of at the end of an element is not to be warned of any more.
theorem warnings_closed (progress : Progress) (outer : List Tag) (tag : Tag) (rest : List Event) :
    warnings (if tag.isGroup then (closing progress.grouping).filterMap warning? else []) ++
        (groupsAhead (progress.closed tag).grouping outer rest).filterMap warning? =
      (groupsAhead progress.grouping (tag :: outer) (.closes tag.name :: rest)).filterMap
        warning? := by
  rw [closed]
  split
  next hgroup =>
    rw [warnings_filterMap, groupsAhead_closes _ outer hgroup, List.filterMap_append]
  next hgroup =>
    rw [groupsAhead_closes_other _ outer hgroup]
    rfl

-- The known elements that begin in a stretch of a document.
def elements (events : List Event) : List Element := (tags events).filterMap Tag.element?

theorem elements_singleton {event : Event} (h : event.tag? = some tag) :
    elements [event] = tag.element?.toList := by
  rw [elements, tags, List.filterMap_cons_some h, filterMap_cons_toList]
  exact List.append_nil _

theorem elements_cons (event : Event) (rest : List Event) :
    elements (event :: rest) = elements [event] ++ elements rest := by
  have htags : tags (event :: rest) = tags [event] ++ tags rest := by cases event <;> rfl
  rw [elements, htags, List.filterMap_append]
  rfl

-- A stretch of a document is accounted for: its elements have become items or there are notes
-- about them, and the warnings are those about the groups that were closed.
structure Accounted (progress : Progress) (opened : List Tag) (events : List Event)
    (notes : List Note) (next : Progress) : Prop where
  ordered : next.Ordered
  balanced : Balanced progress (elements events) notes next
  warnings : ∀ rest, warnings notes ++
      (groupsAhead next.grouping (events.foldl Event.openAfter opened) rest).filterMap warning? =
    (groupsAhead progress.grouping opened (events ++ rest)).filterMap warning?

variable {opened : List Tag} {event : Event} {events : List Event} {next : Progress}

theorem Follows.accounted_onEvent (h : progress.Follows opened) (hordered : progress.Ordered)
    (hfits : ∀ name, event = .closes name → ∃ tag outer, opened = tag :: outer ∧ tag.name = name)
    (hevent : progress.onEvent event = ⟨notes, .ok next⟩) :
    progress.Accounted opened [event] notes next := by
  obtain ⟨hsound, hpassed⟩ := (h.onEvent_eq_ok_iff hfits).mp (congrArg Traced.outcome hevent)
  cases event with
  | opens tag =>
      have hopens := of_openElement hevent
      have hbalanced := hopens.balanced ⟨hordered.amps, hordered.cabs⟩
      refine ⟨hopens.ordered ⟨hordered.amps, hordered.cabs⟩, ?_, fun rest => ?_⟩
      · rw [elements_singleton rfl]
        exact hbalanced
      · rw [hopens.warnings_eq_nil, ← hpassed]
        exact congrArg (List.filterMap warning?) (groupsAhead_opens h.within (hsound tag rfl) rest)
  | selfCloses tag =>
      obtain ⟨middle, first, later, hopened, hclosed, rfl⟩ := bind_eq_ok_iff.mp hevent
      have hopens := of_openElement hopened
      obtain rfl := ((openElement_eq_ok_iff h.within).mp (congrArg Traced.outcome hopened)).2
      rw [closeElement_eq] at hclosed
      cases hclosed
      have hmiddle := hopens.ordered hordered
      refine ⟨closed_ordered hmiddle tag, ?_, fun rest => ?_⟩
      · rw [elements_singleton rfl, ← List.append_nil tag.element?.toList]
        exact (hopens.balanced hordered).trans (closed_balanced _ tag)
      · have hcloses := warnings_closed (progress.after tag) opened tag rest
        have hahead := groupsAhead_opens h.within (hsound tag rfl) (.closes tag.name :: rest)
        rw [groupsAhead_selfCloses] at hahead
        rw [warnings_append, hopens.warnings_eq_nil]
        exact hcloses.trans (congrArg (List.filterMap warning?) hahead)
  | closes name =>
      obtain ⟨tag, outer, rfl, rfl⟩ := hfits name rfl
      simp only [onEvent, h.depth, List.length_cons, closeElement_eq] at hevent
      cases hevent
      have hmoved : { progress with depth := outer.length }.Ordered :=
        ⟨hordered.amps, hordered.cabs⟩
      refine ⟨closed_ordered hmoved tag, ?_, fun rest => ?_⟩
      · exact closed_balanced { progress with depth := outer.length } tag
      · exact warnings_closed { progress with depth := outer.length } outer tag rest
  | aside =>
      obtain ⟨rfl, rfl⟩ := pure_eq_ok_iff.mp hevent
      exact ⟨hordered, .refl progress, fun rest => by cases progress.grouping <;> rfl⟩

-- What is accounted for piece by piece is accounted for as a whole.
theorem Accounted.cons (h : progress.Accounted opened [event] notes middle)
    (hrest : middle.Accounted (event.openAfter opened) events more after) :
    progress.Accounted opened (event :: events) (notes ++ more) after := by
  refine ⟨hrest.ordered, ?_, fun rest => ?_⟩
  · rw [elements_cons]
    exact h.balanced.trans hrest.balanced
  · rw [warnings_append, List.append_assoc, List.foldl_cons, hrest.warnings rest]
    exact h.warnings (events ++ rest)

theorem Follows.accounted (h : progress.Follows opened) (hordered : progress.Ordered)
    (hfits : Fits opened events) (hrun : progress.onEvents events = ⟨notes, .ok next⟩) :
    progress.Accounted opened events notes next := by
  induction events generalizing progress opened notes with
  | nil =>
      obtain ⟨rfl, rfl⟩ := pure_eq_ok_iff.mp hrun
      exact ⟨hordered, .refl progress, fun _ => rfl⟩
  | cons event rest ih =>
      obtain ⟨hfit, hfits⟩ := hfits
      obtain ⟨middle, first, later, hevent, hrest, rfl⟩ := bind_eq_ok_iff.mp hrun
      have hfirst := h.accounted_onEvent hordered hfit hevent
      obtain ⟨hsound, rfl⟩ := (h.onEvent_eq_ok_iff hfit).mp (congrArg Traced.outcome hevent)
      exact hfirst.cons (ih (h.passed hsound) hfirst.ordered hfits hrest)

end Device.Progress

end EffectTables
