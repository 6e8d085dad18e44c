import EffectTables.Proofs.Document.Complete
import EffectTables.Proofs.Document.Reading
import EffectTables.Proofs.Markup.Continuation

namespace EffectTables

namespace Markup

theorem faultless_of_nested {names : List String} {fault : Option Fault} {events : List Event}
    (h : (nested names fault events).fault = none) :
    fault = none ∧ (nested names fault events).items = events := by
  induction events generalizing names with
  | nil => exact ⟨h, rfl⟩
  | cons event rest ih =>
      have hstep : ∀ {names : List String},
          ((nested names fault rest).cons event).fault = none →
            fault = none ∧ ((nested names fault rest).cons event).items = event :: rest :=
        fun hrest => (ih hrest).imp_right (congrArg (List.cons event))
      cases event with
      | opens tag => exact hstep h
      | selfCloses tag => exact hstep h
      | aside => exact hstep h
      | closes found =>
          cases names with
          | nil => cases h
          | cons name outer =>
              rw [nested] at h ⊢
              by_cases hname : name = found
              · rw [if_pos hname] at h ⊢
                exact hstep h
              · rw [if_neg hname] at h
                cases h

-- Behind a document that is complete, another one is read as it is read alone.
theorem read_append {first : String} (h : (read first).Sound) (second : String) :
    read (first ++ second) =
      ⟨(read first).items ++ (read second).items, (read second).fault⟩ := by
  obtain ⟨hfault, hitems⟩ := faultless_of_nested h.faultless
  have hlexes := lexes_of_faultless hfault second.toList
  have hclosed : ((events first.toList).items).foldl Event.openAfter [] = [] := by
    rw [← hitems]
    exact h.closed
  have hfits : Fits [] (events first.toList).items := hitems ▸ read_fits first
  have hnested := nested_append (events second.toList).fault hfits (events second.toList).items
  rw [hclosed] at hnested
  have hfirst : (read first).items = (events first.toList).items := hitems
  rw [hfirst, read, String.toList_append, hlexes]
  exact hnested

end Markup

namespace Device.Progress

open Markup (Event Tag Fits Findings)
open Traced (map_outcome_bind_congr map_outcome_bind_right)

-- What the reader holds beside the device. No error depends on anything else.
def stand (progress : Progress) : Grouping × Nat := (progress.grouping, progress.depth)

section

variable (device other : Device) (grouping : Grouping) (depth : Nat)

theorem stand_openInstance (tag : Tag) :
    (openInstance ⟨device, grouping, depth⟩ tag).outcome.map stand =
      (openInstance ⟨other, grouping, depth⟩ tag).outcome.map stand := by
  refine map_outcome_bind_right fun attributes => map_outcome_bind_right fun typeId => ?_
  cases typeId with
  | none => rfl
  | some typeId => exact map_outcome_bind_right fun _ => map_outcome_bind_right fun _ => rfl

theorem stand_openGroup (tag : Tag) :
    (openGroup ⟨device, grouping, depth⟩ tag).outcome.map stand =
      (openGroup ⟨other, grouping, depth⟩ tag).outcome.map stand := by
  cases grouping with
  | outside =>
      refine map_outcome_bind_right fun attributes => map_outcome_bind_right fun typeId => ?_
      cases typeId with
      | none => rfl
      | some typeId => exact map_outcome_bind_right fun _ => map_outcome_bind_right fun _ => rfl
  | inside group => rfl
  | untyped => rfl

theorem stand_openParameter (tag : Tag) :
    (openParameter ⟨device, grouping, depth⟩ tag).outcome.map stand =
      (openParameter ⟨other, grouping, depth⟩ tag).outcome.map stand := by
  cases grouping with
  | outside => rfl
  | inside group =>
      exact map_outcome_bind_right fun _ => map_outcome_bind_right fun _ =>
        map_outcome_bind_right fun _ => rfl
  | untyped => rfl

-- Whether an entry replaces another one makes no difference.
theorem stand_openEntry {element : Element} {catalog others : Catalog}
    {add add' : Int32 → String → Progress}
    (h : ∀ index name, (add index name).stand = (add' index name).stand) (tag : Tag) :
    (openEntry element catalog add tag).outcome.map stand =
      (openEntry element others add' tag).outcome.map stand := by
  refine map_outcome_bind_right fun attributes => map_outcome_bind_right fun index =>
    map_outcome_bind_right fun name => ?_
  cases catalog.get? index <;> cases others.get? index <;>
    exact congrArg Except.ok (h index name)

theorem stand_openElement (tag : Tag) :
    (openElement ⟨device, grouping, depth⟩ tag).outcome.map stand =
      (openElement ⟨other, grouping, depth⟩ tag).outcome.map stand := by
  unfold openElement
  cases Element.ofName? tag.name with
  | none => rfl
  | some element =>
      cases element with
      | poolInstance => exact stand_openInstance device other grouping depth tag
      | group => exact stand_openGroup device other grouping depth tag
      | parameter => exact stand_openParameter device other grouping depth tag
      | amp =>
          refine stand_openEntry ?_ tag
          exact fun _ _ => rfl
      | cab =>
          refine stand_openEntry ?_ tag
          exact fun _ _ => rfl

theorem stand_closeElement {progress other : Progress} (h : progress.stand = other.stand)
    (name : String) :
    (progress.closeElement name).outcome.map stand =
      (other.closeElement name).outcome.map stand := by
  obtain ⟨device, grouping, depth⟩ := progress
  obtain ⟨others, _, _⟩ := other
  cases h
  unfold closeElement
  split
  · cases grouping with
    | outside => rfl
    | inside group =>
        cases hunmatched : group.bypassUnmatched <;> simp only [hunmatched] <;> rfl
    | untyped => rfl
  · rfl

end

variable {progress other : Progress}

-- Wherever the reader stands, an event leads to the same error or to the same stand.
theorem stand_onEvent (h : progress.stand = other.stand) (event : Event) :
    (progress.onEvent event).outcome.map stand = (other.onEvent event).outcome.map stand := by
  obtain ⟨device, grouping, depth⟩ := progress
  obtain ⟨others, _, _⟩ := other
  cases h
  cases event with
  | opens tag => exact stand_openElement device others grouping (depth + 1) tag
  | selfCloses tag =>
      refine map_outcome_bind_congr (stand_openElement device others grouping depth tag) ?_
      exact fun _ _ hstand => stand_closeElement hstand tag.name
  | closes name =>
      cases depth with
      | zero => rfl
      | succ depth =>
          have hstand : (⟨device, grouping, depth⟩ : Progress).stand =
              (⟨others, grouping, depth⟩ : Progress).stand := rfl
          exact stand_closeElement hstand name
  | aside => rfl

theorem stand_onEvents (h : progress.stand = other.stand) (events : List Event) :
    (progress.onEvents events).outcome.map stand = (other.onEvents events).outcome.map stand := by
  induction events generalizing progress other with
  | nil => exact congrArg Except.ok h
  | cons event rest ih => exact map_outcome_bind_congr (stand_onEvent h event) fun _ _ => ih

-- The end of a document, from which only the device is taken.
def conclude (fault : Option Markup.Fault) (progress : Progress) : Traced ReadError Device :=
  match fault with
  | some fault => Traced.fail (.markup fault)
  | none => progress.finish

theorem conclude_congr (h : progress.stand = other.stand) (fault : Option Markup.Fault) :
    (progress.conclude fault).outcome.map (fun _ => ()) =
      (other.conclude fault).outcome.map fun _ => () := by
  have hdepth : progress.depth = other.depth := congrArg Prod.snd h
  cases fault with
  | some fault => rfl
  | none =>
      simp only [conclude, finish, hdepth]
      split <;> rfl

-- What was read before is behind the reader.
theorem outcome_onEvents_append {events : List Event} {next : Progress}
    (h : (progress.onEvents events).outcome = .ok next) (more : List Event) :
    (progress.onEvents (events ++ more)).outcome = (next.onEvents more).outcome := by
  induction events generalizing progress with
  | nil =>
      cases h
      rfl
  | cons event rest ih =>
      obtain ⟨middle, hmiddle, hnext⟩ := Traced.outcome_bind_eq_ok_iff.mp h
      rw [← ih hnext]
      exact Traced.outcome_bind_of_ok hmiddle _

theorem Follows.onEvents {opened : List Tag} {events : List Event} {next : Progress}
    (h : progress.Follows opened) (hfits : Fits opened events)
    (hnext : (progress.onEvents events).outcome = .ok next) :
    next.Follows (events.foldl Event.openAfter opened) := by
  induction events generalizing progress opened with
  | nil =>
      cases hnext
      exact h
  | cons event rest ih =>
      obtain ⟨hname, hfits⟩ := hfits
      obtain ⟨middle, hmiddle, hnext⟩ := Traced.outcome_bind_eq_ok_iff.mp hnext
      obtain ⟨hsound, rfl⟩ := (h.onEvent_eq_ok_iff hname).mp hmiddle
      exact ih (h.passed hsound) hfits hnext

-- At the end of a document the reader stands where it began.
theorem stand_of_conclude {events : List Event} {next : Progress} {fault : Option Markup.Fault}
    {device : Device} (hfits : Fits [] events)
    (hnext : (({} : Progress).onEvents events).outcome = .ok next)
    (hend : (next.conclude fault).outcome = .ok device) :
    next.stand = ({} : Progress).stand := by
  have hfollows := follows_nil.onEvents hfits hnext
  have hdepth : next.depth = 0 := by
    cases fault with
    | some fault => cases hend
    | none => exact (finish_eq_ok_iff.mp hend).1
  have hopened := hfollows.depth.symm.trans hdepth
  rw [List.length_eq_zero_iff] at hopened
  have hgrouping := Within.nil (hopened ▸ hfollows.within)
  rw [stand, hgrouping, hdepth]
  rfl

end Device.Progress

namespace Device

open Markup (Event Findings Fits)

theorem ofEvents_append {first second : Findings Event} {device : Device}
    (hfits : Fits [] first.items) (h : (ofEvents first).outcome = .ok device) :
    (ofEvents ⟨first.items ++ second.items, second.fault⟩).outcome.map (fun _ => ()) =
      (ofEvents second).outcome.map fun _ => () := by
  obtain ⟨progress, hprogress, hend⟩ := Traced.outcome_bind_eq_ok_iff.mp h
  have hstand := Progress.stand_of_conclude hfits hprogress hend
  have hrun : (({} : Progress).onEvents (first.items ++ second.items)).outcome.map Progress.stand =
      (({} : Progress).onEvents second.items).outcome.map Progress.stand := by
    rw [Progress.outcome_onEvents_append hprogress]
    exact Progress.stand_onEvents hstand second.items
  exact Traced.map_outcome_bind_congr hrun fun _ _ hstand =>
    Progress.conclude_congr hstand second.fault

-- The device of two documents, one after the other. Where both say something under one number,
-- the second one counts.
structure Joins (whole first second : Device) : Prop where
  blocks : whole.blocks = first.blocks ++ second.blocks
  blockTypes : whole.blockTypes = first.blockTypes ++ second.blockTypes
  ampsAscending : whole.amps.Ascending
  amps : ∀ index, whole.amps.get? index = (second.amps.get? index).or (first.amps.get? index)
  cabsAscending : whole.cabs.Ascending
  cabs : ∀ index, whole.cabs.get? index = (second.cabs.get? index).or (first.cabs.get? index)
  types : ∀ typeId,
    whole.blockType? typeId = (second.blockType? typeId).or (first.blockType? typeId)

theorem joins_append (description other : Description) :
    (description ++ other).device.Joins description.device other.device := by
  have hwhole := (description ++ other).device_records
  have hfirst := description.device_records
  have hsecond := other.device_records
  refine ⟨?_, ?_, hwhole.ampsAscending, fun index => ?_, hwhole.cabsAscending, fun index => ?_,
    fun typeId => ?_⟩
  · rw [hwhole.blocks, hfirst.blocks, hsecond.blocks, Description.slots_append, List.map_append]
  · rw [hwhole.blockTypes, hfirst.blockTypes, hsecond.blockTypes, Description.groups_append,
      List.map_append]
  · rw [hwhole.amps, hfirst.amps, hsecond.amps, Description.amps_append, Catalog.lastName?_append]
  · rw [hwhole.cabs, hfirst.cabs, hsecond.cabs, Description.cabs_append, Catalog.lastName?_append]
  · rw [hwhole.types, hfirst.types, hsecond.types, Description.groups_append, List.reverse_append,
      List.find?_append, Option.map_or]

-- A document behind one that can be read is read as it is read alone, with the same error or to
-- the end.
theorem read_concatenated {first : String} {device : Device}
    (h : (read first).outcome = .ok device) (second : String) :
    match (read second).outcome with
    | .ok other => ∃ whole, (read (first ++ second)).outcome = .ok whole ∧ whole.Joins device other
    | .error error => (read (first ++ second)).outcome = .error error := by
  obtain ⟨hsound, hdevice⟩ := read_eq_ok_iff.mp h
  have hwhole : (read (first ++ second)).outcome.map (fun _ => ()) =
      (read second).outcome.map fun _ => () := by
    rw [read, Markup.read_append hsound]
    exact ofEvents_append (Markup.read_fits first) h
  cases hsecond : (read second).outcome with
  | error error =>
      rw [hsecond] at hwhole
      cases hread : (read (first ++ second)).outcome with
      | error other =>
          rw [hread] at hwhole
          cases hwhole
          rfl
      | ok whole =>
          rw [hread] at hwhole
          cases hwhole
  | ok other =>
      rw [hsecond] at hwhole
      cases hread : (read (first ++ second)).outcome with
      | error error =>
          rw [hread] at hwhole
          cases hwhole
      | ok whole =>
          obtain ⟨-, rfl⟩ := read_eq_ok_iff.mp hread
          obtain ⟨-, rfl⟩ := read_eq_ok_iff.mp hsecond
          refine ⟨_, rfl, ?_⟩
          rw [Markup.read_append hsound, Description.ofEvents_append hsound.complete, hdevice]
          exact joins_append _ _

-- A document that ends in the middle of a line, one that begins with the mark of the byte order and
-- names the same amplifier again, and one that closes what it did not open.
def firstHalf : String := "<Amp id='1' name='Plexi'/>\nand so"

def secondHalf : String := "\uFEFF<?xml version='1.0'?>\n<Amp id='1' name='Recto'/>"

def looseHalf : String := "<Amp id='2' name='Recto'/></Amps>"

theorem read_concatenated_halves :
    ∃ device, (read firstHalf).outcome = .ok device ∧
      (match (read secondHalf).outcome with
        | .ok other =>
            ∃ whole, (read (firstHalf ++ secondHalf)).outcome = .ok whole ∧ whole.Joins device other
        | .error error => (read (firstHalf ++ secondHalf)).outcome = .error error) ∧
      match (read looseHalf).outcome with
      | .ok other =>
          ∃ whole, (read (firstHalf ++ looseHalf)).outcome = .ok whole ∧ whole.Joins device other
      | .error error => (read (firstHalf ++ looseHalf)).outcome = .error error := by
  have hok : (read firstHalf).outcome.isOk := by decide +kernel
  obtain ⟨device, hdevice⟩ := Outcome.exists_of_isOk hok
  exact ⟨device, hdevice, read_concatenated hdevice secondHalf,
    read_concatenated hdevice looseHalf⟩

end Device

end EffectTables
