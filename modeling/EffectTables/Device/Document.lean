import EffectTables.Device.Basic
import EffectTables.Device.ReadError
import EffectTables.Markup.Stream
import EffectTables.Text.Numeral
import EffectTables.Traced

namespace EffectTables

namespace Device

-- The attributes of an element with their references replaced.
abbrev Attributes := List (String × String)

namespace Attributes

def decode (item : Markup.Attribute) : Except ReadError (String × String) :=
  match Markup.Reference.decode item.value with
  | .error fault => .error (.reference fault)
  | .ok value => .ok (item.key, String.ofList value)

-- The first fault from the left counts, in a value or between the attributes.
def ofFindings (found : Markup.Findings Markup.Attribute) : Except ReadError Attributes := do
  let attributes ← found.items.mapM decode
  match found.fault with
  | none => return attributes
  | some fault => throw (.markup fault)

def ofTag (tag : Markup.Tag) : Except ReadError Attributes :=
  ofFindings tag.attributes

def text (attributes : Attributes) (element : Element) (key : String) :
    Except ReadError String :=
  match attributes.lookup key with
  | none => .error (.missing element key)
  | some value => .ok value

def integer? (attributes : Attributes) (element : Element) (key : String) :
    Except ReadError (Option Int32) :=
  match attributes.lookup key with
  | none => .ok none
  | some value =>
      match Text.Decimal.read? value with
      | none => .error (.noInteger element key value)
      | some number => .ok (some number)

def integer (attributes : Attributes) (element : Element) (key : String) :
    Except ReadError Int32 := do
  match ← attributes.integer? element key with
  | none => throw (.missing element key)
  | some number => return number

end Attributes

-- Whether the reader is inside a parameter group. A group without a type has no parameters.
inductive Grouping where
  | outside
  | inside (group : ParameterGroup)
  | untyped

-- What the reader holds between two events: the device so far, the parameter group that is open,
-- and how many elements are open.
structure Progress where
  device : Device := {}
  grouping : Grouping := .outside
  depth : Nat := 0

namespace Progress

abbrev Step := Traced ReadError Progress

def openInstance (progress : Progress) (tag : Markup.Tag) : Step := do
  let attributes ← Traced.ofExcept (Attributes.ofTag tag)
  match ← Traced.ofExcept (attributes.integer? .poolInstance "typeID") with
  | none =>
      Traced.note (.instanceIgnored (attributes.lookup "name"))
      return progress
  | some typeId =>
      let id ← Traced.ofExcept (attributes.integer .poolInstance "id")
      let name ← Traced.ofExcept (attributes.text .poolInstance "name")
      return { progress with device := progress.device.addBlock { id, name, typeId } }

def openGroup (progress : Progress) (tag : Markup.Tag) : Step :=
  match progress.grouping with
  | .outside => do
      let attributes ← Traced.ofExcept (Attributes.ofTag tag)
      match ← Traced.ofExcept (attributes.integer? .group "typeID") with
      | none =>
          Traced.note (.groupIgnored (attributes.lookup "name"))
          return { progress with grouping := .untyped }
      | some typeId =>
          let name ← Traced.ofExcept (attributes.text .group "name")
          let pending ← Traced.ofExcept (attributes.integer? .group "bypassParam")
          return { progress with grouping := .inside { typeId, name, pending } }
  | _ => Traced.fail (.malformed .nestedGroup)

def openParameter (progress : Progress) (tag : Markup.Tag) : Step :=
  match progress.grouping with
  | .inside group => do
      let attributes ← Traced.ofExcept (Attributes.ofTag tag)
      let id ← Traced.ofExcept (attributes.integer .parameter "id")
      let name ← Traced.ofExcept (attributes.text .parameter "name")
      return { progress with grouping := .inside (group.push name id) }
  | _ => do
      Traced.note .parameterDropped
      return progress

-- An entry of one of the two catalogs, `catalog` being the one before the entry.
def openEntry (element : Element) (catalog : Catalog)
    (add : Int32 → String → Progress) (tag : Markup.Tag) : Step := do
  let attributes ← Traced.ofExcept (Attributes.ofTag tag)
  let index ← Traced.ofExcept (attributes.integer element "id")
  let name ← Traced.ofExcept (attributes.text element "name")
  match catalog.get? index with
  | none => return add index name
  | some previous =>
      Traced.note (.entryReplaced element.name index previous)
      return add index name

def openElement (progress : Progress) (tag : Markup.Tag) : Step :=
  match Element.ofName? tag.name with
  | none => return progress
  | some .poolInstance => progress.openInstance tag
  | some .group => progress.openGroup tag
  | some .parameter => progress.openParameter tag
  | some .amp =>
      openEntry .amp progress.device.amps
        (fun index name => { progress with device := progress.device.addAmp index name }) tag
  | some .cab =>
      openEntry .cab progress.device.cabs
        (fun index name => { progress with device := progress.device.addCab index name }) tag

-- The end of a group with a type adds the block type to the device.
def closeElement (progress : Progress) (name : String) : Step :=
  if Element.ofName? name = some .group then
    match progress.grouping with
    | .inside group => do
        if group.bypassUnmatched then
          Traced.note (.bypassUnmatched group.name group.typeId)
        return { progress with
          device := progress.device.addBlockType group.close
          grouping := .outside }
    | _ => return { progress with grouping := .outside }
  else return progress

def onEvent (progress : Progress) : Markup.Event → Step
  | .opens tag => { progress with depth := progress.depth + 1 }.openElement tag
  | .selfCloses tag => do
      let opened ← progress.openElement tag
      opened.closeElement tag.name
  | .closes name =>
      match progress.depth with
      | 0 => Traced.fail (.malformed .unexpectedClosing)
      | depth + 1 => { progress with depth := depth }.closeElement name
  | .aside => return progress

def onEvents (progress : Progress) : List Markup.Event → Step
  | [] => return progress
  | event :: rest => do
      let next ← progress.onEvent event
      next.onEvents rest

-- The device at the end of the document, where no element may be open.
def finish (progress : Progress) : Traced ReadError Device :=
  if progress.depth = 0 then do
    let device := progress.device
    Traced.note (.documentRead device.blocks.length device.blockTypes.length device.amps.size
      device.cabs.size)
    return device
  else Traced.fail (.malformed (.unclosed progress.depth))

end Progress

-- What the events of a document say, up to the first error. A fault of the markup counts after
-- all events before it.
def ofEvents (found : Markup.Findings Markup.Event) : Traced ReadError Device := do
  let progress ← ({} : Progress).onEvents found.items
  match found.fault with
  | some fault => Traced.fail (.markup fault)
  | none => progress.finish

-- Reads the description of a device. Only the five known elements and their attributes count.
def read (document : String) : Traced ReadError Device :=
  ofEvents (Markup.read document)

end Device

end EffectTables
