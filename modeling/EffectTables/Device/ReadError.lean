import EffectTables.Markup.Fault
import EffectTables.Markup.Reference

namespace EffectTables

-- The elements that say something about a device.
inductive Element where
  | poolInstance
  | group
  | parameter
  | amp
  | cab
  deriving DecidableEq

namespace Element

def name : Element → String
  | poolInstance => "EffectPoolInstance"
  | group => "EffectParameters"
  | parameter => "EffectParameter"
  | amp => "Amp"
  | cab => "Cab"

def ofName? (text : String) : Option Element :=
  [poolInstance, group, parameter, amp, cab].find? (·.name == text)

end Element

inductive StructureFault where
  | unexpectedClosing
  | nestedGroup
  | unclosed (count : Nat)
  deriving DecidableEq

-- Why a document does not describe a device.
inductive ReadError where
  | markup (fault : Markup.Fault)
  | reference (fault : Markup.Reference.Fault)
  | missing (element : Element) (key : String)
  | noInteger (element : Element) (key value : String)
  | malformed (fault : StructureFault)
  deriving DecidableEq

def StructureFault.message : StructureFault → String
  | unexpectedClosing => "unexpected closing tag"
  | nestedGroup => "nested <" ++ Element.group.name ++ "> element"
  | unclosed count => "document ended with " ++ toString count ++ " unclosed element(s)"

namespace ReadError

def message : ReadError → String
  | markup fault => "XML parsing error: " ++ fault.message
  | reference fault => "XML escape error: " ++ fault.message
  | missing element key =>
      "missing required attribute '" ++ key ++ "' on element '" ++ element.name ++ "'"
  | noInteger element key value =>
      "invalid value '" ++ value ++ "' for attribute '" ++ key ++ "' on element '" ++
        element.name ++ "'"
  | malformed fault => "invalid document structure: " ++ fault.message

-- The error and what lies behind it, from the outside in.
def trail (error : ReadError) : List String :=
  error.message ::
    match error with
    | markup fault => [fault.message, fault.detail]
    | reference fault => fault.trail
    | _ => []

end ReadError

end EffectTables
