import EffectTables.Code.Tables
import EffectTables.Device.Defect
import EffectTables.Device.ReadError
import EffectTables.Files.Fault
import EffectTables.Settings

namespace EffectTables

inductive Failure where
  | document (error : ReadError)
  | unsound (defect : Defect)
  | settings (fault : Settings.Fault)
  | dangling (block : Code.Dangling)
  | noInput (path : String)
  | unread (path : String) (fault : Files.Fault)
  | unwritten (path : String) (fault : Files.Fault)
  | unremoved (path : String) (fault : Files.Fault)
  deriving DecidableEq

namespace Failure

def message : Failure → String
  | document error => "schema parse error: " ++ error.message
  | unsound defect => "schema error: " ++ defect.message
  | settings fault => "invalid configuration: " ++ fault.message
  | dangling block => (Defect.unknownType block.block block.typeId).message
  | noInput path => path ++ " doesn't exist"
  | unread path fault => "failed to read " ++ path ++ ": " ++ fault.message
  | unwritten path fault => "failed to write " ++ path ++ ": " ++ fault.message
  | unremoved path fault => "failed to remove " ++ path ++ ": " ++ fault.message

-- The failure and what lies behind it, from the outside in.
def trail (failure : Failure) : List String :=
  failure.message ::
    match failure with
    | document error => error.trail
    | unsound defect => [defect.message]
    | unread _ fault | unwritten _ fault | unremoved _ fault => [fault.message]
    | _ => []

end Failure

end EffectTables
