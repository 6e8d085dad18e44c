import EffectTables.Code.Enumeration
import EffectTables.Code.Layout
import EffectTables.Device.Document
import EffectTables.Failure

namespace EffectTables

structure Sources where
  header : String
  source : String
  deriving DecidableEq

namespace Sources

def headerParts (device : Device) (tables : Code.Tables) : Code.Layout.HeaderParts where
  enumerations := "\n\n".intercalate ((Code.Enumeration.ofDevice device).map (·.text))
  common := "\n".intercalate (tables.common.map (·.declaration))
  perType := "\n".intercalate (tables.typeParameterNames.map (·.declaration))

def sourceParts (tables : Code.Tables) : Code.Layout.SourceParts where
  common := "\n\n".intercalate (tables.common.map (·.definition))
  perType := "\n\n".intercalate (tables.typeParameterNames.map (·.definition))

-- The files for a device, sound or not, as long as all its blocks have types.
def ofDevice (settings : Settings) (device : Device) : Except Failure Sources := do
  settings.validate.mapError .settings
  let tables ← (Code.Tables.ofDevice device).mapError .dangling
  return {
    header := Code.Layout.header settings (headerParts device tables)
    source := Code.Layout.source settings (sourceParts tables) }

-- The files for a document that describes a sound device.
def ofDocument (settings : Settings) (document : String) : Traced Failure Sources := do
  let device ← (Device.read document).mapError .document
  Traced.ofExcept (device.validate.mapError .unsound)
  Traced.ofExcept (ofDevice settings device)

end Sources

end EffectTables
