import EffectTables.Settings

namespace EffectTables.Code.Layout

def banner : String := "// WARNING: Do not edit, this file is generated by afxgen!"

def scopeStart (settings : Settings) : String := "namespace " ++ settings.scope ++ " \x7b"

def scopeEnd (settings : Settings) : String := "\x7d  // namespace " ++ settings.scope

-- The parts of the header that depend on the device.
structure HeaderParts where
  enumerations : String
  common : String
  perType : String

-- The parts of the source file that depend on the device.
structure SourceParts where
  common : String
  perType : String

-- A part about the single block types is left out if it is empty.
def header (settings : Settings) (parts : HeaderParts) : String :=
  "\n".intercalate
    ([banner, "#pragma once", "#ifndef " ++ settings.guard, "#define " ++ settings.guard, "",
        scopeStart settings, "", parts.enumerations, "", parts.common, "",
        "// Forward declarations for block parameter lookups."] ++
      (if parts.perType = "" then [] else [parts.perType]) ++
      ["", scopeEnd settings, "", "#endif  // " ++ settings.guard, ""])

def source (settings : Settings) (parts : SourceParts) : String :=
  "\n".intercalate
    ([banner, "", "#include \x22" ++ settings.headerName ++ "\x22", "", scopeStart settings, "",
        parts.common, "", "// Implementations of block parameter lookup functions."] ++
      (if parts.perType = "" then [] else ["", parts.perType]) ++
      ["", scopeEnd settings, ""])

end EffectTables.Code.Layout
