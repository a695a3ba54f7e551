import Devirt.Dispatch.Basic
import Devirt.Document.Basic

/-!
# Settings

What a user can configure, with defaults for everything. Every level of the settings refuses fields
that it does not have and fills in fields that are missing.
-/

namespace Devirt

namespace DiamondPolicy

def name : DiamondPolicy → String
  | discoveryOrder => "discovery_order"
  | strict => "strict"

def all : List DiamondPolicy := [discoveryOrder, strict]

def toDocument (p : DiamondPolicy) : Document := .text p.name

def ofDocument (format : Format) : Reader DiamondPolicy := fun d => do
  let word ← Document.unitVariant format (all.map name) d
  match all.find? (·.name = word) with
  | some p => return p
  | none => throw .mismatch

end DiamondPolicy

/-- How to log. -/
structure LoggingSettings where
  /-- A level, or directives that give levels to targets. -/
  level : String := "info"
  /-- Whether logs are lines of JSON. -/
  json : Bool := false
deriving DecidableEq

namespace LoggingSettings

def toDocument (s : LoggingSettings) : Document :=
  .record [("level", .text s.level), ("json", .bool s.json)]

def ofDocument (format : Format) : Reader LoggingSettings := fun d => do
  let f ← d.fields format [⟨"level", Reader.text.check⟩, ⟨"json", Reader.bool.check⟩] .refused
  let default : LoggingSettings := {}
  return ⟨← f.optional "level" .text default.level, ← f.optional "json" .bool default.json⟩

end LoggingSettings

/-- How to dispatch. -/
structure DispatchSettings where
  diamond : DiamondPolicy := .discoveryOrder
deriving DecidableEq

namespace DispatchSettings

def toDocument (s : DispatchSettings) : Document := .record [("diamond", s.diamond.toDocument)]

def ofDocument (format : Format) : Reader DispatchSettings := fun d => do
  let policy := DiamondPolicy.ofDocument format
  let f ← d.fields format [⟨"diamond", Reader.check policy⟩] .refused
  let default : DispatchSettings := {}
  return ⟨← f.optional "diamond" policy default.diamond⟩

end DispatchSettings

/-- Everything that can be configured. -/
structure Settings where
  logging : LoggingSettings := {}
  dispatch : DispatchSettings := {}
deriving DecidableEq

namespace Settings

def toDocument (s : Settings) : Document :=
  .record [("logging", s.logging.toDocument), ("dispatch", s.dispatch.toDocument)]

def ofDocument (format : Format) : Reader Settings := fun d => do
  let logging := LoggingSettings.ofDocument format
  let dispatch := DispatchSettings.ofDocument format
  let f ← d.fields format [⟨"logging", Reader.check logging⟩,
    ⟨"dispatch", Reader.check dispatch⟩] .refused
  let default : Settings := {}
  return ⟨← f.optional "logging" logging default.logging,
    ← f.optional "dispatch" dispatch default.dispatch⟩

end Settings

end Devirt
