import Devirt.Settings.Basic

/-!
# The schema of the settings

A JSON schema for editors and checks. Defaults are those of the settings themselves.
-/

namespace Devirt.Settings

/-- A reference to a definition of the schema, with a default and perhaps a description. -/
def schemaReference (definition : String) (default : Document) (description : Option String) :
    Document :=
  .record <|
    [("allOf", .list [.record [("$ref", .text ("#/definitions/" ++ definition))]]),
      ("default", default)] ++
    (description.map fun d => ("description", .text d)).toList

/-- A value of a basic kind, with a default and a description. -/
def schemaBasic (kind : String) (default : Document) (description : String) : Document :=
  .record [("default", default), ("description", .text description), ("type", .text kind)]

/-- A record that refuses other fields. -/
def schemaRecord (properties : List (String × Document)) : List (String × Document) :=
  [("additionalProperties", .bool false), ("properties", .record properties),
    ("type", .text "object")]

def schemaAlternative (name description : String) : Document :=
  .record [("description", .text description), ("enum", .list [.text name]),
    ("type", .text "string")]

/-- What a policy means, for the reader of the schema. -/
def policyDescription : DiamondPolicy → String
  | .discoveryOrder =>
    "Take the first maximally specific default method in breadth-first discovery order. This " ++
      "accepts hierarchies the JVM would reject."
  | .strict =>
    "Follow the JVM's maximally-specific rule. Abstract interface re-declarations compete with " ++
      "default methods: more than one maximally specific declaration fails with " ++
      "`AmbiguousDefaultMethod`, and a single abstract one leaves the method unimplemented."

def policySchema : Document :=
  .record
    [("description", .text ("How concrete dispatch picks between default methods inherited from " ++
        "unrelated interfaces.")),
      ("oneOf", .list (DiamondPolicy.all.map fun p =>
        schemaAlternative p.name (policyDescription p)))]

def dispatchSchema : Document :=
  let default : DispatchSettings := {}
  .record <| schemaRecord
    [("diamond", schemaReference "DiamondPolicy" default.diamond.toDocument
        (some "Tie-break for default methods from unrelated interfaces."))]

def loggingSchema : Document :=
  let default : LoggingSettings := {}
  .record <| schemaRecord
    [("json", schemaBasic "boolean" (.bool default.json) "Emit logs as JSON lines."),
      ("level", schemaBasic "string" (.text default.level)
        ("Logging level (`info`, `debug`, ...) or a full `EnvFilter` directive string such as " ++
          "`sable.dispatch=trace,info`."))]

def schema : Document :=
  let default : Settings := {}
  .record <|
    [("$schema", .text "http://json-schema.org/draft-07/schema#"),
      ("title", .text "SableConfig"),
      ("definitions", .record
        [("DiamondPolicy", policySchema), ("DispatchConfig", dispatchSchema),
          ("LoggingConfig", loggingSchema)])] ++
    schemaRecord
      [("dispatch", schemaReference "DispatchConfig" default.dispatch.toDocument none),
        ("logging", schemaReference "LoggingConfig" default.logging.toDocument none)]

end Devirt.Settings
