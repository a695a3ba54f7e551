import Devirt.Logging.Directive

/-!
# Filters

A filter is a set of directives. A directive replaces an earlier one about the same.
-/

namespace Devirt.Logging

/-- Two sets of directives, each with one directive at most about the same thing. One about a field
but neither its value nor a span is in both. -/
structure Filter where
  fixed : List Directive
  contextual : List Directive

namespace Filter

/-- Adds a directive in the place of one about the same. -/
def insert (ds : List Directive) (d : Directive) : List Directive :=
  ds.filter (·.scope ≠ d.scope) ++ [d]

/-- The filter of directives, the later ones of which count more. -/
def ofList (ds : List Directive) : Filter where
  fixed := (ds.filter Directive.isFixed).foldl insert []
  contextual := (ds.filter Directive.isContextual).foldl insert []

/-- Reads directives between commas. Nothing between two commas is no directive. -/
def parse? (cs : List Char) : Option Filter :=
  (((cs.splitOn ',').filter (· ≠ [])).mapM Directive.parse?).map ofList

def ofLevel (level : Level) : Filter := ofList [{ level }]

/-- The directives of both sets as they are written, in ascending order. -/
def texts (f : Filter) : List String :=
  ((f.fixed ++ f.contextual).map Directive.text).mergeSort fun a b => (compare a b).isLE

end Filter

end Devirt.Logging
