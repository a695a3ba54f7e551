/-!
# Names of classes and interfaces

A class is identified by its package and its simple name. Names are read from the dotted form
(`java.lang.String`) and from the internal form with slashes (`java/lang/String`).
-/

namespace Devirt

/-- Splits a text at the last occurrence of a separator, which belongs to neither part. -/
def splitLast? (separator : Char) : List Char → Option (List Char × List Char)
  | [] => none
  | c :: cs =>
    match splitLast? separator cs with
    | some (before, after) => some (c :: before, after)
    | none => if c = separator then some ([], cs) else none

/-- A class or interface. The default package is the empty text. -/
structure ClassName where
  package : String
  simple : String
deriving DecidableEq, Hashable

namespace ClassName

/-- `java.lang.Object`, the root of every hierarchy. -/
def object : ClassName := ⟨"java.lang", "Object"⟩

/-- The dotted spelling of one character of a name. -/
def dotted (c : Char) : Char := if c = '/' then '.' else c

/-- Reads a name that is already in dotted form: what follows the last dot is the simple name. -/
def ofDotted (cs : List Char) : ClassName :=
  match splitLast? '.' cs with
  | some (package, simple) => ⟨String.ofList package, String.ofList simple⟩
  | none => ⟨"", String.ofList cs⟩

/-- Reads a dotted or internal name. -/
def parse (qualified : String) : ClassName := ofDotted (qualified.toList.map dotted)

/-- The fully qualified name. In the default package it is the simple name alone. -/
def text (c : ClassName) : String :=
  if c.package = "" then c.simple else c.package ++ "." ++ c.simple

def isObject (c : ClassName) : Bool := c = object

/-- Packages come first, then simple names. -/
instance : Ord ClassName :=
  ⟨compareLex (compareOn ClassName.package) (compareOn ClassName.simple)⟩

end ClassName

end Devirt
