/-!
# Access flags

Classes and methods carry sixteen bits of access flags. Bits without a meaning are kept, but neither
rendered nor counted as known.
-/

namespace Devirt

/-- One access flag. A flag without a keyword is never rendered. -/
structure AccessFlag where
  mask : UInt16
  keyword : Option String

namespace AccessFlag

def isSet (f : AccessFlag) (bits : UInt16) : Bool := bits &&& f.mask = f.mask

/-- Every bit that has a meaning. -/
def known (flags : List AccessFlag) : UInt16 := flags.foldl (fun bits f => bits ||| f.mask) 0

/-- The keywords of the flags that are set, in the order of the flags. -/
def render (flags : List AccessFlag) (bits : UInt16) : String :=
  " ".intercalate ((flags.filter (·.isSet bits)).filterMap keyword)

end AccessFlag

/-- The access flags of a class or interface. -/
structure ClassModifiers where
  bits : UInt16
deriving DecidableEq

namespace ClassModifiers

/-- Marks an interface. -/
def interfaceFlag : AccessFlag := ⟨0x0200, some "interface"⟩

/-- Marks a class that is not to be instantiated. -/
def abstractFlag : AccessFlag := ⟨0x0400, some "abstract"⟩

/-- The flags of classes. The one without a keyword says how the class makes special calls. -/
def flags : List AccessFlag :=
  [⟨0x0001, some "public"⟩, ⟨0x0010, some "final"⟩, ⟨0x0020, none⟩, interfaceFlag, abstractFlag,
    ⟨0x1000, some "synthetic"⟩, ⟨0x2000, some "annotation"⟩, ⟨0x4000, some "enum"⟩]

def text (m : ClassModifiers) : String := AccessFlag.render flags m.bits

/-- The bits with a meaning. -/
def truncated (m : ClassModifiers) : UInt16 := m.bits &&& AccessFlag.known flags

def isKnown (m : ClassModifiers) : Bool := m.truncated = m.bits

end ClassModifiers

/-- The access flags of a method. -/
structure MethodModifiers where
  bits : UInt16
deriving DecidableEq

namespace MethodModifiers

/-- Marks a method that only its own class sees. -/
def privateFlag : AccessFlag := ⟨0x0002, some "private"⟩

def staticFlag : AccessFlag := ⟨0x0008, some "static"⟩

/-- Marks a method that is implemented elsewhere. -/
def nativeFlag : AccessFlag := ⟨0x0100, some "native"⟩

def abstractFlag : AccessFlag := ⟨0x0400, some "abstract"⟩

def flags : List AccessFlag :=
  [⟨0x0001, some "public"⟩, privateFlag, ⟨0x0004, some "protected"⟩, staticFlag,
    ⟨0x0010, some "final"⟩, ⟨0x0020, some "synchronized"⟩, ⟨0x0040, some "bridge"⟩,
    ⟨0x0080, some "varargs"⟩, nativeFlag, abstractFlag, ⟨0x0800, some "strictfp"⟩,
    ⟨0x1000, some "synthetic"⟩]

def text (m : MethodModifiers) : String := AccessFlag.render flags m.bits

/-- The bits with a meaning. -/
def truncated (m : MethodModifiers) : UInt16 := m.bits &&& AccessFlag.known flags

def isKnown (m : MethodModifiers) : Bool := m.truncated = m.bits

end MethodModifiers

end Devirt
