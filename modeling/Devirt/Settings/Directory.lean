/-!
# Directories

The contents of one directory and of those below it. A path is followed step by step, and every
place that it leaves has to be a directory, also on the way back up. What lies outside cannot be
read.
-/

namespace Devirt

/-- Where something stands below a directory: the names on the way to it, innermost first. -/
abbrev Location := List String

/-- What stands at a location. -/
inductive DirectoryEntry where
  | file (bytes : ByteArray)
  | directory

/-- The contents of a directory. Of two entries at one location the first one counts. -/
structure Directory where
  entries : List (Location × DirectoryEntry)

namespace Directory

/-- Where one step of a path leads. A step that is empty or a dot stays in place, and two dots lead
back, though not out of the directory. -/
def step? (place : Location) (name : String) : Option Location :=
  if name = "" ∨ name = "." then some place
  else if name = ".." then
    match place with
    | [] => none
    | _ :: parent => some parent
  else some (name :: place)

def steps (path : String) : List String := (path.toList.splitOn '/').map String.ofList

def empty : Directory := ⟨[]⟩

def put (dir : Directory) (path : String) (entry : DirectoryEntry) : Directory :=
  match (steps path).foldlM step? [] with
  | some place => ⟨(place, entry) :: dir.entries⟩
  | none => dir

def entry? (dir : Directory) (place : Location) : Option DirectoryEntry :=
  dir.entries.lookup place

/-- Whether there is a directory at a location. Whatever leads to an entry is one. -/
def isDirectory (dir : Directory) (place : Location) : Bool :=
  match dir.entry? place with
  | some .directory => true
  | some (.file _) => false
  | none => place.isEmpty || dir.entries.any fun e => place.isSuffixOf e.1

/-- Paths of more bytes than these are not followed. The system takes 4095, and the way to the
directory itself needs a few of them. -/
def longestPath : Nat := 4079

/-- Where a path leads from a directory. -/
def follow? (dir : Directory) (path : String) : Option Location :=
  if path.startsWith "/" ∨ longestPath < path.utf8ByteSize then none
  else
    (steps path).foldlM
      (fun place name => if dir.isDirectory place then step? place name else none) []

/-- The text of the file that a path leads to. -/
def readText? (dir : Directory) (path : String) : Option String :=
  match (dir.follow? path).bind dir.entry? with
  | some (.file bytes) => String.fromUTF8? bytes
  | _ => none

def hasFile (dir : Directory) (path : String) : Bool :=
  match (dir.follow? path).bind dir.entry? with
  | some (.file _) => true
  | _ => false

end Directory

end Devirt
