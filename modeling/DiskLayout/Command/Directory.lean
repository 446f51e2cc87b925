import DiskLayout.Document.Format
import DiskLayout.Path
import DiskLayout.TextMap

/-!
# Directories as values

A working directory with what it holds, so that the run of a command can be followed without
touching a disk.  Paths are taken relative to it; a path that leaves it, or starts at the root of
the disk, leads nowhere, but for that of the null device.

## Main definitions

* `Directory` — what a working directory holds
* `Directory.text?` — reading a file, `Directory.write?` — writing a file
-/

namespace DiskLayout

/-- What stands in a directory under a name. -/
inductive Placed where
  | file (bytes : ByteArray)
  | directory

/-- What a working directory holds, by the canonical relative paths. -/
structure Directory where
  entries : TextMap Placed

namespace Directory

/-- The canonical relative path of elements. -/
def pathOf (elements : List (List Char)) : String := String.ofList (Path.joinElements elements)

/-- What stands at elements, the deepest last.  The working directory itself and what lies above
an entry are directories. -/
def placed? (directory : Directory) (elements : List (List Char)) : Option Placed :=
  if elements = [] then some .directory
  else
    match directory.entries.get? (pathOf elements) with
    | some placed => some placed
    | none =>
      let below := pathOf elements ++ "/"
      if directory.entries.keys.any fun key => below.isPrefixOf key then some .directory else none

/-- Whether there is a directory at elements. -/
def hasDirectory (directory : Directory) (elements : List (List Char)) : Bool :=
  match directory.placed? elements with
  | some .directory => true
  | _ => false

/-- Follows the elements of a path from a directory that was reached, which is kept with its
deepest element first.  All elements but the last must lead to directories. -/
def follow (directory : Directory) (reached : List (List Char)) :
    (path : List (List Char)) → Option (List (List Char))
  | [] => some reached.reverse
  | element :: others =>
    if !directory.hasDirectory reached.reverse then none
    else if element = [] ∨ element = ['.'] then follow directory reached others
    else if element = ['.', '.'] then
      match reached with
      | [] => none
      | _ :: above => follow directory above others
    else follow directory (element :: reached) others

/-- Whether an element can be a name: it has no NUL, and at most 255 bytes. -/
def isNamable (element : List Char) : Bool :=
  !element.contains '\x00' && (String.ofList element).utf8ByteSize ≤ 255

/-- The number of bytes that a path can no longer have. -/
def pathLimit : Nat := 4096

/-- The elements that a path leads to. -/
def locate? (directory : Directory) (path : String) : Option (List (List Char)) :=
  let elements := Path.splitElements path.toList
  if path = "" ∨ pathLimit ≤ path.utf8ByteSize ∨ Path.isAbsolute path ∨ !elements.all isNamable
    then none
  else directory.follow [] elements

/-- The path of the null device, which is empty whatever is written to it. -/
def nullDevice : String := "/dev/null"

/-- The text of the file that a path leads to, if there is one that holds a text. -/
def text? (directory : Directory) (path : String) : Option String :=
  if path = nullDevice then some ""
  else do
    let elements ← directory.locate? path
    match ← directory.placed? elements with
    | .file bytes => String.fromUTF8? bytes
    | .directory => none

/-- The directory after a text is written to a path, if it can be: what the path leads to may be
a file or nothing. -/
def write? (directory : Directory) (path text : String) : Option Directory :=
  if path = nullDevice then some directory
  else do
    let elements ← directory.locate? path
    match directory.placed? elements with
    | some .directory => none
    | _ =>
      if elements = [] then none
      else return ⟨directory.entries.insert (pathOf elements) (.file text.toUTF8)⟩

/-- The files that a directory holds and another does not, with their texts. -/
def filesBeyond (directory other : Directory) : List (String × String) :=
  directory.entries.entries.filterMap fun entry =>
    match entry.2, other.entries.get? entry.1 with
    | .file bytes, none => (String.fromUTF8? bytes).map fun text => (entry.1, text)
    | _, _ => none

end Directory

end DiskLayout
