/-!
# Paths

Lexical rules for the absolute paths at which filesystems are mounted.  Nothing here looks at a
real directory tree.

## Main definitions

* `Path.splitElements`, `Path.joinElements` — the texts between the separators of a path
* `Path.clean` — the shortest path that lexically means the same
* `Path.isCanonical`, `Path.isAbsolute` — paths that cleaning keeps, paths from the root
* `Path.hasBase` — whether a path equals another or lies below it
* `Path.root`, `Path.boot`, `Path.esp`, `Path.usr` — the paths that layout rules name
-/

namespace DiskLayout.Path

/-- The root of the directory tree. -/
def root : String := "/"

/-- Where the boot loader finds kernels. -/
def boot : String := "/boot"

/-- Where the EFI system partition is mounted. -/
def esp : String := "/boot/efi"

/-- Where the operating system is installed. -/
def usr : String := "/usr"

/-- The mountpoints that a boot loader must reach without a volume manager. -/
def plainOnly : List String := [boot, esp]

/-- The texts between the separators of a path, in order; some may be empty. -/
def splitElements : List Char → List (List Char)
  | [] => [[]]
  | c :: rest =>
    if c = '/' then [] :: splitElements rest
    else
      match splitElements rest with
      | [] => [[c]]
      | first :: others => (c :: first) :: others

/-- Puts separators between elements. -/
def joinElements : List (List Char) → List Char
  | [] => []
  | [last] => last
  | first :: next :: others => first ++ '/' :: joinElements (next :: others)

/-- One step of cleaning: `reached` holds the elements kept so far, the latest first.  Empty
elements and `.` vanish, `..` takes back the latest element; where there is none to take back it
stays in a relative path and vanishes at the root. -/
def step (absolute : Bool) (reached : List (List Char)) (element : List Char) :
    List (List Char) :=
  if element = [] ∨ element = ['.'] then reached
  else if element = ['.', '.'] then
    match reached with
    | latest :: earlier =>
      if latest = ['.', '.'] then (if absolute then reached else element :: reached) else earlier
    | [] => if absolute then [] else [element]
  else element :: reached

/-- Whether a path starts at the root. -/
def isAbsolute (path : String) : Bool := path.toList.head? == some '/'

/-- The characters of a path after cleaning. -/
def cleanChars (path : List Char) : List Char :=
  let absolute := path.head? == some '/'
  let kept := ((splitElements path).foldl (step absolute) []).reverse
  if absolute then '/' :: joinElements kept
  else if kept = [] then ['.']
  else joinElements kept

/-- The shortest path that lexically means the same as `path`. -/
def clean (path : String) : String := String.ofList (cleanChars path.toList)

/-- Whether cleaning keeps a path as it is. -/
def isCanonical (path : String) : Bool := clean path == path

/-- Whether `path` equals `base` or lies below it, comparing whole elements. -/
def hasBase (path base : String) : Bool :=
  if base = root then isAbsolute path
  else
    base.toList.isPrefixOf path.toList &&
      (match path.toList.drop base.toList.length with
        | [] => true
        | next :: _ => next == '/')

end DiskLayout.Path
