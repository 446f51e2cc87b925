import DiskLayout.Path
import DiskLayout.Text.Quoted

/-!
# Mountpoints

A filesystem is mounted at an absolute path that cleaning keeps.

## Main definitions

* `MountpointFault` — what is wrong with a mountpoint
* `checkMountpoint` — whether a path can be a mountpoint
-/

namespace DiskLayout

/-- What is wrong with a mountpoint. -/
inductive MountpointFault where
  | empty
  | relative (path : String)
  | notCanonical (path : String)
deriving DecidableEq, Repr

namespace MountpointFault

/-- The wording of a mountpoint fault; a path that is not canonical gets its clean form
suggested. -/
def message : MountpointFault → String
  | empty => "mountpoint is empty"
  | relative path => "mountpoint " ++ Quoted.quote path ++ " is not an absolute path"
  | notCanonical path =>
    "mountpoint " ++ Quoted.quote path ++ " is not a canonical path (did you mean " ++
      Quoted.quote (Path.clean path) ++ "?)"

end MountpointFault

/-- Checks that a path can be a mountpoint: not empty, absolute and canonical. -/
def checkMountpoint (path : String) : Except MountpointFault Unit :=
  if path = "" then .error .empty
  else if !Path.isAbsolute path then .error (.relative path)
  else if !Path.isCanonical path then .error (.notCanonical path)
  else .ok ()

/-- The fault of a path that cannot be a mountpoint. -/
def mountpointFault? (path : String) : Option MountpointFault :=
  match checkMountpoint path with
  | .error fault => some fault
  | .ok _ => none

end DiskLayout
