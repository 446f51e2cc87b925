import DiskLayout.Customization.Validation
import DiskLayout.TextMap

/-!
# Mountpoint policies

A policy is a set of rules for paths.  The rule of the longest path that contains a mountpoint
decides whether the mountpoint is allowed; where no rule covers it, it is allowed.

## Main definitions

* `Path.enclosing` — the paths under which a rule for a path is looked up
* `PathRule` — a rule, `MountPolicy` — a set of rules
* `MountPolicy.check`, `MountPolicy.checkAll` — the check of one path, of many
* `MountPolicy.standard` — the policy of a distribution that brings none
* `Customizations.checkAgainst` — all checks of a customizations document under a policy
-/

namespace DiskLayout

namespace Path

/-- What stands in front of a separator, or the root where nothing does. -/
def above (before : List Char) : String := if before = [] then root else String.ofList before

/-- What stands in front of each separator of a path, the last separator first.  The path is given
from its end. -/
def cuts : List Char → List String
  | [] => []
  | c :: before => if c = '/' then above before.reverse :: cuts before else cuts before

/-- The paths under which a rule for a path is looked up, in order: the path itself, then what is
left of it when it is cut at its last separator, and so on up to the root. -/
def enclosing (path : String) : List String := path :: cuts path.toList.reverse

end Path

/-- What is allowed at a path and below it. -/
structure PathRule where
  /-- Only the path itself is allowed. -/
  exact : Bool
  /-- Neither the path nor anything below it is allowed. -/
  deny : Bool
deriving DecidableEq, Repr

namespace PathRule

/-- The rule that allows everything. -/
def allowing : PathRule := ⟨false, false⟩

end PathRule

/-- Why a path is not allowed. -/
inductive PolicyFault where
  | relative (path : String)
  | notCanonical (path : String)
  | notAllowed (path : String)
deriving DecidableEq, Repr

namespace PolicyFault

/-- The wording of a policy fault. -/
def message : PolicyFault → String
  | relative path => "path " ++ Quoted.quote path ++ " must be absolute"
  | notCanonical path => "path " ++ Quoted.quote path ++ " must be canonical"
  | notAllowed path => "path " ++ Quoted.quote path ++ " is not allowed"

end PolicyFault

/-- A set of rules for paths. -/
structure MountPolicy where
  rules : TextMap PathRule

namespace MountPolicy

/-- The rule that decides about a path, with the path it stands for: the first one found on the way
up to the root. -/
def decisive? (policy : MountPolicy) (path : String) : Option (String × PathRule) :=
  (Path.enclosing path).findSome? fun base => (policy.rules.get? base).map fun rule => (base, rule)

/-- Whether the decisive rule allows a canonical absolute path. -/
def allows (policy : MountPolicy) (path : String) : Bool :=
  match policy.decisive? path with
  | none => true
  | some (base, rule) => !(rule.deny || (rule.exact && base != path))

/-- Checks a path: absolute, canonical and allowed. -/
def check (policy : MountPolicy) (path : String) : Except PolicyFault Unit :=
  if !Path.isAbsolute path then .error (.relative path)
  else if !Path.isCanonical path then .error (.notCanonical path)
  else if !policy.allows path then .error (.notAllowed path)
  else .ok ()

/-- The fault of a path that a policy does not let pass. -/
def fault? (policy : MountPolicy) (path : String) : Option PolicyFault :=
  match policy.check path with
  | .error fault => some fault
  | .ok _ => none

/-- Checks many paths, reporting all faults at once. -/
def checkAll (policy : MountPolicy) (paths : List String) : Except LayoutError Unit :=
  match paths.filterMap policy.fault? with
  | [] => .ok ()
  | faults =>
    .error (.policyViolation
      ("The following errors occurred while setting up custom mountpoints:\n" ++
        "\n".intercalate (faults.map PolicyFault.message)))

/-- Checks plain mountpoint requests. -/
def checkFilesystems (policy : MountPolicy) (requests : List FilesystemRequest) :
    Except LayoutError Unit :=
  policy.checkAll (requests.map FilesystemRequest.mountpoint)

/-- Checks every mountpoint of a partitioning request. -/
def checkPartitioning (policy : MountPolicy) (request : PartitioningRequest) :
    Except LayoutError Unit :=
  policy.checkAll request.mountpoints

/-- The policy of a distribution that brings none: the root is free, `/usr` and `/boot/efi` only
themselves, and system directories and the directories merged into `/usr` are forbidden. -/
def standard : MountPolicy :=
  let denied := ["/bin", "/dev", "/etc", "/lib", "/lib32", "/lib64", "/lost+found", "/ostree",
    "/proc", "/run", "/sbin", "/sys", "/sysroot", "/var/lock", "/var/run"]
  ⟨TextMap.ofList ([("/", PathRule.allowing), ("/boot/efi", ⟨true, false⟩), ("/usr", ⟨true, false⟩)]
    ++ denied.map fun path => (path, ⟨false, true⟩))⟩

end MountPolicy

namespace Customizations

/-- Checks a customizations document on its own and against a policy, reporting everything. -/
def checkAgainst (policy : MountPolicy) (customizations : Customizations) :
    Except LayoutError Unit :=
  LayoutError.check
    ((LayoutError.ofCheck customizations.validate).toList ++
      (LayoutError.ofCheck (policy.checkFilesystems customizations.filesystem)).toList ++
      (customizations.partitioning.bind fun request =>
        LayoutError.ofCheck (policy.checkPartitioning request)).toList)

end Customizations

end DiskLayout
