import DiskLayout.Allocation.Custom

/-!
# Tables of images

The table of an image follows from its profile and the customizations.  A partitioning request
replaces the base table of the profile; plain mountpoint requests are merged into it.  Both are
held against the policy of the profile first.

## Main definitions

* `ImageProfile.buildTable` — the finished table of an image
-/

namespace DiskLayout

namespace Logged

/-- A computation whose layout errors become reports with a context. -/
def within {α : Type} (context : String) (computation : Logged LayoutError α) : Logged Report α :=
  computation.mapError fun error => (Report.layout error).within context

end Logged

namespace ImageProfile

/-- The part of the program that reports the records of commands. -/
def commandTarget : String := "diskplan::commands"

/-- The table of an image whose customizations are plain mountpoint requests, and what is left of
the source. -/
def mergeTable (profile : ImageProfile) (requests : List FilesystemRequest)
    (source : RandomSource) : Logged Report PartitionTable × RandomSource :=
  match profile.policy.checkFilesystems requests with
  | .error error =>
    ((throw error : Logged LayoutError PartitionTable).within
      "Filesystem customizations violate the mountpoint policy", source)
  | .ok () =>
    let (finished, rest) :=
      build profile.baseTable requests profile.minSize (BuildOptions.ofProfile profile) source
    (finished.within "Failed to build partition table", rest)

/-- The table of an image whose customizations are a partitioning request, and what is left of the
source. -/
def replaceTable (profile : ImageProfile) (request : PartitioningRequest)
    (source : RandomSource) : Logged Report PartitionTable × RandomSource :=
  match profile.policy.checkPartitioning request with
  | .error error =>
    ((throw error : Logged LayoutError PartitionTable).within
      "Partitioning customizations violate the mountpoint policy", source)
  | .ok () =>
    let (finished, rest) := buildCustom request (CustomOptions.ofProfile profile) source
    let announced := do
      Logged.note .debug commandTarget
        "Replacing the base partition table with partitioning customizations"
      finished.within "Failed to create partition table from partitioning customizations"
    (announced, rest)

/-- The finished table of an image, and what is left of the source. -/
def buildTable (profile : ImageProfile) (customizations : Customizations)
    (source : RandomSource) : Logged Report PartitionTable × RandomSource :=
  match customizations.partitioning with
  | none => profile.mergeTable customizations.filesystem source
  | some request =>
    if customizations.filesystem.isEmpty then profile.replaceTable request source
    else
      ((throw (.unsupportedCombination
        "filesystem and partitioning customizations cannot be combined") :
          Logged LayoutError PartitionTable).within "Invalid customizations", source)

end ImageProfile

end DiskLayout
