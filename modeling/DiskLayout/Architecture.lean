import DiskLayout.PartitionType
import DiskLayout.Text.Lowercase

/-!
# Architectures

## Main definitions

* `Architecture` — the processors that images are built for
* `Architecture.name`, `Architecture.ofName?` — writing and reading
* `Architecture.rootType`, `Architecture.usrType` — partition types that depend on the processor
-/

namespace DiskLayout

/-- A processor architecture that images are built for. -/
inductive Architecture where
  | amd64
  | aarch64
deriving DecidableEq, Repr, Inhabited

namespace Architecture

/-- The name of an architecture in documents. -/
def name : Architecture → String
  | amd64 => "x86_64"
  | aarch64 => "aarch64"

/-- The architecture with a lowercase name. -/
def ofLowerName? : String → Option Architecture
  | "x64" | "amd64" | "x86_64" => some amd64
  | "arm64" | "aarch64" => some aarch64
  | _ => none

/-- The architecture with a name in any letter case. -/
def ofName? (text : String) : Option Architecture := ofLowerName? (Lowercase.lower text)

/-- The type of a partition that holds the root filesystem. -/
def rootType : Architecture → PartitionType
  | amd64 => .rootAmd64
  | aarch64 => .rootArm64

/-- The type of a partition that holds the `/usr` filesystem. -/
def usrType : Architecture → PartitionType
  | amd64 => .usrAmd64
  | aarch64 => .usrArm64

end Architecture

end DiskLayout
