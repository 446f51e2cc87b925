import DiskLayout.Allocation.Build
import DiskLayout.Allocation.Conversion
import DiskLayout.Allocation.Custom
import DiskLayout.Allocation.Identification
import DiskLayout.Allocation.Image
import DiskLayout.Allocation.Minimums
import DiskLayout.Allocation.Parts
import DiskLayout.Allocation.Sizing
import DiskLayout.Architecture
import DiskLayout.Command.Arguments
import DiskLayout.Command.Basic
import DiskLayout.Command.Directory
import DiskLayout.Command.Execution
import DiskLayout.Command.Loading
import DiskLayout.Command.Rehearsal
import DiskLayout.Customization.Basic
import DiskLayout.Customization.Validation
import DiskLayout.Document.Customization
import DiskLayout.Document.Decode
import DiskLayout.Document.Error
import DiskLayout.Document.Flattened
import DiskLayout.Document.Format
import DiskLayout.Document.Json.Floating
import DiskLayout.Document.Json.Number
import DiskLayout.Document.Json.Printer
import DiskLayout.Document.Json.Reader
import DiskLayout.Document.Json.Token
import DiskLayout.Document.Kept
import DiskLayout.Document.Profile
import DiskLayout.Document.Scalar
import DiskLayout.Document.Size
import DiskLayout.Document.Source
import DiskLayout.Document.Table
import DiskLayout.Document.Value
import DiskLayout.Document.Yaml.Cursor
import DiskLayout.Document.Yaml.Draft
import DiskLayout.Document.Yaml.Node
import DiskLayout.Document.Yaml.Printer
import DiskLayout.Document.Yaml.Reader
import DiskLayout.Document.Yaml.Scalar
import DiskLayout.Document.Yaml.Text
import DiskLayout.Document.Yaml.Token
import DiskLayout.Error
import DiskLayout.FilesystemType
import DiskLayout.Flattened
import DiskLayout.Identifier.Format
import DiskLayout.Identifier.Uuid
import DiskLayout.Identifier.VolumeId
import DiskLayout.Log
import DiskLayout.Log.Sink
import DiskLayout.Main
import DiskLayout.MountPolicy
import DiskLayout.Mountpoint
import DiskLayout.PartitionType
import DiskLayout.Path
import DiskLayout.Platform
import DiskLayout.Profile
import DiskLayout.Proofs.Allocation.Assembly
import DiskLayout.Proofs.Allocation.BootFilesystem
import DiskLayout.Proofs.Allocation.Boundaries
import DiskLayout.Proofs.Allocation.Capacity
import DiskLayout.Proofs.Allocation.Charges
import DiskLayout.Proofs.Allocation.Completion
import DiskLayout.Proofs.Allocation.ConversionSpace
import DiskLayout.Proofs.Allocation.CustomAssembly
import DiskLayout.Proofs.Allocation.CustomOutcome
import DiskLayout.Proofs.Allocation.CustomShape
import DiskLayout.Proofs.Allocation.CustomStructure
import DiskLayout.Proofs.Allocation.Edits
import DiskLayout.Proofs.Allocation.EncryptionHeaders
import DiskLayout.Proofs.Allocation.Exchange
import DiskLayout.Proofs.Allocation.FittingSizes
import DiskLayout.Proofs.Allocation.Frame
import DiskLayout.Proofs.Allocation.Growth
import DiskLayout.Proofs.Allocation.Identification
import DiskLayout.Proofs.Allocation.LeastSizing
import DiskLayout.Proofs.Allocation.Minimums
import DiskLayout.Proofs.Allocation.Modes
import DiskLayout.Proofs.Allocation.NormalForm
import DiskLayout.Proofs.Allocation.Order
import DiskLayout.Proofs.Allocation.Placement
import DiskLayout.Proofs.Allocation.Refusals
import DiskLayout.Proofs.Allocation.Reordering
import DiskLayout.Proofs.Allocation.Repetition
import DiskLayout.Proofs.Allocation.RequestedFilesystems
import DiskLayout.Proofs.Allocation.RequestedSpace
import DiskLayout.Proofs.Allocation.RequestedVolumes
import DiskLayout.Proofs.Allocation.RequiredDirectories
import DiskLayout.Proofs.Allocation.Resizing
import DiskLayout.Proofs.Allocation.RootGrowth
import DiskLayout.Proofs.Allocation.Settling
import DiskLayout.Proofs.Allocation.Slots
import DiskLayout.Proofs.Allocation.Stability
import DiskLayout.Proofs.Allocation.Steps
import DiskLayout.Proofs.Allocation.Synchronization
import DiskLayout.Proofs.Allocation.TotalSize
import DiskLayout.Proofs.Allocation.VolumeNames
import DiskLayout.Proofs.Customization.Checks
import DiskLayout.Proofs.Customization.CollectedErrors
import DiskLayout.Proofs.Customization.GeneratedNames
import DiskLayout.Proofs.Customization.Partitioning
import DiskLayout.Proofs.Customization.Policy
import DiskLayout.Proofs.Customization.Violations
import DiskLayout.Proofs.Document.Customization
import DiskLayout.Proofs.Document.Identifiers
import DiskLayout.Proofs.Document.Numerals
import DiskLayout.Proofs.Document.Profile
import DiskLayout.Proofs.Document.Reading
import DiskLayout.Proofs.Document.RoundTrip
import DiskLayout.Proofs.Document.Showing
import DiskLayout.Proofs.Document.Size
import DiskLayout.Proofs.Document.Table
import DiskLayout.Proofs.Document.Words
import DiskLayout.Proofs.Flattening.Acceptance
import DiskLayout.Proofs.Flattening.Built
import DiskLayout.Proofs.Flattening.Custom
import DiskLayout.Proofs.Flattening.Devices
import DiskLayout.Proofs.Flattening.MountNames
import DiskLayout.Proofs.Flattening.Mounts
import DiskLayout.Proofs.Identifier.Forms
import DiskLayout.Proofs.Identifier.RoundTrip
import DiskLayout.Proofs.Identifier.Spellings
import DiskLayout.Proofs.Outcome
import DiskLayout.Proofs.Path.Canonical
import DiskLayout.Proofs.Path.Containment
import DiskLayout.Proofs.Path.Elements
import DiskLayout.Proofs.Size.Alignment
import DiskLayout.Proofs.Size.Grammar
import DiskLayout.Proofs.Size.RoundTrip
import DiskLayout.Proofs.Size.Words
import DiskLayout.Proofs.Table.Containers
import DiskLayout.Proofs.Table.Content
import DiskLayout.Proofs.Table.Editing
import DiskLayout.Proofs.Table.Extension
import DiskLayout.Proofs.Table.Filesystems
import DiskLayout.Proofs.Table.Mounting
import DiskLayout.Proofs.Table.Naming
import DiskLayout.Proofs.Table.Nodes
import DiskLayout.Proofs.Table.NormalForm
import DiskLayout.Proofs.Table.Outline
import DiskLayout.Proofs.Table.Places
import DiskLayout.Proofs.Table.Ranges
import DiskLayout.Proofs.Table.Reordering
import DiskLayout.Proofs.Table.Resemblance
import DiskLayout.Proofs.Table.Structure
import DiskLayout.Proofs.Table.Validity
import DiskLayout.Proofs.Table.Walks
import DiskLayout.Random.Keystream
import DiskLayout.Random.Seed
import DiskLayout.Random.Source
import DiskLayout.Size.Basic
import DiskLayout.Size.Text
import DiskLayout.Table.Basic
import DiskLayout.Table.Validation
import DiskLayout.Table.Visitor
import DiskLayout.Table.Volumes
import DiskLayout.Table.Walk
import DiskLayout.Text.Blank
import DiskLayout.Text.Cased
import DiskLayout.Text.Lowercase
import DiskLayout.Text.Quoted
import DiskLayout.Text.Unprintable
import DiskLayout.TextMap
