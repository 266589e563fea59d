import NativeVariants.Json.Reader
import NativeVariants.Main
import NativeVariants.Proofs.Dispatch
import NativeVariants.Proofs.Naming
import NativeVariants.Proofs.Specification
import NativeVariants.Proofs.Component
import NativeVariants.Proofs.Agreement
import NativeVariants.Proofs.Workbench
import NativeVariants.Proofs.Memo
import NativeVariants.Proofs.Identities
import NativeVariants.Proofs.Reordering
import NativeVariants.Proofs.Attempts
import NativeVariants.Proofs.Frozen
import NativeVariants.Proofs.Folding
import NativeVariants.Proofs.Acceptance
import NativeVariants.Proofs.Session
import NativeVariants.Proofs.Checking
import NativeVariants.Proofs.Publications
import NativeVariants.Proofs.SharedRegistries
import NativeVariants.Proofs.Snapshots
import NativeVariants.Proofs.Files
import NativeVariants.Proofs.SettingsFile
import NativeVariants.Proofs.Storing
import NativeVariants.Proofs.Lines
import NativeVariants.Proofs.Marks
import NativeVariants.Proofs.LogView
import NativeVariants.Proofs.Forest
import NativeVariants.Proofs.Live
import NativeVariants.Proofs.Refusals
import NativeVariants.Proofs.KeyOrder
import NativeVariants.Proofs.Paths
import NativeVariants.Proofs.Editability
import NativeVariants.Proofs.NewSettings
import NativeVariants.Proofs.Priorities
import NativeVariants.Proofs.RegistryOrder
import NativeVariants.Proofs.Configuring
import NativeVariants.Proofs.Development
import NativeVariants.Proofs.Interfaces
import NativeVariants.Proofs.Sameness
import NativeVariants.Proofs.AttributeSets
import NativeVariants.Proofs.Attributes
import NativeVariants.Proofs.Machines
import NativeVariants.Proofs.OnHost
import NativeVariants.Proofs.Expansion
import NativeVariants.Proofs.MachineEntries
import NativeVariants.Proofs.Requests
import NativeVariants.Proofs.Tokens
