import FluentGen.Text.Blank
import FluentGen.Text.Alphanumeric
import FluentGen.Text.Quoted
import FluentGen.Text.Template
import FluentGen.Naming
import FluentGen.TypeRef
import FluentGen.Compilation
import FluentGen.Json.Reader
import FluentGen.Json.Printer
import FluentGen.Decimal.Shortest
import FluentGen.Snapshot.Record
import FluentGen.Snapshot.Reader
import FluentGen.Snapshot.Writer
import FluentGen.Framework
import FluentGen.Configuration
import FluentGen.Entity
import FluentGen.Classification
import FluentGen.TrackedMember
import FluentGen.Layout
import FluentGen.Synthesis
import FluentGen.Report
import FluentGen.CommandLine.LogFilter
import FluentGen.CommandLine.Run
import FluentGen.Main
import FluentGen.Proofs.DistinctBy
import FluentGen.Proofs.Tracking
import FluentGen.Proofs.Members
import FluentGen.Proofs.Signatures
import FluentGen.Proofs.Writing
import FluentGen.Proofs.Declarations
import FluentGen.Proofs.Building
import FluentGen.Proofs.ClashFree
import FluentGen.Proofs.MarkedCode
import FluentGen.Proofs.References
import FluentGen.Proofs.SharedFields
import FluentGen.Proofs.Agreement
import FluentGen.Proofs.WalkLimits
import FluentGen.Proofs.Accounting
import FluentGen.Proofs.Isolation
import FluentGen.Proofs.InterfaceGraph
import FluentGen.Proofs.SnapshotOrder
import FluentGen.Proofs.FrameworkGraph
import FluentGen.Proofs.BackingType
import FluentGen.Proofs.FallibleSteps
import FluentGen.Proofs.LayerMerging
import FluentGen.Proofs.CommaLists
import FluentGen.Proofs.Cascade
import FluentGen.Proofs.TypeParameters
import FluentGen.Proofs.Hiding
import FluentGen.Proofs.PartialClasses
import FluentGen.Proofs.DeclaredFramework
import FluentGen.Proofs.OutputNames
import FluentGen.Proofs.WrittenFiles
import FluentGen.Proofs.JsonText
import FluentGen.Proofs.JsonParts
import FluentGen.Proofs.RecordReading
import FluentGen.Proofs.SnapshotRoundTrip
import FluentGen.Proofs.SnapshotForm
import FluentGen.Proofs.Rearrangement
import FluentGen.Proofs.MemberMethods
import FluentGen.Proofs.BuildFamily
import FluentGen.Proofs.Reporting
import FluentGen.Proofs.DepthFirst
import FluentGen.Proofs.InterfaceSearch
import FluentGen.Proofs.Appending
import FluentGen.Proofs.Arities
import FluentGen.Proofs.Instantiation
import FluentGen.Proofs.ClosedGraphs
import FluentGen.Proofs.BaseClasses
import FluentGen.Proofs.CollectedProperties
import FluentGen.Proofs.FilledTemplates
import FluentGen.Proofs.Partition
import FluentGen.Proofs.FirstValues
import FluentGen.Proofs.RequiredFields
import FluentGen.Proofs.OverrideLocations
import FluentGen.Proofs.UsableConfigurations
import FluentGen.Proofs.ConstructorChoice
import FluentGen.Proofs.Imports
import FluentGen.Proofs.GlobalNamespace
import FluentGen.Proofs.ReservedWords
import FluentGen.Proofs.StandingAlone
import FluentGen.Proofs.WrittenNames
import FluentGen.Proofs.PrintedLines
import FluentGen.Proofs.RunEffects
import FluentGen.Proofs.SettingsPrecedence
import FluentGen.Proofs.Capitals
import FluentGen.Proofs.ComputedProperties
import FluentGen.Proofs.ReplacedParameters
import FluentGen.Proofs.DistinctTexts
import FluentGen.Proofs.KeyLookup
import FluentGen.Proofs.Annotations
import FluentGen.Proofs.AttributeNames
import FluentGen.Proofs.Spacing
import FluentGen.Proofs.UnbrokenNames
import FluentGen.Proofs.LaidOut
