import StoryWorld.Command.Directory
import StoryWorld.Command.Line
import StoryWorld.Command.Run
import StoryWorld.Config.Basic
import StoryWorld.Config.Toml
import StoryWorld.Decimal.Form
import StoryWorld.Decimal.Scaled
import StoryWorld.Decimal.Shortest
import StoryWorld.Graph.Body
import StoryWorld.Graph.Connection
import StoryWorld.Graph.Edge
import StoryWorld.Graph.Identity
import StoryWorld.Graph.Node
import StoryWorld.Graph.Patch
import StoryWorld.Graph.Reading
import StoryWorld.Graph.Refusal
import StoryWorld.Graph.Settings
import StoryWorld.Graph.Snapshot
import StoryWorld.Graph.SnapshotText
import StoryWorld.Graph.Writing
import StoryWorld.Json.Basic
import StoryWorld.Json.Fault
import StoryWorld.Json.Fields
import StoryWorld.Json.Printer
import StoryWorld.Json.Reader
import StoryWorld.Json.Written
import StoryWorld.Lore.Agreement
import StoryWorld.Lore.Comparison
import StoryWorld.Lore.Draft
import StoryWorld.Lore.Entry
import StoryWorld.Lore.Export
import StoryWorld.Lore.Import
import StoryWorld.Lore.Layout
import StoryWorld.Lore.Reading
import StoryWorld.Lore.Report
import StoryWorld.Lore.Workbench
import StoryWorld.Lore.Writing
import StoryWorld.Main
import StoryWorld.Proofs.Attempts
import StoryWorld.Proofs.Decimal.Doubles
import StoryWorld.Proofs.Decimal.Numerals
import StoryWorld.Proofs.Decimal.RoundingInterval
import StoryWorld.Proofs.Decimal.Texts
import StoryWorld.Proofs.FirstItems
import StoryWorld.Proofs.Graph.Faults
import StoryWorld.Proofs.Graph.KeyedBodies
import StoryWorld.Proofs.Graph.Legibility
import StoryWorld.Proofs.Graph.NumberedIds
import StoryWorld.Proofs.Graph.StoredForms
import StoryWorld.Proofs.Graph.Validity
import StoryWorld.Proofs.Graph.WrittenWorlds
import StoryWorld.Proofs.Json.Reading
import StoryWorld.Proofs.Lore.Acquaintances
import StoryWorld.Proofs.Lore.Assembly
import StoryWorld.Proofs.Lore.CarriedFields
import StoryWorld.Proofs.Lore.CleanedImages
import StoryWorld.Proofs.Lore.ClearImport
import StoryWorld.Proofs.Lore.Copies
import StoryWorld.Proofs.Lore.Counterparts
import StoryWorld.Proofs.Lore.CurrentOverrides
import StoryWorld.Proofs.Lore.Declarations
import StoryWorld.Proofs.Lore.EdgeCopies
import StoryWorld.Proofs.Lore.Enrolment
import StoryWorld.Proofs.Lore.EntryFields
import StoryWorld.Proofs.Lore.Exported
import StoryWorld.Proofs.Lore.Findings
import StoryWorld.Proofs.Lore.FirstDeclarations
import StoryWorld.Proofs.Lore.FirstMentions
import StoryWorld.Proofs.Lore.FixedPoint
import StoryWorld.Proofs.Lore.GlobalEvents
import StoryWorld.Proofs.Lore.ImportOrder
import StoryWorld.Proofs.Lore.ImportPaths
import StoryWorld.Proofs.Lore.ImportedEdges
import StoryWorld.Proofs.Lore.ImportedNodes
import StoryWorld.Proofs.Lore.ImportedWords
import StoryWorld.Proofs.Lore.Interleaving
import StoryWorld.Proofs.Lore.KeptTables
import StoryWorld.Proofs.Lore.LetterCase
import StoryWorld.Proofs.Lore.Linkage
import StoryWorld.Proofs.Lore.Links
import StoryWorld.Proofs.Lore.Mentioners
import StoryWorld.Proofs.Lore.Mentions
import StoryWorld.Proofs.Lore.Normalised
import StoryWorld.Proofs.Lore.OutcomeOrder
import StoryWorld.Proofs.Lore.Placements
import StoryWorld.Proofs.Lore.RebuiltPairs
import StoryWorld.Proofs.Lore.Recounting
import StoryWorld.Proofs.Lore.References
import StoryWorld.Proofs.Lore.Renumbering
import StoryWorld.Proofs.Lore.Resolution
import StoryWorld.Proofs.Lore.RoundTrip
import StoryWorld.Proofs.Lore.SecondExport
import StoryWorld.Proofs.Lore.SettledWorlds
import StoryWorld.Proofs.Lore.ShownValues
import StoryWorld.Proofs.Lore.SideBySide
import StoryWorld.Proofs.Lore.SilentChanges
import StoryWorld.Proofs.Lore.SpawnFolding
import StoryWorld.Proofs.Lore.SpawnTables
import StoryWorld.Proofs.Lore.Spawns
import StoryWorld.Proofs.Lore.StepwiseImport
import StoryWorld.Proofs.Lore.ToldEdges
import StoryWorld.Proofs.Lore.Triggers
import StoryWorld.Proofs.Lore.Unambiguous
import StoryWorld.Proofs.Lore.Verdict
import StoryWorld.Proofs.Lore.WellFormedImport
import StoryWorld.Proofs.Lore.WithoutPlace
import StoryWorld.Proofs.Lore.Workbench
import StoryWorld.Proofs.Lore.WrittenEntries
import StoryWorld.Proofs.RecordedMentions
import StoryWorld.Proofs.Related
import StoryWorld.Proofs.Store.Atomicity
import StoryWorld.Proofs.Store.Bodies
import StoryWorld.Proofs.Store.Cascades
import StoryWorld.Proofs.Store.Change
import StoryWorld.Proofs.Store.Consistency
import StoryWorld.Proofs.Store.DeletedPlaces
import StoryWorld.Proofs.Store.DeletionOrder
import StoryWorld.Proofs.Store.Generations
import StoryWorld.Proofs.Store.ListedSublocations
import StoryWorld.Proofs.Store.Loading
import StoryWorld.Proofs.Store.Numberings
import StoryWorld.Proofs.Store.OverrideSessions
import StoryWorld.Proofs.Store.Overrides
import StoryWorld.Proofs.Store.Patches
import StoryWorld.Proofs.Store.RequestedEdges
import StoryWorld.Proofs.Store.Requests
import StoryWorld.Proofs.Store.Sessions
import StoryWorld.Proofs.Store.TypedEdges
import StoryWorld.Proofs.Store.VisibleChanges
import StoryWorld.Proofs.Table
import StoryWorld.Proofs.Text.Delimited
import StoryWorld.Proofs.Text.Quoted
import StoryWorld.Proofs.Text.Trimming
import StoryWorld.Store.Basic
import StoryWorld.Store.InPlace
import StoryWorld.Store.Numbering
import StoryWorld.Store.Operation
import StoryWorld.Table
import StoryWorld.Text.Blank
import StoryWorld.Text.CaseTable
import StoryWorld.Text.Digits
import StoryWorld.Text.InvisibleTable
import StoryWorld.Text.Lowercase
import StoryWorld.Text.Quoted
import StoryWorld.Text.Range
import StoryWorld.Text.Split
import StoryWorld.Toml.Basic
import StoryWorld.Toml.Parser
import StoryWorld.Toml.Scalar
import StoryWorld.Toml.Token
