import DebugRecovery.Main
import DebugRecovery.Progress.Watch
import DebugRecovery.Proofs.Each
import DebugRecovery.Proofs.Demand
import DebugRecovery.Proofs.Section
import DebugRecovery.Proofs.Section.Table
import DebugRecovery.Proofs.Text.Words
import DebugRecovery.Proofs.Signature
import DebugRecovery.Proofs.Signature.Spelling
import DebugRecovery.Proofs.Json.Token
import DebugRecovery.Proofs.Json.RoundTrip
import DebugRecovery.Proofs.Json.Same
import DebugRecovery.Proofs.DebugType
import DebugRecovery.Proofs.Files
import DebugRecovery.Proofs.Files.Change
import DebugRecovery.Proofs.Symbol.Entry
import DebugRecovery.Proofs.Symbol.Table
import DebugRecovery.Proofs.Symbol.Load
import DebugRecovery.Proofs.Lookup
import DebugRecovery.Proofs.Lookup.Resolution
import DebugRecovery.Proofs.Lookup.Arrival
import DebugRecovery.Proofs.Lookup.Coordinates
import DebugRecovery.Proofs.Lookup.Displacement
import DebugRecovery.Proofs.Lookup.Routes
import DebugRecovery.Proofs.Image.Linkable
import DebugRecovery.Proofs.Image.Linkable.Base
import DebugRecovery.Proofs.Image.Portable
import DebugRecovery.Proofs.Meaning
import DebugRecovery.Proofs.Meaning.Denotation
import DebugRecovery.Proofs.Meaning.Alias
import DebugRecovery.Proofs.Layout
import DebugRecovery.Proofs.Source.Native
import DebugRecovery.Proofs.Source.Outline
import DebugRecovery.Proofs.Layout.Alias
import DebugRecovery.Proofs.Layout.Defect
import DebugRecovery.Proofs.Document
import DebugRecovery.Proofs.Document.Calls
import DebugRecovery.Proofs.Document.File
import DebugRecovery.Proofs.Reconstruction
import DebugRecovery.Proofs.Lookup.Search
import DebugRecovery.Proofs.Lookup.Extension
import DebugRecovery.Proofs.Reconstruction.Operations
import DebugRecovery.Proofs.Reconstruction.Records
import DebugRecovery.Proofs.Reconstruction.Failures
import DebugRecovery.Proofs.Reconstruction.References
import DebugRecovery.Proofs.Reconstruction.Outline
import DebugRecovery.Proofs.Reconstruction.Counts
import DebugRecovery.Proofs.Options
import DebugRecovery.Proofs.Options.Attachment
import DebugRecovery.Proofs.Session
import DebugRecovery.Proofs.Session.Calls
import DebugRecovery.Proofs.Program
import DebugRecovery.Proofs.Program.Log
import DebugRecovery.Proofs.Program.Plan
import DebugRecovery.Proofs.Program.Output
import DebugRecovery.Proofs.Program.Status
