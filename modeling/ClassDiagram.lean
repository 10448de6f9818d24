import ClassDiagram.CommandLine.Parse
import ClassDiagram.CommandLine.Run
import ClassDiagram.Decimal.Shortest
import ClassDiagram.Declaration
import ClassDiagram.Declaration.Format
import ClassDiagram.Delivery.Web
import ClassDiagram.Delivery.World
import ClassDiagram.Diagram
import ClassDiagram.Diagram.Build
import ClassDiagram.Diagram.Format
import ClassDiagram.Failure
import ClassDiagram.Generator
import ClassDiagram.Json.Numeral
import ClassDiagram.Json.Reader
import ClassDiagram.Log.Setup
import ClassDiagram.Main
import ClassDiagram.Proofs.CommandLine.GenerateOutcome
import ClassDiagram.Proofs.CommandLine.LogSettings
import ClassDiagram.Proofs.CommandLine.SessionOutcomes
import ClassDiagram.Proofs.CommandLine.Settings
import ClassDiagram.Proofs.CommandLine.Spellings
import ClassDiagram.Proofs.Declaration.CallOrder
import ClassDiagram.Proofs.Declaration.LastRestriction
import ClassDiagram.Proofs.Declaration.RoundTrip
import ClassDiagram.Proofs.Declaration.Spelling
import ClassDiagram.Proofs.Delivery.ActionOutcomes
import ClassDiagram.Proofs.Delivery.DeliveredTexts
import ClassDiagram.Proofs.Delivery.SentTexts
import ClassDiagram.Proofs.Delivery.UnreadInput
import ClassDiagram.Proofs.Diagram.AccountedSymbols
import ClassDiagram.Proofs.Diagram.BuildOutcome
import ClassDiagram.Proofs.Diagram.DroppedSymbols
import ClassDiagram.Proofs.Diagram.EntryOrder
import ClassDiagram.Proofs.Diagram.FirstOffender
import ClassDiagram.Proofs.Diagram.Pruning
import ClassDiagram.Proofs.Diagram.PushedEntries
import ClassDiagram.Proofs.Diagram.Rearrangement
import ClassDiagram.Proofs.Diagram.Renaming
import ClassDiagram.Proofs.Engine.AppendedBodies
import ClassDiagram.Proofs.Engine.FragmentOrder
import ClassDiagram.Proofs.Engine.MemberPieces
import ClassDiagram.Proofs.Engine.MermaidDecoding
import ClassDiagram.Proofs.Engine.RegistryHistory
import ClassDiagram.Proofs.Engine.RegistryRuns
import ClassDiagram.Proofs.Engine.RegistrySelection
import ClassDiagram.Proofs.Engine.RenderedBodies
import ClassDiagram.Proofs.Engine.YumlDecoding
import ClassDiagram.Proofs.Files.Writing
import ClassDiagram.Proofs.Json.ReaderInvariants
import ClassDiagram.Proofs.Json.RenderedTexts
import ClassDiagram.Proofs.Json.SkippedValues
import ClassDiagram.Proofs.Json.SpelledRecords
import ClassDiagram.Proofs.Json.SpelledValues
import ClassDiagram.Proofs.Json.ValueTexts
import ClassDiagram.Proofs.Log.ReportEvents
import ClassDiagram.Proofs.Log.ReportResults
import ClassDiagram.Proofs.Text.FormDecoding
import ClassDiagram.Proofs.Text.Replacing
import ClassDiagram.Proofs.Text.Splitting
import ClassDiagram.Proofs.Text.Trimming
import ClassDiagram.Proofs.Yuml.BaseUrls
import ClassDiagram.Proofs.Yuml.ImageUrls
import ClassDiagram.Proofs.Yuml.UploadOutcome
import ClassDiagram.Text.Blank
import ClassDiagram.Text.Form
import ClassDiagram.Text.Quoted
import ClassDiagram.Text.Utf8
