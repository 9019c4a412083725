import RemediationLedger.Attribute
import RemediationLedger.Calendar.Date
import RemediationLedger.Calendar.DateTime
import RemediationLedger.Conformance.Check
import RemediationLedger.Conformance.Checks
import RemediationLedger.Conformance.Detail
import RemediationLedger.Conformance.FlawedStore
import RemediationLedger.Conformance.Report
import RemediationLedger.Coordinator
import RemediationLedger.Coordinator.Conflict
import RemediationLedger.Decimal.Shortest
import RemediationLedger.Error
import RemediationLedger.Event
import RemediationLedger.FileTree
import RemediationLedger.Finding
import RemediationLedger.Finding.Access
import RemediationLedger.History
import RemediationLedger.Item
import RemediationLedger.Json.Fault
import RemediationLedger.Json.Number
import RemediationLedger.Json.Record
import RemediationLedger.Json.Skip
import RemediationLedger.Json.Text
import RemediationLedger.KeyMap
import RemediationLedger.Log
import RemediationLedger.Log.Directive
import RemediationLedger.Log.Filter
import RemediationLedger.Log.Pattern
import RemediationLedger.Program
import RemediationLedger.Proofs.Agreement
import RemediationLedger.Proofs.Alone
import RemediationLedger.Proofs.BlankTexts
import RemediationLedger.Proofs.BreakOff
import RemediationLedger.Proofs.ByteOrder
import RemediationLedger.Proofs.CommitOrder
import RemediationLedger.Proofs.Conflicts
import RemediationLedger.Proofs.DayNumbers
import RemediationLedger.Proofs.Discipline
import RemediationLedger.Proofs.Enrichment
import RemediationLedger.Proofs.Expiry
import RemediationLedger.Proofs.FirstCreator
import RemediationLedger.Proofs.Footprint
import RemediationLedger.Proofs.Frame
import RemediationLedger.Proofs.Independence
import RemediationLedger.Proofs.Interleaving
import RemediationLedger.Proofs.JsonGrammar
import RemediationLedger.Proofs.KeyAttributes
import RemediationLedger.Proofs.LastWriter
import RemediationLedger.Proofs.Layers
import RemediationLedger.Proofs.Listings
import RemediationLedger.Proofs.LoggedOnce
import RemediationLedger.Proofs.Numerals
import RemediationLedger.Proofs.ObjectLayout
import RemediationLedger.Proofs.Overrides
import RemediationLedger.Proofs.Placeholders
import RemediationLedger.Proofs.ProtocolAttributes
import RemediationLedger.Proofs.Provenance
import RemediationLedger.Proofs.RecordKeys
import RemediationLedger.Proofs.Recreated
import RemediationLedger.Proofs.Registered
import RemediationLedger.Proofs.Repeated
import RemediationLedger.Proofs.RequestLayout
import RemediationLedger.Proofs.RowFolds
import RemediationLedger.Proofs.Rows
import RemediationLedger.Proofs.SingleCommit
import RemediationLedger.Proofs.SingleUpdate
import RemediationLedger.Proofs.SkippedTexts
import RemediationLedger.Proofs.SpelledTexts
import RemediationLedger.Proofs.Stages
import RemediationLedger.Proofs.StampOrder
import RemediationLedger.Proofs.StatusWords
import RemediationLedger.Proofs.Transactions
import RemediationLedger.Proofs.UnreadFinding
import RemediationLedger.Proofs.Updates
import RemediationLedger.Proofs.UtcForms
import RemediationLedger.Proofs.ValidRetention
import RemediationLedger.Proofs.Verdicts
import RemediationLedger.Proofs.WriteOrder
import RemediationLedger.Proofs.WrittenJson
import RemediationLedger.Rehearsal
import RemediationLedger.Request
import RemediationLedger.Request.Json
import RemediationLedger.Retention
import RemediationLedger.Settings
import RemediationLedger.Settings.Entry
import RemediationLedger.Settings.Error
import RemediationLedger.Settings.Json
import RemediationLedger.Settings.Toml
import RemediationLedger.Status
import RemediationLedger.Status.Json
import RemediationLedger.Status.Mapper
import RemediationLedger.Store
import RemediationLedger.Store.Error
import RemediationLedger.Text.Alphanumeric
import RemediationLedger.Text.AsciiCase
import RemediationLedger.Text.Blank
import RemediationLedger.Text.Bytes
import RemediationLedger.Text.Hexadecimal
import RemediationLedger.Text.Printable
import RemediationLedger.Text.Quoted
import RemediationLedger.Text.Word
import RemediationLedger.Toml.Document
import RemediationLedger.Toml.Node
import RemediationLedger.Toml.Scalar
import RemediationLedger.Toml.Text
import RemediationLedger.Write
import RemediationLedger.Write.Rendering
