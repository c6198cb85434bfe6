import ScriptFiles.Scenario.Session
import ScriptFiles.Serial.Records
import ScriptFiles.Log.Settings
import ScriptFiles.Proofs.Registry
import ScriptFiles.Proofs.Registry.Interleaving
import ScriptFiles.Proofs.Bridge.Changes
import ScriptFiles.Proofs.Bridge.Answers
import ScriptFiles.Proofs.Bridge.Shifts
import ScriptFiles.Proofs.Bridge.Acceptance
import ScriptFiles.Proofs.Bridge.Books
import ScriptFiles.Proofs.Bridge.Registrations
import ScriptFiles.Proofs.Bridge.Ledger
import ScriptFiles.Proofs.Bridge.LastCalls
import ScriptFiles.Proofs.Bridge.Reservations
import ScriptFiles.Proofs.Bridge.ExactlyOnce
import ScriptFiles.Proofs.Bridge.OwnTurns
import ScriptFiles.Proofs.Bridge.LineProtocol
import ScriptFiles.Proofs.Bridge.Unnoticed
import ScriptFiles.Proofs.Bridge.Signatures
import ScriptFiles.Proofs.Bridge.Validation
import ScriptFiles.Proofs.Bridge.Inline
import ScriptFiles.Proofs.Text.Pieces
import ScriptFiles.Proofs.Text.Basename
import ScriptFiles.Proofs.Lines
import ScriptFiles.Proofs.Lines.Spans
import ScriptFiles.Proofs.Lines.Joining
import ScriptFiles.Proofs.Lines.SizeHint
import ScriptFiles.Proofs.Text.Utf8
import ScriptFiles.Proofs.Bridge.LineTexts
import ScriptFiles.Proofs.Delivery
import ScriptFiles.Proofs.Bridge.Outcomes
import ScriptFiles.Proofs.Bridge.Redemptions
import ScriptFiles.Proofs.Bridge.Teardown
import ScriptFiles.Proofs.Bridge.Readings
import ScriptFiles.Proofs.Bridge.Exceptions
import ScriptFiles.Proofs.Bridge.Containment
import ScriptFiles.Proofs.Bridge.Conducts
import ScriptFiles.Proofs.Bridge.CompletionOrder
import ScriptFiles.Proofs.Text.Encoding
import ScriptFiles.Proofs.Number.Rounding
import ScriptFiles.Proofs.Number.Shortest
import ScriptFiles.Proofs.Number.Numeral
import ScriptFiles.Proofs.Number.Text
import ScriptFiles.Proofs.Number.Integers
import ScriptFiles.Proofs.Number.IntegerText
import ScriptFiles.Proofs.Config
import ScriptFiles.Proofs.Desktop.RelativePaths
import ScriptFiles.Proofs.Desktop.Trees
import ScriptFiles.Proofs.Desktop.Walks
import ScriptFiles.Proofs.Desktop.Answers
import ScriptFiles.Proofs.Desktop.Directories
import ScriptFiles.Proofs.Desktop.Writes
import ScriptFiles.Proofs.Calendar
import ScriptFiles.Proofs.Desktop.Dates
import ScriptFiles.Proofs.Log.Forwarding
import ScriptFiles.Proofs.Desktop.Completion
import ScriptFiles.Proofs.Desktop.LoggedPaths
import ScriptFiles.Proofs.Bridge.Directories
import ScriptFiles.Proofs.Value.Ordered
import ScriptFiles.Proofs.Value.DebugText
