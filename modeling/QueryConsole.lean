import QueryConsole.Catalog.English
import QueryConsole.Catalog.Library
import QueryConsole.Json.Document
import QueryConsole.Main
import QueryConsole.Session
import QueryConsole.Settings.Kept
import QueryConsole.Submission.Run
import QueryConsole.Proofs.Submission.Job
import QueryConsole.Proofs.Submission.Moves
import QueryConsole.Proofs.Submission.Course
import QueryConsole.Proofs.Submission.Coherent
import QueryConsole.Proofs.Submission.LatestWins
import QueryConsole.Proofs.Catalog.Description
import QueryConsole.Proofs.Submission.Escape
import QueryConsole.Proofs.Json.Grammar
import QueryConsole.Proofs.Number.Digits
import QueryConsole.Proofs.Json.Strings
import QueryConsole.Proofs.Json.Numerals
import QueryConsole.Proofs.Json.Members
import QueryConsole.Proofs.Json.Soundness
import QueryConsole.Proofs.Json.Completeness
import QueryConsole.Proofs.Json.Nesting
import QueryConsole.Proofs.Json.Documents
import QueryConsole.Proofs.Endpoint.Acceptance
import QueryConsole.Proofs.Number.Rounding
import QueryConsole.Proofs.Text.Utf8
import QueryConsole.Proofs.Number.Shortest
import QueryConsole.Proofs.Json.WrittenNumbers
import QueryConsole.Proofs.Json.Showable
import QueryConsole.Proofs.Json.Rendering
import QueryConsole.Proofs.Json.ReadingBack
import QueryConsole.Proofs.Endpoint.Rendering
import QueryConsole.Proofs.Submission.Account
import QueryConsole.Proofs.Template.Placeholder
import QueryConsole.Proofs.Template.Pieces
import QueryConsole.Proofs.Catalog.Bundled
import QueryConsole.Proofs.Submission.Described
import QueryConsole.Proofs.Web.Host
import QueryConsole.Proofs.Submission.Wire
import QueryConsole.Proofs.Query.Fields
import QueryConsole.Proofs.Submission.Edits
import QueryConsole.Proofs.Submission.Alone
import QueryConsole.Proofs.Session.Transcript
import QueryConsole.Proofs.Submission.Ready
import QueryConsole.Proofs.Submission.Register
import QueryConsole.Proofs.Submission.Closing
import QueryConsole.Proofs.Submission.Told
import QueryConsole.Proofs.Submission.Masked
import QueryConsole.Proofs.Submission.Lockstep
import QueryConsole.Proofs.Session.Discretion
import QueryConsole.Proofs.Catalog.Recency
import QueryConsole.Proofs.Catalog.Staleness
import QueryConsole.Proofs.Text.WideForms
import QueryConsole.Proofs.Endpoint.Encodings
import QueryConsole.Proofs.Submission.Exchanged
import QueryConsole.Proofs.Submission.Awaited
import QueryConsole.Proofs.Submission.Planned
import QueryConsole.Proofs.Submission.AnyOrder
import QueryConsole.Proofs.Catalog.Formatting
import QueryConsole.Proofs.Settings.Fields
import QueryConsole.Proofs.Settings.Resolution
import QueryConsole.Proofs.EnvFile.Withheld
import QueryConsole.Proofs.Settings.Verbosity
import QueryConsole.Proofs.Session.Verbosity
import QueryConsole.Proofs.Web.Address
import QueryConsole.Proofs.Session.Limits
