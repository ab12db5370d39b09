import Pageflow.Bridge
import Pageflow.Command.Assignment
import Pageflow.Command.Line
import Pageflow.Command.Report
import Pageflow.Command.Words
import Pageflow.Decimal.Binary64
import Pageflow.Decimal.Shortest
import Pageflow.Dict
import Pageflow.Document.Activity
import Pageflow.Document.Bridge
import Pageflow.Document.Decode
import Pageflow.Document.Page
import Pageflow.Document.Reading
import Pageflow.Document.Ui
import Pageflow.Document.Validation
import Pageflow.Document.Violation
import Pageflow.Document.Writing
import Pageflow.FileTree
import Pageflow.Flow.Activity
import Pageflow.Flow.Assembly
import Pageflow.Flow.Basic
import Pageflow.Flow.Input
import Pageflow.Flow.Source
import Pageflow.Flow.Writing
import Pageflow.Function
import Pageflow.Http.Content
import Pageflow.Http.Message
import Pageflow.Http.Server
import Pageflow.Http.Status
import Pageflow.Http.Timeout
import Pageflow.Http.Writing
import Pageflow.Journal
import Pageflow.Json.Parser
import Pageflow.Json.Pointer
import Pageflow.Json.Printer
import Pageflow.Json.Selection
import Pageflow.Json.Value
import Pageflow.Json.Writing
import Pageflow.Load.Bridge
import Pageflow.Load.Document
import Pageflow.Load.Failure
import Pageflow.Load.Integrity
import Pageflow.Load.Location
import Pageflow.Load.Page
import Pageflow.Load.Writing
import Pageflow.Main
import Pageflow.OpenApi.Operation
import Pageflow.OpenApi.Schema
import Pageflow.OpenApi.Writing
import Pageflow.Path
import Pageflow.Proofs.Addresses
import Pageflow.Proofs.Addressing
import Pageflow.Proofs.Agreement
import Pageflow.Proofs.Alerts
import Pageflow.Proofs.Alike
import Pageflow.Proofs.Answers
import Pageflow.Proofs.Authorities
import Pageflow.Proofs.Backing
import Pageflow.Proofs.Bindings
import Pageflow.Proofs.Calling
import Pageflow.Proofs.Cascade
import Pageflow.Proofs.Chains
import Pageflow.Proofs.Chronicle
import Pageflow.Proofs.Citations
import Pageflow.Proofs.Closed
import Pageflow.Proofs.Composition
import Pageflow.Proofs.Concealment
import Pageflow.Proofs.Conclusions
import Pageflow.Proofs.Containment
import Pageflow.Proofs.Credentials
import Pageflow.Proofs.Declarations
import Pageflow.Proofs.Drawing
import Pageflow.Proofs.Entitled
import Pageflow.Proofs.Errands
import Pageflow.Proofs.Exclusion
import Pageflow.Proofs.Flags
import Pageflow.Proofs.Forest
import Pageflow.Proofs.Forwarding
import Pageflow.Proofs.Frame
import Pageflow.Proofs.Guarded
import Pageflow.Proofs.Headers
import Pageflow.Proofs.Hiding
import Pageflow.Proofs.Honest
import Pageflow.Proofs.Hooks
import Pageflow.Proofs.Identity
import Pageflow.Proofs.Integrity
import Pageflow.Proofs.Interference
import Pageflow.Proofs.Isolation
import Pageflow.Proofs.Keeping
import Pageflow.Proofs.Layout
import Pageflow.Proofs.Leading
import Pageflow.Proofs.Loading
import Pageflow.Proofs.Locations
import Pageflow.Proofs.Lookups
import Pageflow.Proofs.Magnitudes
import Pageflow.Proofs.Mapping
import Pageflow.Proofs.Merging
import Pageflow.Proofs.Methods
import Pageflow.Proofs.Nesting
import Pageflow.Proofs.Nodes
import Pageflow.Proofs.Noting
import Pageflow.Proofs.Operations
import Pageflow.Proofs.Origins
import Pageflow.Proofs.Outcomes
import Pageflow.Proofs.Overriding
import Pageflow.Proofs.Passes
import Pageflow.Proofs.Places
import Pageflow.Proofs.Pointers
import Pageflow.Proofs.Precedence
import Pageflow.Proofs.Previews
import Pageflow.Proofs.Projection
import Pageflow.Proofs.Provenance
import Pageflow.Proofs.Questions
import Pageflow.Proofs.Quiescence
import Pageflow.Proofs.Ranking
import Pageflow.Proofs.Readers
import Pageflow.Proofs.References
import Pageflow.Proofs.Refusals
import Pageflow.Proofs.Rejection
import Pageflow.Proofs.Related
import Pageflow.Proofs.Renaming
import Pageflow.Proofs.Replies
import Pageflow.Proofs.Reports
import Pageflow.Proofs.Requirements
import Pageflow.Proofs.Restoring
import Pageflow.Proofs.RoundTrip
import Pageflow.Proofs.Rules
import Pageflow.Proofs.Selected
import Pageflow.Proofs.Sequences
import Pageflow.Proofs.Session
import Pageflow.Proofs.Shortfalls
import Pageflow.Proofs.Siblings
import Pageflow.Proofs.Spellings
import Pageflow.Proofs.Standing
import Pageflow.Proofs.Starts
import Pageflow.Proofs.Steady
import Pageflow.Proofs.Steps
import Pageflow.Proofs.Stored
import Pageflow.Proofs.Stories
import Pageflow.Proofs.Targets
import Pageflow.Proofs.Task
import Pageflow.Proofs.Telling
import Pageflow.Proofs.Templates
import Pageflow.Proofs.Termination
import Pageflow.Proofs.Tokens
import Pageflow.Proofs.Traffic
import Pageflow.Proofs.Turns
import Pageflow.Proofs.Twins
import Pageflow.Proofs.Untouched
import Pageflow.Proofs.Uploads
import Pageflow.Proofs.Vouched
import Pageflow.Proofs.Worlds
import Pageflow.Proofs.Written
import Pageflow.Remote.Call
import Pageflow.Remote.Operation
import Pageflow.Remote.Request
import Pageflow.Run.Activity
import Pageflow.Run.Call
import Pageflow.Run.Failure
import Pageflow.Run.Host
import Pageflow.Run.Input
import Pageflow.Run.Parameters
import Pageflow.Run.State
import Pageflow.Run.Task
import Pageflow.Run.Trail
import Pageflow.Run.Writing
import Pageflow.Standard
import Pageflow.Store
import Pageflow.Text.Blank
import Pageflow.Text.Case
import Pageflow.Text.CaseTable
import Pageflow.Text.Class
import Pageflow.Text.Percent
import Pageflow.Text.Preview
import Pageflow.Text.Quoted
import Pageflow.Text.Redaction
import Pageflow.Text.UnprintableTable
import Pageflow.Text.Utf8
import Pageflow.Text.WordTable
import Pageflow.Url.Basic
import Pageflow.Url.Host
import Pageflow.Url.Punycode
import Pageflow.Url.Query
import Pageflow.Url.Template
import Pageflow.Yaml.Cursor
import Pageflow.Yaml.Lexeme
import Pageflow.Yaml.Node
import Pageflow.Yaml.Schema
import Pageflow.Yaml.Token
