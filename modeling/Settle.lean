import Settle.Apply.Backoff
import Settle.Apply.Retry
import Settle.Apply.Session
import Settle.Clock.Deadline
import Settle.Clock.Event
import Settle.Clock.Scale
import Settle.Cluster.Credentials
import Settle.Cluster.Manifest
import Settle.Cluster.Resource
import Settle.CommandLine.Arguments
import Settle.CommandLine.Command
import Settle.CommandLine.Plan
import Settle.CommandLine.Rehearsal
import Settle.CommandLine.Report
import Settle.Config.Basic
import Settle.Config.ErrorOn
import Settle.Config.File
import Settle.Config.Issue
import Settle.Config.Location
import Settle.Config.Read
import Settle.Config.Settings
import Settle.Config.Sources
import Settle.Config.Timeouts
import Settle.Config.Wait
import Settle.Document.Basic
import Settle.Document.Shown
import Settle.Duration
import Settle.Failure
import Settle.Main
import Settle.Match
import Settle.Notice
import Settle.Number.Binary64
import Settle.Number.Literal
import Settle.Number.Power
import Settle.Number.Rounded
import Settle.Number.Shortest
import Settle.Path.Basic
import Settle.Path.Error
import Settle.Path.Parser
import Settle.Path.Walk
import Settle.Pattern.Basic
import Settle.Pattern.Class
import Settle.Pattern.Cursor
import Settle.Pattern.Escape
import Settle.Pattern.Fault
import Settle.Pattern.Node
import Settle.Pattern.Parser
import Settle.Pattern.Search
import Settle.Proofs.Clock.Chronological
import Settle.Proofs.Clock.Exact
import Settle.Proofs.Clock.Extended
import Settle.Proofs.CommandLine.Loading
import Settle.Proofs.CommandLine.Planning
import Settle.Proofs.CommandLine.Refusal
import Settle.Proofs.Config.Accepted
import Settle.Proofs.Config.AsWritten
import Settle.Proofs.Config.Priority
import Settle.Proofs.Config.Rejection
import Settle.Proofs.Config.Timeouts
import Settle.Proofs.Document.Closed
import Settle.Proofs.Duration.Grammar
import Settle.Proofs.Except
import Settle.Proofs.Number.Grammar
import Settle.Proofs.Number.Literal
import Settle.Proofs.Number.Reading
import Settle.Proofs.Number.Sign
import Settle.Proofs.Path.Address
import Settle.Proofs.Path.Grammar
import Settle.Proofs.Path.Key
import Settle.Proofs.Path.Limits
import Settle.Proofs.Path.Offset
import Settle.Proofs.Path.Printing
import Settle.Proofs.Path.Reading
import Settle.Proofs.Pattern.Exact
import Settle.Proofs.Pattern.Limits
import Settle.Proofs.Pattern.Literal
import Settle.Proofs.Pattern.Overflow
import Settle.Proofs.Poll.Course
import Settle.Proofs.Poll.FirstDecisive
import Settle.Proofs.Poll.Replies
import Settle.Proofs.Poll.Schedule
import Settle.Proofs.Poll.Timeline
import Settle.Proofs.Poll.WaitsUntil
import Settle.Proofs.Race.Calls
import Settle.Proofs.Race.ClosedForm
import Settle.Proofs.Race.Course
import Settle.Proofs.Race.Safety
import Settle.Proofs.Race.Situation
import Settle.Proofs.Race.Timeline
import Settle.Proofs.Race.Timely
import Settle.Proofs.Raises
import Settle.Proofs.Retry.Attempts
import Settle.Proofs.Retry.Bounds
import Settle.Proofs.Retry.ClosedForm
import Settle.Proofs.Rollout.Converged
import Settle.Proofs.Rollout.WellFormed
import Settle.Proofs.Rule.FirstMatch
import Settle.Proofs.Rule.Total
import Settle.Proofs.Session.Ending
import Settle.Proofs.Session.Order
import Settle.Proofs.Session.Removal
import Settle.Proofs.Shape.Erasure
import Settle.Proofs.Shape.Idempotence
import Settle.Proofs.Shape.Navigation
import Settle.Proofs.Shape.Projection
import Settle.Proofs.Strategy.Absence
import Settle.Proofs.Strategy.Bookkeeping
import Settle.Proofs.Strategy.Conditions
import Settle.Proofs.Strategy.Decides
import Settle.Proofs.Strategy.Fields
import Settle.Proofs.Strategy.OwnFailures
import Settle.Proofs.Text.Digit
import Settle.Proofs.Text.Numeral
import Settle.Proofs.Text.Row
import Settle.Proofs.Value.Occurs
import Settle.Proofs.Value.Scalar
import Settle.Proofs.Yaml.Faults
import Settle.Proofs.Yaml.Nodes
import Settle.Proofs.Yaml.Scanning
import Settle.Rollout.Count
import Settle.Rollout.Status
import Settle.Rule
import Settle.Shape
import Settle.Text.Basic
import Settle.Text.Case.Fold
import Settle.Text.Case.Lower
import Settle.Text.Case.Run
import Settle.Text.Case.Upper
import Settle.Text.Class.Alphanumeric
import Settle.Text.Class.Blank
import Settle.Text.Class.Digit
import Settle.Text.Class.Identifier
import Settle.Text.Class.Letter
import Settle.Text.Class.Printable
import Settle.Text.Class.Ranges
import Settle.Text.Decimal
import Settle.Text.Escaped
import Settle.Text.Names
import Settle.Text.Quoted
import Settle.Value.Basic
import Settle.Value.Scalar
import Settle.Value.Shown
import Settle.Wait.Poll
import Settle.Wait.Race
import Settle.Wait.Strategy
import Settle.Wait.Target
import Settle.Yaml.Base64
import Settle.Yaml.Block
import Settle.Yaml.Cursor
import Settle.Yaml.Kind
import Settle.Yaml.Layout
import Settle.Yaml.Moment
import Settle.Yaml.Node
import Settle.Yaml.Plain
import Settle.Yaml.Property
import Settle.Yaml.Quoted
import Settle.Yaml.Read
import Settle.Yaml.Scalar
import Settle.Yaml.Token

/-!
# Waiting for objects of a cluster

Objects are written, waited for and deleted under a deadline. Everything between the words of a
command and the requests to the cluster is defined here: documents and their reading, settings,
configurations, paths, regular expressions, strategies, rules to abort on, retries, and the report
of a command.

Four things are given from outside. What the cluster replies to each request, and after which delay,
is a source of replies. Time is what these delays and the pauses add up to. The database that knows
code points by their names is a parameter. Files and variables of the environment are given with
their texts.

Two limits are left out. A regular expression or a document may be nested to any depth, where an
interpreter ends one that is nested a thousand deep or so by a failure of its own. And a collection
that stands in several places of a document is told once for each of them, so the size of a document
is not bounded by that of its text.
-/
