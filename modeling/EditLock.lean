import EditLock.Chain.Basic
import EditLock.Chain.Run
import EditLock.Chain.Steps
import EditLock.Command.Edit
import EditLock.Command.Machine
import EditLock.Command.Options
import EditLock.Command.Upkeep
import EditLock.Command.Words
import EditLock.Failure
import EditLock.Files.Directory
import EditLock.Files.Path
import EditLock.Files.Tree
import EditLock.Http.Connection
import EditLock.Http.Host
import EditLock.Http.Link
import EditLock.Http.Url
import EditLock.Http.Wire
import EditLock.Json.Basic
import EditLock.Json.Fields
import EditLock.Json.Reader
import EditLock.Json.Token
import EditLock.Json.Writer
import EditLock.Main
import EditLock.Object.Key
import EditLock.Object.Kind
import EditLock.Object.Ref
import EditLock.Proofs.Chain.Perform
import EditLock.Proofs.Object.Key
import EditLock.Proofs.Registry.Rows
import EditLock.Proofs.Text.UpperCase
import EditLock.Registry.Record
import EditLock.Registry.Table
import EditLock.Registry.Text
import EditLock.Remote.Address
import EditLock.Remote.Call
import EditLock.Remote.Document
import EditLock.Remote.Exchange
import EditLock.Remote.Message
import EditLock.Remote.Operation
import EditLock.Session.Basic
import EditLock.Session.Cookies
import EditLock.Session.Record
import EditLock.Session.Store
import EditLock.Settings.Basic
import EditLock.Settings.Environment
import EditLock.Step
import EditLock.Sweep
import EditLock.Text.Base64
import EditLock.Text.Blank
import EditLock.Text.Case
import EditLock.Text.CaseTable
import EditLock.Text.Markup
import EditLock.Text.NameMap
import EditLock.Text.Percent
import EditLock.Text.PrintTable
import EditLock.Text.Quoted
import EditLock.Text.Search
import EditLock.Text.Utf8
import EditLock.Time.Calendar
import EditLock.Time.Instant
import EditLock.Time.Reading
import EditLock.Time.Writing
import EditLock.Toml.Basic
import EditLock.Toml.Quotes
import EditLock.Toml.Reader
import EditLock.Toml.Word
import EditLock.Proofs.Chain.Outcomes
import EditLock.Proofs.Chain.Operation
import EditLock.Proofs.Chain.MutualExclusion
import EditLock.Proofs.Chain.Calls
import EditLock.Proofs.Chain.Routing
import EditLock.Proofs.Chain.Release
import EditLock.Proofs.Chain.Outstanding
import EditLock.Proofs.Chain.KeepingStep
import EditLock.Proofs.Chain.Pinned
import EditLock.Proofs.Chain.Forced
import EditLock.Proofs.Chain.Finished
import EditLock.Proofs.Chain.Cause
import EditLock.Proofs.Chain.Foreign
import EditLock.Proofs.Chain.Lifetime
import EditLock.Proofs.Time.Calendar
import EditLock.Proofs.Time.Reading
import EditLock.Proofs.Chain.HeldLock
import EditLock.Proofs.Chain.Invocations
import EditLock.Proofs.Chain.Plan
import EditLock.Proofs.Answers
import EditLock.Proofs.Registry.LockMap
import EditLock.Proofs.Registry.AsMap
import EditLock.Proofs.Json.Word
import EditLock.Proofs.Json.RoundTrip
import EditLock.Proofs.Files.Directory
import EditLock.Proofs.Session.Names
import EditLock.Proofs.Session.Record
import EditLock.Proofs.Session.SessionMap
import EditLock.Proofs.Session.AsMap
import EditLock.Proofs.Sweep.Locks
import EditLock.Proofs.Sweep.Sessions
import EditLock.Proofs.Sweep.All
import EditLock.Proofs.Session.Saving
import EditLock.Proofs.Http.Saves
import EditLock.Proofs.Http.Sendable
import EditLock.Proofs.Http.Passages
import EditLock.Proofs.Chain.Failing
import EditLock.Proofs.Chain.HeldMode
import EditLock.Proofs.Http.Exchanges
import EditLock.Proofs.Chain.Granted
import EditLock.Proofs.Upkeep.Secrets
import EditLock.Proofs.Upkeep.Handles
import EditLock.Proofs.Upkeep.Concealed
import EditLock.Proofs.Upkeep.Runs
import EditLock.Proofs.Registry.Requests
import EditLock.Proofs.Chain.Recovery
import EditLock.Proofs.Sweep.Amid
import EditLock.Proofs.Http.Sendings
import EditLock.Proofs.Http.Attempts
import EditLock.Proofs.Http.Refetch
import EditLock.Proofs.Text.Cut
import EditLock.Proofs.Remote.Polling
import EditLock.Proofs.Session.CookieHeader
import EditLock.Proofs.Text.Markup
import EditLock.Proofs.Remote.Documents
import EditLock.Proofs.Text.LowerCase
import EditLock.Proofs.Object.Address
import EditLock.Proofs.Object.Spelling
import EditLock.Proofs.Sweep.Whole
import EditLock.Proofs.Sweep.Nested
import EditLock.Proofs.Settings.Rules
import EditLock.Proofs.Upkeep.Ages
import EditLock.Proofs.Text.Element
import EditLock.Proofs.Remote.Handles
