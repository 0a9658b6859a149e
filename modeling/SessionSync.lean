import SessionSync.Text.Pieces
import SessionSync.Text.WhiteSpace
import SessionSync.Text.CaseTable
import SessionSync.Text.Lowercase
import SessionSync.Text.Utf8
import SessionSync.Json.Basic
import SessionSync.Json.Token
import SessionSync.Json.Parser
import SessionSync.Json.Plain
import SessionSync.Json.Record
import SessionSync.Json.Printer
import SessionSync.Account.Id
import SessionSync.Account.Catalog
import SessionSync.Service.Failure
import SessionSync.Session.AccountList
import SessionSync.Pass.Plan
import SessionSync.Pass.State
import SessionSync.Account.Credential
import SessionSync.Disk.Folder
import SessionSync.Disk.Replace
import SessionSync.Store.BookFile
import SessionSync.Store.Basic
import SessionSync.Store.AccessToken
import SessionSync.Service.Mailbox
import SessionSync.Service.Profile
import SessionSync.Url.Address
import SessionSync.Url.DomainTable
import SessionSync.Url.Punycode
import SessionSync.Url.Domain
import SessionSync.Url.Basic
import SessionSync.Config.Basic
import SessionSync.Config.File
import SessionSync.Pass.Coordinator
import SessionSync.Session.Worker
import SessionSync.Supervision.Supervisor
import SessionSync.Supervision.EventLoop
import SessionSync.Simulation.Services
import SessionSync.Simulation.World
import SessionSync.Simulation.Stimulus
import SessionSync.Http.Form
import SessionSync.Http.Cookie
import SessionSync.Http.Exchange
import SessionSync.Disk.Path
import SessionSync.Disk.DataFolder
import SessionSync.Log.Filter
import SessionSync.Log.Journal
import SessionSync.CommandLine.Arguments
import SessionSync.CommandLine.Accounts
import SessionSync.CommandLine.Session
import SessionSync.Simulation.Serving
import SessionSync.Log.Date
import SessionSync.Main
import SessionSync.Proofs.Account.AccountSet
import SessionSync.Proofs.Account.Entries
import SessionSync.Proofs.Pass.Runs
import SessionSync.Proofs.Pass.Coherence
import SessionSync.Proofs.Pass.SingleFlight
import SessionSync.Proofs.Pass.StalePasses
import SessionSync.Proofs.Pass.Answers
import SessionSync.Proofs.Pass.CompletionOrder
import SessionSync.Proofs.Text.Utf8
import SessionSync.Proofs.Text.Normalization
import SessionSync.Proofs.Json.Scanning
import SessionSync.Proofs.Json.Reading
import SessionSync.Proofs.Json.Grammar
import SessionSync.Proofs.Json.RoundTrip
import SessionSync.Proofs.Json.Recognition
import SessionSync.Proofs.Store.BookRoundTrip
import SessionSync.Proofs.Store.Operations
import SessionSync.Proofs.Store.Commands
import SessionSync.Proofs.Store.SharedFolder
import SessionSync.Proofs.Pass.Planning
import SessionSync.Proofs.Store.SoleWriter
import SessionSync.Proofs.Session.Listing
import SessionSync.Proofs.Session.WorkerOrder
import SessionSync.Proofs.System.Wiring
import SessionSync.Proofs.Store.RefreshTokens
import SessionSync.Proofs.System.Gathering
import SessionSync.Proofs.System.Carrying
import SessionSync.Proofs.System.Convergence
import SessionSync.Proofs.System.Agreement
import SessionSync.Proofs.System.Removal
import SessionSync.Proofs.Service.Mailbox
import SessionSync.Proofs.Supervision.Delivery
import SessionSync.Proofs.Supervision.Turns
import SessionSync.Proofs.Supervision.Revocations
import SessionSync.Proofs.Store.Saving
import SessionSync.Proofs.Store.Refreshes
import SessionSync.Proofs.Pass.FlowTurns
import SessionSync.Proofs.Pass.Unanswered
import SessionSync.Proofs.Pass.Validation
import SessionSync.Proofs.Pass.Verdicts
import SessionSync.Proofs.Supervision.Handling
import SessionSync.Proofs.Supervision.ProfileLoop
import SessionSync.Proofs.Supervision.BackgroundTasks
import SessionSync.Proofs.Config.RoundTrip
import SessionSync.Proofs.Store.CanonicalForm
import SessionSync.Proofs.Store.CommandMap
import SessionSync.Proofs.Pass.Removals
import SessionSync.Proofs.Supervision.Daemon
import SessionSync.Proofs.Supervision.Closing
import SessionSync.Proofs.Supervision.TearDown
import SessionSync.Proofs.Store.FileDifference
import SessionSync.Proofs.Pass.ActionOrder
import SessionSync.Proofs.Store.FailedChanges
import SessionSync.Proofs.Store.HeldAndWaiting
import SessionSync.Proofs.Store.LastWrite
import SessionSync.Proofs.Store.UnreadableFile
import SessionSync.Proofs.Store.TokenCache
import SessionSync.Proofs.Pass.RemovalOrder
import SessionSync.Proofs.Store.AtomicReplacement
import SessionSync.Proofs.Account.JoinKey
