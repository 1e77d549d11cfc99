import RLanguageHost.Main
import RLanguageHost.Child.Bench
import RLanguageHost.Session.Bench
import RLanguageHost.Lifecycle.Control
import RLanguageHost.Host.Course
import RLanguageHost.Lifecycle.Rehearsal
import RLanguageHost.Report.Failure
import RLanguageHost.Proofs.Frame.Header
import RLanguageHost.Proofs.Frame.Splitting
import RLanguageHost.Proofs.Text.Decoding
import RLanguageHost.Proofs.Channel.Arrivals
import RLanguageHost.Proofs.Frame.Receiving
import RLanguageHost.Proofs.Frame.Reception
import RLanguageHost.Proofs.Lifecycle.Standing
import RLanguageHost.Proofs.Registry
import RLanguageHost.Proofs.Registry.History
import RLanguageHost.Proofs.Lifecycle.Clearing
import RLanguageHost.Proofs.Lifecycle.Custody
import RLanguageHost.Proofs.Lifecycle.Effects
import RLanguageHost.Proofs.Lifecycle.Runs
import RLanguageHost.Proofs.Lifecycle.Starts
import RLanguageHost.Proofs.Lifecycle.Closing
import RLanguageHost.Proofs.Lifecycle.Deactivation
import RLanguageHost.Proofs.Lifecycle.Stops
import RLanguageHost.Proofs.Uri.Scheme
import RLanguageHost.Proofs.Uri.Text
import RLanguageHost.Proofs.Host.Reading
import RLanguageHost.Proofs.Host.Course
import RLanguageHost.Proofs.Scope.Belonging
import RLanguageHost.Proofs.Workspace
import RLanguageHost.Proofs.Lifecycle.Warrant
import RLanguageHost.Proofs.Lifecycle.Turns
import RLanguageHost.Proofs.Lifecycle.Sharing
import RLanguageHost.Proofs.Frame.Reference
import RLanguageHost.Proofs.Frame.Calls
import RLanguageHost.Proofs.Text.Lossy
import RLanguageHost.Proofs.Frame.RawFrames
import RLanguageHost.Proofs.Host.Accounts
import RLanguageHost.Proofs.Host.Drift
import RLanguageHost.Proofs.Session.Stages
import RLanguageHost.Proofs.Channel.Writing
import RLanguageHost.Proofs.Client.Calls
import RLanguageHost.Proofs.Client.Farewell
import RLanguageHost.Proofs.Lifecycle.Notebooks
import RLanguageHost.Proofs.Glob.Language
import RLanguageHost.Proofs.Glob.Spelling
import RLanguageHost.Proofs.Lifecycle.Claiming
import RLanguageHost.Proofs.Host.Passing
import RLanguageHost.Proofs.Scope.Agreement
import RLanguageHost.Proofs.Lifecycle.Routing
import RLanguageHost.Proofs.Lifecycle.Reversal
import RLanguageHost.Proofs.Session.Holding
import RLanguageHost.Proofs.Text.Sequences
import RLanguageHost.Proofs.Client.Handshake
import RLanguageHost.Proofs.Scope.Selection
import RLanguageHost.Proofs.Folder
import RLanguageHost.Proofs.Child.Exits
import RLanguageHost.Proofs.Child.Running
import RLanguageHost.Proofs.Child.Lines
import RLanguageHost.Proofs.Frame.Grammar
import RLanguageHost.Proofs.Server.Command
