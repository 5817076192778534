import SignerLink.Account
import SignerLink.Adapter.Scripted
import SignerLink.Adapter.Simulated
import SignerLink.Cli.Run
import SignerLink.Error.Classify
import SignerLink.Json.Printer
import SignerLink.Json.Reader
import SignerLink.Main
import SignerLink.Provider.Accounts
import SignerLink.Provider.Clock
import SignerLink.Settings.File
import SignerLink.State.Event
import SignerLink.State.Json
import SignerLink.Transport.Inquiry
import SignerLink.Proofs.Connection.Fields
import SignerLink.Proofs.Connection.Move
import SignerLink.Proofs.Connection.Decomposition
import SignerLink.Proofs.Connection.Supersession
import SignerLink.Proofs.Adapter.Lifetime
import SignerLink.Proofs.Adapter.Living
import SignerLink.Proofs.Connection.SingleAdapter
import SignerLink.Proofs.Adapter.Fresh
import SignerLink.Proofs.Connection.Leadership
import SignerLink.Proofs.Connection.Published
import SignerLink.Proofs.Connection.Settled
import SignerLink.Proofs.Connection.Backing
import SignerLink.Proofs.Provider.Run
import SignerLink.Proofs.Provider.Simulation
import SignerLink.Proofs.Provider.Settled
import SignerLink.Proofs.Error.NormalForm
import SignerLink.Proofs.Connection.Engaged
import SignerLink.Proofs.Connection.Allocation
import SignerLink.Proofs.Connection.Stranded
import SignerLink.Proofs.Connection.Operating
import SignerLink.Proofs.Connection.Lease
import SignerLink.Proofs.Connection.Verification
import SignerLink.Proofs.Connection.Watching
import SignerLink.Proofs.Provider.Growth
import SignerLink.Proofs.Provider.Course
import SignerLink.Proofs.Provider.Unasked
import SignerLink.Proofs.Provider.Search
import SignerLink.Proofs.Connection.Unowned
import SignerLink.Proofs.Provider.Silence
import SignerLink.Proofs.Provider.Release
import SignerLink.Proofs.Connection.Ended
import SignerLink.Proofs.Provider.Ended
import SignerLink.Proofs.Provider.Shutdown
import SignerLink.Proofs.Provider.Contact
import SignerLink.Proofs.Provider.Permission
import SignerLink.Proofs.Connection.Departure
import SignerLink.Proofs.Provider.Pursuit
import SignerLink.Proofs.Provider.AccountCheck
import SignerLink.Proofs.Provider.Following
import SignerLink.Proofs.Provider.Patience
import SignerLink.Proofs.Provider.Retrying
import SignerLink.Proofs.Json.Ordered
import SignerLink.Proofs.Error.Lenient
import SignerLink.Proofs.Error.Unwrapping
import SignerLink.Proofs.Error.Attribution
import SignerLink.Proofs.Provider.Steady
import SignerLink.Proofs.Provider.Completion
import SignerLink.Proofs.Connection.Outcome
import SignerLink.Proofs.Provider.Remembered
import SignerLink.Proofs.Provider.Attachment
import SignerLink.Proofs.Provider.Budget
import SignerLink.Proofs.State.Transition
import SignerLink.Proofs.State.RoundTrip
import SignerLink.Proofs.Error.Phrases
import SignerLink.Proofs.Error.StatusWords
import SignerLink.Proofs.Error.Wrapping
import SignerLink.Proofs.Transport.Agreement
import SignerLink.Proofs.Settings.RetryDelay
import SignerLink.Proofs.Connection.Clearing
import SignerLink.Proofs.Connection.Confirmation
import SignerLink.Proofs.Adapter.AppReport
import SignerLink.Proofs.Transport.Forwarding
import SignerLink.Proofs.Provider.Edits
import SignerLink.Proofs.Transport.Sparing
import SignerLink.Proofs.Provider.Listeners
import SignerLink.Proofs.Provider.Listening
import SignerLink.Proofs.Watched.Reports
import SignerLink.Proofs.Transport.Dismissal
import SignerLink.Proofs.Json.Merge
import SignerLink.Proofs.Toml.Ordered
import SignerLink.Proofs.Settings.Variables
import SignerLink.Proofs.Settings.Layers
import SignerLink.Proofs.Toml.Quoting
import SignerLink.Proofs.Toml.Numerals
import SignerLink.Proofs.Toml.Sections
import SignerLink.Proofs.Settings.Saving
import SignerLink.Proofs.Adapter.Broadcast
import SignerLink.Proofs.Connection.Application
import SignerLink.Proofs.Transport.Pairing
