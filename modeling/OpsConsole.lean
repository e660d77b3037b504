import OpsConsole.Link.Task
import OpsConsole.Main
import OpsConsole.Proofs.Link.Ledger
import OpsConsole.Proofs.Link.Bracketing
import OpsConsole.Proofs.Link.Staleness
import OpsConsole.Proofs.Link.Isolation
import OpsConsole.Proofs.Json.Numbers
import OpsConsole.Proofs.Json.Rendering
import OpsConsole.Proofs.Json.RoundTrip
import OpsConsole.Proofs.Feed.Codec
import OpsConsole.Proofs.Feed.Projection
import OpsConsole.Proofs.Files.Removal
import OpsConsole.Proofs.Files.Replacement
import OpsConsole.Proofs.SignIn.Expiry
import OpsConsole.Proofs.SignIn.Saving
import OpsConsole.Proofs.Backend.Performance
import OpsConsole.Proofs.Backend.Lateness
import OpsConsole.Proofs.Link.Activity
import OpsConsole.Proofs.SignIn.Entrance
import OpsConsole.Proofs.Console.Binding
import OpsConsole.Proofs.SignIn.Agreement
import OpsConsole.Proofs.SignIn.Refusal
import OpsConsole.Proofs.Url.Decoding
import OpsConsole.Proofs.Backend.Endpoint
import OpsConsole.Proofs.Link.Delays
import OpsConsole.Proofs.Link.Pacing
import OpsConsole.Proofs.Link.Phases
import OpsConsole.Proofs.Link.Credentials
import OpsConsole.Proofs.Link.Revision
import OpsConsole.Proofs.Feed.Presentation
import OpsConsole.Proofs.Feed.Contents
import OpsConsole.Proofs.Console.Overlap
import OpsConsole.Proofs.Feed.Queue
import OpsConsole.Proofs.Link.Doubling
import OpsConsole.Proofs.Access.Spelling
import OpsConsole.Proofs.Access.Matching
import OpsConsole.Proofs.Url.PathText
import OpsConsole.Proofs.Backend.Containment
import OpsConsole.Proofs.Files.Names
import OpsConsole.Proofs.Files.Tree
import OpsConsole.Proofs.Files.Siblings
import OpsConsole.Proofs.Files.Growth
import OpsConsole.Proofs.SignIn.Register
import OpsConsole.Proofs.Link.Delivery
import OpsConsole.Proofs.Access.Redirects
import OpsConsole.Proofs.Feed.Acknowledgement
import OpsConsole.Proofs.Json.Members
import OpsConsole.Proofs.Access.Readings
import OpsConsole.Proofs.Access.ClaimText
import OpsConsole.Proofs.Json.Records
import OpsConsole.Proofs.Access.UserText
