import Dialogue.Dispatch.Handling
import Dialogue.Dispatch.Poll
import Dialogue.Proofs.Agent.Approval
import Dialogue.Proofs.History.Paired
import Dialogue.Proofs.Session.Atomicity
import Dialogue.Proofs.Session.Cancellation
import Dialogue.Proofs.Dispatch.Barrier
import Dialogue.Proofs.Dispatch.Failures
import Dialogue.Session.Wire
import Dialogue.Settings.Load
import Dialogue.Proofs.Dispatch.Idle
import Dialogue.Proofs.Agent.Growth
import Dialogue.Proofs.Context.Compaction
import Dialogue.Proofs.Session.Exchanges
import Dialogue.Proofs.Session.Summaries
import Dialogue.Proofs.History.Renaming
import Dialogue.Proofs.Process.Likeness
import Dialogue.Proofs.Agent.Likeness
import Dialogue.Proofs.Session.Likeness
import Dialogue.Proofs.Session.Restart
import Dialogue.Proofs.Context.Delimiters
import Dialogue.Proofs.Context.Fallback
import Dialogue.Proofs.Session.Discretion
import Dialogue.Proofs.Dispatch.Replies
import Dialogue.Proofs.Process.Thread
import Dialogue.Proofs.Session.Archiving
import Dialogue.Proofs.Dispatch.Background
import Dialogue.Proofs.Text.Trim
import Dialogue.Proofs.Context.Newest
import Dialogue.Proofs.Session.Opening
import Dialogue.Proofs.Session.Reset
import Dialogue.Proofs.Time.Rfc3339
import Dialogue.Proofs.Chat.Stored
import Dialogue.Proofs.History.Changed
import Dialogue.Proofs.History.Kept
import Dialogue.Proofs.History.Window
import Dialogue.Proofs.Context.Recompaction
import Dialogue.Proofs.Context.Verbatim
import Dialogue.Proofs.History.Locality
import Dialogue.Proofs.History.Estimate
import Dialogue.Proofs.Session.Budget
import Dialogue.Proofs.Agent.Outcome
import Dialogue.Proofs.Tool.Registry
import Dialogue.Proofs.Agent.Results
import Dialogue.Proofs.Agent.Output
import Dialogue.Proofs.Agent.Offers
