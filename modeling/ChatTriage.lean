import ChatTriage.Rehearsal.Script
import ChatTriage.Rehearsal.Transcript
import ChatTriage.Main
import ChatTriage.Proofs.Desk.Isolation
import ChatTriage.Proofs.Desk.Notes
import ChatTriage.Proofs.Desk.Forwarding
import ChatTriage.Proofs.Office.Recovery
import ChatTriage.Proofs.Office.Selection
import ChatTriage.Proofs.Office.Intake
import ChatTriage.Proofs.Office.Outcome
import ChatTriage.Proofs.Office.Versions
import ChatTriage.Proofs.Inbound.Session
import ChatTriage.Proofs.Desk.Scope
import ChatTriage.Proofs.Office.Outsiders
import ChatTriage.Proofs.Filter.Document
import ChatTriage.Proofs.Store.Reached
import ChatTriage.Proofs.Desk.Orders
import ChatTriage.Proofs.Office.Orders
import ChatTriage.Proofs.Desk.Phases
import ChatTriage.Proofs.Office.Loop
import ChatTriage.Proofs.Office.Commute
import ChatTriage.Proofs.Office.Serial
import ChatTriage.Proofs.Store.Undated
import ChatTriage.Proofs.Office.Alike
import ChatTriage.Proofs.Office.Steady
import ChatTriage.Proofs.Office.Interleaved
import ChatTriage.Proofs.Office.Statuses
import ChatTriage.Proofs.Store.Saved
import ChatTriage.Proofs.Office.Malformed
import ChatTriage.Proofs.Store.Apart
import ChatTriage.Proofs.Office.Seeding
import ChatTriage.Proofs.Office.Counters
import ChatTriage.Proofs.Office.Ways
import ChatTriage.Proofs.Office.Redelivery
import ChatTriage.Proofs.Office.Defaults
import ChatTriage.Proofs.Command.Recognition
import ChatTriage.Proofs.Office.Edits
import ChatTriage.Proofs.Office.Independence
import ChatTriage.Proofs.Matching.Keywords
import ChatTriage.Proofs.Matching.Window
import ChatTriage.Proofs.Matching.Criteria
import ChatTriage.Proofs.Office.Reseeding
import ChatTriage.Proofs.Channel.Tokens
import ChatTriage.Proofs.Channel.Refusals
import ChatTriage.Proofs.Channel.Session
import ChatTriage.Proofs.Phone.Compared
import ChatTriage.Proofs.Logging
import ChatTriage.Proofs.Login
import ChatTriage.Proofs.Office.Snapshot
import ChatTriage.Proofs.Inbound.Complete
import ChatTriage.Proofs.Command.Keywords
import ChatTriage.Proofs.Inbound.Posting
