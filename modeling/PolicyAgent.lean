import PolicyAgent.Main
import PolicyAgent.Journal.Document
import PolicyAgent.Journal.Template
import PolicyAgent.Proofs.Identifiers
import PolicyAgent.Proofs.Text.CaseOfDigits
import PolicyAgent.Proofs.Time.Readers
import PolicyAgent.Proofs.Time.Instant
import PolicyAgent.Proofs.Calls
import PolicyAgent.Proofs.Orders
import PolicyAgent.Proofs.Time.WholeMinutes
import PolicyAgent.Proofs.Steps
import PolicyAgent.Proofs.History
import PolicyAgent.Proofs.InMemory
import PolicyAgent.Proofs.Overlay
import PolicyAgent.Proofs.MissingOffsets
import PolicyAgent.Proofs.Staleness
import PolicyAgent.Proofs.Precedence
import PolicyAgent.Proofs.Convergence
import PolicyAgent.Proofs.Procedure
import PolicyAgent.Proofs.Rearrangement
import PolicyAgent.Proofs.Batches
import PolicyAgent.Proofs.Independence
import PolicyAgent.Proofs.Omission
import PolicyAgent.Proofs.Posting
import PolicyAgent.Proofs.Decoding
import PolicyAgent.Proofs.WireForm
import PolicyAgent.Proofs.Listing
import PolicyAgent.Proofs.Comparisons
import PolicyAgent.Proofs.Schedule.Ticks
import PolicyAgent.Proofs.Schedule.Stopping
import PolicyAgent.Proofs.Schedule.Endings
import PolicyAgent.Proofs.Lifetime
import PolicyAgent.Proofs.Records
import PolicyAgent.Proofs.Addresses
import PolicyAgent.Proofs.Polls
import PolicyAgent.Proofs.Schedule.Pacing
import PolicyAgent.Proofs.Intervals
import PolicyAgent.Proofs.Secrecy
