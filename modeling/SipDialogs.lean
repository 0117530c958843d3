import SipDialogs.Text.Blank
import SipDialogs.Text.Quoted
import SipDialogs.Hash
import SipDialogs.Transition
import SipDialogs.Leg
import SipDialogs.Fault
import SipDialogs.Json.Reader
import SipDialogs.Json.Writer
import SipDialogs.Decode
import SipDialogs.Timestamp
import SipDialogs.Observer
import SipDialogs.Record
import SipDialogs.Timer
import SipDialogs.Dialog
import SipDialogs.LockSet
import SipDialogs.Profile.Directory
import SipDialogs.Table.Bucket
import SipDialogs.Table
import SipDialogs.Table.Lookup
import SipDialogs.Config
import SipDialogs.Registry
import SipDialogs.Registry.Changes
import SipDialogs.Registry.Membership
import SipDialogs.Registry.Timers
import SipDialogs.Registry.Views
import SipDialogs.RequestScope
import SipDialogs.Node
import SipDialogs.Script
import SipDialogs.Session
import SipDialogs.Session.Scopes
import SipDialogs.Toml.Number
import SipDialogs.Toml.Reader
import SipDialogs.Logging
import SipDialogs.Proofs.Contents
import SipDialogs.Proofs.Delivery
import SipDialogs.Proofs.Effects
import SipDialogs.Proofs.Operation
import SipDialogs.Proofs.Edits
import SipDialogs.Proofs.Lingering
import SipDialogs.Proofs.Ledger
import SipDialogs.Proofs.Accounts
import SipDialogs.Proofs.Memberships
import SipDialogs.Proofs.Tagging
import SipDialogs.Proofs.Striping
import SipDialogs.Proofs.Census
import SipDialogs.Proofs.Moments
import SipDialogs.Proofs.Courses
import SipDialogs.Proofs.Runs
import SipDialogs.Proofs.Identity
import SipDialogs.Proofs.Endings
import SipDialogs.Proofs.Rows
import SipDialogs.Proofs.Service
import SipDialogs.Proofs.Realtime
import SipDialogs.Proofs.Restarts
import SipDialogs.Proofs.Homecoming
import SipDialogs.Proofs.Marks
import SipDialogs.Proofs.Flushes
import SipDialogs.Proofs.Freshness
import SipDialogs.Proofs.Withdrawal
import SipDialogs.Proofs.Lives
import SipDialogs.Proofs.Histories
import SipDialogs.Proofs.Slots
import SipDialogs.Proofs.Timers
import SipDialogs.Proofs.Chronicles
import SipDialogs.Proofs.Unwatched
import SipDialogs.Proofs.Bystanders
import SipDialogs.Proofs.Numbers
import SipDialogs.Proofs.Survival
import SipDialogs.Proofs.Failures
import SipDialogs.Proofs.Commuting
import SipDialogs.Proofs.Footprints
import SipDialogs.Proofs.Interleavings
import SipDialogs.Proofs.Refusals
import SipDialogs.Proofs.Loading
import SipDialogs.Proofs.Shares
import SipDialogs.Proofs.Requests
import SipDialogs.Proofs.Decimals
import SipDialogs.Proofs.KeyTexts
import SipDialogs.Proofs.Calendar
import SipDialogs.Proofs.Instants
import SipDialogs.Proofs.SnapshotValues
import SipDialogs.Proofs.Building
import SipDialogs.Proofs.Grants
