import Curtain.Lib.Transition
import Curtain.Lib.Simulation
import Curtain.Lib.BoxOffice
import Curtain.Lib.Table
import Curtain.Lib.Totals
import Curtain.Lib.Spacing
import Curtain.Lib.KeyStore
import Curtain.Lib.Locks
import Curtain.Lib.WaitGraph
import Curtain.Lib.Rounds
import Curtain.Lib.Double
import Curtain.Lib.Json
import Curtain.Lib.Builtins
import Curtain.Lib.Tariff
import Curtain.Lib.Separated
import Curtain.Domain
import Curtain.Models
import Curtain.Queries
import Curtain.Gate
import Curtain.Services
import Curtain.World
import Curtain.Calls
import Curtain.Transactions
import Curtain.CancelTerms
import Curtain.Turns
import Curtain.Allocation
import Curtain.Migrations
import Curtain.Ledger
import Curtain.Settlement
import Curtain.Refunds
import Curtain.Numbers
import Curtain.RefundOnce
import Curtain.Keys
import Curtain.Records
import Curtain.OrderBooks
import Curtain.Census
import Curtain.Accounts
import Curtain.Answers
import Curtain.RefundRecords
import Curtain.Silence
import Curtain.Locality
import Curtain.Crashes
import Curtain.Completion
import Curtain.FailOpen
import Curtain.Restoration
import Curtain.SharedHolds
import Curtain.Resale
import Curtain.Breakdowns
import Curtain.SellOut
import Curtain.Sessions
import Curtain.Steps
import Curtain.Locked
import Curtain.Exclusive
import Curtain.Quota
import Curtain.Housekeeping
import Curtain.Writes
import Curtain.Rollback
import Curtain.Alone
import Curtain.Payable
import Curtain.StateMachines
import Curtain.Crossing
import Curtain.Seatmap
import Curtain.Venues
import Curtain.Labels
import Curtain.Layouts
import Curtain.Expansion
import Curtain.FloorPlan
import Curtain.Staleness
import Curtain.SingleFlight
import Curtain.ConfirmOnce
import Curtain.Selling
import Curtain.Ownership
import Curtain.Acquire
import Curtain.Sweeps
import Curtain.Etags
import Curtain.Decoding
import Curtain.LostResponses
import Curtain.FakePG
import Curtain.Reconciler
import Curtain.Backlog
import Curtain.Starvation
