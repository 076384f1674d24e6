import Treasury.Json.Ordered
import Treasury.Wire.Order
import Treasury.Wire.Request
import Treasury.Wire.Response
import Treasury.Wire.Vendor
import Treasury.Service.Wallets
import Treasury.Service.Deposit
import Treasury.Service.Transfer
import Treasury.Service.Payment
import Treasury.Service.Rewards
import Treasury.Main
import Treasury.Json.Reader
import Treasury.Proofs.Settlement.ZeroSum
import Treasury.Proofs.Settlement.Once
import Treasury.Proofs.Settlement.Records
import Treasury.Proofs.Settlement.Cost
import Treasury.Proofs.Request.Conflict
import Treasury.Proofs.Request.Replay
import Treasury.Proofs.Reward.Requests
import Treasury.Proofs.Reward.Payout
import Treasury.Proofs.Reward.Accounts
import Treasury.Proofs.Reward.Consistency
import Treasury.Proofs.Service.Quiet
import Treasury.Proofs.Service.Atomic
import Treasury.Proofs.World.Turns
import Treasury.Proofs.World.Orders
import Treasury.Proofs.Request.Ordering
import Treasury.Proofs.Request.Single
import Treasury.Proofs.Request.Exact
import Treasury.Proofs.Decimal.Whole
import Treasury.Proofs.Decimal.Product
import Treasury.Proofs.Ledger.Whole
import Treasury.Proofs.Wallet.Closing
import Treasury.Proofs.Settlement.Reversal
import Treasury.Proofs.World.Frame
import Treasury.Proofs.Settlement.Float
import Treasury.Proofs.Reward.Completion
import Treasury.Proofs.Catalog.Repeating
import Treasury.Proofs.Reconciliation.Queue
import Treasury.Proofs.Catalog.Listings
import Treasury.Proofs.Store.Unique
import Treasury.Proofs.Settlement.Success
import Treasury.Proofs.Settlement.Quoted
import Treasury.Proofs.Request.Pricing
import Treasury.Proofs.Request.Transfer
import Treasury.Proofs.World.Answers
import Treasury.Proofs.Catalog.Selling
import Treasury.Proofs.Catalog.Coverage
import Treasury.Proofs.Rate.InForce
import Treasury.Proofs.Ledger.Columns
import Treasury.Proofs.Wire.Payloads
import Treasury.Proofs.Store.Inserts
import Treasury.Proofs.Settings.Periods
import Treasury.Proofs.Schedule.Times
import Treasury.Proofs.Money.Checks
