import Fresnica.Foundation.Outcome
import Fresnica.Foundation.BoundedInt
import Fresnica.Foundation.Ordered
import Fresnica.Foundation.Greedy
import Fresnica.Foundation.Codec
import Fresnica.Foundation.Grouping
import Fresnica.Foundation.Run
import Fresnica.Foundation.InPlace
import Fresnica.Foundation.Text
import Fresnica.Foundation.Json
import Fresnica.Foundation.Decimal
import Fresnica.Foundation.Ledger
import Fresnica.Xdr
import Fresnica.StrKey
import Fresnica.Asset
import Fresnica.Core.Transaction
import Fresnica.Core.Sdk
import Fresnica.Wallet
import Fresnica.LedgerAuthorization.Plan
import Fresnica.LedgerAuthorization.Classic
import Fresnica.LedgerAuthorization.Snapshot
import Fresnica.LedgerAuthorization.Satisfied
import Fresnica.SigningCoordination.Selection
import Fresnica.SigningCoordination.Review
import Fresnica.SigningCoordination.Providers
import Fresnica.Transaction.Build
import Fresnica.Transaction.Pending
import Fresnica.Transaction.Protection
import Fresnica.Soroban.Prepared
import Fresnica.Soroban.Authorization
import Fresnica.Soroban.Signing
import Fresnica.Transaction.Submission
import Fresnica.Soroban.Submission
import Fresnica.Soroban.Lifecycle
import Fresnica.Transaction.WriteGuard
import Fresnica.Transaction.Stroops
import Fresnica.Horizon
import Fresnica.Dex.Liabilities
import Fresnica.Dex.Preflight
import Fresnica.Dex.Create
import Fresnica.Dex.Update
import Fresnica.Payment.Transfer
import Fresnica.Payment.Accepted
import Fresnica.Transaction.StroopCodec
import Fresnica.Foundation.Significant
import Fresnica.Python.Snapshot
import Fresnica.Python.Availability
import Fresnica.Dex.Price
import Fresnica.Python.OfferService
import Fresnica.Foundation.PathSearch
import Fresnica.Contract.Spec
import Fresnica.Contract.Composition
import Fresnica.Contract.Prepare
import Fresnica.Contract.Validate
import Fresnica.Foundation.Utf8
import Fresnica.Foundation.Base64
import Fresnica.Foundation.Convergents
import Fresnica.Core.SigningRuns
import Fresnica.Core.Agent
import Fresnica.Core.Authorization
import Fresnica.SigningCoordination.Minimality
import Fresnica.Dex.PriceBest
import Fresnica.Foundation.Dict
import Fresnica.Foundation.Slice
import Fresnica.Python.HistoryStore
import Fresnica.Python.HistoryService
import Fresnica.Python.HistoryWalks
import Fresnica.Python.HistoryRuns
import Fresnica.Core.Account
import Fresnica.Core.SecretStore
import Fresnica.Core.ProtectionRegistry
import Fresnica.Core.ProtectedSigner
import Fresnica.Core.ClientApi
import Fresnica.Foundation.Framed
import Fresnica.Storage.WalletStorage
import Fresnica.Storage.WalletRuns
import Fresnica.Python.SorobanService
import Fresnica.Python.SorobanFailure
import Fresnica.Storage.Contacts
import Fresnica.Anchor.Challenge
import Fresnica.Anchor.Http
import Fresnica.Dex.PriceBounds
import Fresnica.Dex.LiabilityBounds
import Fresnica.Dex.Display
import Fresnica.Foundation.Segments
import Fresnica.Dex.Fills
import Fresnica.Python.TradeSegments
import Fresnica.Transaction.Reconciliation
import Fresnica.Contract.Resolve
import Fresnica.Contract.Kept
import Fresnica.Soroban.Assemble
import Fresnica.Core.SignatureOrder
import Fresnica.Foundation.Params
import Fresnica.Anchor.Transfer
import Fresnica.Foundation.FixedPoint
import Fresnica.Token.Amount
import Fresnica.Asset.Identity
import Fresnica.Anchor.Exchange
import Fresnica.Soroban.Detached
import Fresnica.Python.WalletStorage
import Fresnica.Python.ProcessClient
import Fresnica.Python.WalletManager
import Fresnica.Python.ManagerRuns
import Fresnica.Foundation.Queries
import Fresnica.Contract.Gateway
import Fresnica.Contract.Invoke
import Fresnica.Token.Transfer
import Fresnica.Trustline.Change
import Fresnica.Trustline.Accepted
import Fresnica.Foundation.Keyed
import Fresnica.Python.DataStore
import Fresnica.Python.DataStoreRefines
import Fresnica.Asset.Catalog
import Fresnica.Dex.Prepare
import Fresnica.Dex.Offered
import Fresnica.Dex.Accepted
import Fresnica.Foundation.Paging
import Fresnica.Python.DexService
import Fresnica.Python.DexTradeRuns
import Fresnica.Python.DexOffers
