import Fresnica.Python.DataStore
import Fresnica.Python.TradeSegments

/-!
# Market data and the data of an account

The service asks Horizon, saves what it is answered, and answers from the cache. The offers of
an account are read page by page, from the newest on, and saved as one snapshot. Its trades are
read up from the newest cached one, at most five pages in a call, and each page is saved as it
comes; without a cached trade the newest ones are read once. Whether the head was reached is
remembered for each account.

A failed request raises, so that what was saved before it stays.

## Main definitions

* `Adapter` — what Horizon answers to the requests of a call
* `DexService` — the cache, and what is remembered
* `collectOffers`, `getOffers` — the offers of an account
* `syncAccountTradeIncrement`, `getAccountTradeSegmentSnapshot` — its trades
* `getTrades`, `getTradeAggregations` — the data of a market
-/

namespace Fresnica.Python.Dex

open Foundation DataStore TradeSegments

variable {Body : Type}

def offerPageLimit : ℕ := 200

def accountTradePageLimit : ℕ := 200

def accountTradeMaxIncrementalPages : ℕ := 5

/-- What Horizon answers in a call; the requests for pages are numbered. An answer may fail. -/
structure Adapter (Body : Type) where
  getOffers (request : ℕ) (address : String) (limit : ℕ) (cursor : Option ℤ) (desc : Bool) :
    Except String (Payload (Offer Body))
  getAccountTrades (request : ℕ) (address : String) (limit : ℕ) (cursor : Option String)
    (desc : Bool) : Except String (Payload (Trade Body))
  getTrades (base counter : Asset) (limit : ℤ) : Except String (Payload (Trade Body))
  getTradeAggregations (base counter : Asset) (resolution : ℤ)
    (startTime endTime offset : Option ℤ) (limit : ℤ) :
    Except String (Payload (TradeAggregation Body))

/-- The cache, and whether the head of an account's trades was reached. -/
structure DexService (Body : Type) where
  datastore : MemoryDataStore Body
  accountTradeCaughtUp : Dict String Bool

def new : DexService Body := ⟨.new, .empty⟩

/-! ### Keys -/

def assetPairKey (base counter : Asset) : String :=
  TradeSegments.assetKey base ++ ">" ++ TradeSegments.assetKey counter

def accountTradeCacheKey (address : String) : String := "account:" ++ address

/-- The paging token, or else the identifier. -/
def offerPagingToken (item : Offer Body) : Option ℤ := item.pagingToken.or item.id

def resolutions : List (String × ℤ) :=
  [("1m", 60000), ("5m", 300000), ("15m", 900000), ("1h", 3600000), ("1d", 86400000),
    ("1w", 604800000)]

section Service

variable (adapter : Adapter Body) (networkName : String) (service : DexService Body)

/-! ### Offers -/

def offersStalled : String := "Offer pagination stalled before a complete snapshot"

/-- The loop over the pages of offers. Without fuel it has no result. -/
def collectOffers (address : String) :
    ℕ → ℕ → Option ℤ → List (Offer Body) → Option (Except String (List (Offer Body)))
  | 0, _, _, _ => none
  | fuel + 1, request, cursor, found =>
    match adapter.getOffers request address offerPageLimit cursor true with
    | .error error => some (.error error)
    | .ok response =>
      let page := records response
      let found := found ++ page
      if page.length < offerPageLimit then some (.ok found)
      else
        match page.getLast? >>= offerPagingToken with
        | none => some (.error offersStalled)
        | some next =>
          if some next = cursor then some (.error offersStalled)
          else collectOffers address fuel (request + 1) (some next) found

/-- The snapshot is saved once it is complete. -/
def syncOffersSnapshot (fuel : ℕ) (address : String) :
    Option (Except String ℕ × DexService Body) :=
  (collectOffers adapter address fuel 0 none []).map fun
    | .error error => (.error error, service)
    | .ok found => (.ok found.length,
        { service with
          datastore := service.datastore.saveOffers (networkName, address) (.list found) })

def getOffers (fuel : ℕ) (address : String) (limit : ℤ) (refresh : Bool) :
    Option (Except String (List (Offer Body)) × DexService Body) :=
  if refresh then
    (syncOffersSnapshot adapter networkName service fuel address).map fun
      | (.error error, service) => (.error error, service)
      | (.ok _, service) =>
        (.ok (service.datastore.getOffers (networkName, address) limit), service)
  else some (.ok (service.datastore.getOffers (networkName, address) limit), service)

/-! ### The trades of an account -/

/-- The loop over the pages of trades, up from the cursor. -/
def syncAccountTradeIncrement (address : String) :
    ℕ → ℕ → String → MemoryDataStore Body → Except String Bool × MemoryDataStore Body
  | 0, _, _, store => (.ok false, store)
  | pages + 1, request, cursor, store =>
    match adapter.getAccountTrades request address accountTradePageLimit (some cursor) false with
    | .error error => (.error error, store)
    | .ok response =>
      match (records response).getLast? with
      | none => (.ok true, store)
      | some last =>
        let store :=
          store.saveTrades (networkName, accountTradeCacheKey address) (.list (records response))
        match last.token with
        | none => (.ok false, store)
        | some next =>
          if next = cursor then (.ok false, store)
          else if (records response).length < accountTradePageLimit then (.ok true, store)
          else syncAccountTradeIncrement address pages (request + 1) next store

/-- The token of the newest cached trade. -/
def newestToken (store : MemoryDataStore Body) (scope : Scope) : Option String :=
  ((store.getTrades scope 1).head? >>= Trade.token).filter (· ≠ "")

/-- Up from the newest cached trade, or the newest trades if none is cached. -/
def syncAccountTrades (address : String) (limit : ℤ) (store : MemoryDataStore Body) :
    Except String Bool × MemoryDataStore Body :=
  let scope := (networkName, accountTradeCacheKey address)
  match newestToken store scope with
  | some cursor =>
    syncAccountTradeIncrement adapter networkName address accountTradeMaxIncrementalPages 0 cursor
      store
  | none =>
    let limit := (min (accountTradePageLimit : ℤ) (max limit 1)).toNat
    match adapter.getAccountTrades 0 address limit none true with
    | .error error => (.error error, store)
    | .ok response => (.ok true, store.saveTrades scope response)

structure AccountTradeSegmentSnapshot (Amount Raw : Type) where
  segments : List (AccountTradeSegment Amount Raw)
  caughtUp : Bool

/-- The refresh of a snapshot; what is remembered changes only if no request fails. -/
def refreshAccountTrades (address : String) (limit : ℤ) : Except String Bool × DexService Body :=
  match syncAccountTrades adapter networkName address limit service.datastore with
  | (.error error, store) => (.error error, { service with datastore := store })
  | (.ok caughtUp, store) =>
    (.ok caughtUp, ⟨store, service.accountTradeCaughtUp.set address caughtUp⟩)

/-- The cached trades of an account, and whether the head was reached. -/
def accountTrades (address : String) (limit : ℤ) (refresh : Bool) :
    Except String (List (Trade Body) × Bool) × DexService Body :=
  let (caughtUp, service) :=
    if refresh then refreshAccountTrades adapter networkName service address limit
    else (.ok ((service.accountTradeCaughtUp.get? address).getD false), service)
  (caughtUp.map fun caughtUp => (service.datastore.getTrades
    (networkName, accountTradeCacheKey address) limit, caughtUp), service)

/-- The cached trades as segments; the trades are decoded by the record and the address. -/
def getAccountTradeSegmentSnapshot {Amount Raw : Type} [Add Amount]
    (accountTradeFromHorizon : Trade Body → String → Except String (AccountTrade Amount Raw))
    (address : String) (limit : ℤ) (refresh : Bool) :
    Except String (AccountTradeSegmentSnapshot Amount Raw) × DexService Body :=
  let (answer, service) := accountTrades adapter networkName service address limit refresh
  (do
    let (raw, caughtUp) ← answer
    let trades ← raw.mapM (accountTradeFromHorizon · address)
    return ⟨TradeSegments.compressAccountTrades trades address, caughtUp⟩, service)

/-! ### The data of a market -/

def getTrades (base counter : Asset) (limit : ℤ) (refresh : Bool) :
    Except String (List (Trade Body)) × DexService Body :=
  let scope := (networkName, assetPairKey base counter)
  if refresh then
    match adapter.getTrades base counter limit with
    | .error error => (.error error, service)
    | .ok response => (.ok (records response),
        { service with datastore := service.datastore.saveTrades scope response })
  else (.ok (service.datastore.getTrades scope limit), service)

def getTradeAggregations (base counter : Asset) (resolution : ℤ)
    (startTime endTime offset : Option ℤ) (limit : ℤ) (refresh : Bool) :
    Except String (List (TradeAggregation Body)) × DexService Body :=
  let scope := (networkName, assetPairKey base counter)
  if ¬ resolution ∈ resolutions.map Prod.snd then
    (.error s!"Unsupported trade aggregation resolution: {resolution}", service)
  else if refresh then
    match adapter.getTradeAggregations base counter resolution startTime endTime offset limit with
    | .error error => (.error error, service)
    | .ok response => (.ok (records response),
        { service with
          datastore := service.datastore.saveTradeAggregations scope resolution response })
  else (.ok (service.datastore.getTradeAggregations scope resolution limit), service)

end Service

end Fresnica.Python.Dex
