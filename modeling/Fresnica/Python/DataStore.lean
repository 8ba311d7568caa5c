import Fresnica.Foundation.Decimal
import Fresnica.Foundation.Keyed
import Fresnica.Foundation.Outcome
import Fresnica.Foundation.Text
import Fresnica.Python.HistoryStore
import Mathlib.Data.Prod.Lex
import Mathlib.Data.String.Basic
import Mathlib.Order.WithBot

/-!
# The two caches of chain data

What a wallet has read from Horizon is cached in dictionaries, or in tables of SQLite. The tables
are written and read by statements: rows are replaced at their primary key, deleted and
inserted anew, and selected in an order. A column that is compared as an integer holds the text of
one, except the paging token of a trade, which is taken apart at its hyphen, in Python by one
store and in SQL by the other.

A limit is any integer. A slice of Python counts a negative one from the end, and a statement
of SQLite has no limit then. A number of more than 64 bits cannot be bound to a statement.

## Main definitions

* `Trade`, `TradeAggregation`, `Offer`, `Balance` — records of Horizon
* `tradePagingKey`, `sqlPagingKey` — what the token of a trade is compared by
* `sliceUpTo`, `limitRows` — the limit of a list, in Python and in SQL
* `MemoryDataStore`, `SQLiteDataStore` — the stores, with their methods
* `Command`, `Answer` — calls of a store
-/

namespace Fresnica.Python.DataStore

open Foundation

variable {Body : Type}

/-! ### Records -/

/-- A response of Horizon: the records, or a page with them, or something else. -/
inductive Payload (ρ : Type)
  | list (items : List ρ)
  | page (embedded : Option (List ρ))
  | other
  deriving DecidableEq

def records {ρ : Type} : Payload ρ → List ρ
  | .list items => items
  | .page embedded => embedded.getD []
  | .other => []

structure Trade (Body : Type) where
  pagingToken : Option String
  id : Option String
  ledgerCloseTime : Option String
  body : Body
  deriving DecidableEq

/-- The paging token, or else the identifier. -/
def Trade.token (item : Trade Body) : Option String := item.pagingToken.or item.id

structure TradeAggregation (Body : Type) where
  timestamp : Option ℤ
  body : Body
  deriving DecidableEq

structure Offer (Body : Type) where
  id : Option ℤ
  pagingToken : Option ℤ
  body : Body
  deriving DecidableEq

/-- The identifier, or else the paging token. -/
def Offer.offerId (item : Offer Body) : Option ℤ := item.id.or item.pagingToken

structure Balance (Body : Type) where
  assetType : Option String
  liquidityPoolId : Option String
  assetCode : Option String
  assetIssuer : Option String
  body : Body
  deriving DecidableEq

def assetKey (asset : Balance Body) : String :=
  if asset.assetType = some "native" then "native"
  else if asset.assetType = some "liquidity_pool_shares" then
    "pool:" ++ asset.liquidityPoolId.getD ""
  else asset.assetCode.getD "" ++ ":" ++ asset.assetIssuer.getD ""

/-! ### Integers in texts -/

/-- Digits, where one underscore may stand between two of them. -/
def unsigned? (digits : List Char) : Option ℕ :=
  let groups := digits.splitOn '_'
  if groups.all fun group => !group.isEmpty && group.all Char.isDigit then
    some (Decimal.value groups.flatten)
  else none

/-- What `int` reads in a text without digits of other scripts. -/
def int? (text : List Char) : Option ℤ :=
  match (text.dropWhile Text.isSpace).rdropWhile Text.isSpace with
  | '-' :: digits => (unsigned? digits).map fun n => -(n : ℤ)
  | '+' :: digits => (unsigned? digits).map fun n => (n : ℤ)
  | digits => (unsigned? digits).map fun n => (n : ℤ)

/-- An integer of SQLite, which has 64 bits; a cast stops at the ends of the range. -/
def castInteger (n : ℤ) : ℤ := max (-9223372036854775808) (min n 9223372036854775807)

/-- `CAST(text AS INTEGER)`: the longest start of the text that spells an integer. -/
def castText (text : List Char) : ℤ :=
  match text.dropWhile fun c => c == ' ' || (9 ≤ c.toNat && c.toNat ≤ 13) with
  | '-' :: digits => castInteger (-(Decimal.value (digits.takeWhile Char.isDigit) : ℤ))
  | '+' :: digits => castInteger (Decimal.value (digits.takeWhile Char.isDigit))
  | digits => castInteger (Decimal.value (digits.takeWhile Char.isDigit))

/-- `str.partition`: what is before a character, whether it is there, and what is after. -/
def partition (c : Char) (text : List Char) : List Char × Bool × List Char :=
  (text.takeWhile (· ≠ c), text.contains c, (text.dropWhile (· ≠ c)).drop 1)

/-- The position of a character, from one; zero without one. -/
def instr (text : List Char) (c : Char) : ℕ := (text.idxOf? c).elim 0 (· + 1)

/-- What the token of a trade is compared by: two integers, and the text. -/
abbrev PagingKey := ℤ ×ₗ ℤ ×ₗ String

def tradePagingKey (value : String) : PagingKey :=
  let (first, separator, rest) := partition '-' value.toList
  let primary := (int? first).getD 0
  let secondary := if separator then (int? rest).getD 0 else 0
  toLex (primary, toLex (secondary, value))

/-- The columns of the `ORDER BY` clause that are computed from the token. -/
def sqlPagingKey (value : String) : PagingKey :=
  let text := value.toList
  let primary := if instr text '-' > 0 then text.take (instr text '-' - 1) else text
  let secondary := if instr text '-' > 0 then text.drop (instr text '-') else ['0']
  toLex (castText primary, toLex (castText secondary, value))

/-! ### Limits -/

inductive StoreError
  | value (message : String)
  | integrity
  | overflow
  deriving DecidableEq

/-- `items[:limit]`, which counts from the end where the limit is negative. -/
def sliceUpTo {α : Type} (limit : ℤ) (items : List α) : List α :=
  if 0 ≤ limit then items.take limit.toNat else items.take (items.length - (-limit).toNat)

/-- `LIMIT`, which is none where it is negative. -/
def limitRows {α : Type} (limit : ℤ) (rows : List α) : List α :=
  if 0 ≤ limit then rows.take limit.toNat else rows

/-- An integer as a parameter of a statement. -/
def bindInteger (n : ℤ) : Except StoreError ℤ :=
  if castInteger n = n then .ok n else .error .overflow

theorem sliceUpTo_natCast {α : Type} (n : ℕ) (items : List α) :
    sliceUpTo n items = items.take n := by
  rw [sliceUpTo, if_pos (Int.natCast_nonneg n), Int.toNat_natCast]

theorem limitRows_eq {α : Type} {limit : ℤ} (h : 0 ≤ limit) (rows : List α) :
    limitRows limit rows = sliceUpTo limit rows := by
  rw [limitRows, sliceUpTo, if_pos h, if_pos h]

/-! ### Dictionaries -/

/-- A network and an account, or a network and a pair of assets. -/
abbrev Scope := String × String

structure MemoryDataStore (Body : Type) where
  balances : Dict Scope (List (Balance Body))
  operations : Dict Scope (Bucket Body)
  liquidityPools : Dict Scope Body
  offers : Dict Scope (List (Offer Body))
  trades : Dict Scope (Dict String (Trade Body))
  tradeAggregations : Dict (Scope × ℤ) (Dict ℤ (TradeAggregation Body))

def negativeLimit : String := "Operation retention limit must be non-negative"

namespace MemoryDataStore

def new : MemoryDataStore Body := ⟨.empty, .empty, .empty, .empty, .empty, .empty⟩

variable (store : MemoryDataStore Body) (scope : Scope)

def saveBalances (balances : List (Balance Body)) : MemoryDataStore Body :=
  { store with balances := store.balances.set scope balances }

def getBalances : List (Balance Body) := (store.balances.get? scope).getD []

def saveOperations (operations : Payload (Operation Body)) : MemoryDataStore Body :=
  { store with
    operations := store.operations.set scope
      (Python.saveOperations (store.operations.bucket scope) (records operations)) }

def getOperations (limit : Option ℤ) : List (Operation Body) :=
  let items := Python.getOperations (store.operations.bucket scope) none
  match limit with
  | none => items
  | some limit => sliceUpTo limit items

def trimOperations (limit : ℤ) : Except StoreError (ℕ × MemoryDataStore Body) :=
  if limit < 0 then .error (.value negativeLimit)
  else
    let bucket := store.operations.bucket scope
    if bucket.entries.length ≤ limit.toNat then .ok (0, store)
    else
      let (removed, kept) := Python.trimOperations bucket limit.toNat
      .ok (removed, { store with operations := store.operations.set scope kept })

def saveLiquidityPool (pool : Body) : MemoryDataStore Body :=
  { store with liquidityPools := store.liquidityPools.set scope pool }

def getLiquidityPool : Option Body := store.liquidityPools.get? scope

def saveOffers (offers : Payload (Offer Body)) : MemoryDataStore Body :=
  { store with offers := store.offers.set scope (records offers) }

def getOffers (limit : ℤ) : List (Offer Body) :=
  sliceUpTo limit ((store.offers.get? scope).getD [])

/-- A token that is empty is not kept. -/
def tradeToken (item : Trade Body) : Option String := item.token.filter (· ≠ "")

def saveTrades (trades : Payload (Trade Body)) : MemoryDataStore Body :=
  { store with trades := store.trades.save tradeToken scope (records trades) }

def tradeRank (item : Trade Body) : String ×ₗ PagingKey :=
  toLex (item.ledgerCloseTime.getD "", tradePagingKey (item.token.getD ""))

def getTrades (limit : ℤ) : List (Trade Body) :=
  sliceUpTo limit (sortDesc tradeRank (store.trades.bucket scope).values)

def saveTradeAggregations (resolution : ℤ) (aggregations : Payload (TradeAggregation Body)) :
    MemoryDataStore Body :=
  { store with
    tradeAggregations := store.tradeAggregations.save TradeAggregation.timestamp
      (scope, resolution) (records aggregations) }

def getTradeAggregations (resolution limit : ℤ) : List (TradeAggregation Body) :=
  sliceUpTo limit (sortDesc (fun item => item.timestamp.getD 0)
    (store.tradeAggregations.bucket (scope, resolution)).values)

end MemoryDataStore

/-! ### Tables -/

structure SQLiteDataStore (Body : Type) where
  balances : Table Scope String (Balance Body)
  operations : Table Scope ℤ (Operation Body)
  liquidityPools : Table String String Body
  offers : Table Scope ℤ (Offer Body)
  trades : Table Scope String (Trade Body)
  tradeAggregations : Table (Scope × ℤ) ℤ (TradeAggregation Body)

namespace SQLiteDataStore

def new : SQLiteDataStore Body := ⟨.empty, .empty, .empty, .empty, .empty, .empty⟩

variable (store : SQLiteDataStore Body) (scope : Scope)

/-- A primary key that is there twice is refused. -/
def saveBalances (balances : List (Balance Body)) : Except StoreError (SQLiteDataStore Body) := do
  let table ← okOr ((store.balances.delete scope fun _ => true).2.insertAll scope
    (balances.map fun item => (assetKey item, item))) .integrity
  return { store with balances := table }

def balanceOrder (row : String × Balance Body) : ℕ ×ₗ String :=
  toLex (if row.1 = "native" then 0 else 1, row.1)

def getBalances : List (Balance Body) :=
  ((store.balances.rows scope).mergeSort fun a b =>
    decide (balanceOrder a ≤ balanceOrder b)).map Prod.snd

def saveOperations (operations : Payload (Operation Body)) : SQLiteDataStore Body :=
  { store with operations := store.operations.save Operation.token scope (records operations) }

def getOperations (limit : Option ℤ) : Except StoreError (List (Operation Body)) :=
  let rows := (sortDesc (fun row => castInteger row.1) (store.operations.rows scope)).map Prod.snd
  match limit with
  | none => .ok rows
  | some limit => do
    let limit ← bindInteger limit
    return limitRows limit rows

def trimOperations (limit : ℤ) : Except StoreError (ℕ × SQLiteDataStore Body) :=
  if limit < 0 then .error (.value negativeLimit)
  else if limit = 0 then
    let (rowcount, table) := store.operations.delete scope fun _ => true
    .ok (rowcount, { store with operations := table })
  else do
    let limit ← bindInteger limit
    let newest := limitRows limit
      (sortDesc castInteger ((store.operations.rows scope).map Prod.fst))
    let (rowcount, table) := store.operations.delete scope fun token => !newest.contains token
    return (rowcount, { store with operations := table })

def saveLiquidityPool (pool : Body) : SQLiteDataStore Body :=
  { store with liquidityPools := store.liquidityPools.replace scope.1 scope.2 pool }

def getLiquidityPool : Option Body := store.liquidityPools.get? scope

/-- An offer without an identifier is not inserted. -/
def saveOffers (offers : Payload (Offer Body)) : Except StoreError (SQLiteDataStore Body) := do
  let table ← okOr ((store.offers.delete scope fun _ => true).2.insertAll scope
    ((records offers).filterMap fun item => item.offerId.map fun id => (id, item))) .integrity
  return { store with offers := table }

def getOffers (limit : ℤ) : Except StoreError (List (Offer Body)) := do
  let limit ← bindInteger limit
  return limitRows limit
    ((sortDesc (fun row => castInteger row.1) (store.offers.rows scope)).map Prod.snd)

def saveTrades (trades : Payload (Trade Body)) : SQLiteDataStore Body :=
  { store with trades := store.trades.save Trade.token scope (records trades) }

/-- A missing close time is a null, which comes before every text. -/
def tradeOrder (row : String × Trade Body) : WithBot String ×ₗ PagingKey :=
  toLex (row.2.ledgerCloseTime, sqlPagingKey row.1)

def getTrades (limit : ℤ) : Except StoreError (List (Trade Body)) := do
  let limit ← bindInteger limit
  return limitRows limit ((sortDesc tradeOrder (store.trades.rows scope)).map Prod.snd)

def saveTradeAggregations (resolution : ℤ) (aggregations : Payload (TradeAggregation Body)) :
    Except StoreError (SQLiteDataStore Body) := do
  -- the resolution is a parameter of each row, so that nothing is bound without one
  if (records aggregations).any fun item => item.timestamp.isSome then
    let _ ← bindInteger resolution
  return { store with
    tradeAggregations := store.tradeAggregations.save TradeAggregation.timestamp
      (scope, resolution) (records aggregations) }

def getTradeAggregations (resolution limit : ℤ) :
    Except StoreError (List (TradeAggregation Body)) := do
  let resolution ← bindInteger resolution
  let limit ← bindInteger limit
  return limitRows limit ((sortDesc (fun row => castInteger row.1)
    (store.tradeAggregations.rows (scope, resolution))).map Prod.snd)

end SQLiteDataStore

/-! ### Calls -/

inductive Command (Body : Type)
  | saveBalances (scope : Scope) (balances : List (Balance Body))
  | getBalances (scope : Scope)
  | saveOperations (scope : Scope) (operations : Payload (Operation Body))
  | getOperations (scope : Scope) (limit : Option ℤ)
  | trimOperations (scope : Scope) (limit : ℤ)
  | saveLiquidityPool (scope : Scope) (pool : Body)
  | getLiquidityPool (scope : Scope)
  | saveOffers (scope : Scope) (offers : Payload (Offer Body))
  | getOffers (scope : Scope) (limit : ℤ)
  | saveTrades (scope : Scope) (trades : Payload (Trade Body))
  | getTrades (scope : Scope) (limit : ℤ)
  | saveTradeAggregations (scope : Scope) (resolution : ℤ)
      (aggregations : Payload (TradeAggregation Body))
  | getTradeAggregations (scope : Scope) (resolution limit : ℤ)

inductive Answer (Body : Type)
  | saved
  | balances (items : List (Balance Body))
  | operations (items : List (Operation Body))
  | removed (rows : ℕ)
  | pool (pool : Option Body)
  | offers (items : List (Offer Body))
  | trades (items : List (Trade Body))
  | tradeAggregations (items : List (TradeAggregation Body))
  | raised (error : StoreError)
  deriving DecidableEq

/-- The answer to a call that writes; where it raises, the transaction is rolled back. -/
def written {σ : Type} (store : σ) : Except StoreError σ → Answer Body × σ
  | .ok store => (.saved, store)
  | .error error => (.raised error, store)

/-- The answer to a call that trims. -/
def trimmed {σ : Type} (store : σ) : Except StoreError (ℕ × σ) → Answer Body × σ
  | .ok (removed, store) => (.removed removed, store)
  | .error error => (.raised error, store)

/-- The answer to a call that reads. -/
def read {α : Type} (answer : α → Answer Body) : Except StoreError α → Answer Body
  | .ok items => answer items
  | .error error => .raised error

def MemoryDataStore.call (store : MemoryDataStore Body) :
    Command Body → Answer Body × MemoryDataStore Body
  | .saveBalances scope balances => (.saved, store.saveBalances scope balances)
  | .getBalances scope => (.balances (store.getBalances scope), store)
  | .saveOperations scope operations => (.saved, store.saveOperations scope operations)
  | .getOperations scope limit => (.operations (store.getOperations scope limit), store)
  | .trimOperations scope limit => trimmed store (store.trimOperations scope limit)
  | .saveLiquidityPool scope pool => (.saved, store.saveLiquidityPool scope pool)
  | .getLiquidityPool scope => (.pool (store.getLiquidityPool scope), store)
  | .saveOffers scope offers => (.saved, store.saveOffers scope offers)
  | .getOffers scope limit => (.offers (store.getOffers scope limit), store)
  | .saveTrades scope trades => (.saved, store.saveTrades scope trades)
  | .getTrades scope limit => (.trades (store.getTrades scope limit), store)
  | .saveTradeAggregations scope resolution aggregations =>
    (.saved, store.saveTradeAggregations scope resolution aggregations)
  | .getTradeAggregations scope resolution limit =>
    (.tradeAggregations (store.getTradeAggregations scope resolution limit), store)

def SQLiteDataStore.call (store : SQLiteDataStore Body) :
    Command Body → Answer Body × SQLiteDataStore Body
  | .saveBalances scope balances => written store (store.saveBalances scope balances)
  | .getBalances scope => (.balances (store.getBalances scope), store)
  | .saveOperations scope operations => (.saved, store.saveOperations scope operations)
  | .getOperations scope limit => (read .operations (store.getOperations scope limit), store)
  | .trimOperations scope limit => trimmed store (store.trimOperations scope limit)
  | .saveLiquidityPool scope pool => (.saved, store.saveLiquidityPool scope pool)
  | .getLiquidityPool scope => (.pool (store.getLiquidityPool scope), store)
  | .saveOffers scope offers => written store (store.saveOffers scope offers)
  | .getOffers scope limit => (read .offers (store.getOffers scope limit), store)
  | .saveTrades scope trades => (.saved, store.saveTrades scope trades)
  | .getTrades scope limit => (read .trades (store.getTrades scope limit), store)
  | .saveTradeAggregations scope resolution aggregations =>
    written store (store.saveTradeAggregations scope resolution aggregations)
  | .getTradeAggregations scope resolution limit =>
    (read .tradeAggregations (store.getTradeAggregations scope resolution limit), store)

end Fresnica.Python.DataStore
