import Fresnica.Foundation.Segments
import Fresnica.Foundation.Decimal
import Fresnica.Python.Snapshot

/-!
# Trades of an account in the Python reference

A trade is stored in the orientation of one market pair, and shown in the orientation
that the user chose. It can be turned round before neighbouring trades are merged, or
the merged segments can be turned round: the two projections are written separately, and
the segments are the same.

## Main definitions

* `AccountTrade`, `AccountTradeSegment` — trades, and merged neighbours
* `accountTradeForPair`, `accountTradeSegmentForPair` — the two projections
* `compressAccountTrades` — the loop that merges neighbours
* `Stored` — a trade that is stored for a pair and an address

## Main results

* `segmentIdentity_eq_iff` — the key of a segment tells its side, price and offer apart
* `projection_commutes` — projecting commutes with merging, and is undone by projecting back
-/

namespace Fresnica.Python.TradeSegments

open Foundation
open Segments (Joins push compress)

inductive OrderSide
  | buy
  | sell
  deriving DecidableEq, Repr

def OrderSide.text : OrderSide → String
  | .buy => "buy"
  | .sell => "sell"

/-- A market orientation. -/
structure MarketPair where
  base : Asset
  counter : Asset
  deriving DecidableEq, Repr

/-- The other orientation of the same market. -/
def MarketPair.inverse (pair : MarketPair) : MarketPair := ⟨pair.counter, pair.base⟩

/-- An exact price fraction of positive parts. -/
structure PriceRatio where
  n : ℕ
  d : ℕ
  n_pos : 0 < n
  d_pos : 0 < d
  deriving DecidableEq, Repr

def PriceRatio.inverse (price : PriceRatio) : PriceRatio :=
  ⟨price.d, price.n, price.d_pos, price.n_pos⟩

/-- A trade, over decimals of any addition and any raw record. -/
structure AccountTrade (Amount Raw : Type) where
  tradeId : String
  pair : MarketPair
  baseAmount : Amount
  counterAmount : Amount
  priceR : PriceRatio
  side : OrderSide
  time : Option String
  pagingToken : Option String
  baseAccount : Option String
  counterAccount : Option String
  baseOfferId : Option String
  counterOfferId : Option String
  transactionHash : Option String
  raw : Raw

structure AccountTradeSegment (Amount Raw : Type) where
  segmentKey : String
  pair : MarketPair
  side : OrderSide
  baseAmount : Amount
  counterAmount : Amount
  priceR : PriceRatio
  userOfferId : Option String
  tradeCount : ℕ
  firstTime : Option String
  lastTime : Option String
  firstTradeId : String
  lastTradeId : String
  raw : List Raw

def assetKey (asset : Asset) : String :=
  if asset.isNative then "XLM" else asset.code ++ ":" ++ asset.issuer.getD "None"

def segmentIdentity (pair : MarketPair) (side : OrderSide) (priceR : PriceRatio)
    (offerId : Option String) : String :=
  "|".intercalate [assetKey pair.base, assetKey pair.counter, side.text,
    s!"{priceR.n}:{priceR.d}", offerId.getD ""]

section Definitions

variable {Amount Raw : Type}

def sideForAccount (trade : AccountTrade Amount Raw) (address : String) : OrderSide :=
  if trade.baseAccount = some address then .sell
  else if trade.counterAccount = some address then .buy
  else trade.side

def userOfferId (trade : AccountTrade Amount Raw) (address : String) : Option String :=
  if trade.baseAccount = some address then trade.baseOfferId
  else if trade.counterAccount = some address then trade.counterOfferId
  else none

/-- A trade in the orientation of a pair, if it is one of the same market. -/
def accountTradeForPair (trade : AccountTrade Amount Raw) (pair : MarketPair)
    (address : String) : Option (AccountTrade Amount Raw) :=
  if trade.pair = pair then some { trade with side := sideForAccount trade address }
  else if trade.pair.base ≠ pair.counter ∨ trade.pair.counter ≠ pair.base then none
  else
    let directSide := sideForAccount trade address
    some { trade with
      pair := pair
      baseAmount := trade.counterAmount
      counterAmount := trade.baseAmount
      priceR := trade.priceR.inverse
      side := if directSide = .buy then .sell else .buy
      baseAccount := trade.counterAccount
      counterAccount := trade.baseAccount
      baseOfferId := trade.counterOfferId
      counterOfferId := trade.baseOfferId }

/-- A segment in the orientation of a pair; its key is built anew. -/
def accountTradeSegmentForPair (segment : AccountTradeSegment Amount Raw) (pair : MarketPair) :
    Option (AccountTradeSegment Amount Raw) :=
  if segment.pair = pair then some segment
  else if segment.pair.base ≠ pair.counter ∨ segment.pair.counter ≠ pair.base then none
  else
    let side : OrderSide := if segment.side = .buy then .sell else .buy
    let priceR := segment.priceR.inverse
    some { segment with
      segmentKey := segmentIdentity pair side priceR segment.userOfferId
      pair := pair
      side := side
      baseAmount := segment.counterAmount
      counterAmount := segment.baseAmount
      priceR := priceR }

def segmentFromTrade (trade : AccountTrade Amount Raw) (address : String) :
    AccountTradeSegment Amount Raw :=
  let offerId := userOfferId trade address
  { segmentKey := segmentIdentity trade.pair trade.side trade.priceR offerId
    pair := trade.pair
    side := trade.side
    baseAmount := trade.baseAmount
    counterAmount := trade.counterAmount
    priceR := trade.priceR
    userOfferId := offerId
    tradeCount := 1
    firstTime := trade.time
    lastTime := trade.time
    firstTradeId := trade.tradeId
    lastTradeId := trade.tradeId
    raw := [trade.raw] }

def segmentsCanMerge (first last : AccountTradeSegment Amount Raw) : Bool :=
  first.userOfferId.isSome && last.userOfferId.isSome && first.segmentKey = last.segmentKey

variable [Add Amount]

def mergeSegments (first last : AccountTradeSegment Amount Raw) :
    AccountTradeSegment Amount Raw where
  segmentKey := first.segmentKey
  pair := first.pair
  side := first.side
  baseAmount := first.baseAmount + last.baseAmount
  counterAmount := first.counterAmount + last.counterAmount
  priceR := first.priceR
  userOfferId := first.userOfferId
  tradeCount := first.tradeCount + last.tradeCount
  firstTime := first.firstTime
  lastTime := last.lastTime
  firstTradeId := first.firstTradeId
  lastTradeId := last.lastTradeId
  raw := first.raw ++ last.raw

def compressAccountTrades (records : List (AccountTrade Amount Raw)) (address : String) :
    List (AccountTradeSegment Amount Raw) :=
  records.foldl (fun result trade =>
    let segment := segmentFromTrade trade address
    match result.getLast? with
    | some previous =>
      if segmentsCanMerge previous segment then result.dropLast ++ [mergeSegments previous segment]
      else result ++ [segment]
    | none => result ++ [segment]) []

end Definitions

/-! ### Keys -/

/-- What stands before the first separator, and what stands after it. -/
theorem eq_of_append_separator {c : Char} {before before' after after' : List Char}
    (hbefore : c ∉ before) (hbefore' : c ∉ before')
    (h : before ++ c :: after = before' ++ c :: after') : before = before' ∧ after = after' := by
  induction before generalizing before' with
  | nil =>
    cases before' with
    | nil => exact ⟨rfl, (List.cons.inj h).2⟩
    | cons d rest =>
      rw [List.nil_append, List.cons_append] at h
      rw [(List.cons.inj h).1] at hbefore'
      exact absurd List.mem_cons_self hbefore'
  | cons d rest ih =>
    cases before' with
    | nil =>
      rw [List.nil_append, List.cons_append] at h
      rw [← (List.cons.inj h).1] at hbefore
      exact absurd List.mem_cons_self hbefore
    | cons d' rest' =>
      rw [List.cons_append, List.cons_append] at h
      obtain ⟨rfl, hrest⟩ := List.cons.inj h
      obtain ⟨rfl, hafter⟩ := ih (fun hmem => hbefore (List.mem_cons_of_mem _ hmem))
        (fun hmem => hbefore' (List.mem_cons_of_mem _ hmem)) hrest
      exact ⟨rfl, hafter⟩

/-- The digits of a number hold no separator. -/
theorem not_mem_toDigits {c : Char} (hc : c.isDigit = false) (n : ℕ) : c ∉ Nat.toDigits 10 n := by
  intro hmem
  rw [Nat.isDigit_of_mem_toDigits (by decide) (by decide) hmem] at hc
  exact absurd hc (by decide)

theorem toDigits_injective {m n : ℕ} (h : Nat.toDigits 10 m = Nat.toDigits 10 n) : m = n := by
  have hvalue := congrArg Decimal.value h
  rwa [Decimal.value_toDigits, Decimal.value_toDigits] at hvalue

theorem toList_segmentIdentity (pair : MarketPair) (side : OrderSide) (priceR : PriceRatio)
    (offerId : Option String) : (segmentIdentity pair side priceR offerId).toList =
      ((assetKey pair.base).toList ++ '|' :: ((assetKey pair.counter).toList ++ ['|'])) ++
        (side.text.toList ++ '|' :: (Nat.toDigits 10 priceR.n ++
          ':' :: (Nat.toDigits 10 priceR.d ++ '|' :: (offerId.getD "").toList))) := by
  have hn : (toString priceR.n).toList = Nat.toDigits 10 priceR.n := Nat.toList_repr
  have hd : (toString priceR.d).toList = Nat.toDigits 10 priceR.d := Nat.toList_repr
  simp only [segmentIdentity, String.intercalate_cons_cons, String.intercalate_singleton,
    String.toList_append, hn, hd, show "|".toList = ['|'] from rfl,
    show (toString ":").toList = [':'] from rfl, List.append_assoc, List.cons_append,
    List.nil_append]

/-- Of one pair, the key tells the side, the price and the offer. -/
theorem segmentIdentity_eq_iff {pair : MarketPair} {side side' : OrderSide}
    {price price' : PriceRatio} {offerId offerId' : Option String} :
    segmentIdentity pair side price offerId = segmentIdentity pair side' price' offerId' ↔
      side = side' ∧ price = price' ∧ offerId.getD "" = offerId'.getD "" := by
  constructor
  · intro h
    have hlist := congrArg String.toList h
    rw [toList_segmentIdentity, toList_segmentIdentity] at hlist
    have hrest := List.append_cancel_left hlist
    -- no part has a separator in it, so that the parts are read back one by one
    have hside : ∀ side : OrderSide, '|' ∉ side.text.toList := by
      intro side
      cases side <;> decide
    obtain ⟨htext, hprice⟩ := eq_of_append_separator (hside side) (hside side') hrest
    obtain ⟨hn, hprice⟩ := eq_of_append_separator (not_mem_toDigits (by decide) price.n)
      (not_mem_toDigits (by decide) price'.n) hprice
    obtain ⟨hd, hoffer⟩ := eq_of_append_separator (not_mem_toDigits (by decide) price.d)
      (not_mem_toDigits (by decide) price'.d) hprice
    refine ⟨?_, ?_, String.toList_inj.mp hoffer⟩
    · cases side <;> cases side' <;> first | rfl | exact absurd htext (by decide)
    · cases price
      cases price'
      obtain rfl := toDigits_injective hn
      obtain rfl := toDigits_injective hd
      rfl
  · rintro ⟨rfl, rfl, h⟩
    rw [segmentIdentity, segmentIdentity, h]

/-! ### Merging neighbours -/

variable {Amount Raw : Type} {address : String} {pair : MarketPair}
variable {trade : AccountTrade Amount Raw} {segment a b : AccountTradeSegment Amount Raw}

/-- Segments without an offer have no key to be merged by. -/
def mergeKey (segment : AccountTradeSegment Amount Raw) : Option String :=
  segment.userOfferId.map fun _ => segment.segmentKey

theorem segmentsCanMerge_iff : segmentsCanMerge a b = true ↔ Joins mergeKey a b := by
  unfold segmentsCanMerge Joins mergeKey
  cases a.userOfferId <;> cases b.userOfferId <;> simp

/-- A trade that is stored for a pair: its accounts are two, and its side is the one of the
address. -/
structure Stored (pair : MarketPair) (address : String) (trade : AccountTrade Amount Raw) :
    Prop where
  pair_eq : trade.pair = pair
  accounts : trade.baseAccount ≠ trade.counterAccount
  side_eq : trade.side = sideForAccount trade address

/-- A segment of a pair has the key that its fields give. -/
structure Keyed (pair : MarketPair) (segment : AccountTradeSegment Amount Raw) : Prop where
  pair_eq : segment.pair = pair
  key_eq : segment.segmentKey =
    segmentIdentity pair segment.side segment.priceR segment.userOfferId

theorem Stored.keyed (h : Stored pair address trade) :
    Keyed pair (segmentFromTrade trade address) where
  pair_eq := h.pair_eq
  key_eq := by rw [← h.pair_eq]; rfl

/-- Segments of one pair are merged when side, price and offer are the same. -/
theorem Keyed.joins_iff (ha : Keyed pair a) (hb : Keyed pair b) : Joins mergeKey a b ↔
    a.userOfferId.isSome ∧ a.side = b.side ∧ a.priceR = b.priceR ∧
      a.userOfferId = b.userOfferId := by
  unfold Joins mergeKey
  rw [ha.key_eq, hb.key_eq, Option.isSome_map]
  cases a.userOfferId <;> cases b.userOfferId <;> simp [segmentIdentity_eq_iff]

section Merging

variable [Add Amount]

/-- The loop merges neighbours. -/
theorem compressAccountTrades_eq (records : List (AccountTrade Amount Raw)) (address : String) :
    compressAccountTrades records address = compress mergeKey mergeSegments
      (records.map fun trade => segmentFromTrade trade address) := by
  rw [← Segments.foldl_push, List.foldl_map]
  unfold compressAccountTrades
  congr
  funext result trade
  unfold push
  cases hlast : result.getLast? with
  | none =>
    rw [List.getLast?_eq_none_iff.mp hlast]
    rfl
  | some previous =>
    simp only [segmentsCanMerge_iff]

theorem Keyed.merge (ha : Keyed pair a) : Keyed pair (mergeSegments a b) where
  pair_eq := ha.pair_eq
  key_eq := ha.key_eq

end Merging

/-! ### Turning round -/

/-- The other side. -/
def OrderSide.opposite : OrderSide → OrderSide
  | .buy => .sell
  | .sell => .buy

theorem OrderSide.opposite_eq (side : OrderSide) :
    (if side = .buy then OrderSide.sell else .buy) = side.opposite := by
  cases side <;> rfl

theorem OrderSide.opposite_opposite (side : OrderSide) : side.opposite.opposite = side := by
  cases side <;> rfl

theorem MarketPair.inverse_inverse (pair : MarketPair) : pair.inverse.inverse = pair := rfl

theorem PriceRatio.inverse_inverse (price : PriceRatio) : price.inverse.inverse = price := rfl

/-- A trade the other way round; on a pair of one asset with itself there is none. -/
def turnTrade (trade : AccountTrade Amount Raw) : AccountTrade Amount Raw :=
  if trade.pair = trade.pair.inverse then trade
  else { trade with
    pair := trade.pair.inverse
    baseAmount := trade.counterAmount
    counterAmount := trade.baseAmount
    priceR := trade.priceR.inverse
    side := trade.side.opposite
    baseAccount := trade.counterAccount
    counterAccount := trade.baseAccount
    baseOfferId := trade.counterOfferId
    counterOfferId := trade.baseOfferId }

def turnSegment (segment : AccountTradeSegment Amount Raw) : AccountTradeSegment Amount Raw :=
  if segment.pair = segment.pair.inverse then segment
  else { segment with
    segmentKey := segmentIdentity segment.pair.inverse segment.side.opposite
      segment.priceR.inverse segment.userOfferId
    pair := segment.pair.inverse
    side := segment.side.opposite
    baseAmount := segment.counterAmount
    counterAmount := segment.baseAmount
    priceR := segment.priceR.inverse }

/-- Projecting a stored trade turns it round. -/
theorem accountTradeForPair_inverse (h : Stored pair address trade) :
    accountTradeForPair trade pair.inverse address = some (turnTrade trade) := by
  unfold accountTradeForPair turnTrade
  rw [← h.pair_eq, ← h.side_eq]
  by_cases hself : trade.pair = trade.pair.inverse
  · rw [if_pos hself, if_pos hself]
  · have hmarket : ¬ (trade.pair.base ≠ trade.pair.inverse.counter ∨
        trade.pair.counter ≠ trade.pair.inverse.base) := by
      rw [not_or, not_not, not_not]
      exact ⟨rfl, rfl⟩
    rw [if_neg hself, if_neg hself, if_neg hmarket]
    simp only [OrderSide.opposite_eq]

/-- So does projecting a segment. -/
theorem accountTradeSegmentForPair_inverse (segment : AccountTradeSegment Amount Raw) :
    accountTradeSegmentForPair segment segment.pair.inverse = some (turnSegment segment) := by
  unfold accountTradeSegmentForPair turnSegment
  by_cases hself : segment.pair = segment.pair.inverse
  · rw [if_pos hself, if_pos hself]
  · have hmarket : ¬ (segment.pair.base ≠ segment.pair.inverse.counter ∨
        segment.pair.counter ≠ segment.pair.inverse.base) := by
      rw [not_or, not_not, not_not]
      exact ⟨rfl, rfl⟩
    rw [if_neg hself, if_neg hself, if_neg hmarket]
    simp only [OrderSide.opposite_eq]

/-- The address has the other side of a trade that is turned round. -/
theorem Stored.turn (h : Stored pair address trade) :
    Stored pair.inverse address (turnTrade trade) := by
  obtain ⟨rfl, haccounts, hside⟩ := h
  unfold turnTrade
  by_cases hself : trade.pair = trade.pair.inverse
  · rw [if_pos hself]
    exact ⟨hself, haccounts, hside⟩
  · rw [if_neg hself]
    refine ⟨rfl, haccounts.symm, ?_⟩
    unfold sideForAccount at hside ⊢
    dsimp only
    by_cases hbase : trade.baseAccount = some address
    · have hcounter : trade.counterAccount ≠ some address := fun h => haccounts (hbase.trans h.symm)
      rw [if_pos hbase] at hside
      rw [if_neg hcounter, if_pos hbase, hside]
      rfl
    · by_cases hcounter : trade.counterAccount = some address
      · rw [if_neg hbase, if_pos hcounter] at hside
        rw [if_pos hcounter, hside]
        rfl
      · rw [if_neg hcounter, if_neg hbase]

theorem turnTrade_turnTrade (trade : AccountTrade Amount Raw) :
    turnTrade (turnTrade trade) = trade := by
  unfold turnTrade
  by_cases hself : trade.pair = trade.pair.inverse
  · rw [if_pos hself, if_pos hself]
  · have hback : trade.pair.inverse ≠ trade.pair.inverse.inverse := fun h => hself h.symm
    rw [if_neg hself, if_neg hback]
    simp only [MarketPair.inverse_inverse, PriceRatio.inverse_inverse,
      OrderSide.opposite_opposite]

theorem turnSegment_turnSegment (h : Keyed pair segment) :
    turnSegment (turnSegment segment) = segment := by
  obtain ⟨rfl, hkey⟩ := h
  unfold turnSegment
  by_cases hself : segment.pair = segment.pair.inverse
  · rw [if_pos hself, if_pos hself]
  · have hback : segment.pair.inverse ≠ segment.pair.inverse.inverse := fun h => hself h.symm
    rw [if_neg hself, if_neg hback]
    simp only [MarketPair.inverse_inverse, PriceRatio.inverse_inverse,
      OrderSide.opposite_opposite, ← hkey]

/-- The offer of the address is the same one. -/
theorem userOfferId_turnTrade (h : Stored pair address trade) :
    userOfferId (turnTrade trade) address = userOfferId trade address := by
  unfold userOfferId turnTrade
  by_cases hself : trade.pair = trade.pair.inverse
  · rw [if_pos hself]
  · rw [if_neg hself]
    dsimp only
    by_cases hbase : trade.baseAccount = some address
    · have hcounter : trade.counterAccount ≠ some address :=
        fun hsame => h.accounts (hbase.trans hsame.symm)
      rw [if_neg hcounter, if_pos hbase, if_pos hbase]
    · rw [if_neg hbase, if_neg hbase]

theorem segmentFromTrade_turnTrade (h : Stored pair address trade) :
    segmentFromTrade (turnTrade trade) address = turnSegment (segmentFromTrade trade address) := by
  have hoffer := userOfferId_turnTrade h
  by_cases hself : trade.pair = trade.pair.inverse
  · have hturn : turnTrade trade = trade := if_pos hself
    rw [hturn, turnSegment, if_pos]
    exact hself
  · rw [turnSegment, if_neg]
    · unfold segmentFromTrade
      simp only [hoffer]
      rw [turnTrade, if_neg hself]
    · exact hself

theorem Keyed.turn (h : Keyed pair segment) : Keyed pair.inverse (turnSegment segment) := by
  obtain ⟨rfl, hkey⟩ := h
  unfold turnSegment
  by_cases hself : segment.pair = segment.pair.inverse
  · rw [if_pos hself]
    exact ⟨hself, by rw [← hself]; exact hkey⟩
  · rw [if_neg hself]
    exact ⟨rfl, rfl⟩

/-- Segments that are turned round are merged when they were before. -/
theorem joins_turnSegment (ha : Keyed pair a) (hb : Keyed pair b) :
    Joins mergeKey (turnSegment a) (turnSegment b) ↔ Joins mergeKey a b := by
  rw [ha.turn.joins_iff hb.turn, ha.joins_iff hb]
  have hopposite : a.side.opposite = b.side.opposite ↔ a.side = b.side :=
    ⟨fun h => by rw [← a.side.opposite_opposite, h, b.side.opposite_opposite], congrArg _⟩
  have hinverse : a.priceR.inverse = b.priceR.inverse ↔ a.priceR = b.priceR :=
    ⟨fun h => by rw [← a.priceR.inverse_inverse, h, b.priceR.inverse_inverse], congrArg _⟩
  unfold turnSegment
  rw [ha.pair_eq, hb.pair_eq]
  by_cases hself : pair = pair.inverse
  · rw [if_pos hself, if_pos hself]
  · rw [if_neg hself, if_neg hself]
    simp only [hopposite, hinverse]

/-- Merging and turning round commute. -/
theorem mergeSegments_turnSegment [Add Amount] (ha : Keyed pair a) (hb : Keyed pair b) :
    mergeSegments (turnSegment a) (turnSegment b) = turnSegment (mergeSegments a b) := by
  have hpair : (mergeSegments a b).pair = a.pair := rfl
  unfold turnSegment
  rw [hpair, hb.pair_eq, ha.pair_eq]
  by_cases hself : pair = pair.inverse
  · rw [if_pos hself, if_pos hself, if_pos hself]
  · rw [if_neg hself, if_neg hself, if_neg hself]
    rfl

/-! ### Projecting a list -/

theorem mapM_eq_some_map {α β : Type} {f : α → Option β} {g : α → β} {xs : List α}
    (h : ∀ x ∈ xs, f x = some (g x)) : xs.mapM f = some (xs.map g) := by
  induction xs with
  | nil => rfl
  | cons x xs ih =>
    rw [List.forall_mem_cons] at h
    rw [List.mapM_cons, h.1, ih h.2]
    rfl

/-- The segments of trades that are turned round are the segments, turned round. -/
theorem compressAccountTrades_turned [Add Amount] {records : List (AccountTrade Amount Raw)}
    (hstored : ∀ trade ∈ records, Stored pair address trade) :
    compressAccountTrades (records.map turnTrade) address =
      (compressAccountTrades records address).map turnSegment := by
  have hsingle : (records.map turnTrade).map (fun trade => segmentFromTrade trade address) =
      (records.map fun trade => segmentFromTrade trade address).map turnSegment := by
    rw [List.map_map, List.map_map]
    apply List.map_congr_left
    intro trade hmem
    exact segmentFromTrade_turnTrade (hstored trade hmem)
  rw [compressAccountTrades_eq, compressAccountTrades_eq, hsingle]
  apply Segments.compress_map (P := Keyed pair)
  · intro a b ha hb
    exact joins_turnSegment ha hb
  · intro a b ha hb _
    exact ⟨ha.merge, mergeSegments_turnSegment ha hb⟩
  · intro segment hmem
    obtain ⟨trade, htrade, rfl⟩ := List.mem_map.mp hmem
    exact (hstored trade htrade).keyed

/-- The trades of a pair, turned round and then merged, are the merged ones turned round;
and turning back gives the trade, or the segment. -/
theorem projection_commutes [Add Amount] (address : String) (pair : MarketPair)
    (records : List (AccountTrade Amount Raw))
    (hstored : ∀ trade ∈ records, Stored pair address trade) :
    ∃ projected,
      records.mapM (fun trade => accountTradeForPair trade pair.inverse address) =
        some projected ∧
      (compressAccountTrades records address).mapM
          (fun segment => accountTradeSegmentForPair segment pair.inverse) =
        some (compressAccountTrades projected address) ∧
      (∀ trade ∈ records, ∃ turned, accountTradeForPair trade pair.inverse address = some turned ∧
        accountTradeForPair turned pair address = some trade) ∧
      ∀ segment ∈ compressAccountTrades records address, ∃ turned,
        accountTradeSegmentForPair segment pair.inverse = some turned ∧
          accountTradeSegmentForPair turned pair = some segment := by
  have hsingle : ∀ segment ∈ records.map (fun trade => segmentFromTrade trade address),
      Keyed pair segment := by
    intro segment hmem
    obtain ⟨trade, htrade, rfl⟩ := List.mem_map.mp hmem
    exact (hstored trade htrade).keyed
  -- merging keeps the pair, so every merged segment can be turned round
  have hkeyed : ∀ segment ∈ compressAccountTrades records address, Keyed pair segment := by
    intro segment hmem
    rw [compressAccountTrades_eq] at hmem
    exact Segments.forall_mem_compress (fun a b ha _ _ => ha.merge) hsingle segment hmem
  have hsegment : ∀ segment ∈ compressAccountTrades records address,
      accountTradeSegmentForPair segment pair.inverse = some (turnSegment segment) := by
    intro segment hmem
    rw [← (hkeyed segment hmem).pair_eq]
    exact accountTradeSegmentForPair_inverse segment
  refine ⟨records.map turnTrade, ?_, ?_, ?_, ?_⟩
  · exact mapM_eq_some_map fun trade hmem => accountTradeForPair_inverse (hstored trade hmem)
  · rw [mapM_eq_some_map hsegment, compressAccountTrades_turned hstored]
  · intro trade hmem
    refine ⟨turnTrade trade, accountTradeForPair_inverse (hstored trade hmem), ?_⟩
    have hback := accountTradeForPair_inverse (hstored trade hmem).turn
    rw [turnTrade_turnTrade, MarketPair.inverse_inverse] at hback
    exact hback
  · intro segment hmem
    refine ⟨turnSegment segment, hsegment segment hmem, ?_⟩
    have hback := accountTradeSegmentForPair_inverse (turnSegment segment)
    rw [(hkeyed segment hmem).turn.pair_eq, MarketPair.inverse_inverse,
      turnSegment_turnSegment (hkeyed segment hmem)] at hback
    exact hback

/-- A trade of the address as the seller of the base asset. -/
def soldTrade (tradeId : String) (amount : ℤ) : AccountTrade ℤ Unit where
  tradeId := tradeId
  pair := ⟨Asset.xlm, ⟨"USD", some "issuer", none⟩⟩
  baseAmount := amount
  counterAmount := 2 * amount
  priceR := ⟨2, 1, by decide, by decide⟩
  side := .sell
  time := none
  pagingToken := none
  baseAccount := some "wallet"
  counterAccount := some "other"
  baseOfferId := some "7"
  counterOfferId := none
  transactionHash := none
  raw := ()

/-- Two trades of one offer. -/
theorem projection_commutes_soldTrades :
    (∀ trade ∈ [soldTrade "1" 3, soldTrade "2" 4],
      Stored ⟨Asset.xlm, ⟨"USD", some "issuer", none⟩⟩ "wallet" trade) ∧
    ∃ projected,
      [soldTrade "1" 3, soldTrade "2" 4].mapM (fun trade => accountTradeForPair trade
          (MarketPair.inverse ⟨Asset.xlm, ⟨"USD", some "issuer", none⟩⟩) "wallet") =
        some projected ∧
      (compressAccountTrades [soldTrade "1" 3, soldTrade "2" 4] "wallet").mapM
          (fun segment => accountTradeSegmentForPair segment
            (MarketPair.inverse ⟨Asset.xlm, ⟨"USD", some "issuer", none⟩⟩)) =
        some (compressAccountTrades projected "wallet") := by
  have hstored : ∀ trade ∈ [soldTrade "1" 3, soldTrade "2" 4],
      Stored ⟨Asset.xlm, ⟨"USD", some "issuer", none⟩⟩ "wallet" trade := by
    intro trade hmem
    simp only [List.mem_cons, List.not_mem_nil, or_false] at hmem
    rcases hmem with rfl | rfl <;> exact ⟨rfl, by decide, by decide⟩
  obtain ⟨projected, hprojected, hsegments, -⟩ := projection_commutes "wallet"
    ⟨Asset.xlm, ⟨"USD", some "issuer", none⟩⟩ _ hstored
  exact ⟨hstored, projected, hprojected, hsegments⟩

end Fresnica.Python.TradeSegments
