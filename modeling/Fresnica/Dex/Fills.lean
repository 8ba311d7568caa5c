import Fresnica.Dex.Display
import Fresnica.Foundation.Segments
import Mathlib.Algebra.Order.BigOperators.Group.List
import Mathlib.Algebra.Order.Group.Int

/-!
# The fills of an account

The trades of an account are listed by record. Neighbouring records of one offer of the
account, at one price, are shown as one fill: its amounts are the sums, and it has the
first and the last record of them. A record without an own offer stands alone.

## Main definitions

* `WorkingFill`, `FillSegment` — a fill while it grows, and as it is shown
* `segment`, `addToFills`, `compressAccountTrades` — a record, the loop, and the result
* `mergeFills` — two neighbours, over all integers
* `ReadAs`, `FillOf` — a record as a trade, and the fill of a run of records
* `Seam` — two lists of fills put together

## Main results

* `foldlM_addToFills` — the loop merges neighbours, unless a sum overflows
* `compressAccountTrades_lossless` — every record is in exactly one fill, and the fills of
  two lists are those of the whole list, except for one merge at the seam
-/

namespace Fresnica

open Foundation
open Segments (Joins push compress seam mergeRun IsPartition Lawful)

inductive DexTradeSide
  | buy
  | sell
  deriving DecidableEq, Repr

/-- What the records of one fill have in common. -/
structure FillKey where
  baseAsset : String
  counterAsset : String
  side : DexTradeSide
  priceN : I32
  priceD : I32
  offerId : String
  deriving DecidableEq, Repr

/-- A fill while it grows. Its amounts are stroops of 64 bits, or any integers. -/
structure WorkingFill (Amount : Type) where
  baseAsset : String
  counterAsset : String
  side : DexTradeSide
  baseAmount : Amount
  counterAmount : Amount
  priceN : I32
  priceD : I32
  offerId : Option String
  tradeCount : ℕ
  firstTime : Option String
  lastTime : Option String
  firstTradeId : String
  lastTradeId : String
  deriving DecidableEq, Repr

structure FillSegment where
  baseAsset : String
  counterAsset : String
  side : DexTradeSide
  baseAmount : String
  counterAmount : String
  price : String
  priceN : I32
  priceD : I32
  offerId : Option String
  tradeCount : ℕ
  firstTime : Option String
  lastTime : Option String
  firstTradeId : String
  lastTradeId : String
  deriving DecidableEq, Repr

namespace WorkingFill

def key {Amount : Type} (fill : WorkingFill Amount) : Option FillKey :=
  fill.offerId.map fun offerId =>
    ⟨fill.baseAsset, fill.counterAsset, fill.side, fill.priceN, fill.priceD, offerId⟩

/-- The fill with its amounts widened. -/
def widen (fill : WorkingFill I64) : WorkingFill ℤ where
  baseAsset := fill.baseAsset
  counterAsset := fill.counterAsset
  side := fill.side
  baseAmount := fill.baseAmount.val
  counterAmount := fill.counterAmount.val
  priceN := fill.priceN
  priceD := fill.priceD
  offerId := fill.offerId
  tradeCount := fill.tradeCount
  firstTime := fill.firstTime
  lastTime := fill.lastTime
  firstTradeId := fill.firstTradeId
  lastTradeId := fill.lastTradeId

def finish (fill : WorkingFill ℤ) : Except String FillSegment := do
  let price ← formatPriceRatio fill.priceN fill.priceD
  return {
    baseAsset := fill.baseAsset
    counterAsset := fill.counterAsset
    side := fill.side
    baseAmount := formatScaled7 fill.baseAmount
    counterAmount := formatScaled7 fill.counterAmount
    price := price
    priceN := fill.priceN
    priceD := fill.priceD
    offerId := fill.offerId
    tradeCount := fill.tradeCount
    firstTime := fill.firstTime
    lastTime := fill.lastTime
    firstTradeId := fill.firstTradeId
    lastTradeId := fill.lastTradeId }

end WorkingFill

def FillSegment.key (fill : FillSegment) : Option FillKey :=
  fill.offerId.map fun offerId =>
    ⟨fill.baseAsset, fill.counterAsset, fill.side, fill.priceN, fill.priceD, offerId⟩

/-- The text of a string or a number. -/
def valueText : Option Json → Option String
  | some (.string value) => some value
  | some (.number value) => some value.text
  | _ => none

section Records

variable (strKey : StrKey)

def tradeAsset (raw : Json) (side : String) : Except String String :=
  if text raw s!"{side}_asset_type" = some "native" then .ok "XLM"
  else do
    let code ← okOr (text raw s!"{side}_asset_code") "Invalid Horizon trade asset code"
    let issuer ← okOr (text raw s!"{side}_asset_issuer") "Invalid Horizon trade asset issuer"
    let asset ← AssetId.parse strKey s!"{code}:{issuer}"
    return asset.display strKey

/-- The fill of one record. -/
def segment (raw : Json) (address : String) : Except String (WorkingFill I64) := do
  let price ← okOr (raw.get? "price" >>= Json.asObject?)
    "Invalid Horizon trade record: missing price"
  let priceN ← okOr (pricePart price "n") "Invalid Horizon trade record: bad price numerator"
  let priceD ← okOr (pricePart price "d") "Invalid Horizon trade record: bad price denominator"
  let baseAccount := text raw "base_account"
  let counterAccount := text raw "counter_account"
  let side :=
    if baseAccount = some address then DexTradeSide.sell
    else if counterAccount = some address then .buy
    -- a trade of two other accounts is a sale where its base account sells
    else if (raw.get? "base_is_seller" >>= Json.asBool?).getD false then .sell
    else .buy
  let offerId :=
    if baseAccount = some address then valueText (raw.get? "base_offer_id")
    else if counterAccount = some address then valueText (raw.get? "counter_offer_id")
    else none
  let tradeId := ((valueText (raw.get? "id")).or (valueText (raw.get? "paging_token"))).getD ""
  let time := text raw "ledger_close_time"
  let baseAsset ← tradeAsset strKey raw "base"
  let counterAsset ← tradeAsset strKey raw "counter"
  let baseAmount ← parseTradeAmount raw "base_amount"
  let counterAmount ← parseTradeAmount raw "counter_amount"
  return {
    baseAsset, counterAsset, side, baseAmount, counterAmount, priceN, priceD, offerId
    tradeCount := 1
    firstTime := time
    lastTime := time
    firstTradeId := tradeId
    lastTradeId := tradeId }

/-- The last fill takes the record if both have the same key. -/
def addToFills (result : List (WorkingFill I64)) (current : WorkingFill I64) :
    Except String (List (WorkingFill I64)) :=
  match result.getLast? with
  | some previous =>
    let canMerge := match previous.key, current.key with
      | some left, some right => decide (left = right)
      | _, _ => false
    if canMerge then do
      let baseAmount ← okOr (previous.baseAmount.checkedAdd current.baseAmount)
        "fill base amount overflow"
      let counterAmount ← okOr (previous.counterAmount.checkedAdd current.counterAmount)
        "fill counter amount overflow"
      return result.dropLast ++ [{ previous with
        baseAmount, counterAmount
        tradeCount := previous.tradeCount + 1
        lastTime := current.lastTime
        lastTradeId := current.lastTradeId }]
    else return result ++ [current]
  | none => return result ++ [current]

def compressAccountTrades (records : List Json) (address : String) :
    Except String (List FillSegment) := do
  let result ← records.foldlM (fun result raw => do
    let current ← segment strKey raw address
    addToFills result current) []
  result.mapM fun fill => fill.widen.finish

end Records

/-! ### Merging over all integers -/

/-- Two neighbours as one fill. -/
def mergeFills (a b : WorkingFill ℤ) : WorkingFill ℤ :=
  { a with
    baseAmount := a.baseAmount + b.baseAmount
    counterAmount := a.counterAmount + b.counterAmount
    tradeCount := a.tradeCount + b.tradeCount
    lastTime := b.lastTime
    lastTradeId := b.lastTradeId }

theorem lawful_mergeFills : Lawful WorkingFill.key mergeFills where
  key_merge _ _ _ := rfl
  assoc a b c _ _ := by simp only [mergeFills, add_assoc]

variable {strKey : StrKey} {address : String} {raw : Json} {records : List Json}
variable {current : WorkingFill I64} {result next items : List (WorkingFill I64)}

/-- A fill that is one record, as it is read. -/
structure IsTrade (fill : WorkingFill ℤ) : Prop where
  tradeCount : fill.tradeCount = 1
  times : fill.firstTime = fill.lastTime
  ids : fill.firstTradeId = fill.lastTradeId
  amounts : 0 ≤ fill.baseAmount ∧ 0 ≤ fill.counterAmount
  price : 0 < fill.priceN.val ∧ 0 < fill.priceD.val

theorem parseTradeAmount_nonneg {key : String} {amount : I64}
    (h : parseTradeAmount raw key = .ok amount) : 0 ≤ amount.val := by
  obtain ⟨value, -, h⟩ := bind_eq_ok.mp h
  exact parseStroops_nonneg (okOr_eq_ok.mp h)

/-- What is read of a record is one trade. -/
theorem segment_isTrade (h : segment strKey raw address = .ok current) :
    IsTrade current.widen := by
  obtain ⟨price, -, h⟩ := bind_eq_ok.mp h
  obtain ⟨n, hn, h⟩ := bind_eq_ok.mp h
  obtain ⟨d, hd, h⟩ := bind_eq_ok.mp h
  obtain ⟨base, -, h⟩ := bind_eq_ok.mp h
  obtain ⟨counter, -, h⟩ := bind_eq_ok.mp h
  obtain ⟨baseAmount, hbase, h⟩ := bind_eq_ok.mp h
  obtain ⟨counterAmount, hcounter, h⟩ := bind_eq_ok.mp h
  rw [← Except.ok.inj h]
  exact ⟨rfl, rfl, rfl, ⟨parseTradeAmount_nonneg hbase, parseTradeAmount_nonneg hcounter⟩,
    pricePart_pos (okOr_eq_ok.mp hn), pricePart_pos (okOr_eq_ok.mp hd)⟩

/-! ### The loop -/

/-- A fill has an amount that does not fit into 64 bits. -/
def Oversized (fill : WorkingFill ℤ) : Prop :=
  9223372036854775807 < fill.baseAmount ∨ 9223372036854775807 < fill.counterAmount

theorem not_oversized_map_widen (result : List (WorkingFill I64)) :
    ∀ fill ∈ result.map WorkingFill.widen, ¬ Oversized fill := by
  intro fill hmem h
  obtain ⟨item, -, rfl⟩ := List.mem_map.mp hmem
  rcases h with h | h
  · exact absurd h (not_lt.mpr item.baseAmount.le_hi)
  · exact absurd h (not_lt.mpr item.counterAmount.le_hi)

/-- The keys are compared as the loop compares them. -/
theorem canMerge_iff (a b : WorkingFill I64) :
    ((match a.key, b.key with
      | some left, some right => decide (left = right)
      | _, _ => false) = true) ↔ Joins WorkingFill.key a.widen b.widen := by
  show _ ↔ a.key.isSome ∧ a.key = b.key
  cases a.key <;> cases b.key <;> simp

/-- A sum fails only where it is too large, when nothing negative is added. -/
theorem lt_of_checkedAdd_error {a b : I64} {message error : String} (hb : 0 ≤ b.val)
    (h : okOr (a.checkedAdd b) message = .error error) :
    9223372036854775807 < a.val + b.val := by
  have hlo := a.lo_le
  cases hsum : a.checkedAdd b with
  | none =>
    rcases BoundedInt.checkedAdd_eq_none_iff.mp hsum with hlt | hgt
    · omega
    · exact hgt
  | some sum =>
    rw [hsum] at h
    exact absurd h (by simp [okOr])

/-- One more record: it is merged or added, unless a sum overflows. -/
theorem addToFills_spec (result : List (WorkingFill I64)) (hcurrent : IsTrade current.widen) :
    (∀ next, addToFills result current = .ok next → next.map WorkingFill.widen =
      push WorkingFill.key mergeFills (result.map WorkingFill.widen) current.widen) ∧
    (∀ error, addToFills result current = .error error → ∃ fill ∈ push WorkingFill.key mergeFills
      (result.map WorkingFill.widen) current.widen, Oversized fill) := by
  rcases List.eq_nil_or_concat result with rfl | ⟨done, previous, rfl⟩
  · refine ⟨?_, fun error h => absurd h (by simp [addToFills])⟩
    intro next h
    rw [← Except.ok.inj h]
    rfl
  rw [List.concat_eq_append, List.map_append, List.map_singleton, addToFills, push]
  -- a trade is added to the last fill, or starts one
  simp only [List.getLast?_concat, List.dropLast_concat, canMerge_iff]
  by_cases hjoins : Joins WorkingFill.key previous.widen current.widen
  · rw [if_pos hjoins, if_pos hjoins]
    constructor
    · intro next h
      obtain ⟨baseAmount, hbase, h⟩ := bind_eq_ok.mp h
      obtain ⟨counterAmount, hcounter, h⟩ := bind_eq_ok.mp h
      rw [← Except.ok.inj h, List.map_append, List.map_singleton]
      have hbase := BoundedInt.checkedAdd_eq_some_iff.mp (okOr_eq_ok.mp hbase)
      have hcounter := BoundedInt.checkedAdd_eq_some_iff.mp (okOr_eq_ok.mp hcounter)
      have hcount := hcurrent.tradeCount
      simp only [WorkingFill.widen, mergeFills, hbase, hcounter]
      rw [show current.tradeCount = 1 from hcount]
    · intro error h
      refine ⟨_, List.mem_append_right _ List.mem_cons_self, ?_⟩
      rcases bind_eq_error.mp h with hbase | ⟨baseAmount, -, h⟩
      · exact .inl (lt_of_checkedAdd_error hcurrent.amounts.1 hbase)
      · rcases bind_eq_error.mp h with hcounter | ⟨counterAmount, -, h⟩
        · exact .inr (lt_of_checkedAdd_error hcurrent.amounts.2 hcounter)
        · exact absurd h (by simp)
  · rw [if_neg hjoins, if_neg hjoins]
    refine ⟨?_, fun error h => absurd h (by simp)⟩
    intro next h
    rw [← Except.ok.inj h, List.map_append, List.map_append]
    rfl

/-- A fill that is too large stays too large. -/
theorem oversized_push {fills : List (WorkingFill ℤ)} {trade : WorkingFill ℤ}
    (htrade : IsTrade trade) (h : ∃ fill ∈ fills, Oversized fill) :
    ∃ fill ∈ push WorkingFill.key mergeFills fills trade, Oversized fill := by
  obtain ⟨fill, hmem, hlarge⟩ := h
  rcases List.eq_nil_or_concat fills with rfl | ⟨done, previous, rfl⟩
  · exact absurd hmem List.not_mem_nil
  rw [List.concat_eq_append] at hmem
  rw [List.concat_eq_append, push, List.getLast?_concat, List.dropLast_concat]
  dsimp only
  split_ifs
  · rcases List.mem_append.mp hmem with hmem | hmem
    · exact ⟨fill, List.mem_append_left _ hmem, hlarge⟩
    · rw [List.mem_singleton.mp hmem] at hlarge
      refine ⟨_, List.mem_append_right _ List.mem_cons_self, ?_⟩
      -- the amounts of the trade are not negative
      rcases hlarge with hlarge | hlarge
      · exact .inl (lt_add_of_lt_of_nonneg hlarge htrade.amounts.1)
      · exact .inr (lt_add_of_lt_of_nonneg hlarge htrade.amounts.2)
  · exact ⟨fill, List.mem_append_left _ hmem, hlarge⟩

theorem oversized_foldl {fills trades : List (WorkingFill ℤ)}
    (htrades : ∀ trade ∈ trades, IsTrade trade) (h : ∃ fill ∈ fills, Oversized fill) :
    ∃ fill ∈ trades.foldl (push WorkingFill.key mergeFills) fills, Oversized fill := by
  induction trades generalizing fills with
  | nil => exact h
  | cons trade trades ih =>
    rw [List.forall_mem_cons] at htrades
    exact ih htrades.2 (oversized_push htrades.1 h)

/-- The loop merges neighbours, unless a sum overflows. -/
theorem foldlM_addToFills (hitems : ∀ item ∈ items, IsTrade item.widen)
    (result : List (WorkingFill I64)) :
    (∀ next, items.foldlM addToFills result = .ok next → next.map WorkingFill.widen =
      (items.map WorkingFill.widen).foldl (push WorkingFill.key mergeFills)
        (result.map WorkingFill.widen)) ∧
    (∀ error, items.foldlM addToFills result = .error error →
      ∃ fill ∈ (items.map WorkingFill.widen).foldl (push WorkingFill.key mergeFills)
        (result.map WorkingFill.widen), Oversized fill) := by
  induction items generalizing result with
  | nil =>
    constructor
    · intro next h
      rw [← Except.ok.inj h]
      rfl
    · intro error h
      exact absurd h (by simp)
  | cons item items ih =>
    rw [List.forall_mem_cons] at hitems
    obtain ⟨hok, herror⟩ := addToFills_spec result hitems.1
    have htrades : ∀ trade ∈ items.map WorkingFill.widen, IsTrade trade := by
      intro trade hmem
      obtain ⟨other, hother, rfl⟩ := List.mem_map.mp hmem
      exact hitems.2 other hother
    rw [List.foldlM_cons, List.map_cons, List.foldl_cons]
    constructor
    · intro next h
      obtain ⟨middle, hmiddle, h⟩ := bind_eq_ok.mp h
      rw [← hok middle hmiddle]
      exact (ih hitems.2 middle).1 next h
    -- a fill that is too large stays so, whatever is added later
    · intro error h
      rcases bind_eq_error.mp h with hfirst | ⟨middle, hmiddle, h⟩
      · exact oversized_foldl htrades (herror error hfirst)
      · rw [← hok middle hmiddle]
        exact (ih hitems.2 middle).2 error h

/-! ### The fill of a run -/

/-- The fill of a run of records: their sums, the first and the last of them. -/
structure FillOf (run : List (WorkingFill ℤ)) (fill : FillSegment) : Prop where
  same : ∀ trade ∈ run, trade.baseAsset = fill.baseAsset ∧
    trade.counterAsset = fill.counterAsset ∧ trade.side = fill.side ∧
    trade.priceN = fill.priceN ∧ trade.priceD = fill.priceD ∧ trade.offerId = fill.offerId
  price : formatPriceRatio fill.priceN fill.priceD = .ok fill.price
  baseAmount : fill.baseAmount = formatScaled7 (run.map fun trade => trade.baseAmount).sum
  counterAmount :
    fill.counterAmount = formatScaled7 (run.map fun trade => trade.counterAmount).sum
  tradeCount : fill.tradeCount = run.length
  first : ∃ trade, run.head? = some trade ∧ fill.firstTime = trade.firstTime ∧
    fill.firstTradeId = trade.firstTradeId
  last : ∃ trade, run.getLast? = some trade ∧ fill.lastTime = trade.lastTime ∧
    fill.lastTradeId = trade.lastTradeId

/-- What merging a run adds up. -/
structure SumsUp (run : List (WorkingFill ℤ)) (fill : WorkingFill ℤ) : Prop where
  baseAmount : fill.baseAmount = (run.map fun trade => trade.baseAmount).sum
  counterAmount : fill.counterAmount = (run.map fun trade => trade.counterAmount).sum
  tradeCount : fill.tradeCount = (run.map fun trade => trade.tradeCount).sum
  first : ∃ trade, run.head? = some trade ∧ fill = { fill with
    baseAsset := trade.baseAsset, counterAsset := trade.counterAsset, side := trade.side
    priceN := trade.priceN, priceD := trade.priceD, offerId := trade.offerId
    firstTime := trade.firstTime, firstTradeId := trade.firstTradeId }
  last : ∃ trade, run.getLast? = some trade ∧ fill = { fill with
    lastTime := trade.lastTime, lastTradeId := trade.lastTradeId }

theorem sumsUp_mergeRun {run : List (WorkingFill ℤ)} {fill : WorkingFill ℤ}
    (h : mergeRun mergeFills run = some fill) : SumsUp run fill := by
  cases run with
  | nil => exact absurd h (by simp [mergeRun])
  | cons trade rest =>
    rw [← Option.some_inj.mp h]
    clear h
    -- the induction is on the last trade of the run, which brings the closing time
    induction rest using List.reverseRecOn with
    | nil => exact ⟨by simp, by simp, by simp, ⟨trade, rfl, rfl⟩, ⟨trade, rfl, rfl⟩⟩
    | append_singleton rest other ih =>
      rw [List.foldl_append, List.foldl_cons, List.foldl_nil, ← List.cons_append]
      obtain ⟨hbase, hcounter, hcount, ⟨_, hhead, hfirst⟩, -⟩ := ih
      obtain rfl := Option.some_inj.mp hhead
      refine ⟨?_, ?_, ?_, ⟨trade, rfl, ?_⟩, ⟨other, List.getLast?_concat, rfl⟩⟩
      · simp only [mergeFills, hbase, List.map_append, List.sum_append, List.map_singleton,
          List.sum_singleton]
      · simp only [mergeFills, hcounter, List.map_append, List.sum_append, List.map_singleton,
          List.sum_singleton]
      · simp only [mergeFills, hcount, List.map_append, List.sum_append, List.map_singleton,
          List.sum_singleton]
      · rw [hfirst]
        rfl

variable {run trades : List (WorkingFill ℤ)} {fill : WorkingFill ℤ} {shown : FillSegment}

/-- Trades of one fill agree in what their key holds. -/
theorem joins_fields {a b : WorkingFill ℤ} (h : Joins WorkingFill.key a b) :
    b.baseAsset = a.baseAsset ∧ b.counterAsset = a.counterAsset ∧ b.side = a.side ∧
      b.priceN = a.priceN ∧ b.priceD = a.priceD ∧ b.offerId = a.offerId := by
  obtain ⟨hsome, heq⟩ := h
  unfold WorkingFill.key at hsome heq
  cases ha : a.offerId with
  | none => simp [ha] at hsome
  | some left =>
    cases hb : b.offerId with
    | none => simp [ha, hb] at heq
    | some right =>
      rw [ha, hb, Option.map_some, Option.map_some, Option.some_inj, FillKey.mk.injEq] at heq
      obtain ⟨hbase, hcounter, hside, hn, hd, hid⟩ := heq
      exact ⟨hbase.symm, hcounter.symm, hside.symm, hn.symm, hd.symm, by rw [hid]⟩

/-- Only the price of a fill has to be worked out. -/
theorem finish_eq_ok (h : fill.finish = .ok shown) :
    formatPriceRatio fill.priceN fill.priceD = .ok shown.price ∧
      shown = { shown with
        baseAsset := fill.baseAsset, counterAsset := fill.counterAsset, side := fill.side
        baseAmount := formatScaled7 fill.baseAmount
        counterAmount := formatScaled7 fill.counterAmount
        priceN := fill.priceN, priceD := fill.priceD, offerId := fill.offerId
        tradeCount := fill.tradeCount, firstTime := fill.firstTime, lastTime := fill.lastTime
        firstTradeId := fill.firstTradeId, lastTradeId := fill.lastTradeId } := by
  obtain ⟨price, hprice, h⟩ := bind_eq_ok.mp h
  rw [← Except.ok.inj h]
  exact ⟨hprice, rfl⟩

theorem key_of_finish (h : fill.finish = .ok shown) : shown.key = fill.key := by
  rw [(finish_eq_ok h).2]
  rfl

/-- What is shown of a run is its fill. -/
theorem fillOf_finish (htrades : ∀ trade ∈ run, IsTrade trade)
    (hjoins : ∃ first rest, run = first :: rest ∧
      ∀ other ∈ rest, Joins WorkingFill.key first other)
    (hmerged : mergeRun mergeFills run = some fill) (h : fill.finish = .ok shown) :
    FillOf run shown := by
  obtain ⟨first, rest, rfl, hrest⟩ := hjoins
  obtain ⟨hbase, hcounter, hcount, ⟨_, hhead, hfirst⟩, ⟨last, hlast, hlastEq⟩⟩ :=
    sumsUp_mergeRun hmerged
  obtain rfl := Option.some_inj.mp hhead
  -- every trade counts once, so the count of the run is its length
  have hones : ((first :: rest).map fun trade => trade.tradeCount).sum =
      (first :: rest).length := by
    rw [List.map_congr_left fun trade hmem => (htrades trade hmem).tradeCount, List.map_const',
      List.sum_replicate_nat, mul_one]
  have hfields : first.baseAsset = fill.baseAsset ∧ first.counterAsset = fill.counterAsset ∧
      first.side = fill.side ∧ first.priceN = fill.priceN ∧ first.priceD = fill.priceD ∧
      first.offerId = fill.offerId := by
    rw [hfirst]
    exact ⟨rfl, rfl, rfl, rfl, rfl, rfl⟩
  obtain ⟨hprice, hshown⟩ := finish_eq_ok h
  constructor
  · intro trade hmem
    rw [hshown]
    rcases List.mem_cons.mp hmem with rfl | hmem
    · exact hfields
    · obtain ⟨h1, h2, h3, h4, h5, h6⟩ := joins_fields (hrest trade hmem)
      obtain ⟨g1, g2, g3, g4, g5, g6⟩ := hfields
      exact ⟨h1.trans g1, h2.trans g2, h3.trans g3, h4.trans g4, h5.trans g5, h6.trans g6⟩
  · rw [hshown]
    exact hprice
  · rw [hshown, ← hbase]
  · rw [hshown, ← hcounter]
  · rw [hshown, ← hones, ← hcount]
  · refine ⟨first, rfl, ?_, ?_⟩
    · rw [hshown, hfirst]
    · rw [hshown, hfirst]
  · refine ⟨last, hlast, ?_, ?_⟩
    · rw [hshown, hlastEq]
    · rw [hshown, hlastEq]

/-! ### A list of trades -/

/-- Each fill of a list of trades adds up one run. -/
theorem exists_run_of_mem (hmem : fill ∈ compress WorkingFill.key mergeFills trades) :
    ∃ run, SumsUp run fill ∧ ∀ trade ∈ run, trade ∈ trades := by
  obtain ⟨runs, hpartition, hruns⟩ := Segments.compress_partition lawful_mergeFills trades
  obtain ⟨i, hi, rfl⟩ := List.mem_iff_getElem.mp hmem
  have hlt : i < runs.length := hruns.length_eq ▸ hi
  refine ⟨runs[i], sumsUp_mergeRun (hruns.get hlt hi), ?_⟩
  intro trade htrade
  rw [← hpartition.flatten]
  exact List.mem_flatten.mpr ⟨_, List.getElem_mem hlt, htrade⟩

/-- The fills of trades have amounts that are not negative, and are shown. -/
theorem compress_sound (htrades : ∀ trade ∈ trades, IsTrade trade)
    (hmem : fill ∈ compress WorkingFill.key mergeFills trades) :
    (0 ≤ fill.baseAmount ∧ 0 ≤ fill.counterAmount) ∧ ∃ shown, fill.finish = .ok shown := by
  obtain ⟨run, hsums, hsub⟩ := exists_run_of_mem hmem
  refine ⟨⟨?_, ?_⟩, ?_⟩
  · rw [hsums.baseAmount]
    apply List.sum_nonneg
    intro amount hamount
    obtain ⟨trade, htrade, rfl⟩ := List.mem_map.mp hamount
    exact (htrades trade (hsub trade htrade)).amounts.1
  · rw [hsums.counterAmount]
    apply List.sum_nonneg
    intro amount hamount
    obtain ⟨trade, htrade, rfl⟩ := List.mem_map.mp hamount
    exact (htrades trade (hsub trade htrade)).amounts.2
  · obtain ⟨first, hhead, hfirst⟩ := hsums.first
    have hprice := (htrades first (hsub first (List.mem_of_mem_head? hhead))).price
    obtain ⟨price, hok, -⟩ := formatPriceRatio_shows hprice.1 hprice.2
    refine ⟨_, bind_eq_ok.mpr ⟨price, ?_, rfl⟩⟩
    rw [hfirst]
    exact hok

/-- An amount that is too large stays so when the list is put behind another. -/
theorem oversized_seam {left right : List (WorkingFill ℤ)}
    (hleft : ∀ fill ∈ left, 0 ≤ fill.baseAmount ∧ 0 ≤ fill.counterAmount)
    (h : ∃ fill ∈ right, Oversized fill) :
    ∃ fill ∈ seam WorkingFill.key mergeFills left right, Oversized fill := by
  obtain ⟨large, hmem, hlarge⟩ := h
  unfold seam
  split
  · rename_i a b rest hlast
    have hnonneg := hleft a (List.mem_of_getLast? hlast)
    split_ifs
    · rcases List.mem_cons.mp hmem with rfl | hmem
      · refine ⟨mergeFills a large, List.mem_append_right _ List.mem_cons_self, ?_⟩
        rcases hlarge with hlarge | hlarge
        · exact .inl (lt_add_of_nonneg_of_lt hnonneg.1 hlarge)
        · exact .inr (lt_add_of_nonneg_of_lt hnonneg.2 hlarge)
      · exact ⟨large, List.mem_append_right _ (List.mem_cons_of_mem _ hmem), hlarge⟩
    · exact ⟨large, List.mem_append_right _ hmem, hlarge⟩
  · exact ⟨large, List.mem_append_right _ hmem, hlarge⟩

/-! ### The whole list -/

/-- A record is read as a trade: its price ratio, its assets and amounts, and the side and the
offer of the account that has the address. -/
structure ReadAs (strKey : StrKey) (address : String) (raw : Json) (trade : WorkingFill ℤ) :
    Prop where
  price : ∃ price, (raw.get? "price" >>= Json.asObject?) = some price ∧
    pricePart price "n" = some trade.priceN ∧ pricePart price "d" = some trade.priceD
  assets : tradeAsset strKey raw "base" = .ok trade.baseAsset ∧
    tradeAsset strKey raw "counter" = .ok trade.counterAsset
  baseAmount : ∃ amount, parseTradeAmount raw "base_amount" = .ok amount ∧
    trade.baseAmount = amount.val
  counterAmount : ∃ amount, parseTradeAmount raw "counter_amount" = .ok amount ∧
    trade.counterAmount = amount.val
  sold : text raw "base_account" = some address →
    trade.side = .sell ∧ trade.offerId = valueText (raw.get? "base_offer_id")
  bought : text raw "base_account" ≠ some address → text raw "counter_account" = some address →
    trade.side = .buy ∧ trade.offerId = valueText (raw.get? "counter_offer_id")
  others : text raw "base_account" ≠ some address → text raw "counter_account" ≠ some address →
    (trade.side = .sell ↔ (raw.get? "base_is_seller" >>= Json.asBool?) = some true) ∧
      trade.offerId = none
  tradeCount : trade.tradeCount = 1
  times : trade.firstTime = text raw "ledger_close_time" ∧
    trade.lastTime = text raw "ledger_close_time"
  ids : trade.firstTradeId =
      ((valueText (raw.get? "id")).or (valueText (raw.get? "paging_token"))).getD "" ∧
    trade.lastTradeId = trade.firstTradeId

theorem ReadAs.side_eq {trade : WorkingFill ℤ} (h : ReadAs strKey address raw trade) :
    trade.side = if text raw "base_account" = some address then .sell
      else if text raw "counter_account" = some address then .buy
      else if (raw.get? "base_is_seller" >>= Json.asBool?).getD false then .sell else .buy := by
  split_ifs with hbase hcounter hseller
  · exact (h.sold hbase).1
  · exact (h.bought hbase hcounter).1
  · rw [(h.others hbase hcounter).1]
    cases hflag : raw.get? "base_is_seller" >>= Json.asBool? with
    | none => simp [hflag] at hseller
    | some flag => simpa [hflag] using hseller
  · cases hside : trade.side with
    | buy => rfl
    | sell =>
      rw [(h.others hbase hcounter).1.mp hside] at hseller
      exact absurd rfl hseller

theorem ReadAs.offerId_eq {trade : WorkingFill ℤ} (h : ReadAs strKey address raw trade) :
    trade.offerId = if text raw "base_account" = some address then
        valueText (raw.get? "base_offer_id")
      else if text raw "counter_account" = some address then
        valueText (raw.get? "counter_offer_id")
      else none := by
  split_ifs with hbase hcounter
  · exact (h.sold hbase).2
  · exact (h.bought hbase hcounter).2
  · exact (h.others hbase hcounter).2

/-- That is what the loop reads. -/
theorem readAs_iff {trade : WorkingFill ℤ} : ReadAs strKey address raw trade ↔
    ∃ item, segment strKey raw address = .ok item ∧ item.widen = trade := by
  constructor
  · intro h
    obtain ⟨price, hprice, hn, hd⟩ := h.price
    obtain ⟨baseAmount, hbase, hbaseVal⟩ := h.baseAmount
    obtain ⟨counterAmount, hcounter, hcounterVal⟩ := h.counterAmount
    refine ⟨⟨trade.baseAsset, trade.counterAsset, trade.side, baseAmount, counterAmount,
      trade.priceN, trade.priceD, trade.offerId, 1, trade.firstTime, trade.lastTime,
      trade.firstTradeId, trade.lastTradeId⟩, ?_, ?_⟩
    · rw [h.side_eq, h.offerId_eq, h.times.1, h.times.2, h.ids.2, h.ids.1]
      exact bind_eq_ok.mpr ⟨price, okOr_eq_ok.mpr hprice, bind_eq_ok.mpr ⟨_, okOr_eq_ok.mpr hn,
        bind_eq_ok.mpr ⟨_, okOr_eq_ok.mpr hd, bind_eq_ok.mpr ⟨_, h.assets.1,
          bind_eq_ok.mpr ⟨_, h.assets.2, bind_eq_ok.mpr ⟨_, hbase,
            bind_eq_ok.mpr ⟨_, hcounter, rfl⟩⟩⟩⟩⟩⟩⟩
    · rw [WorkingFill.widen, ← hbaseVal, ← hcounterVal, ← h.tradeCount]
  · rintro ⟨item, h, rfl⟩
    obtain ⟨price, hprice, h⟩ := bind_eq_ok.mp h
    obtain ⟨n, hn, h⟩ := bind_eq_ok.mp h
    obtain ⟨d, hd, h⟩ := bind_eq_ok.mp h
    obtain ⟨baseAsset, hbaseAsset, h⟩ := bind_eq_ok.mp h
    obtain ⟨counterAsset, hcounterAsset, h⟩ := bind_eq_ok.mp h
    obtain ⟨baseAmount, hbase, h⟩ := bind_eq_ok.mp h
    obtain ⟨counterAmount, hcounter, h⟩ := bind_eq_ok.mp h
    obtain rfl := Except.ok.inj h
    refine ⟨⟨price, okOr_eq_ok.mp hprice, okOr_eq_ok.mp hn, okOr_eq_ok.mp hd⟩,
      ⟨hbaseAsset, hcounterAsset⟩, ⟨baseAmount, hbase, rfl⟩, ⟨counterAmount, hcounter, rfl⟩,
      ?_, ?_, ?_, rfl, ⟨rfl, rfl⟩, ⟨rfl, rfl⟩⟩
    -- the side is that of the base account, or of the counter account, or the seller's
    · intro hsold
      exact ⟨if_pos hsold, if_pos hsold⟩
    · intro hbase hbought
      exact ⟨(if_neg hbase).trans (if_pos hbought), (if_neg hbase).trans (if_pos hbought)⟩
    · intro hbase hcounter
      refine ⟨?_, (if_neg hbase).trans (if_neg hcounter)⟩
      change (if text raw "base_account" = some address then DexTradeSide.sell else _) = _ ↔ _
      rw [if_neg hbase, if_neg hcounter]
      cases raw.get? "base_is_seller" >>= Json.asBool? with
      | none => simp
      | some flag => cases flag <;> simp

theorem ReadAs.isTrade {trade : WorkingFill ℤ} (h : ReadAs strKey address raw trade) :
    IsTrade trade := by
  obtain ⟨item, hitem, rfl⟩ := readAs_iff.mp h
  exact segment_isTrade hitem

theorem isTrade_of_readAs (h : List.Forall₂ (ReadAs strKey address) records trades) :
    ∀ trade ∈ trades, IsTrade trade := by
  intro trade hmem
  obtain ⟨i, hi, rfl⟩ := List.mem_iff_getElem.mp hmem
  exact (h.get (h.length_eq.symm ▸ hi) hi).isTrade

/-- The loop reads the records one by one. -/
theorem foldlM_records
    (h : List.Forall₂ (fun raw item => segment strKey raw address = .ok item) records items)
    (result : List (WorkingFill I64)) :
    records.foldlM (fun result raw => do
        let current ← segment strKey raw address
        addToFills result current) result =
      items.foldlM addToFills result := by
  induction h generalizing result with
  | nil => rfl
  | cons hitem _ ih =>
    rw [List.foldlM_cons, List.foldlM_cons, hitem, ok_bind]
    exact bind_congr fun next => ih next

/-- A loop that succeeds has read every record. -/
theorem forall_read_of_ok
    (h : records.foldlM (fun result raw => do
        let current ← segment strKey raw address
        addToFills result current) result = .ok next) :
    ∀ raw ∈ records, ∃ item, segment strKey raw address = .ok item := by
  induction records generalizing result with
  | nil => simp
  | cons raw records ih =>
    obtain ⟨middle, hmiddle, h⟩ := bind_eq_ok.mp (List.foldlM_cons.symm.trans h)
    obtain ⟨item, hitem, -⟩ := bind_eq_ok.mp hmiddle
    intro other hmem
    rcases List.mem_cons.mp hmem with rfl | hmem
    · exact ⟨item, hitem⟩
    · exact ih h other hmem

/-- Records that can all be read are a list of trades. -/
theorem exists_trades (h : ∀ raw ∈ records, ∃ item, segment strKey raw address = .ok item) :
    ∃ trades, List.Forall₂ (ReadAs strKey address) records trades := by
  induction records with
  | nil => exact ⟨[], .nil⟩
  | cons raw records ih =>
    rw [List.forall_mem_cons] at h
    obtain ⟨item, hitem⟩ := h.1
    obtain ⟨trades, htrades⟩ := ih h.2
    exact ⟨_, .cons (readAs_iff.mpr ⟨item, hitem, rfl⟩) htrades⟩

theorem exists_items (h : List.Forall₂ (ReadAs strKey address) records trades) :
    ∃ items, List.Forall₂ (fun raw item => segment strKey raw address = .ok item) records items ∧
      items.map WorkingFill.widen = trades := by
  induction h with
  | nil => exact ⟨[], .nil, rfl⟩
  | cons hread _ ih =>
    obtain ⟨item, hitem, rfl⟩ := readAs_iff.mp hread
    obtain ⟨items, hitems, rfl⟩ := ih
    exact ⟨item :: items, .cons hitem hitems, rfl⟩

/-- What the loop returns are the merged neighbours. -/
theorem map_widen_of_ok (htrades : List.Forall₂ (ReadAs strKey address) records trades)
    (h : records.foldlM (fun result raw => do
        let current ← segment strKey raw address
        addToFills result current) [] = .ok result) :
    result.map WorkingFill.widen = compress WorkingFill.key mergeFills trades := by
  obtain ⟨items, hitems, rfl⟩ := exists_items htrades
  have hread : ∀ item ∈ items, IsTrade item.widen := fun item hmem =>
    isTrade_of_readAs htrades _ (List.mem_map_of_mem hmem)
  rw [foldlM_records hitems] at h
  rw [(foldlM_addToFills hread []).1 result h, List.map_nil, Segments.foldl_push]

variable {fills : List FillSegment}

/-- The fills of readable records are those of their trades, where none is too large. -/
theorem compressAccountTrades_eq_ok : compressAccountTrades strKey records address = .ok fills ↔
    ∃ trades, List.Forall₂ (ReadAs strKey address) records trades ∧
      (∀ fill ∈ compress WorkingFill.key mergeFills trades, ¬ Oversized fill) ∧
      List.Forall₂ (fun fill shown => fill.finish = .ok shown)
        (compress WorkingFill.key mergeFills trades) fills := by
  rw [compressAccountTrades, bind_eq_ok]
  constructor
  · rintro ⟨result, hresult, hfinish⟩
    obtain ⟨trades, htrades⟩ := exists_trades (forall_read_of_ok hresult)
    have hmap := map_widen_of_ok htrades hresult
    refine ⟨_, htrades, ?_, ?_⟩
    · rw [← hmap]
      exact not_oversized_map_widen result
    · rw [← hmap, List.forall₂_map_left_iff]
      exact mapM_eq_ok.mp hfinish
  · rintro ⟨trades, htrades, hfits, hfinish⟩
    obtain ⟨items, hitems, rfl⟩ := exists_items htrades
    have hread : ∀ item ∈ items, IsTrade item.widen := fun item hmem =>
      isTrade_of_readAs htrades _ (List.mem_map_of_mem hmem)
    have hloop := foldlM_addToFills hread []
    rw [List.map_nil, Segments.foldl_push] at hloop
    rw [foldlM_records hitems]
    -- an error of the loop would be that of a fill that is too large
    cases hresult : items.foldlM addToFills [] with
    | error error =>
      obtain ⟨fill, hmem, hlarge⟩ := hloop.2 error hresult
      exact absurd hlarge (hfits fill hmem)
    | ok result =>
      refine ⟨result, rfl, mapM_eq_ok.mpr ?_⟩
      rw [← hloop.1 result hresult, List.forall₂_map_left_iff] at hfinish
      exact hfinish

/-- Fills of trades can all be shown. -/
theorem exists_shown (htrades : ∀ trade ∈ trades, IsTrade trade) :
    ∃ fills, List.Forall₂ (fun fill shown => fill.finish = .ok shown)
      (compress WorkingFill.key mergeFills trades) fills := by
  have hall : ∀ fill ∈ compress WorkingFill.key mergeFills trades,
      ∃ shown, fill.finish = .ok shown :=
    fun fill hmem => (compress_sound htrades hmem).2
  generalize compress WorkingFill.key mergeFills trades = merged at hall
  induction merged with
  | nil => exact ⟨[], .nil⟩
  | cons fill merged ih =>
    rw [List.forall_mem_cons] at hall
    obtain ⟨shown, hshown⟩ := hall.1
    obtain ⟨fills, hfills⟩ := ih hall.2
    exact ⟨shown :: fills, .cons hshown hfills⟩

/-- The fills of a list of trades: one for each of its runs, and no two neighbours have one
key. -/
structure IsCompression (trades : List (WorkingFill ℤ)) (runs : List (List (WorkingFill ℤ)))
    (fills : List FillSegment) : Prop where
  partition : IsPartition WorkingFill.key trades runs
  fillOf : List.Forall₂ FillOf runs fills
  apart : fills.IsChain fun a b => ¬ Joins FillSegment.key a b
  count : (fills.map fun fill => fill.tradeCount).sum = trades.length

theorem forall₂_fillOf {runs : List (List (WorkingFill ℤ))} {merged : List (WorkingFill ℤ)}
    (hread : ∀ run ∈ runs, (∀ trade ∈ run, IsTrade trade) ∧ ∃ first rest, run = first :: rest ∧
      ∀ other ∈ rest, Joins WorkingFill.key first other)
    (hmerged : List.Forall₂ (fun run fill => mergeRun mergeFills run = some fill) runs merged)
    (hshown : List.Forall₂ (fun fill shown => fill.finish = .ok shown) merged fills) :
    List.Forall₂ FillOf runs fills := by
  induction hmerged generalizing fills with
  | nil =>
    cases hshown
    exact .nil
  | cons hrun _ ih =>
    cases hshown with
    | cons hfinish hrest =>
      rw [List.forall_mem_cons] at hread
      exact .cons (fillOf_finish hread.1.1 hread.1.2 hrun hfinish) (ih hread.2 hrest)

theorem isChain_shown {merged : List (WorkingFill ℤ)}
    (hshown : List.Forall₂ (fun fill shown => fill.finish = .ok shown) merged fills)
    (hchain : merged.IsChain fun a b => ¬ Joins WorkingFill.key a b) :
    fills.IsChain fun a b => ¬ Joins FillSegment.key a b := by
  induction hshown with
  | nil => exact List.isChain_nil
  | cons hfirst hrest ih =>
    cases hrest with
    | nil => exact List.isChain_singleton _
    | cons hsecond hrest =>
      rw [List.isChain_cons_cons] at hchain
      apply List.isChain_cons_cons.mpr
      refine ⟨?_, ih hchain.2⟩
      rw [Joins, key_of_finish hfirst, key_of_finish hsecond]
      exact hchain.1

theorem sum_tradeCount {runs : List (List (WorkingFill ℤ))}
    (h : List.Forall₂ FillOf runs fills) :
    (fills.map fun fill => fill.tradeCount).sum = runs.flatten.length := by
  induction h with
  | nil => rfl
  | cons hfill _ ih =>
    rw [List.map_cons, List.sum_cons, List.flatten_cons, List.length_append, ih, hfill.tradeCount]

/-- What is shown of a list of trades compresses it. -/
theorem isCompression_shown (htrades : ∀ trade ∈ trades, IsTrade trade)
    (hshown : List.Forall₂ (fun fill shown => fill.finish = .ok shown)
      (compress WorkingFill.key mergeFills trades) fills) :
    ∃ runs, IsCompression trades runs fills := by
  obtain ⟨runs, hpartition, hruns⟩ := Segments.compress_partition lawful_mergeFills trades
  have hread : ∀ run ∈ runs, (∀ trade ∈ run, IsTrade trade) ∧ ∃ first rest, run = first :: rest ∧
      ∀ other ∈ rest, Joins WorkingFill.key first other := by
    intro run hmem
    refine ⟨?_, hpartition.joins run hmem⟩
    intro trade htrade
    apply htrades
    rw [← hpartition.flatten]
    exact List.mem_flatten.mpr ⟨run, hmem, htrade⟩
  have hfills := forall₂_fillOf hread hruns hshown
  refine ⟨runs, hpartition, hfills, ?_, ?_⟩
  · exact isChain_shown hshown (Segments.isChain_compress lawful_mergeFills trades)
  · rw [sum_tradeCount hfills, hpartition.flatten]

/-! ### The seam -/

/-- The fill of two that meet at the seam. -/
structure MeetIn (a b fill : FillSegment) : Prop where
  joins : Joins FillSegment.key a b
  key : fill.key = a.key
  price : fill.price = a.price
  baseAmount : ∃ x y, 0 ≤ x ∧ 0 ≤ y ∧ a.baseAmount = formatScaled7 x ∧
    b.baseAmount = formatScaled7 y ∧ fill.baseAmount = formatScaled7 (x + y)
  counterAmount : ∃ x y, 0 ≤ x ∧ 0 ≤ y ∧ a.counterAmount = formatScaled7 x ∧
    b.counterAmount = formatScaled7 y ∧ fill.counterAmount = formatScaled7 (x + y)
  tradeCount : fill.tradeCount = a.tradeCount + b.tradeCount
  first : fill.firstTime = a.firstTime ∧ fill.firstTradeId = a.firstTradeId
  last : fill.lastTime = b.lastTime ∧ fill.lastTradeId = b.lastTradeId

/-- The fills of two lists, put together: only those that meet may be merged. -/
inductive Seam : List FillSegment → List FillSegment → List FillSegment → Prop
  | apart {left right : List FillSegment}
      (h : ∀ a b, left.getLast? = some a → right.head? = some b → ¬ Joins FillSegment.key a b) :
      Seam left right (left ++ right)
  | meet {a b fill : FillSegment} {before after : List FillSegment} (h : MeetIn a b fill) :
      Seam (before ++ [a]) (b :: after) (before ++ fill :: after)

theorem meetIn_finish {a b : WorkingFill ℤ} {shownA shownB : FillSegment}
    (ha : 0 ≤ a.baseAmount ∧ 0 ≤ a.counterAmount) (hb : 0 ≤ b.baseAmount ∧ 0 ≤ b.counterAmount)
    (hjoins : Joins WorkingFill.key a b) (hA : a.finish = .ok shownA) (hB : b.finish = .ok shownB)
    (h : (mergeFills a b).finish = .ok shown) : MeetIn shownA shownB shown := by
  have hkeyA := key_of_finish hA
  have hkeyB := key_of_finish hB
  have hkey := key_of_finish h
  obtain ⟨hpriceA, hshownA⟩ := finish_eq_ok hA
  obtain ⟨-, hshownB⟩ := finish_eq_ok hB
  obtain ⟨hprice, hshown⟩ := finish_eq_ok h
  refine ⟨?_, hkey.trans hkeyA.symm, ?_, ?_, ?_, ?_, ?_, ?_⟩
  · rw [Joins, hkeyA, hkeyB]
    exact hjoins
  · exact Except.ok.inj (hprice.symm.trans hpriceA)
  · exact ⟨a.baseAmount, b.baseAmount, ha.1, hb.1, by rw [hshownA], by rw [hshownB],
      by rw [hshown]; rfl⟩
  · exact ⟨a.counterAmount, b.counterAmount, ha.2, hb.2, by rw [hshownA], by rw [hshownB],
      by rw [hshown]; rfl⟩
  · rw [hshown, hshownA, hshownB]
    rfl
  · rw [hshown, hshownA]
    exact ⟨rfl, rfl⟩
  · rw [hshown, hshownB]
    exact ⟨rfl, rfl⟩

/-- A list is shown in one way. -/
theorem finish_unique {merged : List (WorkingFill ℤ)} {others : List FillSegment}
    (h : List.Forall₂ (fun fill shown => fill.finish = .ok shown) merged fills)
    (h' : List.Forall₂ (fun fill shown => fill.finish = .ok shown) merged others) :
    fills = others := by
  have hsame := mapM_eq_ok.mpr h
  rw [mapM_eq_ok.mpr h'] at hsame
  exact (Except.ok.inj hsame).symm

/-- What is shown of two lists put together is what is shown of both, put together. -/
theorem seam_finish {left right : List (WorkingFill ℤ)} {shownLeft shownRight : List FillSegment}
    (hnonnegLeft : ∀ fill ∈ left, 0 ≤ fill.baseAmount ∧ 0 ≤ fill.counterAmount)
    (hnonnegRight : ∀ fill ∈ right, 0 ≤ fill.baseAmount ∧ 0 ≤ fill.counterAmount)
    (hleft : List.Forall₂ (fun fill shown => fill.finish = .ok shown) left shownLeft)
    (hright : List.Forall₂ (fun fill shown => fill.finish = .ok shown) right shownRight)
    (h : List.Forall₂ (fun fill shown => fill.finish = .ok shown)
      (seam WorkingFill.key mergeFills left right) fills) :
    Seam shownLeft shownRight fills := by
  have hplain : List.Forall₂ (fun fill shown => fill.finish = .ok shown) (left ++ right) fills →
      fills = shownLeft ++ shownRight := by
    intro hfills
    exact finish_unique hfills (List.rel_append hleft hright)
  rcases List.eq_nil_or_concat left with rfl | ⟨before, a, rfl⟩
  · rw [hplain h]
    cases hleft
    apply Seam.apart
    intro _ _ hlast _
    exact absurd hlast (by simp)
  cases hright with
  | nil =>
    rw [Segments.seam_nil, ← List.append_nil (before.concat a)] at h
    rw [hplain h]
    apply Seam.apart
    intro _ _ _ hhead
    exact absurd hhead (by simp)
  | @cons b shownB after shownAfter hB hafter =>
    rw [List.concat_eq_append] at hleft hnonnegLeft h hplain
    rw [Segments.seam_concat_cons] at h
    obtain ⟨shownBefore, shownLast, rfl, hbefore, hlast⟩ := Segments.forall₂_append_left hleft
    obtain ⟨shownA, _, hA, hnil, rfl⟩ := List.forall₂_cons_left_iff.mp hlast
    obtain rfl := List.forall₂_nil_left_iff.mp hnil
    split_ifs at h with hjoins
    -- the two fills at the seam are shown as one, and the others as before
    · obtain ⟨sameBefore, shownMerged, rfl, hsameBefore, hmerged⟩ := Segments.forall₂_append_left h
      obtain ⟨shownFill, sameAfter, hfinish, hsameAfter, rfl⟩ :=
        List.forall₂_cons_left_iff.mp hmerged
      obtain rfl := finish_unique hsameBefore hbefore
      obtain rfl := finish_unique hsameAfter hafter
      apply Seam.meet
      exact meetIn_finish (hnonnegLeft a (by simp)) (hnonnegRight b List.mem_cons_self) hjoins hA hB
        hfinish
    · rw [hplain h]
      apply Seam.apart
      intro x y hx hy hxy
      rw [List.getLast?_concat, Option.some_inj] at hx
      rw [List.head?_cons, Option.some_inj] at hy
      rw [← hx, ← hy, Joins, key_of_finish hA, key_of_finish hB] at hxy
      exact hjoins hxy

/-- The amounts of a run add up to more than 64 bits. -/
def Overflows (run : List (WorkingFill ℤ)) : Prop :=
  9223372036854775807 < (run.map fun trade => trade.baseAmount).sum ∨
    9223372036854775807 < (run.map fun trade => trade.counterAmount).sum

theorem exists_overflows {runs : List (List (WorkingFill ℤ))} {merged : List (WorkingFill ℤ)}
    (hruns : List.Forall₂ (fun run fill => mergeRun mergeFills run = some fill) runs merged)
    (h : ∃ fill ∈ merged, Oversized fill) : ∃ run ∈ runs, Overflows run := by
  obtain ⟨fill, hmem, hlarge⟩ := h
  obtain ⟨i, hi, rfl⟩ := List.mem_iff_getElem.mp hmem
  have hlt : i < runs.length := hruns.length_eq ▸ hi
  have hsums : SumsUp runs[i] merged[i] := sumsUp_mergeRun (hruns.get hlt hi)
  refine ⟨runs[i], List.getElem_mem hlt, ?_⟩
  rw [Overflows, ← hsums.baseAmount, ← hsums.counterAmount]
  exact hlarge

/-- Compression fails only on a record that cannot be read, or a run that overflows. -/
theorem compressAccountTrades_error {error : String}
    (h : compressAccountTrades strKey records address = .error error) :
    (∃ raw ∈ records, ∀ trade, ¬ ReadAs strKey address raw trade) ∨
      ∃ trades runs, List.Forall₂ (ReadAs strKey address) records trades ∧
        IsPartition WorkingFill.key trades runs ∧ ∃ run ∈ runs, Overflows run := by
  by_cases hread : ∀ raw ∈ records, ∃ item, segment strKey raw address = .ok item
  · right
    obtain ⟨trades, htrades⟩ := exists_trades hread
    obtain ⟨runs, hpartition, hruns⟩ := Segments.compress_partition lawful_mergeFills trades
    refine ⟨trades, runs, htrades, hpartition, exists_overflows hruns ?_⟩
    by_contra hfits
    push Not at hfits
    obtain ⟨fills, hfills⟩ := exists_shown (isTrade_of_readAs htrades)
    have hok := compressAccountTrades_eq_ok.mpr ⟨trades, htrades, hfits, hfills⟩
    rw [h] at hok
    exact absurd hok (by simp)
  · left
    push Not at hread
    obtain ⟨raw, hmem, hraw⟩ := hread
    refine ⟨raw, hmem, fun trade htrade => ?_⟩
    obtain ⟨item, hitem, -⟩ := readAs_iff.mp htrade
    exact hraw item hitem

/-- The fills of two lists are what is shown of the whole, except at the seam. -/
theorem compressAccountTrades_append {more : List Json}
    (h : compressAccountTrades strKey (records ++ more) address = .ok fills) :
    ∃ left right, compressAccountTrades strKey records address = .ok left ∧
      compressAccountTrades strKey more address = .ok right ∧ Seam left right fills := by
  obtain ⟨trades, htrades, hfits, hfills⟩ := compressAccountTrades_eq_ok.mp h
  obtain ⟨before, after, rfl, hbefore, hafter⟩ := Segments.forall₂_append_left htrades
  rw [Segments.compress_append lawful_mergeFills] at hfits hfills
  have htradesBefore := isTrade_of_readAs hbefore
  have htradesAfter := isTrade_of_readAs hafter
  have hnonneg : ∀ fill ∈ compress WorkingFill.key mergeFills before,
      0 ≤ fill.baseAmount ∧ 0 ≤ fill.counterAmount :=
    fun _ hmem => (compress_sound htradesBefore hmem).1
  obtain ⟨left, hleft⟩ := exists_shown htradesBefore
  obtain ⟨right, hright⟩ := exists_shown htradesAfter
  refine ⟨left, right, ?_, ?_, ?_⟩
  · -- a prefix of the loop succeeds
    obtain ⟨result, hresult, -⟩ := bind_eq_ok.mp h
    rw [List.foldlM_append] at hresult
    obtain ⟨middle, hmiddle, -⟩ := bind_eq_ok.mp hresult
    refine compressAccountTrades_eq_ok.mpr ⟨_, hbefore, ?_, hleft⟩
    rw [← map_widen_of_ok hbefore hmiddle]
    exact not_oversized_map_widen middle
  · refine compressAccountTrades_eq_ok.mpr ⟨after, hafter, ?_, hright⟩
    -- a segment of the second half may grow at the seam, never shrink
    intro fill hmem hlarge
    obtain ⟨large, hlargeMem, hover⟩ := oversized_seam hnonneg ⟨fill, hmem, hlarge⟩
    exact hfits large hlargeMem hover
  · exact seam_finish hnonneg (fun _ hmem => (compress_sound htradesAfter hmem).1) hleft hright
      hfills

/-- The fills are those of the runs of the records, the loop fails only on a record that is
malformed or a sum that overflows, and the list of records can be cut anywhere. -/
theorem compressAccountTrades_lossless (strKey : StrKey) (records : List Json)
    (address : String) :
    (∀ fills, compressAccountTrades strKey records address = .ok fills →
      ∃ trades runs, List.Forall₂ (ReadAs strKey address) records trades ∧
        IsCompression trades runs fills) ∧
    (∀ error, compressAccountTrades strKey records address = .error error →
      (∃ raw ∈ records, ∀ trade, ¬ ReadAs strKey address raw trade) ∨
        ∃ trades runs, List.Forall₂ (ReadAs strKey address) records trades ∧
          IsPartition WorkingFill.key trades runs ∧ ∃ run ∈ runs, Overflows run) ∧
    ∀ more fills, compressAccountTrades strKey (records ++ more) address = .ok fills →
      ∃ left right, compressAccountTrades strKey records address = .ok left ∧
        compressAccountTrades strKey more address = .ok right ∧ Seam left right fills := by
  refine ⟨?_, ?_, ?_⟩
  · intro fills h
    obtain ⟨trades, htrades, -, hfills⟩ := compressAccountTrades_eq_ok.mp h
    obtain ⟨runs, hcompression⟩ := isCompression_shown (isTrade_of_readAs htrades) hfills
    exact ⟨trades, runs, htrades, hcompression⟩
  · intro error
    exact compressAccountTrades_error
  · intro more fills
    exact compressAccountTrades_append

/-! ### Four trades -/

def fillsAddress : String := "GDLVVGABQKYQVN6VJP7NHSLEA45A5YLS6PNKMIZFV4BBU2HXA5IRVHUR"

/-- A trade in which the account sells lumens at 1/2. -/
def soldRecord (id baseAmount counterAmount : String) (offer : Json) : Json :=
  .object [("id", .string id), ("ledger_close_time", .string "2026-01-01T00:00:00Z"),
    ("base_account", .string fillsAddress), ("base_offer_id", offer),
    ("base_asset_type", .string "native"), ("base_amount", .string baseAmount),
    ("counter_asset_type", .string "credit_alphanum4"), ("counter_asset_code", .string "USD"),
    ("counter_asset_issuer",
      .string "GBXFXNDLV4LSWA4VB7YIL5GBD7BVNR22SGBTDKMO2SBZZHDXSKZYCP7L"),
    ("counter_amount", .string counterAmount), ("price", .object
      [("n", .number (.posInt (.lit 1))), ("d", .number (.posInt (.lit 2)))])]

/-- Two trades of one offer, and two without an offer. -/
def soldRecords : List Json :=
  [soldRecord "1" "2.0000000" "1.0000000" (.string "7"),
    soldRecord "2" "4.0000000" "2.0000000" (.string "7"),
    soldRecord "3" "6.0000000" "3.0000000" .null,
    soldRecord "4" "8.0000000" "4.0000000" .null]

theorem compressAccountTrades_lossless_sold :
    ∃ fills, compressAccountTrades Sep23.strKey soldRecords fillsAddress = .ok fills ∧
      fills.map (fun fill => (fill.tradeCount, fill.baseAmount, fill.firstTradeId,
        fill.lastTradeId)) = [(2, "6.0000000", "1", "2"), (1, "6.0000000", "3", "3"),
          (1, "8.0000000", "4", "4")] ∧
      ∃ trades runs, List.Forall₂ (ReadAs Sep23.strKey fillsAddress) soldRecords trades ∧
        IsCompression trades runs fills := by
  have hshown : (compressAccountTrades Sep23.strKey soldRecords fillsAddress).map
      (List.map fun fill => (fill.tradeCount, fill.baseAmount, fill.firstTradeId,
        fill.lastTradeId)) = .ok [(2, "6.0000000", "1", "2"), (1, "6.0000000", "3", "3"),
          (1, "8.0000000", "4", "4")] := by
    decide +kernel
  cases h : compressAccountTrades Sep23.strKey soldRecords fillsAddress with
  | error error =>
    rw [h] at hshown
    cases hshown
  | ok fills =>
    rw [h] at hshown
    exact ⟨fills, rfl, Except.ok.inj hshown,
      (compressAccountTrades_lossless Sep23.strKey soldRecords fillsAddress).1 fills h⟩

end Fresnica
