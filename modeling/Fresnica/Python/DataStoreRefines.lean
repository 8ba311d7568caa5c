import Fresnica.Python.DataStore

/-!
# The tables cache what the dictionaries cache

Whatever is called, and in whatever order, both stores give the same answers, on responses as
Horizon writes them: paging tokens and timestamps are integers of 64 bits, the token of a trade has
one or two of them, a balance is listed once, and the offers of a snapshot are those of the
service, which reads them from the newest to the oldest. Limits are not negative, and they and the
resolutions have 64 bits. Only the balances of an account come in another order.

## Main definitions

* `Command.Sound` — a call with such a response
* `Refines` — the tables have what the dictionaries have

## Main results

* `sqlPagingKey_eq` — the token of a trade is compared alike
* `Refines.call` — one call keeps both stores alike, and is answered alike
* `calls_same` — every sequence of calls is
-/

namespace Fresnica.Python.DataStore

open Foundation

variable {Body : Type}

/-! ### Integers in texts -/

/-- An integer of SQLite. -/
def Fits (n : ℤ) : Prop := -9223372036854775808 ≤ n ∧ n ≤ 9223372036854775807

instance {n : ℤ} : Decidable (Fits n) := inferInstanceAs (Decidable (_ ∧ _))

theorem Fits.castInteger_eq {n : ℤ} (h : Fits n) : castInteger n = n := by
  rw [castInteger, min_eq_left h.2, max_eq_right h.1]

theorem Fits.bindInteger_eq {n : ℤ} (h : Fits n) : bindInteger n = .ok n :=
  if_pos h.castInteger_eq

/-- Digits of an integer of SQLite. -/
structure Spelled (digits : List Char) : Prop where
  ne_nil : digits ≠ []
  all_isDigit : digits.all Char.isDigit = true
  le : Decimal.value digits ≤ 9223372036854775807

namespace Spelled

variable {digits : List Char}

theorem isDigit {c : Char} (h : Spelled digits) (hc : c ∈ digits) : c.isDigit = true :=
  List.all_eq_true.mp h.all_isDigit c hc

theorem not_space {c : Char} (h : c.isDigit = true) : Text.isSpace c = false ∧
    (c == ' ' || (9 ≤ c.toNat && c.toNat ≤ 13)) = false := by
  have hrange : 48 ≤ c.toNat ∧ c.toNat ≤ 57 := by
    simpa [Char.isDigit, UInt32.le_iff_toNat_le] using h
  have hne : c ≠ ' ' := by
    rintro rfl
    exact absurd hrange.1 (by decide)
  simp only [Text.isSpace, Text.isWhitespace]
  constructor
  · simp
    omega
  · simp [hne]
    omega

theorem dropWhile_eq {p : Char → Bool} (h : Spelled digits)
    (hp : ∀ c, c.isDigit = true → p c = false) : digits.dropWhile p = digits := by
  cases digits with
  | nil => rfl
  | cons c cs => rw [List.dropWhile_cons, hp c (h.isDigit List.mem_cons_self), if_neg (by decide)]

theorem unsigned?_eq (h : Spelled digits) : unsigned? digits = some (Decimal.value digits) := by
  have hsplit : digits.splitOn '_' = [digits] := by
    apply List.splitOn_eq_singleton
    intro hmem
    exact absurd (h.isDigit hmem) (by decide)
  have hempty : digits.isEmpty = false := by
    rw [List.isEmpty_eq_false_iff]
    exact h.ne_nil
  simp only [unsigned?, hsplit, List.all_cons, List.all_nil, hempty, h.all_isDigit, Bool.not_false,
    Bool.and_true, if_true, List.flatten_cons, List.flatten_nil, List.append_nil]

/-- Python reads the number that the digits spell. -/
theorem int?_eq (h : Spelled digits) : int? digits = some (Decimal.value digits : ℤ) := by
  have hstart : digits.dropWhile Text.isSpace = digits :=
    h.dropWhile_eq fun c hc => (not_space hc).1
  have hend : digits.rdropWhile Text.isSpace = digits := by
    rw [List.rdropWhile_eq_self_iff]
    intro hne
    rw [(not_space (h.isDigit (List.getLast_mem hne))).1]
    exact Bool.false_ne_true
  rw [int?, hstart, hend]
  split
  · exact absurd (h.isDigit List.mem_cons_self) (by decide)
  · exact absurd (h.isDigit List.mem_cons_self) (by decide)
  · rw [h.unsigned?_eq]
    rfl

/-- So does SQLite. -/
theorem castText_eq (h : Spelled digits) : castText digits = Decimal.value digits := by
  have hall : digits.takeWhile Char.isDigit = digits := by
    rw [List.takeWhile_eq_self_iff]
    intro c hc
    exact h.isDigit hc
  have hfits : Fits (Decimal.value digits : ℤ) :=
    ⟨(by decide : (-9223372036854775808 : ℤ) ≤ 0).trans (Int.natCast_nonneg _),
      by exact_mod_cast h.le⟩
  rw [castText, h.dropWhile_eq fun c hc => (not_space hc).2]
  split
  · exact absurd (h.isDigit List.mem_cons_self) (by decide)
  · exact absurd (h.isDigit List.mem_cons_self) (by decide)
  · rw [hall, hfits.castInteger_eq]

end Spelled

/-! ### The token of a trade -/

/-- One integer, or two with a hyphen between them. -/
structure IsPagingToken (text : String) : Prop where
  first : Spelled (partition '-' text.toList).1
  rest : (partition '-' text.toList).2.1 = true → Spelled (partition '-' text.toList).2.2

theorem instr_pos_iff {text : List Char} {c : Char} :
    0 < instr text c ↔ text.contains c = true := by
  rw [instr, List.contains_iff_mem]
  cases h : text.idxOf? c with
  | none => simp [List.idxOf?_eq_none_iff.mp h]
  | some i =>
    simp only [Option.elim_some, Nat.succ_pos, true_iff]
    exact List.isSome_idxOf?.mp (Option.isSome_of_eq_some h)

/-- The position of a character takes a text apart where `partition` does. -/
theorem take_instr {text : List Char} {c : Char} (h : c ∈ text) :
    text.take (instr text c - 1) = text.takeWhile (· ≠ c) ∧
      text.drop (instr text c) = (text.dropWhile (· ≠ c)).drop 1 := by
  induction text with
  | nil => exact absurd h List.not_mem_nil
  | cons d text ih =>
    by_cases hd : d = c
    · simp [instr, List.idxOf?_cons, hd]
    · have hmem : c ∈ text := (List.mem_cons.mp h).resolve_left (Ne.symm hd)
      obtain ⟨i, hi⟩ := Option.isSome_iff_exists.mp (List.isSome_idxOf?.mpr hmem)
      have ih := ih hmem
      simp only [instr, hi, Option.elim_some, Nat.add_sub_cancel] at ih
      simp [instr, List.idxOf?_cons, hd, hi, ih]

/-- Both stores compare the token of a trade alike. -/
theorem sqlPagingKey_eq {text : String} (h : IsPagingToken text) :
    sqlPagingKey text = tradePagingKey text := by
  have hfirst := h.first
  rw [partition] at hfirst
  rw [sqlPagingKey, tradePagingKey, partition]
  by_cases hcontains : text.toList.contains '-' = true
  · obtain ⟨htake, hdrop⟩ := take_instr (List.contains_iff_mem.mp hcontains)
    have hrest := h.rest hcontains
    rw [partition] at hrest
    simp only [gt_iff_lt, instr_pos_iff, hcontains, if_true, htake, hdrop]
    rw [hfirst.castText_eq, hfirst.int?_eq, hrest.castText_eq, hrest.int?_eq]
    rfl
  · have hwhole : text.toList.takeWhile (· ≠ '-') = text.toList := by
      rw [List.takeWhile_eq_self_iff]
      intro c hc
      rw [decide_eq_true_iff]
      rintro rfl
      exact hcontains (List.contains_iff_mem.mpr hc)
    rw [hwhole] at hfirst
    have hzero : castText ['0'] = 0 := by decide
    simp only [gt_iff_lt, instr_pos_iff, hcontains, hwhole, hzero, Bool.false_eq_true, if_false]
    rw [hfirst.castText_eq, hfirst.int?_eq, Option.getD_some]

/-! ### Calls with a response of Horizon -/

def OperationSound (item : Operation Body) : Prop := ∀ token, item.token = some token → Fits token

def AggregationSound (item : TradeAggregation Body) : Prop :=
  ∀ timestamp, item.timestamp = some timestamp → Fits timestamp

structure TradeSound (item : Trade Body) : Prop where
  token : ∀ token, item.token = some token → IsPagingToken token
  ledgerCloseTime : item.ledgerCloseTime ≠ some ""

/-- A snapshot of offers, from the newest to the oldest. -/
structure OffersSound (items : List (Offer Body)) : Prop where
  fits : ∀ item ∈ items, ∃ id, item.offerId = some id ∧ Fits id
  descending : items.Pairwise fun a b => b.offerId.getD 0 < a.offerId.getD 0

/-- A limit that is not negative, and that can be bound to a statement. -/
structure LimitSound (limit : ℤ) : Prop where
  nonneg : 0 ≤ limit
  fits : Fits limit

def Command.Sound : Command Body → Prop
  | .saveBalances _ balances => (balances.map assetKey).Nodup
  | .saveOperations _ operations => ∀ item ∈ records operations, OperationSound item
  | .getOperations _ limit => ∀ limit' ∈ limit, LimitSound limit'
  | .trimOperations _ limit => limit ≤ 9223372036854775807
  | .saveOffers _ offers => OffersSound (records offers)
  | .getOffers _ limit => LimitSound limit
  | .saveTrades _ trades => ∀ item ∈ records trades, TradeSound item
  | .getTrades _ limit => LimitSound limit
  | .saveTradeAggregations _ resolution aggregations =>
    Fits resolution ∧ ∀ item ∈ records aggregations, AggregationSound item
  | .getTradeAggregations _ resolution limit => Fits resolution ∧ LimitSound limit
  | _ => True

/-- The same answer, but for the order of balances. -/
inductive Answer.Same : Answer Body → Answer Body → Prop
  | refl (answer : Answer Body) : Answer.Same answer answer
  | balances {items items' : List (Balance Body)} (h : items.Perm items') :
      Answer.Same (.balances items) (.balances items')

/-! ### Trades are listed alike -/

theorem tradeToken_eq_some {item : Trade Body} {token : String}
    (h : MemoryDataStore.tradeToken item = some token) :
    item.token = some token ∧ token ≠ "" := by
  obtain ⟨htoken, hne⟩ := Option.filter_eq_some_iff.mp h
  exact ⟨htoken, of_decide_eq_true hne⟩

/-- Without an empty one, close times compare as nulls and texts do. -/
theorem closeTime_lt_iff {s t : WithBot String} (hs : s ≠ some "") (ht : t ≠ some "") :
    (s < t ↔ Option.getD s "" < Option.getD t "") ∧
      (s = t ↔ Option.getD s "" = Option.getD t "") := by
  -- a missing time is below every text but the empty one
  have hpos : ∀ text : String, text ≠ "" → "" < text := by
    intro text hne
    rw [String.lt_iff_toList_lt]
    cases htext : text.toList with
    | nil => exact absurd (String.toList_eq_nil_iff.mp htext) hne
    | cons c cs => exact List.Lex.nil
  cases s with
  | bot =>
    cases t with
    | bot => exact ⟨iff_of_false (lt_irrefl _) (lt_irrefl _), iff_of_true rfl rfl⟩
    | coe text =>
      have hne : text ≠ "" := fun h => ht (congrArg some h)
      exact ⟨iff_of_true (WithBot.bot_lt_coe text) (hpos text hne),
        iff_of_false (Option.some_ne_none text).symm (Ne.symm hne)⟩
  | coe text =>
    cases t with
    | bot =>
      have hne : text ≠ "" := fun h => hs (congrArg some h)
      exact ⟨iff_of_false (WithBot.not_lt_bot _) (hpos text hne).not_gt,
        iff_of_false (Option.some_ne_none text) hne⟩
    | coe other => exact ⟨WithBot.coe_lt_coe, Option.some_inj⟩

theorem tradeOrder_le_iff {k l : String} {a b : Trade Body}
    (hk : MemoryDataStore.tradeToken a = some k) (ha : TradeSound a)
    (hl : MemoryDataStore.tradeToken b = some l) (hb : TradeSound b) :
    SQLiteDataStore.tradeOrder (k, a) ≤ SQLiteDataStore.tradeOrder (l, b) ↔
      MemoryDataStore.tradeRank a ≤ MemoryDataStore.tradeRank b := by
  have hka := (tradeToken_eq_some hk).1
  have hlb := (tradeToken_eq_some hl).1
  obtain ⟨hlt, heq⟩ := closeTime_lt_iff ha.ledgerCloseTime hb.ledgerCloseTime
  rw [SQLiteDataStore.tradeOrder, SQLiteDataStore.tradeOrder, MemoryDataStore.tradeRank,
    MemoryDataStore.tradeRank, hka, hlb, sqlPagingKey_eq (ha.token k hka),
    sqlPagingKey_eq (hb.token l hlb), Prod.Lex.toLex_le_toLex, Prod.Lex.toLex_le_toLex]
  exact or_congr hlt (and_congr_left' heq)

/-- The text of the token is the last that is compared. -/
theorem tradeRank_injective {k l : String} {a b : Trade Body}
    (hk : MemoryDataStore.tradeToken a = some k) (hl : MemoryDataStore.tradeToken b = some l)
    (h : MemoryDataStore.tradeRank a = MemoryDataStore.tradeRank b) : k = l := by
  rw [MemoryDataStore.tradeRank, MemoryDataStore.tradeRank, (tradeToken_eq_some hk).1,
    (tradeToken_eq_some hl).1] at h
  have htoken := congrArg (fun rank => (ofLex (ofLex (ofLex (ofLex rank).2).2)).2) h
  exact htoken

/-! ### The tables have what the dictionaries have -/

structure Refines (m : MemoryDataStore Body) (s : SQLiteDataStore Body) : Prop where
  balances : ∀ scope, s.balances.rows scope =
    (m.getBalances scope).map fun item => (assetKey item, item)
  operations : SameLookups Operation.token OperationSound m.operations s.operations
  liquidityPools : ∀ scope, m.liquidityPools.get? scope = s.liquidityPools.get? scope
  offers : ∀ scope, s.offers.rows scope = ((m.offers.get? scope).getD []).filterMap
    fun item => item.offerId.map fun id => (id, item)
  offersSound : ∀ scope, OffersSound ((m.offers.get? scope).getD [])
  trades : SameLookups MemoryDataStore.tradeToken TradeSound m.trades s.trades
  tradeAggregations : SameLookups TradeAggregation.timestamp AggregationSound
    m.tradeAggregations s.tradeAggregations

theorem refines_new : Refines (.new : MemoryDataStore Body) .new where
  balances _ := rfl
  operations := .empty
  liquidityPools _ := rfl
  offers _ := rfl
  offersSound _ := ⟨fun _ h => absurd h List.not_mem_nil, List.Pairwise.nil⟩
  trades := .empty
  tradeAggregations := .empty

namespace OffersSound

variable {items : List (Offer Body)}

theorem rows_eq (h : OffersSound items) :
    (items.filterMap fun item => item.offerId.map fun id => (id, item)) =
      items.map fun item => (item.offerId.getD 0, item) := by
  rw [List.filterMap_eq_map_iff_forall_eq_some]
  intro item hitem
  obtain ⟨id, hid, -⟩ := h.fits item hitem
  rw [hid]
  rfl

/-- The statement orders the offers as they were saved. -/
theorem sortDesc_eq (h : OffersSound items) :
    (sortDesc (fun row : ℤ × Offer Body => castInteger row.1)
      (items.map fun item => (item.offerId.getD 0, item))).map Prod.snd = items := by
  rw [sortDesc_of_pairwise, List.map_map]
  · exact List.map_id _
  · rw [List.pairwise_map]
    apply h.descending.imp_of_mem
    intro a b ha hb hlt
    obtain ⟨id, hid, hfits⟩ := h.fits a ha
    obtain ⟨id', hid', hfits'⟩ := h.fits b hb
    rw [hid, hid', Option.getD_some, Option.getD_some] at hlt
    rw [hid, hid', Option.getD_some, Option.getD_some, hfits.castInteger_eq,
      hfits'.castInteger_eq]
    exact hlt

end OffersSound

namespace Refines

variable {m : MemoryDataStore Body} {s : SQLiteDataStore Body} {scope : Scope}

/-- The newest operations. -/
theorem getOperations (h : Refines m s) {limit : Option ℤ}
    (hlimit : ∀ limit' ∈ limit, LimitSound limit') :
    s.getOperations scope limit = .ok (m.getOperations scope limit) := by
  have hlist : sortDesc Operation.sortKey (m.operations.bucket scope).values =
      (sortDesc (fun row => castInteger row.1) (s.operations.rows scope)).map Prod.snd := by
    apply h.operations.list_eq
    · intro k a l b hk ha hl hb
      rw [(ha k hk).castInteger_eq, (hb l hl).castInteger_eq, Operation.sortKey_of_token hk,
        Operation.sortKey_of_token hl]
    · intro k a l b hk _ hl _ hrank
      rw [Operation.sortKey_of_token hk, Operation.sortKey_of_token hl] at hrank
      exact hrank
  cases limit with
  | none => exact congrArg Except.ok hlist.symm
  | some limit =>
    have hsound := hlimit limit rfl
    rw [SQLiteDataStore.getOperations, ← hlist, hsound.fits.bindInteger_eq, ok_bind,
      limitRows_eq hsound.nonneg]
    rfl

theorem getTrades (h : Refines m s) {limit : ℤ} (hlimit : LimitSound limit) :
    s.getTrades scope limit = .ok (m.getTrades scope limit) := by
  rw [MemoryDataStore.getTrades, SQLiteDataStore.getTrades, hlimit.fits.bindInteger_eq, ok_bind,
    limitRows_eq hlimit.nonneg, h.trades.list_eq (fun k a l b => tradeOrder_le_iff)
      (fun k a l b hk _ hl _ => tradeRank_injective hk hl) scope]
  rfl

theorem getTradeAggregations (h : Refines m s) {resolution limit : ℤ}
    (hresolution : Fits resolution) (hlimit : LimitSound limit) :
    s.getTradeAggregations scope resolution limit =
      .ok (m.getTradeAggregations scope resolution limit) := by
  have hlist : sortDesc (fun item : TradeAggregation Body => item.timestamp.getD 0)
        (m.tradeAggregations.bucket (scope, resolution)).values =
      (sortDesc (fun row => castInteger row.1)
        (s.tradeAggregations.rows (scope, resolution))).map Prod.snd := by
    apply h.tradeAggregations.list_eq
    · intro k a l b hk ha hl hb
      rw [(ha k hk).castInteger_eq, (hb l hl).castInteger_eq, hk, hl, Option.getD_some,
        Option.getD_some]
    · intro k a l b hk _ hl _ hrank
      rw [hk, hl, Option.getD_some, Option.getD_some] at hrank
      exact hrank
  rw [MemoryDataStore.getTradeAggregations, SQLiteDataStore.getTradeAggregations, hlist,
    hresolution.bindInteger_eq, ok_bind, hlimit.fits.bindInteger_eq, ok_bind,
    limitRows_eq hlimit.nonneg]
  rfl

/-- The offers of the last snapshot. -/
theorem getOffers (h : Refines m s) {limit : ℤ} (hlimit : LimitSound limit) :
    s.getOffers scope limit = .ok (m.getOffers scope limit) := by
  have hsound := h.offersSound scope
  rw [MemoryDataStore.getOffers, SQLiteDataStore.getOffers, h.offers, hsound.rows_eq,
    hsound.sortDesc_eq, hlimit.fits.bindInteger_eq, ok_bind, limitRows_eq hlimit.nonneg]
  rfl

/-- The balances of the last snapshot, in some order. -/
theorem getBalances (h : Refines m s) : (m.getBalances scope).Perm (s.getBalances scope) := by
  rw [SQLiteDataStore.getBalances, h.balances]
  have hrecords : ((m.getBalances scope).map fun item => (assetKey item, item)).map Prod.snd =
      m.getBalances scope := by
    rw [List.map_map]
    exact List.map_id _
  have hsorted := (List.mergeSort_perm ((m.getBalances scope).map fun item =>
    (assetKey item, item)) fun a b =>
      decide (SQLiteDataStore.balanceOrder a ≤ SQLiteDataStore.balanceOrder b)).map Prod.snd
  rw [hrecords] at hsorted
  exact hsorted.symm

theorem getLiquidityPool (h : Refines m s) :
    m.getLiquidityPool scope = s.getLiquidityPool scope := h.liquidityPools scope

theorem saveOperations (h : Refines m s) (operations : Payload (Operation Body))
    (hsound : ∀ item ∈ records operations, OperationSound item) :
    Refines (m.saveOperations scope operations) (s.saveOperations scope operations) := by
  have hsave : (saveOperation : Bucket Body → Operation Body → Bucket Body) =
      saveRecord Operation.token := by
    funext bucket item
    rw [saveOperation, saveRecord]
    cases item.token <;> rfl
  refine { h with operations := ?_ }
  rw [MemoryDataStore.saveOperations, Python.saveOperations, hsave]
  exact h.operations.save scope hsound fun _ _ => rfl

/-- The statement deletes what is not among the newest, also for a limit of zero. -/
theorem trimOperations_eq {limit : ℤ} (hlimit : LimitSound limit) :
    s.trimOperations scope limit =
      let newest := (sortDesc castInteger
        ((s.operations.rows scope).map Prod.fst)).take limit.toNat
      let (rowcount, table) := s.operations.delete scope fun token => !newest.contains token
      .ok (rowcount, { s with operations := table }) := by
  rw [SQLiteDataStore.trimOperations, if_neg (not_lt.mpr hlimit.nonneg)]
  by_cases hzero : limit = 0
  · rw [if_pos hzero, hzero, Int.toNat_zero]
    simp only [List.take_zero, List.contains_nil, Bool.not_false]
  · rw [if_neg hzero, hlimit.fits.bindInteger_eq, ok_bind, limitRows, if_pos hlimit.nonneg]
    rfl

/-- Both keep the newest operations, and count the others. -/
theorem trimOperations (h : Refines m s) {limit : ℤ} (hlimit : LimitSound limit) :
    ∃ removed m' s', m.trimOperations scope limit = .ok (removed, m') ∧
      s.trimOperations scope limit = .ok (removed, s') ∧ Refines m' s' := by
  have hkeys := h.operations.keys_perm scope
  -- the tokens fit in 64 bits, so both stores put them in the same order
  have htokens : sortDesc (fun key => key) (m.operations.bucket scope).keys =
      sortDesc castInteger ((s.operations.rows scope).map Prod.fst) := by
    have hfits : ∀ key ∈ (m.operations.bucket scope).keys, Fits key := by
      intro key hkey
      obtain ⟨⟨k, item⟩, hentry, rfl⟩ := List.mem_map.mp hkey
      obtain ⟨htoken, hsound⟩ := h.operations.keyed scope k item (Dict.get?_of_mem hentry)
      exact hsound k htoken
    apply sortDesc_eq hkeys
    · intro a ha b hb
      rw [(hfits a ha).castInteger_eq, (hfits b hb).castInteger_eq]
    · intro a _ b _ heq
      exact heq
  generalize hsorted : sortDesc (fun key => key) (m.operations.bucket scope).keys = sorted
    at htokens
  have hperm : sorted.Perm (m.operations.bucket scope).keys := hsorted ▸ sortDesc_perm
  have hlength : (m.operations.bucket scope).keys.length =
      (m.operations.bucket scope).entries.length := List.length_map _
  have hcount := countP_notMem_take (n := limit.toNat) hperm (m.operations.bucket scope).nodup
  have hkeep := h.operations.keep scope (sorted.take limit.toNat).contains
  rw [hkeys.countP_eq, ← Table.delete_fst, hlength] at hcount
  rw [trimOperations_eq hlimit, ← htokens, MemoryDataStore.trimOperations,
    if_neg (not_lt.mpr hlimit.nonneg)]
  by_cases hle : (m.operations.bucket scope).entries.length ≤ limit.toNat
  · -- all are among the newest
    have hall : sorted.take limit.toNat = sorted := by
      apply List.take_of_length_le
      rw [hperm.length_eq, hlength]
      exact hle
    have hnone : (m.operations.bucket scope).entries.length -
        (sorted.take limit.toNat).length = 0 := by
      rw [hall, hperm.length_eq, hlength, Nat.sub_self]
    refine ⟨0, m, _, by rw [if_pos hle], congrArg Except.ok (Prod.ext (hcount.trans hnone) rfl),
      { h with operations := hkeep.of_get?_eq fun other k => ?_ }⟩
    rw [Dict.bucket_set]
    split_ifs with hother
    · rw [Dict.get?_filterKeys, hall, hother]
      by_cases hk : k ∈ (m.operations.bucket scope).keys
      · rw [if_pos (List.contains_iff_mem.mpr (hperm.mem_iff.mpr hk))]
      · rw [if_neg fun hmem => hk (hperm.mem_iff.mp (List.contains_iff_mem.mp hmem))]
        exact Dict.get?_eq_none hk
    · rfl
  · refine ⟨_, { m with
      operations := m.operations.set scope
        ((m.operations.bucket scope).filterKeys (sorted.take limit.toNat).contains) }, _, ?_,
      congrArg Except.ok (Prod.ext hcount rfl), { h with operations := hkeep }⟩
    rw [if_neg hle, Python.trimOperations, if_neg hle, ← hsorted]
    rfl

theorem saveTrades (h : Refines m s) (trades : Payload (Trade Body))
    (hsound : ∀ item ∈ records trades, TradeSound item) :
    Refines (m.saveTrades scope trades) (s.saveTrades scope trades) := by
  refine { h with trades := h.trades.save scope hsound ?_ }
  intro item hitem
  -- a sound token is not empty, so that no store leaves it out
  rw [MemoryDataStore.tradeToken]
  cases htoken : item.token with
  | none => rfl
  | some token =>
    have hne : token ≠ "" := by
      rintro rfl
      exact (hitem.token "" htoken).first.ne_nil rfl
    rw [Option.filter_some, decide_eq_true hne, if_pos rfl]

theorem saveTradeAggregations (h : Refines m s) (resolution : ℤ)
    (aggregations : Payload (TradeAggregation Body)) (hresolution : Fits resolution)
    (hsound : ∀ item ∈ records aggregations, AggregationSound item) :
    ∃ s', s.saveTradeAggregations scope resolution aggregations = .ok s' ∧
      Refines (m.saveTradeAggregations scope resolution aggregations) s' := by
  refine ⟨{ s with
    tradeAggregations := s.tradeAggregations.save TradeAggregation.timestamp (scope, resolution)
      (records aggregations) }, ?_, { h with
    tradeAggregations := h.tradeAggregations.save (scope, resolution) hsound fun _ _ => rfl }⟩
  rw [SQLiteDataStore.saveTradeAggregations, hresolution.bindInteger_eq]
  split_ifs <;> rfl

theorem saveLiquidityPool (h : Refines m s) (pool : Body) :
    Refines (m.saveLiquidityPool scope pool) (s.saveLiquidityPool scope pool) := by
  refine { h with liquidityPools := fun other => ?_ }
  rw [MemoryDataStore.saveLiquidityPool, SQLiteDataStore.saveLiquidityPool, Dict.get?_set,
    Table.get?_replace, h.liquidityPools]
  simp only [Prod.ext_iff]

/-- A snapshot of balances replaces the one before it. -/
theorem saveBalances (h : Refines m s) (balances : List (Balance Body))
    (hnodup : (balances.map assetKey).Nodup) :
    ∃ s', s.saveBalances scope balances = .ok s' ∧ Refines (m.saveBalances scope balances) s' := by
  have hkeys : ((balances.map fun item => (assetKey item, item)).map Prod.fst).Nodup := by
    rw [List.map_map]
    exact hnodup
  obtain ⟨table, htable, hrows⟩ := Table.rows_replaceAll s.balances scope hkeys
  refine ⟨{ s with balances := table }, by rw [SQLiteDataStore.saveBalances, htable]; rfl,
    { h with balances := fun other => ?_ }⟩
  rw [hrows, MemoryDataStore.getBalances, MemoryDataStore.saveBalances, Dict.get?_set]
  split_ifs
  · rfl
  · exact h.balances other

theorem saveOffers (h : Refines m s) (offers : Payload (Offer Body))
    (hsound : OffersSound (records offers)) :
    ∃ s', s.saveOffers scope offers = .ok s' ∧ Refines (m.saveOffers scope offers) s' := by
  have hnodup : (((records offers).map fun item =>
      (item.offerId.getD 0, item)).map Prod.fst).Nodup := by
    rw [List.map_map]
    exact List.pairwise_map.mpr (hsound.descending.imp ne_of_gt)
  obtain ⟨table, htable, hrows⟩ := Table.rows_replaceAll s.offers scope hnodup
  refine ⟨{ s with offers := table }, ?_,
    { h with offers := fun other => ?_, offersSound := fun other => ?_ }⟩
  · rw [SQLiteDataStore.saveOffers, hsound.rows_eq, htable]
    rfl
  · rw [hrows, MemoryDataStore.saveOffers, Dict.get?_set]
    split_ifs
    · exact hsound.rows_eq.symm
    · exact h.offers other
  · rw [MemoryDataStore.saveOffers, Dict.get?_set]
    split_ifs
    · exact hsound
    · exact h.offersSound other

/-- One call is answered alike, and leaves the stores alike. -/
theorem call (h : Refines m s) {command : Command Body} (hsound : command.Sound) :
    Answer.Same (m.call command).1 (s.call command).1 ∧
      Refines (m.call command).2 (s.call command).2 := by
  cases command with
  | saveBalances scope balances =>
    have hsaved : ∃ s', s.saveBalances scope balances = .ok s' ∧
        Refines (m.saveBalances scope balances) s' := h.saveBalances balances hsound
    obtain ⟨s', hs', hafter⟩ := hsaved
    rw [MemoryDataStore.call, SQLiteDataStore.call, hs']
    exact ⟨.refl _, hafter⟩
  | getBalances scope => exact ⟨.balances h.getBalances, h⟩
  | saveOperations scope operations => exact ⟨.refl _, h.saveOperations operations hsound⟩
  | getOperations scope limit =>
    rw [MemoryDataStore.call, SQLiteDataStore.call, h.getOperations hsound]
    exact ⟨.refl _, h⟩
  | trimOperations scope limit =>
    rw [MemoryDataStore.call, SQLiteDataStore.call]
    -- a negative limit is refused by both stores
    by_cases hlimit : limit < 0
    · rw [MemoryDataStore.trimOperations, SQLiteDataStore.trimOperations, if_pos hlimit,
        if_pos hlimit]
      exact ⟨.refl _, h⟩
    · have hnonneg : 0 ≤ limit := not_lt.mp hlimit
      have hmin : (-9223372036854775808 : ℤ) ≤ 0 := by decide
      have htrimmed : ∃ removed m' s', m.trimOperations scope limit = .ok (removed, m') ∧
          s.trimOperations scope limit = .ok (removed, s') ∧ Refines m' s' :=
        h.trimOperations ⟨hnonneg, hmin.trans hnonneg, hsound⟩
      obtain ⟨removed, m', s', hm', hs', hafter⟩ := htrimmed
      rw [hm', hs']
      exact ⟨.refl _, hafter⟩
  | saveLiquidityPool scope pool => exact ⟨.refl _, h.saveLiquidityPool pool⟩
  | getLiquidityPool scope =>
    rw [MemoryDataStore.call, SQLiteDataStore.call, h.getLiquidityPool]
    exact ⟨.refl _, h⟩
  | saveOffers scope offers =>
    have hsaved : ∃ s', s.saveOffers scope offers = .ok s' ∧
        Refines (m.saveOffers scope offers) s' := h.saveOffers offers hsound
    obtain ⟨s', hs', hafter⟩ := hsaved
    rw [MemoryDataStore.call, SQLiteDataStore.call, hs']
    exact ⟨.refl _, hafter⟩
  | getOffers scope limit =>
    rw [MemoryDataStore.call, SQLiteDataStore.call, h.getOffers hsound]
    exact ⟨.refl _, h⟩
  | saveTrades scope trades => exact ⟨.refl _, h.saveTrades trades hsound⟩
  | getTrades scope limit =>
    rw [MemoryDataStore.call, SQLiteDataStore.call, h.getTrades hsound]
    exact ⟨.refl _, h⟩
  | saveTradeAggregations scope resolution aggregations =>
    have hsaved : ∃ s', s.saveTradeAggregations scope resolution aggregations = .ok s' ∧
        Refines (m.saveTradeAggregations scope resolution aggregations) s' :=
      h.saveTradeAggregations resolution aggregations hsound.1 hsound.2
    obtain ⟨s', hs', hafter⟩ := hsaved
    rw [MemoryDataStore.call, SQLiteDataStore.call, hs']
    exact ⟨.refl _, hafter⟩
  | getTradeAggregations scope resolution limit =>
    rw [MemoryDataStore.call, SQLiteDataStore.call, h.getTradeAggregations hsound.1 hsound.2]
    exact ⟨.refl _, h⟩

end Refines

/-! ### Sequences of calls -/

def MemoryDataStore.calls (store : MemoryDataStore Body) : List (Command Body) → List (Answer Body)
  | [] => []
  | command :: commands => (store.call command).1 :: (store.call command).2.calls commands

def SQLiteDataStore.calls (store : SQLiteDataStore Body) : List (Command Body) → List (Answer Body)
  | [] => []
  | command :: commands => (store.call command).1 :: (store.call command).2.calls commands

theorem Refines.calls {m : MemoryDataStore Body} {s : SQLiteDataStore Body} (h : Refines m s)
    {commands : List (Command Body)} (hsound : ∀ command ∈ commands, command.Sound) :
    List.Forall₂ Answer.Same (m.calls commands) (s.calls commands) := by
  induction commands generalizing m s with
  | nil => exact .nil
  | cons command commands ih =>
    obtain ⟨hanswer, hafter⟩ := h.call (hsound command List.mem_cons_self)
    exact .cons hanswer
      (ih hafter fun other hother => hsound other (List.mem_cons_of_mem _ hother))

/-- From empty stores on, whatever is called, both stores give the same answers. -/
theorem calls_same {commands : List (Command Body)}
    (hsound : ∀ command ∈ commands, command.Sound) :
    List.Forall₂ Answer.Same (MemoryDataStore.new.calls commands)
      (SQLiteDataStore.new.calls commands) :=
  refines_new.calls hsound

/-- Two balances, trades and operations, of which the older one is trimmed, and a limit that is
refused. -/
def sampleCommands : List (Command Unit) :=
  [.saveBalances ("public", "account")
      [⟨some "credit_alphanum4", none, some "USD", some "issuer", ()⟩,
        ⟨some "native", none, none, none, ()⟩],
    .getBalances ("public", "account"),
    .saveTrades ("public", "account") (.list [⟨some "129-0", none, some "2024-01-01", ()⟩]),
    .saveOperations ("public", "account") (.page (some [⟨some 7, none, ()⟩, ⟨none, some 8, ()⟩])),
    .trimOperations ("public", "account") (-1),
    .trimOperations ("public", "account") 1,
    .getOperations ("public", "account") none,
    .getTrades ("public", "account") 20]

theorem calls_same_trades :
    List.Forall₂ Answer.Same (MemoryDataStore.new.calls sampleCommands)
      (SQLiteDataStore.new.calls sampleCommands) := by
  apply calls_same
  have hfirst : Spelled (partition '-' "129-0".toList).1 :=
    ⟨by decide, by decide, by decide⟩
  have hrest : Spelled (partition '-' "129-0".toList).2.2 :=
    ⟨by decide, by decide, by decide⟩
  intro command h
  simp only [sampleCommands, List.mem_cons, List.not_mem_nil, or_false] at h
  -- one case for each command of the sample
  rcases h with rfl | rfl | rfl | rfl | rfl | rfl | rfl | rfl
  · exact (by decide : ["USD:issuer", "native"].Nodup)
  · trivial
  · intro item hitem
    obtain rfl := List.mem_singleton.mp hitem
    refine ⟨fun token htoken => ?_, by decide⟩
    obtain rfl := Option.some_inj.mp htoken
    exact ⟨hfirst, fun _ => hrest⟩
  · intro item hitem token htoken
    simp only [records, Option.getD_some, List.mem_cons, List.not_mem_nil, or_false] at hitem
    rcases hitem with rfl | rfl
    · obtain rfl := Option.some_inj.mp htoken
      decide
    · obtain rfl := Option.some_inj.mp htoken
      decide
  · exact (by decide : (-1 : ℤ) ≤ 9223372036854775807)
  · exact (by decide : (1 : ℤ) ≤ 9223372036854775807)
  · intro limit hlimit
    cases hlimit
  · exact ⟨by decide, by decide⟩

end Fresnica.Python.DataStore
