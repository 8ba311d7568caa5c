import Fresnica.Foundation.Paging
import Fresnica.Python.DexService

/-!
# A call for the trades of an account

Horizon's list of an account's trades grows at its end, also between two requests of a call. The
pages are read up from the newest cached trade, so that the cache stays a slice of that list,
also where a request fails. A call that says that the head was reached has cached all that
Horizon held when the call began.

## Main definitions

* `TradeHistory` — all trades of an account, in Horizon's order
* `Cached` — the cache is a slice of the history
* `Serves` — Horizon answers from the histories, which grow

## Main results

* `syncAccountTradeIncrement_succ` — a turn of the loop adds the next page, or ends it
* `syncAccountTradeIncrement_cached`, `syncAccountTrades_cached` — the slice is extended
-/

namespace Fresnica.Python.Dex

open Foundation DataStore

variable {Body : Type}

/-- What Horizon lists trades by. -/
def pagingKey (item : Trade Body) : PagingKey := tradePagingKey (item.token.getD "")

/-- All trades of an account that there will ever be, in Horizon's order. -/
structure TradeHistory (Body : Type) where
  trades : List (Trade Body)
  token : ∀ item ∈ trades, (MemoryDataStore.tradeToken item).isSome
  ascending : Ascending pagingKey trades
  times : trades.Pairwise fun a b => a.ledgerCloseTime.getD "" ≤ b.ledgerCloseTime.getD ""

theorem tradeToken_eq {item : Trade Body} {token : String}
    (h : MemoryDataStore.tradeToken item = some token) : item.token = some token ∧ token ≠ "" := by
  obtain ⟨htoken, hne⟩ := Option.filter_eq_some_iff.mp h
  exact ⟨htoken, by simpa using hne⟩

namespace TradeHistory

variable {history : TradeHistory Body} {item : Trade Body} {i : ℕ}

theorem exists_token (hitem : item ∈ history.trades) :
    ∃ token, item.token = some token ∧ token ≠ "" ∧
      MemoryDataStore.tradeToken item = some token := by
  obtain ⟨token, htoken⟩ := Option.isSome_iff_exists.mp (history.token item hitem)
  obtain ⟨hsome, hne⟩ := tradeToken_eq htoken
  exact ⟨token, hsome, hne, htoken⟩

/-- The store lists trades in Horizon's order. -/
theorem ranked (history : TradeHistory Body) :
    Ascending MemoryDataStore.tradeRank history.trades := by
  refine (history.ascending.and history.times).imp fun hboth => ?_
  rw [MemoryDataStore.tradeRank, MemoryDataStore.tradeRank, Prod.Lex.toLex_lt_toLex]
  rcases hboth.2.lt_or_eq with hlt | heq
  · exact Or.inl hlt
  · exact Or.inr ⟨heq, hboth.1⟩

theorem nodup_tokens (history : TradeHistory Body) :
    (history.trades.map MemoryDataStore.tradeToken).Nodup := by
  refine List.pairwise_map.mpr (history.ascending.imp_of_mem fun {a b} ha hb hlt heq => ?_)
  obtain ⟨token, htoken, -, hkey⟩ := exists_token ha
  obtain ⟨other, hother, -, hkey'⟩ := exists_token hb
  rw [hkey, hkey', Option.some_inj] at heq
  rw [pagingKey, pagingKey, htoken, hother, heq] at hlt
  exact lt_irrefl _ hlt

end TradeHistory

/-! ### The cache is a slice -/

/-- The cache of a scope is the slice of a history between two indices, up to what is held. -/
structure Cached (history : TradeHistory Body) (store : MemoryDataStore Body) (scope : Scope)
    (lo hi held : ℕ) : Prop where
  holds : (store.trades.bucket scope).Holds MemoryDataStore.tradeToken
    (slice history.trades lo hi)
  lo_le : lo ≤ hi
  hi_le : hi ≤ held
  held_le : held ≤ history.trades.length

namespace Cached

variable {history : TradeHistory Body} {store : MemoryDataStore Body} {scope other : Scope}
  {lo hi held top limit : ℕ} {response : Payload (Trade Body)}

theorem empty (held_le : held ≤ history.trades.length) :
    Cached history (.new : MemoryDataStore Body) scope 0 0 held where
  holds := by
    rw [slice_eq_nil _ le_rfl]
    exact Dict.holds_empty
  lo_le := le_rfl
  hi_le := Nat.zero_le _
  held_le := held_le

theorem grow (h : Cached history store scope lo hi held) (hle : held ≤ top)
    (htop : top ≤ history.trades.length) : Cached history store scope lo hi top :=
  ⟨h.holds, h.lo_le, h.hi_le.trans hle, htop⟩

/-- An empty slice is empty at any index. -/
theorem empty_at (h : Cached history store scope lo lo held) {i : ℕ} (hi : i ≤ held) :
    Cached history store scope i i held where
  holds := by
    have hholds := h.holds
    rw [slice_eq_nil _ le_rfl] at hholds ⊢
    exact hholds
  lo_le := le_rfl
  hi_le := hi
  held_le := h.held_le

theorem getTrades_eq (h : Cached history store scope lo hi held) (limit : ℤ) :
    store.getTrades scope limit = sliceUpTo limit (slice history.trades lo hi).reverse := by
  rw [MemoryDataStore.getTrades, h.holds.sortDesc_eq history.ranked.slice]

/-- The newest cached trade. -/
theorem newest (h : Cached history store scope lo hi held) :
    (store.getTrades scope 1).head? = if lo < hi then history.trades[hi - 1]? else none := by
  have hone : sliceUpTo 1 (slice history.trades lo hi).reverse =
      (slice history.trades lo hi).reverse.take 1 := sliceUpTo_natCast 1 _
  rw [h.getTrades_eq, hone, List.head?_take, if_neg one_ne_zero, List.head?_reverse,
    getLast?_slice lo (h.hi_le.trans h.held_le)]

/-- A scope that is not written stays as it is. -/
theorem saveTrades_other (h : Cached history store scope lo hi held) (hne : scope ≠ other) :
    Cached history (store.saveTrades other response) scope lo hi held where
  holds := by
    rw [MemoryDataStore.saveTrades, Dict.save, Dict.bucket_set, if_neg hne]
    exact h.holds
  lo_le := h.lo_le
  hi_le := h.hi_le
  held_le := h.held_le

/-- The next trades are added. -/
theorem saveTrades_up (h : Cached history store scope lo hi held) (hhi : hi ≤ top)
    (htop : top ≤ held) (hresponse : records response = slice history.trades hi top) :
    Cached history (store.saveTrades scope response) scope lo top held where
  holds := by
    have hall : (slice history.trades hi top ++ slice history.trades lo hi).Perm
        (slice history.trades lo top) :=
      List.perm_append_comm.trans (.of_eq (slice_append h.lo_le hhi))
    rw [MemoryDataStore.saveTrades, Dict.save, Dict.bucket_set, if_pos rfl, hresponse]
    apply (h.holds.saveAll (fun item hitem => history.token item (mem_of_mem_slice hitem))
      _).of_perm hall
    rw [(hall.map MemoryDataStore.tradeToken).nodup_iff]
    exact history.nodup_tokens.sublist
      (((List.drop_sublist _ _).trans (List.take_sublist _ _)).map _)
  lo_le := h.lo_le.trans hhi
  hi_le := htop
  held_le := h.held_le

/-- The newest trades are the first ones that are cached. -/
theorem saveTrades_head (h : Cached history store scope lo lo held) (htop : top ≤ held)
    (hresponse : records response = (slice history.trades (top - limit) top).reverse) :
    Cached history (store.saveTrades scope response) scope (top - limit) top held where
  holds := by
    have hholds := h.holds
    rw [slice_eq_nil _ le_rfl] at hholds
    rw [MemoryDataStore.saveTrades, Dict.save, Dict.bucket_set, if_pos rfl, hresponse]
    have hall : ((slice history.trades (top - limit) top).reverse ++ []).Perm
        (slice history.trades (top - limit) top) := by
      rw [List.append_nil]
      exact List.reverse_perm _
    apply (hholds.saveAll (fun item hitem => history.token item
      (mem_of_mem_slice (List.mem_reverse.mp hitem))) _).of_perm hall
    rw [(hall.map MemoryDataStore.tradeToken).nodup_iff]
    exact history.nodup_tokens.sublist
      (((List.drop_sublist _ _).trans (List.take_sublist _ _)).map _)
  lo_le := Nat.sub_le _ _
  hi_le := htop
  held_le := h.held_le

end Cached

/-! ### The pages of a call -/

/-- Horizon answers each request of a call for trades from as much of the histories as it holds
then. -/
structure Serves (chain : String → TradeHistory Body) (adapter : Adapter Body)
    (held : ℕ → String → ℕ) : Prop where
  grows : ∀ request address, held request address ≤ held (request + 1) address
  held_le : ∀ request address, held request address ≤ (chain address).trades.length
  trades : ∀ request address limit cursor desc response,
    adapter.getAccountTrades request address limit cursor desc = .ok response →
      records response = pageOf pagingKey
        ((chain address).trades.take (held request address)) limit (cursor.map tradePagingKey) desc

section Calls

variable {chain : String → TradeHistory Body} {adapter : Adapter Body} {held : ℕ → String → ℕ}
variable {networkName address cursor : String} {store : MemoryDataStore Body}
variable {lo hi request pages limit top : ℕ}

/-- The scope of the trades of an account. -/
def tradeScope (networkName address : String) : Scope :=
  (networkName, accountTradeCacheKey address)

/-- How far a walk up from an index came. -/
structure WalkedUp (held hi pages : ℕ) (result : Except String Bool) (top : ℕ) : Prop where
  hi_le : hi ≤ top
  reached : result = .ok true → held ≤ top
  full : result = .ok false → top = hi + pages * accountTradePageLimit

/-- The page above the newest cached trade is the next slice. -/
theorem Serves.records_up (h : Serves chain adapter held)
    (hcached : Cached (chain address) store (tradeScope networkName address) lo hi
      (held request address)) (hlt : lo < hi)
    (hcursor : ((chain address).trades[hi - 1]? >>= Trade.token) = some cursor)
    {response : Payload (Trade Body)} (hresponse : adapter.getAccountTrades request address limit
      (some cursor) false = .ok response) :
    records response =
      slice (chain address).trades hi (min (held request address) (hi + limit)) := by
  obtain ⟨item, hitem, htoken⟩ := Option.bind_eq_some_iff.mp hcursor
  have hkey : tradePagingKey cursor = pagingKey item := by
    rw [pagingKey, htoken, Option.getD_some]
  have hi_le := hcached.hi_le
  have hsucc : hi - 1 + 1 = hi := by omega
  rw [h.trades _ _ _ _ _ _ hresponse, Option.map_some, hkey,
    pageOf_above (chain address).ascending (by omega) hitem, hsucc]

/-- A turn of the loop. -/
inductive Turn (chain : String → TradeHistory Body) (adapter : Adapter Body)
    (held : ℕ → String → ℕ) (networkName address : String) (request : ℕ) (cursor : String)
    (store : MemoryDataStore Body) (lo hi pages : ℕ) : Prop
  | failed (error : String)
      (hfails : adapter.getAccountTrades request address accountTradePageLimit (some cursor) false =
        .error error)
      (hend : syncAccountTradeIncrement adapter networkName address (pages + 1) request cursor
        store = (.error error, store))
  | reached (store' : MemoryDataStore Body)
      (hall : held request address < hi + accountTradePageLimit)
      (hcached : Cached (chain address) store' (tradeScope networkName address) lo
        (held request address) (held request address))
      (hend : syncAccountTradeIncrement adapter networkName address (pages + 1) request cursor
        store = (.ok true, store'))
  | full (store' : MemoryDataStore Body) (next : String)
      (hmore : hi + accountTradePageLimit ≤ held request address)
      (hcached : Cached (chain address) store' (tradeScope networkName address) lo
        (hi + accountTradePageLimit) (held request address))
      (hnext : ((chain address).trades[hi + accountTradePageLimit - 1]? >>= Trade.token) =
        some next)
      (hgo : syncAccountTradeIncrement adapter networkName address (pages + 1) request cursor
        store = syncAccountTradeIncrement adapter networkName address pages (request + 1) next
          store')

/-- Each turn adds the page above the cursor. It ends the loop if the request fails or if the
page is not full. -/
theorem syncAccountTradeIncrement_succ (pages : ℕ) (h : Serves chain adapter held)
    (hcached : Cached (chain address) store (tradeScope networkName address) lo hi
      (held request address)) (hlt : lo < hi)
    (hcursor : ((chain address).trades[hi - 1]? >>= Trade.token) = some cursor) :
    Turn chain adapter held networkName address request cursor store lo hi pages := by
  cases hresponse : adapter.getAccountTrades request address accountTradePageLimit (some cursor)
      false with
  | error error =>
    exact .failed error hresponse (by simp only [syncAccountTradeIncrement, hresponse])
  | ok response =>
    have hrecords := h.records_up hcached hlt hcursor hresponse
    generalize hnext : min (held request address) (hi + accountTradePageLimit) = next at hrecords
    have hnext_le : next ≤ held request address := by omega
    have hlength : (records response).length = next - hi := by
      rw [hrecords, length_slice hi (hnext_le.trans hcached.held_le)]
    have hpage : 0 < accountTradePageLimit := by decide
    have hhi := hcached.hi_le
    cases hend : (records response).getLast? with
    | none =>
      -- an empty page: nothing is held above the newest cached trade
      have hnil := List.getLast?_eq_none_iff.mp hend
      rw [hnil, List.length_nil] at hlength
      have hsame : held request address = hi := by omega
      refine .reached store (by omega) ?_
        (by simp only [syncAccountTradeIncrement, hresponse, hend])
      rw [hsame] at hcached ⊢
      exact hcached
    | some last =>
      have hpos : hi < next := by
        have hne := List.ne_nil_of_mem (List.mem_of_getLast? hend)
        have := List.length_pos_of_ne_nil hne
        omega
      have hsaved : Cached (chain address) (store.saveTrades (tradeScope networkName address)
          (.list (records response))) (tradeScope networkName address) lo next
          (held request address) := hcached.saveTrades_up hpos.le hnext_le hrecords
      have hlast := hend
      rw [hrecords, getLast?_slice hi (hnext_le.trans hcached.held_le), if_pos hpos] at hlast
      obtain ⟨token, htoken, -⟩ := TradeHistory.exists_token (List.mem_of_getElem? hlast)
      have hdifferent : token ≠ cursor := by
        -- the last trade of the page comes after the one at the cursor
        rintro rfl
        obtain ⟨item, hitem, hsame⟩ := Option.bind_eq_some_iff.mp hcursor
        have hkeys := ((chain address).ascending.key_lt_iff hitem hlast).mpr (by omega)
        rw [pagingKey, pagingKey, hsame, htoken] at hkeys
        exact lt_irrefl _ hkeys
      by_cases hshort : (records response).length < accountTradePageLimit
      · have hsame : next = held request address := by omega
        rw [hsame] at hsaved
        refine .reached _ (by omega) hsaved ?_
        simp only [syncAccountTradeIncrement, hresponse, hend, htoken, if_neg hdifferent,
          if_pos hshort]
        rfl
      · have hsame : next = hi + accountTradePageLimit := by omega
        rw [hsame] at hsaved hlast
        refine .full _ token (by omega) hsaved ?_ ?_
        · rw [hlast]
          exact htoken
        · simp only [syncAccountTradeIncrement, hresponse, hend, htoken, if_neg hdifferent,
            if_neg hshort]
          rfl

/-- The loop extends the slice. -/
theorem syncAccountTradeIncrement_cached (pages : ℕ) (h : Serves chain adapter held)
    (hcached : Cached (chain address) store (tradeScope networkName address) lo hi
      (held request address)) (hlt : lo < hi)
    (hcursor : ((chain address).trades[hi - 1]? >>= Trade.token) = some cursor)
    (hlast : ∀ later, held later address ≤ top) (htop : top ≤ (chain address).trades.length) :
    ∃ hi', WalkedUp (held request address) hi pages
        (syncAccountTradeIncrement adapter networkName address pages request cursor store).1 hi' ∧
      Cached (chain address)
        (syncAccountTradeIncrement adapter networkName address pages request cursor store).2
        (tradeScope networkName address) lo hi' top := by
  -- by the pages that may still be asked for
  induction pages generalizing request cursor store hi with
  | zero =>
    refine ⟨hi, ⟨le_rfl, nofun, fun _ => ?_⟩, hcached.grow (hlast request) htop⟩
    rw [zero_mul, add_zero]
  | succ pages ih =>
    cases syncAccountTradeIncrement_succ pages h hcached hlt hcursor with
    | failed error _ hend =>
      rw [hend]
      exact ⟨hi, ⟨le_rfl, nofun, nofun⟩, hcached.grow (hlast request) htop⟩
    | reached store' _ hcached' hend =>
      rw [hend]
      exact ⟨held request address, ⟨hcached.hi_le, fun _ => le_rfl, nofun⟩,
        hcached'.grow (hlast request) htop⟩
    | full store' next hmore hcached' hnext hgo =>
      have hgrown : Cached (chain address) store' (tradeScope networkName address) lo
          (hi + accountTradePageLimit) (held (request + 1) address) :=
        hcached'.grow (h.grows request address) (h.held_le _ _)
      obtain ⟨hi', hwalked, hend⟩ := ih hgrown (hlt.trans_le (Nat.le_add_right _ _)) hnext
      rw [hgo]
      refine ⟨hi', ⟨(Nat.le_add_right _ _).trans hwalked.hi_le, fun hreached => ?_,
        fun hfull => ?_⟩, hend⟩
      · exact (h.grows request address).trans (hwalked.reached hreached)
      · rw [hwalked.full hfull, Nat.succ_mul]
        omega

/-- What a refresh does to the slice. Its lower end moves only where nothing was cached. -/
structure Refreshed (now lo hi : ℕ) (result : Except String Bool) (lo' hi' : ℕ) : Prop where
  kept : lo < hi → lo' = lo
  hi_le : hi ≤ hi'
  reached : result = .ok true → now ≤ hi'
  full : result = .ok false →
    lo < hi ∧ hi' = hi + accountTradeMaxIncrementalPages * accountTradePageLimit

theorem syncAccountTrades_cached (h : Serves chain adapter held) {now : ℕ}
    (hcached : Cached (chain address) store (tradeScope networkName address) lo hi now)
    (hfirst : now ≤ held 0 address) (hlast : ∀ request, held request address ≤ top)
    (htop : top ≤ (chain address).trades.length) (limit : ℤ) :
    ∃ lo' hi', Refreshed now lo hi (syncAccountTrades adapter networkName address limit store).1
        lo' hi' ∧
      Cached (chain address) (syncAccountTrades adapter networkName address limit store).2
        (tradeScope networkName address) lo' hi' top := by
  have hgrown := hcached.grow hfirst (h.held_le 0 address)
  rcases hcached.lo_le.lt_or_eq with hlt | rfl
  · -- up from the newest cached trade
    obtain ⟨item, hitem⟩ : ∃ item, (chain address).trades[hi - 1]? = some item := by
      have := hcached.hi_le.trans hcached.held_le
      exact ⟨_, List.getElem?_eq_getElem (by omega)⟩
    obtain ⟨token, htoken, hne, -⟩ := TradeHistory.exists_token (List.mem_of_getElem? hitem)
    have hcursor : ((chain address).trades[hi - 1]? >>= Trade.token) = some token := by
      rw [hitem]
      exact htoken
    have hstart : newestToken store (tradeScope networkName address) = some token := by
      rw [newestToken, hcached.newest, if_pos hlt, hcursor]
      simp [Option.filter, hne]
    obtain ⟨hi', hwalked, hcached'⟩ := syncAccountTradeIncrement_cached
      accountTradeMaxIncrementalPages h hgrown hlt hcursor hlast htop
    simp only [syncAccountTrades, tradeScope] at hstart ⊢
    simp only [hstart]
    refine ⟨lo, hi', ⟨fun _ => rfl, hwalked.hi_le, fun hreached => ?_, fun hfull => ?_⟩, hcached'⟩
    · exact hfirst.trans (hwalked.reached hreached)
    · exact ⟨hlt, hwalked.full hfull⟩
  · -- the newest trades, where nothing is cached
    have hstart : newestToken store (tradeScope networkName address) = none := by
      rw [newestToken, hcached.newest, if_neg (lt_irrefl _)]
      rfl
    simp only [syncAccountTrades, tradeScope] at hstart ⊢
    simp only [hstart]
    cases hresponse : adapter.getAccountTrades 0 address
        (min (accountTradePageLimit : ℤ) (max limit 1)).toNat none true with
    | error error =>
      exact ⟨lo, lo, ⟨fun _ => rfl, le_rfl, nofun, nofun⟩, hgrown.grow (hlast 0) htop⟩
    | ok response =>
      have hrecords := h.trades _ _ _ _ _ _ hresponse
      rw [Option.map_none, pageOf_head (h.held_le 0 address)] at hrecords
      -- the slice begins where the first page of the newest trades does
      have hle : lo ≤ held 0 address := hcached.hi_le.trans hfirst
      exact ⟨_, held 0 address, ⟨fun hlt => absurd hlt (lt_irrefl _), hle, fun _ => hfirst, nofun⟩,
        (hgrown.saveTrades_head le_rfl hrecords).grow (hlast 0) htop⟩

end Calls

end Fresnica.Python.Dex
