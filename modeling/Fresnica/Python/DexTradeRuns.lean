import Fresnica.Foundation.Run
import Fresnica.Python.DataStoreRefines
import Fresnica.Python.DexTrades

/-!
# The cached trades of an account have no gap

While the histories grow, and while the service is used for other accounts, for offers and for
markets, the cached trades of an account are a slice of its history. A snapshot shows the
newest trades of that slice, decoded and merged. It says that the head was reached only
where the slice has all that Horizon held when the last such refresh began. Requests fail, and
records that cannot be decoded fail a call after its pages were saved.

## Main definitions

* `Step` — calls of the service, and the growth of the histories
* `State.Sliced` — the cache is a slice, complete where the head is said to be reached
* `Reported` — what a snapshot owes to the slice

## Main results

* `accountTrades_sliced` — what a call does to the slice
* `synced_run` — the cache is a slice after every run
* `accountTrades_reported` — what a snapshot reports
-/

namespace Fresnica.Python.Dex

open Foundation DataStore TradeSegments

variable {Body Amount Raw : Type} [Add Amount]

/-! ### Runs -/

/-- The service, how much of each history Horizon holds, and how much it held when the last
refresh began that reached the head. -/
structure State (Body : Type) where
  service : DexService Body
  held : String → ℕ
  complete : String → ℕ

def State.start (held : String → ℕ) : State Body := ⟨new, held, fun _ => 0⟩

/-- What is known of a step: the answer to a call for the trades of an account. -/
inductive Event (Amount Raw : Type)
  | grow
  | offers
  | marketTrades
  | tradeAggregations
  | snapshot (address : String) (limit : ℤ) (refresh : Bool)
      (answer : Except String (AccountTradeSegmentSnapshot Amount Raw))

/-- The refresh of a call reached the head. -/
def reachesHead (refresh : Bool) : Except String (List (Trade Body) × Bool) → Bool
  | .ok (_, caughtUp) => refresh && caughtUp
  | .error _ => false

section Steps

variable (chain : String → TradeHistory Body) (networkName : String)
variable (decode : Trade Body → String → Except String (AccountTrade Amount Raw))

/-- The histories grow, also during a call, and the service is used. -/
inductive Step : State Body → Event Amount Raw → State Body → Prop
  | grow {s : State Body} {held : String → ℕ} (hgrows : ∀ address, s.held address ≤ held address)
      (hheld : ∀ address, held address ≤ (chain address).trades.length) :
      Step s .grow { s with held := held }
  | offers {s : State Body} {adapter : Adapter Body} {fuel : ℕ} {limit : ℤ} {address : String}
      {refresh : Bool} {answer : Except String (List (Offer Body))} {service : DexService Body}
      (hcall : getOffers adapter networkName s.service fuel address limit refresh =
        some (answer, service)) :
      Step s .offers { s with service := service }
  | marketTrades {s : State Body} (adapter : Adapter Body) (base counter : Asset) (limit : ℤ)
      (refresh : Bool) :
      Step s .marketTrades { s with
        service := (getTrades adapter networkName s.service base counter limit refresh).2 }
  | tradeAggregations {s : State Body} (adapter : Adapter Body) (base counter : Asset)
      (resolution : ℤ) (startTime endTime offset : Option ℤ) (limit : ℤ) (refresh : Bool) :
      Step s .tradeAggregations { s with
        service := (getTradeAggregations adapter networkName s.service base counter resolution
          startTime endTime offset limit refresh).2 }
  | snapshot {s : State Body} {adapter : Adapter Body} {served : ℕ → String → ℕ}
      {held : String → ℕ} {address : String} {limit : ℤ} {refresh : Bool}
      {answer : Except String (AccountTradeSegmentSnapshot Amount Raw)}
      {service : DexService Body} (hserves : Serves chain adapter served)
      (hfirst : ∀ account, s.held account ≤ served 0 account)
      (hlast : ∀ request account, served request account ≤ held account)
      (hheld : ∀ account, held account ≤ (chain account).trades.length)
      (hcall : getAccountTradeSegmentSnapshot adapter networkName s.service decode address limit
        refresh = (answer, service)) :
      Step s (.snapshot address limit refresh answer)
        ⟨service, held, fun account =>
          if account = address ∧ reachesHead refresh
              (accountTrades adapter networkName s.service address limit refresh).1 = true then
            s.held address
          else s.complete account⟩

end Steps

/-- The cached trades of an account are a slice of its history, and where the head is said to be
reached, they include all that Horizon held when that refresh began. -/
def State.Sliced (chain : String → TradeHistory Body) (networkName : String) (s : State Body)
    (address : String) (lo hi : ℕ) : Prop :=
  Cached (chain address) s.service.datastore (tradeScope networkName address) lo hi
      (s.held address) ∧
    (s.service.accountTradeCaughtUp.get? address = some true → s.complete address ≤ hi)

section Runs

variable {chain : String → TradeHistory Body} {networkName address : String} {s s' : State Body}
variable {decode : Trade Body → String → Except String (AccountTrade Amount Raw)}
variable {lo hi : ℕ} {limit : ℤ} {refresh : Bool} {held : String → ℕ}
variable {events : List (Event Amount Raw)} {event : Event Amount Raw}
variable {snapshot : AccountTradeSegmentSnapshot Amount Raw}

/-! The scope of an account is neither that of another one nor that of a market. -/

theorem tradeScope_ne {other : String} (h : other ≠ address) :
    tradeScope networkName other ≠ tradeScope networkName address := by
  intro heq
  have hkeys := congrArg String.toList (Prod.mk.inj heq).2
  rw [accountTradeCacheKey, accountTradeCacheKey, String.toList_append,
    String.toList_append] at hkeys
  exact h (String.toList_inj.mp (List.append_cancel_left hkeys))

theorem tradeScope_ne_pair {base counter : Asset} (h : '>' ∉ address.toList) :
    tradeScope networkName address ≠ (networkName, assetPairKey base counter) := by
  intro heq
  have hkeys := congrArg String.toList (Prod.mk.inj heq).2
  have hmem : '>' ∈ (assetPairKey base counter).toList := by
    rw [assetPairKey, String.toList_append, String.toList_append]
    exact List.mem_append_left _ (List.mem_append_right _ (by decide))
  rw [← hkeys, accountTradeCacheKey, String.toList_append, List.mem_append] at hmem
  rcases hmem with hprefix | haddress
  · exact absurd hprefix (by decide)
  · exact h haddress

/-- A refresh of an account keeps its cache a slice. -/
theorem refreshAccountTrades_sliced {adapter : Adapter Body} {served : ℕ → String → ℕ}
    (hserves : Serves chain adapter served) (hfirst : s.held address ≤ served 0 address)
    (hlast : ∀ request, served request address ≤ held address)
    (hheld : held address ≤ (chain address).trades.length)
    (h : s.Sliced chain networkName address lo hi) (limit : ℤ) :
    ∃ lo' hi', Refreshed (s.held address) lo hi
        (refreshAccountTrades adapter networkName s.service address limit).1 lo' hi' ∧
      Cached (chain address)
        (refreshAccountTrades adapter networkName s.service address limit).2.datastore
        (tradeScope networkName address) lo' hi' (held address) := by
  obtain ⟨lo', hi', hrefreshed, hcached⟩ :=
    syncAccountTrades_cached hserves h.1 hfirst hlast hheld limit
  refine ⟨lo', hi', ?_⟩
  rw [refreshAccountTrades]
  cases hsync : syncAccountTrades adapter networkName address limit s.service.datastore with
  | mk result store =>
    rw [hsync] at hrefreshed hcached
    cases result with
    | error error => exact ⟨hrefreshed, hcached⟩
    | ok caughtUp => exact ⟨hrefreshed, hcached⟩

/-- The refresh of another account writes another scope. -/
theorem syncAccountTrades_other {adapter : Adapter Body} {history : TradeHistory Body}
    {store : MemoryDataStore Body} {scope : Scope} {top : ℕ}
    (hne : scope ≠ tradeScope networkName address)
    (h : Cached history store scope lo hi top) (limit : ℤ) :
    Cached history (syncAccountTrades adapter networkName address limit store).2 scope
      lo hi top := by
  -- no page of another account is saved under this scope
  have hwalk (pages request : ℕ) (cursor : String) (store : MemoryDataStore Body)
      (h : Cached history store scope lo hi top) : Cached history
        (syncAccountTradeIncrement adapter networkName address pages request cursor store).2 scope
        lo hi top := by
    induction pages generalizing request cursor store with
    | zero => exact h
    | succ pages ih =>
      rw [syncAccountTradeIncrement]
      split
      · exact h
      · split
        · exact h
        · split
          · exact h.saveTrades_other hne
          · split_ifs
            · exact h.saveTrades_other hne
            · exact h.saveTrades_other hne
            · exact ih _ _ _ (h.saveTrades_other hne)
  simp only [syncAccountTrades]
  cases newestToken store (networkName, accountTradeCacheKey address) with
  | some cursor => exact hwalk _ _ _ _ h
  | none =>
    cases adapter.getAccountTrades 0 address
        (min (accountTradePageLimit : ℤ) (max limit 1)).toNat none true with
    | error error => exact h
    | ok response => exact h.saveTrades_other hne

theorem refreshAccountTrades_datastore (adapter : Adapter Body) (service : DexService Body)
    (limit : ℤ) : (refreshAccountTrades adapter networkName service address limit).2.datastore =
      (syncAccountTrades adapter networkName address limit service.datastore).2 := by
  rw [refreshAccountTrades]
  split <;> simp_all

/-- What is remembered of an account is what its last refresh answered that did not fail. -/
theorem refreshAccountTrades_caughtUp (networkName address : String) (adapter : Adapter Body)
    (service : DexService Body) (limit : ℤ) (account : String) :
    (refreshAccountTrades adapter networkName service address limit).2.accountTradeCaughtUp.get?
        account =
      (refreshAccountTrades adapter networkName service address limit).1.toOption.elim
        (service.accountTradeCaughtUp.get? account) fun caughtUp =>
          if account = address then some caughtUp
          else service.accountTradeCaughtUp.get? account := by
  rw [refreshAccountTrades]
  split
  · rfl
  · exact Dict.get?_set

theorem getOffers_service {adapter : Adapter Body} {service service' : DexService Body}
    {fuel : ℕ} {answer : Except String (List (Offer Body))}
    (h : getOffers adapter networkName service fuel address limit refresh =
      some (answer, service')) :
    service'.datastore.trades = service.datastore.trades ∧
      service'.accountTradeCaughtUp = service.accountTradeCaughtUp := by
  unfold getOffers syncOffersSnapshot at h
  split_ifs at h
  · simp only [Option.map_map, Option.map_eq_some_iff] at h
    obtain ⟨result, -, hresult⟩ := h
    cases result with
    | error error =>
      obtain ⟨-, rfl⟩ := Prod.mk.inj hresult
      exact ⟨rfl, rfl⟩
    | ok found =>
      obtain ⟨-, rfl⟩ := Prod.mk.inj hresult
      exact ⟨rfl, rfl⟩
  · obtain ⟨-, rfl⟩ := Prod.mk.inj (Option.some.inj h)
    exact ⟨rfl, rfl⟩

theorem Cached.congr {history : TradeHistory Body} {store store' : MemoryDataStore Body}
    {scope : Scope} {top : ℕ} (h : Cached history store scope lo hi top)
    (hsame : store'.trades = store.trades) : Cached history store' scope lo hi top where
  holds := hsame ▸ h.holds
  lo_le := h.lo_le
  hi_le := h.hi_le
  held_le := h.held_le

/-- What a call for the trades of an account does to its slice, and which trades it lists. -/
structure Listed (history : TradeHistory Body) (before : ℕ) (limit : ℤ) (refresh : Bool)
    (answer : Except String (List (Trade Body) × Bool)) (lo hi lo' hi' : ℕ) : Prop where
  kept : lo < hi → lo' = lo
  hi_le : hi ≤ hi'
  raw : ∀ raw caughtUp, answer = .ok (raw, caughtUp) →
    raw = sliceUpTo limit (slice history.trades lo' hi').reverse
  reached : reachesHead refresh answer = true → before ≤ hi'
  behind : ∀ raw, answer = .ok (raw, false) → refresh = true →
    lo < hi ∧ hi' = hi + accountTradeMaxIncrementalPages * accountTradePageLimit

/-- A call for the trades of an account keeps its cache a slice. -/
theorem accountTrades_sliced {adapter : Adapter Body} {served : ℕ → String → ℕ}
    {answer : Except String (List (Trade Body) × Bool)} {service : DexService Body}
    (hserves : Serves chain adapter served) (hfirst : s.held address ≤ served 0 address)
    (hlast : ∀ request, served request address ≤ held address)
    (hheld : held address ≤ (chain address).trades.length)
    (h : s.Sliced chain networkName address lo hi)
    (hcall : accountTrades adapter networkName s.service address limit refresh =
      (answer, service)) :
    ∃ lo' hi', Listed (chain address) (s.held address) limit refresh answer lo hi lo' hi' ∧
      Cached (chain address) service.datastore (tradeScope networkName address) lo' hi'
        (held address) ∧
      (service.accountTradeCaughtUp.get? address = some true →
        (if reachesHead refresh answer = true then s.held address else s.complete address) ≤
          hi') ∧
      ∀ raw, answer = .ok (raw, true) →
        service.accountTradeCaughtUp.get? address = some true := by
  cases refresh with
  | false =>
    -- the cache is only read
    obtain ⟨rfl, rfl⟩ := Prod.mk.inj hcall
    have hgrown : Cached (chain address) s.service.datastore (tradeScope networkName address) lo hi
        (held address) := h.1.grow (hfirst.trans (hlast 0)) hheld
    refine ⟨lo, hi, ⟨fun _ => rfl, le_rfl, fun raw caughtUp heq => ?_, ?_, ?_⟩, hgrown, h.2,
      fun raw heq => ?_⟩
    · obtain ⟨rfl, -⟩ := Prod.mk.inj (Except.ok.inj heq)
      exact h.1.getTrades_eq limit
    · intro hreached
      cases hreached
    · intro raw _ hrefresh
      cases hrefresh
    · have hflag := (Prod.mk.inj (Except.ok.inj heq)).2
      cases hget : s.service.accountTradeCaughtUp.get? address with
      | none =>
        rw [hget] at hflag
        cases hflag
      | some flag =>
        rw [hget] at hflag
        exact congrArg some hflag
  | true =>
    obtain ⟨lo', hi', hrefreshed, hcached⟩ :=
      refreshAccountTrades_sliced hserves hfirst hlast hheld h limit
    have hflag :=
      refreshAccountTrades_caughtUp networkName address adapter s.service limit address
    simp only [accountTrades, if_true] at hcall
    cases hrefresh : refreshAccountTrades adapter networkName s.service address limit with
    | mk result refreshed =>
      rw [hrefresh] at hrefreshed hcached hflag hcall
      obtain ⟨rfl, rfl⟩ := Prod.mk.inj hcall
      have hbefore : s.held address ≤ held address := hfirst.trans (hlast 0)
      cases result with
      | error error =>
        refine ⟨lo', hi', ⟨hrefreshed.kept, hrefreshed.hi_le, ?_, ?_, ?_⟩, hcached, ?_, ?_⟩
        · intro raw flag heq
          cases heq
        · intro hreached
          cases hreached
        · intro raw heq
          cases heq
        · intro hreached
          rw [hflag] at hreached
          exact (h.2 hreached).trans hrefreshed.hi_le
        · intro raw heq
          cases heq
      | ok caughtUp =>
        refine ⟨lo', hi', ⟨hrefreshed.kept, hrefreshed.hi_le, ?_, ?_, ?_⟩, hcached, ?_, ?_⟩
        · intro raw flag heq
          obtain ⟨rfl, -⟩ := Prod.mk.inj (Except.ok.inj heq)
          exact hcached.getTrades_eq limit
        · intro hreached
          have hcaught : caughtUp = true := hreached
          exact hrefreshed.reached (hcaught ▸ rfl)
        · intro raw heq _
          obtain ⟨-, rfl⟩ := Prod.mk.inj (Except.ok.inj heq)
          exact hrefreshed.full rfl
        · intro hreached
          have hcaught : caughtUp = true := by
            simpa [Except.toOption] using hflag.symm.trans hreached
          subst hcaught
          exact hrefreshed.reached rfl
        · intro raw heq
          obtain ⟨-, rfl⟩ := Prod.mk.inj (Except.ok.inj heq)
          exact hflag.trans (if_pos rfl)

/-- A call for another account leaves the cache of this one. -/
theorem accountTrades_other {adapter : Adapter Body} {other : String} {service : DexService Body}
    {answer : Except String (List (Trade Body) × Bool)} (hne : other ≠ address)
    (h : s.Sliced chain networkName address lo hi)
    (hcall : accountTrades adapter networkName s.service other limit refresh =
      (answer, service)) :
    Cached (chain address) service.datastore (tradeScope networkName address) lo hi
        (s.held address) ∧
      service.accountTradeCaughtUp.get? address =
        s.service.accountTradeCaughtUp.get? address := by
  cases refresh with
  | false =>
    obtain ⟨-, rfl⟩ := Prod.mk.inj hcall
    exact ⟨h.1, rfl⟩
  | true =>
    simp only [accountTrades, if_true] at hcall
    obtain ⟨-, rfl⟩ := Prod.mk.inj hcall
    refine ⟨?_, ?_⟩
    · rw [refreshAccountTrades_datastore]
      exact syncAccountTrades_other (tradeScope_ne hne.symm) h.1 limit
    · rw [refreshAccountTrades_caughtUp]
      simp only [if_neg hne.symm]
      cases (refreshAccountTrades adapter networkName s.service other limit).1 <;> rfl

/-- A snapshot leaves the service as its call for the trades does. -/
theorem getAccountTradeSegmentSnapshot_eq {adapter : Adapter Body}
    {service service' : DexService Body}
    {answer : Except String (AccountTradeSegmentSnapshot Amount Raw)}
    (h : getAccountTradeSegmentSnapshot adapter networkName service decode address limit refresh =
      (answer, service')) :
    (accountTrades adapter networkName service address limit refresh).2 = service' ∧
      ∀ snapshot, answer = .ok snapshot → ∃ raw trades,
        (accountTrades adapter networkName service address limit refresh).1 =
          .ok (raw, snapshot.caughtUp) ∧
        raw.mapM (decode · address) = .ok trades ∧
        snapshot.segments = TradeSegments.compressAccountTrades trades address := by
  obtain ⟨hanswer, hservice⟩ := Prod.mk.inj h
  refine ⟨hservice, ?_⟩
  rintro snapshot rfl
  obtain ⟨⟨raw, caughtUp⟩, hlisted, hdecoded⟩ := bind_eq_ok.mp hanswer
  obtain ⟨trades, htrades, hsnapshot⟩ := bind_eq_ok.mp hdecoded
  obtain rfl := Except.ok.inj hsnapshot
  exact ⟨raw, trades, hlisted, htrades, rfl⟩

/-- Every step keeps the cache of an account a slice of its history. -/
theorem step_sliced (haddress : '>' ∉ address.toList)
    (hstep : Step chain networkName decode s event s')
    (h : s.Sliced chain networkName address lo hi) :
    ∃ lo' hi', s'.Sliced chain networkName address lo' hi' := by
  cases hstep with
  | grow hgrows hheld => exact ⟨lo, hi, h.1.grow (hgrows address) (hheld address), h.2⟩
  | offers hcall =>
    obtain ⟨htrades, hflag⟩ := getOffers_service hcall
    refine ⟨lo, hi, h.1.congr htrades, fun hreached => h.2 ?_⟩
    rw [← hflag]
    exact hreached
  | marketTrades adapter base counter limit refresh =>
    refine ⟨lo, hi, ?_⟩
    simp only [getTrades]
    split_ifs
    · cases adapter.getTrades base counter limit with
      | error error => exact h
      | ok response => exact ⟨h.1.saveTrades_other (tradeScope_ne_pair haddress), h.2⟩
    · exact h
  | tradeAggregations adapter base counter resolution startTime endTime offset limit refresh =>
    refine ⟨lo, hi, ?_⟩
    simp only [getTradeAggregations]
    split_ifs
    · cases adapter.getTradeAggregations base counter resolution startTime endTime offset limit with
      | error error => exact h
      | ok response => exact ⟨h.1.congr rfl, h.2⟩
    · exact h
    · exact h
  | @snapshot adapter served held other limit refresh answer service hserves hfirst hlast hheld
      hcall =>
    obtain ⟨hservice, -⟩ := getAccountTradeSegmentSnapshot_eq hcall
    generalize hlisted : accountTrades adapter networkName s.service other limit refresh = listed
      at hservice ⊢
    obtain ⟨trades, service'⟩ := listed
    obtain rfl : service' = service := hservice
    -- a snapshot of another account is kept under another key
    by_cases hsame : other = address
    · subst hsame
      obtain ⟨lo', hi', -, hcached, hreached, -⟩ := accountTrades_sliced hserves (hfirst other)
        (fun request => hlast request other) (hheld other) h hlisted
      refine ⟨lo', hi', hcached, fun hflag => ?_⟩
      simpa using hreached hflag
    · obtain ⟨hcached, hflag⟩ := accountTrades_other hsame h hlisted
      refine ⟨lo, hi, hcached.grow ((hfirst address).trans (hlast 0 address)) (hheld address), ?_⟩
      intro hreached
      dsimp only
      rw [if_neg (fun hboth => hsame hboth.1.symm)]
      exact h.2 (hflag.symm.trans hreached)

/-- After every run, the cached trades of an account are a slice of its history. -/
theorem synced_run (haddress : '>' ∉ address.toList)
    (hheld : ∀ account, held account ≤ (chain account).trades.length)
    (hrun : Run (Step chain networkName decode) (.start held) events s) :
    ∃ lo hi, s.Sliced chain networkName address lo hi := by
  refine Run.invariant (I := fun t => ∃ lo hi, t.Sliced chain networkName address lo hi) hrun
    (fun _ _ => trivial) ⟨0, 0, .empty (hheld address), nofun⟩ ?_
  rintro t event u ⟨lo, hi, hsliced⟩ - hstep
  exact step_sliced haddress hstep hsliced

/-- What a snapshot of the trades of an account shows, and what its call does to the slice. -/
structure Reported (history : TradeHistory Body)
    (decode : Trade Body → String → Except String (AccountTrade Amount Raw)) (address : String)
    (before : ℕ) (limit : ℤ) (refresh : Bool) (snapshot : AccountTradeSegmentSnapshot Amount Raw)
    (lo hi lo' hi' : ℕ) : Prop where
  kept : lo < hi → lo' = lo
  hi_le : hi ≤ hi'
  segments : ∃ trades,
    (sliceUpTo limit (slice history.trades lo' hi').reverse).mapM (decode · address) =
      .ok trades ∧
    snapshot.segments = TradeSegments.compressAccountTrades trades address
  reached : refresh = true → snapshot.caughtUp = true → before ≤ hi'
  behind : refresh = true → snapshot.caughtUp = false →
    lo < hi ∧ hi' = hi + accountTradeMaxIncrementalPages * accountTradePageLimit

/-- A snapshot shows the newest trades of a slice of the history, which is never cut from
below again. Where it says that the head is reached, the slice has all that Horizon held when the
last refresh that reached it began; where a refresh says that it is not, it added five full
pages. -/
theorem accountTrades_reported (haddress : '>' ∉ address.toList)
    (hheld : ∀ account, held account ≤ (chain account).trades.length)
    (hrun : Run (Step chain networkName decode) (.start held) events s)
    (hstep : Step chain networkName decode s (.snapshot address limit refresh (.ok snapshot)) s') :
    ∃ lo hi lo' hi', s.Sliced chain networkName address lo hi ∧
      s'.Sliced chain networkName address lo' hi' ∧
      Reported (chain address) decode address (s.held address) limit refresh snapshot
        lo hi lo' hi' ∧
      (snapshot.caughtUp = true → s'.complete address ≤ hi') := by
  obtain ⟨lo, hi, hsliced⟩ := synced_run haddress hheld hrun
  cases hstep with
  | @snapshot adapter served held _ _ _ _ service hserves hfirst hlast hheld' hcall =>
    obtain ⟨hservice, hanswer⟩ := getAccountTradeSegmentSnapshot_eq hcall
    obtain ⟨raw, trades, hraw, htrades, hsegments⟩ := hanswer snapshot rfl
    -- the answer of the snapshot is that of the trades that it lists
    have hlisted : accountTrades adapter networkName s.service address limit refresh =
        (.ok (raw, snapshot.caughtUp), service) := Prod.ext hraw hservice
    obtain ⟨lo', hi', hreported, hcached, hflag, hremembered⟩ := accountTrades_sliced hserves
      (hfirst address) (fun request => hlast request address) (hheld' address) hsliced hlisted
    refine ⟨lo, hi, lo', hi', hsliced, ⟨hcached, fun hreached => ?_⟩,
      ⟨hreported.kept, hreported.hi_le, ⟨trades, ?_, hsegments⟩, ?_, ?_⟩, ?_⟩
    · simpa [hlisted] using hflag hreached
    · rw [← hreported.raw raw _ rfl]
      exact htrades
    · intro hrefresh hcaught
      apply hreported.reached
      rw [reachesHead, hrefresh, hcaught]
      rfl
    · intro hrefresh hcaught
      rw [hcaught] at hreported
      exact hreported.behind raw rfl hrefresh
    · intro hcaught
      rw [hcaught] at hremembered
      simpa [hlisted] using hflag (hremembered raw rfl)

end Runs

/-! ### A history that grows while it is read -/

theorem tradePagingKey_toDigits {n : ℕ} (hn : n ≤ 9223372036854775807) :
    tradePagingKey (String.ofList (Nat.toDigits 10 n)) =
      toLex ((n : ℤ), toLex ((0 : ℤ), String.ofList (Nat.toDigits 10 n))) := by
  have hspelled : Spelled (Nat.toDigits 10 n) :=
    ⟨Nat.toDigits_ne_nil, Decimal.all_isDigit_toDigits, by rw [Decimal.value_toDigits]; exact hn⟩
  have hhyphen : '-' ∉ Nat.toDigits 10 n := fun hmem => absurd (hspelled.isDigit hmem) (by decide)
  have hwhole : (Nat.toDigits 10 n).takeWhile (· ≠ '-') = Nat.toDigits 10 n := by
    rw [List.takeWhile_eq_self_iff]
    intro c hc
    rw [decide_eq_true_iff]
    rintro rfl
    exact hhyphen hc
  have hcontains : (Nat.toDigits 10 n).contains '-' = false := by
    rw [← Bool.not_eq_true, List.contains_iff_mem]
    exact hhyphen
  rw [tradePagingKey, String.toList_ofList, partition, hwhole, hcontains]
  dsimp only
  rw [hspelled.int?_eq, Decimal.value_toDigits]
  rfl

def numberedTrade (n : ℕ) : Trade Unit :=
  ⟨some (String.ofList (Nat.toDigits 10 n)), none, some "2024-01-01T00:00:00Z", ()⟩

theorem tradeToken_numberedTrade (n : ℕ) : MemoryDataStore.tradeToken (numberedTrade n) =
    some (String.ofList (Nat.toDigits 10 n)) := by
  apply Option.filter_eq_some_iff.mpr ⟨rfl, _⟩
  rw [decide_eq_true_iff, ne_eq, String.ofList_eq_empty_iff]
  exact Nat.toDigits_ne_nil

theorem pagingKey_numberedTrade_lt {a b : ℕ} (hlt : a < b) (hb : b ≤ 9223372036854775807) :
    pagingKey (numberedTrade a) < pagingKey (numberedTrade b) := by
  rw [pagingKey, pagingKey, Prod.Lex.lt_iff]
  left
  exact (tradePagingKey_toDigits (hlt.le.trans hb)).symm ▸
    (tradePagingKey_toDigits hb).symm ▸ Int.ofNat_lt.mpr hlt

theorem ascending_numberedTrades {start count : ℕ} (hle : start + count ≤ 9223372036854775807) :
    Ascending pagingKey ((List.range' start count).map numberedTrade) := by
  have hsorted : (List.range' start count).Pairwise (· < ·) := List.pairwise_lt_range'
  refine List.pairwise_map.mpr (hsorted.imp_of_mem ?_)
  intro a b _ hb hlt
  rw [List.mem_range'_1] at hb
  exact pagingKey_numberedTrade_lt hlt (by omega)

theorem token_numberedTrades {numbers : List ℕ} {item : Trade Unit}
    (hitem : item ∈ numbers.map numberedTrade) : (MemoryDataStore.tradeToken item).isSome := by
  obtain ⟨n, -, rfl⟩ := List.mem_map.mp hitem
  rw [tradeToken_numberedTrade]
  rfl

theorem times_numberedTrades (numbers : List ℕ) :
    (numbers.map numberedTrade).Pairwise fun a b =>
      a.ledgerCloseTime.getD "" ≤ b.ledgerCloseTime.getD "" :=
  List.pairwise_map.mpr (List.pairwise_of_forall fun _ _ => le_rfl)

/-- More trades than two pages have. -/
def longHistory : TradeHistory Unit where
  trades := (List.range' 1 451).map numberedTrade
  token _ hitem := token_numberedTrades hitem
  ascending := ascending_numberedTrades (Nat.le_of_ble_eq_true rfl)
  times := times_numberedTrades _

/-- Horizon holds so many trades at each request, and may fail to answer. -/
def servingAdapter (heldAt : ℕ → ℕ) (fails : ℕ → Bool) : Adapter Unit where
  getOffers _ _ _ _ _ := .ok (.list [])
  getAccountTrades request _ limit cursor desc :=
    if fails request then .error "timeout"
    else .ok (.list (pageOf pagingKey (longHistory.trades.take (heldAt request)) limit
      (cursor.map tradePagingKey) desc))
  getTrades _ _ _ := .ok (.list [])
  getTradeAggregations _ _ _ _ _ _ _ := .ok (.list [])

theorem longHistory_length : longHistory.trades.length = 451 := by
  rw [longHistory, List.length_map, List.length_range']

theorem servingAdapter_serves {heldAt : ℕ → ℕ} (fails : ℕ → Bool) (hgrows : Monotone heldAt)
    (hle : ∀ request, heldAt request ≤ 451) :
    Serves (fun _ => longHistory) (servingAdapter heldAt fails)
      fun request _ => heldAt request where
  grows request _ := hgrows (Nat.le_succ request)
  held_le request _ := by
    rw [longHistory_length]
    exact hle request
  trades request address limit cursor desc response hresponse := by
    simp only [servingAdapter] at hresponse
    split_ifs at hresponse
    exact (Except.ok.inj hresponse) ▸ rfl

/-- Every record is decoded. -/
def decodeAll (_item : Trade Unit) (_address : String) : Except String (AccountTrade ℕ Unit) :=
  .ok
    { tradeId := ""
      pair := ⟨.xlm, .xlm⟩
      baseAmount := 1
      counterAmount := 1
      priceR := ⟨1, 1, Nat.one_pos, Nat.one_pos⟩
      side := .sell
      time := none
      pagingToken := none
      baseAccount := none
      counterAccount := none
      baseOfferId := none
      counterOfferId := none
      transactionHash := none
      raw := () }

theorem mapM_decodeAll (raw : List (Trade Unit)) (address : String) :
    ∃ trades, raw.mapM (decodeAll · address) = .ok trades := by
  induction raw with
  | nil => exact ⟨[], rfl⟩
  | cons item raw ih =>
    obtain ⟨trades, htrades⟩ := ih
    rw [List.mapM_cons, htrades]
    exact ⟨_, rfl⟩

/-- Horizon with one trade, which is read. -/
theorem accountTrades_first :
    ∃ raw store, accountTrades (servingAdapter (fun _ => 1) fun _ => false) "testnet"
        (new : DexService Unit) "G" 10 true =
          (.ok (raw, true), ⟨store, (new : DexService Unit).accountTradeCaughtUp.set "G" true⟩) ∧
      Cached longHistory store (tradeScope "testnet" "G") 0 1 1 := by
  have hempty : Cached longHistory (new : DexService Unit).datastore (tradeScope "testnet" "G")
      0 0 1 := .empty (by rw [longHistory_length]; decide)
  have hstart : newestToken (new : DexService Unit).datastore
      (tradeScope "testnet" "G") = none := by
    rw [newestToken, hempty.newest, if_neg (lt_irrefl _)]
    rfl
  have hpage : pageOf pagingKey (longHistory.trades.take 1) 10 none true =
      (slice longHistory.trades (1 - 10) 1).reverse :=
    pageOf_head (by rw [longHistory_length]; decide)
  have hcached : Cached longHistory ((new : DexService Unit).datastore.saveTrades
      (tradeScope "testnet" "G")
      (.list (pageOf pagingKey (longHistory.trades.take 1) 10 none true)))
      (tradeScope "testnet" "G") (1 - 10) 1 1 := hempty.saveTrades_head le_rfl hpage
  rw [tradeScope] at hstart
  simp only [accountTrades, refreshAccountTrades, syncAccountTrades, hstart, if_true]
  exact ⟨_, _, rfl, hcached⟩

/-- Where every request is answered, so is the call. -/
theorem syncAccountTradeIncrement_ok {adapter : Adapter Unit} {networkName address : String}
    (hanswers : ∀ request limit cursor desc, ∃ response,
      adapter.getAccountTrades request address limit cursor desc = .ok response)
    (pages request : ℕ) (cursor : String) (store : MemoryDataStore Unit) :
    ∃ caughtUp, (syncAccountTradeIncrement adapter networkName address pages request cursor
      store).1 = .ok caughtUp := by
  induction pages generalizing request cursor store with
  | zero => exact ⟨false, rfl⟩
  | succ pages ih =>
    obtain ⟨response, hresponse⟩ := hanswers request accountTradePageLimit (some cursor) false
    rw [syncAccountTradeIncrement, hresponse]
    dsimp only
    split
    · exact ⟨true, rfl⟩
    · split
      · exact ⟨false, rfl⟩
      · split_ifs
        · exact ⟨false, rfl⟩
        · exact ⟨true, rfl⟩
        · exact ih _ _ _

theorem accountTrades_ok {adapter : Adapter Unit} {networkName address : String}
    (hanswers : ∀ request limit cursor desc, ∃ response,
      adapter.getAccountTrades request address limit cursor desc = .ok response)
    (service : DexService Unit) (limit : ℤ) :
    ∃ raw caughtUp, (accountTrades adapter networkName service address limit true).1 =
      .ok (raw, caughtUp) := by
  have hsync : ∃ caughtUp, (syncAccountTrades adapter networkName address limit
      service.datastore).1 = .ok caughtUp := by
    rw [syncAccountTrades]
    dsimp only
    split
    · exact syncAccountTradeIncrement_ok hanswers _ _ _ _
    · obtain ⟨response, hresponse⟩ := hanswers 0 (min (accountTradePageLimit : ℤ)
        (max limit 1)).toNat none true
      rw [hresponse]
      exact ⟨true, rfl⟩
  obtain ⟨caughtUp, hsync⟩ := hsync
  cases hresult : syncAccountTrades adapter networkName address limit service.datastore with
  | mk result store =>
    rw [hresult] at hsync
    obtain rfl : result = .ok caughtUp := hsync
    simp only [accountTrades, refreshAccountTrades, hresult, if_true]
    exact ⟨_, _, rfl⟩

/-- The second page of a refresh is not answered. -/
theorem accountTrades_interrupted {service : DexService Unit}
    (h : Cached longHistory service.datastore (tradeScope "testnet" "G") 0 1 450) :
    (accountTrades (servingAdapter (fun _ => 450) (· == 1)) "testnet" service "G" 10 true).1 =
      .error "timeout" := by
  have hserves : Serves (fun _ => longHistory) (servingAdapter (fun _ => 450) (· == 1))
      fun _ _ => 450 := servingAdapter_serves _ monotone_const fun _ => by decide
  have hstart : newestToken service.datastore (tradeScope "testnet" "G") = some "1" := by
    rw [newestToken, h.newest, if_pos Nat.zero_lt_one]
    rfl
  -- the page at the cursor is full, and the one after it is not answered
  have hturn : Turn (fun _ => longHistory) (servingAdapter (fun _ => 450) (· == 1))
      (fun _ _ => 450) "testnet" "G" 0 "1" service.datastore 0 1 4 :=
    syncAccountTradeIncrement_succ 4 hserves h Nat.zero_lt_one rfl
  have hfails : ∃ store, syncAccountTradeIncrement (servingAdapter (fun _ => 450) (· == 1))
      "testnet" "G" 5 0 "1" service.datastore = (.error "timeout", store) := by
    cases hturn with
    | failed error hfails _ => cases hfails
    | reached store' hall _ _ => exact absurd hall (by decide)
    | full store' next _ _ _ hgo => exact ⟨store', hgo⟩
  rw [tradeScope] at hstart
  obtain ⟨store, hfails⟩ := hfails
  simp only [accountTrades, refreshAccountTrades, syncAccountTrades, hstart,
    accountTradeMaxIncrementalPages, hfails, if_true]
  rfl

/-- Decoding fails no snapshot. -/
theorem snapshot_of_ok {adapter : Adapter Unit} {service service' : DexService Unit}
    {raw : List (Trade Unit)} {caughtUp : Bool}
    (h : accountTrades adapter "testnet" service "G" 10 true = (.ok (raw, caughtUp), service')) :
    ∃ snapshot, getAccountTradeSegmentSnapshot adapter "testnet" service decodeAll "G" 10 true =
      (.ok snapshot, service') := by
  obtain ⟨trades, htrades⟩ := mapM_decodeAll raw "G"
  refine ⟨⟨TradeSegments.compressAccountTrades trades "G", caughtUp⟩, ?_⟩
  rw [getAccountTradeSegmentSnapshot, h]
  dsimp only
  rw [ok_bind, htrades]
  rfl

theorem snapshot_of_error {adapter : Adapter Unit} {service : DexService Unit} {error : String}
    (h : (accountTrades adapter "testnet" service "G" 10 true).1 = .error error) :
    ∃ service', getAccountTradeSegmentSnapshot adapter "testnet" service decodeAll "G" 10 true =
      (.error error, service') := by
  rw [getAccountTradeSegmentSnapshot]
  generalize accountTrades adapter "testnet" service "G" 10 true = listed at h
  obtain ⟨answer, service'⟩ := listed
  obtain rfl : answer = .error error := h
  exact ⟨service', rfl⟩

abbrev TradeStep := Step (fun _ : String => longHistory) "testnet" decodeAll

theorem exists_tradeStep {s : State Unit} {heldAt : ℕ → ℕ} {fails : ℕ → Bool} (top : ℕ)
    {answer : Except String (AccountTradeSegmentSnapshot ℕ Unit)} {service : DexService Unit}
    (hgrows : Monotone heldAt) (hstart : ∀ account, s.held account ≤ heldAt 0)
    (hle : ∀ request, heldAt request ≤ top) (htop : top ≤ 451)
    (hcall : getAccountTradeSegmentSnapshot (servingAdapter heldAt fails) "testnet" s.service
      decodeAll "G" 10 true = (answer, service)) :
    ∃ s' : State Unit, s'.service = service ∧ (∀ account, s'.held account = top) ∧
      TradeStep s (.snapshot "G" 10 true answer) s' := by
  have hserves := servingAdapter_serves fails hgrows fun request => (hle request).trans htop
  have hheld (account : String) : top ≤ longHistory.trades.length := by
    rw [longHistory_length]
    exact htop
  exact ⟨_, rfl, fun _ => rfl, .snapshot hserves hstart (fun request _ => hle request) hheld hcall⟩

/-- A first trade is read, the history grows, and the second page of a refresh is not answered.
The next refresh reads two pages more, while another trade is made, and reaches the head. -/
theorem accountTrades_reported_grown :
    ∃ first snapshot s s', Run TradeStep (.start fun _ => 1) [.snapshot "G" 10 true (.ok first),
        .grow, .snapshot "G" 10 true (.error "timeout")] s ∧
      TradeStep s (.snapshot "G" 10 true (.ok snapshot)) s' ∧ snapshot.caughtUp = true ∧
      ∃ lo hi lo' hi', Reported longHistory decodeAll "G" 450 10 true snapshot lo hi lo' hi' ∧
        450 ≤ hi' := by
  have hheld (n : ℕ) (hn : n ≤ 451) (_account : String) : n ≤ longHistory.trades.length := by
    rw [longHistory_length]
    exact hn
  obtain ⟨raw, store, hfirst, hcached⟩ := accountTrades_first
  obtain ⟨first, hfirst⟩ := snapshot_of_ok hfirst
  obtain ⟨s₁, hservice, hheld₁, hstep₁⟩ := exists_tradeStep (s := .start fun _ => 1) 1
    monotone_const (fun _ => le_rfl) (fun _ => le_rfl) (by decide) hfirst
  have hgrow : TradeStep s₁ .grow { s₁ with held := fun _ => 450 } :=
    .grow (fun account => by rw [hheld₁]; decide) (hheld 450 (by decide))
  have hkept : Cached longHistory s₁.service.datastore (tradeScope "testnet" "G") 0 1 450 := by
    rw [hservice]
    exact hcached.grow (by decide) (hheld 450 (by decide) "G")
  obtain ⟨service, hfailed⟩ := snapshot_of_error (accountTrades_interrupted hkept)
  obtain ⟨s₂, -, hheld₂, hstep₂⟩ := exists_tradeStep (s := { s₁ with held := fun _ => 450 }) 450
    monotone_const (fun _ => le_rfl) (fun _ => le_rfl) (by decide) hfailed
  have hrun : Run TradeStep (.start fun _ => 1) [.snapshot "G" 10 true (.ok first), .grow,
      .snapshot "G" 10 true (.error "timeout")] s₂ := .cons hstep₁ (.cons hgrow (.single hstep₂))
  -- the last call, which is answered throughout
  let heldAt (request : ℕ) : ℕ := min (450 + request) 451
  have hgrows : Monotone heldAt := fun _ _ h =>
    min_le_min_right 451 (Nat.add_le_add_left h 450)
  have hle (request : ℕ) : heldAt request ≤ 451 := min_le_right _ _
  have hanswered : ∃ raw caughtUp, (accountTrades (servingAdapter heldAt fun _ => false) "testnet"
      s₂.service "G" 10 true).1 = .ok (raw, caughtUp) :=
    accountTrades_ok (fun _ _ _ _ => ⟨_, rfl⟩) s₂.service 10
  obtain ⟨raw', caughtUp, hlisted⟩ := hanswered
  obtain ⟨snapshot, hcall⟩ := snapshot_of_ok (Prod.ext hlisted rfl)
  obtain ⟨s₃, -, hheld₃, hstep₃⟩ := exists_tradeStep (s := s₂) 451 hgrows
    (fun account => (hheld₂ account).le) hle le_rfl hcall
  obtain ⟨lo, hi, lo', hi', -, hsliced, hreported, -⟩ :=
    accountTrades_reported (by decide) (hheld 1 (by decide)) hrun hstep₃
  rw [hheld₂] at hreported
  have hcaught : snapshot.caughtUp = true := by
    by_contra hnot
    obtain ⟨-, hfull⟩ := hreported.behind rfl (Bool.eq_false_of_not_eq_true hnot)
    have htop := hsliced.1.hi_le
    rw [hheld₃, hfull] at htop
    have hpages : accountTradeMaxIncrementalPages * accountTradePageLimit = 1000 := rfl
    omega
  exact ⟨first, snapshot, s₂, s₃, hrun, hstep₃, hcaught, lo, hi, lo', hi', hreported,
    hreported.reached rfl hcaught⟩

end Fresnica.Python.Dex
