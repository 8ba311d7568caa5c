import Fresnica.Foundation.Run
import Fresnica.Python.HistoryWalks

/-!
# The cached history over runs of calls

Every call keeps the cache a slice of what the server holds, also a call that fails
between two pages, so the cache never has a hole. A refresh that returns in the full mode
leaves the slice from the oldest operation on.

In the default mode the cache should be the newest operations of what it has come to. A
refresh of an empty cache that fails after some pages breaks this, as later refreshes
only go up.

## Main definitions

* `NoHole` — the cached operations are all those between two of them
* `Session.Covers` — a refresh does not leave an empty cache partly filled
* `CachesNewest` — the cached operations are the newest ones up to some index

## Main results

* `exists_caches_run` — the cache is a slice after every run
* `syncRecent_refreshed` — a refresh in the two modes
* `history_noHole`, `syncRecent_newest` — what is cached after a run
-/

namespace Fresnica.Python

open Foundation

variable {Body : Type} {history : ServerHistory Body} {historyCacheLimit : ℕ+} {s : Session Body}
  {lo hi limit : ℕ} {upcoming : List ℕ}

/-- The cached operations, from the newest on. -/
def Session.cached (s : Session Body) : List (Operation Body) := getOperations s.bucket none

/-- A session of an account that has not been synchronized. -/
def Session.start (history : ServerHistory Body) (held : ℕ) (keepFullHistory : Bool) :
    Session Body :=
  ⟨min held history.operations.length, keepFullHistory, .empty⟩

/-- The cached operations are those of the server from the smallest to the largest cached
token, each one once. -/
structure NoHole (history : ServerHistory Body) (s : Session Body) : Prop where
  nodup : (s.cached.map Operation.sortKey).Nodup
  mem_iff : ∀ item, item ∈ s.cached ↔ item ∈ s.server history ∧
    (∃ oldest ∈ s.cached, oldest.sortKey ≤ item.sortKey) ∧
    ∃ newest ∈ s.cached, item.sortKey ≤ newest.sortKey

theorem caches_start (history : ServerHistory Body) (held : ℕ) (keepFullHistory : Bool) :
    Caches history (.start history held keepFullHistory) 0 0 where
  holds := by
    rw [slice_eq_nil _ le_rfl]
    exact holds_empty
  lo_le := le_rfl
  hi_le := Nat.zero_le _
  held_le := min_le_right _ _

namespace Caches

theorem mem_cached (h : Caches history s lo hi) {item : Operation Body} :
    item ∈ s.cached ↔ item ∈ slice history.operations lo hi := by
  rw [Session.cached, h.getOperations_none, List.mem_reverse]

theorem cached_eq_nil_iff (h : Caches history s lo hi) : s.cached = [] ↔ lo = hi := by
  rw [Session.cached, h.getOperations_none, List.reverse_eq_nil_iff, ← List.length_eq_zero_iff,
    h.length_slice]
  have hle := h.lo_le
  omega

/-- A slice has no hole. -/
theorem noHole (h : Caches history s lo hi) : NoHole history s where
  nodup := by
    rw [Session.cached, h.getOperations_none, List.map_reverse, List.nodup_reverse]
    exact history.ascending.slice.nodup_map
  mem_iff := by
    intro item
    constructor
    · intro hmem
      refine ⟨?_, ⟨item, hmem, le_rfl⟩, ⟨item, hmem, le_rfl⟩⟩
      obtain ⟨i, -, hlt, hget⟩ := mem_slice_iff.mp (h.mem_cached.mp hmem)
      exact List.mem_of_getElem? (server_getElem? (hlt.trans_le h.hi_le) hget)
    · rintro ⟨hserver, ⟨oldest, holdest, hle⟩, ⟨newest, hnewest, hge⟩⟩
      exact h.mem_cached.mpr (history.ascending.mem_slice_of_between
        (List.mem_of_mem_take hserver) (h.mem_cached.mp holdest) (h.mem_cached.mp hnewest) hle hge)

end Caches

/-- A server of one operation, for examples. -/
def oneOperation : ServerHistory Unit where
  operations := [⟨some 1, none, ()⟩]
  token := by decide
  ascending := .cons nofun .nil

/-- A server of two operations, for examples. -/
def twoOperations : ServerHistory Unit where
  operations := [⟨some 1, none, ()⟩, ⟨some 2, none, ()⟩]
  token := by decide
  ascending := .cons (by decide) (.cons nofun .nil)

/-! ### A refresh -/

/-- An empty cache is not left partly filled: no request is answered, or enough of them
for the newest operations. -/
def Session.Covers (history : ServerHistory Body) (historyCacheLimit : ℕ+) (s : Session Body)
    (limit : ℕ) : List ℕ → Prop
  | [] => 0 < limit
  | growth :: upcoming => 0 < limit ∧ (s.cached = [] →
      min (historyCacheLimit : ℕ) (s.grow history growth).held ≤ (upcoming.length + 1) * limit)

theorem Session.Covers.limit_pos (h : s.Covers history historyCacheLimit limit upcoming) :
    0 < limit := by
  cases upcoming with
  | nil => exact h
  | cons growth upcoming => exact h.1

/-- What a refresh does to the slice. In the full mode it comes to the oldest operation
and to the head; in the default mode the slice stays the newest one. -/
structure Refreshed (history : ServerHistory Body) (historyCacheLimit : ℕ+) (limit : ℕ)
    (upcoming : List ℕ) (s : Session Body) (lo hi : ℕ) (reply : Reply Body) (lo' hi' : ℕ) :
    Prop where
  caches : Caches history reply.session lo' hi'
  keepFullHistory : reply.session.keepFullHistory = s.keepFullHistory
  full : s.keepFullHistory = true → reply.fetched.isSome → 0 < limit →
    lo' = 0 ∧ s.held ≤ hi'
  recent : s.keepFullHistory = false → lo = hi - historyCacheLimit →
    s.Covers history historyCacheLimit limit upcoming →
    lo' = hi' - historyCacheLimit ∧ (reply.fetched.isSome → s.held ≤ hi')

/-- The refresh of an empty cache. -/
theorem bootstrapFromHead_refreshed (historyCacheLimit : ℕ+) (limit : ℕ) (upcoming : List ℕ)
    (h : Caches history s lo lo) :
    ∃ lo' hi', Refreshed history historyCacheLimit limit upcoming s lo lo
      (bootstrapFromHead history historyCacheLimit limit upcoming s) lo' hi' := by
  -- without an answered request nothing is cached
  cases upcoming with
  | nil =>
    refine ⟨0, 0, ?_⟩
    rw [bootstrapFromHead_nil]
    exact ⟨h.empty_at (Nat.zero_le _), rfl, nofun, fun _ _ _ => ⟨(Nat.zero_sub _).symm, nofun⟩⟩
  | cons growth upcoming =>
    obtain ⟨lo', hwent⟩ := bootstrapFromHead_cons historyCacheLimit limit growth upcoming h
    refine ⟨lo', (s.grow history growth).held, hwent.caches, hwent.keepFullHistory, ?_, ?_⟩
    · intro hfull hreturned hlimit
      refine ⟨?_, h.held_le_grow growth⟩
      have hlo := hwent.returned hreturned hlimit
      rw [hfull] at hlo
      exact hlo
    · intro hrecent _ hcovers
      have hempty : s.cached = [] := h.cached_eq_nil_iff.mpr rfl
      have hpages := hcovers.2 hempty
      have hlimit := hcovers.1
      cases hfetched : (bootstrapFromHead history historyCacheLimit limit (growth :: upcoming)
          s).fetched with
      | none =>
        obtain ⟨hfailed, hroom⟩ := hwent.failed hfetched (by rw [hrecent]; rfl)
        rw [List.length_cons] at hfailed
        refine ⟨?_, nofun⟩
        omega
      | some fetched =>
        have hlo := hwent.returned (by rw [hfetched]; rfl) hlimit
        rw [hrecent] at hlo
        exact ⟨hlo, fun _ => h.held_le_grow growth⟩

/-- The walk down from the oldest cached operation. -/
theorem backfillOlder_down (historyCacheLimit : ℕ+) (limit : ℕ) (upcoming : List ℕ)
    (h : Caches history s lo hi) (hlt : lo < hi) :
    ∃ lo', WentDown history historyCacheLimit false limit upcoming s lo hi
      (backfillOlder history historyCacheLimit limit upcoming s) lo' := by
  obtain ⟨oldest, holdest⟩ := h.exists_item (hlt.trans_le h.hi_le)
  have hcached := h.oldest
  rw [if_pos hlt, holdest] at hcached
  rw [backfillOlder, hcached]
  have hcount : false = true → 0 = hi - lo ∧ 0 < (historyCacheLimit : ℕ) := by
    intro hfalse
    exact absurd hfalse Bool.false_ne_true
  exact walkPages_down (fun _ _ => rfl) h holdest hlt hcount

theorem walkRecent_refreshed (historyCacheLimit : ℕ+) (limit : ℕ) (upcoming : List ℕ)
    (h : Caches history s lo hi) :
    ∃ lo' hi', Refreshed history historyCacheLimit limit upcoming s lo hi
      (walkRecent history historyCacheLimit limit upcoming s) lo' hi' := by
  have hnewest := h.newest
  rcases h.lo_le.lt_or_eq with hlt | rfl
  -- a cache with an operation in it goes up from the newest one
  · obtain ⟨newest, hitem⟩ := h.exists_item (i := hi - 1) (by have := h.hi_le; omega)
    rw [if_pos hlt, hitem] at hnewest
    obtain ⟨lo₁, hi₁, hup⟩ := walkPages_up historyCacheLimit limit (!s.keepFullHistory) upcoming
      0 h hlt hitem
    rw [walkRecent, hnewest]
    simp only
    unfold syncNewer
    obtain ⟨newer, hnewer⟩ : ∃ newer, newer = walkPages history historyCacheLimit
      (fun cursor _ => cursor.isSome) (!s.keepFullHistory) false limit upcoming s newest.token 0 :=
      ⟨_, rfl⟩
    rw [← hnewer] at hup ⊢
    have hrecent : s.keepFullHistory = false → lo = hi - historyCacheLimit →
        lo₁ = hi₁ - historyCacheLimit := by
      intro hmode hlo
      have hhi := hup.hi_le
      rcases hup.trimmed (by rw [hmode]; rfl) with ⟨rfl, rfl⟩ | htrimmed
      · exact hlo
      · omega
    cases hfetched : newer.fetched with
    | none =>
      refine ⟨lo₁, hi₁, hup.caches, hup.keepFullHistory, ?_, ?_⟩
      · intro _ hreturned
        rw [hfetched] at hreturned
        exact absurd hreturned nofun
      · intro hmode hlo _
        refine ⟨hrecent hmode hlo, ?_⟩
        rw [hfetched]
        exact nofun
    | some fetched =>
      have hreturned : newer.fetched.isSome := by rw [hfetched]; rfl
      simp only
      rw [hup.keepFullHistory]
      cases hmode : s.keepFullHistory with
      | false =>
        refine ⟨lo₁, hi₁, hup.caches, hup.keepFullHistory, ?_, ?_⟩
        · intro hfull
          rw [hmode] at hfull
          exact absurd hfull Bool.false_ne_true
        · intro _ hlo hcovers
          refine ⟨hrecent hmode hlo, fun _ => ?_⟩
          rw [hup.returned hreturned hcovers.limit_pos]
          exact hup.held_le
      -- only the full history is filled up at its lower end as well
      | true =>
        obtain ⟨lo₂, hdown⟩ := backfillOlder_down historyCacheLimit limit newer.upcoming
          hup.caches hup.lt
        refine ⟨lo₂, hi₁, hdown.caches, hdown.keepFullHistory.trans hup.keepFullHistory, ?_, ?_⟩
        · intro _ holder hlimit
          have hlo := hdown.returned (Option.isSome_map ▸ holder) hlimit
          refine ⟨hlo, ?_⟩
          rw [hup.returned hreturned hlimit]
          exact hup.held_le
        · intro hfalse
          rw [hmode] at hfalse
          exact absurd hfalse.symm Bool.false_ne_true
  -- an empty one starts from the head
  · rw [if_neg (lt_irrefl _)] at hnewest
    rw [walkRecent, hnewest]
    exact bootstrapFromHead_refreshed historyCacheLimit limit upcoming h

/-- The trimming at the end of a refresh leaves the newest slice as it is. -/
theorem syncRecent_refreshed (historyCacheLimit : ℕ+) (limit : ℕ) (upcoming : List ℕ)
    (h : Caches history s lo hi) :
    ∃ lo' hi', Refreshed history historyCacheLimit limit upcoming s lo hi
      (syncRecent history historyCacheLimit limit upcoming s) lo' hi' := by
  obtain ⟨lo', hi', hwalk⟩ := walkRecent_refreshed historyCacheLimit limit upcoming h
  unfold syncRecent
  simp only
  split_ifs with htrims
  · refine ⟨_, hi', hwalk.caches.trim historyCacheLimit, hwalk.keepFullHistory, ?_, ?_⟩
    · intro hfull
      rw [hwalk.keepFullHistory, hfull] at htrims
      exact absurd rfl htrims.2
    · intro hmode hlo hcovers
      obtain ⟨hlo', hreturned⟩ := hwalk.recent hmode hlo hcovers
      refine ⟨?_, hreturned⟩
      rw [hlo', max_self]
  · exact ⟨lo', hi', hwalk⟩

/-- One page down keeps the cache a slice. -/
theorem exists_caches_loadOlder (h : Caches history s lo hi) :
    ∃ lo' hi', Caches history (loadOlder history historyCacheLimit limit upcoming s).session
      lo' hi' := by
  unfold loadOlder
  split_ifs
  -- the walk goes down from the oldest cached operation, or starts where there is none
  · have holdest := h.oldest
    rcases h.lo_le.lt_or_eq with hlt | rfl
    · obtain ⟨oldest, hitem⟩ := h.exists_item (hlt.trans_le h.hi_le)
      rw [if_pos hlt, hitem] at holdest
      rw [holdest]
      simp only
      cases upcoming with
      | nil => exact ⟨lo, hi, h⟩
      | cons growth upcoming =>
        have hgrow := h.grow growth
        simp only [history.token_eq hitem, page_down (hlt.trans_le hgrow.hi_le) hitem]
        split_ifs
        · exact ⟨lo, hi, hgrow⟩
        · exact ⟨_, hi, hgrow.save_down (Nat.sub_le lo limit)⟩
    · rw [if_neg (lt_irrefl _)] at holdest
      rw [holdest]
      obtain ⟨lo', hi', hwalk⟩ := bootstrapFromHead_refreshed historyCacheLimit limit upcoming h
      exact ⟨lo', hi', hwalk.caches⟩
  · exact ⟨lo, hi, h⟩

/-! ### Runs of calls -/

/-- A call keeps the cache a slice, wherever it fails. -/
theorem exists_caches_call (historyCacheLimit : ℕ+) (h : Caches history s lo hi) (call : Call) :
    ∃ lo' hi', Caches history (s.call history historyCacheLimit call) lo' hi' := by
  cases call with
  | grow growth => exact ⟨lo, hi, h.grow growth⟩
  | syncRecent limit upcoming =>
    obtain ⟨lo', hi', hwalk⟩ := syncRecent_refreshed historyCacheLimit limit upcoming h
    exact ⟨lo', hi', hwalk.caches⟩
  | loadOlder limit upcoming => exact exists_caches_loadOlder h
  | setKeepFullHistory enabled => exact ⟨lo, hi, h.holds, h.lo_le, h.hi_le, h.held_le⟩

theorem exists_caches_run (historyCacheLimit : ℕ+) (h : Caches history s lo hi)
    (calls : List Call) :
    ∃ lo' hi', Caches history (s.run history historyCacheLimit calls) lo' hi' := by
  induction calls generalizing s lo hi with
  | nil => exact ⟨lo, hi, h⟩
  | cons call calls ih =>
    obtain ⟨lo', hi', hcall⟩ := exists_caches_call historyCacheLimit h call
    exact ih hcall

/-- After every run of calls the cache has no hole, and a refresh in the full mode that
returns caches all that the server held when it began. -/
theorem history_noHole (history : ServerHistory Body) (historyCacheLimit : ℕ+) (held : ℕ)
    (keepFullHistory : Bool) (calls : List Call) :
    let s := (Session.start history held keepFullHistory).run history historyCacheLimit calls
    NoHole history s ∧ ∀ limit upcoming, 0 < limit → s.keepFullHistory = true →
      (syncRecent history historyCacheLimit limit upcoming s).fetched.isSome →
      ∀ item ∈ s.server history,
        item ∈ (syncRecent history historyCacheLimit limit upcoming s).session.cached := by
  obtain ⟨lo, hi, hcaches⟩ := exists_caches_run historyCacheLimit
    (caches_start history held keepFullHistory) calls
  refine ⟨hcaches.noHole, ?_⟩
  intro limit upcoming hlimit hmode hreturned item hitem
  obtain ⟨lo', hi', hwalk⟩ := syncRecent_refreshed historyCacheLimit limit upcoming hcaches
  obtain ⟨rfl, hheld⟩ := hwalk.full hmode hreturned hlimit
  rw [hwalk.caches.mem_cached, slice_zero]
  exact (List.take_subset_take_left _ hheld) hitem

/-- One operation on the server, and a page that asks for none. -/
theorem history_incomplete : ¬ ∀ (history : ServerHistory Unit) (historyCacheLimit : ℕ+)
    (held : ℕ) (keepFullHistory : Bool) (calls : List Call),
    let s := (Session.start history held keepFullHistory).run history historyCacheLimit calls
    NoHole history s ∧ ∀ limit upcoming, s.keepFullHistory = true →
      (syncRecent history historyCacheLimit limit upcoming s).fetched.isSome →
      ∀ item ∈ s.server history,
        item ∈ (syncRecent history historyCacheLimit limit upcoming s).session.cached := by
  intro hall
  have hmem := (hall oneOperation 1 1 true []).2 0 [0] rfl (by decide +kernel)
    ⟨some 1, none, ()⟩ (by decide)
  exact absurd hmem (by decide +kernel)

/-! ### The default mode -/

/-- The calls of the default mode, where a refresh that starts with an empty cache is
not left partly filled. -/
inductive RecentStep (history : ServerHistory Body) (historyCacheLimit : ℕ+) (s : Session Body) :
    Call → Session Body → Prop
  | grow (growth : ℕ) :
      RecentStep history historyCacheLimit s (.grow growth) (s.grow history growth)
  | syncRecent (limit : ℕ) (upcoming : List ℕ)
      (hcovers : s.Covers history historyCacheLimit limit upcoming) :
      RecentStep history historyCacheLimit s (.syncRecent limit upcoming)
        (Python.syncRecent history historyCacheLimit limit upcoming s).session

/-- In the default mode the cache is the newest slice below some index. -/
def CachesNewest (history : ServerHistory Body) (historyCacheLimit : ℕ+) (s : Session Body) :
    Prop :=
  s.keepFullHistory = false ∧ ∃ hi, Caches history s (hi - historyCacheLimit) hi

theorem RecentStep.cachesNewest {t : Session Body} {call : Call}
    (h : CachesNewest history historyCacheLimit s)
    (hstep : RecentStep history historyCacheLimit s call t) :
    CachesNewest history historyCacheLimit t := by
  obtain ⟨hmode, hi, hcaches⟩ := h
  cases hstep with
  | grow growth => exact ⟨hmode, hi, hcaches.grow growth⟩
  | syncRecent limit upcoming hcovers =>
    obtain ⟨lo', hi', hwalk⟩ := syncRecent_refreshed historyCacheLimit limit upcoming hcaches
    obtain ⟨rfl, -⟩ := hwalk.recent hmode rfl hcovers
    exact ⟨hwalk.keepFullHistory.trans hmode, hi', hwalk.caches⟩

/-- The newest operations that the server holds. -/
theorem Caches.cached_eq_newest (h : Caches history s (s.held - historyCacheLimit) s.held) :
    s.cached = (s.server history).reverse.take historyCacheLimit := by
  rw [Session.cached, h.getOperations_none, Session.server, take_reverse_take h.held_le]

/-- Along the runs whose refreshes of an empty cache are not cut short, a refresh that
returns on a server that did not grow leaves the newest operations. -/
theorem syncRecent_newest {held : ℕ} {calls : List Call}
    (hrun : Run (RecentStep history historyCacheLimit) (.start history held false) calls s)
    (hcovers : s.Covers history historyCacheLimit limit upcoming)
    (hreturned : (syncRecent history historyCacheLimit limit upcoming s).fetched.isSome)
    (hstill : (syncRecent history historyCacheLimit limit upcoming s).session.held = s.held) :
    (syncRecent history historyCacheLimit limit upcoming s).session.cached =
      (s.server history).reverse.take historyCacheLimit := by
  have hstart : CachesNewest history historyCacheLimit (.start history held false) := by
    refine ⟨rfl, 0, ?_⟩
    rw [Nat.zero_sub]
    exact caches_start history held false
  obtain ⟨hmode, hi, hcaches⟩ := hrun.history (P := fun _ t => CachesNewest history
    historyCacheLimit t) hstart fun _ _ _ _ _ h hstep => hstep.cachesNewest h
  obtain ⟨lo', hi', hwalk⟩ := syncRecent_refreshed historyCacheLimit limit upcoming hcaches
  obtain ⟨rfl, hheld⟩ := hwalk.recent hmode rfl hcovers
  have hhead := le_antisymm (hheld hreturned) (hstill ▸ hwalk.caches.hi_le)
  have hnewest := hwalk.caches
  rw [← hhead, ← hstill] at hnewest
  rw [hnewest.cached_eq_newest]
  unfold Session.server
  rw [hstill]

/-- A server of six operations, for examples. -/
def sixOperations : ServerHistory Unit where
  operations := [⟨some 1, none, ()⟩, ⟨some 2, none, ()⟩, ⟨some 3, none, ()⟩, ⟨some 4, none, ()⟩,
    ⟨some 5, none, ()⟩, ⟨some 6, none, ()⟩]
  token := by decide
  ascending := .cons (by decide) (.cons (by decide) (.cons (by decide) (.cons (by decide)
    (.cons (by decide) (.cons nofun .nil)))))

/-- The first request is not answered. The next refresh brings two pages, after the server
has grown, and the one after it fails when it has saved what came while it asked. -/
def interruptedCalls : List Call :=
  [.syncRecent 2 [], .grow 1, .syncRecent 1 [0, 0], .syncRecent 1 [1], .grow 2]

/-- What this leaves of two operations to begin with. -/
def interruptedSession : Session Unit :=
  ⟨6, false, ⟨[(3, ⟨some 3, none, ()⟩), (4, ⟨some 4, none, ()⟩)], by decide⟩⟩

theorem run_interruptedCalls : (Session.start sixOperations 2 false).run sixOperations 2
    interruptedCalls = interruptedSession := by
  simp [interruptedCalls, interruptedSession, Session.start, Session.run, Session.call,
    syncRecent, walkRecent, syncNewer, bootstrapFromHead, walkPages, page, Session.server,
    Session.grow, Session.save, Session.trimIf, Session.trim, trimOperations, saveOperations,
    saveOperation, getOperations, Operation.sortKey, Operation.token, List.mergeSort, Dict.empty,
    Dict.values, Dict.keys, Dict.set, setEntry, Dict.filterKeys, sixOperations]

theorem runs_interruptedCalls : Run (RecentStep sixOperations 2) (.start sixOperations 2 false)
    interruptedCalls interruptedSession := by
  rw [← run_interruptedCalls]
  -- two pages of one are enough for two operations, whatever is cached
  have hpages : ∀ s : Session Unit, s.Covers sixOperations 2 1 [0, 0] := fun s =>
    ⟨one_pos, fun _ => min_le_left _ _⟩
  have hcached : ((Session.start sixOperations 2 false).run sixOperations 2
      [.syncRecent 2 [], .grow 1, .syncRecent 1 [0, 0]]).cached ≠ [] := by
    simp [Session.cached, Session.start, Session.run, Session.call, syncRecent, walkRecent,
      bootstrapFromHead, walkPages, page, Session.server, Session.grow, Session.save,
      Session.trimIf, Session.trim, trimOperations, saveOperations, saveOperation, getOperations,
      Operation.sortKey, Operation.token, List.mergeSort, Dict.empty, Dict.values, Dict.set,
      setEntry, sixOperations]
  exact .cons (.syncRecent 2 [] two_pos) (.cons (.grow 1) (.cons (.syncRecent 1 [0, 0] (hpages _))
    (.cons (.syncRecent 1 [1] ⟨one_pos, fun hempty => absurd hempty hcached⟩)
      (.cons (.grow 2) .nil))))

theorem syncRecent_interruptedSession : syncRecent sixOperations 2 1 [0, 0, 0]
    interruptedSession =
      ⟨⟨6, false, ⟨[(5, ⟨some 5, none, ()⟩), (6, ⟨some 6, none, ()⟩)], by decide⟩⟩, [],
        some 2⟩ := by
  simp [interruptedSession, syncRecent, walkRecent, syncNewer, walkPages, page, Session.server,
    Session.grow, Session.save, Session.trimIf, Session.trim, trimOperations, saveOperations,
    saveOperation, getOperations, Operation.sortKey, Operation.token, List.mergeSort, Dict.values,
    Dict.keys, Dict.set, setEntry, Dict.filterKeys, sixOperations]

/-- The refresh that follows goes up in two pages, and leaves the newest two of the six. -/
theorem syncRecent_newest_interrupted :
    Run (RecentStep sixOperations 2) (.start sixOperations 2 false) interruptedCalls
        interruptedSession ∧
      interruptedSession.Covers sixOperations 2 1 [0, 0, 0] ∧
      (syncRecent sixOperations 2 1 [0, 0, 0] interruptedSession).fetched = some 2 ∧
      (syncRecent sixOperations 2 1 [0, 0, 0] interruptedSession).session.held =
        interruptedSession.held ∧
      (syncRecent sixOperations 2 1 [0, 0, 0] interruptedSession).session.cached =
        (interruptedSession.server sixOperations).reverse.take 2 := by
  have hcovers : interruptedSession.Covers sixOperations 2 1 [0, 0, 0] :=
    ⟨one_pos, fun _ => by decide⟩
  have hfetched : (syncRecent sixOperations 2 1 [0, 0, 0] interruptedSession).fetched =
      some 2 := by
    rw [syncRecent_interruptedSession]
  have hstill : (syncRecent sixOperations 2 1 [0, 0, 0] interruptedSession).session.held =
      interruptedSession.held := by
    rw [syncRecent_interruptedSession]
    rfl
  have hreturned : (syncRecent sixOperations 2 1 [0, 0, 0] interruptedSession).fetched.isSome := by
    rw [hfetched]
    rfl
  exact ⟨runs_interruptedCalls, hcovers, hfetched, hstill,
    syncRecent_newest runs_interruptedCalls hcovers hreturned hstill⟩

/-- Two operations, in pages of one, and the second request of the first refresh fails:
the next refresh returns, and the older operation is never cached. -/
theorem syncRecent_not_newest : ¬ ∀ (history : ServerHistory Unit) (historyCacheLimit : ℕ+)
    (held : ℕ) (calls : List Call) (limit : ℕ) (upcoming : List ℕ),
    (∀ call ∈ calls, call.Recent) →
    let s := (Session.start history held false).run history historyCacheLimit calls
    (syncRecent history historyCacheLimit limit upcoming s).fetched.isSome →
    (syncRecent history historyCacheLimit limit upcoming s).session.held = s.held →
    (syncRecent history historyCacheLimit limit upcoming s).session.cached =
      (s.server history).reverse.take historyCacheLimit := by
  intro hall
  have hnewest := hall twoOperations 2 2 [.syncRecent 1 [0]] 1 [0] (by decide)
    (by decide +kernel) (by decide +kernel)
  exact absurd hnewest (by decide +kernel)

end Fresnica.Python
