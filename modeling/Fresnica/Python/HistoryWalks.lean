import Fresnica.Python.HistoryService

/-!
# The walks over the pages of the server

Where the cache is a slice of the history, a walk keeps it one: going up it moves the
upper end, going down the lower end, and trimming moves the lower end up again. A walk
that returns has come to the end it was going to.

## Main definitions

* `WentUp`, `WentDown` — what a walk does to the slice

## Main results

* `walkPages_up` — the walk up from the newest cached operation
* `walkPages_down` — the walk down from the oldest one
* `bootstrapFromHead_cons` — the walk down from the head
-/

namespace Fresnica.Python

open Foundation

variable {Body : Type} {history : ServerHistory Body} {historyCacheLimit : ℕ+} {s : Session Body}
  {lo hi limit : ℕ} {item : Operation Body}

/-! ### A turn of the loop -/

section Turn

variable {mayContinue : Option ℤ → ℕ → Bool} {trims desc : Bool} {growth : ℕ} {upcoming : List ℕ}
  {cursor : Option ℤ} {fetched : ℕ} {records : List (Operation Body)} {last : Operation Body}

theorem walkPages_of_failed (hcontinue : mayContinue cursor fetched = true) :
    walkPages history historyCacheLimit mayContinue trims desc limit [] s cursor fetched =
      ⟨s, [], none⟩ := by
  rw [walkPages, hcontinue]
  rfl

theorem walkPages_of_stop (hstop : mayContinue cursor fetched = false) :
    walkPages history historyCacheLimit mayContinue trims desc limit upcoming s cursor fetched =
      ⟨s, upcoming, some fetched⟩ := by
  cases upcoming <;> rw [walkPages, hstop] <;> rfl

theorem walkPages_of_nil (hcontinue : mayContinue cursor fetched = true)
    (hpage : page ((s.grow history growth).server history) limit cursor desc = []) :
    walkPages history historyCacheLimit mayContinue trims desc limit (growth :: upcoming) s cursor
      fetched = ⟨s.grow history growth, upcoming, some fetched⟩ := by
  rw [walkPages, hcontinue]
  simp only [if_true, hpage, List.getLast?_nil]

/-- A turn of the loop with a page that has a last record. -/
theorem walkPages_of_last (hcontinue : mayContinue cursor fetched = true)
    (hpage : page ((s.grow history growth).server history) limit cursor desc = records)
    (hlast : records.getLast? = some last) (htoken : last.token = some last.sortKey)
    (hcursor : last.token ≠ cursor) :
    walkPages history historyCacheLimit mayContinue trims desc limit (growth :: upcoming) s cursor
        fetched =
      let kept := ((s.grow history growth).save records).trimIf trims historyCacheLimit
      if records.length < limit then ⟨kept, upcoming, some (fetched + records.length)⟩
      else walkPages history historyCacheLimit mayContinue trims desc limit upcoming kept last.token
        (fetched + records.length) := by
  have hsome : last.token ≠ none := by
    rw [htoken]
    exact nofun
  rw [walkPages, hcontinue]
  simp only [if_true, hpage, hlast, hsome, hcursor, false_or]

end Turn

/-- The session once a page was saved, and trimmed where it is. -/
theorem exists_kept (s : Session Body) (growth : ℕ) (records : List (Operation Body))
    (trims : Bool) : ∃ kept, kept =
        ((s.grow history growth).save records).trimIf trims historyCacheLimit ∧
      kept.held = (s.grow history growth).held ∧ kept.keepFullHistory = s.keepFullHistory := by
  refine ⟨_, rfl, ?_, ?_⟩
  · rw [Session.held_trimIf]
    rfl
  · rw [Session.keepFullHistory_trimIf]
    rfl

/-! ### Up -/

/-- What a walk up does to the slice: both ends move up, and the lower one only where the
cache is trimmed. A walk that returns has come to the head. -/
structure WentUp (history : ServerHistory Body) (historyCacheLimit : ℕ+) (trims : Bool)
    (limit : ℕ) (s : Session Body) (lo hi : ℕ) (reply : Reply Body) (lo' hi' : ℕ) : Prop where
  caches : Caches history reply.session lo' hi'
  lt : lo' < hi'
  hi_le : hi ≤ hi'
  held_le : s.held ≤ reply.session.held
  keepFullHistory : reply.session.keepFullHistory = s.keepFullHistory
  untrimmed : trims = false → lo' = lo
  trimmed : trims = true → lo' = lo ∧ hi' = hi ∨ lo' = max lo (hi' - historyCacheLimit)
  returned : reply.fetched.isSome → 0 < limit → hi' = reply.session.held

section Up

variable {kept : Session Body} {reply : Reply Body} {trims : Bool} {top lo' hi' : ℕ}

/-- A page that is not full ends at the head. -/
theorem WentUp.ended {upcoming : List ℕ} {fetched : Option ℕ} (hlt : lo < hi) (hmore : hi ≤ top)
    (hsaved : Caches history kept (trimmedLo trims historyCacheLimit lo top) top)
    (hheld : s.held ≤ kept.held) (hfull : kept.keepFullHistory = s.keepFullHistory)
    (hhead : top = kept.held) :
    WentUp history historyCacheLimit trims limit s lo hi ⟨kept, upcoming, fetched⟩
      (trimmedLo trims historyCacheLimit lo top) top := by
  refine ⟨hsaved, trimmedLo_lt trims historyCacheLimit (hlt.trans_le hmore), hmore, hheld, hfull,
    ?_, ?_, fun _ _ => hhead⟩
  · rintro rfl
    rfl
  · rintro rfl
    exact .inr rfl

/-- After a full page, the walk goes on from its upper end. -/
theorem WentUp.cons (hmore : hi ≤ top) (hheld : s.held ≤ kept.held)
    (hfull : kept.keepFullHistory = s.keepFullHistory)
    (hwent : WentUp history historyCacheLimit trims limit kept
      (trimmedLo trims historyCacheLimit lo top) top reply lo' hi') :
    WentUp history historyCacheLimit trims limit s lo hi reply lo' hi' := by
  refine ⟨hwent.caches, hwent.lt, hmore.trans hwent.hi_le, hheld.trans hwent.held_le,
    hwent.keepFullHistory.trans hfull, ?_, ?_, hwent.returned⟩
  · rintro rfl
    exact hwent.untrimmed rfl
  · rintro rfl
    have hhi' := hwent.hi_le
    right
    rcases hwent.trimmed rfl with ⟨hlo', rfl⟩ | hlo'
    · exact hlo'
    · rw [hlo']
      simp only [trimmedLo, if_true]
      omega

end Up

theorem walkPages_up (historyCacheLimit : ℕ+) (limit : ℕ) (trims : Bool) (upcoming : List ℕ)
    {newest : Operation Body} (fetched : ℕ) (h : Caches history s lo hi) (hlt : lo < hi)
    (hnewest : history.operations[hi - 1]? = some newest) :
    ∃ lo' hi', WentUp history historyCacheLimit trims limit s lo hi
      (walkPages history historyCacheLimit (fun cursor _ => cursor.isSome) trims false limit
        upcoming s newest.token fetched) lo' hi' := by
  -- by the growths of the server before the requests that are still to come
  induction upcoming generalizing s lo hi newest fetched with
  | nil =>
    rw [history.token_eq hnewest, walkPages_of_failed rfl]
    exact ⟨lo, hi, h, hlt, le_rfl, le_rfl, rfl, fun _ => rfl, fun _ => .inl ⟨rfl, rfl⟩, nofun⟩
  | cons growth upcoming ih =>
    have hgrow := h.grow growth
    have hheld := h.held_le_grow growth
    have hhi := h.hi_le
    have hpage := page_up (s := s.grow history growth) limit (by omega) hnewest
    rw [Nat.sub_add_cancel (by omega)] at hpage
    obtain ⟨top, htop⟩ : ∃ top, top = min (s.grow history growth).held (hi + limit) := ⟨_, rfl⟩
    have htop_le : top ≤ (s.grow history growth).held := htop ▸ min_le_left _ _
    rw [← htop] at hpage
    rcases lt_or_ge hi top with hmore | hdone
    · obtain ⟨last, hlast⟩ := hgrow.exists_item (i := top - 1) (by omega)
      have hcursor : last.token ≠ some newest.sortKey := by
        rw [history.token_eq hlast]
        intro heq
        have hle := (history.ascending.key_le_iff hlast hnewest).mp (Option.some.inj heq).le
        omega
      have hlength := length_slice hi (htop_le.trans hgrow.held_le)
      have hlast' := getLast?_slice hi (htop_le.trans hgrow.held_le)
      rw [if_pos hmore, hlast] at hlast'
      have hsaved := (hgrow.save_up hmore.le htop_le).trimIf trims historyCacheLimit
      have hlower := trimmedLo_lt trims historyCacheLimit (hlt.trans hmore)
      rw [history.token_eq hnewest,
        walkPages_of_last rfl hpage hlast' (history.token_eq hlast) hcursor, hlength]
      obtain ⟨kept, hkept, hkeptHeld, hkeptFull⟩ :=
        exists_kept s growth (slice history.operations hi top) trims
      rw [← hkept] at hsaved
      simp only [← hkept]
      -- a page that is not full is the last one
      by_cases hshort : top - hi < limit
      · rw [if_pos hshort]
        exact ⟨_, top, .ended hlt hmore.le hsaved (hkeptHeld ▸ hheld) hkeptFull (by omega)⟩
      · rw [if_neg hshort]
        obtain ⟨lo', hi', hwent⟩ := ih (fetched + (top - hi)) hsaved hlower hlast
        exact ⟨lo', hi', .cons hmore.le (hkeptHeld ▸ hheld) hkeptFull hwent⟩
    · rw [history.token_eq hnewest, walkPages_of_nil rfl]
      · refine ⟨lo, hi, hgrow, hlt, le_rfl, hheld, rfl, fun _ => rfl, fun _ => .inl ⟨rfl, rfl⟩, ?_⟩
        intro _ hlimit
        have := hgrow.hi_le
        show hi = (s.grow history growth).held
        omega
      · rw [hpage]
        exact slice_eq_nil _ hdone

/-! ### Down -/

/-- What a walk down does to the slice: its lower end moves down. A walk that returns has
come to the oldest operation, or has filled the cache; one that fails has added only
full pages. -/
structure WentDown (history : ServerHistory Body) (historyCacheLimit : ℕ+) (trims : Bool)
    (limit : ℕ) (upcoming : List ℕ) (s : Session Body) (lo hi : ℕ) (reply : Reply Body)
    (lo' : ℕ) : Prop where
  caches : Caches history reply.session lo' hi
  held_le : s.held ≤ reply.session.held
  keepFullHistory : reply.session.keepFullHistory = s.keepFullHistory
  returned : reply.fetched.isSome → 0 < limit →
    lo' = if trims then hi - historyCacheLimit else 0
  failed : reply.fetched = none → trims = true →
    lo' + upcoming.length * limit = lo ∧ hi - lo' < historyCacheLimit

section Down

variable {trims : Bool} {mayContinue : Option ℤ → ℕ → Bool} {upcoming : List ℕ} {fetched : ℕ}

/-- The walk goes down from the slice, and the count is its length where it is trimmed. -/
def GoesDown (history : ServerHistory Body) (historyCacheLimit : ℕ+) (trims : Bool)
    (mayContinue : Option ℤ → ℕ → Bool) (limit : ℕ) (upcoming : List ℕ) (hi : ℕ) : Prop :=
  ∀ {s : Session Body} {lo fetched : ℕ} {oldest : Operation Body},
    Caches history s lo hi → history.operations[lo]? = some oldest → lo < hi →
    (trims = true → fetched = hi - lo ∧ fetched < historyCacheLimit) →
    ∃ lo', WentDown history historyCacheLimit trims limit upcoming s lo hi
      (walkPages history historyCacheLimit mayContinue trims true limit upcoming s oldest.token
        fetched) lo'

/-- Nothing is trimmed where the cache has room. -/
theorem trimmedLo_of_room (hroom : trims = true → hi - lo ≤ historyCacheLimit) :
    trimmedLo trims historyCacheLimit lo hi = lo := by
  unfold trimmedLo
  split_ifs with htrims
  · have := hroom htrims
    omega
  · rfl

/-- After a full page, the walk goes on from its lower end. -/
theorem WentDown.cons {kept : Session Body} {reply : Reply Body} {growth lower lo' : ℕ}
    (hfullPage : lower + limit = lo) (hheld : s.held ≤ kept.held)
    (hfull : kept.keepFullHistory = s.keepFullHistory)
    (hwent : WentDown history historyCacheLimit trims limit upcoming kept lower hi reply lo') :
    WentDown history historyCacheLimit trims limit (growth :: upcoming) s lo hi reply lo' := by
  refine ⟨hwent.caches, hheld.trans hwent.held_le, hwent.keepFullHistory.trans hfull,
    hwent.returned, ?_⟩
  intro hnone htrims
  obtain ⟨hfailed, hroom⟩ := hwent.failed hnone htrims
  rw [List.length_cons, Nat.succ_mul]
  omega

/-- One page down, and what the rest of the walk does. -/
theorem walkPages_down_turn
    (hcontinues : ∀ token n, mayContinue (some token) n =
      (!trims || decide (n < historyCacheLimit)))
    (ih : GoesDown history historyCacheLimit trims mayContinue limit upcoming hi)
    {growth : ℕ} {cursor : Option ℤ} (hheld : s.held ≤ (s.grow history growth).held)
    (h : Caches history (s.grow history growth) lo hi)
    (hcontinue : mayContinue cursor fetched = true)
    (hpage : page ((s.grow history growth).server history) limit cursor true =
      (slice history.operations (lo - limit) lo).reverse)
    (hcursor : ∀ i item, i < lo → history.operations[i]? = some item → item.token ≠ cursor)
    (hfetched : trims = true → fetched = hi - lo ∧ fetched < historyCacheLimit) :
    ∃ lo', WentDown history historyCacheLimit trims limit (growth :: upcoming) s lo hi
      (walkPages history historyCacheLimit mayContinue trims true limit (growth :: upcoming) s
        cursor fetched) lo' := by
  have hle := h.lo_le
  have hhi := h.hi_le
  -- either the page has operations below the slice, or there are none
  rcases lt_or_ge (lo - limit) lo with hmore | hdone
  · obtain ⟨last, hlast⟩ := h.exists_item (i := lo - limit) (by omega)
    have hlength : (slice history.operations (lo - limit) lo).reverse.length = lo - (lo - limit) :=
      List.length_reverse.trans (length_slice _ (hle.trans (hhi.trans h.held_le)))
    have hlast' : (slice history.operations (lo - limit) lo).reverse.getLast? = some last := by
      rw [List.getLast?_reverse, head?_slice, if_pos hmore, hlast]
    obtain ⟨kept, hkept, hkeptHeld, hkeptFull⟩ :=
      exists_kept s growth (slice history.operations (lo - limit) lo).reverse trims
    have hsaved := (h.save_down (Nat.sub_le lo limit)).trimIf trims historyCacheLimit
    rw [walkPages_of_last hcontinue hpage hlast' (history.token_eq hlast)
      (hcursor _ _ hmore hlast), hlength]
    rw [← hkept] at hsaved
    simp only [← hkept]
    by_cases hshort : lo - (lo - limit) < limit
    · -- the oldest operation was in the page
      rw [if_pos hshort]
      refine ⟨_, hsaved, hkeptHeld ▸ hheld, hkeptFull, ?_, nofun⟩
      intro _ _
      have hzero : lo - limit = 0 := by omega
      unfold trimmedLo
      split_ifs
      · omega
      · exact hzero
    rw [if_neg hshort]
    by_cases hfilled : trims = true ∧ historyCacheLimit ≤ fetched + (lo - (lo - limit))
    · -- the cache is full, and the walk stops before the next page
      have hstop : mayContinue last.token (fetched + (lo - (lo - limit))) = false := by
        rw [history.token_eq hlast, hcontinues, hfilled.1]
        exact decide_eq_false (not_lt.mpr hfilled.2)
      rw [walkPages_of_stop hstop]
      refine ⟨_, hsaved, hkeptHeld ▸ hheld, hkeptFull, ?_, nofun⟩
      intro _ _
      have hcount := hfetched hfilled.1
      have hroom := hfilled.2
      rw [if_pos hfilled.1, trimmedLo, if_pos hfilled.1]
      omega
    -- the walk goes on from a longer slice, for which the cache still has room
    · have hcount : trims = true → fetched + (lo - (lo - limit)) = hi - (lo - limit) ∧
          fetched + (lo - (lo - limit)) < historyCacheLimit := by
        intro htrims
        have hcount := hfetched htrims
        have hroom := not_le.mp fun hroom => hfilled ⟨htrims, hroom⟩
        omega
      have hlower : trimmedLo trims historyCacheLimit (lo - limit) hi = lo - limit :=
        trimmedLo_of_room fun htrims => by
          have := hcount htrims
          omega
      rw [hlower] at hsaved
      obtain ⟨lo', hwent⟩ := ih hsaved hlast (by omega) hcount
      exact ⟨lo', .cons (by omega) (hkeptHeld ▸ hheld) hkeptFull hwent⟩
  · rw [walkPages_of_nil hcontinue]
    · refine ⟨lo, h, hheld, rfl, ?_, nofun⟩
      intro _ hlimit
      split_ifs with htrims
      · have hcount := hfetched htrims
        omega
      · omega
    · rw [hpage, slice_eq_nil _ hdone, List.reverse_nil]

theorem walkPages_down
    (hcontinues : ∀ token n, mayContinue (some token) n =
      (!trims || decide (n < historyCacheLimit))) :
    GoesDown history historyCacheLimit trims mayContinue limit upcoming hi := by
  induction upcoming with
  | nil =>
    intro s lo fetched oldest h holdest hlt hfetched
    rw [history.token_eq holdest, walkPages_of_failed]
    · refine ⟨lo, h, le_rfl, rfl, nofun, ?_⟩
      intro _ htrims
      have hcount := hfetched htrims
      rw [List.length_nil, Nat.zero_mul]
      omega
    · rw [hcontinues]
      cases htrims : trims with
      | false => rfl
      | true => exact decide_eq_true (hfetched htrims).2
  | cons growth upcoming ih =>
    intro s lo fetched oldest h holdest hlt hfetched
    have hheld := h.held_le_grow growth
    have hhi := h.hi_le
    have hcontinue : mayContinue (some oldest.sortKey) fetched = true := by
      rw [hcontinues]
      cases htrims : trims with
      | false => rfl
      | true => exact decide_eq_true (hfetched htrims).2
    rw [history.token_eq holdest]
    apply walkPages_down_turn hcontinues ih hheld (h.grow growth) hcontinue
      (page_down (by omega) holdest) _ hfetched
    -- the page is of older operations, so that its last token is another one
    intro i item hi hitem
    rw [history.token_eq hitem]
    intro heq
    exact absurd ((history.ascending.key_lt_iff hitem holdest).mpr hi)
      (Option.some.inj heq ▸ lt_irrefl _)

end Down

/-! ### The walk from the head -/

section Bootstrap

variable {upcoming : List ℕ} {growth : ℕ}

/-- An empty cache is the slice at any index. -/
theorem Caches.empty_at (h : Caches history s lo lo) {i : ℕ} (hi : i ≤ s.held) :
    Caches history s i i where
  holds := by
    rw [slice_eq_nil _ le_rfl, ← slice_eq_nil history.operations (le_refl lo)]
    exact h.holds
  lo_le := le_rfl
  hi_le := hi
  held_le := h.held_le

theorem bootstrapFromHead_nil :
    bootstrapFromHead history historyCacheLimit limit [] s = ⟨s, [], none⟩ := by
  apply walkPages_of_failed
  rw [Bool.or_eq_true]
  exact .inr (decide_eq_true historyCacheLimit.pos)

theorem bootstrapFromHead_cons (historyCacheLimit : ℕ+) (limit growth : ℕ) (upcoming : List ℕ)
    (h : Caches history s lo lo) :
    ∃ lo', WentDown history historyCacheLimit (!s.keepFullHistory) limit (growth :: upcoming) s
      (s.grow history growth).held (s.grow history growth).held
      (bootstrapFromHead history historyCacheLimit limit (growth :: upcoming) s) lo' := by
  have hcontinues : ∀ (token : ℤ) (n : ℕ), (s.keepFullHistory || decide (n < historyCacheLimit)) =
      (!!s.keepFullHistory || decide (n < historyCacheLimit)) := by
    intro _ n
    rw [Bool.not_not]
  have hhead := (h.grow growth).empty_at le_rfl
  apply walkPages_down_turn hcontinues (walkPages_down hcontinues) (h.held_le_grow growth) hhead
  · rw [Bool.or_eq_true]
    exact .inr (decide_eq_true historyCacheLimit.pos)
  · exact page_head hhead.held_le
  · intro i item _ hitem
    rw [history.token_eq hitem]
    exact nofun
  · intro _
    exact ⟨(Nat.sub_self _).symm, historyCacheLimit.pos⟩

end Bootstrap

end Fresnica.Python
