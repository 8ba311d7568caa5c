import Mathlib.Data.PNat.Basic
import Fresnica.Python.HistoryStore

/-!
# Synchronizing the cached history of an account

The service pages through the operations that the server holds: down from the head
where nothing is cached, and otherwise up from the newest cached operation, and down
from the oldest one where the full history is kept. Each page is saved as it comes, and
in the default mode the cache is trimmed to its newest operations after each page.

The server answers from a list of operations that grows. The list is fixed here, as all
that the server will ever hold, and a session says how much of it the server holds by
now; what is still to come in a call is a list of the growths before each request that
is answered, and the request after these fails.

## Main definitions

* `ServerHistory`, `page` — the operations of the account, and the answer to a request
* `Session` — the growth of the server, the mode and the cache
* `walkPages` — the loop over pages that the three walks share
* `syncRecent`, `loadOlder` — the calls of the service

## Main results

* `Caches` — the cache is a slice of what the server holds
* `page_up`, `page_down`, `page_head` — the pages are the next slices
-/

namespace Fresnica.Python

open Foundation

variable {Body : Type}

/-- All that the server will ever hold, with strictly increasing tokens. -/
structure ServerHistory (Body : Type) where
  operations : List (Operation Body)
  token : ∀ item ∈ operations, item.token.isSome
  ascending : Ascending Operation.sortKey operations

/-- The next records after the cursor, at most `limit` of them. -/
def page (held : List (Operation Body)) (limit : ℕ) (cursor : Option ℤ) (desc : Bool) :
    List (Operation Body) :=
  let after : List (Operation Body) := match cursor, desc with
    | none, false => held
    | none, true => held.reverse
    | some token, false => held.filter fun item => decide (token < item.sortKey)
    | some token, true => (held.filter fun item => decide (item.sortKey < token)).reverse
  after.take limit

/-- How much of the history the server holds, and the state of the service. -/
structure Session (Body : Type) where
  held : ℕ
  keepFullHistory : Bool
  bucket : Bucket Body

/-- How a call ends: with the count of operations that it fetched, unless a request
failed, and with the growths that it did not come to. -/
structure Reply (Body : Type) where
  session : Session Body
  upcoming : List ℕ
  fetched : Option ℕ

namespace Session

def save (s : Session Body) (records : List (Operation Body)) : Session Body :=
  { s with bucket := saveOperations s.bucket records }

def trim (s : Session Body) (limit : ℕ) : Session Body :=
  { s with bucket := (trimOperations s.bucket limit).2 }

/-- The trimming after a page, in the default mode. -/
def trimIf (s : Session Body) (trims : Bool) (limit : ℕ) : Session Body :=
  if trims then s.trim limit else s

variable {s : Session Body} {trims : Bool} {n : ℕ}

@[simp] theorem held_trimIf : (s.trimIf trims n).held = s.held := by
  cases trims <;> rfl

@[simp] theorem keepFullHistory_trimIf :
    (s.trimIf trims n).keepFullHistory = s.keepFullHistory := by
  cases trims <;> rfl

end Session

section Service

variable (history : ServerHistory Body) (historyCacheLimit : ℕ+)

namespace Session

/-- The server holds more, up to all of its history. -/
def grow (s : Session Body) (growth : ℕ) : Session Body :=
  { s with held := min (s.held + growth) history.operations.length }

/-- What the server holds. -/
def server (s : Session Body) : List (Operation Body) := history.operations.take s.held

end Session

/-- The loop over pages: while it may continue, the page after the cursor is saved, and
the cache is trimmed. -/
def walkPages (mayContinue : Option ℤ → ℕ → Bool) (trims desc : Bool) (limit : ℕ) :
    List ℕ → Session Body → Option ℤ → ℕ → Reply Body
  -- the request fails where no growth is left for it
  | [], s, cursor, fetched =>
    if mayContinue cursor fetched then ⟨s, [], none⟩ else ⟨s, [], some fetched⟩
  | growth :: upcoming, s, cursor, fetched =>
    if mayContinue cursor fetched then
      let s := s.grow history growth
      let records := page (s.server history) limit cursor desc
      match records.getLast? with
      | none => ⟨s, upcoming, some fetched⟩
      | some last =>
        let s := s.save records
        let fetched := fetched + records.length
        let s := s.trimIf trims historyCacheLimit
        let nextCursor := last.token
        if nextCursor = none ∨ nextCursor = cursor ∨ records.length < limit then
          ⟨s, upcoming, some fetched⟩
        else walkPages mayContinue trims desc limit upcoming s nextCursor fetched
    else ⟨s, growth :: upcoming, some fetched⟩

/-- The walk down from the head. -/
def bootstrapFromHead (limit : ℕ) (upcoming : List ℕ) (s : Session Body) : Reply Body :=
  walkPages history historyCacheLimit
    (fun _ fetched => s.keepFullHistory || decide (fetched < historyCacheLimit))
    (!s.keepFullHistory) true limit upcoming s none 0

/-- The walk up from the newest cached operation. -/
def syncNewer (cursor : Option ℤ) (limit : ℕ) (upcoming : List ℕ) (s : Session Body) :
    Reply Body :=
  walkPages history historyCacheLimit (fun cursor _ => cursor.isSome) (!s.keepFullHistory) false
    limit upcoming s cursor 0

/-- The walk down from the oldest cached operation, where the full history is kept. -/
def backfillOlder (limit : ℕ) (upcoming : List ℕ) (s : Session Body) : Reply Body :=
  match (getOperations s.bucket none).getLast? with
  | none => bootstrapFromHead history historyCacheLimit limit upcoming s
  | some oldest =>
    walkPages history historyCacheLimit (fun cursor _ => cursor.isSome) false true limit upcoming
      s oldest.token 0

/-- What the walks of a refresh add up to. -/
def walkRecent (limit : ℕ) (upcoming : List ℕ) (s : Session Body) : Reply Body :=
  match (getOperations s.bucket (some 1)).head? with
  | none => bootstrapFromHead history historyCacheLimit limit upcoming s
  | some newest =>
    let newer := syncNewer history historyCacheLimit newest.token limit upcoming s
    match newer.fetched with
    | none => newer
    | some fetched =>
      if newer.session.keepFullHistory then
        let older := backfillOlder history historyCacheLimit limit newer.upcoming newer.session
        { older with fetched := older.fetched.map (fetched + ·) }
      else newer

/-- The refresh, which trims once more in the default mode. -/
def syncRecent (limit : ℕ) (upcoming : List ℕ) (s : Session Body) : Reply Body :=
  let reply := walkRecent history historyCacheLimit limit upcoming s
  -- a walk that failed has raised before this trimming
  if reply.fetched.isSome ∧ ¬ reply.session.keepFullHistory then
    { reply with session := reply.session.trim historyCacheLimit }
  else reply

/-- One page down from the oldest cached operation, where the full history is kept. -/
def loadOlder (limit : ℕ) (upcoming : List ℕ) (s : Session Body) : Reply Body :=
  if s.keepFullHistory then
    match (getOperations s.bucket none).getLast? with
    | none => bootstrapFromHead history historyCacheLimit limit upcoming s
    | some oldest =>
      match upcoming with
      | [] => ⟨s, [], none⟩
      | growth :: upcoming =>
        let s := s.grow history growth
        let records := page (s.server history) limit oldest.token true
        ⟨if records.isEmpty then s else s.save records, upcoming, some records.length⟩
  else ⟨s, upcoming, some 0⟩

/-- What happens to a session. -/
inductive Call
  | grow (growth : ℕ)
  | syncRecent (limit : ℕ) (upcoming : List ℕ)
  | loadOlder (limit : ℕ) (upcoming : List ℕ)
  | setKeepFullHistory (enabled : Bool)

/-- The calls of the default mode. -/
def Call.Recent : Call → Prop
  | .grow _ => True
  | .syncRecent _ _ => True
  | .loadOlder _ _ => False
  | .setKeepFullHistory _ => False

instance : DecidablePred Call.Recent
  | .grow _ => .isTrue trivial
  | .syncRecent _ _ => .isTrue trivial
  | .loadOlder _ _ => .isFalse id
  | .setKeepFullHistory _ => .isFalse id

namespace Session

def call (s : Session Body) : Call → Session Body
  | .grow growth => s.grow history growth
  | .syncRecent limit upcoming =>
    (Python.syncRecent history historyCacheLimit limit upcoming s).session
  | .loadOlder limit upcoming =>
    (Python.loadOlder history historyCacheLimit limit upcoming s).session
  | .setKeepFullHistory enabled => { s with keepFullHistory := enabled }

/-- The session after some calls. -/
def run (s : Session Body) (calls : List Call) : Session Body :=
  calls.foldl (call history historyCacheLimit) s

end Session

end Service

/-! ### The cache is a slice -/

theorem ServerHistory.token_eq (history : ServerHistory Body) {i : ℕ} {item : Operation Body}
    (h : history.operations[i]? = some item) : item.token = some item.sortKey := by
  obtain ⟨token, htoken⟩ :=
    Option.isSome_iff_exists.mp (history.token item (List.mem_of_getElem? h))
  rw [htoken, Operation.sortKey_of_token htoken]

variable {history : ServerHistory Body} {historyCacheLimit : ℕ+} {s : Session Body}
  {lo hi limit : ℕ} {item : Operation Body}

/-- The cache is the slice of the history between two indices, which the server holds. -/
structure Caches (history : ServerHistory Body) (s : Session Body) (lo hi : ℕ) : Prop where
  holds : Holds s.bucket (slice history.operations lo hi)
  lo_le : lo ≤ hi
  hi_le : hi ≤ s.held
  held_le : s.held ≤ history.operations.length

namespace Caches

theorem grow (h : Caches history s lo hi) (growth : ℕ) :
    Caches history (s.grow history growth) lo hi where
  holds := h.holds
  lo_le := h.lo_le
  hi_le := le_min (h.hi_le.trans (Nat.le_add_right _ _)) (h.hi_le.trans h.held_le)
  held_le := min_le_right _ _

theorem length_slice (h : Caches history s lo hi) :
    (slice history.operations lo hi).length = hi - lo :=
  Foundation.length_slice lo (h.hi_le.trans h.held_le)

theorem getOperations_none (h : Caches history s lo hi) :
    getOperations s.bucket none = (slice history.operations lo hi).reverse :=
  h.holds.getOperations_none history.ascending.slice

/-- The newest cached operation. -/
theorem newest (h : Caches history s lo hi) :
    (getOperations s.bucket (some 1)).head? =
      if lo < hi then history.operations[hi - 1]? else none := by
  rw [h.holds.getOperations_some history.ascending.slice, List.head?_take, if_neg one_ne_zero,
    List.head?_reverse, getLast?_slice lo (h.hi_le.trans h.held_le)]

/-- The oldest cached operation. -/
theorem oldest (h : Caches history s lo hi) :
    (getOperations s.bucket none).getLast? =
      if lo < hi then history.operations[lo]? else none := by
  rw [h.getOperations_none, List.getLast?_reverse, head?_slice]

/-- The operation at an index that the server has reached. -/
theorem exists_item (h : Caches history s lo hi) {i : ℕ} (hlt : i < s.held) :
    ∃ item, history.operations[i]? = some item :=
  ⟨_, List.getElem?_eq_getElem (hlt.trans_le h.held_le)⟩

/-- The next operations above the cached ones are added. -/
theorem save_up (h : Caches history s lo hi) {top : ℕ} (hhi : hi ≤ top) (htop : top ≤ s.held) :
    Caches history (s.save (slice history.operations hi top)) lo top where
  holds := by
    have hall : (slice history.operations hi top ++ slice history.operations lo hi).Perm
        (slice history.operations lo top) :=
      List.perm_append_comm.trans (.of_eq (slice_append h.lo_le hhi))
    apply (h.holds.save (fun item hitem => history.token item (mem_of_mem_slice hitem)) _).of_perm
      hall
    rw [(hall.map Operation.sortKey).nodup_iff]
    exact history.ascending.slice.nodup_map
  lo_le := h.lo_le.trans hhi
  hi_le := htop
  held_le := h.held_le

/-- The next operations below the cached ones are added. -/
theorem save_down (h : Caches history s lo hi) {bottom : ℕ} (hle : bottom ≤ lo) :
    Caches history (s.save (slice history.operations bottom lo).reverse) bottom hi where
  holds := by
    have hall : ((slice history.operations bottom lo).reverse ++
        slice history.operations lo hi).Perm (slice history.operations bottom hi) :=
      ((List.reverse_perm _).append_right _).trans (.of_eq (slice_append hle h.lo_le))
    have htokens : ∀ item ∈ (slice history.operations bottom lo).reverse, item.token.isSome := by
      intro item hitem
      exact history.token item (mem_of_mem_slice (List.mem_reverse.mp hitem))
    apply (h.holds.save htokens _).of_perm hall
    rw [(hall.map Operation.sortKey).nodup_iff]
    exact history.ascending.slice.nodup_map
  lo_le := hle.trans h.lo_le
  hi_le := h.hi_le
  held_le := h.held_le

/-- Trimming moves the lower end. -/
theorem trim (h : Caches history s lo hi) (n : ℕ) :
    Caches history (s.trim n) (max lo (hi - n)) hi where
  holds := by
    have htrim := h.holds.trim (n := n) history.ascending.slice
    rw [h.length_slice, drop_slice] at htrim
    have hlo : lo + (hi - lo - n) = max lo (hi - n) := by
      have := h.lo_le
      omega
    rw [hlo] at htrim
    exact htrim
  lo_le := max_le h.lo_le (Nat.sub_le _ _)
  hi_le := h.hi_le
  held_le := h.held_le

/-- The server holds no less than before. -/
theorem held_le_grow (h : Caches history s lo hi) (growth : ℕ) :
    s.held ≤ (s.grow history growth).held :=
  le_min (Nat.le_add_right _ _) h.held_le

end Caches

/-- The lower end after the cache was trimmed, if it was. -/
def trimmedLo (trims : Bool) (historyCacheLimit : ℕ+) (lo hi : ℕ) : ℕ :=
  if trims then max lo (hi - historyCacheLimit) else lo

theorem trimmedLo_lt (trims : Bool) (historyCacheLimit : ℕ+) (hlt : lo < hi) :
    trimmedLo trims historyCacheLimit lo hi < hi := by
  have hpos := historyCacheLimit.pos
  unfold trimmedLo
  split_ifs
  · exact max_lt hlt (Nat.sub_lt (by omega) hpos)
  · exact hlt

theorem Caches.trimIf (h : Caches history s lo hi) (trims : Bool) (historyCacheLimit : ℕ+) :
    Caches history (s.trimIf trims historyCacheLimit) (trimmedLo trims historyCacheLimit lo hi)
      hi := by
  unfold trimmedLo Session.trimIf
  split_ifs
  · exact h.trim historyCacheLimit
  · exact h

/-! ### The pages of the server -/

/-- An operation of the history that the server holds. -/
theorem server_getElem? (hhi : hi < s.held) (hitem : history.operations[hi]? = some item) :
    (s.server history)[hi]? = some item := by
  rw [Session.server, List.getElem?_take, if_pos hhi, hitem]

theorem ascending_server : Ascending Operation.sortKey (s.server history) :=
  history.ascending.sublist (List.take_sublist _ _)

/-- The page above an operation. -/
theorem page_up (limit : ℕ) (hhi : hi < s.held) (hitem : history.operations[hi]? = some item) :
    page (s.server history) limit (some item.sortKey) false =
      slice history.operations (hi + 1) (min s.held (hi + 1 + limit)) := by
  show ((s.server history).filter fun other => decide (item.sortKey < other.sortKey)).take limit = _
  rw [ascending_server.filter_gt (server_getElem? hhi hitem), Session.server, slice,
    List.take_drop, List.take_take, min_comm]

/-- The newest operations of a prefix, from the newest on. -/
theorem take_reverse_take {n : ℕ} (hn : n ≤ history.operations.length) :
    (history.operations.take n).reverse.take limit =
      (slice history.operations (n - limit) n).reverse := by
  rw [List.take_reverse, List.length_take, min_eq_left hn]
  rfl

/-- The page below an operation. -/
theorem page_down (hlo : lo < s.held) (hitem : history.operations[lo]? = some item) :
    page (s.server history) limit (some item.sortKey) true =
      (slice history.operations (lo - limit) lo).reverse := by
  show ((s.server history).filter fun other => decide (other.sortKey < item.sortKey)).reverse.take
    limit = _
  have hle : lo ≤ history.operations.length := (List.getElem?_eq_some_iff.mp hitem).1.le
  rw [ascending_server.filter_lt (server_getElem? hlo hitem), Session.server, List.take_take,
    min_eq_left hlo.le, take_reverse_take hle]

/-- The page below the head. -/
theorem page_head (hheld : s.held ≤ history.operations.length) :
    page (s.server history) limit none true =
      (slice history.operations (s.held - limit) s.held).reverse :=
  take_reverse_take hheld

end Fresnica.Python
