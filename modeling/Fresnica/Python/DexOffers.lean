import Fresnica.Foundation.Paging
import Fresnica.Python.DexService

/-!
# The snapshot of an account's offers

The offers are read downwards in pages while the account may place, change and cancel offers. The
snapshot is saved after the last page. It has every offer that was open all along, each of its
offers was open at one of the requests, and none is there twice. Where a request fails, the
snapshot that was saved before stays.

## Main definitions

* `OpenOffers` — the open offers of an account, as Horizon lists them
* `ServesOffers` — Horizon answers from what is open at a request
* `Snapshot` — what the saved offers owe to those that were open

## Main results

* `collectOffers_walks` — the loop ends, and reads the pages of a walk, one for each request
* `getOffers_snapshot` — what is saved and answered
-/

namespace Fresnica.Python.Dex

open Foundation DataStore

variable {Body : Type}

/-- What Horizon lists offers by. -/
def offerKey (item : Offer Body) : ℤ := (offerPagingToken item).getD 0

/-- The open offers of an account, the oldest one first. -/
structure OpenOffers (Body : Type) where
  offers : List (Offer Body)
  token : ∀ item ∈ offers, ∃ token, offerPagingToken item = some token ∧ 0 < token
  ascending : Ascending offerKey offers

theorem OpenOffers.token_eq (listing : OpenOffers Body) {item : Offer Body}
    (h : item ∈ listing.offers) :
    offerPagingToken item = some (offerKey item) ∧ 0 < offerKey item := by
  obtain ⟨token, htoken, hpos⟩ := listing.token item h
  rw [offerKey, htoken, Option.getD_some]
  exact ⟨rfl, hpos⟩

/-- Horizon answers each request from what is open then. -/
def ServesOffers (adapter : Adapter Body) (address : String) (listing : ℕ → OpenOffers Body) :
    Prop :=
  ∀ request limit cursor, ∃ response,
    adapter.getOffers request address limit cursor true = .ok response ∧
      records response = pageOf offerKey (listing request).offers limit cursor true

/-- What is open at some requests. -/
def listings (listing : ℕ → OpenOffers Body) (request count : ℕ) : List (List (Offer Body)) :=
  (List.range' request count).map fun i => (listing i).offers

/-- Offers that are read at some requests: all that were open at each of them are there, and
nothing that was open at none, nor anything twice. -/
structure Snapshot (listing : ℕ → OpenOffers Body) (count : ℕ) (found : List (Offer Body)) :
    Prop where
  always : ∀ key, (∀ request < count, ∃ item ∈ (listing request).offers, offerKey item = key) →
    ∃ item ∈ found, offerKey item = key
  once : ∀ item ∈ found, ∃ request < count, item ∈ (listing request).offers
  descends : found.Pairwise fun a b => offerKey b < offerKey a

variable {adapter : Adapter Body} {address networkName : String} {listing : ℕ → OpenOffers Body}
variable {request fuel : ℕ} {cursor : Option ℤ} {found : List (Offer Body)}

/-! ### The loop -/

/-- The last offer of a page is below the cursor. -/
theorem last_of_page {item : Offer Body} (hlast : (pageOf offerKey (listing request).offers
      offerPageLimit cursor true).getLast? = some item) :
    offerPagingToken item = some (offerKey item) ∧ 0 < offerKey item ∧
      ∀ token ∈ cursor, offerKey item < token := by
  rw [pageOf_desc] at hlast
  obtain ⟨hmem, hlt⟩ := mem_below.mp (List.mem_of_mem_take (List.mem_of_getLast? hlast))
  obtain ⟨htoken, hpos⟩ := (listing request).token_eq hmem
  exact ⟨htoken, hpos, hlt⟩

/-- A turn of the loop ends at a page that is not full, and otherwise goes on below its last
offer. -/
theorem collectOffers_succ (hserves : ServesOffers adapter address listing) (request : ℕ)
    (cursor : Option ℤ) :
    ((pageOf offerKey (listing request).offers offerPageLimit cursor true).length <
        offerPageLimit ∧
      ∀ fuel found, collectOffers adapter address (fuel + 1) request cursor found =
        some (.ok (found ++
          pageOf offerKey (listing request).offers offerPageLimit cursor true))) ∨
      ∃ item, (pageOf offerKey (listing request).offers offerPageLimit cursor true).getLast? =
          some item ∧
        ∀ fuel found, collectOffers adapter address (fuel + 1) request cursor found =
          collectOffers adapter address fuel (request + 1) (some (offerKey item))
            (found ++ pageOf offerKey (listing request).offers offerPageLimit cursor true) := by
  obtain ⟨response, hresponse, hrecords⟩ := hserves request offerPageLimit cursor
  simp only [collectOffers, hresponse, hrecords]
  split_ifs with hshort
  · exact Or.inl ⟨hshort, fun _ _ => rfl⟩
  · right
    -- a full page has a last offer, whose token is another one than the cursor
    cases hlast :
        (pageOf offerKey (listing request).offers offerPageLimit cursor true).getLast? with
    | none =>
      rw [List.getLast?_eq_none_iff] at hlast
      rw [hlast, List.length_nil] at hshort
      exact absurd (by decide) hshort
    | some item =>
      obtain ⟨htoken, -, hbelow⟩ := last_of_page hlast
      have hmoved : some (offerKey item) ≠ cursor := by
        rintro rfl
        exact lt_irrefl _ (hbelow _ rfl)
      refine ⟨item, rfl, fun fuel found => ?_⟩
      simp only [Option.bind_eq_bind, Option.bind_some, htoken, if_neg hmoved]

/-- The loop makes so many requests, and reads these offers. -/
structure Collects (adapter : Adapter Body) (address : String) (request : ℕ) (cursor : Option ℤ)
    (found : List (Offer Body)) (count : ℕ) (rest : List (Offer Body)) : Prop where
  ends : ∀ fuel, count ≤ fuel →
    collectOffers adapter address fuel request cursor found = some (.ok (found ++ rest))
  needs : ∀ fuel, fuel < count → collectOffers adapter address fuel request cursor found = none

/-- The last request. -/
theorem Collects.last {rest : List (Offer Body)}
    (hend : ∀ fuel, collectOffers adapter address (fuel + 1) request cursor found =
      some (.ok (found ++ rest))) :
    Collects adapter address request cursor found 1 rest where
  ends fuel hfuel := by
    rw [← Nat.sub_add_cancel hfuel]
    exact hend _
  needs fuel hfuel := by
    rw [Nat.lt_one_iff.mp hfuel]
    rfl

/-- A request before the others. -/
theorem Collects.more {page rest : List (Offer Body)} {next : Option ℤ} {count : ℕ}
    (h : Collects adapter address (request + 1) next (found ++ page) count rest)
    (hmore : ∀ fuel, collectOffers adapter address (fuel + 1) request cursor found =
      collectOffers adapter address fuel (request + 1) next (found ++ page)) :
    Collects adapter address request cursor found (count + 1) (page ++ rest) where
  ends fuel hfuel := by
    rw [← Nat.sub_add_cancel (Nat.one_le_of_lt hfuel), hmore, h.ends _ (by omega),
      List.append_assoc]
  needs fuel hfuel := by
    cases fuel with
    | zero => rfl
    | succ fuel =>
      rw [hmore]
      exact h.needs fuel (by omega)

theorem listings_succ (count : ℕ) : listings listing request (count + 1) =
    (listing request).offers :: listings listing (request + 1) count := by
  rw [listings, List.range'_succ, List.map_cons]
  rfl

/-- Below a cursor, the loop ends within as many pages. -/
theorem collectOffers_below (hserves : ServesOffers adapter address listing) {bound : ℕ}
    {token : ℤ} (hbound : token ≤ bound) (request : ℕ) (found : List (Offer Body)) :
    ∃ count rest, Walks offerKey offerPageLimit (listings listing request count) (some token)
        rest ∧
      Collects adapter address request (some token) found count rest := by
  induction bound generalizing token request found with
  | zero =>
    rcases collectOffers_succ hserves request (some token) with ⟨hshort, hend⟩ | ⟨item, hlast, -⟩
    · exact ⟨1, _, .last hshort, .last fun _ => hend _ _⟩
    · -- no offer has a token that is not positive
      obtain ⟨-, hpos, hbelow⟩ := last_of_page hlast
      have hlt := hbelow token rfl
      omega
  | succ bound ih =>
    rcases collectOffers_succ hserves request (some token) with
      ⟨hshort, hend⟩ | ⟨item, hlast, hmore⟩
    · exact ⟨1, _, .last hshort, .last fun _ => hend _ _⟩
    · obtain ⟨-, -, hbelow⟩ := last_of_page hlast
      have hnext : offerKey item ≤ bound := by
        have hlt := hbelow token rfl
        omega
      obtain ⟨count, rest, hwalks, hrest⟩ := ih hnext (request + 1)
        (found ++ pageOf offerKey (listing request).offers offerPageLimit (some token) true)
      have hall := Walks.more hlast hwalks
      rw [← listings_succ] at hall
      exact ⟨count + 1, _, hall, hrest.more fun _ => hmore _ _⟩

/-- The loop ends, and what it reads are the pages of a walk, one for each request. -/
theorem collectOffers_walks (hserves : ServesOffers adapter address listing) :
    ∃ count found, Walks offerKey offerPageLimit (listings listing 0 count) none found ∧
      Collects adapter address 0 none [] count found := by
  rcases collectOffers_succ hserves 0 none with ⟨hshort, hend⟩ | ⟨item, hlast, hmore⟩
  · exact ⟨1, _, .last hshort, .last fun _ => hend _ _⟩
  · obtain ⟨count, rest, hwalks, hrest⟩ := collectOffers_below hserves
      (Int.self_le_toNat (offerKey item)) 1
      ([] ++ pageOf offerKey (listing 0).offers offerPageLimit none true)
    have hall := Walks.more hlast hwalks
    rw [← listings_succ] at hall
    exact ⟨count + 1, _, hall, hrest.more fun _ => hmore _ _⟩

/-! ### The snapshot -/

theorem mem_listings {count : ℕ} {xs : List (Offer Body)} :
    xs ∈ listings listing 0 count ↔ ∃ request < count, xs = (listing request).offers := by
  simp [listings, eq_comm]

theorem Snapshot.of_walks {count : ℕ}
    (h : Walks offerKey offerPageLimit (listings listing 0 count) none found) :
    Snapshot listing count found where
  always := by
    intro key hopen
    apply h.mem_of_always _ nofun
    · intro xs hxs
      obtain ⟨request, hrequest, rfl⟩ := mem_listings.mp hxs
      exact hopen request hrequest
    · intro xs hxs
      obtain ⟨request, -, rfl⟩ := mem_listings.mp hxs
      exact (listing request).ascending
  once := by
    intro item hitem
    obtain ⟨xs, hxs, hmem⟩ := (h.mem_once hitem).1
    obtain ⟨request, hrequest, rfl⟩ := mem_listings.mp hxs
    exact ⟨request, hrequest, hmem⟩
  descends := by
    apply h.descends
    intro xs hxs
    obtain ⟨request, -, rfl⟩ := mem_listings.mp hxs
    exact (listing request).ascending

/-- A call that fails leaves the snapshot that was saved before. -/
theorem getOffers_error {service service' : DexService Body} {limit : ℤ} {refresh : Bool}
    {error : String} (h : getOffers adapter networkName service fuel address limit refresh =
      some (.error error, service')) : service' = service := by
  unfold getOffers syncOffersSnapshot at h
  split_ifs at h
  · simp only [Option.map_map, Option.map_eq_some_iff] at h
    obtain ⟨result, -, hresult⟩ := h
    cases result with
    | error error => exact (Prod.mk.inj hresult).2.symm
    | ok found => cases (Prod.mk.inj hresult).1
  · cases (Prod.mk.inj (Option.some.inj h)).1

/-- A refresh of the offers ends after so many requests, saves a snapshot of what was open at
them, and answers its newest offers, as does every later call that only reads. -/
theorem getOffers_snapshot (networkName : String) (service : DexService Body)
    (hserves : ServesOffers adapter address listing) :
    ∃ count found service', Snapshot listing count found ∧
      (∀ fuel limit, count ≤ fuel → getOffers adapter networkName service fuel address limit true =
        some (.ok (sliceUpTo limit found), service')) ∧
      (∀ fuel limit, fuel < count →
        getOffers adapter networkName service fuel address limit true = none) ∧
      ∀ adapter' fuel limit, getOffers adapter' networkName service' fuel address limit false =
        some (.ok (sliceUpTo limit found), service') := by
  obtain ⟨count, found, hwalks, hcollect⟩ := collectOffers_walks hserves
  have hread (limit : ℤ) : (service.datastore.saveOffers (networkName, address)
      (.list found)).getOffers (networkName, address) limit = sliceUpTo limit found := by
    rw [MemoryDataStore.getOffers, MemoryDataStore.saveOffers, Dict.get?_set, if_pos rfl]
    rfl
  refine ⟨count, found, { service with
    datastore := service.datastore.saveOffers (networkName, address) (.list found) },
    .of_walks hwalks, fun fuel limit hfuel => ?_, fun fuel limit hfuel => ?_,
    fun adapter' fuel limit => ?_⟩
  · rw [getOffers, if_pos rfl, syncOffersSnapshot, hcollect.ends fuel hfuel, ← hread]
    rfl
  · rw [getOffers, if_pos rfl, syncOffersSnapshot, hcollect.needs fuel hfuel]
    rfl
  · rw [getOffers, if_neg Bool.false_ne_true, hread]

def offerOf (id : ℕ) : Offer Unit := ⟨some id, some id, ()⟩

/-- One offer more than a page has. The newest is cancelled after the first request, and a new
one is placed. -/
def openIds (request : ℕ) : List ℕ :=
  if request = 0 then List.range' 1 201 else List.range' 1 200 ++ [300]

theorem openIds_sorted (request : ℕ) : (openIds request).Pairwise (· < ·) := by
  rw [openIds]
  split_ifs
  · exact List.pairwise_lt_range'
  · rw [List.pairwise_append]
    refine ⟨List.pairwise_lt_range', List.pairwise_singleton _ _, ?_⟩
    intro a ha b hb
    rw [List.mem_range'_1] at ha
    rw [List.mem_singleton.mp hb]
    omega

theorem openIds_pos {request id : ℕ} (h : id ∈ openIds request) : 0 < id := by
  rw [openIds] at h
  split_ifs at h
  · rw [List.mem_range'_1] at h
    omega
  · rcases List.mem_append.mp h with h | h
    · rw [List.mem_range'_1] at h
      omega
    · rw [List.mem_singleton.mp h]
      decide

def openOffers (request : ℕ) : OpenOffers Unit where
  offers := (openIds request).map offerOf
  token := by
    intro item hitem
    obtain ⟨id, hid, rfl⟩ := List.mem_map.mp hitem
    exact ⟨id, rfl, Int.natCast_pos.mpr (openIds_pos hid)⟩
  ascending := List.pairwise_map.mpr ((openIds_sorted request).imp Int.ofNat_lt.mpr)

def openAdapter : Adapter Unit where
  getOffers request _ limit cursor desc :=
    .ok (.list (pageOf offerKey (openOffers request).offers limit cursor desc))
  getAccountTrades _ _ _ _ _ := .ok (.list [])
  getTrades _ _ _ := .ok (.list [])
  getTradeAggregations _ _ _ _ _ _ _ := .ok (.list [])

/-- The first page is full, so that one request is not enough, and the snapshot has the oldest
offer, which is below it. -/
theorem getOffers_snapshot_pages : ∃ count found service', 1 < count ∧
    Snapshot openOffers count found ∧
    getOffers openAdapter "testnet" new count "G" 20 true =
      some (.ok (sliceUpTo 20 found), service') ∧
    ∃ item ∈ found, offerKey item = 1 := by
  have hserves : ServesOffers openAdapter "G" openOffers := fun _ _ _ => ⟨_, rfl, rfl⟩
  obtain ⟨count, found, service', hsnapshot, hends, -, -⟩ :=
    getOffers_snapshot "testnet" new hserves
  have hone : (getOffers openAdapter "testnet" new 1 "G" 20 true).isNone = true := by
    decide +kernel
  refine ⟨count, found, service', ?_, hsnapshot, hends count 20 le_rfl,
    hsnapshot.always 1 fun request _ => ⟨offerOf 1, List.mem_map_of_mem ?_, rfl⟩⟩
  · by_contra hcount
    rw [hends 1 20 (not_lt.mp hcount)] at hone
    exact Bool.false_ne_true hone
  · rw [openIds]
    split_ifs
    · exact List.mem_cons_self
    · exact List.mem_cons_self

end Fresnica.Python.Dex
