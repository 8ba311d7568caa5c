import Mathlib.Data.Nat.Notation
import Mathlib.Logic.Relation

/-!
# Searches that cut cycles on their path

A recursive check of a graph that may be cyclic keeps the keys it has passed on its
way, and accepts a node whose key is among them. It may accept a node that is not good,
as long as it is on the path; but with an empty path it accepts exactly the nodes that
reach good nodes only. The argument counts the edges of a walk: a node on the path was
checked for every shorter walk.

## Main definitions

* `KeyedGraph` — a graph with keys, where the nodes of a key are alike
* `KeyedGraph.Searches` — what a search checks at a node
* `KeyedGraph.Descends` — how a search goes on

## Main results

* `KeyedGraph.good_of_reaches` — an accepted node reaches good nodes only
* `KeyedGraph.accepts_iff` — if the search ends, no other node is rejected
-/

namespace Foundation

/-- A graph whose nodes may have keys; the nodes of one key are alike. -/
structure KeyedGraph (α κ : Type*) where
  next : α → List α
  key : α → Option κ
  good : α → Prop
  next_eq : ∀ {a b k}, key a = some k → key b = some k → next a = next b
  good_of : ∀ {a b k}, key a = some k → key b = some k → good a → good b

namespace KeyedGraph

variable {α κ : Type*} (G : KeyedGraph α κ)

/-- One edge. -/
def Edge (a b : α) : Prop := b ∈ G.next a

/-- The path once a node is entered. -/
def enter (path : List κ) (a : α) : List κ := (G.key a).elim path (· :: path)

/-- The key of the node is among those of the path. -/
def OnPath (path : List κ) (a : α) : Prop := ∃ k ∈ path, G.key a = some k

/-- The search accepts a node on the path, or a good one if it accepts all that follow. -/
def Searches (accepts : List κ → α → Prop) : Prop :=
  ∀ path a, accepts path a ↔
    G.OnPath path a ∨ G.good a ∧ ∀ b ∈ G.next a, accepts (G.enter path a) b

/-- From a node that is not on its path, the search goes on with those that follow. -/
def Descends (after before : List κ × α) : Prop :=
  after.2 ∈ G.next before.2 ∧ after.1 = G.enter before.1 before.2 ∧
    ¬ G.OnPath before.1 before.2

/-- All nodes within some edges are good. -/
def GoodWithin : ℕ → α → Prop
  | 0, a => G.good a
  | n + 1, a => G.good a ∧ ∀ b ∈ G.next a, GoodWithin n b

variable {G} {accepts : List κ → α → Prop} {a b : α} {k : κ} {n : ℕ} {path : List κ}

/-- Fewer edges reach less. -/
theorem GoodWithin.pred (h : G.GoodWithin (n + 1) a) : G.GoodWithin n a := by
  induction n generalizing a with
  | zero => exact h.1
  | succ n ih =>
    refine ⟨h.1, fun b hb => ?_⟩
    apply ih
    exact h.2 b hb

/-- What holds of one node of a key holds of all. -/
theorem GoodWithin.of_key (h : G.GoodWithin n a) (ha : G.key a = some k)
    (hb : G.key b = some k) : G.GoodWithin n b := by
  cases n with
  | zero => exact G.good_of ha hb h
  | succ n =>
    refine ⟨G.good_of ha hb h.1, ?_⟩
    rw [← G.next_eq ha hb]
    exact h.2

/-- An accepted node is good within any number of edges, if those of the path are. -/
theorem goodWithin_of_accepts (hsearch : G.Searches accepts) (n : ℕ)
    (hpath : ∀ k ∈ path, ∀ b, G.key b = some k → G.GoodWithin n b) (ha : accepts path a) :
    G.GoodWithin n a := by
  induction n generalizing path a with
  | zero =>
    rcases (hsearch path a).mp ha with ⟨k, hk, hkey⟩ | ⟨hgood, -⟩
    · exact hpath k hk a hkey
    · exact hgood
  | succ n ih =>
    rcases (hsearch path a).mp ha with ⟨k, hk, hkey⟩ | ⟨hgood, hnext⟩
    · exact hpath k hk a hkey
    have hpath' : ∀ k ∈ path, ∀ b, G.key b = some k → G.GoodWithin n b :=
      fun k hk b hb => (hpath k hk b hb).pred
    -- the node itself joins the path, and is good within fewer edges
    have hself : G.GoodWithin n a := ih hpath' ha
    refine ⟨hgood, fun b hb => ?_⟩
    apply ih _ (hnext b hb)
    intro k hk c hc
    unfold enter at hk
    cases hkey : G.key a with
    | none =>
      rw [hkey, Option.elim_none] at hk
      exact hpath' k hk c hc
    | some own =>
      rw [hkey, Option.elim_some] at hk
      rcases List.mem_cons.mp hk with rfl | hk
      · exact hself.of_key hkey hc
      · exact hpath' k hk c hc

/-- What a search accepts from the start reaches good nodes only. -/
theorem good_of_reaches (hsearch : G.Searches accepts) (ha : accepts [] a)
    (h : Relation.ReflTransGen G.Edge a b) : G.good b := by
  have hwithin : ∀ n, G.GoodWithin n a := fun n =>
    goodWithin_of_accepts hsearch n (fun k hk => absurd hk List.not_mem_nil) ha
  clear ha
  induction h using Relation.ReflTransGen.head_induction_on with
  | refl => exact hwithin 0
  | head hedge _ ih =>
    apply ih
    intro n
    exact (hwithin (n + 1)).2 _ hedge

/-- A search that ends accepts what reaches good nodes only, whatever its path. -/
theorem accepts_of_reaches (hsearch : G.Searches accepts) (hends : WellFounded G.Descends)
    (hgood : ∀ b, Relation.ReflTransGen G.Edge a b → G.good b) : accepts path a := by
  induction hstate : (path, a) using hends.induction generalizing path a with
  | _ state ih =>
    subst hstate
    rw [hsearch]
    by_cases hpath : G.OnPath path a
    · exact Or.inl hpath
    refine Or.inr ⟨hgood a .refl, fun b hb => ?_⟩
    apply ih (G.enter path a, b) ⟨hb, rfl, hpath⟩ _ rfl
    intro c hc
    exact hgood c (.head hb hc)

theorem accepts_iff (hsearch : G.Searches accepts) (hends : WellFounded G.Descends) :
    accepts [] a ↔ ∀ b, Relation.ReflTransGen G.Edge a b → G.good b :=
  ⟨fun h _ => good_of_reaches hsearch h, accepts_of_reaches hsearch hends⟩

end KeyedGraph

end Foundation
