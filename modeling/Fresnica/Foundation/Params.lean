import Mathlib.Data.List.Nodup
import Mathlib.Data.List.Basic

/-!
# Parameters with names

A request carries a list of names with values in which a name may come more than once. A
reader that takes one value of a name may take any of them, so a parameter is bound only
when its name comes exactly once.

## Main definitions

* `ExactlyOnce` — a name comes once, with the given value
* `Binds` — some parameters come once, and so do all others that have no name of theirs

## Main results

* `exactlyOnce_of_nodup` — names that differ come once each
* `binds_iff` — when parameters that are put behind others are bound
-/

namespace Foundation.Params

variable {κ ν : Type}

def names (params : List (κ × ν)) : List κ := params.map Prod.fst

/-- No entry has a name of the fixed parameters, and what stands before them has neither. -/
structure Apart (before fixed entries : List (κ × ν)) : Prop where
  reserved : ∀ name ∈ names entries, name ∉ names fixed
  before_fixed : ∀ name ∈ names before, name ∉ names fixed
  before_entries : ∀ name ∈ names before, name ∉ names entries

variable [DecidableEq κ]

/-- The parameters of a name. -/
def named (params : List (κ × ν)) (name : κ) : List (κ × ν) := params.filter (·.1 = name)

def ExactlyOnce (params : List (κ × ν)) (name : κ) (value : ν) : Prop :=
  named params name = [(name, value)]

/-- The fixed parameters come once, and so does every entry of another name. -/
structure Binds (params fixed entries : List (κ × ν)) : Prop where
  of_fixed : ∀ name value, (name, value) ∈ fixed → ExactlyOnce params name value
  of_entries : ∀ name value, (name, value) ∈ entries → name ∉ names fixed →
    ExactlyOnce params name value

variable {params before fixed entries first second : List (κ × ν)} {name : κ} {value : ν}

omit [DecidableEq κ] in
theorem mem_names : name ∈ names params ↔ ∃ value, (name, value) ∈ params := by
  simp [names]

omit [DecidableEq κ] in
theorem mem_names_append :
    name ∈ names (first ++ second) ↔ name ∈ names first ∨ name ∈ names second := by
  rw [names, List.map_append, List.mem_append, names, names]

theorem named_append (first second : List (κ × ν)) (name : κ) :
    named (first ++ second) name = named first name ++ named second name :=
  List.filter_append first second

theorem named_eq_nil_iff : named params name = [] ↔ name ∉ names params := by
  rw [named, List.filter_eq_nil_iff, mem_names]
  constructor
  · intro h hmem
    obtain ⟨value, hmem⟩ := hmem
    exact h _ hmem (decide_eq_true rfl)
  · intro h param hparam hname
    exact h ⟨param.2, of_decide_eq_true hname ▸ hparam⟩

/-- Names that differ come once each. -/
theorem exactlyOnce_of_nodup (hnodup : (names params).Nodup) (h : (name, value) ∈ params) :
    ExactlyOnce params name value := by
  induction params with
  | nil => exact absurd h List.not_mem_nil
  | cons param params ih =>
    rw [names, List.map_cons, List.nodup_cons] at hnodup
    rcases List.mem_cons.mp h with heq | hmem
    · subst heq
      have hrest : named params name = [] := named_eq_nil_iff.mpr hnodup.1
      have hfirst : named ((name, value) :: params) name = (name, value) :: named params name :=
        List.filter_cons_of_pos (decide_eq_true rfl)
      rw [ExactlyOnce, hfirst, hrest]
    · have hne : ¬ param.1 = name := by
        intro heq
        apply hnodup.1
        rw [heq]
        exact mem_names.mpr ⟨value, hmem⟩
      rw [ExactlyOnce, named, List.filter_cons_of_neg (by simpa using hne)]
      exact ih hnodup.2 hmem

/-- A name that comes in two parts does not come once. -/
theorem not_exactlyOnce_append (hfirst : name ∈ names first) (hsecond : name ∈ names second) :
    ¬ ExactlyOnce (first ++ second) name value := by
  intro h
  have hlength := congrArg List.length h
  rw [named_append, List.length_append, List.length_singleton] at hlength
  have hone : named first name ≠ [] := fun hnil => named_eq_nil_iff.mp hnil hfirst
  have htwo : named second name ≠ [] := fun hnil => named_eq_nil_iff.mp hnil hsecond
  have := List.length_pos_iff.mpr hone
  have := List.length_pos_iff.mpr htwo
  omega

theorem exactlyOnce_append_left (h : name ∉ names first) :
    ExactlyOnce (first ++ second) name value ↔ ExactlyOnce second name value := by
  rw [ExactlyOnce, named_append, named_eq_nil_iff.mpr h, List.nil_append, ExactlyOnce]

theorem exactlyOnce_append_right (h : name ∉ names second) :
    ExactlyOnce (first ++ second) name value ↔ ExactlyOnce first name value := by
  rw [ExactlyOnce, named_append, named_eq_nil_iff.mpr h, List.append_nil, ExactlyOnce]

theorem Binds.apart (h : Binds (before ++ (fixed ++ entries)) fixed entries) :
    Apart before fixed entries := by
  have hreserved : ∀ name ∈ names entries, name ∉ names fixed := by
    intro name hentry hfixed
    obtain ⟨value, hmem⟩ := mem_names.mp hfixed
    have honce := h.of_fixed name value hmem
    rw [← List.append_assoc] at honce
    exact not_exactlyOnce_append (mem_names_append.mpr (Or.inr hfixed)) hentry honce
  refine ⟨hreserved, ?_, ?_⟩
  · intro name hbefore hfixed
    obtain ⟨value, hmem⟩ := mem_names.mp hfixed
    exact not_exactlyOnce_append hbefore (mem_names_append.mpr (Or.inl hfixed))
      (h.of_fixed name value hmem)
  · intro name hbefore hentry
    obtain ⟨value, hmem⟩ := mem_names.mp hentry
    exact not_exactlyOnce_append hbefore (mem_names_append.mpr (Or.inr hentry))
      (h.of_entries name value hmem (hreserved name hentry))

theorem Apart.binds (h : Apart before fixed entries) (hfixed : (names fixed).Nodup)
    (hentries : (names entries).Nodup) :
    Binds (before ++ (fixed ++ entries)) fixed entries := by
  constructor
  · intro name value hmem
    have hname := mem_names.mpr ⟨value, hmem⟩
    rw [exactlyOnce_append_left fun hbefore => h.before_fixed name hbefore hname,
      exactlyOnce_append_right fun hentry => h.reserved name hentry hname]
    exact exactlyOnce_of_nodup hfixed hmem
  · intro name value hmem hother
    have hname := mem_names.mpr ⟨value, hmem⟩
    rw [exactlyOnce_append_left fun hbefore => h.before_entries name hbefore hname,
      exactlyOnce_append_left hother]
    exact exactlyOnce_of_nodup hentries hmem

/-- Parameters that differ among themselves are bound behind others exactly when all of
them are apart. -/
theorem binds_iff (before : List (κ × ν)) (hfixed : (names fixed).Nodup)
    (hentries : (names entries).Nodup) :
    Binds (before ++ (fixed ++ entries)) fixed entries ↔ Apart before fixed entries :=
  ⟨Binds.apart, fun h => h.binds hfixed hentries⟩

end Foundation.Params
