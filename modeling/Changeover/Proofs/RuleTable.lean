import Changeover.Destination
import Changeover.Proofs.FirstValue

/-!
# The table of the mapping

`Rule.Row query path path' extra` is the mapping as a table: the old page `path`, asked for with the
parameters `query`, lives at `path'` with the parameters `extra`. The rows do not mention the order in
which rules are tried; a path with a vendored package has its row and no other. The rules follow the
table (`row_target`), and no path has two rows (`Row.unique`).
-/

namespace Changeover.Rule

open Text

variable {query : List Query.Pair} {path : List Char}

/-- A path that leads into a vendored package. -/
def Vendored (path : List Char) : Prop :=
  "/vendor/".toList <:+: path ∨ "/vendor".toList <:+ path

/-- The pages that have a row of their own. -/
def listed : List (List Char) :=
  ["/-/go".toList, "/-/about".toList, "/".toList, "/-/subrepo".toList]

/-- The tab of a package page: a parameter counts as soon as it is there, whatever its value. -/
inductive Tab (query : List Query.Pair) : List Char → Prop
  | imports : (∃ v, ("imports".toList, v) ∈ query) → Tab query "imports".toList
  | importers : (¬ ∃ v, ("imports".toList, v) ∈ query) → (∃ v, ("importers".toList, v) ∈ query) →
      Tab query "importedby".toList
  | doc : (¬ ∃ v, ("imports".toList, v) ∈ query) → (¬ ∃ v, ("importers".toList, v) ∈ query) →
      Tab query "doc".toList

/-- The old page, its path on the new site and the parameters it gets there. -/
inductive Row (query : List Query.Pair) : List Char → List Char → List Query.Pair → Prop
  | vendored {path : List Char} : Vendored path → Row query path "/".toList []
  | stdlib : Row query "/-/go".toList "/std".toList [("tab".toList, "packages".toList)]
  | about : Row query "/-/about".toList "/about".toList []
  | search {v : List Char} : Query.First "q".toList query v → v ≠ [] →
      Row query "/".toList "/search".toList [("q".toList, v)]
  | root : (∀ v, Query.First "q".toList query v → v = []) → Row query "/".toList "/".toList []
  | subrepo : Row query "/-/subrepo".toList "/search".toList [("q".toList, "golang.org/x".toList)]
  | package {path tab : List Char} : ¬ Vendored path → path ∉ listed → Tab query tab →
      Row query path path [("tab".toList, tab)]

theorem isVendored_iff : isVendored path = true ↔ Vendored path := by
  rw [isVendored, Bool.or_eq_true, occursIn_iff, List.isSuffixOf_iff_suffix, Vendored]

theorem not_mem_listed :
    path ∉ listed ↔ path ≠ "/-/go".toList ∧ path ≠ "/-/about".toList ∧ path ≠ "/".toList ∧
      path ≠ "/-/subrepo".toList := by
  simp only [listed, List.mem_cons, List.not_mem_nil, or_false, not_or, ne_eq]

theorem Tab.unique {t t' : List Char} (h : Tab query t) (h' : Tab query t') : t = t' := by
  cases h <;> cases h' <;> first | rfl | contradiction

theorem tab_tab (query : List Query.Pair) : Tab query (tab query) := by
  unfold tab
  by_cases hi : ∃ v, ("imports".toList, v) ∈ query
  · rw [if_pos (Query.mentions_iff.2 hi)]
    exact .imports hi
  rw [if_neg (mt Query.mentions_iff.1 hi)]
  by_cases hj : ∃ v, ("importers".toList, v) ∈ query
  · rw [if_pos (Query.mentions_iff.2 hj)]
    exact .importers hi hj
  · rw [if_neg (mt Query.mentions_iff.1 hj)]
    exact .doc hi hj

theorem row_searchTarget (query : List Query.Pair) :
    Row query "/".toList (searchTarget query).1 (searchTarget query).2 := by
  unfold searchTarget
  split
  · next c r h => exact .search (Query.first?_eq_some_iff.1 h) (List.cons_ne_nil c r)
  · next h =>
    refine .root fun v hv => ?_
    cases v with
    | nil => rfl
    | cons c r => exact absurd (Query.first?_eq_some_iff.2 hv) (h c r)

/-- The first rule that takes a path gives what the row of the path says. -/
theorem row_target (query : List Query.Pair) (path : List Char) :
    Row query path ((ofPath path).target path query).1 ((ofPath path).target path query).2 := by
  unfold ofPath
  by_cases hv : isVendored path = true
  · rw [if_pos hv]
    exact .vendored (isVendored_iff.1 hv)
  rw [if_neg hv]
  by_cases hg : path = "/-/go".toList
  · rw [if_pos hg, hg]
    exact .stdlib
  rw [if_neg hg]
  by_cases ha : path = "/-/about".toList
  · rw [if_pos ha, ha]
    exact .about
  rw [if_neg ha]
  by_cases hr : path = "/".toList
  · rw [if_pos hr, hr]
    exact row_searchTarget query
  rw [if_neg hr]
  by_cases hs : path = "/-/subrepo".toList
  · rw [if_pos hs, hs]
    exact .subrepo
  rw [if_neg hs]
  exact .package (mt isVendored_iff.2 hv) (not_mem_listed.2 ⟨hg, ha, hr, hs⟩) (tab_tab query)

theorem Row.target_eq {path' : List Char} {extra : List Query.Pair}
    (h : Row query path path' extra) : (ofPath path).target path query = (path', extra) := by
  cases h with
  | vendored hv =>
    rw [ofPath, if_pos (isVendored_iff.2 hv)]
    rfl
  | stdlib => rfl
  | about => rfl
  | search hv hne =>
    obtain ⟨c, r, rfl⟩ := List.exists_cons_of_ne_nil hne
    show searchTarget query = _
    rw [searchTarget, Query.first?_eq_some_iff.2 hv]
  | root hv =>
    show searchTarget query = _
    unfold searchTarget
    split
    · next c r h => exact absurd (hv _ (Query.first?_eq_some_iff.1 h)) (List.cons_ne_nil c r)
    · rfl
  | subrepo => rfl
  | package hv hl ht =>
    obtain ⟨hg, ha, hr, hs⟩ := not_mem_listed.1 hl
    rw [ofPath, if_neg (mt isVendored_iff.1 hv), if_neg hg, if_neg ha, if_neg hr, if_neg hs,
      ht.unique (tab_tab query)]
    rfl

theorem Row.unique {path₁ path₂ : List Char} {extra₁ extra₂ : List Query.Pair}
    (h₁ : Row query path path₁ extra₁) (h₂ : Row query path path₂ extra₂) :
    path₁ = path₂ ∧ extra₁ = extra₂ :=
  Prod.mk.inj (h₁.target_eq.symm.trans h₂.target_eq)

end Changeover.Rule
