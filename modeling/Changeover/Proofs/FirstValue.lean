import Changeover.Snapshot

/-!
# First values

`Query.First name ps v`: `v` is the value of the first of the parameters `ps` that is called `name`.
`Query.FirstPiece name s v` says the same of a query string `s` that has not been read yet: of its
pieces between `&`s, the first that is not empty and whose name reads as `name` has a value that reads
as `v`. Look-ups find exactly these values: `first?_eq_some_iff`, `first_parse_iff` and, on a
snapshot, `parameter?_eq_some_iff`.
-/

namespace Changeover

open Text

namespace Query

variable {name v w s : List Char} {ps : List Pair}

/-- `v` is the value of the first parameter called `name`. -/
def First (name : List Char) (ps : List Pair) (v : List Char) : Prop :=
  ∃ a b, ps = a ++ (name, v) :: b ∧ ∀ p ∈ a, p.1 ≠ name

/-- The first piece of `s` that is not empty and whose name reads as `name` has a value that reads as
`v`. -/
def FirstPiece (name s v : List Char) : Prop :=
  ∃ a p b, s.splitOn '&' = a ++ p :: b ∧ p ≠ [] ∧ decodePart (before '=' p) = name ∧
    decodePart (after '=' p) = v ∧ ∀ q ∈ a, q ≠ [] → decodePart (before '=' q) ≠ name

theorem first?_eq_some_iff : first? name ps = some v ↔ First name ps v := by
  rw [first?, Option.map_eq_some_iff]
  constructor
  · rintro ⟨⟨n, u⟩, hp, rfl⟩
    obtain ⟨hn, a, b, hab, ha⟩ := List.find?_eq_some_iff_append.1 hp
    obtain rfl : n = name := by simpa using hn
    exact ⟨a, b, hab, fun q hq => by simpa using ha q hq⟩
  · rintro ⟨a, b, rfl, ha⟩
    exact ⟨(name, v), List.find?_eq_some_iff_append.2
      ⟨by simp, a, b, rfl, fun q hq => by simpa using ha q hq⟩, rfl⟩

theorem mentions_iff : mentions name ps = true ↔ ∃ v, (name, v) ∈ ps := by
  simp [mentions]

theorem First.unique (hv : First name ps v) (hw : First name ps w) : v = w :=
  Option.some.inj ((first?_eq_some_iff.2 hv).symm.trans (first?_eq_some_iff.2 hw))

/-- Reading keeps the order of the pieces and drops the empty ones only. -/
theorem first_parse_iff : First name (parse s) v ↔ FirstPiece name s v := by
  constructor
  · rintro ⟨a, b, hab, ha⟩
    obtain ⟨l, r, hlr, rfl, hr⟩ := List.map_eq_append_iff.1 hab
    obtain ⟨p, r, rfl, hp, rfl⟩ := List.map_eq_cons_iff.1 hr
    obtain ⟨x, y, hxy, rfl, hy⟩ := List.filter_eq_append_iff.1 hlr
    obtain ⟨e, z, rfl, he, hp', -⟩ := List.filter_eq_cons_iff.1 hy
    obtain ⟨hn, hv⟩ := Prod.mk.inj hp
    refine ⟨x ++ e, p, z, by rw [hxy, List.append_assoc], by simpa using hp', hn, hv, ?_⟩
    intro q hq hne
    rcases List.mem_append.1 hq with hq | hq
    · exact ha _ (List.mem_map_of_mem (List.mem_filter.2 ⟨hq, by simpa using hne⟩))
    · exact absurd (he q hq) (by simpa using hne)
  · rintro ⟨a, p, b, hs, hp, rfl, rfl, ha⟩
    have hk : (p :: b).filter (!·.isEmpty) = p :: b.filter (!·.isEmpty) :=
      List.filter_cons_of_pos (by simpa using hp)
    refine ⟨(a.filter (!·.isEmpty)).map piece, (b.filter (!·.isEmpty)).map piece, ?_, ?_⟩
    · rw [parse, hs, List.filter_append, hk, List.map_append, List.map_cons]
      rfl
    · intro e he
      obtain ⟨q, hq, rfl⟩ := List.mem_map.1 he
      obtain ⟨hq, hne⟩ := List.mem_filter.1 hq
      exact ha q hq (by simpa using hne)

instance : Decidable (FirstPiece name s v) :=
  decidable_of_iff _ (first?_eq_some_iff.trans first_parse_iff)

theorem FirstPiece.unique (hv : FirstPiece name s v) (hw : FirstPiece name s w) : v = w :=
  (first_parse_iff.2 hv).unique (first_parse_iff.2 hw)

end Query

theorem Snapshot.parameter?_eq_some_iff {a : Snapshot} {name w : String} :
    a.parameter? name = some w ↔
      Query.FirstPiece name.toList a.queryString.toList w.toList := by
  rw [← Query.first_parse_iff, ← Query.first?_eq_some_iff, Snapshot.parameter?, Snapshot.parameters,
    Option.map_eq_some_iff]
  constructor
  · rintro ⟨v, hv, rfl⟩
    rwa [String.toList_ofList]
  · intro h
    exact ⟨w.toList, h, String.ofList_toList⟩

end Changeover
