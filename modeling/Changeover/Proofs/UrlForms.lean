import Changeover.Proofs.AbsoluteTarget

/-!
# Old URLs with and without a host

An old URL may be absolute or only a target that begins with a slash, and the two are cut by different rules: an
absolute one as any URL, a target at its marks. The rules agree: behind its scheme and its authority an absolute
URL is cut where its target is, once tabs and line ends are left out of that (`splitTarget_absolute`). So both lead
to one destination (`ofUrl_absolute`).
-/

namespace Changeover

open Text

theorem Text.before_filter {p : Char → Bool} {c : Char} (hc : p c = true) (s : List Char) :
    before c (s.filter p) = (before c s).filter p := by
  induction s with
  | nil => rfl
  | cons x s ih =>
    by_cases hx : x = c
    · subst hx
      simp [before, hc]
    · by_cases hp : p x = true
      · simpa [before, hx, hp] using ih
      · simpa [before, hx, hp] using ih

namespace Destination

open Url

variable {scheme host target : List Char}

/-- The URL of a scheme, an authority and a target. -/
def absolute (scheme host target : List Char) : List Char := scheme ++ "://".toList ++ (host ++ target)

theorem before_absolute (hs : isScheme scheme = true) (hh : ∀ c ∈ host, InAuthority c)
    (target : List Char) :
    before '#' (absolute scheme host target) = absolute scheme host (before '#' target) := by
  have hhash : '#' ∉ scheme ++ "://".toList ++ host := by
    simp only [List.mem_append, not_or]
    refine ⟨⟨fun h => ?_, by decide⟩, fun h => absurd (hh _ h) (by decide)⟩
    exact absurd (isSchemeChar_of_isScheme hs _ h) (by decide)
  rw [absolute, ← List.append_assoc, before_append_of_not_mem hhash, List.append_assoc, absolute]

theorem head?_absolute (hs : isScheme scheme = true) (host target : List Char) :
    (absolute scheme host target).head? ≠ some '/' := by
  cases scheme with
  | nil => cases hs
  | cons a r =>
    intro h
    obtain rfl : a = '/' := Option.some.inj h
    exact absurd (isSchemeChar_of_isScheme hs '/' List.mem_cons_self) (by decide)

/-- An absolute URL is cut where its target is, tabs and line ends left out. -/
theorem splitTarget_absolute (hs : isScheme scheme = true) (hh : ∀ c ∈ host, InAuthority c)
    (ht : target.head? = some '/') :
    splitTarget (absolute scheme host target) = splitTarget (target.filter isKept) := by
  obtain ⟨t, rfl⟩ := List.head?_eq_some_iff.1 ht
  -- the fragment is cut off first, and what is left is a target again
  have hslash : (before '#' ('/' :: t)).head? = some '/' := rfl
  obtain ⟨parts, hsplit, -, hpath, hquery⟩ := split_absolute hs (checkAuthority_of_inAuthority hh)
    (fun c hc => ⟨(hh c hc).isKept, (hh c hc).2.2.1⟩) hslash
  have hcut : before '#' ((before '#' ('/' :: t)).filter isKept) = before '#' (('/' :: t).filter isKept) := by
    rw [before_filter (by decide), before_filter (by decide), before_eq_self (not_mem_before _ _)]
  have hfirst := beq_false_of_ne (head?_absolute hs host (before '#' ('/' :: t)))
  have hkept : (('/' :: t).filter isKept).head? = some '/' := rfl
  rw [splitTarget_of_slash hkept, splitTarget]
  simp only [before_absolute hs hh, hfirst, Bool.false_eq_true, if_false]
  rw [absolute, hsplit]
  simp only [hpath, hquery, cut, hcut]

/-- An absolute URL whose target holds no tab and no line end leads where the target alone leads. Its path and its
query are those of the target: the first `#` ends both, and the first `?` before it divides them. -/
theorem ofUrl_absolute (hs : isScheme scheme = true) (hh : ∀ c ∈ host, InAuthority c)
    (ht : target.head? = some '/') (hk : ∀ c ∈ target, isKept c = true) :
    pathOf (absolute scheme host target) = Percent.decode (before '?' (before '#' target)) ∧
      queryOf (absolute scheme host target) = Query.parse (after '?' (before '#' target)) ∧
      ∀ s, ofUrl s (absolute scheme host target) = ofUrl s target := by
  have hsplit := splitTarget_absolute hs hh ht
  rw [List.filter_eq_self.2 hk] at hsplit
  have hpath : pathOf (absolute scheme host target) = pathOf target := by rw [pathOf, hsplit, pathOf]
  have hquery : queryOf (absolute scheme host target) = queryOf target := by rw [queryOf, hsplit, queryOf]
  refine ⟨?_, ?_, fun s => ?_⟩
  · obtain ⟨t, rfl⟩ := List.head?_eq_some_iff.1 ht
    rw [hpath, pathOf_slash]
  · rw [hquery, queryOf, splitTarget_of_slash ht]
  · rw [ofUrl_eq, ofUrl_eq, page, page, hpath, hquery]

/-- A target that begins with two slashes, holds a colon and an `@` in its path and goes on after a second `?`
and a `#`, behind an authority with a user and a port. -/
theorem ofUrl_absolute_doubledSlash :
    isScheme "git+https".toList = true ∧ (∀ c ∈ "user:pw@godoc.org:8080".toList, InAuthority c) ∧
      "//a:b@c/x?imports&y?#z?q=1".toList.head? = some '/' ∧
      (∀ c ∈ "//a:b@c/x?imports&y?#z?q=1".toList, isKept c = true) ∧
      absolute "git+https".toList "user:pw@godoc.org:8080".toList "//a:b@c/x?imports&y?#z?q=1".toList =
        "git+https://user:pw@godoc.org:8080//a:b@c/x?imports&y?#z?q=1".toList ∧
      pathOf "git+https://user:pw@godoc.org:8080//a:b@c/x?imports&y?#z?q=1".toList = "//a:b@c/x".toList ∧
      ofUrl {} "git+https://user:pw@godoc.org:8080//a:b@c/x?imports&y?#z?q=1".toList =
        ofUrl {} "//a:b@c/x?imports&y?#z?q=1".toList ∧
      ofUrl {} "//a:b@c/x?imports&y?#z?q=1".toList =
        "https://pkg.go.dev//a:b@c/x?tab=imports&utm_source=godoc".toList := by
  have hs : isScheme "git+https".toList = true := by decide
  have hh : ∀ c ∈ "user:pw@godoc.org:8080".toList, InAuthority c := forall_of_all (by decide)
  have hk : ∀ c ∈ "//a:b@c/x?imports&y?#z?q=1".toList, isKept c = true := forall_of_all (by decide)
  have hurl : absolute "git+https".toList "user:pw@godoc.org:8080".toList
      "//a:b@c/x?imports&y?#z?q=1".toList =
        "git+https://user:pw@godoc.org:8080//a:b@c/x?imports&y?#z?q=1".toList := by decide +kernel
  obtain ⟨hpath, -, hdestination⟩ := ofUrl_absolute hs hh rfl hk
  rw [hurl] at hpath hdestination
  refine ⟨hs, hh, rfl, hk, hurl, hpath.trans ?_, hdestination {}, by decide +kernel⟩
  decide +kernel

end Destination

end Changeover
