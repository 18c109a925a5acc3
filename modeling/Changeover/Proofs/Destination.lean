import Changeover.Proofs.RuleTable

/-!
# What destinations look like

A destination is `https://`, the host of the new site, an escaped path and a query, with nothing
between host and path. So it lies on the new site exactly if the path begins with a slash
(`onNewSite_iff`). The path of every request target does, and there the destination is the one of the
table, written so that both of its parts read back (`ofUrl_follows_table`); a URL without an authority
can have a path that begins otherwise and then runs on in the host (`ofUrl_leaves_new_site`).
-/

namespace Changeover

open Text

namespace Url

theorem keptInPath_keepable : Percent.Keepable keptInPath := by
  intro c h
  rcases Bool.or_eq_true_iff.1 h with h | h
  · exact Query.unreserved_keepable c h
  · have : "/:@!$&'()*+,;=".toList.all (fun x => x.toNat < 128 ∧ x ≠ '%') = true := by decide
    exact of_decide_eq_true (List.all_eq_true.1 this c (List.contains_iff_mem.1 h))

theorem decode_escapePath (path : List Char) : Percent.decode (escapePath path) = path :=
  Percent.decode_encode keptInPath_keepable path

theorem not_mem_escapePath {c : Char} (hk : keptInPath c = false) (hp : c ≠ '%')
    (hd : ∀ n : Fin 16, c ≠ Hex.upper n) (path : List Char) : c ∉ escapePath path := by
  intro h
  rcases Percent.encode_chars h with h | h | ⟨n, hn, h⟩
  · exact absurd h (by simp [hk])
  · exact hp h
  · exact hd ⟨n, hn⟩ h

theorem head?_escapePath_eq_slash (path : List Char) :
    (escapePath path).head? = some '/' ↔ path.head? = some '/' := by
  cases path with
  | nil => rfl
  | cons c r =>
    rw [escapePath, Percent.head?_encode_cons, List.head?_cons, Option.some_inj, Option.some_inj]
    constructor
    · intro h
      split at h
      · exact h
      · exact absurd h (by decide)
    · rintro rfl
      rfl

end Url

namespace Rule.Row

variable {query extra : List Query.Pair} {path path' : List Char}

theorem head?_eq_slash (h : Row query path path' extra) :
    path'.head? = some '/' ↔ path.head? = some '/' ∨ Vendored path := by
  cases h with
  | vendored hv => exact ⟨fun _ => .inr hv, fun _ => rfl⟩
  | stdlib | about | search | root | subrepo => exact ⟨fun _ => .inl rfl, fun _ => rfl⟩
  | package hv => exact ⟨.inl, fun h => h.resolve_right hv⟩

/-- A page gets at most one parameter, and its name comes before that of the tag. -/
theorem extra_cases (h : Row query path path' extra) :
    extra = [] ∨ ∃ k v, extra = [(k, v)] ∧ k < "utm_source".toList := by
  have htab : "tab".toList < "utm_source".toList := by decide
  have hq : "q".toList < "utm_source".toList := by decide
  cases h with
  | vendored | about | root => exact .inl rfl
  | stdlib | package => exact .inr ⟨_, _, rfl, htab⟩
  | search | subrepo => exact .inr ⟨_, _, rfl, hq⟩

end Rule.Row

namespace Destination

variable {s : Settings} {url : List Char}

/-- The URL is one of the new site: its host is the whole name and nothing else. -/
def OnNewSite (s : Settings) (url : List Char) : Prop :=
  "https://".toList ++ s.newSiteHost.toList ++ ['/'] <+: url

theorem row_page (url : List Char) : Rule.Row (queryOf url) (pathOf url) (page url).1 (page url).2 :=
  Rule.row_target (queryOf url) (pathOf url)

theorem ofUrl_eq (s : Settings) (url : List Char) :
    ofUrl s url = "https://".toList ++ s.newSiteHost.toList ++
      (Url.escapePath (page url).1 ++ '?' :: Query.render (tagged s (page url).2)) :=
  List.append_assoc ..

/-- The destination of a URL lies on the new site exactly if the decoded path of the URL begins with
a slash or leads into a vendored package. -/
theorem onNewSite_iff (s : Settings) (url : List Char) :
    OnNewSite s (ofUrl s url) ↔ (pathOf url).head? = some '/' ∨ Rule.Vendored (pathOf url) := by
  rw [← (row_page url).head?_eq_slash, ← Url.head?_escapePath_eq_slash, OnNewSite, ofUrl_eq,
    List.prefix_append_right_inj]
  cases Url.escapePath (page url).1 with
  | nil => simp
  | cons c r => simp [eq_comm]

/-- The path of a URL that is only a name runs on in the host. -/
theorem ofUrl_leaves_new_site :
    ({} : Settings).Accepted ∧
      ofUrl {} "@example.org".toList = "https://pkg.go.dev@example.org?tab=doc&utm_source=godoc".toList ∧
      ¬ OnNewSite {} (ofUrl {} "@example.org".toList) := by
  have hpath : pathOf "@example.org".toList = "@example.org".toList := by decide
  refine ⟨rfl, by decide +kernel, ?_⟩
  rw [onNewSite_iff, hpath, ← Rule.isVendored_iff]
  decide

theorem splitTarget_slash (rest : List Char) :
    splitTarget ('/' :: rest) =
      (before '?' (before '#' ('/' :: rest)), after '?' (before '#' ('/' :: rest))) := rfl

theorem decode_slash (rest : List Char) :
    Percent.decode (before '?' (before '#' ('/' :: rest))) =
      '/' :: Percent.decode (before '?' (before '#' rest)) :=
  Percent.decode_cons (by decide) (by decide) _

theorem pathOf_slash (rest : List Char) :
    pathOf ('/' :: rest) = Percent.decode (before '?' (before '#' ('/' :: rest))) := by
  rw [pathOf, splitTarget_slash, decode_slash]
  rfl

theorem head?_pathOf_slash (rest : List Char) : (pathOf ('/' :: rest)).head? = some '/' := by
  rw [pathOf_slash, decode_slash]
  rfl

/-- The destination of a request target is the one of the table. Its path ends where the query begins
and reads back as the new path; its query reads back as the new parameters and the tag, in the order
of their names. -/
theorem ofUrl_follows_table (s : Settings) (rest : List Char) :
    ∃ path extra written query,
      (∀ path' extra', Rule.Row (Query.parse (after '?' (before '#' ('/' :: rest))))
        (Percent.decode (before '?' (before '#' ('/' :: rest)))) path' extra' ↔
          path' = path ∧ extra' = extra) ∧
      ofUrl s ('/' :: rest) =
        "https://".toList ++ s.newSiteHost.toList ++ (written ++ '?' :: query) ∧
      written.head? = some '/' ∧ '?' ∉ written ∧ '#' ∉ written ∧ Percent.decode written = path ∧
      Query.parse query = extra ++ [("utm_source".toList, s.attributionSource.toList)] ∧
      (Query.parse query).Pairwise (·.1 < ·.1) := by
  have hrow := row_page ('/' :: rest)
  have hread : Query.parse (Query.render (tagged s (page ('/' :: rest)).2)) =
      (page ('/' :: rest)).2 ++ [("utm_source".toList, s.attributionSource.toList)] :=
    Query.parse_render _
  refine ⟨(page ('/' :: rest)).1, (page ('/' :: rest)).2, Url.escapePath (page ('/' :: rest)).1,
    Query.render (tagged s (page ('/' :: rest)).2), ?_, ofUrl_eq s _, ?_, ?_, ?_,
    Url.decode_escapePath _, hread, ?_⟩
  · intro path' extra'
    rw [← pathOf_slash]
    constructor
    · exact fun h => h.unique hrow
    · rintro ⟨rfl, rfl⟩
      exact hrow
  · exact (Url.head?_escapePath_eq_slash _).2 (hrow.head?_eq_slash.2 (.inl (head?_pathOf_slash rest)))
  · exact Url.not_mem_escapePath (by decide) (by decide) (by decide) _
  · exact Url.not_mem_escapePath (by decide) (by decide) (by decide) _
  · rw [hread]
    rcases hrow.extra_cases with h | ⟨k, v, h, hk⟩
    · rw [h]
      exact List.pairwise_singleton _ _
    · rw [h]
      exact List.pairwise_pair.2 hk

end Destination

end Changeover
