import Changeover.Proofs.DecisionLaw
import Changeover.Proofs.Destination

/-!
# The URI of a request

A snapshot writes its path and its query as one text, and others depend on where that text is cut: whoever reads
it back, the split for a destination, and the URL of an event, which is put together on its own. An escaped path
holds neither `?` nor `#`, so the first `?` of the text begins the query and its first `#` is one of the query.
Hence the text gives path and query back (`requestUri_inj`), and all agree on both (`requestUri_lossless`).
-/

namespace Changeover

open Text

theorem Destination.splitTarget_of_slash {url : List Char} (h : url.head? = some '/') :
    splitTarget url = (before '?' (before '#' url), after '?' (before '#' url)) := by
  obtain ⟨rest, rfl⟩ := List.head?_eq_some_iff.1 h
  exact splitTarget_slash rest

theorem Url.question_not_mem_escapePath (path : List Char) : '?' ∉ escapePath path :=
  not_mem_escapePath (by decide) (by decide) (by decide) path

theorem Url.hash_not_mem_escapePath (path : List Char) : '#' ∉ escapePath path :=
  not_mem_escapePath (by decide) (by decide) (by decide) path

namespace Snapshot

variable {a b : Snapshot}

theorem requestUri_cases (a : Snapshot) :
    a.queryString = "" ∧ a.requestUri.toList = Url.escapePath a.path.toList ∨
      a.queryString ≠ "" ∧
        a.requestUri.toList = Url.escapePath a.path.toList ++ '?' :: a.queryString.toList := by
  rw [requestUri]
  split
  · next h => exact .inl ⟨String.isEmpty_iff.1 h, String.toList_ofList⟩
  · next h =>
    refine .inr ⟨mt String.isEmpty_iff.2 h, ?_⟩
    rw [String.toList_append, String.toList_append, String.toList_ofList, List.append_assoc]
    rfl

theorem before_requestUri (a : Snapshot) :
    before '?' a.requestUri.toList = Url.escapePath a.path.toList := by
  have hpath := Url.question_not_mem_escapePath a.path.toList
  rcases requestUri_cases a with ⟨-, h⟩ | ⟨-, h⟩ <;> rw [h]
  · exact before_eq_self hpath
  · exact before_append hpath _

theorem after?_requestUri (a : Snapshot) : after? '?' a.requestUri.toList =
    if a.queryString = "" then none else some a.queryString.toList := by
  have hpath := Url.question_not_mem_escapePath a.path.toList
  rcases requestUri_cases a with ⟨hq, h⟩ | ⟨hq, h⟩ <;> rw [h]
  · rw [if_pos hq, after?_eq_none hpath]
  · rw [if_neg hq, after?_append hpath]

theorem decode_before_requestUri (a : Snapshot) :
    Percent.decode (before '?' a.requestUri.toList) = a.path.toList := by
  rw [before_requestUri, Url.decode_escapePath]

theorem requestUri_inj :
    a.requestUri = b.requestUri ↔ a.path = b.path ∧ a.queryString = b.queryString := by
  constructor
  · intro h
    have hpath := decode_before_requestUri a
    have hquery := after?_requestUri a
    rw [h, decode_before_requestUri] at hpath
    rw [h, after?_requestUri] at hquery
    refine ⟨String.toList_injective hpath.symm, ?_⟩
    split at hquery <;> split at hquery
    · next hb ha => rw [ha, hb]
    · cases hquery
    · cases hquery
    · exact String.toList_injective (Option.some_inj.1 hquery).symm
  · rintro ⟨hpath, hquery⟩
    rw [requestUri, requestUri, hpath, hquery]

/-- The split for a destination cuts where the URI was put together, and drops the fragment of the query. -/
theorem splitTarget_requestUri (h : a.path.toList.head? = some '/') :
    Destination.splitTarget a.requestUri.toList =
      (Url.escapePath a.path.toList, before '#' a.queryString.toList) := by
  have hslash := (Url.head?_escapePath_eq_slash a.path.toList).2 h
  have hquestion := Url.question_not_mem_escapePath a.path.toList
  have hhash := Url.hash_not_mem_escapePath a.path.toList
  rcases requestUri_cases a with ⟨hq, huri⟩ | ⟨-, huri⟩ <;> rw [huri]
  · -- without a query neither mark occurs
    rw [Destination.splitTarget_of_slash hslash, before_eq_self hhash, before_eq_self hquestion, after,
      after?_eq_none hquestion, hq]
    rfl
  · have hcut : before '#' (Url.escapePath a.path.toList ++ '?' :: a.queryString.toList) =
        Url.escapePath a.path.toList ++ '?' :: before '#' a.queryString.toList :=
      before_append_of_not_mem hhash _
    rw [Destination.splitTarget_of_slash (by rw [List.head?_append, hslash]; rfl), hcut,
      before_append hquestion, after, after?_append hquestion]
    rfl

theorem pathOf_requestUri (h : a.path.toList.head? = some '/') :
    Destination.pathOf a.requestUri.toList = a.path.toList := by
  obtain ⟨rest, hrest⟩ := List.head?_eq_some_iff.1 h
  rw [Destination.pathOf, splitTarget_requestUri h, Url.decode_escapePath, hrest]
  rfl

theorem queryOf_requestUri (h : a.path.toList.head? = some '/') :
    Destination.queryOf a.requestUri.toList = Query.parse (before '#' a.queryString.toList) := by
  rw [Destination.queryOf, splitTarget_requestUri h]

theorem urlOf_eq_requestUri (a : Snapshot) :
    Report.Event.urlOf a = "https://" ++ a.host ++ a.requestUri := by
  rw [Report.Event.urlOf, requestUri]
  split
  · rfl
  · simp only [String.append_assoc]

theorem destination_follows_table {s : Settings} {url : String} (h : a.path.toList.head? = some '/')
    (hurl : (Decision.resolve s a).destination = some url) :
    ∃ path extra, Rule.Row (Query.parse (before '#' a.queryString.toList)) a.path.toList path extra ∧
      url.toList = "https://".toList ++ s.newSiteHost.toList ++
        (Url.escapePath path ++ '?' :: Query.render (Destination.tagged s extra)) := by
  have hrow := Destination.row_page a.requestUri.toList
  rw [pathOf_requestUri h, queryOf_requestUri h] at hrow
  exact ⟨_, _, hrow, (Decision.toList_destination hurl).trans (Destination.ofUrl_eq s _)⟩

/-- What stands before the first `?` of a URI decodes to the path, and what stands after it is the query; there is
none exactly if the query is empty. The URL of an event is the host with the URI. If the path begins with a slash,
a destination is found for that path and for the parameters of the query up to its first `#`. -/
theorem requestUri_lossless (a : Snapshot) :
    Percent.decode (before '?' a.requestUri.toList) = a.path.toList ∧
      (after? '?' a.requestUri.toList =
        if a.queryString = "" then none else some a.queryString.toList) ∧
      (∀ s latency isRobot status, (Report.Event.ofSnapshot s a latency isRobot status).url =
        "https://" ++ a.host ++ a.requestUri) ∧
      (a.path.toList.head? = some '/' →
        Destination.pathOf a.requestUri.toList = a.path.toList ∧
        Destination.queryOf a.requestUri.toList = Query.parse (before '#' a.queryString.toList) ∧
        ∀ s url, (Decision.resolve s a).destination = some url →
          ∃ path extra,
            Rule.Row (Query.parse (before '#' a.queryString.toList)) a.path.toList path extra ∧
            url.toList = "https://".toList ++ s.newSiteHost.toList ++
              (Url.escapePath path ++ '?' :: Query.render (Destination.tagged s extra))) :=
  ⟨decode_before_requestUri a, after?_requestUri a, fun _ _ _ _ => urlOf_eq_requestUri a, fun h =>
    ⟨pathOf_requestUri h, queryOf_requestUri h, fun _ _ hurl => destination_follows_table h hurl⟩⟩

/-- A request whose path holds both delimiters, an escape, a tab and a letter outside ASCII, and whose query goes on
after a `#`. -/
def delimiters : Snapshot where
  hostHeader := "godoc.org"
  path := "/a?b#c%41\t\u00e9"
  queryString := "imports#q=1"
  cookies := [("pkggodev-redirect", "on")]

/-- Its destination keeps the whole path and the parameter before the `#`. -/
theorem requestUri_lossless_delimiters :
    delimiters.requestUri = "/a%3Fb%23c%2541%09%C3%A9?imports#q=1" ∧
      delimiters.path.toList.head? = some '/' ∧
      Destination.pathOf delimiters.requestUri.toList = delimiters.path.toList ∧
      (Decision.resolve {} delimiters).destination = some
        "https://pkg.go.dev/a%3Fb%23c%2541%09%C3%A9?tab=imports&utm_source=godoc" ∧
      ∃ path extra, Rule.Row (Query.parse "imports".toList) delimiters.path.toList path extra ∧
        "https://pkg.go.dev/a%3Fb%23c%2541%09%C3%A9?tab=imports&utm_source=godoc".toList =
          "https://pkg.go.dev".toList ++
            (Url.escapePath path ++ '?' :: Query.render (Destination.tagged {} extra)) := by
  have hslash : delimiters.path.toList.head? = some '/' := by decide +kernel
  have hdestination : (Decision.resolve {} delimiters).destination = some
      "https://pkg.go.dev/a%3Fb%23c%2541%09%C3%A9?tab=imports&utm_source=godoc" := by decide +kernel
  obtain ⟨-, -, -, hread⟩ := requestUri_lossless delimiters
  obtain ⟨hpath, -, htable⟩ := hread hslash
  exact ⟨by decide +kernel, hslash, hpath, hdestination, htable {} _ hdestination⟩

end Snapshot

end Changeover
