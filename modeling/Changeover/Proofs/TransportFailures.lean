import Changeover.Proofs.AbsoluteTarget
import Changeover.Proofs.RelayedBytes

/-!
# Answers to failures of transport

A failure of transport is logged with the path of the request's URL before it is answered. So the 502 is given
unless that URL is refused, and then the reason for that takes its place (`badGateway_given_iff`). A URL is
refused only if no host is named and the path names an authority of its own. A path that begins with a slash
does so only if nothing but tabs and line ends stands between that slash and another one
(`pathLost_slash_iff`).
-/

namespace Changeover

open Text

namespace Url

variable {s : List Char} {e : SplitError}

theorem authority_slash (s : List Char) :
    authority ('/' :: s) = (splitAuthority ('/' :: s.filter isKept)).1 := by
  have hclean : clean ('/' :: s) = '/' :: s.filter isKept := rfl
  have hscheme : isScheme (before ':' ('/' :: s.filter isKept)) = false := rfl
  rw [authority, hclean, splitScheme_of_not_isScheme hscheme]

theorem not_refused_nil : ¬ Refused [] e := fun h => by cases checkAuthority_error_iff.2 h

/-- What begins with a slash names an authority only after another slash, with nothing between the two that
stays in a URL. -/
theorem refused_slash_iff : Refused (authority ('/' :: s)) e ↔
    ∃ gap rest, s = gap ++ '/' :: rest ∧ (∀ c ∈ gap, isKept c = false) ∧ Refused (namedBy rest) e := by
  rw [authority_slash]
  constructor
  · intro h
    by_cases hs : ∃ r, s.filter isKept = '/' :: r
    · obtain ⟨r, hs⟩ := hs
      rw [hs] at h
      obtain ⟨gap, rest, rfl, hgap, -, rfl⟩ := List.filter_eq_cons_iff.1 hs
      exact ⟨gap, rest, rfl, fun c hc => Bool.eq_false_iff.2 (hgap c hc), h⟩
    · rw [splitAuthority_of_ne fun r hr => hs ⟨r, (List.cons.inj hr).2⟩] at h
      exact absurd h not_refused_nil
  · rintro ⟨gap, rest, rfl, hgap, h⟩
    have hfilter : (gap ++ '/' :: rest).filter isKept = '/' :: rest.filter isKept := by
      rw [List.filter_append, List.filter_eq_nil_iff.2 fun c hc => Bool.eq_false_iff.1 (hgap c hc)]
      rfl
    rw [hfilter]
    exact h

theorem isKept_eq_false_iff {c : Char} : isKept c = false ↔ c = '\t' ∨ c = '\n' ∨ c = '\r' := by
  simp only [isKept, Bool.and_eq_false_iff, bne_eq_false_iff_eq, or_assoc]

theorem Target.ascii_of_ofBytes {raw : Bytes} {t : Target} (h : ofBytes raw = .ok t) : Ascii raw := by
  intro x hx
  refine UInt8.not_le.1 fun hhigh => ?_
  have hany : raw.any (128 ≤ ·) = true := List.any_eq_true.2 ⟨x, hx, decide_eq_true hhigh⟩
  simp only [ofBytes, hany, if_true] at h
  cases h

end Url

namespace Gateway

variable {r : Request} {e : Url.SplitError} {gap path rest : List Char}

/-! ### A path as it stands in a URL -/

theorem delimiterEscape_cases (c : Char) :
    delimiterEscape c = [c] ∨ ∃ digits, delimiterEscape c = '%' :: digits := by
  unfold delimiterEscape
  split
  · exact .inr ⟨_, rfl⟩
  split
  · exact .inr ⟨_, rfl⟩
  split
  · exact .inr ⟨_, rfl⟩
  · exact .inl rfl

theorem flatMap_delimiterEscape_of_dropped (h : ∀ c ∈ gap, Url.isKept c = false) :
    gap.flatMap delimiterEscape = gap := by
  induction gap with
  | nil => rfl
  | cons c gap ih =>
    have hc : delimiterEscape c = [c] := by
      rcases Url.isKept_eq_false_iff.1 (h c List.mem_cons_self) with rfl | rfl | rfl <;> decide
    rw [List.flatMap_cons, hc, ih fun x hx => h x (List.mem_cons_of_mem c hx)]
    rfl

theorem flatMap_delimiterEscape_eq_iff {l : List Char} (h : ∀ c ∈ gap, Url.isKept c = false) :
    path.flatMap delimiterEscape = gap ++ '/' :: l ↔
      ∃ rest, path = gap ++ '/' :: rest ∧ l = rest.flatMap delimiterEscape := by
  constructor
  · induction gap generalizing path with
    | nil =>
      intro hp
      cases path with
      | nil => cases hp
      | cons c path =>
        rw [List.flatMap_cons] at hp
        rcases delimiterEscape_cases c with hc | ⟨digits, hc⟩ <;> rw [hc] at hp
        · cases hp
          exact ⟨path, rfl, rfl⟩
        · cases hp
    | cons x gap ih =>
      intro hp
      cases path with
      | nil => cases hp
      | cons c path =>
        rw [List.flatMap_cons] at hp
        rcases delimiterEscape_cases c with hc | ⟨digits, hc⟩ <;> rw [hc] at hp
        · obtain ⟨rfl, hp'⟩ := List.cons.inj hp
          obtain ⟨rest, rfl, hl⟩ := ih (fun y hy => h y (List.mem_cons_of_mem c hy)) hp'
          exact ⟨rest, rfl, hl⟩
        · obtain ⟨rfl, -⟩ := List.cons.inj hp
          exact absurd (h '%' List.mem_cons_self) (by decide)
  · rintro ⟨rest, rfl, rfl⟩
    rw [List.flatMap_append, flatMap_delimiterEscape_of_dropped h]
    rfl

theorem gap_eq_nil {x : Char} {l : List Char} (hx : Url.isKept x = true) (h : x :: l = gap ++ '/' :: rest)
    (hgap : ∀ c ∈ gap, Url.isKept c = false) : gap = [] := by
  cases gap with
  | nil => rfl
  | cons c gap =>
    obtain ⟨rfl, -⟩ := List.cons.inj h
    exact absurd (hgap x List.mem_cons_self) (by simp [hx])

theorem urlStem_doubled (rest : List Char) :
    urlStem none ('/' :: '/' :: rest) = '/' :: ("%2F".toList ++ rest.flatMap delimiterEscape) := rfl

theorem urlStem_slash (h : path.head? ≠ some '/') :
    urlStem none ('/' :: path) = '/' :: path.flatMap delimiterEscape := by
  have hp : ('/' :: path).flatMap delimiterEscape = '/' :: path.flatMap delimiterEscape := rfl
  unfold urlStem
  rw [hp]
  dsimp only
  split
  · next l _ hl =>
    have hnil : ∀ c ∈ ([] : List Char), Url.isKept c = false := nofun
    obtain ⟨rest, rfl, -⟩ := (flatMap_delimiterEscape_eq_iff hnil).1 (List.cons.inj hl).2
    exact absurd rfl h
  · rfl
  · next hnone _ => cases hnone
  · next hnone _ => cases hnone

/-! ### Requests whose path is lost -/

/-- No host is named, and the path, as it stands in a URL, names an authority that is refused. -/
def PathLost (r : Request) (e : Url.SplitError) : Prop :=
  namedHost r = none ∧ Url.Refused (Url.authority (urlStem none r.path.toList)) e

theorem urlPath_eq_error_iff {q : List Char} (hq : Utf8.decode? r.query = some q) {f : Fault} :
    urlPath r = .error f ↔ ∃ e, f = .unreadableUrl e ∧ PathLost r e := by
  obtain ⟨url, hurl, hauthority⟩ := urlOf_eq hq r.path.toList
  have hsplit : urlPath r = .error f ↔ ∃ e, f = .unreadableUrl e ∧ Url.split url = .error e := by
    rw [urlPath, hurl]
    simp only [bind, Except.bind]
    cases Url.split url <;> simp [pure, Except.pure, eq_comm]
  rw [hsplit]
  refine exists_congr fun e => and_congr_right fun _ => ?_
  rw [PathLost]
  cases hhost : namedHost r with
  | none => rw [Url.split_error_iff, hauthority, hhost, Url.checkAuthority_error_iff, and_iff_right rfl]
  | some host =>
    have hok := split_named_ok (isHost_of_namedHost hhost) r.path.toList e
    rw [ne_eq, Url.split_error_iff, ← hhost, ← hauthority, ← Url.split_error_iff] at hok
    refine iff_of_false hok ?_
    rintro ⟨hnone, -⟩
    cases hnone

theorem not_pathLost_iff {q : List Char} (hq : Utf8.decode? r.query = some q) :
    (∀ e, ¬ PathLost r e) ↔ ∃ path, urlPath r = .ok path := by
  have herror (f : Fault) := urlPath_eq_error_iff hq (f := f)
  cases hp : urlPath r with
  | ok path =>
    refine iff_of_true (fun e he => ?_) ⟨path, rfl⟩
    cases hp.symm.trans ((herror _).2 ⟨e, rfl, he⟩)
  | error f =>
    obtain ⟨e, -, he⟩ := (herror f).1 hp
    exact iff_of_false (fun h => h e he) nofun

/-- A path that begins with a slash is lost exactly if no host is named, only tabs and line ends stand between
that slash and another one, at least one of them, and what then reads as an authority is refused. -/
theorem pathLost_slash_iff (h : r.path.toList = '/' :: path) : PathLost r e ↔
    namedHost r = none ∧ ∃ gap rest, path = gap ++ '/' :: rest ∧ gap ≠ [] ∧
      (∀ c ∈ gap, Url.isKept c = false) ∧ Url.Refused (Url.namedBy (rest.flatMap delimiterEscape)) e := by
  rw [PathLost, h]
  refine and_congr_right fun _ => ?_
  by_cases hd : path.head? = some '/'
  · -- a second slash at once is escaped
    obtain ⟨rest, rfl⟩ := List.head?_eq_some_iff.1 hd
    rw [urlStem_doubled, Url.refused_slash_iff]
    refine iff_of_false ?_ ?_
    · rintro ⟨gap, rest', hgap, hdropped, -⟩
      obtain rfl := gap_eq_nil (by decide) hgap hdropped
      cases hgap
    · rintro ⟨gap, rest', hgap, hne, hdropped, -⟩
      exact hne (gap_eq_nil (by decide) hgap hdropped)
  · rw [urlStem_slash hd, Url.refused_slash_iff]
    constructor
    · rintro ⟨gap, l, hl, hdropped, hrefused⟩
      obtain ⟨rest, rfl, rfl⟩ := (flatMap_delimiterEscape_eq_iff hdropped).1 hl
      refine ⟨gap, rest, rfl, ?_, hdropped, hrefused⟩
      rintro rfl
      exact hd rfl
    · rintro ⟨gap, rest, rfl, -, hdropped, hrefused⟩
      exact ⟨gap, _, (flatMap_delimiterEscape_eq_iff hdropped).2 ⟨rest, rfl, rfl⟩, hdropped, hrefused⟩

/-! ### The answer -/

theorem decode?_query {t : Url.Target} (h : forwardedTarget r = .ok t) :
    ∃ q, Utf8.decode? r.query = some q := by
  rw [← Option.isSome_iff_exists]
  unfold forwardedTarget at h
  cases hp : forwardedPath r with
  | error f =>
    rw [hp] at h
    cases h
  | ok path =>
    rw [hp] at h
    simp only [bind, Except.bind] at h
    cases ht : Url.Target.ofBytes (if r.query.isEmpty then path else path ++ 63 :: r.query) with
    | error fault => cases fault <;> (rw [ht] at h; cases h)
    | ok t =>
      refine Utf8.decode?_ascii fun x hx => Url.Target.ascii_of_ofBytes ht x ?_
      rw [if_neg (by rw [List.isEmpty_iff]; exact List.ne_nil_of_mem hx)]
      exact List.mem_append_right _ (List.mem_cons_of_mem 63 hx)

/-- What the page does after a failure of transport: it logs the failure and gives the 502, or it breaks
because the path is lost. -/
theorem forward_transport {t : Url.Target} (ht : forwardedTarget r = .ok t) (body : Bytes)
    (name message : String) :
    (∀ path, urlPath r = .ok path → forward r (some body) (.failed (.transport name message)) =
        (plainText 502 "Bad Gateway").run.after [.forwarded (forwarding r t body),
          .logged (legacyFailed path r.method (.transport name message))]) ∧
      ∀ f, urlPath r = .error f → forward r (some body) (.failed (.transport name message)) =
        (Run.fault f).after [.forwarded (forwarding r t body)] := by
  simp only [forward, ht, afterAnswer, afterFailure]
  constructor
  · intro path hp
    rw [hp]
    rfl
  · intro f hf
    rw [hf]

/-- A request that has been forwarded and failed in transport gets the 502, after a record of the failure, unless
its path is lost; then nothing is sent and nothing logged, and the reason why the URL is refused takes the place
of the answer. For a path that begins with a slash the last part says when that is. -/
theorem badGateway_given_iff {t : Url.Target} (ht : forwardedTarget r = .ok t) (body : Bytes)
    (name message : String) :
    let run := forward r (some body) (.failed (.transport name message))
    (run.Gives (plainText 502 "Bad Gateway") ↔ ∀ e, ¬ PathLost r e) ∧
      ((∀ e, ¬ PathLost r e) → ∃ path, urlPath r = .ok path ∧
        run.records = [legacyFailed path r.method (.transport name message)]) ∧
      (∀ e, PathLost r e →
        run.messages = [] ∧ run.records = [] ∧ run.raised = some (.unreadableUrl e)) ∧
      ∀ path, r.path.toList = '/' :: path → ∀ e, PathLost r e ↔
        namedHost r = none ∧ ∃ gap rest, path = gap ++ '/' :: rest ∧ gap ≠ [] ∧
          (∀ c ∈ gap, c = '\t' ∨ c = '\n' ∨ c = '\r') ∧
          Url.Refused (Url.namedBy (rest.flatMap delimiterEscape)) e := by
  obtain ⟨q, hq⟩ := decode?_query ht
  obtain ⟨hok, herror⟩ := forward_transport ht body name message
  have hlost {e : Url.SplitError} (he : PathLost r e) :
      forward r (some body) (.failed (.transport name message)) =
        (Run.fault (.unreadableUrl e)).after [.forwarded (forwarding r t body)] :=
    herror _ ((urlPath_eq_error_iff hq).2 ⟨e, rfl, he⟩)
  refine ⟨⟨fun h e he => ?_, fun h => ?_⟩, fun h => ?_, fun e he => ?_, fun path hpath e => ?_⟩
  · rw [hlost he] at h
    cases h.2
  · obtain ⟨path, hp⟩ := (not_pathLost_iff hq).1 h
    rw [hok path hp]
    exact ⟨rfl, rfl⟩
  · obtain ⟨path, hp⟩ := (not_pathLost_iff hq).1 h
    exact ⟨path, hp, by rw [hok path hp]; rfl⟩
  · rw [hlost he]
    exact ⟨rfl, rfl, rfl⟩
  · simp only [pathLost_slash_iff hpath, Url.isKept_eq_false_iff]

/-- A request whose host is malformed and whose path has a tab between two slashes. -/
def tabbedPath : Request :=
  .ofTarget "GET" (Utf8.encode "/%09/x?y".toList) [Header.raw "host" "bad host"]

/-- Its path names an authority, which is accepted, so a failure is answered. -/
theorem badGateway_given_iff_tabbedPath :
    ∃ t, forwardedTarget tabbedPath = .ok t ∧ namedHost tabbedPath = none ∧ tabbedPath.path = "/\t/x" ∧
      Run.Gives (plainText 502 "Bad Gateway") (forward tabbedPath (some []) unreachable) := by
  have hr : PlainTarget tabbedPath (Utf8.encode "/%09/x".toList) :=
    ⟨rfl, rfl, by decide, by decide, by decide, by decide⟩
  obtain ⟨hd, -⟩ | ⟨-, t, ht⟩ := forwardedTarget_plain hr
  · exact absurd hd (by decide)
  obtain ⟨q, hq⟩ := decode?_query ht
  have hurl : (urlPath tabbedPath).isOk = true := by decide +kernel
  have hkept : ∃ path, urlPath tabbedPath = .ok path := by
    cases hp : urlPath tabbedPath with
    | ok path => exact ⟨path, rfl⟩
    | error f =>
      rw [hp] at hurl
      cases hurl
  exact ⟨t, ht, by decide +kernel, by decide +kernel,
    (badGateway_given_iff ht [] "ConnectError" "refused").1.2 ((not_pathLost_iff hq).2 hkept)⟩

/-- A request that names no host and whose path has a tab between two slashes and then a single bracket. -/
def tabbedBracket : Request := .ofTarget "GET" (Utf8.encode "/%09/[".toList) []

/-- Such a request is forwarded; when that fails, nothing is sent. -/
theorem tabbedBracket_no_badGateway :
    (∃ t, forwardedTarget tabbedBracket = .ok t) ∧
      (forward tabbedBracket (some []) unreachable).messages = [] ∧
      (forward tabbedBracket (some []) unreachable).raised = some (.unreadableUrl .unbalanced) ∧
      ¬ Run.Gives (plainText 502 "Bad Gateway") (forward tabbedBracket (some []) unreachable) := by
  have hr : PlainTarget tabbedBracket (Utf8.encode "/%09/[".toList) :=
    ⟨rfl, rfl, by decide, by decide, by decide, by decide⟩
  obtain ⟨hd, -⟩ | ⟨-, t, ht⟩ := forwardedTarget_plain hr
  · exact absurd hd (by decide)
  have hlost : urlPath tabbedBracket = .error (.unreadableUrl .unbalanced) := by rfl
  have hrun := (forward_transport ht [] "ConnectError" "refused").2 _ hlost
  refine ⟨⟨t, ht⟩, ?_, ?_, fun h => ?_⟩
  · rw [unreachable, hrun]
    rfl
  · rw [unreachable, hrun]
    rfl
  · rw [unreachable, hrun] at h
    cases h.2

end Gateway

end Changeover
