import Changeover.Gateway.RequestUrl
import Changeover.Proofs.NamedHost

/-!
# When the URL of a request can be rebuilt

Two things stand in the way (`urlPath_error_iff`): a query that is not text, and, when no host is named,
a path that reads as a URL with a refused authority. A named host is always an acceptable authority,
whatever path and query follow it.
-/

namespace Changeover

open Text

namespace Url

variable {s q : List Char}

/-- The authority of a text that is read as a URL. -/
def authority (s : List Char) : List Char := (splitAuthority (splitScheme (clean s)).2).1

theorem split_eq (s : List Char) :
    ∃ parts, split s = (checkAuthority (authority s)).bind fun _ => .ok parts :=
  ⟨_, rfl⟩

theorem split_error_iff {e : SplitError} :
    split s = .error e ↔ checkAuthority (authority s) = .error e := by
  obtain ⟨parts, h⟩ := split_eq s
  rw [h]
  cases checkAuthority (authority s) with
  | error e' => simp [Except.bind]
  | ok u => simp [Except.bind]

theorem dropWhile_append_stop {p : Char → Bool} {x : Char} (h : p x = false) (s q : List Char) :
    (s ++ x :: q).dropWhile p = s.dropWhile p ++ x :: q := by
  induction s with
  | nil => simp [h]
  | cons c s ih =>
    by_cases hc : p c = true
    · simpa [hc] using ih
    · simp [hc]

theorem takeWhile_append_stop {p : Char → Bool} {x : Char} (h : p x = false) (s q : List Char) :
    (s ++ x :: q).takeWhile p = s.takeWhile p := by
  induction s with
  | nil => simp [h]
  | cons c s ih =>
    by_cases hc : p c = true
    · simpa [hc] using ih
    · simp [hc]

theorem takeWhile_eq_self {p : Char → Bool} {s : List Char} (h : ∀ c ∈ s, p c = true) :
    s.takeWhile p = s := by
  simpa using @List.takeWhile_append_of_pos _ p s [] h

theorem clean_query (s q : List Char) : ∃ q', clean (s ++ '?' :: q) = clean s ++ '?' :: q' := by
  rw [clean, dropWhile_append_stop (by decide), List.filter_append]
  exact ⟨_, rfl⟩

/-- Whether a text has the form of a scheme. -/
def isScheme : List Char → Bool
  | c :: r => c.isAlpha && r.all isSchemeChar
  | [] => false

theorem splitScheme_append {b : List Char} (hb : ':' ∉ b) (t : List Char) :
    (splitScheme (b ++ ':' :: t)).2 = if isScheme b then t else b ++ ':' :: t := by
  rw [splitScheme, before_append hb, after?_append hb]
  cases b with
  | nil => rfl
  | cons c r =>
    by_cases h : (c.isAlpha && r.all isSchemeChar) = true <;> simp only [isScheme, h] <;> rfl

theorem splitScheme_of_not_isScheme (h : isScheme (before ':' s) = false) : (splitScheme s).2 = s := by
  by_cases hc : ':' ∈ s
  · have hsplit := splitScheme_append (not_mem_before ':' s) (after ':' s)
    rw [h, before_append_after hc] at hsplit
    exact hsplit
  · rw [splitScheme, after?_eq_none hc]
    cases before ':' s <;> rfl

theorem isScheme_eq_false_of_mem {l : List Char} (h : '?' ∈ l) : isScheme l = false := by
  cases l with
  | nil => rfl
  | cons c r =>
    rcases List.mem_cons.1 h with rfl | h
    · rfl
    · have hr : r.all isSchemeChar = false := List.all_eq_false.2 ⟨'?', h, by decide⟩
      rw [isScheme, hr, Bool.and_false]

/-- What follows a question mark does not make a scheme of what stands before it. -/
theorem splitScheme_query (s q : List Char) :
    (splitScheme (s ++ '?' :: q)).2 = (splitScheme s).2 ++ '?' :: q := by
  by_cases hc : ':' ∈ s
  · obtain ⟨b, t, hb, rfl⟩ : ∃ b t, ':' ∉ b ∧ s = b ++ ':' :: t :=
      ⟨_, _, not_mem_before ':' s, (before_append_after hc).symm⟩
    rw [splitScheme_append hb, List.append_assoc, List.cons_append, splitScheme_append hb]
    split
    · rfl
    · rw [List.append_assoc, List.cons_append]
  · have hq : '?' ∈ before ':' (s ++ '?' :: q) := by
      have hs : ∀ c ∈ s, (c != ':') = true := fun c hm => bne_iff_ne.2 fun h => hc (h ▸ hm)
      rw [before, List.takeWhile_append_of_pos hs]
      simp
    have hs : (splitScheme s).2 = s := by
      rw [splitScheme, after?_eq_none hc]
      cases before ':' s <;> rfl
    rw [splitScheme_of_not_isScheme (isScheme_eq_false_of_mem hq), hs]

theorem splitAuthority_of_ne (h : ∀ r, s ≠ '/' :: '/' :: r) : splitAuthority s = ([], s) := by
  unfold splitAuthority
  split
  · next r => exact absurd rfl (h r)
  · rfl

theorem splitAuthority_query (s q : List Char) :
    (splitAuthority (s ++ '?' :: q)).1 = (splitAuthority s).1 := by
  by_cases hs : ∃ r, s = '/' :: '/' :: r
  · obtain ⟨r, rfl⟩ := hs
    exact takeWhile_append_stop (by decide) r q
  · have hq : ∀ r, s ++ '?' :: q ≠ '/' :: '/' :: r := by
      intro r h
      match s, h with
      | [], h => cases h
      | [_], h => cases h
      | _ :: _ :: t, h =>
        cases h
        exact hs ⟨t, rfl⟩
    rw [splitAuthority_of_ne hq, splitAuthority_of_ne fun r h => hs ⟨r, h⟩]

theorem authority_query (s q : List Char) : authority (s ++ '?' :: q) = authority s := by
  obtain ⟨q', hq⟩ := clean_query s q
  rw [authority, hq, splitScheme_query, splitAuthority_query, authority]

/-- Whether a character stays in a cleaned URL. -/
def isKept (c : Char) : Bool := c != '\t' && c != '\n' && c != '\r'

theorem isKept_of_isHost {host : List Char} (h : isHost host = true) : ∀ c ∈ host, isKept c = true := by
  have hplain : ∀ c, Plain c → isKept c = true := by
    intro c hc
    simp only [isKept, Bool.and_eq_true, bne_iff_ne]
    refine ⟨⟨?_, ?_⟩, ?_⟩ <;> (rintro rfl; exact absurd hc.1 (by decide))
  intro c hc
  rcases plain_of_isHost h c hc with hp | rfl | rfl
  · exact hplain c hp
  · decide
  · decide

theorem not_endsAuthority_of_isHost {host : List Char} (h : isHost host = true) :
    ∀ c ∈ host, (!endsAuthority c) = true := by
  intro c hc
  rcases plain_of_isHost h c hc with hp | rfl | rfl
  · rw [hp.2.2.1]
    rfl
  · decide
  · decide

theorem authority_named {host path : List Char} (h : isHost host = true)
    (hp : path = [] ∨ path.head? = some '/') : authority ("http://".toList ++ host ++ path) = host := by
  have hclean : clean ("http://".toList ++ host ++ path) =
      "http".toList ++ ':' :: ('/' :: '/' :: (host ++ path.filter isKept)) := by
    have hdrop : clean ("http://".toList ++ host ++ path) =
      ("http://".toList ++ host ++ path).filter isKept := rfl
    rw [hdrop, List.filter_append, List.filter_append, List.filter_eq_self.2 (isKept_of_isHost h)]
    rfl
  have hpath : path.filter isKept = [] ∨ ∃ t, path.filter isKept = '/' :: t := by
    rcases hp with rfl | hp
    · exact .inl rfl
    · obtain ⟨t, rfl⟩ := List.head?_eq_some_iff.1 hp
      exact .inr ⟨_, rfl⟩
  rw [authority, hclean, splitScheme_append (by decide), if_pos (by decide)]
  show (host ++ path.filter isKept).takeWhile (!endsAuthority ·) = host
  have hself : host.takeWhile (!endsAuthority ·) = host :=
    takeWhile_eq_self (not_endsAuthority_of_isHost h)
  rcases hpath with hpath | ⟨t, hpath⟩
  · rw [hpath, List.append_nil, hself]
  · rw [hpath, takeWhile_append_stop (by decide), hself]

end Url

namespace Gateway

/-- The URL of a request cannot be rebuilt: its query is not text, or it names no host and its path reads
as a URL that is refused. -/
def UrlLost (r : Request) : Prop :=
  Utf8.decode? r.query = none ∨
    namedHost r = none ∧ ∃ e, Url.split (urlStem none r.path.toList) = .error e

theorem authority_urlStem {host : String} (h : Url.isHost host.toList = true) (path : List Char) :
    Url.authority (urlStem (some host) path) = host.toList := by
  have hhead : ∀ p : List Char, p = [] ∨ p.head? = some '/' →
      Url.authority ("http://".toList ++ host.toList ++ p) = host.toList :=
    fun p => Url.authority_named h
  unfold urlStem
  simp only
  split
  · cases ‹some host = none›
  · cases ‹some host = none›
  · next c p hp =>
    obtain rfl := Option.some.inj ‹some host = some _›
    refine hhead _ (.inr ?_)
    split
    · next hc =>
      rw [hp, beq_iff_eq.1 hc]
      rfl
    · rfl
  · next hp =>
    obtain rfl := Option.some.inj ‹some host = some _›
    rw [← List.append_nil ("http://".toList ++ host.toList)]
    exact hhead [] (.inl rfl)

theorem split_named_ok {host : String} (h : Url.isHost host.toList = true) (path : List Char)
    (e : Url.SplitError) : Url.split (urlStem (some host) path) ≠ .error e := by
  rw [ne_eq, Url.split_error_iff, authority_urlStem h, Url.checkAuthority_of_isHost h]
  exact nofun

theorem urlOf_eq {r : Request} {q : List Char} (h : Utf8.decode? r.query = some q) (path : List Char) :
    ∃ url, urlOf r path = .ok url ∧ Url.authority url = Url.authority (urlStem (namedHost r) path) := by
  unfold urlOf
  split
  · exact ⟨_, rfl, rfl⟩
  · rw [h]
    exact ⟨_, rfl, Url.authority_query _ _⟩

theorem urlOf_undecodable {r : Request} (h : Utf8.decode? r.query = none) (path : List Char) :
    urlOf r path = .error .undecodable := by
  have hne : r.query.isEmpty = false := by
    cases hq : r.query with
    | nil =>
      rw [hq] at h
      cases h
    | cons => rfl
  rw [urlOf, hne, h]
  rfl

theorem isHost_of_namedHost {r : Request} {host : String} (h : namedHost r = some host) :
    Url.isHost host.toList = true := by
  unfold namedHost at h
  split at h
  · next hhost => rwa [← Option.some.inj h]
  · cases h

/-- The URL of a request cannot be rebuilt exactly when its query is not text, or no host is named and
the path reads as a URL that is refused. -/
theorem urlPath_error_iff (r : Request) : (∃ f, urlPath r = .error f) ↔ UrlLost r := by
  cases hq : Utf8.decode? r.query with
  | none =>
    have herr : urlPath r = .error .undecodable := by
      rw [urlPath, urlOf_undecodable hq]
      rfl
    exact ⟨fun _ => .inl hq, fun _ => ⟨_, herr⟩⟩
  | some q =>
    obtain ⟨url, hurl, hauthority⟩ := urlOf_eq hq r.path.toList
    have hsplit : (∃ f, urlPath r = .error f) ↔ ∃ e, Url.split url = .error e := by
      rw [urlPath, hurl]
      simp only [bind, Except.bind]
      cases Url.split url <;> simp [pure, Except.pure]
    have hstem : (∃ e, Url.split url = .error e) ↔
        ∃ e, Url.split (urlStem (namedHost r) r.path.toList) = .error e := by
      simp only [Url.split_error_iff, hauthority]
    rw [hsplit, hstem, UrlLost, hq]
    cases hhost : namedHost r with
    | none => simp
    | some host => simp [split_named_ok (isHost_of_namedHost hhost)]

end Gateway

end Changeover
