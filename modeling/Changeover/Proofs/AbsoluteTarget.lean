import Changeover.Proofs.Destination
import Changeover.Proofs.OperationalPages
import Changeover.Proofs.RequestUri

/-!
# Targets in absolute form

A target in absolute form is decoded before it is taken apart as a URL. Two things follow. Its authority can
be refused, and then there is no snapshot: the redirect layer breaks and lets nothing through
(`snapshot_taken_iff`). And what an escape stands for can end the path or be left out of it, so that
the snapshot is that of the same target in origin form exactly if none of the five characters with such an
effect is escaped (`Snapshot.forms_agree_iff`).
-/

namespace Changeover

open Text

namespace Text.Percent

theorem decode_append {a : List Char} (h : ∀ c ∈ a, c.toNat < 128 ∧ c ≠ '%') (s : List Char) :
    decode (a ++ s) = a ++ decode s := by
  induction a with
  | nil => rfl
  | cons c a ih =>
    obtain ⟨hc, hp⟩ := h c List.mem_cons_self
    rw [List.cons_append, decode_cons hc hp, ih fun x hx => h x (List.mem_cons_of_mem c hx),
      List.cons_append]

end Text.Percent

namespace Url

/-! ### Refused authorities -/

section Refused

variable {authority : List Char} {e : SplitError}

/-- Why an authority is refused: a bracket without its partner, brackets that do not stand around an
address, or, only if the brackets are in order, a character that stands for a delimiter. -/
inductive Refused (authority : List Char) : SplitError → Prop
  | unbalanced : ¬ ('[' ∈ authority ↔ ']' ∈ authority) → Refused authority .unbalanced
  | misplaced {e : SplitError} : '[' ∈ authority → ']' ∈ authority →
      checkBracketed authority = .error e → Refused authority e
  | ambiguous {c : Char} : checkBrackets authority = .ok () → c ∈ authority →
      c.toNat ∈ ambiguousCodes → Refused authority (.ambiguous (String.ofList authority))

theorem checkBrackets_error_iff : checkBrackets authority = .error e ↔
    ¬ ('[' ∈ authority ↔ ']' ∈ authority) ∧ e = .unbalanced ∨
      ('[' ∈ authority ∧ ']' ∈ authority) ∧ checkBracketed authority = .error e := by
  unfold checkBrackets
  by_cases ho : '[' ∈ authority <;> by_cases hc : ']' ∈ authority <;> simp [ho, hc, eq_comm]

theorem checkAmbiguous_error_iff : checkAmbiguous authority = .error e ↔
    (∃ c ∈ authority, c.toNat ∈ ambiguousCodes) ∧ e = .ambiguous (String.ofList authority) := by
  unfold checkAmbiguous
  split
  · next h =>
    have hany : ∃ c ∈ authority, c.toNat ∈ ambiguousCodes := by simpa using h
    simp [hany, eq_comm]
  · next h =>
    have hnone : ¬ ∃ c ∈ authority, c.toNat ∈ ambiguousCodes := by simpa using h
    simp [hnone]

theorem checkAuthority_error_iff : checkAuthority authority = .error e ↔ Refused authority e := by
  cases hb : checkBrackets authority with
  | error e' =>
    have hsame : checkAuthority authority = .error e ↔ e' = e := by
      have herr : checkAuthority authority = .error e' := by
        rw [checkAuthority, hb]
        rfl
      rw [herr, Except.error.injEq]
    rw [hsame]
    constructor
    · rintro rfl
      rcases checkBrackets_error_iff.1 hb with ⟨h, rfl⟩ | ⟨⟨ho, hc⟩, h⟩
      · exact .unbalanced h
      · exact .misplaced ho hc h
    · intro h
      have hre : checkBrackets authority = .error e := by
        cases h with
        | unbalanced h => exact checkBrackets_error_iff.2 (.inl ⟨h, rfl⟩)
        | misplaced ho hc h => exact checkBrackets_error_iff.2 (.inr ⟨⟨ho, hc⟩, h⟩)
        | ambiguous hok _ _ => cases hb.symm.trans hok
      exact Except.error.inj (hb.symm.trans hre)
  | ok u =>
    have hsame : checkAuthority authority = checkAmbiguous authority := by
      rw [checkAuthority, hb]
      rfl
    rw [hsame, checkAmbiguous_error_iff]
    constructor
    · rintro ⟨⟨c, hc, hcode⟩, rfl⟩
      exact .ambiguous hb hc hcode
    · intro h
      cases h with
      | unbalanced h => cases hb.symm.trans (checkBrackets_error_iff.2 (.inl ⟨h, rfl⟩))
      | misplaced ho hc h => cases hb.symm.trans (checkBrackets_error_iff.2 (.inr ⟨⟨ho, hc⟩, h⟩))
      | ambiguous _ hc hcode => exact ⟨⟨_, hc, hcode⟩, rfl⟩

end Refused

/-! ### What stands behind the scheme -/

/-- The beginnings of a target in absolute form. -/
inductive Stem : List Char → Prop
  | plain : Stem "http://".toList
  | secure : Stem "https://".toList

/-- What a target names as its authority, from what stands behind its stem. -/
def namedBy (rest : List Char) : List Char := (rest.filter isKept).takeWhile (!endsAuthority ·)

/-- What is left of a text as the path of a URL. -/
def cut (path : List Char) : List Char := before '?' (before '#' (path.filter isKept))

section Stem

variable {stem scheme rest host path : List Char}

theorem isAbsolute_iff : Snapshot.isAbsolute path = true ↔ ∃ stem rest, Stem stem ∧ path = stem ++ rest := by
  rw [Snapshot.isAbsolute, Bool.or_eq_true, List.isPrefixOf_iff_prefix, List.isPrefixOf_iff_prefix]
  constructor
  · rintro (⟨rest, rfl⟩ | ⟨rest, rfl⟩)
    · exact ⟨_, rest, .plain, rfl⟩
    · exact ⟨_, rest, .secure, rfl⟩
  · rintro ⟨stem, rest, hs, rfl⟩
    cases hs with
    | plain => exact .inl ⟨rest, rfl⟩
    | secure => exact .inr ⟨rest, rfl⟩

theorem hier_stem (hs : Stem stem) (rest : List Char) :
    (splitScheme (clean (stem ++ rest))).2 = '/' :: '/' :: rest.filter isKept := by
  have hclean : clean (stem ++ rest) = stem.filter isKept ++ rest.filter isKept := by
    rw [← List.filter_append]
    cases hs <;> rfl
  rw [hclean]
  cases hs with
  | plain => exact splitScheme_append (b := "http".toList) (by decide) _
  | secure => exact splitScheme_append (b := "https".toList) (by decide) _

theorem authority_stem (hs : Stem stem) (rest : List Char) : authority (stem ++ rest) = namedBy rest := by
  rw [authority, hier_stem hs]
  rfl

theorem isSchemeChar_plain {c : Char} (h : isSchemeChar c = true) : Plain c ∧ c ≠ ':' := by
  have hascii : c.toNat < 128 := by
    simp only [isSchemeChar, Bool.or_eq_true, beq_iff_eq] at h
    rcases h with ((h | rfl) | rfl) | rfl
    · exact (Query.isAlphanum_ascii h).1
    all_goals decide
  exact of_ascii (P := fun c => isSchemeChar c = true → Plain c ∧ c ≠ ':') (by decide +kernel) hascii h

theorem isSchemeChar_of_isScheme (h : isScheme scheme = true) : ∀ c ∈ scheme, isSchemeChar c = true := by
  cases scheme with
  | nil => cases h
  | cons a r =>
    obtain ⟨ha, hr⟩ := Bool.and_eq_true_iff.1 h
    refine List.forall_mem_cons.2 ⟨?_, List.all_eq_true.1 hr⟩
    simp [isSchemeChar, Char.isAlphanum, ha]

theorem isKept_of_plain {c : Char} (h : Plain c) : isKept c = true :=
  of_ascii (P := fun c => Plain c → isKept c = true) (by decide +kernel) h.2.1 h

theorem clean_absolute (hs : isScheme scheme = true) (hhost : ∀ c ∈ host, isKept c = true)
    (path : List Char) : clean (scheme ++ "://".toList ++ (host ++ path)) =
      scheme ++ ':' :: '/' :: '/' :: (host ++ path.filter isKept) := by
  have hscheme : ∀ c ∈ scheme, Plain c := fun c hc =>
    (isSchemeChar_plain (isSchemeChar_of_isScheme hs c hc)).1
  have hdrop : clean (scheme ++ "://".toList ++ (host ++ path)) =
      (scheme ++ "://".toList ++ (host ++ path)).filter isKept := by
    cases scheme with
    | nil => cases hs
    | cons a r =>
      have ha := (hscheme a List.mem_cons_self).1
      rw [clean, List.cons_append, List.cons_append, List.dropWhile_cons_of_neg (by simpa using ha)]
      rfl
  rw [hdrop, List.filter_append, List.filter_append, List.filter_append,
    List.filter_eq_self.2 fun c hc => isKept_of_plain (hscheme c hc), List.filter_eq_self.2 hhost,
    List.append_assoc]
  rfl

/-- A URL with a scheme and an acceptable authority is cut at its marks, tabs and line ends left out. -/
theorem split_absolute (hs : isScheme scheme = true) (hok : checkAuthority host = .ok ())
    (hhost : ∀ c ∈ host, isKept c = true ∧ endsAuthority c = false) (hp : path.head? = some '/') :
    ∃ parts, split (scheme ++ "://".toList ++ (host ++ path)) = .ok parts ∧ parts.authority = host ∧
      parts.path = cut path ∧ parts.query = after '?' (before '#' (path.filter isKept)) := by
  obtain ⟨t, rfl⟩ := List.head?_eq_some_iff.1 hp
  have hclean := clean_absolute hs (fun c hc => (hhost c hc).1) ('/' :: t)
  have hcolon : ':' ∉ scheme := fun h => (isSchemeChar_plain (isSchemeChar_of_isScheme hs _ h)).2 rfl
  have hhier := splitScheme_append hcolon ('/' :: '/' :: (host ++ '/' :: t.filter isKept))
  have hkept : ∀ c ∈ host, (!endsAuthority c) = true := fun c hc => by rw [(hhost c hc).2]; rfl
  have htake : (host ++ '/' :: t.filter isKept).takeWhile (!endsAuthority ·) = host := by
    rw [takeWhile_append_stop (by decide), takeWhile_eq_self hkept]
  have hdrop : (host ++ '/' :: t.filter isKept).dropWhile (!endsAuthority ·) = '/' :: t.filter isKept := by
    rw [List.dropWhile_append_of_pos hkept]
    rfl
  rw [split, hclean, List.filter_cons_of_pos (by decide)]
  rw [if_pos hs] at hhier
  generalize splitScheme (scheme ++ ':' :: '/' :: '/' :: (host ++ '/' :: t.filter isKept)) = parts at hhier ⊢
  obtain ⟨scheme', hier⟩ := parts
  obtain rfl : hier = '/' :: '/' :: (host ++ '/' :: t.filter isKept) := hhier
  simp only [splitAuthority, htake, hdrop, hok]
  exact ⟨_, rfl, rfl, rfl, rfl⟩

theorem target_stem (hs : Stem stem) (hok : checkAuthority host = .ok ())
    (hhost : ∀ c ∈ host, isKept c = true ∧ endsAuthority c = false) (hp : path.head? = some '/') :
    Snapshot.target (stem ++ (host ++ path)) = .ok (host, cut path) := by
  obtain ⟨scheme, hscheme, hstem⟩ : ∃ scheme, isScheme scheme = true ∧ stem = scheme ++ "://".toList := by
    cases hs with
    | plain => exact ⟨"http".toList, by decide, rfl⟩
    | secure => exact ⟨"https".toList, by decide, rfl⟩
  obtain ⟨parts, hsplit, hauthority, hpath, -⟩ := split_absolute hscheme hok hhost hp
  obtain ⟨t, rfl⟩ := List.head?_eq_some_iff.1 hp
  rw [Snapshot.target, if_pos (isAbsolute_iff.2 ⟨stem, _, hs, rfl⟩), hstem, hsplit, ← hauthority, ← hpath]
  show Except.ok (parts.authority, if parts.path.isEmpty then ['/'] else parts.path) = _
  rw [hpath]
  rfl

/-- The characters that end the path of a URL or are left out of it. -/
def Marks (c : Char) : Prop := c = '?' ∨ c = '#' ∨ isKept c = false

instance (c : Char) : Decidable (Marks c) := inferInstanceAs (Decidable (_ ∨ _))

theorem cut_eq_self_iff : cut path = path ↔ ∀ c ∈ path, ¬ Marks c := by
  constructor
  · intro h c hc hm
    have hmem : c ∈ before '?' (before '#' (path.filter isKept)) := by
      rw [← cut, h]
      exact hc
    rcases hm with rfl | rfl | hk
    · exact not_mem_before _ _ hmem
    · exact not_mem_before _ _ ((List.takeWhile_sublist _).subset hmem)
    · have hkept := (List.takeWhile_sublist _).subset ((List.takeWhile_sublist _).subset hmem)
      exact Bool.false_ne_true (hk.symm.trans (List.mem_filter.1 hkept).2)
  · intro h
    have hfilter : path.filter isKept = path :=
      List.filter_eq_self.2 fun c hc => Bool.of_not_eq_false fun hk => h c hc (.inr (.inr hk))
    rw [cut, hfilter, before_eq_self fun hc => h _ hc (.inr (.inl rfl)),
      before_eq_self fun hc => h _ hc (.inl rfl)]

/-- An authority that is a name of letters, digits, dots and hyphens, and perhaps the number of a port. -/
inductive NameWithPort : List Char → Prop
  | alone {name : List Char} : (∀ c ∈ name, c.isAlphanum = true ∨ c = '.' ∨ c = '-') → NameWithPort name
  | port {name digits : List Char} : (∀ c ∈ name, c.isAlphanum = true ∨ c = '.' ∨ c = '-') →
      (∀ c ∈ digits, c.isDigit = true) → NameWithPort (name ++ ':' :: digits)

/-- A visible character that means nothing in a target, escaped or not. -/
def Inert (c : Char) : Prop := Plain c ∧ c ≠ '%'

instance (c : Char) : Decidable (Inert c) := inferInstanceAs (Decidable (_ ∧ _))

theorem NameWithPort.inert (h : NameWithPort host) : ∀ c ∈ host, Inert c := by
  have hname : ∀ c : Char, c.isAlphanum = true ∨ c = '.' ∨ c = '-' → Inert c := by
    rintro c (hc | rfl | rfl)
    · exact of_ascii (P := fun c => c.isAlphanum = true → Inert c) (by decide +kernel)
        (Query.isAlphanum_ascii hc).1 hc
    · decide
    · decide
  cases h with
  | alone h => exact fun c hc => hname c (h c hc)
  | port h hd =>
    intro c hc
    rcases List.mem_append.1 hc with hc | hc
    · exact hname c (h c hc)
    rcases List.mem_cons.1 hc with rfl | hc
    · decide
    · exact hname c (.inl (by simp [Char.isAlphanum, hd c hc]))

/-- A character that may stand in an authority without brackets. -/
def InAuthority (c : Char) : Prop :=
  0x20 < c.toNat ∧ c.toNat < 128 ∧ endsAuthority c = false ∧ c ≠ '[' ∧ c ≠ ']'

instance (c : Char) : Decidable (InAuthority c) := inferInstanceAs (Decidable (_ ∧ _))

theorem Plain.inAuthority {c : Char} (h : Plain c) : InAuthority c :=
  ⟨h.1, h.2.1, h.2.2.1, h.2.2.2.2⟩

theorem InAuthority.isKept {c : Char} (h : InAuthority c) : isKept c = true :=
  of_ascii (P := fun c => InAuthority c → Url.isKept c = true) (by decide +kernel) h.2.1 h

theorem checkAuthority_of_inAuthority (h : ∀ c ∈ host, InAuthority c) : checkAuthority host = .ok () := by
  have hopen : '[' ∉ host := fun hc => (h _ hc).2.2.2.1 rfl
  have hclose : ']' ∉ host := fun hc => (h _ hc).2.2.2.2 rfl
  have hbrackets : checkBrackets host = .ok () := by simp [checkBrackets, hopen, hclose]
  rw [checkAuthority, hbrackets]
  exact checkAmbiguous_of_ascii fun c hc => (h c hc).2.1

theorem NameWithPort.checkAuthority (h : NameWithPort host) : checkAuthority host = .ok () :=
  checkAuthority_of_inAuthority fun c hc => (h.inert c hc).1.inAuthority

end Stem

end Url

namespace Snapshot

variable {r : Request} {e : Url.SplitError}

/-- The target of the request is a URL whose authority is refused. -/
def Unreadable (r : Request) (e : Url.SplitError) : Prop :=
  ∃ stem rest, Url.Stem stem ∧ r.path.toList = stem ++ rest ∧ Url.Refused (Url.namedBy rest) e

theorem target_error_iff {path : List Char} : target path = .error e ↔
    ∃ stem rest, Url.Stem stem ∧ path = stem ++ rest ∧ Url.Refused (Url.namedBy rest) e := by
  cases habs : isAbsolute path with
  | false =>
    rw [target, habs]
    constructor
    · intro h
      cases h
    · rintro ⟨stem, rest, hs, hpath, -⟩
      exact absurd (habs.symm.trans (Url.isAbsolute_iff.2 ⟨stem, rest, hs, hpath⟩)) Bool.false_ne_true
  | true =>
    have hsplit : target path = .error e ↔ Url.split path = .error e := by
      rw [target, habs]
      cases Url.split path <;> simp [bind, Except.bind, pure, Except.pure]
    rw [hsplit, Url.split_error_iff, Url.checkAuthority_error_iff]
    constructor
    · intro h
      obtain ⟨stem, rest, hs, rfl⟩ := Url.isAbsolute_iff.1 habs
      exact ⟨stem, rest, hs, rfl, Url.authority_stem hs rest ▸ h⟩
    · rintro ⟨stem, rest, hs, rfl, h⟩
      exact (Url.authority_stem hs rest).symm ▸ h

theorem ofRequest_error_iff : ofRequest r = .error e ↔ Unreadable r e := by
  rw [Unreadable, ← target_error_iff, ofRequest]
  cases target r.path.toList <;> simp [bind, Except.bind, pure, Except.pure]

end Snapshot

namespace Gateway

/-- A snapshot is taken of every request but those whose target is a URL with a refused authority. On such
a one the redirect layer breaks before any decision, whatever it surrounds and decides by; the gateway gives
the answer to a fault, or none when the URL of the request is lost too. -/
theorem snapshot_taken_iff (r : Request) :
    ((∃ a, Snapshot.ofRequest r = .ok a) ↔ ∀ e, ¬ Snapshot.Unreadable r e) ∧
      ∀ e, Snapshot.Unreadable r e →
        (∀ s exempt resolve inner, exempt r.path.toList = false →
          redirectLayer s exempt resolve (.http r) inner = Run.fault (.unreadableUrl e)) ∧
        ∀ s x, handle s r x = lastResort r (Run.fault (.unreadableUrl e)) ∧
          (UrlLost r → (handle s r x).messages = []) ∧
          (¬ UrlLost r → (handle s r x).messages = faultResponse.messages) := by
  constructor
  · simp only [← Snapshot.ofRequest_error_iff]
    cases Snapshot.ofRequest r <;> simp
  · intro e h
    have hlayer (s : Settings) (exempt : List Char → Bool) (resolve : Resolver) (inner : Run)
        (hex : exempt r.path.toList = false) :
        redirectLayer s exempt resolve (.http r) inner = Run.fault (.unreadableUrl e) := by
      simp only [redirectLayer, hex, Bool.false_eq_true, if_false, Snapshot.ofRequest_error_iff.2 h]
    have hexempt : isExempt r.path.toList = false := by
      obtain ⟨stem, rest, hs, hpath, -⟩ := h
      exact (not_served_of_isAbsolute (Url.isAbsolute_iff.2 ⟨stem, rest, hs, hpath⟩)).1
    refine ⟨hlayer, fun s x => ?_⟩
    have hhandle : handle s r x = lastResort r (Run.fault (.unreadableUrl e)) := by
      rw [handle, layered_eq, hlayer _ _ _ _ hexempt]
    have hbroken : Run.Broken (Run.fault (.unreadableUrl e)) := ⟨rfl, _, rfl⟩
    obtain ⟨hlost, hkept⟩ := messages_lastResort_of_broken (r := r) hbroken
    exact ⟨hhandle, fun hl => by rw [hhandle, hlost hl], fun hl => by rw [hhandle, hkept hl]⟩

/-- Nothing of an answer gets through to a client whose target cannot be read. -/
theorem openBracket_not_passed :
    Snapshot.ofRequest openBracket = .error .unbalanced ∧
      (redirectLayer {} isExempt (fun a => some (Decision.resolve {} a)) (.http openBracket)
        (Response.run { status := 200, headers := [] })).messages = [] ∧
      (redirectLayer {} isExempt (fun a => some (Decision.resolve {} a)) (.http openBracket)
        (Response.run { status := 200, headers := [] })).raised = some (.unreadableUrl .unbalanced) ∧
      (Response.run { status := 200, headers := [] }).messages ≠ [] :=
  ⟨rfl, rfl, rfl, List.cons_ne_nil _ _⟩

end Gateway

/-! ### The two forms of a target -/

section Forms

variable {host path query : Bytes}

/-- The bytes of a target in absolute form, up to its query. -/
def absoluteForm (host path : Bytes) : Bytes := Utf8.encode "http://".toList ++ host ++ path

theorem not_mem_absoluteForm (hh : Url.NameWithPort (Latin1.ofBytes host)) (hp : 63 ∉ path) :
    63 ∉ absoluteForm host path := by
  intro hc
  rcases List.mem_append.1 hc with hc | hc
  · rcases List.mem_append.1 hc with hc | hc
    · exact absurd hc (by decide)
    · exact absurd (hh.inert '?' (List.mem_map_of_mem hc)) (by decide)
  · exact hp hc

theorem decode_absoluteForm (hh : Url.NameWithPort (Latin1.ofBytes host)) (path : Bytes) :
    Percent.decode (Latin1.ofBytes (absoluteForm host path)) =
      "http://".toList ++ (Latin1.ofBytes host ++ Percent.decode (Latin1.ofBytes path)) := by
  have hmap : Latin1.ofBytes (absoluteForm host path) =
      "http://".toList ++ Latin1.ofBytes host ++ Latin1.ofBytes path := by
    rw [absoluteForm, Latin1.ofBytes, List.map_append, List.map_append]
    rfl
  have hstem : ∀ c ∈ "http://".toList, c.toNat < 128 ∧ c ≠ '%' := forall_of_all (by decide)
  have hplain : ∀ c ∈ "http://".toList ++ Latin1.ofBytes host, c.toNat < 128 ∧ c ≠ '%' := by
    intro c hc
    rcases List.mem_append.1 hc with hc | hc
    · exact hstem c hc
    · exact ⟨(hh.inert c hc).1.2.1, (hh.inert c hc).2⟩
  rw [hmap, Percent.decode_append hplain, List.append_assoc]

theorem head?_decode_of_slash (hp : path.head? = some 47) :
    (Percent.decode (Latin1.ofBytes path)).head? = some '/' := by
  obtain ⟨rest, rfl⟩ := List.head?_eq_some_iff.1 hp
  show (Percent.decode ('/' :: Latin1.ofBytes rest)).head? = some '/'
  rw [Percent.decode_cons (by decide) (by decide)]
  rfl

theorem Request.ofTarget_append (hp : 63 ∉ path) (hq : query = [] ∨ query.head? = some 63)
    (method : String) (headers : List RawHeader) :
    ofTarget method (path ++ query) headers =
      { method, path := String.ofList (Percent.decode (Latin1.ofBytes path)), rawPath := some path
        query := query.tail, headers } := by
  rcases hq with rfl | hq
  · rw [List.append_nil, ofTarget, before_eq_self hp, after, after?_eq_none hp]
    rfl
  · obtain ⟨rest, rfl⟩ := List.head?_eq_some_iff.1 hq
    rw [ofTarget, before_append hp, after, after?_append hp]
    rfl

/-- The snapshot of a request whose target names this host and this path. -/
def Snapshot.naming (host path : List Char) (query : Bytes) (headers : List RawHeader) : Snapshot :=
  { Request.plain { query, headers } with urlHost := String.ofList host, path := String.ofList path }

theorem Snapshot.ofRequest_of_target {r : Request} {host path : List Char}
    (h : target r.path.toList = .ok (host, path)) :
    ofRequest r = .ok (naming host path r.query r.headers) := by
  rw [ofRequest, h]
  rfl

theorem Snapshot.requestUri_eq_iff {a b : Snapshot} (h : a.queryString = b.queryString) :
    a.requestUri = b.requestUri ↔ a.path = b.path :=
  requestUri_inj.trans (and_iff_left h)

theorem ofRequest_originForm (hp : path.head? = some 47) (hpath : 63 ∉ path)
    (hq : query = [] ∨ query.head? = some 63) (method : String) (headers : List RawHeader) :
    Snapshot.ofRequest (.ofTarget method (path ++ query) headers) =
      .ok (.naming [] (Percent.decode (Latin1.ofBytes path)) query.tail headers) := by
  rw [Request.ofTarget_append hpath hq]
  refine Snapshot.ofRequest_of_target ((congrArg _ String.toList_ofList).trans ?_)
  obtain ⟨rest, hdecoded⟩ := List.head?_eq_some_iff.1 (head?_decode_of_slash hp)
  rw [hdecoded]
  rfl

theorem ofRequest_absoluteForm (hh : Url.NameWithPort (Latin1.ofBytes host)) (hp : path.head? = some 47)
    (hpath : 63 ∉ path) (hq : query = [] ∨ query.head? = some 63) (method : String)
    (headers : List RawHeader) :
    Snapshot.ofRequest (.ofTarget method (absoluteForm host path ++ query) headers) =
      .ok (.naming (Latin1.ofBytes host) (Url.cut (Percent.decode (Latin1.ofBytes path))) query.tail
        headers) := by
  rw [Request.ofTarget_append (not_mem_absoluteForm hh hpath) hq]
  refine Snapshot.ofRequest_of_target ((congrArg _ String.toList_ofList).trans ?_)
  rw [decode_absoluteForm hh]
  have hhost : ∀ c ∈ Latin1.ofBytes host, Url.isKept c = true ∧ Url.endsAuthority c = false :=
    fun c hc => ⟨Url.isKept_of_plain (hh.inert c hc).1, (hh.inert c hc).1.2.2.1⟩
  exact Url.target_stem .plain hh.checkAuthority hhost (head?_decode_of_slash hp)

/-- A target in absolute form has the snapshot of the same target in origin form, but that it names its host and
that its path is what is left of the path as that of a URL. So the two have one path, and one URI to find a
destination for, exactly if no character that marks the path of a URL stands in the decoded path. -/
theorem Snapshot.forms_agree_iff (hh : Url.NameWithPort (Latin1.ofBytes host)) (hp : path.head? = some 47)
    (hpath : 63 ∉ path) (hq : query = [] ∨ query.head? = some 63) (method : String)
    (headers : List RawHeader) :
    ∃ absolute origin,
      Snapshot.ofRequest (.ofTarget method (absoluteForm host path ++ query) headers) = .ok absolute ∧
      Snapshot.ofRequest (.ofTarget method (path ++ query) headers) = .ok origin ∧
      origin.path.toList = Percent.decode (Latin1.ofBytes path) ∧
      absolute = { origin with
        urlHost := Latin1.text host, path := String.ofList (Url.cut origin.path.toList) } ∧
      (absolute.path = origin.path ↔ ∀ c ∈ origin.path.toList, ¬ Url.Marks c) ∧
      (absolute.requestUri = origin.requestUri ↔ ∀ c ∈ origin.path.toList, ¬ Url.Marks c) ∧
      ((∀ c ∈ origin.path.toList, ¬ Url.Marks c) → ∀ s, Destination.ofUrl s absolute.requestUri.toList =
        Destination.ofUrl s origin.requestUri.toList) := by
  refine ⟨_, _, ofRequest_absoluteForm hh hp hpath hq method headers,
    ofRequest_originForm hp hpath hq method headers, String.toList_ofList, ?_⟩
  generalize Percent.decode (Latin1.ofBytes path) = decoded
  have horigin : (Snapshot.naming [] decoded query.tail headers).path.toList = decoded := String.toList_ofList
  have hpaths : (Snapshot.naming (Latin1.ofBytes host) (Url.cut decoded) query.tail headers).path =
      (Snapshot.naming [] decoded query.tail headers).path ↔ ∀ c ∈ decoded, ¬ Url.Marks c :=
    String.ofList_inj.trans Url.cut_eq_self_iff
  have huris := (Snapshot.requestUri_eq_iff (a := .naming (Latin1.ofBytes host) (Url.cut decoded)
    query.tail headers) (b := .naming [] decoded query.tail headers) rfl).trans hpaths
  rw [horigin]
  exact ⟨rfl, hpaths, huris, fun h s => by rw [huris.2 h]⟩

/-- A host with a port and a path with escapes have one snapshot path in both forms. -/
theorem Snapshot.forms_agree_iff_escapedEuro :
    Url.NameWithPort (Latin1.ofBytes (Utf8.encode "godoc.org:8080".toList)) ∧
      (63 : UInt8) ∉ Utf8.encode "/%E2%82%AC;v=1".toList ∧
      ∃ absolute origin,
        Snapshot.ofRequest (.ofTarget "GET" (absoluteForm (Utf8.encode "godoc.org:8080".toList)
          (Utf8.encode "/%E2%82%AC;v=1".toList) ++ Utf8.encode "?imports".toList) []) = .ok absolute ∧
        Snapshot.ofRequest (.ofTarget "GET" (Utf8.encode "/%E2%82%AC;v=1".toList ++
          Utf8.encode "?imports".toList) []) = .ok origin ∧
        absolute.urlHost = "godoc.org:8080" ∧ absolute.path = origin.path := by
  have hname : ∀ c ∈ "godoc.org".toList, c.isAlphanum = true ∨ c = '.' ∨ c = '-' :=
    forall_of_all (by decide)
  have hdigits : ∀ c ∈ "8080".toList, c.isDigit = true := forall_of_all (by decide)
  have hh : Url.NameWithPort (Latin1.ofBytes (Utf8.encode "godoc.org:8080".toList)) := by
    have hport := Url.NameWithPort.port hname hdigits
    exact hport
  have hp : (Utf8.encode "/%E2%82%AC;v=1".toList).head? = some 47 := rfl
  have hpath : (63 : UInt8) ∉ Utf8.encode "/%E2%82%AC;v=1".toList := by decide
  have hq : Utf8.encode "?imports".toList = [] ∨ (Utf8.encode "?imports".toList).head? = some 63 := .inr rfl
  have hhost : Latin1.text (Utf8.encode "godoc.org:8080".toList) = "godoc.org:8080" := by decide
  obtain ⟨absolute, origin, ha, ho, hdecoded, rfl, hiff, -⟩ :=
    Snapshot.forms_agree_iff hh hp hpath hq "GET" []
  refine ⟨hh, hpath, _, origin, ha, ho, hhost, hiff.2 ?_⟩
  rw [hdecoded]
  exact forall_of_all (by decide +kernel)

/-- An escaped question mark ends the path of a target in absolute form only. -/
theorem Snapshot.escapedQuestionMark_cut :
    ∃ absolute origin,
      Snapshot.ofRequest (.ofTarget "GET" (absoluteForm (Utf8.encode "godoc.org".toList)
        (Utf8.encode "/a%3Fb".toList)) []) = .ok absolute ∧
      Snapshot.ofRequest (.ofTarget "GET" (Utf8.encode "/a%3Fb".toList) []) = .ok origin ∧
      absolute.path = "/a" ∧ origin.path = "/a?b" ∧
      Destination.ofUrl {} absolute.requestUri.toList ≠ Destination.ofUrl {} origin.requestUri.toList := by
  have hh : Url.NameWithPort (Latin1.ofBytes (Utf8.encode "godoc.org".toList)) :=
    .alone (forall_of_all (by decide))
  have hp : (Utf8.encode "/a%3Fb".toList).head? = some 47 := rfl
  have hpath : (63 : UInt8) ∉ Utf8.encode "/a%3Fb".toList := by decide
  have habsolute := ofRequest_absoluteForm hh hp hpath (.inl rfl) "GET" []
  have horigin := ofRequest_originForm hp hpath (.inl rfl) "GET" []
  rw [List.append_nil] at habsolute horigin
  exact ⟨_, _, habsolute, horigin, by decide +kernel, by decide +kernel, by decide +kernel⟩

end Forms

end Changeover
