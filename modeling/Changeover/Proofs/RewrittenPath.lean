import Changeover.Proofs.ForwardedTarget
import Changeover.Proofs.Location
import Changeover.Proofs.TransportFailures

/-!
# Paths that are written anew

When a request comes without the path as it was sent, its decoded path is escaped again. What is escaped then is
the path of the request's URL, where three delimiters have been escaped already and tabs and line ends are gone
(`urlPath_named`). The second escaping itself loses nothing: whoever reads the target gets that path
(`forwardedTarget_rewritten_iff`). So the resource that was asked for is reached exactly if the decoded path holds
none of these six characters (`rewritten_reads_iff`); all others, the escape sign among them, come through.
-/

namespace Changeover

open Text

namespace Url

variable {host path : List Char}

/-- A name of letters, digits, dots and hyphens. -/
def PlainName (host : List Char) : Prop :=
  host ≠ [] ∧ ∀ c ∈ host, c.isAlphanum = true ∨ c = '.' ∨ c = '-'

theorem isEscapedName_of_isNameChar (h : ∀ c ∈ host, isNameChar c = true) : isEscapedName host = true := by
  induction host with
  | nil => rfl
  | cons c host ih =>
    obtain ⟨hc, hhost⟩ := List.forall_mem_cons.1 h
    have hsign : c ≠ '%' := by
      rintro rfl
      cases hc
    rw [isEscapedName, hc, ih hhost]
    · rfl
    · intro _ _ _ he
      exact absurd he hsign

theorem PlainName.isHost (h : PlainName host) : isHost host = true := by
  obtain ⟨hne, hchars⟩ := h
  have hname : ∀ c ∈ host, isNameChar c = true ∧ c ≠ ':' ∧ c ≠ '[' := by
    intro c hc
    rcases hchars c hc with ha | rfl | rfl
    · refine ⟨by simp [isNameChar, Percent.unreserved, ha], ?_, ?_⟩ <;> (rintro rfl; cases ha)
    · decide
    · decide
  have hcolon : before ':' host = host := before_eq_self fun hm => (hname _ hm).2.1 rfl
  unfold Url.isHost
  split
  · exact absurd rfl (hname '[' List.mem_cons_self).2.2
  · simp only [hcolon, List.drop_length, isEscapedName_of_isNameChar fun c hc => (hname c hc).1,
      Bool.and_true, isServicePart]
    simpa using hne

theorem cut_query (hq : '?' ∉ path) (hh : '#' ∉ path) (query : List Char) :
    cut path = path.filter isKept ∧ cut (path ++ '?' :: query) = path.filter isKept := by
  have hq' : '?' ∉ path.filter isKept := fun h => hq (List.mem_filter.1 h).1
  have hh' : '#' ∉ path.filter isKept := fun h => hh (List.mem_filter.1 h).1
  refine ⟨by rw [cut, before_eq_self hh', before_eq_self hq'], ?_⟩
  have hkept : ('?' :: query).filter isKept = '?' :: query.filter isKept := rfl
  have hmark : before '#' ('?' :: query.filter isKept) = '?' :: before '#' (query.filter isKept) := rfl
  rw [cut, List.filter_append, hkept, before_append_of_not_mem hh', hmark, before_append hq']

theorem sentInPath_escapePath : ∀ c ∈ escapePath path, sentInPath c = true := by
  have hmarks : ∀ mark ∈ "\"#<>?`\x7b\x7d".toList,
      keptInPath mark = false ∧ mark ≠ '%' ∧ ∀ n : Fin 16, mark ≠ Hex.upper n := forall_of_all (by decide)
  intro c hc
  have hmark : "\"#<>?`\x7b\x7d".toList.contains c = false := by
    refine Bool.eq_false_iff.2 fun hm => ?_
    obtain ⟨hkept, hsign, hdigit⟩ := hmarks c (List.contains_iff_mem.1 hm)
    exact not_mem_escapePath hkept hsign hdigit path hc
  obtain ⟨hlow, hhigh, -⟩ := (Written.of_escapePath hc).harmless
  rw [sentInPath, hmark, decide_eq_true (show 33 ≤ c.toNat by omega),
    decide_eq_true (show c.toNat ≤ 126 by omega)]
  rfl

theorem doubled_escapePath_iff (h : path.head? = some '/') :
    "//".toList <+: escapePath path ↔ "//".toList <+: path := by
  obtain ⟨rest, rfl⟩ := List.head?_eq_some_iff.1 h
  have hdoubled (l : List Char) : "//".toList <+: '/' :: l ↔ l.head? = some '/' := by
    cases l <;> simp [eq_comm]
  have hkept : escapePath ('/' :: rest) = '/' :: escapePath rest := rfl
  rw [hkept, hdoubled, hdoubled, head?_escapePath_eq_slash]

theorem exists_escapePath_bytes (path : List Char) :
    ∃ b, Utf8.encode (escapePath path) = b ∧ Latin1.ofBytes b = escapePath path := by
  have hwritten : ∀ c ∈ escapePath path, c.toNat < 128 := fun c hc => (Written.of_escapePath hc).ascii
  obtain ⟨b, hb, hascii⟩ := Latin1.toBytes?_ascii hwritten
  have hread := Latin1.ofBytes_of_toBytes? hb
  exact ⟨b, by rw [← hread, Utf8.encode_ofBytes hascii], hread⟩

end Url

namespace Gateway

variable {r : Request} {path raw : Bytes}

/-- The query can be sent. -/
def QueryFits (r : Request) : Prop := Sendable r.query ∧ r.query.length ≤ Url.maxLength

/-- A path that begins with a slash is forwarded exactly if it and the query are of printable ASCII without `#` and
not too long, and no other slash follows the first one. -/
theorem forwardedTarget_eq_ok_iff (hpath : forwardedPath r = .ok path) (hmark : 63 ∉ path)
    (hslash : path.head? = some 47) {t : Url.Target} : forwardedTarget r = .ok t ↔
      (Sendable path ∧ path.length ≤ Url.maxLength ∧ ¬ [47, 47] <+: path ∧ QueryFits r) ∧
        t = {
          path := Percent.encode Url.sentInPath (Latin1.ofBytes path)
          query := (query? r.query).map fun q => Percent.encode Url.sentInQuery (Latin1.ofBytes q) } := by
  rw [forwardedTarget_of_path hpath hmark, QueryFits, sendable_iff, sendable_iff]
  have hrefused : Url.isRefused path r.query = false ↔ path.any Url.isControl = false ∧
      r.query.any Url.isControl = false ∧ path.contains 35 = false ∧ r.query.contains 35 = false ∧
      path.length ≤ Url.maxLength ∧ r.query.length ≤ Url.maxLength ∧ ¬ [47, 47] <+: path := by
    simp only [Url.isRefused, isMisleading_eq hslash, Bool.or_eq_false_iff, decide_eq_false_iff_not,
      Nat.not_lt, and_assoc]
  by_cases hhigh : (path.any (128 ≤ ·) || r.query.any (128 ≤ ·)) = true
  · rw [if_pos hhigh]
    refine iff_of_false (fun h => by cases h) ?_
    rintro ⟨⟨⟨hp, -⟩, -, -, ⟨hq, -⟩, -⟩, -⟩
    rw [hp, hq] at hhigh
    cases hhigh
  rw [if_neg hhigh]
  obtain ⟨hp, hq⟩ := Bool.or_eq_false_iff.1 (Bool.eq_false_iff.2 hhigh)
  by_cases hr : Url.isRefused path r.query = true
  · rw [if_pos hr]
    refine iff_of_false (fun h => by cases h) ?_
    rintro ⟨⟨⟨-, h₁, h₂⟩, h₃, h₄, ⟨-, h₅, h₆⟩, h₇⟩, -⟩
    exact Bool.false_ne_true ((hrefused.2 ⟨h₁, h₅, h₂, h₆, h₃, h₇, h₄⟩).symm.trans hr)
  · rw [if_neg hr]
    obtain ⟨h₁, h₅, h₂, h₆, h₃, h₇, h₄⟩ := hrefused.1 (Bool.eq_false_iff.2 hr)
    rw [and_iff_right ⟨⟨hp, h₁, h₂⟩, h₃, h₄, ⟨hq, h₅, h₆⟩, h₇⟩, Except.ok.injEq, eq_comm]

/-! ### The path of a request's URL -/

/-- What the URL of a request with a host makes of its path. -/
def rebuilt (path : List Char) : List Char := (path.flatMap delimiterEscape).filter Url.isKept

/-- The characters that do not come through: delimiters that are escaped, and tabs and line ends, which are left
out. -/
def altered : List Char := ['?', '#', '\\', '\t', '\n', '\r']

theorem not_mem_delimiterEscape {x : Char} (hx : x = '?' ∨ x = '#' ∨ x = '\\') (c : Char) :
    x ∉ delimiterEscape c := by
  have hescapes : x ∉ "%3F".toList ∧ x ∉ "%23".toList ∧ x ∉ "%5C".toList := by
    rcases hx with rfl | rfl | rfl <;> decide
  unfold delimiterEscape
  split
  · exact hescapes.1
  split
  · exact hescapes.2.1
  split
  · exact hescapes.2.2
  · next hquestion hhash hbackslash =>
    intro hm
    obtain rfl := List.mem_singleton.1 hm
    rcases hx with rfl | rfl | rfl
    · exact hquestion rfl
    · exact hhash rfl
    · exact hbackslash rfl

theorem not_mem_flatMap_delimiterEscape {x : Char} (hx : x = '?' ∨ x = '#' ∨ x = '\\') (path : List Char) :
    x ∉ path.flatMap delimiterEscape := by
  intro hm
  obtain ⟨c, -, hc⟩ := List.mem_flatMap.1 hm
  exact not_mem_delimiterEscape hx c hc

theorem delimiterEscape_of_plain {c : Char} (h : c ∉ altered) : delimiterEscape c = [c] := by
  simp only [altered, List.mem_cons, List.not_mem_nil, or_false, not_or] at h
  obtain ⟨hquestion, hhash, hbackslash, -⟩ := h
  simp only [delimiterEscape, beq_false_of_ne hquestion, beq_false_of_ne hhash, beq_false_of_ne hbackslash]
  rfl

theorem rebuilt_eq_self_iff {path : List Char} : rebuilt path = path ↔ ∀ c ∈ altered, c ∉ path := by
  constructor
  · -- what is escaped or left out stands nowhere in the outcome
    intro h c hc hm
    rw [← h] at hm
    obtain ⟨hm, hkept⟩ := List.mem_filter.1 hm
    simp only [altered, List.mem_cons, List.not_mem_nil, or_false] at hc
    rcases hc with hc | hc | hc | rfl | rfl | rfl
    · exact not_mem_flatMap_delimiterEscape (.inl hc) path hm
    · exact not_mem_flatMap_delimiterEscape (.inr (.inl hc)) path hm
    · exact not_mem_flatMap_delimiterEscape (.inr (.inr hc)) path hm
    all_goals cases hkept
  · intro h
    have hescape : path.flatMap delimiterEscape = path := by
      induction path with
      | nil => rfl
      | cons c path ih =>
        have hc : c ∉ altered := fun ha => h c ha List.mem_cons_self
        rw [List.flatMap_cons, delimiterEscape_of_plain hc,
          ih fun x hx hm => h x hx (List.mem_cons_of_mem c hm)]
        rfl
    rw [rebuilt, hescape, List.filter_eq_self]
    intro c hc
    refine Bool.of_not_eq_false fun hdropped => ?_
    have hmem : c ∈ altered := by
      rcases Url.isKept_eq_false_iff.1 hdropped with rfl | rfl | rfl <;> decide
    exact h c hmem hc

theorem head?_rebuilt {path : List Char} (h : path.head? = some '/') : (rebuilt path).head? = some '/' := by
  obtain ⟨rest, rfl⟩ := List.head?_eq_some_iff.1 h
  rfl

theorem urlStem_named (host : String) {path : List Char} (h : path.head? = some '/') :
    urlStem (some host) path =
      "http".toList ++ "://".toList ++ (host.toList ++ path.flatMap delimiterEscape) := by
  obtain ⟨rest, rfl⟩ := List.head?_eq_some_iff.1 h
  rw [List.append_assoc]
  rfl

theorem urlPath_named {host : String} {q : List Char} (hhost : namedHost r = some host)
    (hslash : r.path.toList.head? = some '/') (hq : Utf8.decode? r.query = some q) :
    urlPath r = .ok (rebuilt r.path.toList) := by
  have hlegal := isHost_of_namedHost hhost
  have hscheme : Url.isScheme "http".toList = true := by decide
  have hauthority : ∀ c ∈ host.toList, Url.isKept c = true ∧ Url.endsAuthority c = false := fun c hc =>
    ⟨Url.isKept_of_isHost hlegal c hc, by simpa using Url.not_endsAuthority_of_isHost hlegal c hc⟩
  have hsplit {p : List Char} (hp : p.head? = some '/') :=
    Url.split_absolute hscheme (Url.checkAuthority_of_isHost hlegal) hauthority hp
  obtain ⟨rest, hrest⟩ : ∃ rest, r.path.toList.flatMap delimiterEscape = '/' :: rest := by
    obtain ⟨rest, hrest⟩ := List.head?_eq_some_iff.1 hslash
    rw [hrest]
    exact ⟨_, rfl⟩
  -- no mark is left in the escaped path at which it could be cut before the query
  have hcut := Url.cut_query (not_mem_flatMap_delimiterEscape (.inl rfl) r.path.toList)
    (not_mem_flatMap_delimiterEscape (.inr (.inl rfl)) r.path.toList)
  rw [urlPath, urlOf, hhost, urlStem_named host hslash, rebuilt]
  rw [hrest] at hcut ⊢
  cases r.query.isEmpty with
  | true =>
    obtain ⟨parts, hparts, -, hpath, -⟩ := hsplit (p := '/' :: rest) rfl
    simp only [if_true, bind, Except.bind, hparts, hpath, (hcut []).1]
    rfl
  | false =>
    obtain ⟨parts, hparts, -, hpath, -⟩ := hsplit (p := '/' :: rest ++ '?' :: q) rfl
    rw [hq]
    simp only [Bool.false_eq_true, if_false, bind, Except.bind, List.append_assoc] at hparts ⊢
    rw [hparts]
    simp only [hpath, (hcut q).2]
    rfl

/-! ### The target -/

/-- Without the path as it was sent, the path of the URL is escaped and forwarded. It is read as what it was before
it was escaped. -/
theorem forwardedTarget_rewritten_iff (hraw : r.rawPath = none) {path : List Char} (hpath : urlPath r = .ok path)
    (hslash : path.head? = some '/') {t : Url.Target} : forwardedTarget r = .ok t ↔
      ((Url.escapePath path).length ≤ Url.maxLength ∧ ¬ "//".toList <+: path ∧ QueryFits r) ∧
        t = {
          path := Url.escapePath path
          query := (query? r.query).map fun q => Percent.encode Url.sentInQuery (Latin1.ofBytes q) } := by
  obtain ⟨b, hb, hread⟩ := Url.exists_escapePath_bytes path
  have hforwarded : forwardedPath r = .ok b := by
    rw [forwardedPath, hraw]
    simp only [hpath, bind, Except.bind, hb]
    rfl
  have hwritten : ∀ x ∈ b, Latin1.charOf x ∈ Url.escapePath path := fun x hx =>
    hread ▸ List.mem_map_of_mem hx
  have hmark : 63 ∉ b := fun hx => Url.question_not_mem_escapePath path (hwritten 63 hx)
  have hsendable : Sendable b := by
    intro x hx
    obtain ⟨hlow, hhigh, -, -, -, hhash⟩ := (Url.Written.of_escapePath (hwritten x hx)).harmless
    rw [Latin1.toNat_charOf] at hlow hhigh
    refine ⟨UInt8.le_iff_toNat_le.2 (Nat.le_of_lt hlow), UInt8.lt_iff_toNat_lt.2 hhigh, ?_⟩
    rintro rfl
    exact hhash rfl
  have hhead : b.head? = some 47 := by
    obtain ⟨rest, hrest⟩ := List.head?_eq_some_iff.1 ((Url.head?_escapePath_eq_slash path).2 hslash)
    obtain ⟨rest, rfl⟩ : [47] <+: b := by
      rw [← Latin1.ofBytes_prefix_iff, hread, hrest]
      exact ⟨rest, rfl⟩
    rfl
  have hdoubled : [47, 47] <+: b ↔ "//".toList <+: path := by
    rw [← Url.doubled_escapePath_iff hslash, ← hread]
    exact Latin1.ofBytes_prefix_iff.symm
  have hlength : b.length = (Url.escapePath path).length := by
    rw [← hread, Latin1.ofBytes, List.length_map]
  have hkept : Percent.encode Url.sentInPath (Latin1.ofBytes b) = Url.escapePath path := by
    rw [hread, Percent.encode_eq_self_iff]
    exact Url.sentInPath_escapePath
  rw [forwardedTarget_eq_ok_iff hforwarded hmark hhead, hkept, hdoubled, hlength, and_iff_right hsendable]

theorem QueryFits.decode? (h : QueryFits r) : ∃ q, Utf8.decode? r.query = some q := by
  rw [← Option.isSome_iff_exists]
  exact Utf8.decode?_ascii fun x hx => UInt8.lt_trans (h.1 x hx).2.1 (by decide)

theorem forwardedTarget_named_iff (hraw : r.rawPath = none) (hslash : r.path.toList.head? = some '/')
    (hhost : Url.isHost r.hostHeader.toList = true) {t : Url.Target} : forwardedTarget r = .ok t ↔
      ((Url.escapePath (rebuilt r.path.toList)).length ≤ Url.maxLength ∧
          ¬ "//".toList <+: rebuilt r.path.toList ∧ QueryFits r) ∧
        t = {
          path := Url.escapePath (rebuilt r.path.toList)
          query := (query? r.query).map fun q => Percent.encode Url.sentInQuery (Latin1.ofBytes q) } := by
  have hnamed : namedHost r = some r.hostHeader := if_pos hhost
  have hiff {q : List Char} (hq : Utf8.decode? r.query = some q) :=
    forwardedTarget_rewritten_iff (t := t) hraw (urlPath_named hnamed hslash hq) (head?_rebuilt hslash)
  constructor
  · intro h
    obtain ⟨q, hq⟩ := decode?_query h
    exact (hiff hq).1 h
  · intro h
    obtain ⟨q, hq⟩ := h.1.2.2.decode?
    exact (hiff hq).2 h

/-- A path is decoded as if none of it had been escaped for the way. -/
theorem decode_sentInPath {b : Bytes} (h : Sendable b) (hmark : 63 ∉ b) :
    Percent.decode (Percent.encode Url.sentInPath (Latin1.ofBytes b)) = Percent.decode (Latin1.ofBytes b) := by
  have hbytes : ∀ c ∈ Latin1.ofBytes b, c.toNat < 128 := by
    intro c hc
    obtain ⟨x, hx, rfl⟩ := List.mem_map.1 hc
    rw [Latin1.toNat_charOf]
    exact Nat.lt_trans (UInt8.lt_iff_toNat_lt.1 (h x hx).2.1) (by decide)
  have hsent : ∀ c ∈ Percent.encode Url.sentInPath (Latin1.ofBytes b), c.toNat < 128 := by
    intro c hc
    rcases Percent.encode_chars hc with hkept | rfl | ⟨n, hn, rfl⟩
    · simp only [Url.sentInPath, Bool.and_eq_true, decide_eq_true_eq] at hkept
      omega
    · decide
    · exact Hex.upper_ascii hn
  have hrun : Percent.runBytes (Percent.encode Url.sentInPath (Latin1.ofBytes b)) =
      Percent.runBytes (Latin1.ofBytes b) := by
    rw [encode_sentInPath h hmark, escaped, Percent.runBytes_encode_outside escapable_pathMarks]
  simp only [Percent.decode, Percent.decodeFrom_of_ascii hbytes, Percent.decodeFrom_of_ascii hsent,
    Percent.runText, List.append_nil, List.reverse_reverse, hrun]

/-- The target of the request is read as the path that was asked for. -/
def Reached (r : Request) : Prop :=
  ∃ t, forwardedTarget r = .ok t ∧ Percent.decode t.path = r.path.toList

theorem reached_sent (h : SentTarget r path) (hread : Percent.decode (Latin1.ofBytes path) = r.path.toList)
    (hsingle : ¬ "//".toList <+: r.path.toList) : Reached r := by
  obtain ⟨raw, -, hbefore⟩ := h.sent
  have hmark : 63 ∉ path := hbefore ▸ not_mem_before 63 raw
  have hd : ¬ [47, 47] <+: path := by
    rintro ⟨rest, rfl⟩
    have hslash : '/'.toNat < 128 ∧ '/' ≠ '%' := by decide
    have hdoubled : Percent.decode ('/' :: '/' :: Latin1.ofBytes rest) = r.path.toList := hread
    rw [Percent.decode_cons hslash.1 hslash.2, Percent.decode_cons hslash.1 hslash.2] at hdoubled
    exact hsingle ⟨_, hdoubled⟩
  refine ⟨_, (forwardedTarget_sent h).trans (if_neg hd), ?_⟩
  exact (decode_sentInPath h.path hmark).trans hread

/-- A request that names a host and has no path as it was sent is forwarded to where its path leads exactly if the
path holds none of six characters and is not too long when it is escaped, and the query can be sent. Where one of
the six makes the difference, the target is read as the path of the URL. The path as it was sent would have led to
the right place. -/
theorem rewritten_reads_iff (hraw : r.rawPath = none) (hslash : r.path.toList.head? = some '/')
    (hsingle : ¬ "//".toList <+: r.path.toList) (hhost : Url.isHost r.hostHeader.toList = true) :
    (Reached r ↔ (∀ c ∈ altered, c ∉ r.path.toList) ∧
        (Url.escapePath r.path.toList).length ≤ Url.maxLength ∧ QueryFits r) ∧
      (∀ t, forwardedTarget r = .ok t → Percent.decode t.path = rebuilt r.path.toList) ∧
      ∀ raw sent, SentTarget { r with rawPath := some raw } sent →
        Percent.decode (Latin1.ofBytes sent) = r.path.toList → Reached { r with rawPath := some raw } := by
  have hiff {t : Url.Target} := forwardedTarget_named_iff (t := t) hraw hslash hhost
  have hread : ∀ t, forwardedTarget r = .ok t → Percent.decode t.path = rebuilt r.path.toList := by
    intro t ht
    rw [(hiff.1 ht).2]
    exact Url.decode_escapePath _
  refine ⟨⟨?_, ?_⟩, hread, fun raw sent hsent hdecoded => reached_sent hsent hdecoded hsingle⟩
  · rintro ⟨t, ht, hpath⟩
    have hself : rebuilt r.path.toList = r.path.toList := (hread t ht).symm.trans hpath
    obtain ⟨hlength, -, hquery⟩ := (hiff.1 ht).1
    rw [hself] at hlength
    exact ⟨rebuilt_eq_self_iff.1 hself, hlength, hquery⟩
  · rintro ⟨hplain, hlength, hquery⟩
    have hself : rebuilt r.path.toList = r.path.toList := rebuilt_eq_self_iff.2 hplain
    rw [hself] at hiff
    have ht := hiff.2 ⟨⟨hlength, hsingle, hquery⟩, rfl⟩
    exact ⟨_, ht, (hread _ ht).trans hself⟩

/-- A request for a path with escape signs, a blank and a letter that is not ASCII, without the path as it was
sent. -/
def percentPath : Request :=
  { path := "/100%/%2F é+", query := Utf8.encode "q=%3F".toList, headers := [Header.raw "host" "godoc.org"] }

theorem rewritten_reads_iff_percentPath :
    let raw := Utf8.encode "/100%25/%252F%20%C3%A9+".toList
    percentPath.rawPath = none ∧ percentPath.path.toList.head? = some '/' ∧
      ¬ "//".toList <+: percentPath.path.toList ∧ Url.isHost percentPath.hostHeader.toList = true ∧
      Reached percentPath ∧ Reached { percentPath with rawPath := some raw } := by
  intro raw
  have hslash : percentPath.path.toList.head? = some '/' := by decide
  have hsingle : ¬ "//".toList <+: percentPath.path.toList := by decide
  have hplain : Url.PlainName percentPath.hostHeader.toList := ⟨by decide, forall_of_all (by decide)⟩
  have hfits : QueryFits percentPath := ⟨by decide, by decide⟩
  have hsent : SentTarget { percentPath with rawPath := some raw } raw :=
    ⟨⟨raw, rfl, by decide⟩, by decide, by decide, by decide, by decide, by decide⟩
  obtain ⟨hiff, -, hbranch⟩ := rewritten_reads_iff rfl hslash hsingle hplain.isHost
  have hunaltered : ∀ c ∈ altered, c ∉ percentPath.path.toList := forall_of_all (by decide)
  exact ⟨rfl, hslash, hsingle, hplain.isHost, hiff.2 ⟨hunaltered, by decide, hfits⟩,
    hbranch raw raw hsent (by decide)⟩

/-- A request for a path with a question mark in it. -/
def questionPath : Request := { path := "/a?b", headers := [Header.raw "host" "godoc.org"] }

/-- The mark is escaped twice. -/
theorem questionPath_not_reached : questionPath.rawPath = none ∧ questionPath.path.toList.head? = some '/' ∧
    ¬ "//".toList <+: questionPath.path.toList ∧ Url.PlainName questionPath.hostHeader.toList ∧
    (∃ t, forwardedTarget questionPath = .ok t ∧ t.path = "/a%253Fb".toList ∧
      Percent.decode t.path = "/a%3Fb".toList) ∧ ¬ Reached questionPath := by
  have hslash : questionPath.path.toList.head? = some '/' := by decide
  have hplain : Url.PlainName questionPath.hostHeader.toList := ⟨by decide, forall_of_all (by decide)⟩
  have hfits : QueryFits questionPath := ⟨by decide, by decide⟩
  have hiff {t : Url.Target} := forwardedTarget_named_iff (t := t) (r := questionPath) rfl hslash hplain.isHost
  have hdecoded : Percent.decode (Url.escapePath (rebuilt questionPath.path.toList)) = "/a%3Fb".toList :=
    Url.decode_escapePath _
  have htarget := hiff.2 ⟨⟨by decide, by decide, hfits⟩, rfl⟩
  refine ⟨rfl, hslash, by decide, hplain, ⟨_, htarget, by decide, hdecoded⟩, ?_⟩
  rintro ⟨t, ht, hread⟩
  rw [(hiff.1 ht).2] at hread
  exact absurd (hdecoded.symm.trans hread) (by decide)

end Gateway

end Changeover
