import Changeover.Proofs.FieldNames
import Changeover.Proofs.LegacyProxy

/-!
# What reaches the legacy site

A target of printable ASCII is forwarded with its escapes untouched: a few characters that may not stand in
a URL are escaped (`encode_sentInPath`, `encode_sentInQuery`), and none of them can be part of an escape, so
the target that arrives is read as the one that was sent (`runBytes_joined`). Everything else of the
request is passed on as it is (`forward_asReceived`).
-/

namespace Changeover

open Text

namespace Text.Percent

/-! ### Escaping what is no part of an escape -/

theorem byte?_eq_none_left {a : Char} (h : Hex.value? a = none) (b : Char) : byte? a b = none := by
  rw [byte?, h]

theorem byte?_eq_none_right {b : Char} (h : Hex.value? b = none) (a : Char) : byte? a b = none := by
  rw [byte?, h]
  cases Hex.value? a <;> rfl

/-- A text that does not begin with two digits. -/
def NoDigits (s : List Char) : Prop := ∀ a b r, s = a :: b :: r → byte? a b = none

theorem runBytes_percent {s : List Char} (h : NoDigits s) : runBytes ('%' :: s) = 37 :: runBytes s := by
  match s with
  | [] => rfl
  | [a] => rfl
  | a :: b :: r => rw [runBytes, h a b r rfl]

theorem runBytes_percent_digits {a b : Char} {x : UInt8} (h : byte? a b = some x) (r : List Char) :
    runBytes ('%' :: a :: b :: r) = x :: runBytes r := by
  rw [runBytes, h]

/-- A text is taken apart as it is read: escapes, signs that start none, and other characters. -/
@[elab_as_elim]
theorem read_induction {P : List Char → Prop} (nil : P [])
    (escape : ∀ a b x r, byte? a b = some x → P r → P ('%' :: a :: b :: r))
    (sign : ∀ r, NoDigits r → P r → P ('%' :: r)) (plain : ∀ c r, c ≠ '%' → P r → P (c :: r))
    (s : List Char) : P s := by
  induction s using runBytes.induct with
  | case1 a b r x hx ih => exact escape a b x r hx ih
  | case2 a b r hx ih =>
    refine sign _ (fun a' b' r' h => ?_) ih
    cases h
    exact hx
  | case3 c r hc ih =>
    by_cases hp : c = '%'
    · subst hp
      exact sign r (fun a b r' h => (hc a b r' rfl h).elim) ih
    · exact plain c r hp ih
  | case4 => exact nil

/-- The characters that are kept if the marks are escaped. -/
def outside (marks : List Char) (c : Char) : Bool := !marks.contains c

/-- Marks that can be told from what they are escaped as: ASCII characters other than the sign of an escape
and its digits. -/
def Escapable (marks : List Char) : Prop :=
  ∀ c ∈ marks, c.toNat < 128 ∧ c ≠ '%' ∧ Hex.value? c = none

instance (marks : List Char) : Decidable (Escapable marks) := List.decidableBAll _ marks

variable {marks : List Char}

theorem encodeChar_of_not_mem {c : Char} (h : c ∉ marks) : encodeChar (outside marks) c = [c] :=
  if_pos (by simpa [outside] using h)

theorem encodeChar_of_mem {c : Char} (hm : Escapable marks) (h : c ∈ marks) :
    encodeChar (outside marks) c = escape (UInt8.ofNat c.toNat) := by
  have hkeep : ¬ outside marks c = true := by simpa [outside] using h
  rw [encodeChar, if_neg hkeep, Utf8.encodeChar, if_pos (hm c h).1, List.flatMap_singleton]

theorem NoDigits.encode (hm : Escapable marks) {s : List Char} (h : NoDigits s) :
    NoDigits (encode (outside marks) s) := by
  -- an escaped mark begins with the sign, which is no digit; the digits themselves are not escaped
  have hsign (b : Char) : byte? '%' b = none := byte?_eq_none_left (by decide) b
  intro a b r hr
  match s with
  | [] => cases hr
  | c :: s =>
    rw [encode_cons] at hr
    by_cases hc : c ∈ marks
    · rw [encodeChar_of_mem hm hc] at hr
      cases hr
      exact hsign _
    rw [encodeChar_of_not_mem hc] at hr
    match s with
    | [] => cases hr
    | d :: s =>
      rw [encode_cons] at hr
      by_cases hd : d ∈ marks
      · rw [encodeChar_of_mem hm hd] at hr
        cases hr
        exact byte?_eq_none_right (by decide) _
      · rw [encodeChar_of_not_mem hd] at hr
        cases hr
        exact h _ _ _ rfl

theorem runBytes_encode_outside (hm : Escapable marks) (s : List Char) :
    runBytes (encode (outside marks) s) = runBytes s := by
  have hsign : '%' ∉ marks := fun h => (hm _ h).2.1 rfl
  induction s using read_induction with
  | nil => rfl
  | escape a b x r hx ih =>
    have ha : a ∉ marks := fun h => by rw [byte?_eq_none_left (hm a h).2.2] at hx; cases hx
    have hb : b ∉ marks := fun h => by rw [byte?_eq_none_right (hm b h).2.2] at hx; cases hx
    simp only [encode_cons, encodeChar_of_not_mem hsign, encodeChar_of_not_mem ha,
      encodeChar_of_not_mem hb, List.singleton_append]
    rw [runBytes_percent_digits hx, runBytes_percent_digits hx, ih]
  | sign r hr ih =>
    rw [encode_cons, encodeChar_of_not_mem hsign, List.singleton_append,
      runBytes_percent (hr.encode hm), runBytes_percent hr, ih]
  | plain c r hp ih =>
    rw [encode_cons, runBytes_cons hp]
    by_cases hmark : c ∈ marks
    · rw [encodeChar_of_mem hm hmark, runBytes_escape, ih]
    · rw [encodeChar_of_not_mem hmark, List.singleton_append, runBytes_cons hp, ih]

/-- A character that is no digit ends what can be an escape. -/
theorem runBytes_append {c : Char} (hd : Hex.value? c = none) (s t : List Char) :
    runBytes (s ++ c :: t) = runBytes s ++ runBytes (c :: t) := by
  have hsplit {r : List Char} (hr : NoDigits r) : NoDigits (r ++ c :: t) := by
    intro a b r' h
    match r with
    | [] => cases h; exact byte?_eq_none_left hd _
    | [x] => cases h; exact byte?_eq_none_right hd _
    | x :: y :: r => cases h; exact hr _ _ _ rfl
  induction s using read_induction with
  | nil => rfl
  | escape a b x r hx ih =>
    simp only [List.cons_append]
    rw [runBytes_percent_digits hx, runBytes_percent_digits hx, ih]
    rfl
  | sign r hr ih =>
    rw [List.cons_append, runBytes_percent (hsplit hr), runBytes_percent hr, ih]
    rfl
  | plain x r hp ih =>
    rw [List.cons_append, runBytes_cons hp, runBytes_cons hp, ih]
    rfl

theorem encode_congr {keep keep' : Char → Bool} {s : List Char} (h : ∀ c ∈ s, keep c = keep' c) :
    encode keep s = encode keep' s := by
  induction s with
  | nil => rfl
  | cons c s ih =>
    obtain ⟨hc, hs⟩ := List.forall_mem_cons.1 h
    rw [encode_cons, encode_cons, ih hs, encodeChar, encodeChar, hc]

theorem encode_outside_of_not_mem {s : List Char} (h : ∀ c ∈ marks, c ∉ s) :
    encode (outside marks) s = s := by
  induction s with
  | nil => rfl
  | cons c s ih =>
    rw [encode_cons, encodeChar_of_not_mem fun hc => h c hc List.mem_cons_self,
      ih fun x hx hs => h x hx (List.mem_cons_of_mem c hs)]
    rfl

end Text.Percent

namespace Gateway

/-- The characters that may not stand in a path. -/
def pathMarks : List Char := " \"<>`\x7b\x7d".toList

/-- The characters that may not stand in a query. -/
def queryMarks : List Char := " \"<>".toList

/-- A part of a target with its marks escaped. -/
def escaped (marks : List Char) (b : Bytes) : List Char :=
  Percent.encode (Percent.outside marks) (Latin1.ofBytes b)

/-- A path and, after a `?`, its query, if it has one. -/
def joined (path : List Char) : Option (List Char) → List Char
  | none => path
  | some query => path ++ '?' :: query

variable {r : Request} {path b : Bytes}

theorem map_query?_congr {f g : Bytes → List Char} (h : f b = g b) :
    (query? b).map f = (query? b).map g := by
  unfold query?
  split
  · rfl
  · exact congrArg some h

theorem escapable_pathMarks : Percent.Escapable pathMarks := by decide

theorem escapable_queryMarks : Percent.Escapable queryMarks := by decide

theorem encode_eq_escaped {keep : Char → Bool} {marks : List Char}
    (h : ∀ x ∈ b, keep (Latin1.charOf x) = Percent.outside marks (Latin1.charOf x)) :
    Percent.encode keep (Latin1.ofBytes b) = escaped marks b := by
  refine Percent.encode_congr fun c hc => ?_
  obtain ⟨x, hx, rfl⟩ := List.mem_map.1 hc
  exact h x hx

theorem encode_sentInPath (h : Sendable b) (hq : 63 ∉ b) :
    Percent.encode Url.sentInPath (Latin1.ofBytes b) = escaped pathMarks b := by
  have hall : ∀ x : UInt8, 32 ≤ x → x < 127 → x ≠ 35 → x ≠ 63 →
      Url.sentInPath (Latin1.charOf x) = Percent.outside pathMarks (Latin1.charOf x) :=
    Latin1.of_byte (by decide +kernel)
  refine encode_eq_escaped fun x hx => ?_
  obtain ⟨hlow, hhigh, hhash⟩ := h x hx
  exact hall x hlow hhigh hhash fun he => hq (he ▸ hx)

theorem encode_sentInQuery (h : Sendable b) :
    Percent.encode Url.sentInQuery (Latin1.ofBytes b) = escaped queryMarks b := by
  have hall : ∀ x : UInt8, 32 ≤ x → x < 127 → x ≠ 35 →
      Url.sentInQuery (Latin1.charOf x) = Percent.outside queryMarks (Latin1.charOf x) :=
    Latin1.of_byte (by decide +kernel)
  refine encode_eq_escaped fun x hx => ?_
  obtain ⟨hlow, hhigh, hhash⟩ := h x hx
  exact hall x hlow hhigh hhash

theorem not_mem_escaped_path (h : SentTarget r path) : '?' ∉ escaped pathMarks path := by
  obtain ⟨raw, -, rfl⟩ := h.sent
  rw [← encode_sentInPath h.path (not_mem_before 63 raw)]
  intro hq
  rcases Percent.encode_chars hq with hkept | hsign | ⟨n, hn, hdigit⟩
  · exact absurd hkept (by decide)
  · exact absurd hsign (by decide)
  · have hnone : ∀ n : Fin 16, '?' ≠ Hex.upper n := by decide
    exact hnone ⟨n, hn⟩ hdigit

theorem text_forwardedTarget (h : SentTarget r path) (hd : ¬ [47, 47] <+: path) :
    ∃ t, forwardedTarget r = .ok t ∧
      t.text = joined (escaped pathMarks path) ((query? r.query).map (escaped queryMarks)) := by
  obtain ⟨raw, -, hraw⟩ := h.sent
  have hmark : 63 ∉ path := hraw ▸ not_mem_before 63 raw
  have hne : (escaped pathMarks path).isEmpty = false := by
    obtain ⟨rest, rfl⟩ := List.head?_eq_some_iff.1 h.slash
    rfl
  have hquery : (query? r.query).map (fun q => Percent.encode Url.sentInQuery (Latin1.ofBytes q)) =
      (query? r.query).map (escaped queryMarks) := map_query?_congr (encode_sentInQuery h.query)
  refine ⟨_, (forwardedTarget_sent h).trans (if_neg hd), ?_⟩
  simp only [Url.Target.text, encode_sentInPath h.path hmark, hquery, hne]
  cases (query? r.query).map (escaped queryMarks) <;> rfl

theorem cut_joined {path : List Char} (h : '?' ∉ path) (query : Option (List Char)) :
    before '?' (joined path query) = path ∧ after? '?' (joined path query) = query ∧
      ('?' ∈ joined path query ↔ query ≠ none) := by
  cases query with
  | none => exact ⟨before_eq_self h, after?_eq_none h, by simp [joined, h]⟩
  | some query => exact ⟨before_append h _, after?_append h _, by simp [joined]⟩

theorem runBytes_joined (path : Bytes) (query : Option Bytes) :
    Percent.runBytes (joined (escaped pathMarks path) (query.map (escaped queryMarks))) =
      Percent.runBytes (joined (Latin1.ofBytes path) (query.map Latin1.ofBytes)) := by
  have hpath : Percent.runBytes (escaped pathMarks path) = Percent.runBytes (Latin1.ofBytes path) :=
    Percent.runBytes_encode_outside escapable_pathMarks _
  cases query with
  | none => exact hpath
  | some query =>
    have hquery : Percent.runBytes (escaped queryMarks query) = Percent.runBytes (Latin1.ofBytes query) :=
      Percent.runBytes_encode_outside escapable_queryMarks _
    have hmark : Hex.value? '?' = none := by decide
    have hplain : '?' ≠ '%' := by decide
    simp only [Option.map_some, joined, Percent.runBytes_append hmark, Percent.runBytes_cons hplain,
      hpath, hquery]

/-- The request reaches the legacy site as it was received: with its fields in order, but for those of the
connection, and with no more of its target escaped than the marks. -/
structure AsReceived (r : Request) (path body : Bytes) (f : Forwarded) : Prop where
  method : f.method = r.method
  body : f.body = body
  headers : f.headers = r.headers.filter fun h => !(isOfConnection h || isNamed "host" h)
  pathPart : before '?' f.target.toList = escaped pathMarks path
  queryPart : after? '?' f.target.toList = (query? r.query).map (escaped queryMarks)
  hasQuery : '?' ∈ f.target.toList ↔ r.query ≠ []
  unchanged : (∀ c ∈ pathMarks, c ∉ Latin1.ofBytes path) →
    (∀ c ∈ queryMarks, c ∉ Latin1.ofBytes r.query) →
      f.target.toList = joined (Latin1.ofBytes path) ((query? r.query).map Latin1.ofBytes)
  read : Percent.runBytes f.target.toList =
    Percent.runBytes (joined (Latin1.ofBytes path) ((query? r.query).map Latin1.ofBytes))

theorem forwarded_afterAnswer (r : Request) (u : LegacyReply) : (afterAnswer r u).forwarded = [] := by
  match u with
  | .answered a =>
    rw [afterAnswer]
    split <;> rfl
  | .failed (.transport name message) =>
    simp only [afterAnswer, afterFailure]
    split <;> rfl
  | .failed (.foreign name message) => rfl

/-- A request for such a target is forwarded once, whatever comes of it. -/
theorem forward_asReceived (h : SentTarget r path) (hd : ¬ [47, 47] <+: path) (body : Bytes)
    (u : LegacyReply) :
    ∃ f, (forward r (some body) u).forwarded = [f] ∧ AsReceived r path body f := by
  obtain ⟨t, ht, htext⟩ := text_forwardedTarget h hd
  have htarget : (forwarding r t body).target.toList =
      joined (escaped pathMarks path) ((query? r.query).map (escaped queryMarks)) := by
    rw [forwarding, String.toList_ofList, htext]
  obtain ⟨hbefore, hafter, hasked⟩ :=
    cut_joined (not_mem_escaped_path h) ((query? r.query).map (escaped queryMarks))
  rw [← htarget] at hbefore hafter hasked
  have hforwarded : (forward r (some body) u).forwarded = [forwarding r t body] := by
    simp only [forward, ht]
    show forwarding r t body :: (afterAnswer r u).forwarded = _
    rw [forwarded_afterAnswer]
  refine ⟨_, hforwarded, rfl, rfl, ?_, hbefore, hafter, hasked.trans ?_, fun hp hq => ?_, ?_⟩
  · exact List.filter_congr fun f _ => isForwarded_eq f
  · cases r.query <;> simp [query?]
  · have hquery : (query? r.query).map (escaped queryMarks) = (query? r.query).map Latin1.ofBytes :=
      map_query?_congr (Percent.encode_outside_of_not_mem hq)
    rw [htarget, hquery, escaped, Percent.encode_outside_of_not_mem hp]
  · rw [htarget, runBytes_joined]

/-- A request of which the raw path holds the query too, with two fields of its connection. -/
def repeatedQuery : Request :=
  { Request.ofTarget "POST" (Utf8.encode "/a%2Fb<c?q=%22x y".toList)
      [Header.raw "HOST" "godoc.org", Header.raw "Accept" "a", Header.raw "Connection" "close",
        Header.raw "accept" "b"] with
    rawPath := some (Utf8.encode "/a%2Fb<c?q=%22x y".toList) }

theorem forward_asReceived_repeatedQuery :
    SentTarget repeatedQuery (Utf8.encode "/a%2Fb<c".toList) ∧
      ¬ [47, 47] <+: Utf8.encode "/a%2Fb<c".toList ∧
      ∃ f, (forward repeatedQuery (some [98]) unreachable).forwarded = [f] ∧
        before '?' f.target.toList = "/a%2Fb%3Cc".toList ∧
        after? '?' f.target.toList = some "q=%22x%20y".toList ∧
        f.headers = [Header.raw "Accept" "a", Header.raw "accept" "b"] := by
  have hr : SentTarget repeatedQuery (Utf8.encode "/a%2Fb<c".toList) :=
    ⟨⟨_, rfl, by decide⟩, by decide, by decide, by decide, by decide, by decide⟩
  have hd : ¬ [47, 47] <+: Utf8.encode "/a%2Fb<c".toList := by decide
  obtain ⟨f, hf, h⟩ := forward_asReceived hr hd [98] unreachable
  exact ⟨hr, hd, f, hf, h.pathPart.trans (by decide), h.queryPart.trans (by decide),
    h.headers.trans (by decide)⟩

end Gateway

end Changeover
