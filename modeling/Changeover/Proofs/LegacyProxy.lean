import Changeover.Proofs.RelayedFields
import Changeover.Proofs.ReportRuns
import Changeover.Proofs.RequestUrl

/-!
# What the legacy page returns

Every answer whose fields are ASCII can be relayed (`relay_ascii`). A target of printable ASCII can be
forwarded unless its path begins with two slashes (`forwardedTarget_plain`). `LegacyBreaks` says what keeps
the page from answering at all, so a request for such a target gets the relayed answer, or the one for a
failure, but for that beginning, a client that has gone, or a failure that cannot be logged because the URL
of the request is lost (`forward_returns_iff`).
-/

namespace Changeover

open Text

namespace Gateway

section Targets

variable {r : Request} {raw path tail : Bytes}

/-- Printable ASCII without `#`. -/
def Sendable (b : Bytes) : Prop := ∀ x ∈ b, 32 ≤ x ∧ x < 127 ∧ x ≠ 35

instance (b : Bytes) : Decidable (Sendable b) := List.decidableBAll _ b

/-- The target of the request is of printable ASCII without `#` and within the limit of length, and the
path, as it was sent, begins with a slash. -/
structure PlainTarget (r : Request) (raw : Bytes) : Prop where
  sent : r.rawPath = some raw
  slash : raw.head? = some 47
  path : Sendable raw
  query : Sendable r.query
  path_length : raw.length ≤ Url.maxLength
  query_length : r.query.length ≤ Url.maxLength

/-- The path that was sent, up to the first `?`, begins with a slash, and it and the query are of printable
ASCII without `#` and within the limit of length. -/
structure SentTarget (r : Request) (path : Bytes) : Prop where
  sent : ∃ raw, r.rawPath = some raw ∧ before 63 raw = path
  slash : path.head? = some 47
  path_length : path.length ≤ Url.maxLength
  query_length : r.query.length ≤ Url.maxLength
  path : Sendable path
  query : Sendable r.query

theorem Sendable.any_isControl {b : Bytes} (h : Sendable b) : b.any Url.isControl = false := by
  refine List.any_eq_false.2 fun x hx => ?_
  obtain ⟨hlow, hhigh, -⟩ := h x hx
  simp only [Url.isControl, Bool.or_eq_true, decide_eq_true_eq, beq_iff_eq, not_or]
  exact ⟨by simpa using hlow, fun he => absurd hhigh (by rw [he]; decide)⟩

theorem Sendable.contains_hash {b : Bytes} (h : Sendable b) : b.contains 35 = false := by
  refine Bool.eq_false_iff.2 fun hc => ?_
  exact (h 35 (List.contains_iff_mem.1 hc)).2.2 rfl

theorem Sendable.any_high {b : Bytes} (h : Sendable b) : b.any (128 ≤ ·) = false := by
  refine List.any_eq_false.2 fun x hx hhigh => ?_
  have hlow := UInt8.lt_iff_toNat_lt.1 (h x hx).2.1
  have hhigh := UInt8.le_iff_toNat_le.1 (of_decide_eq_true hhigh)
  exact absurd (Nat.lt_of_lt_of_le hlow (by decide)) (Nat.not_lt.2 hhigh)

theorem sendable_iff {b : Bytes} :
    Sendable b ↔ b.any (128 ≤ ·) = false ∧ b.any Url.isControl = false ∧ b.contains 35 = false := by
  constructor
  · intro h
    exact ⟨h.any_high, h.any_isControl, h.contains_hash⟩
  · rintro ⟨hhigh, hcontrol, hhash⟩ x hx
    have hx₁ := List.any_eq_false.1 hhigh x hx
    have hx₂ := List.any_eq_false.1 hcontrol x hx
    have hx₃ : x ≠ 35 := by
      rintro rfl
      exact Bool.false_ne_true (hhash.symm.trans (List.contains_iff_mem.2 hx))
    simp only [Url.isControl, decide_eq_true_eq, Bool.or_eq_true, beq_iff_eq, not_or, UInt8.not_le,
      UInt8.not_lt] at hx₁ hx₂
    have hne : x.toNat ≠ 127 := fun h => hx₂.2 (UInt8.toNat_inj.1 h)
    refine ⟨hx₂.1, ?_, hx₃⟩
    rw [UInt8.lt_iff_toNat_lt] at hx₁ ⊢
    have h₁ : x.toNat < 128 := hx₁
    show x.toNat < 127
    omega

theorem Sendable.before {b : Bytes} (h : Sendable b) : Sendable (before 63 b) :=
  fun x hx => h x ((List.takeWhile_sublist _).subset hx)

theorem isMisleading_eq (h : path.head? = some 47) :
    Url.isMisleading path = decide ([47, 47] <+: path) := by
  obtain ⟨rest, rfl⟩ := List.head?_eq_some_iff.1 h
  have hcolon : [58].isPrefixOf (47 :: rest) = false := rfl
  rw [Url.isMisleading, hcolon, Bool.or_false, Bool.eq_iff_iff, List.isPrefixOf_iff_prefix,
    decide_eq_true_iff]

theorem doubled_before_iff (raw : Bytes) : [47, 47] <+: before 63 raw ↔ [47, 47] <+: raw := by
  refine ⟨fun h => h.trans (List.takeWhile_prefix _), ?_⟩
  rintro ⟨rest, rfl⟩
  exact ⟨before 63 rest, rfl⟩

theorem PlainTarget.sentTarget (h : PlainTarget r raw) : SentTarget r (before 63 raw) where
  sent := ⟨raw, h.sent, rfl⟩
  slash := by
    obtain ⟨rest, rfl⟩ := List.head?_eq_some_iff.1 h.slash
    rfl
  path := h.path.before
  query := h.query
  path_length := Nat.le_trans (List.takeWhile_sublist _).length_le h.path_length
  query_length := h.query_length

/-- A query, if it is not empty. -/
def query? (query : Bytes) : Option Bytes := if query.isEmpty then none else some query

theorem before_joined {path : Bytes} (h : 63 ∉ path) (query : Bytes) :
    let joined := if query.isEmpty then path else path ++ 63 :: query
    before 63 joined = path ∧ after? 63 joined = query? query := by
  cases query with
  | nil => exact ⟨before_eq_self h, after?_eq_none h⟩
  | cons x query => exact ⟨before_append h _, after?_append h _⟩

/-- The query is cut off again where it was put on, since no `?` is left in the path. -/
theorem forwardedTarget_of_path (hpath : forwardedPath r = .ok path) (hmark : 63 ∉ path) :
    forwardedTarget r =
      if path.any (128 ≤ ·) || r.query.any (128 ≤ ·) then .error .undecodable
      else if Url.isRefused path r.query then .error .invalidTarget
      else .ok {
        path := Percent.encode Url.sentInPath (Latin1.ofBytes path)
        query := (query? r.query).map fun q => Percent.encode Url.sentInQuery (Latin1.ofBytes q) } := by
  obtain ⟨hbefore, hafter⟩ := before_joined hmark r.query
  have hhigh : (if r.query.isEmpty then path else path ++ 63 :: r.query).any (128 ≤ ·) =
      (path.any (128 ≤ ·) || r.query.any (128 ≤ ·)) := by
    cases r.query with
    | nil => simp
    | cons x query =>
      show (path ++ 63 :: x :: query).any (128 ≤ ·) = _
      rw [List.any_append, List.any_cons]
      rfl
  have hquery : (query? r.query).getD [] = r.query := by
    cases r.query <;> rfl
  rw [forwardedTarget, hpath]
  simp only [bind, Except.bind, Url.Target.ofBytes, hhigh, hbefore, hafter, hquery]
  cases path.any (128 ≤ ·) || r.query.any (128 ≤ ·) with
  | true => rfl
  | false => cases Url.isRefused path r.query <;> rfl

/-- The target that is forwarded has the path as it was sent and the query, unless the path begins with
two slashes. -/
theorem forwardedTarget_sent (h : SentTarget r path) :
    forwardedTarget r = if [47, 47] <+: path then .error .invalidTarget else .ok {
      path := Percent.encode Url.sentInPath (Latin1.ofBytes path)
      query := (query? r.query).map fun q => Percent.encode Url.sentInQuery (Latin1.ofBytes q) } := by
  obtain ⟨raw, hraw, hpath⟩ := h.sent
  have hmark : 63 ∉ path := hpath ▸ not_mem_before 63 raw
  have hforwarded : forwardedPath r = .ok path := by
    cases raw with
    | nil =>
      have hslash := h.slash
      rw [← hpath] at hslash
      cases hslash
    | cons x raw => rw [forwardedPath, hraw, ← hpath]
  have hrefused : Url.isRefused path r.query = decide ([47, 47] <+: path) := by
    simp only [Url.isRefused, h.path.any_isControl, h.query.any_isControl, h.path.contains_hash,
      h.query.contains_hash, decide_eq_false (Nat.not_lt.2 h.path_length),
      decide_eq_false (Nat.not_lt.2 h.query_length), isMisleading_eq h.slash, Bool.or_self, Bool.false_or]
  rw [forwardedTarget_of_path hforwarded hmark, h.path.any_high, h.query.any_high, hrefused]
  by_cases hd : [47, 47] <+: path <;> simp [hd]

theorem SentTarget.forwarded (h : SentTarget r path) (hd : ¬ [47, 47] <+: path) :
    ∃ t, forwardedTarget r = .ok t :=
  ⟨_, (forwardedTarget_sent h).trans (if_neg hd)⟩

theorem forwardedTarget_plain (h : PlainTarget r raw) :
    ([47, 47] <+: raw ∧ forwardedTarget r = .error .invalidTarget) ∨
      (¬ [47, 47] <+: raw ∧ ∃ t, forwardedTarget r = .ok t) := by
  rw [← doubled_before_iff]
  by_cases hd : [47, 47] <+: before 63 raw
  · exact .inl ⟨hd, (forwardedTarget_sent h.sentTarget).trans (if_pos hd)⟩
  · exact .inr ⟨hd, h.sentTarget.forwarded hd⟩

end Targets

section Runs

variable {r : Request} {u : LegacyReply}

/-- Entries before any answer: nothing is sent or reported, and one request at most is passed on. -/
structure Quiet (es : List Entry) : Prop where
  messages : Run.messages { entries := es } = []
  reports : Run.reports { entries := es } = []
  forwarded : (Run.forwarded { entries := es }).length ≤ 1

/-- A run that gives one whole answer, or ends in a fault instead. -/
inductive PageRun : Run → Prop
  | answered {before : List Entry} (response : Response) : Quiet before →
      PageRun (response.run.after before)
  | broken {before : List Entry} (f : Fault) : Quiet before → PageRun ((Run.fault f).after before)

/-- What the legacy page gives for the outcome of a forwarded request. -/
inductive Returned (r : Request) : LegacyReply → Response → Prop
  | relayed {a response : Response} : relay r.method a = .ok response → Returned r (.answered a) response
  | badGateway {name message : String} :
      Returned r (.failed (.transport name message)) (plainText 502 "Bad Gateway")

/-- The run ends well after it has given what the legacy page gives for the outcome. -/
def Returns (r : Request) (u : LegacyReply) (run : Run) : Prop :=
  ∃ response, Returned r u response ∧ run.messages = response.messages ∧ run.raised = none

/-- The outcome is an answer of ASCII fields or a failure of transport. -/
def LegacyReply.Expected : LegacyReply → Prop
  | .answered a => ∀ f ∈ a.headers, AsciiField f
  | .failed (.transport _ _) => True
  | .failed (.foreign _ _) => False

/-- What keeps the page from answering: the target, a client that has gone, an answer that cannot be
relayed, or a failure that is not one of transport or cannot be logged. -/
inductive LegacyBreaks (r : Request) : Option Bytes → LegacyReply → Prop
  | target {body : Option Bytes} {u : LegacyReply} {f : Fault} : forwardedTarget r = .error f →
      LegacyBreaks r body u
  | disconnected {u : LegacyReply} : LegacyBreaks r none u
  | unrelayed {body : Option Bytes} {a : Response} {f : Fault} : relay r.method a = .error f →
      LegacyBreaks r body (.answered a)
  | foreign {body : Option Bytes} {name message : String} :
      LegacyBreaks r body (.failed (.foreign name message))
  | unlogged {body : Option Bytes} {name message : String} : UrlLost r →
      LegacyBreaks r body (.failed (.transport name message))

theorem quiet_nil : Quiet [] := ⟨rfl, rfl, Nat.zero_le _⟩

theorem forward_cases (r : Request) (body : Option Bytes) (u : LegacyReply) :
    (∃ before response, Quiet before ∧ Returned r u response ∧
        forward r body u = response.run.after before) ∨
      ∃ before f, Quiet before ∧ forward r body u = (Run.fault f).after before := by
  have hpassed (x : Forwarded) : Quiet [.forwarded x] := ⟨rfl, rfl, Nat.le_refl _⟩
  have hlogged (x : Forwarded) (y : Log.Record) : Quiet [.forwarded x, .logged y] :=
    ⟨rfl, rfl, Nat.le_refl _⟩
  unfold forward
  cases forwardedTarget r with
  | error f => exact .inr ⟨[], f, quiet_nil, rfl⟩
  | ok t =>
    cases body with
    | none => exact .inr ⟨[], .disconnected, quiet_nil, rfl⟩
    | some b =>
      match u with
      | .answered a =>
        simp only [afterAnswer]
        cases ha : relay r.method a with
        | error f => exact .inr ⟨_, f, hpassed _, rfl⟩
        | ok response => exact .inl ⟨_, response, hpassed _, .relayed ha, rfl⟩
      | .failed (.transport name message) =>
        simp only [afterAnswer, afterFailure]
        cases urlPath r with
        | error f => exact .inr ⟨_, f, hpassed _, rfl⟩
        | ok path => exact .inl ⟨_, _, hlogged _ _, .badGateway, rfl⟩
      | .failed (.foreign name message) => exact .inr ⟨_, _, hpassed _, rfl⟩

theorem pageRun_forward (r : Request) (body : Option Bytes) (u : LegacyReply) :
    PageRun (forward r body u) := by
  rcases forward_cases r body u with ⟨before, response, hq, -, h⟩ | ⟨before, f, hq, h⟩
  · rw [h]
    exact .answered response hq
  · rw [h]
    exact .broken f hq

theorem Quiet.messages_after {before : List Entry} (h : Quiet before) (run : Run) :
    (run.after before).messages = run.messages :=
  (Run.messages_append before run.entries).trans (by rw [h.messages]; rfl)

theorem returns_forward_iff_raised {body : Option Bytes} :
    Returns r u (forward r body u) ↔ (forward r body u).raised = none := by
  refine ⟨fun ⟨_, _, _, h⟩ => h, fun hraised => ?_⟩
  rcases forward_cases r body u with ⟨before, response, hq, hu, h⟩ | ⟨before, f, -, h⟩
  · refine ⟨response, hu, ?_, hraised⟩
    rw [h, hq.messages_after]
    rfl
  · rw [h] at hraised
    cases hraised

/-- The run ends well after it has sent the answer. -/
def Run.Gives (response : Response) (run : Run) : Prop :=
  run.messages = response.messages ∧ run.raised = none

theorem Response.messages_inj {a b : Response} : a.messages = b.messages ↔ a = b := by
  refine ⟨fun h => ?_, congrArg _⟩
  obtain ⟨hstart, hbody⟩ := List.cons.inj h
  cases a
  cases b
  cases hstart
  cases hbody
  rfl

theorem gives_forward_iff {t : Url.Target} {b : Bytes} {a response : Response}
    (ht : forwardedTarget r = .ok t) :
    (forward r (some b) (.answered a)).Gives response ↔ relay r.method a = .ok response := by
  simp only [forward, ht, afterAnswer]
  cases relay r.method a with
  | error f => exact iff_of_false (fun h => Option.some_ne_none f h.2) nofun
  | ok relayed => rw [Except.ok.injEq, ← Response.messages_inj]; exact and_iff_left rfl

theorem raised_afterAnswer_iff {t : Url.Target} {b : Bytes} (ht : forwardedTarget r = .ok t) :
    (afterAnswer r u).raised = none ↔ ¬ LegacyBreaks r (some b) u := by
  have hbroken {f : Fault} : forwardedTarget r ≠ .error f := by
    rw [ht]
    exact nofun
  match u with
  | .answered a =>
    simp only [afterAnswer]
    cases ha : relay r.method a with
    | error f => exact iff_of_false nofun fun h => h (.unrelayed ha)
    | ok response =>
      refine iff_of_true rfl fun h => ?_
      cases h with
      | target hf => exact hbroken hf
      | unrelayed hf => cases ha.symm.trans hf
  | .failed (.foreign name message) => exact iff_of_false nofun fun h => h .foreign
  | .failed (.transport name message) =>
    simp only [afterAnswer, afterFailure]
    have hlost := urlPath_error_iff r
    cases hp : urlPath r with
    | error f => exact iff_of_false nofun fun h => h (.unlogged (hlost.1 ⟨f, hp⟩))
    | ok path =>
      refine iff_of_true rfl fun h => ?_
      cases h with
      | target hf => exact hbroken hf
      | unlogged hl =>
        obtain ⟨f, hf⟩ := hlost.2 hl
        cases hp.symm.trans hf

theorem raised_forward_iff {body : Option Bytes} :
    (forward r body u).raised = none ↔ ¬ LegacyBreaks r body u := by
  unfold forward
  cases ht : forwardedTarget r with
  | error f => exact iff_of_false nofun fun h => h (.target ht)
  | ok t =>
    cases body with
    | none => exact iff_of_false nofun fun h => h .disconnected
    | some b => exact raised_afterAnswer_iff ht

/-- For a plain target and an expected outcome, three things can keep the page from answering. -/
theorem legacyBreaks_iff {raw : Bytes} {body : Option Bytes} (hr : PlainTarget r raw)
    (hu : u.Expected) :
    LegacyBreaks r body u ↔
      [47, 47] <+: raw ∨ body = none ∨ (∃ f, u = .failed f) ∧ UrlLost r := by
  constructor
  · intro h
    cases h with
    | target hf =>
      rcases forwardedTarget_plain hr with ⟨hd, -⟩ | ⟨-, t, ht⟩
      · exact .inl hd
      · cases ht.symm.trans hf
    | disconnected => exact .inr (.inl rfl)
    | unrelayed hf => cases (relay_ascii hu r.method).symm.trans hf
    | foreign => cases hu
    | unlogged hl => exact .inr (.inr ⟨⟨_, rfl⟩, hl⟩)
  · rintro (hd | rfl | ⟨⟨f, rfl⟩, hl⟩)
    · rcases forwardedTarget_plain hr with ⟨-, ht⟩ | ⟨hn, -⟩
      · exact .target ht
      · exact absurd hd hn
    · exact .disconnected
    · cases f with
      | transport name message => exact .unlogged hl
      | foreign name message => cases hu

/-- For a target of printable ASCII and an expected outcome the page gives the relayed answer, or the
one for a failure, unless the path begins with two slashes, the client has gone, or there is a failure
and the URL of the request, which is logged with it, is lost. -/
theorem forward_returns_iff {raw : Bytes} {body : Option Bytes} (hr : PlainTarget r raw)
    (hu : u.Expected) :
    Returns r u (forward r body u) ↔
      ¬ [47, 47] <+: raw ∧ body.isSome ∧ ((∃ f, u = .failed f) → ¬ UrlLost r) := by
  rw [returns_forward_iff_raised, raised_forward_iff, legacyBreaks_iff hr hu, not_or, not_or, not_and,
    ← ne_eq body, Option.ne_none_iff_isSome]

/-- A request for a path with an escaped slash and two slashes in its middle. -/
def innerSlashes : Request := .ofTarget "GET" (Utf8.encode "/a//b%2Fc?x=1".toList) []

/-- A legacy site that cannot be reached. -/
def unreachable : LegacyReply := .failed (.transport "ConnectError" "refused")

/-- A failure of the legacy site is answered. -/
theorem forward_returns_iff_innerSlashes :
    PlainTarget innerSlashes (Utf8.encode "/a//b%2Fc".toList) ∧ unreachable.Expected ∧
      Returns innerSlashes unreachable (forward innerSlashes (some []) unreachable) := by
  have hr : PlainTarget innerSlashes (Utf8.encode "/a//b%2Fc".toList) :=
    ⟨rfl, rfl, by decide, by decide, by decide, by decide⟩
  have hu : unreachable.Expected := trivial
  have hurl : (urlPath innerSlashes).isOk = true := by decide +kernel
  refine ⟨hr, hu, (forward_returns_iff hr hu).2 ⟨by decide, rfl, fun _ hlost => ?_⟩⟩
  obtain ⟨f, hf⟩ := (urlPath_error_iff _).2 hlost
  rw [hf] at hurl
  cases hurl

/-- A request for a path that begins with two slashes. -/
def doubledSlash : Request := .ofTarget "GET" (Utf8.encode "//x".toList) []

/-- Such a request is not answered, though its target is plain. -/
theorem forward_doubledSlash :
    PlainTarget doubledSlash (Utf8.encode "//x".toList) ∧
      ∀ response, ¬ Returns doubledSlash (.answered response)
        (forward doubledSlash (some []) (.answered response)) := by
  have hr : PlainTarget doubledSlash (Utf8.encode "//x".toList) :=
    ⟨rfl, rfl, by decide, by decide, by decide, by decide⟩
  refine ⟨hr, fun response h => ?_⟩
  rcases forwardedTarget_plain hr with ⟨-, he⟩ | ⟨hd, -⟩
  · exact raised_forward_iff.1 (returns_forward_iff_raised.1 h) (.target he)
  · exact hd (by decide)

end Runs

end Gateway

end Changeover
