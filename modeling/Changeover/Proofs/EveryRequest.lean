import Changeover.Gateway.App
import Changeover.Proofs.LegacyProxy

/-!
# Which requests are answered

A page gives one whole answer or breaks (`pageRun_route`), and both layers keep it that way
(`layered_cases`). What breaks is answered by the last resort, unless the fault cannot be logged: then
the URL of the request is lost (`UrlLost`) and nothing is sent at all. So exactly the requests that break
(`Breaks`) and whose URL is lost stay without an answer (`handle_answered_iff`).
-/

namespace Changeover.Gateway

open Text

namespace Run

/-- One whole answer is sent: a start and the body that completes it. -/
def Answered (r : Run) : Prop := ∃ a : Response, r.messages = a.messages

/-- Nothing is sent and a fault is left over. -/
def Broken (r : Run) : Prop := r.messages = [] ∧ ∃ f, r.raised = some f

variable {r : Run}

theorem Answered.ne_nil (h : r.Answered) : r.messages ≠ [] := by
  obtain ⟨a, h⟩ := h
  rw [h]
  exact List.cons_ne_nil _ _

theorem Answered.status?_isSome (h : r.Answered) : ∃ status, r.status? = some status := by
  obtain ⟨a, h⟩ := h
  exact ⟨a.status, by rw [status?_eq, h]; rfl⟩

theorem Broken.status? (h : r.Broken) : r.status? = none := by
  rw [status?_eq, h.1]
  rfl

theorem Answered.withHeaders (h : r.Answered) (extra : List RawHeader) : (r.withHeaders extra).Answered := by
  obtain ⟨a, h⟩ := h
  exact ⟨{ a with headers := a.headers ++ extra }, by rw [messages_withHeaders, h]; rfl⟩

theorem Broken.withHeaders (h : r.Broken) (extra : List RawHeader) : (r.withHeaders extra).Broken :=
  ⟨by rw [messages_withHeaders, h.1]; rfl, h.2⟩

end Run

section Pages

variable {r : Request}

theorem pageRun_run (response : Response) : PageRun response.run := .answered response quiet_nil

theorem pageRun_fault (f : Fault) : PageRun (Run.fault f) := .broken f quiet_nil

theorem pageRun_route (debug : Bool) (r : Request) (body : Option Bytes) (u : LegacyReply) :
    PageRun (route debug r body u) := by
  unfold route
  cases Match.find debug r.path.toList r.method with
  | page p =>
    cases p with
    | legacy => exact pageRun_forward r body u
    | _ => exact pageRun_run _
  | wrongMethod p => exact pageRun_run _
  | slash path =>
    simp only
    cases urlOf r path with
    | ok url => exact pageRun_run _
    | error f => exact pageRun_fault f
  | nothing => exact pageRun_run _

/-- What makes the page that a request meets break. -/
inductive PageBreaks (debug : Bool) (r : Request) (x : Surroundings) : Prop
  | legacy : Match.find debug r.path.toList r.method = .page .legacy →
      LegacyBreaks r x.body x.legacy → PageBreaks debug r x
  | slash {path : List Char} : Match.find debug r.path.toList r.method = .slash path →
      Utf8.decode? r.query = none → PageBreaks debug r x

theorem raised_route_iff (debug : Bool) (r : Request) (x : Surroundings) :
    (route debug r x.body x.legacy).raised ≠ none ↔ PageBreaks debug r x := by
  unfold route
  cases hm : Match.find debug r.path.toList r.method with
  | page p =>
    cases p with
    | legacy =>
      refine (not_congr raised_forward_iff).trans (Classical.not_not.trans ⟨.legacy hm, fun h => ?_⟩)
      cases h with
      | legacy _ h => exact h
      | slash hs _ => cases hm.symm.trans hs
    | _ =>
      refine iff_of_false (fun h => h rfl) ?_
      rintro (⟨hs, -⟩ | ⟨hs, -⟩) <;> cases hm.symm.trans hs
  | slash path =>
    simp only
    cases hq : Utf8.decode? r.query with
    | none =>
      rw [urlOf_undecodable hq]
      exact iff_of_true nofun (.slash hm hq)
    | some q =>
      obtain ⟨url, hurl, -⟩ := urlOf_eq hq path
      rw [hurl]
      refine iff_of_false (fun h => h rfl) ?_
      rintro (⟨hs, -⟩ | ⟨-, hn⟩)
      · cases hm.symm.trans hs
      · cases hq.symm.trans hn
  | _ =>
    refine iff_of_false (fun h => h rfl) ?_
    rintro (⟨hs, -⟩ | ⟨hs, -⟩) <;> cases hm.symm.trans hs

end Pages

section Layers

variable {fails : Nat → Bool} {clock : Nat → Int} {r : Request} {raised : Option Fault}

theorem reportFrom_quiet {before : List Entry} (h : Run.messages { entries := before } = [])
    (status : Option Int) (n : Nat) (rest : List Entry) :
    reportFrom fails clock r raised status n (before ++ rest) =
      (reportFrom fails clock r raised status n rest).after before := by
  induction before with
  | nil => rfl
  | cons e before ih =>
    rw [Run.messages_cons] at h
    obtain ⟨he, hbefore⟩ := List.append_eq_nil_iff.1 h
    cases e with
    | sent m => cases he
    | _ =>
      rw [List.cons_append]
      simp only [reportFrom]
      rw [ih hbefore]
      rfl

theorem reportLayer_broken {before : List Entry} (hq : Quiet before) (counted : Int) (f : Fault) :
    reportLayer fails counted (.http r) ((Run.fault f).after before) = (Run.fault f).after before :=
  reportFrom_quiet hq.messages none 0 []

/-- The run of one whole answer that is handed over, if the time can be told. -/
def answeredRun (fails : Bool) (r : Request) (counted : Int) (response : Response) : Run :=
  match Duration.ofClock counted with
  | .ok latency =>
    { entries := response.messages.map .sent ++ dispatch fails r latency response.status }
  | .error t => { entries := response.messages.map .sent, raised := some (.tooLong t) }

theorem reportLayer_answered {before : List Entry} (hq : Quiet before) (counted : Int)
    (response : Response) :
    reportLayer fails counted (.http r) (response.run.after before) =
      (answeredRun (fails 0) r counted response).after before := by
  refine (reportFrom_quiet hq.messages none 0 _).trans (congrArg _ ?_)
  simp only [Response.run, Response.messages, List.map_cons, List.map_nil, reportFrom, answeredRun]
  cases Duration.ofClock counted <;> simp [Run.after]

theorem messages_answeredRun (fails : Bool) (r : Request) (counted : Int) (response : Response) :
    (answeredRun fails r counted response).messages = response.messages := by
  unfold answeredRun
  cases Duration.ofClock counted with
  | ok latency =>
    rw [Run.messages_append, (handover_dispatch ..).messages]
    rfl
  | error t => rfl

end Layers

section Gateway

variable {s : Settings} {r : Request} {x : Surroundings} {a : Snapshot} {cookies : List RawHeader}

/-- What the redirect layer surrounds: the page, with its report if that is wanted. -/
def surrounded (s : Settings) (r : Request) (x : Surroundings) : Run :=
  let pages := route s.debug r x.body x.legacy
  if s.teeEnabled then reportLayer (fun _ => false) x.counted (.http r) pages else pages

theorem layered_eq (s : Settings) (r : Request) (x : Surroundings) :
    layered s r x = redirectLayer s isExempt (fun a => some (Decision.resolve s a)) (.http r)
      (surrounded s r x) := rfl

/-- The request gets to the pages. -/
inductive PassedOn (s : Settings) (r : Request) : Prop
  | exempt : isExempt r.path.toList = true → PassedOn s r
  | decided {a : Snapshot} : Snapshot.ofRequest r = .ok a →
      (Decision.resolve s a).destination = none → PassedOn s r

/-- The request ends in a fault before anything is sent: it cannot be taken apart, the consent cookie
has a name that is none, or the page breaks that it gets to. -/
inductive Breaks (s : Settings) (r : Request) (x : Surroundings) : Prop
  | unreadable {e : Url.SplitError} : isExempt r.path.toList = false → Snapshot.ofRequest r = .error e →
      Breaks s r x
  | cookieName {a : Snapshot} {e : SetCookie.Fault} : isExempt r.path.toList = false →
      Snapshot.ofRequest r = .ok a →
      SetCookie.ofUpdate s (Decision.resolve s a).cookie = .error e → Breaks s r x
  | page : PassedOn s r → PageBreaks s.debug r x → Breaks s r x

theorem messages_surrounded (s : Settings) (r : Request) (x : Surroundings) :
    (surrounded s r x).messages = (route s.debug r x.body x.legacy).messages := by
  have hpage := pageRun_route s.debug r x.body x.legacy
  rw [surrounded]
  generalize route s.debug r x.body x.legacy = run at hpage
  split
  · cases hpage with
    | answered response hq =>
      rw [reportLayer_answered hq, hq.messages_after, hq.messages_after, messages_answeredRun]
      rfl
    | broken f hq => rw [reportLayer_broken hq]
  · rfl

theorem surrounded_cases (s : Settings) (r : Request) (x : Surroundings) :
    (surrounded s r x).Answered ∧ ¬ PageBreaks s.debug r x ∨
      (surrounded s r x).Broken ∧ PageBreaks s.debug r x := by
  have hpage := pageRun_route s.debug r x.body x.legacy
  rw [surrounded, ← raised_route_iff]
  generalize route s.debug r x.body x.legacy = run at hpage
  rcases hpage with ⟨response, hq⟩ | ⟨f, hq⟩
  · refine .inl ⟨⟨response, ?_⟩, fun h => h rfl⟩
    split
    · rw [reportLayer_answered hq, hq.messages_after, messages_answeredRun]
    · exact hq.messages_after _
  · refine .inr ⟨?_, Option.some_ne_none f⟩
    rw [reportLayer_broken hq, ite_self]
    exact ⟨hq.messages_after _, f, rfl⟩

theorem breaks_iff_of_exempt (h : isExempt r.path.toList = true) :
    Breaks s r x ↔ PageBreaks s.debug r x := by
  refine ⟨fun hb => ?_, .page (.exempt h)⟩
  cases hb with
  | unreadable hex _ => exact absurd h (by simp [hex])
  | cookieName hex _ _ => exact absurd h (by simp [hex])
  | page _ hp => exact hp

theorem breaks_iff_of_decided (h : isExempt r.path.toList = false) (ha : Snapshot.ofRequest r = .ok a)
    (hc : SetCookie.ofUpdate s (Decision.resolve s a).cookie = .ok cookies) :
    Breaks s r x ↔ (Decision.resolve s a).destination = none ∧ PageBreaks s.debug r x := by
  refine ⟨fun hb => ?_, fun ⟨hd, hp⟩ => .page (.decided ha hd) hp⟩
  cases hb with
  | unreadable _ he => cases ha.symm.trans he
  | cookieName _ ha' he =>
    cases ha.symm.trans ha'
    cases hc.symm.trans he
  | page hpassed hp =>
    cases hpassed with
    | exempt hex => exact absurd hex (by simp [h])
    | decided ha' hd =>
      cases ha.symm.trans ha'
      exact ⟨hd, hp⟩

/-- Inside the last resort, a request gets one whole answer or it breaks. -/
theorem layered_cases (s : Settings) (r : Request) (x : Surroundings) :
    (layered s r x).Answered ∧ ¬ Breaks s r x ∨ (layered s r x).Broken ∧ Breaks s r x := by
  have hinner := surrounded_cases s r x
  rw [layered_eq]
  generalize surrounded s r x = inner at hinner
  cases hex : isExempt r.path.toList with
  | true => rwa [redirectLayer_exempt _ hex, breaks_iff_of_exempt hex]
  | false =>
    cases ha : Snapshot.ofRequest r with
    | error e =>
      rw [redirectLayer, hex, ha]
      exact .inr ⟨⟨rfl, _, rfl⟩, .unreadable hex ha⟩
    | ok a =>
      rw [redirectLayer_decided _ hex ha rfl, carryOut]
      cases hc : SetCookie.ofUpdate s (Decision.resolve s a).cookie with
      | error e => exact .inr ⟨⟨rfl, _, rfl⟩, .cookieName hex ha hc⟩
      | ok cookies =>
        rw [breaks_iff_of_decided hex ha hc]
        cases hd : (Decision.resolve s a).destination with
        | some url => exact .inl ⟨⟨_, rfl⟩, fun h => Option.some_ne_none url h.1⟩
        | none =>
          rcases hinner with ⟨hi, hp⟩ | ⟨hi, hp⟩
          · exact .inl ⟨hi.withHeaders cookies, fun h => hp h.2⟩
          · exact .inr ⟨hi.withHeaders cookies, rfl, hp⟩

theorem messages_lastResort_of_answered {inner : Run} (h : inner.Answered) :
    (lastResort r inner).messages = inner.messages := by
  obtain ⟨status, hs⟩ := h.status?_isSome
  unfold lastResort
  cases inner.raised with
  | none => rfl
  | some f =>
    cases urlPath r with
    | error g => rfl
    | ok path =>
      refine (Run.messages_append _ _).trans ?_
      rw [hs]
      exact List.append_nil _

theorem messages_lastResort_of_broken {inner : Run} (h : inner.Broken) :
    (UrlLost r → (lastResort r inner).messages = []) ∧
      (¬ UrlLost r → (lastResort r inner).messages = faultResponse.messages) := by
  obtain ⟨f, hf⟩ := h.2
  rw [← urlPath_error_iff, lastResort, hf]
  cases urlPath r with
  | error g => exact ⟨fun _ => h.1, fun hlost => absurd ⟨g, rfl⟩ hlost⟩
  | ok path =>
    refine ⟨fun hlost => (nomatch hlost.choose_spec), fun _ => ?_⟩
    refine (Run.messages_append _ _).trans ?_
    rw [h.status?]
    exact congrArg (· ++ _) h.1

theorem messages_handle_cases (s : Settings) (r : Request) (x : Surroundings) :
    ¬ Breaks s r x ∧ (layered s r x).Answered ∧ (handle s r x).messages = (layered s r x).messages ∨
      Breaks s r x ∧ (UrlLost r ∧ (handle s r x).messages = [] ∨
        ¬ UrlLost r ∧ (handle s r x).messages = faultResponse.messages) := by
  rcases layered_cases s r x with ⟨hanswered, hb⟩ | ⟨hbroken, hb⟩
  · exact .inl ⟨hb, hanswered, messages_lastResort_of_answered hanswered⟩
  · obtain ⟨hlost, hkept⟩ := messages_lastResort_of_broken (r := r) hbroken
    by_cases hl : UrlLost r
    · exact .inr ⟨hb, .inl ⟨hl, hlost hl⟩⟩
    · exact .inr ⟨hb, .inr ⟨hl, hkept hl⟩⟩

/-- A request gets one whole answer unless it breaks and its URL is lost, and then it gets nothing. It
breaks exactly when a fault leaves the layers before a response is started, and what breaks is answered by
the last resort unless the URL is lost. -/
theorem handle_answered_iff (s : Settings) (r : Request) (x : Surroundings) :
    ((handle s r x).Answered ↔ ¬ (Breaks s r x ∧ UrlLost r)) ∧
      (Breaks s r x ↔ (layered s r x).status? = none ∧ ∃ f, (layered s r x).raised = some f) ∧
      (Breaks s r x → UrlLost r → (handle s r x).messages = []) ∧
      (Breaks s r x → ¬ UrlLost r → (handle s r x).messages = faultResponse.messages) := by
  -- the last resort leaves an answer alone, and answers what has broken if it can log the fault
  rcases layered_cases s r x with ⟨ha, hb⟩ | ⟨ha, hb⟩
  · obtain ⟨a, hm⟩ := ha
    refine ⟨iff_of_true ⟨a, ?_⟩ fun h => hb h.1, iff_of_false hb fun h => ?_,
      fun h => absurd h hb, fun h => absurd h hb⟩
    · rw [← hm]
      exact messages_lastResort_of_answered ⟨a, hm⟩
    · obtain ⟨status, hs⟩ := Run.Answered.status?_isSome ⟨a, hm⟩
      exact absurd h.1 (by rw [hs]; exact Option.some_ne_none status)
  · obtain ⟨hlost, hkept⟩ := messages_lastResort_of_broken (r := r) ha
    refine ⟨⟨fun h hl => h.ne_nil (hlost hl.2), fun h => ?_⟩, iff_of_true hb ⟨ha.status?, ha.2⟩,
      fun _ => hlost, fun _ => hkept⟩
    exact ⟨faultResponse, hkept fun hl => h ⟨hb, hl⟩⟩

/-- A request whose query is not text. -/
def undecodableQuery : Request := .ofTarget "GET" [47, 120, 63, 255] []

/-- A legacy site that answers every request in the same way. -/
def steadyAnswer : Response := { status := 200, headers := [] }

/-- Such a request gets nothing, though the legacy site would answer it. -/
theorem undecodableQuery_unanswered :
    (handle {} undecodableQuery { legacy := .answered steadyAnswer }).messages = [] ∧
      ¬ (handle {} undecodableQuery { legacy := .answered steadyAnswer }).Answered := by
  have hnil : (handle {} undecodableQuery { legacy := .answered steadyAnswer }).messages = [] :=
    List.isEmpty_iff.1 (by decide +kernel)
  exact ⟨hnil, fun h => h.ne_nil hnil⟩

end Gateway

end Changeover.Gateway
