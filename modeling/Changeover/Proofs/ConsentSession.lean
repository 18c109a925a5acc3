import Changeover.Proofs.ConsentCookie
import Changeover.Proofs.DecisionLaw
import Changeover.Proofs.RedirectRuns

/-!
# Consent over a session

A browser visits one host again and again, and keeps what the answers tell it to keep. The invariant
is `Agrees`: the browser holds the consent cookie, with the word for an opt-in, exactly when the latest
visit that gave a consent gave that one (`OptedIn`). Every visit keeps it (`agrees_concat`), and a visit
that counts is redirected exactly when the invariant holds the opt-in side (`consent_persists`).
-/

namespace Changeover

open Text

namespace Gateway

/-- A request and the run of what the layer surrounds. -/
structure Visit where
  request : Request
  inner : Run

namespace Visit

variable (s : Settings) (exempt : List Char → Bool) (host : String) (v : Visit)

/-- The run of the layer around an inner run. -/
def around (inner : Run) : Run :=
  redirectLayer s exempt (fun a => some (Decision.resolve s a)) (.http v.request) inner

/-- The run that answers the visit. -/
def answer : Run := v.around s exempt v.inner

/-- The query as text. -/
def query : List Char := Latin1.ofBytes v.request.query

/-- The visit is neither to an operational page nor that of a visitor who has just come back. -/
def Counts : Prop :=
  exempt v.request.path.toList = false ∧
    ¬ Query.FirstPiece "utm_source".toList v.query s.returnMarker.toList

instance : Decidable (v.Counts s exempt) := inferInstanceAs (Decidable (_ ∧ _))

/-- The visit counts and its query gives the word `w`. -/
def Overrides (w : String) : Prop :=
  v.Counts s exempt ∧ Query.FirstPiece s.redirectParam.toList v.query w.toList

instance (w : String) : Decidable (v.Overrides s exempt w) := inferInstanceAs (Decidable (_ ∧ _))

/-- The layer itself redirects the visitor: whatever it surrounds, its answer is all that is sent. -/
def Redirected : Prop :=
  ∃ url cookies, ∀ inner,
    (v.around s exempt inner).messages = (redirection 302 url cookies).messages

/-- A visit by a browser that holds the cookies `j`: the target is a path, the consent cookie is sent
if it is held, among cookies of other names. What the layer surrounds starts a response and leaves the
consent cookie alone. -/
structure Possible (j : Jar) : Prop where
  target : v.request.path.toList.head? = some '/'
  host : v.request.hostHeader = host
  sends : ∀ w, j.get? s.redirectCookie = some w →
    Cookie.Holds s.redirectCookie.toList w.toList v.request.headers
  hides : j.get? s.redirectCookie = none →
    Cookie.Lacks s.redirectCookie.toList v.request.headers
  starts : v.inner.starts ≠ []
  silent : ∀ hs ∈ v.inner.starts, Jar.Silent s.redirectCookie hs

end Visit

/-- The cookies that a browser holds after some visits. -/
def jarAfter (s : Settings) (exempt : List Char → Bool) (j : Jar) (vs : List Visit) : Jar :=
  vs.foldl (fun j v => (v.answer s exempt).starts.foldl Jar.receiveAll j) j

/-- The visits of a browser that begins with the cookies `j`, the consent cookie not among them. -/
inductive Session (s : Settings) (exempt : List Char → Bool) (host : String) (j : Jar) :
    List Visit → Prop
  | nil : j.get? s.redirectCookie = none → Session s exempt host j []
  | concat {vs : List Visit} {v : Visit} : Session s exempt host j vs →
      v.Possible s host (jarAfter s exempt j vs) → Session s exempt host j (vs ++ [v])

/-- The latest of the visits that gave a consent gave the word for an opt-in. -/
def OptedIn (s : Settings) (exempt : List Char → Bool) (vs : List Visit) : Prop :=
  ∃ a v b, vs = a ++ v :: b ∧ v.Overrides s exempt "on" ∧
    ∀ u ∈ b, ¬ u.Overrides s exempt "on" ∧ ¬ u.Overrides s exempt "off"

/-- The browser holds the consent cookie exactly when the visitor has opted in. -/
def Agrees (s : Settings) (exempt : List Char → Bool) (j : Jar) (vs : List Visit) : Prop :=
  j.get? s.redirectCookie = some "on" ∧ OptedIn s exempt vs ∨
    j.get? s.redirectCookie = none ∧ ¬ OptedIn s exempt vs

section Step

variable {s : Settings} {exempt : List Char → Bool} {host : String} {j : Jar} {v : Visit}
  {vs : List Visit}

theorem not_off_of_on (hon : v.Overrides s exempt "on") : ¬ v.Overrides s exempt "off" :=
  fun hoff => absurd (hon.2.unique hoff.2) (by decide)

theorem optedIn_concat : OptedIn s exempt (vs ++ [v]) ↔
    v.Overrides s exempt "on" ∨ ¬ v.Overrides s exempt "off" ∧ OptedIn s exempt vs := by
  constructor
  · rintro ⟨a, u, b, h, hu, hb⟩
    rcases List.eq_nil_or_concat b with rfl | ⟨b, w, rfl⟩
    · obtain ⟨rfl, rfl⟩ := List.append_singleton_inj.1 h
      exact .inl hu
    · rw [List.concat_eq_append] at h hb
      rw [← List.cons_append, ← List.append_assoc] at h
      obtain ⟨rfl, rfl⟩ := List.append_singleton_inj.1 h
      exact .inr ⟨(hb v (by simp)).2, a, u, b, rfl, hu, fun x hx => hb x (by simp [hx])⟩
  · rintro (h | ⟨hoff, a, u, b, rfl, hu, hb⟩)
    · exact ⟨vs, v, [], rfl, h, fun _ hx => absurd hx List.not_mem_nil⟩
    · by_cases hon : v.Overrides s exempt "on"
      · exact ⟨_, v, [], rfl, hon, fun _ hx => absurd hx List.not_mem_nil⟩
      · refine ⟨a, u, b ++ [v], by simp, hu, fun x hx => ?_⟩
        rcases List.mem_append.1 hx with hx | hx
        · exact hb x hx
        · rw [List.mem_singleton.1 hx]
          exact ⟨hon, hoff⟩

theorem query_plain (v : Visit) : v.request.plain.queryString.toList = v.query :=
  String.toList_ofList

theorem returning_plain (v : Visit) : Decision.Returning s v.request.plain ↔
    Query.FirstPiece "utm_source".toList v.query s.returnMarker.toList := by
  rw [Decision.Returning, query_plain]

theorem overrideConsent_eq_on (hc : v.Counts s exempt) :
    Decision.overrideConsent s v.request.plain = .on ↔ v.Overrides s exempt "on" := by
  rw [← Decision.says_iff, Visit.Overrides, ← query_plain]
  exact ⟨fun h => by cases h with | on hon => exact ⟨hc, hon⟩, fun h => .on h.2⟩

theorem overrideConsent_eq_off (hc : v.Counts s exempt) :
    Decision.overrideConsent s v.request.plain = .off ↔ v.Overrides s exempt "off" := by
  rw [← Decision.says_iff, Visit.Overrides, ← query_plain]
  exact ⟨fun h => by cases h with | off hoff => exact ⟨hc, hoff⟩, fun h => .off h.2⟩

/-- What the answer to a visit does to the consent cookie. -/
def Visit.update (s : Settings) (exempt : List Char → Bool) (v : Visit) : CookieUpdate :=
  if exempt v.request.path.toList then .keep else (Decision.resolve s v.request.plain).cookie

theorem update_of_counts (hc : v.Counts s exempt) : v.update s exempt =
    CookieUpdate.ofOverride (Decision.overrideConsent s v.request.plain) := by
  rw [Visit.update, hc.1, Decision.resolve_of_not_returning (mt (returning_plain v).1 hc.2)]
  rfl

theorem update_of_not_counts (hc : ¬ v.Counts s exempt) : v.update s exempt = .keep := by
  unfold Visit.update
  split
  · rfl
  · next hx =>
    have hr : Decision.Returning s v.request.plain :=
      Classical.byContradiction fun h => hc ⟨by simpa using hx, mt (returning_plain v).2 h⟩
    rw [Decision.resolve_of_returning hr]

theorem update_cases (s : Settings) (exempt : List Char → Bool) (v : Visit) :
    v.Overrides s exempt "on" ∧ v.update s exempt = .set ∨
    v.Overrides s exempt "off" ∧ v.update s exempt = .clear ∨
    (¬ v.Overrides s exempt "on" ∧ ¬ v.Overrides s exempt "off") ∧ v.update s exempt = .keep := by
  by_cases hc : v.Counts s exempt
  · rw [update_of_counts hc, ← overrideConsent_eq_on hc, ← overrideConsent_eq_off hc]
    cases Decision.overrideConsent s v.request.plain <;> simp [CookieUpdate.ofOverride]
  · exact .inr (.inr ⟨⟨fun h => hc h.1, fun h => hc h.1⟩, update_of_not_counts hc⟩)

theorem silent_redirection (name : String) (status : Int) (url : List Char) :
    Jar.Silent name (redirection status url []).headers := by
  have hlength : Latin1.ofBytes (Header.raw "content-length" "0").1 = "content-length".toList :=
    Header.ofBytes_raw_name (by decide) _
  have hlocation : Latin1.ofBytes (Header.raw "location" (String.ofList (Url.escapeLocation url))).1 =
      "location".toList := Header.ofBytes_raw_name (by decide) _
  intro w hw
  simp [redirection, Header.rawValues, hlength, hlocation] at hw

theorem starts_answer (exempt : List Char → Bool) (hname : SetCookie.fault? s.redirectCookie = none)
    (hp : v.Possible s host j) :
    ∃ bases : List (List RawHeader), bases ≠ [] ∧ (∀ b ∈ bases, Jar.Silent s.redirectCookie b) ∧
      (v.answer s exempt).starts =
        bases.map (· ++ SetCookie.fields s.redirectCookie (v.update s exempt)) := by
  cases hx : exempt v.request.path.toList with
  | true =>
    refine ⟨v.inner.starts, hp.starts, hp.silent, ?_⟩
    rw [Visit.answer, Visit.around, redirectLayer_exempt _ hx, Visit.update, hx]
    simp [SetCookie.fields]
  | false =>
    have hu : v.update s exempt = (Decision.resolve s v.request.plain).cookie := by
      rw [Visit.update, hx]
      rfl
    have ha := Snapshot.ofRequest_of_slash hp.target
    rw [hu]
    cases hd : (Decision.resolve s v.request.plain).destination with
    | none =>
      refine ⟨v.inner.starts, hp.starts, hp.silent, ?_⟩
      exact Run.starts_eq_of_messages _ _
        (messages_redirectLayer_pass v.inner (SetCookie.ofUpdate_eq hname _) hx ha rfl hd)
    | some url =>
      refine ⟨[(redirection 302 url.toList []).headers], List.cons_ne_nil _ _, ?_, ?_⟩
      · intro b hb
        rw [List.mem_singleton.1 hb]
        exact silent_redirection _ _ _
      · rw [Run.starts, Visit.answer, Visit.around,
          messages_redirectLayer_redirect v.inner (SetCookie.ofUpdate_eq hname _) hx ha rfl hd]
        rfl

theorem get?_jarAfter_concat (hname : SetCookie.fault? s.redirectCookie = none)
    (hp : v.Possible s host (jarAfter s exempt j vs)) :
    (jarAfter s exempt j (vs ++ [v])).get? s.redirectCookie =
      (v.update s exempt).apply ((jarAfter s exempt j vs).get? s.redirectCookie) := by
  obtain ⟨bases, hne, hs, heq⟩ := starts_answer exempt hname hp
  rw [jarAfter, List.foldl_append, List.foldl_cons, List.foldl_nil, heq]
  exact Jar.get?_foldl_receiveAll hname _ hne hs _

theorem agrees_concat (hname : SetCookie.fault? s.redirectCookie = none)
    (hp : v.Possible s host (jarAfter s exempt j vs)) (h : Agrees s exempt (jarAfter s exempt j vs) vs) :
    Agrees s exempt (jarAfter s exempt j (vs ++ [v])) (vs ++ [v]) := by
  rw [Agrees, get?_jarAfter_concat hname hp, optedIn_concat]
  rcases update_cases s exempt v with ⟨hon, hu⟩ | ⟨hoff, hu⟩ | ⟨⟨hon, hoff⟩, hu⟩
  · rw [hu]
    exact .inl ⟨rfl, .inl hon⟩
  · rw [hu]
    refine .inr ⟨rfl, ?_⟩
    rintro (hon | ⟨hno, -⟩)
    · exact not_off_of_on hon hoff
    · exact hno hoff
  · rw [hu]
    rcases h with ⟨hj, ho⟩ | ⟨hj, ho⟩
    · exact .inl ⟨hj, .inr ⟨hoff, ho⟩⟩
    · exact .inr ⟨hj, fun h => h.elim hon fun h => ho h.2⟩

theorem get?_cookies (hname : SetCookie.fault? s.redirectCookie = none) (hp : v.Possible s host j)
    (h : Agrees s exempt j vs) :
    v.request.plain.cookies.get? s.redirectCookie = j.get? s.redirectCookie := by
  have hne := SetCookie.name_ne_nil hname
  rcases h with ⟨hj, -⟩ | ⟨hj, -⟩
  · have hchars : ∀ c ∈ s.redirectCookie.toList, c ≠ '=' ∧ isBlank c = false := fun c hc =>
      have hplain := SetCookie.isNameChar_plain (SetCookie.name_chars hname c hc)
      ⟨hplain.1, hplain.2.2⟩
    have hon : "on".toList.all (!isBlank ·) = true := by decide
    have := Cookie.get?_ofHeaders_of_holds hne hchars (by simpa using hon) (by decide)
      (hp.sends "on" hj)
    rw [String.ofList_toList, String.ofList_toList] at this
    exact this.trans hj.symm
  · have := Cookie.get?_ofHeaders_of_lacks hne (hp.hides hj)
    rw [String.ofList_toList] at this
    exact this.trans hj.symm

/-- The decision on a visit that counts, told from the earlier visits and this one. -/
theorem redirects_iff (hname : SetCookie.fault? s.redirectCookie = none)
    (hhost : ¬ s.apiHostPrefix.toList <+: host.toList) (hc : v.Counts s exempt)
    (hp : v.Possible s host j) (h : Agrees s exempt j vs) :
    (Decision.resolve s v.request.plain).redirects = true ↔ OptedIn s exempt (vs ++ [v]) := by
  have hret : ¬ Decision.Returning s v.request.plain := mt (returning_plain v).1 hc.2
  have hapi : ¬ Decision.ApiHost s v.request.plain := by
    rw [← hp.host] at hhost
    exact hhost
  have hcookie : v.request.plain.cookies.get? s.redirectCookie = some "on" ↔ OptedIn s exempt vs := by
    rw [get?_cookies hname hp h]
    rcases h with ⟨hj, ho⟩ | ⟨hj, ho⟩ <;> simp [hj, ho]
  rw [Decision.redirects_resolve_iff, Decision.Prefers, hcookie, optedIn_concat,
    ← overrideConsent_eq_on hc, ← overrideConsent_eq_off hc]
  cases Decision.overrideConsent s v.request.plain <;> simp [hret, hapi]

theorem messages_around_redirect (hname : SetCookie.fault? s.redirectCookie = none)
    (hc : v.Counts s exempt) (hp : v.Possible s host j)
    (hd : (Decision.resolve s v.request.plain).redirects = true) :
    ∃ url cookies, ∀ inner,
      (v.around s exempt inner).messages = (redirection 302 url cookies).messages := by
  obtain ⟨url, hurl⟩ := Option.isSome_iff_exists.1 hd
  exact ⟨_, _, fun inner => messages_redirectLayer_redirect inner (SetCookie.ofUpdate_eq hname _)
    hc.1 (Snapshot.ofRequest_of_slash hp.target) rfl hurl⟩

theorem messages_around_pass (hname : SetCookie.fault? s.redirectCookie = none)
    (hc : v.Counts s exempt) (hp : v.Possible s host j)
    (hd : ¬ (Decision.resolve s v.request.plain).redirects = true) (inner : Run) :
    (v.around s exempt inner).messages = inner.messages.map (Message.withFields
      (SetCookie.fields s.redirectCookie (Decision.resolve s v.request.plain).cookie)) :=
  messages_redirectLayer_pass inner (SetCookie.ofUpdate_eq hname _) hc.1
    (Snapshot.ofRequest_of_slash hp.target) rfl (Option.not_isSome_iff_eq_none.1 hd)

theorem Visit.not_redirected (h : (v.around s exempt {}).messages = []) : ¬ v.Redirected s exempt := by
  rintro ⟨url, cookies, hr⟩
  have hsilent := hr {}
  rw [h] at hsilent
  cases hsilent

/-- The decision shows in what is sent: the layer's own answer, or else what it surrounds sends. -/
theorem redirected_iff (hname : SetCookie.fault? s.redirectCookie = none)
    (hc : v.Counts s exempt) (hp : v.Possible s host j) :
    v.Redirected s exempt ↔ (Decision.resolve s v.request.plain).redirects = true := by
  refine ⟨fun h => Classical.byContradiction fun hd => ?_, messages_around_redirect hname hc hp⟩
  exact Visit.not_redirected (messages_around_pass hname hc hp hd {}) h

theorem status?_answer (hname : SetCookie.fault? s.redirectCookie = none)
    (hc : v.Counts s exempt) (hp : v.Possible s host j) :
    (v.answer s exempt).status? = some 302 ↔
      (Decision.resolve s v.request.plain).redirects = true ∨ v.inner.status? = some 302 := by
  by_cases hd : (Decision.resolve s v.request.plain).redirects = true
  · obtain ⟨url, cookies, h⟩ := messages_around_redirect hname hc hp hd
    refine ⟨fun _ => .inl hd, fun _ => ?_⟩
    rw [Visit.answer, Run.status?_eq, h]
    rfl
  · have h := Run.status?_eq_of_messages _ _ (messages_around_pass hname hc hp hd v.inner)
    rw [Visit.answer, h]
    exact ⟨.inr, fun h => h.resolve_left hd⟩

/-- The invariant holds after every session. -/
theorem Session.agrees (hname : SetCookie.fault? s.redirectCookie = none)
    (h : Session s exempt host j vs) : Agrees s exempt (jarAfter s exempt j vs) vs := by
  induction h with
  | nil hj =>
    refine .inr ⟨hj, ?_⟩
    rintro ⟨a, v, b, hvs, -⟩
    exact absurd hvs (by simp)
  | concat _ hp ih => exact agrees_concat hname hp ih

theorem Session.split (h : Session s exempt host j vs) {a b : List Visit} (hvs : vs = a ++ v :: b) :
    Session s exempt host j a ∧ v.Possible s host (jarAfter s exempt j a) := by
  induction h generalizing b with
  | nil => exact absurd hvs (by simp)
  | @concat ws w hws hw ih =>
    rcases List.eq_nil_or_concat b with rfl | ⟨b, u, rfl⟩
    · obtain ⟨rfl, rfl⟩ := List.append_singleton_inj.1 hvs
      exact ⟨hws, hw⟩
    · rw [List.concat_eq_append, ← List.cons_append, ← List.append_assoc] at hvs
      exact ih (List.append_singleton_inj.1 hvs).1

end Step

/-- Over any session, the browser holds the consent cookie with the word for an opt-in or not at all,
and a visit that counts is redirected exactly when the latest consent, this visit's included, was an
opt-in. Any other answer with the status of a redirect comes from what the layer surrounds. -/
theorem consent_persists {s : Settings} {exempt : List Char → Bool} {host : String} {j : Jar}
    {vs : List Visit} (hname : SetCookie.fault? s.redirectCookie = none)
    (hhost : ¬ s.apiHostPrefix.toList <+: host.toList) (h : Session s exempt host j vs) :
    (∀ a b, vs = a ++ b → (jarAfter s exempt j a).get? s.redirectCookie = none ∨
      (jarAfter s exempt j a).get? s.redirectCookie = some "on") ∧
    ∀ a v b, vs = a ++ v :: b → v.Counts s exempt →
      (v.Redirected s exempt ↔ OptedIn s exempt (a ++ [v])) ∧
      ((v.answer s exempt).status? = some 302 ↔
        OptedIn s exempt (a ++ [v]) ∨ v.inner.status? = some 302) := by
  constructor
  · intro a b hvs
    have ha : Session s exempt host j a := by
      cases b with
      | nil => rwa [hvs, List.append_nil] at h
      | cons v b => exact (h.split hvs).1
    rcases ha.agrees hname with ⟨hj, -⟩ | ⟨hj, -⟩
    · exact .inr hj
    · exact .inl hj
  · intro a v b hvs hc
    obtain ⟨ha, hp⟩ := h.split hvs
    have hiff := redirects_iff hname hhost hc hp (ha.agrees hname)
    rw [redirected_iff hname hc hp, status?_answer hname hc hp, hiff]
    exact ⟨Iff.rfl, Iff.rfl⟩

/-- A page is asked for with an opt-in. -/
def optInVisit : Visit where
  request :=
    { path := "/x"
      query := (Latin1.toBytes? "redirect=on".toList).getD []
      headers := [Header.raw "host" "godoc.org", Header.raw "cookie" "a=b"] }
  inner := Response.run { status := 200, headers := [Header.raw "set-cookie" "a=c"] }

/-- The next page is asked for with the cookies that are held then. -/
def nextVisit : Visit where
  request :=
    { path := "/y"
      headers := [Header.raw "host" "godoc.org", Header.raw "cookie" "a=c; pkggodev-redirect=on"] }
  inner := Response.run { status := 200, headers := [] }

theorem consent_persists_next_visit :
    Session {} isExempt "godoc.org" [("a", "b")] [optInVisit, nextVisit] ∧
      nextVisit.Redirected {} isExempt := by
  have hjar : (jarAfter {} isExempt [("a", "b")] [optInVisit]).get? "pkggodev-redirect" =
      some "on" := by decide +kernel
  have hfirst : Session {} isExempt "godoc.org" [("a", "b")] [optInVisit] := by
    refine .concat (.nil (by decide)) ⟨by decide, by decide +kernel, fun w hw => ?_, fun _ => ?_,
      by decide, by decide +kernel⟩
    · cases hw
    · decide +kernel
  have hboth : Session {} isExempt "godoc.org" [("a", "b")] [optInVisit, nextVisit] := by
    refine .concat hfirst ⟨by decide, by decide +kernel, fun w hw => ?_, fun hno => ?_, by decide,
      by decide +kernel⟩
    · obtain rfl := Option.some.inj (hjar.symm.trans hw)
      exact ⟨["a=c".toList], [' '], [], [], by decide +kernel, List.forall_mem_singleton.2 (by decide),
        fun _ hc => absurd hc List.not_mem_nil, by decide +kernel⟩
    · exact absurd (hjar.symm.trans hno) (by decide)
  have hopted : OptedIn {} isExempt [optInVisit, nextVisit] :=
    ⟨[], optInVisit, [nextVisit], rfl, by decide +kernel, by decide +kernel⟩
  have hlaw := consent_persists (by decide +kernel) (by decide) hboth
  exact ⟨hboth, (hlaw.2 [optInVisit] nextVisit [] rfl (by decide +kernel)).1.2 hopted⟩

end Gateway

end Changeover
