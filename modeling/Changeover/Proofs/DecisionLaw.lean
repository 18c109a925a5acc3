import Changeover.Proofs.FirstValue
import Changeover.Report.Event

/-!
# The law of decisions

What is decided depends on four things that can be told from a request without reading the rules: the
consent that its query gives (`Says`), the cookie, whether the visitor has just come back
(`Returning`) and whether the host is one for machine clients (`ApiHost`). `resolve_law` says how: the
first two make a preference (`Prefers`), which is what gets reported, and coming back overrides it.
-/

namespace Changeover.Decision

variable {s : Settings} {a : Snapshot} {c : Consent}

/-- The consent that the query gives. Only the first value of the parameter counts, and only the two
words themselves. -/
inductive Says (s : Settings) (a : Snapshot) : Consent → Prop
  | on : Query.FirstPiece s.redirectParam.toList a.queryString.toList "on".toList → Says s a .on
  | off : Query.FirstPiece s.redirectParam.toList a.queryString.toList "off".toList → Says s a .off
  | unset : (∀ v, Query.FirstPiece s.redirectParam.toList a.queryString.toList v →
      v ≠ "on".toList ∧ v ≠ "off".toList) → Says s a .unset

/-- The visitor has just come back from the new site. -/
def Returning (s : Settings) (a : Snapshot) : Prop :=
  Query.FirstPiece "utm_source".toList a.queryString.toList s.returnMarker.toList

/-- The host, that of the target or else that of the header, is one for machine clients. -/
def ApiHost (s : Settings) (a : Snapshot) : Prop :=
  s.apiHostPrefix.toList <+: (if a.urlHost = "" then a.hostHeader else a.urlHost).toList

/-- A visitor whose query gives the consent `c` prefers the new site. -/
def Prefers (s : Settings) (a : Snapshot) (c : Consent) : Prop :=
  ¬ ApiHost s a ∧ (c = .on ∨ c = .unset ∧ a.cookies.get? s.redirectCookie = some "on")

theorem says_overrideConsent (s : Settings) (a : Snapshot) : Says s a (overrideConsent s a) := by
  unfold overrideConsent Consent.parse
  by_cases hon : a.parameter? s.redirectParam = some "on"
  · rw [if_pos hon]
    exact .on (Snapshot.parameter?_eq_some_iff.1 hon)
  rw [if_neg hon]
  by_cases hoff : a.parameter? s.redirectParam = some "off"
  · rw [if_pos hoff]
    exact .off (Snapshot.parameter?_eq_some_iff.1 hoff)
  rw [if_neg hoff]
  refine .unset fun v hv => ⟨?_, ?_⟩
  · rintro rfl
    exact hon (Snapshot.parameter?_eq_some_iff.2 hv)
  · rintro rfl
    exact hoff (Snapshot.parameter?_eq_some_iff.2 hv)

theorem Says.unique {c' : Consent} (h : Says s a c) (h' : Says s a c') : c = c' := by
  cases h with
  | on hv =>
    cases h' with
    | on => rfl
    | off hw => exact absurd (hv.unique hw) (by decide)
    | unset hw => exact absurd rfl (hw _ hv).1
  | off hv =>
    cases h' with
    | on hw => exact absurd (hv.unique hw) (by decide)
    | off => rfl
    | unset hw => exact absurd rfl (hw _ hv).2
  | unset hv =>
    cases h' with
    | on hw => exact absurd rfl (hv _ hw).1
    | off hw => exact absurd rfl (hv _ hw).2
    | unset => rfl

theorem says_iff : Says s a c ↔ overrideConsent s a = c :=
  ⟨fun h => (says_overrideConsent s a).unique h, fun h => h ▸ says_overrideConsent s a⟩

theorem isReturning_iff : isReturning s a = true ↔ Returning s a := by
  rw [isReturning, beq_iff_eq, Snapshot.parameter?_eq_some_iff, Returning]

theorem isApiRequest_iff : isApiRequest s a = true ↔ ApiHost s a := by
  have hhost : a.host = if a.urlHost = "" then a.hostHeader else a.urlHost := by
    simp only [Snapshot.host, String.isEmpty_iff]
  rw [isApiRequest, List.isPrefixOf_iff_prefix, hhost, ApiHost]

theorem cookieConsent_eq_on_iff :
    cookieConsent s a = .on ↔ a.cookies.get? s.redirectCookie = some "on" := by
  unfold cookieConsent
  split <;> simp_all

theorem prefersNewSite_iff : prefersNewSite s a = true ↔ Prefers s a (overrideConsent s a) := by
  rw [prefersNewSite, Bool.and_eq_true, Bool.not_eq_true', ← Bool.not_eq_true, isApiRequest_iff,
    Prefers, ← cookieConsent_eq_on_iff]
  cases overrideConsent s a <;> simp

theorem resolve_of_returning (h : Returning s a) : resolve s a = {} := by
  rw [resolve, if_pos (isReturning_iff.2 h)]

theorem resolve_of_not_returning (h : ¬ Returning s a) :
    resolve s a =
      { destination :=
          if prefersNewSite s a then some (String.ofList (Destination.ofUrl s a.requestUri.toList))
          else none
        cookie := CookieUpdate.ofOverride (overrideConsent s a) } := by
  rw [resolve, if_neg (mt isReturning_iff.1 h)]

theorem redirects_resolve_iff :
    (resolve s a).redirects = true ↔ ¬ Returning s a ∧ Prefers s a (overrideConsent s a) := by
  by_cases hr : Returning s a
  · rw [resolve_of_returning hr]
    exact ⟨fun h => (by cases h), fun h => absurd hr h.1⟩
  · rw [resolve_of_not_returning hr, redirects, ← prefersNewSite_iff]
    cases prefersNewSite s a <;> simp [hr]

theorem destination_resolve (s : Settings) (a : Snapshot) :
    (resolve s a).destination = if (resolve s a).redirects then
      some (String.ofList (Destination.ofUrl s a.requestUri.toList)) else none := by
  by_cases hr : Returning s a
  · rw [resolve_of_returning hr]
    rfl
  · rw [resolve_of_not_returning hr, redirects]
    cases prefersNewSite s a <;> rfl

theorem toList_destination {url : String} (h : (resolve s a).destination = some url) :
    url.toList = Destination.ofUrl s a.requestUri.toList := by
  rw [destination_resolve] at h
  split at h
  · rw [← Option.some_inj.1 h, String.toList_ofList]
  · cases h

theorem ofFields?_self (d : Decision) : ofFields? d.redirects d.destination d.cookie = some d :=
  if_pos rfl

/-- The decision on a request, and what is reported of the preference. -/
theorem resolve_law (s : Settings) (a : Snapshot) :
    ∃ (c : Consent) (redirect : Bool) (destination : Option String) (cookie : CookieUpdate),
      (∀ c', Says s a c' ↔ c' = c) ∧
      (redirect = true ↔ ¬ Returning s a ∧ Prefers s a c) ∧
      destination = (if redirect then
        some (String.ofList (Destination.ofUrl s a.requestUri.toList)) else none) ∧
      (Returning s a → cookie = .keep) ∧
      (¬ Returning s a → (c = .on → cookie = .set) ∧ (c = .off → cookie = .clear) ∧
        (c = .unset → cookie = .keep)) ∧
      ofFields? redirect destination cookie = some (resolve s a) ∧
      ∀ latency isRobot status,
        (Report.Event.ofSnapshot s a latency isRobot status).redirected = true ↔ Prefers s a c := by
  refine ⟨overrideConsent s a, (resolve s a).redirects, (resolve s a).destination,
    (resolve s a).cookie, fun c' => says_iff.trans eq_comm, redirects_resolve_iff,
    destination_resolve s a, ?_, ?_, ofFields?_self _, fun _ _ _ => prefersNewSite_iff⟩
  · intro hr
    rw [resolve_of_returning hr]
  · intro hr
    rw [resolve_of_not_returning hr]
    refine ⟨fun h => ?_, fun h => ?_, fun h => ?_⟩ <;> rw [h] <;> rfl

end Changeover.Decision
