import Changeover.Proofs.DecisionLaw
import Changeover.Proofs.HeaderGroups

/-!
# Names of the consent cookie

An operator chooses the name of the consent cookie, and the check of the settings accepts any text for it. A cookie
cannot have every name: it takes letters, digits and some signs, and the names of attributes are reserved
(`SetCookie.fault?_eq_none_iff`). With another name no change of consent can be written, and a request that gives a
consent ends in a fault in the redirect layer (`Gateway.consentChanges_served_iff`). All other requests pass, so
nothing of it shows before the first visitor opts in.
-/

namespace Changeover

open Text

namespace SetCookie

variable {s : Settings} {name : String} {u : CookieUpdate} {f : Fault}

/-- A name that a cookie can have: letters, digits and some signs of ASCII, and in no letter case the name of an
attribute. -/
structure IsCookieName (name : String) : Prop where
  nonempty : name ≠ ""
  chars : ∀ c ∈ name.toList, c.isAlphanum = true ∨ c ∈ "!#$%&'*+-.^_`|~:".toList
  unreserved : ∀ word ∈ reservedNames, name.toList.map Char.toLower ≠ word.toList

theorem isNameChar_iff {c : Char} :
    isNameChar c = true ↔ c.isAlphanum = true ∨ c ∈ "!#$%&'*+-.^_`|~:".toList := by
  rw [isNameChar, Bool.or_eq_true, List.contains_iff_mem]

/-- For a name of the right characters, the reserved names are told by the letter case of ASCII. -/
theorem contains_reservedNames_iff (h : ∀ c ∈ name.toList, isNameChar c = true) :
    reservedNames.contains (String.ofList (lower name.toList)) = true ↔
      ∃ word ∈ reservedNames, name.toList.map Char.toLower = word.toList := by
  have hlower : lower name.toList = name.toList.map Char.toLower :=
    Case.lowerFrom_ascii (fun c hc => isNameChar_ascii (h c hc)) []
  rw [List.contains_iff_mem, hlower]
  constructor
  · intro hm
    exact ⟨_, hm, String.toList_ofList.symm⟩
  · rintro ⟨word, hm, heq⟩
    rwa [heq, String.ofList_toList]

theorem fault?_eq_none_iff : fault? name = none ↔ IsCookieName name := by
  constructor
  · intro h
    have hchars := name_chars h
    refine ⟨?_, fun c hc => isNameChar_iff.1 (hchars c hc), fun word hm heq => ?_⟩
    · rintro rfl
      exact name_ne_nil h rfl
    · rw [fault?, if_pos ((contains_reservedNames_iff hchars).2 ⟨word, hm, heq⟩)] at h
      cases h
  · intro h
    have hchars : ∀ c ∈ name.toList, isNameChar c = true := fun c hc => isNameChar_iff.2 (h.chars c hc)
    have hfree : ¬ reservedNames.contains (String.ofList (lower name.toList)) = true := by
      rw [contains_reservedNames_iff hchars]
      rintro ⟨word, hm, heq⟩
      exact h.unreserved word hm heq
    have hlegal : ¬ (name.isEmpty || !name.toList.all isNameChar) = true := by
      simpa [h.nonempty] using hchars
    rw [fault?, if_neg hfree, if_neg hlegal]

theorem ofUpdate_eq_error_iff : ofUpdate s u = .error f ↔ u ≠ .keep ∧ fault? s.redirectCookie = some f := by
  cases hname : fault? s.redirectCookie with
  | none =>
    rw [ofUpdate_eq hname]
    exact iff_of_false nofun fun h => nomatch h.2
  | some g =>
    cases u with
    | keep => exact iff_of_false nofun fun h => h.1 rfl
    | _ => simp [ofUpdate, hname]

theorem ofUpdate_refused_iff :
    (∃ f, ofUpdate s u = .error f) ↔ u ≠ .keep ∧ ¬ IsCookieName s.redirectCookie := by
  simp only [ofUpdate_eq_error_iff, exists_and_left]
  rw [← fault?_eq_none_iff, ← ne_eq, Option.ne_none_iff_exists']

/-- Every update can be written: none takes no field, each of the other two takes one. -/
def Serves (s : Settings) : Prop :=
  ∀ u, ∃ hs, ofUpdate s u = .ok hs ∧
    hs.map (fun h => Latin1.ofBytes h.1) = if u = .keep then [] else ["set-cookie".toList]

theorem map_fields (name : String) (u : CookieUpdate) : (fields name u).map (fun h => Latin1.ofBytes h.1) =
    if u = .keep then [] else ["set-cookie".toList] := by
  have hraw (value : String) : Latin1.ofBytes (Header.raw "set-cookie" value).1 = "set-cookie".toList :=
    Header.ofBytes_raw_name (by decide) value
  cases u with
  | keep => rfl
  | set => exact congrArg (fun field => [field]) (hraw _)
  | clear => exact congrArg (fun field => [field]) (hraw _)

theorem serves_iff : Serves s ↔ IsCookieName s.redirectCookie := by
  rw [← fault?_eq_none_iff]
  constructor
  · intro h
    obtain ⟨hs, hset, -⟩ := h .set
    exact (ofUpdate_eq_ok hset).2.resolve_left nofun
  · intro h u
    exact ⟨_, ofUpdate_eq h u, map_fields _ u⟩

end SetCookie

namespace Decision

variable {s : Settings} {a : Snapshot}

/-- The request gives a consent, and its visitor has not just come back. -/
def Overrides (s : Settings) (a : Snapshot) : Prop := ¬ Returning s a ∧ ¬ Says s a .unset

theorem cookie_resolve_ne_keep_iff : (resolve s a).cookie ≠ .keep ↔ Overrides s a := by
  rw [Overrides, says_iff]
  by_cases hr : Returning s a
  · rw [resolve_of_returning hr]
    exact iff_of_false (fun h => h rfl) fun h => h.1 hr
  · rw [resolve_of_not_returning hr, and_iff_right hr]
    cases overrideConsent s a with
    | unset => exact iff_of_false (fun h => h rfl) fun h => h rfl
    | _ => exact iff_of_true nofun nofun

end Decision

namespace Gateway

variable {s : Settings} {exempt : List Char → Bool} {r : Request} {a : Snapshot} {inner : Run}

/-- The layer ends in a fault of its own exactly if an update is refused, and then it sends nothing. -/
theorem redirectLayer_raised (hex : exempt r.path.toList = false) (ha : Snapshot.ofRequest r = .ok a)
    (hinner : inner.raised = none) :
    let run := redirectLayer s exempt (fun a => some (Decision.resolve s a)) (.http r) inner
    (run.raised = none ∧ ∃ cookies, SetCookie.ofUpdate s (Decision.resolve s a).cookie = .ok cookies) ∨
      ∃ f, SetCookie.ofUpdate s (Decision.resolve s a).cookie = .error f ∧
        run.raised = some (.cookieName f) ∧ run.messages = [] := by
  rw [redirectLayer_decided inner hex ha rfl, carryOut]
  cases hc : SetCookie.ofUpdate s (Decision.resolve s a).cookie with
  | error f => exact .inr ⟨f, rfl, rfl, rfl⟩
  | ok cookies =>
    refine .inl ⟨?_, cookies, rfl⟩
    cases (Decision.resolve s a).destination with
    | none => exact hinner
    | some url => rfl

/-- Whether settings are accepted does not depend on the name of the consent cookie. Settings serve every change of
consent exactly if a cookie can have that name; if it cannot, both storing and deleting the cookie are refused. Then
the redirect layer ends in a fault, and nothing is sent, for each request that gives a consent, and for no other one
that it can take apart. -/
theorem consentChanges_served_iff (s : Settings) :
    (∀ name, ({ s with redirectCookie := name } : Settings).Accepted ↔ s.Accepted) ∧
      (SetCookie.Serves s ↔ SetCookie.IsCookieName s.redirectCookie) ∧
      (∀ u, (∃ f, SetCookie.ofUpdate s u = .error f) ↔
        u ≠ .keep ∧ ¬ SetCookie.IsCookieName s.redirectCookie) ∧
      ∀ exempt r a inner, exempt r.path.toList = false → Snapshot.ofRequest r = .ok a → inner.raised = none →
        let run := redirectLayer s exempt (fun a => some (Decision.resolve s a)) (.http r) inner
        (run.raised = none ↔ SetCookie.IsCookieName s.redirectCookie ∨ ¬ Decision.Overrides s a) ∧
          (run.raised ≠ none → run.messages = [] ∧
            ∃ f, SetCookie.fault? s.redirectCookie = some f ∧ run.raised = some (.cookieName f)) := by
  refine ⟨fun _ => Iff.rfl, SetCookie.serves_iff, fun _ => SetCookie.ofUpdate_refused_iff, ?_⟩
  intro exempt r a inner hex ha hinner run
  have hlayer := redirectLayer_raised (s := s) hex ha hinner
  rw [← SetCookie.fault?_eq_none_iff, ← Decision.cookie_resolve_ne_keep_iff, Decidable.not_not]
  rcases hlayer with ⟨hraised, cookies, hc⟩ | ⟨f, hc, hraised, hnil⟩
  · replace hraised : run.raised = none := hraised
    exact ⟨iff_of_true hraised (SetCookie.ofUpdate_eq_ok hc).2.symm, fun h => absurd hraised h⟩
  · replace hraised : run.raised = some (.cookieName f) := hraised
    obtain ⟨hchange, hname⟩ := SetCookie.ofUpdate_eq_error_iff.1 hc
    refine ⟨iff_of_false (by rw [hraised]; exact nofun) ?_, fun _ => ⟨hnil, f, hname, hraised⟩⟩
    rintro (h | h)
    · cases hname.symm.trans h
    · exact hchange h

/-- Settings with the name of an attribute for the consent cookie. -/
def attributeName : Settings := { redirectCookie := "Path" }

/-- A request that gives an opt-in. -/
def optInRequest : Request := .ofTarget "GET" (Utf8.encode "/net/http?redirect=on".toList) []

/-- These settings are accepted, and an opt-in ends in a fault, though the page inside answers it. -/
theorem consentChanges_served_iff_attributeName : attributeName.Accepted ∧
    isExempt optInRequest.path.toList = false ∧ Snapshot.ofRequest optInRequest = .ok optInRequest.plain ∧
    ∃ f, SetCookie.fault? attributeName.redirectCookie = some f ∧
      let run := redirectLayer attributeName isExempt (fun a => some (Decision.resolve attributeName a))
        (.http optInRequest) (Response.run { status := 200, headers := [] })
      run.messages = [] ∧ run.raised = some (.cookieName f) := by
  have hex : isExempt optInRequest.path.toList = false := by decide
  have ha : Snapshot.ofRequest optInRequest = .ok optInRequest.plain := Snapshot.ofRequest_of_slash (by decide)
  have hgiven : Decision.Overrides attributeName optInRequest.plain :=
    Decision.cookie_resolve_ne_keep_iff.1 (by decide)
  have hname : ¬ SetCookie.IsCookieName attributeName.redirectCookie := fun h =>
    h.unreserved "path" (by decide) (by decide)
  have hserved := (consentChanges_served_iff attributeName).2.2.2 isExempt optInRequest optInRequest.plain
    (Response.run { status := 200, headers := [] }) hex ha rfl
  have hraised := mt hserved.1.1 (not_or.2 ⟨hname, not_not_intro hgiven⟩)
  obtain ⟨hnil, f, hf, hfault⟩ := hserved.2 hraised
  exact ⟨rfl, hex, ha, f, hf, hnil, hfault⟩

/-- Settings with a blank in the name of the consent cookie. -/
def blankInName : Settings := { redirectCookie := "consent cookie" }

/-- These settings are accepted, and no opt-in can be stored. -/
theorem blankInName_unserved : blankInName.Accepted ∧
    SetCookie.ofUpdate blankInName .set = .error (.illegal "consent cookie") ∧
    ¬ SetCookie.Serves blankInName := by
  have hname : SetCookie.fault? blankInName.redirectCookie = some (.illegal "consent cookie") := by
    rfl
  have hset : SetCookie.ofUpdate blankInName .set = .error (.illegal "consent cookie") :=
    SetCookie.ofUpdate_eq_error_iff.2 ⟨nofun, hname⟩
  refine ⟨rfl, hset, fun h => ?_⟩
  obtain ⟨hs, hok, -⟩ := h .set
  cases hset.symm.trans hok

end Gateway

end Changeover
