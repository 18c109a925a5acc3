import Changeover.Proofs.ConsentSession
import Changeover.Proofs.EveryRequest

/-!
# The consent update in the answer

A visitor who gives a consent is told to keep it by whichever answer goes out, as long as that answer goes
through the redirect layer: none of the pages says anything about the consent cookie (`silent_route`), and
the layer adds one field (`layered_carries`). The answer of the last resort is made outside the layer, so
the update is lost with exactly the requests that break and are answered (`handle_carries_iff`).
-/

namespace Changeover

open Text

namespace Header

variable {name : String} {hs hs' : List RawHeader} {v : Bytes}

theorem mem_rawValues :
    v ∈ rawValues hs name ↔ ∃ f ∈ hs, Latin1.ofBytes f.1 = name.toList ∧ f.2 = v := by
  simp [rawValues, and_assoc]

theorem rawValues_append (hs hs' : List RawHeader) (name : String) :
    rawValues (hs ++ hs') name = rawValues hs name ++ rawValues hs' name := by
  rw [rawValues, List.filter_append, List.map_append, rawValues, rawValues]

end Header

/-- The texts of the `set-cookie` fields that carry a consent: an opt-in is stored, an opt-out deletes
what was stored. -/
def Consent.cookieTexts (name : String) : Consent → List String
  | .on => [name ++ "=on; Path=/; SameSite=lax"]
  | .off => [name ++ "=\"\"; Max-Age=-1; Path=/; SameSite=lax"]
  | .unset => []

namespace Jar

variable {name : String} {hs hs' : List RawHeader} {f : RawHeader}

/-- The values of the `set-cookie` fields that are about the cookie `name`. -/
def about (name : String) (hs : List RawHeader) : List (List Char) :=
  ((Header.rawValues hs "set-cookie").map Latin1.ofBytes).filter (named · == name)

theorem about_append (name : String) (hs hs' : List RawHeader) :
    about name (hs ++ hs') = about name hs ++ about name hs' := by
  rw [about, Header.rawValues_append, List.map_append, List.filter_append, about, about]

theorem about_eq_nil_iff : about name hs = [] ↔ Silent name hs := by
  simp [about, Silent, List.filter_eq_nil_iff]

theorem Silent.of_subset (h : Silent name hs) (hsub : ∀ f ∈ hs', f ∈ hs) : Silent name hs' := by
  intro v hv
  obtain ⟨f, hf, hname, hvalue⟩ := Header.mem_rawValues.1 hv
  exact h v (Header.mem_rawValues.2 ⟨f, hsub f hf, hname, hvalue⟩)

theorem Silent.append (h : Silent name hs) (h' : Silent name hs') : Silent name (hs ++ hs') := by
  intro v hv
  rw [Header.rawValues_append] at hv
  exact (List.mem_append.1 hv).elim (h v) (h' v)

theorem silent_nil : Silent name [] := nofun

theorem silent_singleton (h : Latin1.ofBytes f.1 ≠ "set-cookie".toList) : Silent name [f] := by
  intro v hv
  obtain ⟨g, hg, hname, -⟩ := Header.mem_rawValues.1 hv
  rw [List.mem_singleton.1 hg] at hname
  exact absurd hname h

theorem silent_raw {field : String} (h : field.toList.all (·.toNat < 256) = true)
    (hne : field ≠ "set-cookie") (value : String) : Silent name [Header.raw field value] := by
  refine silent_singleton fun he => hne ?_
  rw [Header.ofBytes_raw_name h value] at he
  exact String.toList_injective he

theorem about_setCookie (h : SetCookie.fault? name = none) (value : String) {text : String}
    {rest : List Char} (hv : ';' ∉ value.toList)
    (ht : Latin1.ofBytes (Header.raw "set-cookie" text).2 =
      name.toList ++ '=' :: (value.toList ++ ';' :: rest)) :
    about name [Header.raw "set-cookie" text] = [name.toList ++ '=' :: (value.toList ++ ';' :: rest)] := by
  have hname : Latin1.ofBytes (Header.raw "set-cookie" text).1 = "set-cookie".toList :=
    Header.ofBytes_raw_name (by decide) text
  have hvalues : (Header.rawValues [Header.raw "set-cookie" text] "set-cookie").map Latin1.ofBytes =
      [name.toList ++ '=' :: (value.toList ++ ';' :: rest)] := by
    simp [Header.rawValues, hname, ht]
  rw [about, hvalues, List.filter_cons_of_pos (by rw [named_field h hv, beq_self_eq_true])]
  rfl

theorem about_fields (h : SetCookie.fault? name = none) (c : Consent) :
    about name (SetCookie.fields name (.ofOverride c)) = (c.cookieTexts name).map String.toList := by
  cases c with
  | on =>
    refine (about_setCookie h "on" (by decide) (SetCookie.ofBytes_store h)).trans ?_
    simp [Consent.cookieTexts]
  | off =>
    refine (about_setCookie h "\"\"" (by decide) (SetCookie.ofBytes_delete h)).trans ?_
    simp [Consent.cookieTexts]
  | unset => rfl

end Jar

namespace Gateway

/-- The answer of the legacy site says nothing about the cookie `name`, in whatever letter case it names
its fields. -/
def LegacyReply.Silent (name : String) : LegacyReply → Prop
  | .answered a => Jar.Silent name (a.headers.map lowered)
  | .failed _ => True

namespace Run

variable {name : String} {r : Run} {response : Response}

/-- No response that is started says anything about the cookie `name`. -/
def Silent (name : String) (r : Run) : Prop := ∀ fields ∈ r.starts, Jar.Silent name fields

theorem starts_of_messages (h : r.messages = response.messages) : r.starts = [response.headers] := by
  rw [starts, h]
  rfl

theorem starts_of_nil (h : r.messages = []) : r.starts = [] := by
  rw [starts, h]
  rfl

theorem silent_of_messages (h : r.messages = response.messages) (hs : Jar.Silent name response.headers) :
    r.Silent name := by
  rw [Silent, starts_of_messages h]
  exact List.forall_mem_singleton.2 hs

theorem silent_of_nil (h : r.messages = []) : r.Silent name := by
  rw [Silent, starts_of_nil h]
  exact nofun

end Run

section Pages

variable {name : String} {r : Request} {u : LegacyReply}

theorem silent_lengthField (body : Bytes) : Jar.Silent name [lengthField body] :=
  Jar.silent_raw (by decide) (by decide) _

theorem silent_jsonResponse {headers : List RawHeader} (h : Jar.Silent name headers) (status : Int)
    (content : Json) : Jar.Silent name (jsonResponse status headers content).headers :=
  h.append ((silent_lengthField _).append (Jar.silent_raw (by decide) (by decide) _))

theorem silent_plainText (status : Int) (text : String) :
    Jar.Silent name (plainText status text).headers :=
  (silent_lengthField _).append (Jar.silent_raw (by decide) (by decide) _)

theorem silent_statedHeaders {a : Response} (h : Jar.Silent name (a.headers.map lowered)) :
    Jar.Silent name ((statedHeaders a).map lowered) := by
  unfold statedHeaders
  simp only
  split
  · exact h
  · rw [List.map_append]
    refine h.append (Jar.silent_singleton ?_)
    -- the name of the field that is added does not depend on the length
    have hlower : (lowered (Header.raw "Content-Length" (toString a.body.length))).1 =
        lowerBytes (Header.raw "Content-Length" "").1 := rfl
    rw [hlower]
    decide

theorem silent_relay {a response : Response} (h : ∀ f ∈ a.headers, AsciiField f)
    (hs : Jar.Silent name (a.headers.map lowered)) {method : String}
    (hr : relay method a = .ok response) : Jar.Silent name response.headers := by
  rw [relay_ascii h method] at hr
  obtain rfl := Except.ok.inj hr
  refine Jar.Silent.append ?_ ((silent_statedHeaders hs).of_subset fun f hf => ?_)
  · unfold ownLength
    split
    · exact Jar.silent_nil
    · exact silent_lengthField a.body
  · exact (List.filter_sublist.map lowered).subset hf

/-- No page says anything about the consent cookie, unless the legacy site does. -/
theorem silent_route (hu : u.Expected) (hs : u.Silent name) (debug : Bool) (r : Request)
    (body : Option Bytes) : (route debug r body u).Silent name := by
  unfold route
  cases Match.find debug r.path.toList r.method with
  | page p =>
    cases p with
    | legacy =>
      -- the only page whose answer has fields that are not the gateway's own
      show (forward r body u).Silent name
      rcases forward_cases r body u with ⟨before, response, hq, hreturned, h⟩ | ⟨before, f, hq, h⟩
      · rw [h]
        refine Run.silent_of_messages (hq.messages_after _) ?_
        cases hreturned with
        | relayed ha => exact silent_relay hu hs ha
        | badGateway => exact silent_plainText 502 "Bad Gateway"
      · rw [h]
        exact Run.silent_of_nil (hq.messages_after _)
    | health | bot => exact Run.silent_of_messages rfl (silent_jsonResponse Jar.silent_nil _ _)
    | _ => exact Run.silent_of_messages rfl (Jar.silent_raw (by decide) (by decide) _)
  | wrongMethod p =>
    have hallow : Jar.Silent name [Header.raw "allow" (", ".intercalate p.methods)] :=
      Jar.silent_raw (by decide) (by decide) _
    exact Run.silent_of_messages rfl (silent_jsonResponse hallow _ _)
  | slash path =>
    simp only
    cases urlOf r path with
    | ok url => exact Run.silent_of_messages rfl (silent_redirection name 307 url)
    | error f => exact Run.silent_of_nil rfl
  | nothing => exact Run.silent_of_messages rfl (silent_jsonResponse Jar.silent_nil _ _)

end Pages

section Answers

variable {s : Settings} {r : Request} {x : Surroundings} {a : Snapshot} {c : Consent}

/-- The request gives the consent `c`, and it counts. -/
def Gives (s : Settings) (r : Request) (c : Consent) : Prop :=
  c ≠ .unset ∧ (⟨r, {}⟩ : Visit).Overrides s isExempt c.word

instance (s : Settings) (r : Request) (c : Consent) : Decidable (Gives s r c) :=
  inferInstanceAs (Decidable (_ ∧ _))

/-- The fields of an answer are about the consent cookie once, to carry the consent `c`. -/
def Carries (s : Settings) (c : Consent) (fields : List RawHeader) : Prop :=
  Jar.about s.redirectCookie fields = (c.cookieTexts s.redirectCookie).map String.toList

theorem not_carries_of_silent {fields : List RawHeader} (h : Jar.Silent s.redirectCookie fields)
    (hc : c ≠ .unset) : ¬ Carries s c fields := by
  rw [Carries, Jar.about_eq_nil_iff.2 h]
  cases c with
  | unset => exact absurd rfl hc
  | _ => exact nofun

theorem carries_append {fields : List RawHeader} (hname : SetCookie.fault? s.redirectCookie = none)
    (h : Jar.Silent s.redirectCookie fields) :
    Carries s c (fields ++ SetCookie.fields s.redirectCookie (.ofOverride c)) := by
  rw [Carries, Jar.about_append, Jar.about_eq_nil_iff.2 h, List.nil_append]
  exact Jar.about_fields hname c

theorem query_ofRequest (ha : Snapshot.ofRequest r = .ok a) :
    a.queryString.toList = Latin1.ofBytes r.query := by
  obtain ⟨host, path, -, rfl⟩ := Snapshot.ofRequest_eq_ok ha
  exact String.toList_ofList

theorem cookie_resolve (h : Gives s r c) (ha : Snapshot.ofRequest r = .ok a) :
    (Decision.resolve s a).cookie = .ofOverride c := by
  obtain ⟨hc, ⟨-, hreturning⟩, hvalue⟩ := h
  have hquery : a.queryString.toList = (⟨r, {}⟩ : Visit).query := query_ofRequest ha
  rw [← hquery] at hreturning hvalue
  have hsays : Decision.Says s a c := by
    cases c with
    | on => exact .on hvalue
    | off => exact .off hvalue
    | unset => exact absurd rfl hc
  rw [Decision.resolve_of_not_returning hreturning, Decision.says_iff.1 hsays]

theorem layered_carries (hname : SetCookie.fault? s.redirectCookie = none) (h : Gives s r c)
    (hu : x.legacy.Expected) (hs : x.legacy.Silent s.redirectCookie) :
    ∀ fields ∈ (layered s r x).starts, Carries s c fields := by
  have hex : isExempt r.path.toList = false := h.2.1.1
  cases ha : Snapshot.ofRequest r with
  | error e =>
    have hfault : layered s r x = Run.fault (.unreadableUrl e) := by
      rw [layered_eq, redirectLayer, hex, ha]
      rfl
    rw [hfault, Run.starts_of_nil rfl]
    exact fun _ hf => absurd hf List.not_mem_nil
  | ok a =>
    -- neither the layer's own answer nor a page is about the cookie, so what is added is all there is
    have hcookie := cookie_resolve h ha
    cases hd : (Decision.resolve s a).destination with
    | some url =>
      have hm : (layered s r x).messages = (redirection 302 url.toList
          (SetCookie.fields s.redirectCookie (Decision.resolve s a).cookie)).messages :=
        messages_redirectLayer_redirect _ (SetCookie.ofUpdate_eq hname _) hex ha rfl hd
      rw [Run.starts_of_messages hm, hcookie]
      exact List.forall_mem_singleton.2 (carries_append hname (silent_redirection _ 302 url.toList))
    | none =>
      have hm : (layered s r x).messages = (surrounded s r x).messages.map (Message.withFields
          (SetCookie.fields s.redirectCookie (Decision.resolve s a).cookie)) :=
        messages_redirectLayer_pass _ (SetCookie.ofUpdate_eq hname _) hex ha rfl hd
      rw [Run.starts_eq_of_messages _ _ hm, hcookie, messages_surrounded]
      intro fields hf
      obtain ⟨base, hbase, rfl⟩ := List.mem_map.1 hf
      exact carries_append hname (silent_route hu hs s.debug r x.body base hbase)

/-- A consent that counts is carried by whatever answer goes out, unless the request breaks before one is
made: then the answer of the last resort, if there is one, says nothing about the cookie. -/
theorem handle_carries_iff (hname : SetCookie.fault? s.redirectCookie = none) (h : Gives s r c)
    (hu : x.legacy.Expected) (hs : x.legacy.Silent s.redirectCookie) :
    ((∀ fields ∈ (handle s r x).starts, Carries s c fields) ↔ (Breaks s r x → UrlLost r)) ∧
      (¬ Breaks s r x → (handle s r x).Answered) ∧
      (Breaks s r x → ¬ UrlLost r → (handle s r x).messages = faultResponse.messages ∧
        Jar.Silent s.redirectCookie faultResponse.headers) := by
  have hsilent : Jar.Silent s.redirectCookie faultResponse.headers :=
    silent_jsonResponse Jar.silent_nil _ _
  rcases messages_handle_cases s r x with
    ⟨hb, hanswered, hm⟩ | ⟨hb, ⟨hl, hm⟩ | ⟨hl, hm⟩⟩
  · -- an answer from inside has come through the redirect layer
    obtain ⟨response, hresponse⟩ := hanswered
    refine ⟨iff_of_true ?_ fun hbreaks => absurd hbreaks hb, fun _ => ⟨response, hm.trans hresponse⟩,
      fun hbreaks => absurd hbreaks hb⟩
    rw [Run.starts, hm]
    exact layered_carries hname h hu hs
  · refine ⟨iff_of_true ?_ fun _ => hl, fun hn => absurd hb hn, fun _ hn => absurd hl hn⟩
    rw [Run.starts_of_nil hm]
    exact fun _ hf => absurd hf List.not_mem_nil
  · refine ⟨iff_of_false (fun hall => ?_) fun himp => hl (himp hb), fun hn => absurd hb hn,
      fun _ _ => ⟨hm, hsilent⟩⟩
    rw [Run.starts_of_messages hm] at hall
    exact not_carries_of_silent hsilent h.1 (hall _ List.mem_cons_self)

/-- An opt-out at a page that the legacy site cannot give. -/
def optOut : Request := .ofTarget "GET" (Utf8.encode "/x?redirect=off".toList) []

/-- The answer for the failure deletes the cookie. -/
theorem handle_carries_iff_badGateway :
    SetCookie.fault? ({} : Settings).redirectCookie = none ∧ Gives {} optOut .off ∧
      unreachable.Expected ∧ unreachable.Silent ({} : Settings).redirectCookie ∧
      (handle {} optOut { legacy := unreachable }).Answered ∧
      ∀ fields ∈ (handle {} optOut { legacy := unreachable }).starts, Carries {} .off fields := by
  have hname : SetCookie.fault? ({} : Settings).redirectCookie = none := by decide +kernel
  have hgives : Gives {} optOut .off := by decide +kernel
  have hu : unreachable.Expected := trivial
  have hs : unreachable.Silent ({} : Settings).redirectCookie := trivial
  have hunbroken : ¬ Breaks {} optOut { legacy := unreachable } := by
    rcases layered_cases {} optOut { legacy := unreachable } with ⟨-, hb⟩ | ⟨hbroken, -⟩
    · exact hb
    · have hsent : (layered {} optOut { legacy := unreachable }).messages.isEmpty = false := by
        decide +kernel
      rw [hbroken.1] at hsent
      cases hsent
  obtain ⟨hiff, hanswered, -⟩ :=
    handle_carries_iff (x := { legacy := unreachable }) hname hgives hu hs
  exact ⟨hname, hgives, hu, hs, hanswered hunbroken, hiff.2 fun hb => absurd hb hunbroken⟩

/-- An opt-out on a path that cannot be forwarded. -/
def lostOptOut : Request := .ofTarget "GET" (Utf8.encode "//x?redirect=off".toList) []

theorem lostOptOut_not_carried :
    Gives {} lostOptOut .off ∧ (LegacyReply.answered steadyAnswer).Expected ∧
      (LegacyReply.answered steadyAnswer).Silent ({} : Settings).redirectCookie ∧
      ∃ fields ∈ (handle {} lostOptOut { legacy := .answered steadyAnswer }).starts,
        ¬ Carries {} .off fields := by
  have hnone : (handle {} lostOptOut { legacy := .answered steadyAnswer }).starts.map
      (Jar.about ({} : Settings).redirectCookie) = [[]] := by decide +kernel
  obtain ⟨fields, rest, hstarts, hfields, -⟩ := List.map_eq_cons_iff.1 hnone
  refine ⟨by decide +kernel, nofun, nofun, fields, ?_, ?_⟩
  · rw [hstarts]
    exact List.mem_cons_self
  · rw [Carries, hfields]
    exact nofun

end Answers

end Gateway

end Changeover
