import Changeover.Proofs.RedirectRuns

/-!
# What the redirect layer leaves as it is

What the layer lets through is repeated entry by entry: only starts get fields, at the end of those they
have (`Extended`), and the run ends as it ends inside (`Passes`). What the layer redirects gets one answer of
its own with one `location` (`Leads`), whatever it surrounds. `redirectLayer_frame` says which of the
five ways out leads where: it is told from the connection, the exemption and the decision alone.
-/

namespace Changeover

open Text

namespace Url

theorem keptInLocation_ascii {c : Char} (h : keptInLocation c = true) : c.toNat < 128 := by
  rcases Bool.or_eq_true_iff.1 h with h | h
  · exact (Query.unreserved_keepable c h).1
  · have : ":/%#?=@[]!$&'()*+,;".toList.all (·.toNat < 128) = true := by decide
    exact of_decide_eq_true (List.all_eq_true.1 this c (List.contains_iff_mem.1 h))

theorem escapeLocation_ascii {url : List Char} {c : Char} (h : c ∈ escapeLocation url) :
    c.toNat < 128 := by
  rcases Percent.encode_chars h with h | rfl | ⟨n, hn, rfl⟩
  · exact keptInLocation_ascii h
  · decide
  · exact Hex.upper_ascii hn

end Url

namespace Gateway

/-- The entries `outside` are the entries `inside` with fields added at the end of every start. -/
inductive Extended (extra : List RawHeader) : List Entry → List Entry → Prop
  | nil : Extended extra [] []
  | start {status : Int} {fields : List RawHeader} {inside outside : List Entry} :
      Extended extra inside outside →
      Extended extra (.sent (.start status fields) :: inside)
        (.sent (.start status (fields ++ extra)) :: outside)
  | same {e : Entry} {inside outside : List Entry} :
      (∀ status fields, e ≠ .sent (.start status fields)) → Extended extra inside outside →
      Extended extra (e :: inside) (e :: outside)

/-- The run `outer` notes something, repeats the run `inner` with fields added at the end of every start,
and ends as that ends. -/
structure Passes (noted : List Entry) (extra : List RawHeader) (inner outer : Run) : Prop where
  entries : ∃ passed, outer.entries = noted ++ passed ∧ Extended extra inner.entries passed
  raised : outer.raised = inner.raised

/-- The run sends one answer and nothing else: a 302 without content that has one `location`, which
leads to the URL, and then the fields `cookies`. -/
structure Leads (url : String) (cookies : List RawHeader) (run : Run) : Prop where
  messages : ∃ fields, run.messages = [.start 302 (fields ++ cookies), .body [] false] ∧
    (Header.rawValues fields "location").map Latin1.ofBytes = [Url.escapeLocation url.toList] ∧
    Header.rawValues fields "set-cookie" = [] ∧ Header.rawValues cookies "location" = []
  raised : run.raised = none

namespace Extended

variable {extra : List RawHeader} {inside outside : List Entry}

theorem of_addHeaders (extra : List RawHeader) (es : List Entry) :
    Extended extra es (es.map (addHeaders extra)) := by
  induction es with
  | nil => exact .nil
  | cons e es ih =>
    cases e with
    | sent m =>
      cases m with
      | start status fields => exact .start ih
      | _ => exact .same (by simp) ih
    | _ => exact .same (by simp) ih

theorem refl (es : List Entry) : Extended [] es es := by
  have hsame : es.map (addHeaders []) = es := by
    refine (List.map_congr_left fun e _ => ?_).trans (List.map_id es)
    cases e with
    | sent m =>
      cases m with
      | start status fields => exact congrArg (fun f => Entry.sent (.start status f)) (List.append_nil fields)
      | _ => rfl
    | _ => rfl
  have h := of_addHeaders [] es
  rwa [hsame] at h

end Extended

section Layer

variable {s : Settings} {r : Request} {d : Decision} {cookies : List RawHeader} {url : String}

theorem rawValues_ofUpdate (h : SetCookie.ofUpdate s d.cookie = .ok cookies) {name : String}
    (hname : name ≠ "set-cookie") : Header.rawValues cookies name = [] := by
  have hraw (value : String) : Header.rawValues [Header.raw "set-cookie" value] name = [] := by
    have hbytes : Latin1.ofBytes (Header.raw "set-cookie" value).1 = "set-cookie".toList :=
      Header.ofBytes_raw_name (by decide) value
    have hne : ("set-cookie".toList == name.toList) = false :=
      beq_false_of_ne fun he => hname (String.toList_injective he).symm
    rw [Header.rawValues, List.filter_cons_of_neg (by rw [hbytes, hne]; exact Bool.false_ne_true)]
    rfl
  rw [(SetCookie.ofUpdate_eq_ok h).1]
  cases d.cookie with
  | keep => rfl
  | _ => exact hraw _

theorem leads_redirection (h : SetCookie.ofUpdate s d.cookie = .ok cookies) (url : String)
    (noted : List Entry) (hnoted : Run.messages { entries := noted } = []) :
    Leads url cookies ((redirection 302 url.toList cookies).run.after noted) := by
  have hlength : Latin1.ofBytes (Header.raw "content-length" "0").1 = "content-length".toList :=
    Header.ofBytes_raw_name (by decide) _
  have hlocation : Latin1.ofBytes
      (Header.raw "location" (String.ofList (Url.escapeLocation url.toList))).1 = "location".toList :=
    Header.ofBytes_raw_name (by decide) _
  have hvalue : Latin1.ofBytes
      (Header.raw "location" (String.ofList (Url.escapeLocation url.toList))).2 =
        Url.escapeLocation url.toList := by
    refine (Header.ofBytes_raw_value ?_ _).trans String.toList_ofList
    rw [String.toList_ofList, List.all_eq_true]
    intro c hc
    exact decide_eq_true (Nat.lt_trans (Url.escapeLocation_ascii hc) (by decide))
  -- the cookie fields come after the two of the layer's own
  refine ⟨⟨[Header.raw "content-length" "0",
    Header.raw "location" (String.ofList (Url.escapeLocation url.toList))], ?_, ?_, ?_,
    rawValues_ofUpdate h (by decide)⟩, rfl⟩
  · exact (Run.messages_append noted _).trans (by rw [hnoted]; rfl)
  · simp [Header.rawValues, hlength, hlocation, hvalue]
  · simp [Header.rawValues, hlength, hlocation]

end Layer

/-- The layer does what is decided and nothing else. What is not a request and what is exempt is passed on as
it is, without a decision; so is a request on which none can be made, which is logged. A request that is not
redirected is passed on with the fields of the consent update at the end of every start. One that is
redirected gets the answer of the layer, whatever is surrounded. -/
theorem redirectLayer_frame (s : Settings) (exempt : List Char → Bool) (resolve : Resolver)
    (inner : Run) :
    redirectLayer s exempt resolve .other inner = inner ∧
      ∀ r : Request,
        (exempt r.path.toList = true → redirectLayer s exempt resolve (.http r) inner = inner) ∧
        ∀ a, exempt r.path.toList = false → Snapshot.ofRequest r = .ok a →
          (resolve a = none →
            Passes [.resolved a.path, .logged (resolveError r.path)] [] inner
              (redirectLayer s exempt resolve (.http r) inner)) ∧
          ∀ d cookies, resolve a = some d → SetCookie.ofUpdate s d.cookie = .ok cookies →
            (d.destination = none →
              Passes [.resolved a.path] cookies inner
                (redirectLayer s exempt resolve (.http r) inner)) ∧
            ∀ url, d.destination = some url →
              Leads url cookies (redirectLayer s exempt resolve (.http r) inner) ∧
              ∀ other, redirectLayer s exempt resolve (.http r) other =
                redirectLayer s exempt resolve (.http r) inner := by
  refine ⟨rfl, fun r => ⟨redirectLayer_exempt inner, fun a hex ha => ⟨fun hd => ?_, ?_⟩⟩⟩
  · rw [redirectLayer, hex, ha]
    simp only [hd]
    exact ⟨⟨inner.entries, rfl, .refl _⟩, rfl⟩
  · intro d cookies hd hc
    have haround (other : Run) : redirectLayer s exempt resolve (.http r) other =
        (carryOut s r d other).after [.resolved a.path] := redirectLayer_decided other hex ha hd
    refine ⟨fun hnone => ?_, fun url hurl => ⟨?_, fun other => ?_⟩⟩
    · rw [haround, carryOut, hc, hnone]
      exact ⟨⟨_, rfl, .of_addHeaders cookies inner.entries⟩, rfl⟩
    · rw [haround, carryOut, hc, hurl]
      exact leads_redirection hc url [.resolved a.path, .logged (redirectIssued r.path url d.cookie)] rfl
    · rw [haround, haround, carryOut, carryOut, hc, hurl]

/-- A request for a page. -/
def pageRequest : Request := .ofTarget "GET" (Utf8.encode "/net/http?redirect=off".toList) []

/-- A run that starts two responses, one with a cookie of its own and one without fields, and breaks
off. -/
def startedTwice : Run where
  entries := [.entered, .sent (.start 200 [Header.raw "set-cookie" "a=b"]), .sent (.body [97] true),
    .sent (.start 500 []), .sent (.other "http.response.trailers")]
  raised := some .disconnected

/-- A decision to clear the cookie adds to both starts, and the run breaks off as it did. -/
theorem redirectLayer_frame_startedTwice :
    isExempt pageRequest.path.toList = false ∧ Snapshot.ofRequest pageRequest = .ok pageRequest.plain ∧
      SetCookie.ofUpdate {} .clear = .ok [SetCookie.delete "pkggodev-redirect"] ∧
      Passes [.resolved "/net/http"] [SetCookie.delete "pkggodev-redirect"] startedTwice
        (redirectLayer {} isExempt (fun _ => some { cookie := .clear }) (.http pageRequest)
          startedTwice) := by
  have hex : isExempt pageRequest.path.toList = false := by decide +kernel
  have ha : Snapshot.ofRequest pageRequest = .ok pageRequest.plain :=
    Snapshot.ofRequest_of_slash (by decide +kernel)
  have hc : SetCookie.ofUpdate {} .clear = .ok [SetCookie.delete "pkggodev-redirect"] :=
    SetCookie.ofUpdate_eq (by decide +kernel) .clear
  have hpath : pageRequest.plain.path = "/net/http" := by decide +kernel
  have hpasses := (((redirectLayer_frame {} isExempt (fun _ => some { cookie := .clear })
    startedTwice).2 pageRequest).2 pageRequest.plain hex ha).2 _ _ rfl hc
  rw [hpath] at hpasses
  exact ⟨hex, ha, hc, hpasses.1 rfl⟩

end Gateway

end Changeover
