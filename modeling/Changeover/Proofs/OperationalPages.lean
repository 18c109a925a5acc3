import Changeover.Proofs.ConsentUpdate
import Changeover.Proofs.Consistency

/-!
# Operational pages

Three places say which paths are operational: what the redirect layer lets through (`isExempt`), the pages
that answer for the gateway itself, and what is not reported. The layer looks at the path of the request,
the decision and the reports at the path of its snapshot.

The two paths differ for a target in absolute form, and only there is an operational page redirected or told
anything about the consent cookie (`operational_untouched_iff`). What is exempt may end in a line feed, what
is not reported may not, so two operational paths are reported (`operational_reported_iff`).
-/

namespace Changeover

open Text

namespace Gateway

section Paths

variable {path rest : List Char} {debug : Bool} {method : String} {p : Route}

/-- The operational paths with a line feed after them. -/
def LineFed (path : List Char) : Prop :=
  path = "/-/bot\n".toList ∨ path = "/-/refresh\n".toList

instance (path : List Char) : Decidable (LineFed path) := inferInstanceAs (Decidable (_ ∨ _))

theorem isExempt_iff : isExempt path = true ↔ "/_ah/".toList <+: path ∨
    path = "/-/bot".toList ∨ path = "/-/refresh".toList ∨ LineFed path := by
  rw [isExempt, Bool.or_eq_true, List.isPrefixOf_iff_prefix, List.any_eq_true, LineFed]
  simp only [List.mem_cons, List.not_mem_nil, or_false, beq_iff_eq, exists_eq_or_imp,
    exists_eq_left, eq_comm (b := path)]

theorem head?_of_isExempt (h : isExempt path = true) : path.head? = some '/' := by
  rcases isExempt_iff.1 h with ⟨t, rfl⟩ | rfl | rfl | rfl | rfl <;> rfl

theorem isReported_iff_of_isExempt (h : isExempt path = true) :
    Report.isReported path = true ↔ LineFed path := by
  rcases isExempt_iff.1 h with hplatform | rfl | rfl | rfl | rfl
  · have hquiet : Report.isReported path = false := by
      rw [Report.isReported, List.isPrefixOf_iff_prefix.2 hplatform]
      rfl
    refine iff_of_false (by rw [hquiet]; exact Bool.false_ne_true) ?_
    rintro (rfl | rfl) <;> exact absurd hplatform (by decide)
  all_goals decide

theorem Route.head?_of_takesPath (h : p.takesPath path = true) : path.head? = some '/' := by
  cases hp : p.path? with
  | some text =>
    have hhead : text.toList.head? = some '/' := by
      cases p <;> cases hp <;> rfl
    obtain ⟨rest, hrest⟩ := List.head?_eq_some_iff.1 hhead
    simp only [takesPath, hp, hrest, Bool.or_eq_true, beq_iff_eq] at h
    rcases h with rfl | rfl <;> rfl
  | none =>
    simp only [takesPath, hp] at h
    split at h
    · rfl
    · cases h

theorem Match.takes_of_page (h : find debug path method = .page p) : p.takes path method = true := by
  unfold find at h
  simp only at h
  split at h
  · next q hq =>
    cases h
    have htakes := List.find?_some hq
    exact htakes
  · split at h
    · cases h
    · split at h <;> cases h

theorem isExempt_of_page (h : Match.find debug path method = .page p) (hp : p = .health ∨ p = .bot) :
    isExempt path = true := by
  have htakes := (Bool.and_eq_true _ _ ▸ Match.takes_of_page h).1
  rcases hp with rfl | rfl <;>
  · simp only [Route.takesPath, Route.path?, Bool.or_eq_true, beq_iff_eq] at htakes
    rcases htakes with rfl | rfl <;> decide

theorem head?_otherSlash {c : Char} (hc : c ≠ '/') (rest : List Char) :
    (otherSlash (c :: rest)).head? = some c := by
  unfold otherSlash
  split
  · -- the first character is the last that is looked at from the end, and it is no slash
    have hstop := Url.dropWhile_append_stop (p := (· == '/')) (beq_false_of_ne hc) rest.reverse []
    rw [List.reverse_cons, hstop, List.reverse_append]
    rfl
  · rfl

theorem Match.find_eq_nothing {c : Char} (hc : c ≠ '/') (rest : List Char) :
    find debug (c :: rest) method = .nothing := by
  -- neither the path nor the one with the other ending begins with a slash, as all pages do
  have hnone {path : List Char} (h : path.head? = some c) (p : Route) : p.takesPath path = false := by
    cases ht : p.takesPath path with
    | false => rfl
    | true => exact absurd (Option.some.inj (h.symm.trans (Route.head?_of_takesPath ht))) hc
  have hpath (p : Route) : p.takesPath (c :: rest) = false := hnone rfl p
  have hother (p : Route) : p.takesPath (otherSlash (c :: rest)) = false :=
    hnone (head?_otherSlash hc rest) p
  have hfind {f : Route → Bool} (hf : ∀ p, f p = false) : (Route.table debug).find? f = none :=
    List.find?_eq_none.2 fun p _ => by simp [hf p]
  have htakes (p : Route) : p.takes (c :: rest) method = false := by rw [Route.takes, hpath p]; rfl
  rw [find, hfind htakes, hfind hpath]
  simp [hother]

theorem head?_of_isAbsolute (h : Snapshot.isAbsolute path = true) : path.head? = some 'h' := by
  simp only [Snapshot.isAbsolute, Bool.or_eq_true, List.isPrefixOf_iff_prefix] at h
  rcases h with ⟨t, rfl⟩ | ⟨t, rfl⟩ <;> rfl

end Paths

section Requests

variable {s : Settings} {r : Request} {x : Surroundings} {a : Snapshot} {cookies : List RawHeader}

/-- The layer and the decision look at one path unless the target is a URL. -/
theorem isExempt_of_not_isAbsolute (ha : Snapshot.ofRequest r = .ok a)
    (hp : Snapshot.isAbsolute r.path.toList = false) :
    isExempt r.path.toList = isExempt a.path.toList := by
  obtain ⟨host, path, ht, rfl⟩ := Snapshot.ofRequest_eq_ok ha
  rw [Snapshot.target, hp] at ht
  cases ht
  simp only [String.toList_ofList]
  cases hpath : r.path.toList with
  | nil => decide
  | cons c rest => rfl

/-- No URL is an operational path, and no page takes one. -/
theorem not_served_of_isAbsolute (hp : Snapshot.isAbsolute r.path.toList = true) :
    isExempt r.path.toList = false ∧
      ∀ debug body u, route debug r body u = (detailResponse 404 [] "Not Found").run := by
  obtain ⟨rest, hpath⟩ := List.head?_eq_some_iff.1 (head?_of_isAbsolute hp)
  constructor
  · cases hex : isExempt r.path.toList with
    | false => rfl
    | true =>
      have hhead := head?_of_isExempt hex
      rw [hpath] at hhead
      cases hhead
  · intro debug body u
    rw [route, hpath, Match.find_eq_nothing (by decide)]

/-- Nothing is asked for that would be done on another page: the visitor has just come back from the new
site, or gives no consent and has not opted in either. -/
def AsksNothing (s : Settings) (a : Snapshot) : Prop :=
  Decision.Returning s a ∨ Decision.Says s a .unset ∧ ¬ Decision.Prefers s a .unset

/-- What keeps the redirect layer from touching a request with an operational snapshot: its target is a
path, nothing is asked for, or the consent cookie has a name that is none. -/
inductive Untouched (s : Settings) (r : Request) (a : Snapshot) : Prop
  | path : Snapshot.isAbsolute r.path.toList = false → Untouched s r a
  | nothing : AsksNothing s a → Untouched s r a
  | cookieName {e : SetCookie.Fault} :
      SetCookie.ofUpdate s (Decision.resolve s a).cookie = .error e → Untouched s r a

theorem asksNothing_iff : AsksNothing s a ↔
    (Decision.resolve s a).redirects = false ∧ (Decision.resolve s a).cookie = .keep := by
  by_cases hr : Decision.Returning s a
  · rw [Decision.resolve_of_returning hr]
    exact iff_of_true (.inl hr) ⟨rfl, rfl⟩
  have hcookie : (Decision.resolve s a).cookie = .keep ↔ Decision.overrideConsent s a = .unset := by
    rw [Decision.resolve_of_not_returning hr]
    cases Decision.overrideConsent s a <;> simp [CookieUpdate.ofOverride]
  rw [AsksNothing, Decision.says_iff, hcookie, ← Bool.not_eq_true, Decision.redirects_resolve_iff]
  constructor
  · rintro (h | ⟨hunset, hp⟩)
    · exact absurd h hr
    · rw [hunset]
      exact ⟨fun h => hp h.2, rfl⟩
  · rintro ⟨hp, hunset⟩
    rw [hunset] at hp
    exact .inr ⟨hunset, fun h => hp ⟨hr, h⟩⟩

theorem silent_ofUpdate_iff {u : CookieUpdate} (hc : SetCookie.ofUpdate s u = .ok cookies) :
    Jar.Silent s.redirectCookie cookies ↔ u = .keep := by
  obtain ⟨rfl, rfl | hname⟩ := SetCookie.ofUpdate_eq_ok hc
  · exact iff_of_true Jar.silent_nil rfl
  rw [← Jar.about_eq_nil_iff]
  cases u with
  | keep => exact iff_of_true rfl rfl
  | set =>
    refine iff_of_false (fun hnil => ?_) nofun
    cases (Jar.about_fields hname .on).symm.trans hnil
  | clear =>
    refine iff_of_false (fun hnil => ?_) nofun
    cases (Jar.about_fields hname .off).symm.trans hnil

theorem layered_exempt (h : isExempt r.path.toList = true) : layered s r x = surrounded s r x :=
  (layered_eq s r x).trans (redirectLayer_exempt _ h)

theorem silent_handle {name : String} (h : (layered s r x).Silent name) : (handle s r x).Silent name := by
  rcases messages_handle_cases s r x with ⟨-, -, hm⟩ | ⟨-, ⟨-, hm⟩ | ⟨-, hm⟩⟩
  · rw [Run.Silent, Run.starts, hm]
    exact h
  · exact Run.silent_of_nil hm
  · exact Run.silent_of_messages hm (silent_jsonResponse Jar.silent_nil _ _)

theorem silent_handle_passed {response : Response} (hex : isExempt r.path.toList = false)
    (ha : Snapshot.ofRequest r = .ok a)
    (hc : SetCookie.ofUpdate s (Decision.resolve s a).cookie = .ok cookies)
    (hd : (Decision.resolve s a).destination = none)
    (hpage : route s.debug r x.body x.legacy = response.run)
    (hs : Jar.Silent s.redirectCookie response.headers) :
    (handle s r x).Silent s.redirectCookie ↔ (Decision.resolve s a).cookie = .keep := by
  have hlayered : (layered s r x).messages =
      { response with headers := response.headers ++ cookies }.messages := by
    have hpass : (layered s r x).messages =
        (surrounded s r x).messages.map (Message.withFields cookies) :=
      messages_redirectLayer_pass _ hc hex ha rfl hd
    rw [hpass, messages_surrounded, hpage]
    rfl
  have hhandle := (messages_lastResort_of_answered (r := r) ⟨_, hlayered⟩).trans hlayered
  have hstarts : (handle s r x).starts = [response.headers ++ cookies] := Run.starts_of_messages hhandle
  rw [Run.Silent, hstarts, List.forall_mem_singleton, ← silent_ofUpdate_iff hc]
  refine ⟨fun h => h.of_subset fun f hf => ?_, hs.append⟩
  exact List.mem_append_right _ hf

theorem untouched_iff_of_isAbsolute (ha : Snapshot.ofRequest r = .ok a)
    (hp : Snapshot.isAbsolute r.path.toList = true) :
    (¬ (⟨r, surrounded s r x⟩ : Visit).Redirected s isExempt ∧ (handle s r x).Silent s.redirectCookie) ↔
      Untouched s r a := by
  obtain ⟨hex, hpage⟩ := not_served_of_isAbsolute hp
  cases hc : SetCookie.ofUpdate s (Decision.resolve s a).cookie with
  | error e =>
    have hbroken (inner : Run) : ((⟨r, inner⟩ : Visit).around s isExempt inner).messages = [] := by
      rw [Visit.around, redirectLayer_decided inner hex ha rfl, carryOut, hc]
      rfl
    refine iff_of_true ⟨Visit.not_redirected (hbroken {}), ?_⟩ (.cookieName hc)
    exact silent_handle (Run.silent_of_nil (hbroken (surrounded s r x)))
  | ok cookies =>
    have huntouched : Untouched s r a ↔ AsksNothing s a := by
      refine ⟨fun h => ?_, .nothing⟩
      cases h with
      | path hn => cases hp.symm.trans hn
      | nothing h => exact h
      | cookieName he => cases hc.symm.trans he
    rw [huntouched, asksNothing_iff, redirected_iff_of_snapshot ha hc]
    cases hd : (Decision.resolve s a).destination with
    | some url =>
      have hredirects : (Decision.resolve s a).redirects = true := by rw [Decision.redirects, hd]; rfl
      refine iff_of_false (fun h => h.1 ⟨hex, hredirects⟩) fun h => ?_
      exact Bool.false_ne_true (h.1.symm.trans hredirects)
    | none =>
      -- what is let through gets one answer, so any fields of the update do go out
      have hstays : (Decision.resolve s a).redirects = false := by rw [Decision.redirects, hd]; rfl
      have hmissing : Jar.Silent s.redirectCookie (detailResponse 404 [] "Not Found").headers :=
        silent_jsonResponse Jar.silent_nil _ _
      rw [silent_handle_passed hex ha hc hd (hpage _ _ _) hmissing]
      refine and_congr_left fun _ => iff_of_true (fun h => ?_) hstays
      exact Bool.false_ne_true (hstays.symm.trans h.2)

/-- A request with an operational snapshot is not redirected and told nothing about the consent cookie
exactly when it is one that the layer leaves untouched. If its target is a path, the layer does nothing. -/
theorem operational_untouched_iff (ha : Snapshot.ofRequest r = .ok a)
    (hexempt : isExempt a.path.toList = true) :
    (Snapshot.isAbsolute r.path.toList = false → handle s r x = lastResort r (surrounded s r x)) ∧
      (x.legacy.Expected → x.legacy.Silent s.redirectCookie →
        (¬ (⟨r, surrounded s r x⟩ : Visit).Redirected s isExempt ∧
            (handle s r x).Silent s.redirectCookie ↔ Untouched s r a)) := by
  cases hp : Snapshot.isAbsolute r.path.toList with
  | true => exact ⟨nofun, fun _ _ => untouched_iff_of_isAbsolute ha hp⟩
  | false =>
    have hex : isExempt r.path.toList = true := (isExempt_of_not_isAbsolute ha hp).trans hexempt
    refine ⟨fun _ => by rw [handle, layered_exempt hex], fun hu hs => iff_of_true ⟨?_, ?_⟩ (.path hp)⟩
    · apply Visit.not_redirected
      rw [Visit.around, redirectLayer_exempt _ hex]
      rfl
    · apply silent_handle
      rw [layered_exempt hex, Run.Silent, Run.starts, messages_surrounded]
      exact silent_route hu hs _ _ _

/-- A request for an operational page that asks for the new site. -/
def healthOptIn : Request := .ofTarget "GET" (Utf8.encode "/_ah/health?redirect=on".toList) []

theorem operational_untouched_iff_healthOptIn :
    Snapshot.ofRequest healthOptIn = .ok healthOptIn.plain ∧
      isExempt healthOptIn.plain.path.toList = true ∧
      (LegacyReply.answered steadyAnswer).Expected ∧
      (LegacyReply.answered steadyAnswer).Silent ({} : Settings).redirectCookie ∧
      ¬ (⟨healthOptIn, surrounded {} healthOptIn { legacy := .answered steadyAnswer }⟩ : Visit).Redirected
        {} isExempt ∧
      (handle {} healthOptIn { legacy := .answered steadyAnswer }).Silent
        ({} : Settings).redirectCookie := by
  have ha : Snapshot.ofRequest healthOptIn = .ok healthOptIn.plain :=
    Snapshot.ofRequest_of_slash (by decide +kernel)
  have hexempt : isExempt healthOptIn.plain.path.toList = true := by decide +kernel
  have huntouched : Untouched {} healthOptIn healthOptIn.plain := .path (by decide +kernel)
  obtain ⟨-, hiff⟩ := operational_untouched_iff (s := {})
    (x := { legacy := .answered steadyAnswer }) ha hexempt
  exact ⟨ha, hexempt, nofun, nofun, (hiff nofun nofun).2 huntouched⟩

/-- The same page in absolute form. -/
def healthByUrl : Request :=
  .ofTarget "GET" (Utf8.encode "http://godoc.org/_ah/health?redirect=on".toList) []

/-- Its snapshot, whose path is that of the page. -/
def healthByUrlSnapshot : Snapshot :=
  { healthByUrl.plain with urlHost := "godoc.org", path := "/_ah/health" }

theorem healthByUrl_redirected :
    Snapshot.ofRequest healthByUrl = .ok healthByUrlSnapshot ∧
      isExempt healthByUrlSnapshot.path.toList = true ∧
      (⟨healthByUrl, surrounded {} healthByUrl { legacy := unreachable }⟩ : Visit).Redirected
        {} isExempt ∧
      (handle {} healthByUrl { legacy := unreachable }).starts.map
        (Jar.about ({} : Settings).redirectCookie) = [["pkggodev-redirect=on; Path=/; SameSite=lax".toList]] ∧
      ¬ (handle {} healthByUrl { legacy := unreachable }).Silent ({} : Settings).redirectCookie := by
  have ha : Snapshot.ofRequest healthByUrl = .ok healthByUrlSnapshot := rfl
  have hname : SetCookie.fault? ({} : Settings).redirectCookie = none := by decide +kernel
  have hc := SetCookie.ofUpdate_eq hname (Decision.resolve {} healthByUrlSnapshot).cookie
  have hredirected := (redirected_iff_of_snapshot ha hc
    (surrounded {} healthByUrl { legacy := unreachable })).2 ⟨by decide +kernel, by decide +kernel⟩
  have habout : (handle {} healthByUrl { legacy := unreachable }).starts.map
      (Jar.about ({} : Settings).redirectCookie) =
        [["pkggodev-redirect=on; Path=/; SameSite=lax".toList]] := by decide +kernel
  refine ⟨ha, by decide +kernel, hredirected, habout, fun hsilent => ?_⟩
  obtain ⟨fields, rest, hstarts, hfields, -⟩ := List.map_eq_cons_iff.1 habout
  have hnil := Jar.about_eq_nil_iff.2 (hsilent fields (by rw [hstarts]; exact List.mem_cons_self))
  cases hfields.symm.trans hnil

/-- The requests that are operational by what the layer, a page or the snapshot says, with the snapshots
that reports are made of. -/
inductive Operational (s : Settings) (r : Request) : Snapshot → Prop
  | exempt : isExempt r.path.toList = true → Operational s r r.plain
  | page {p : Route} : Match.find s.debug r.path.toList r.method = .page p →
      p = .health ∨ p = .bot → Operational s r r.plain
  | snapshot {a : Snapshot} : Snapshot.ofRequest r = .ok a → isExempt a.path.toList = true →
      Operational s r a

theorem Operational.spec (h : Operational s r a) :
    Snapshot.ofRequest r = .ok a ∧ isExempt a.path.toList = true := by
  cases h with
  | exempt h => exact ⟨Snapshot.ofRequest_of_slash (head?_of_isExempt h), h⟩
  | page hm hp =>
    have hex := isExempt_of_page hm hp
    exact ⟨Snapshot.ofRequest_of_slash (head?_of_isExempt hex), hex⟩
  | snapshot ha hex => exact ⟨ha, hex⟩

theorem reports_layered (ha : Snapshot.ofRequest r = .ok a) :
    (layered s r x).reports = (surrounded s r x).reports ∨ (layered s r x).reports = [] := by
  cases hex : isExempt r.path.toList with
  | true => exact .inl (by rw [layered_exempt hex])
  | false =>
    cases hc : SetCookie.ofUpdate s (Decision.resolve s a).cookie with
    | error e =>
      rw [layered_eq, redirectLayer_decided _ hex ha rfl, carryOut, hc]
      exact .inr rfl
    | ok fields =>
      cases hd : (Decision.resolve s a).redirects with
      | true => exact .inr (layered_redirected ha hc hex hd).1
      | false =>
        have hstays := Option.isNone_iff_eq_none.1 (Option.isSome_eq_false_iff.1 hd)
        exact .inl (layered_passed ha hc (.inr hstays)).reports

theorem events_surrounded (ha : Snapshot.ofRequest r = .ok a) :
    (Report.isReported a.path.toList = false → (surrounded s r x).events s = []) ∧
      (Timely x → ((surrounded s r x).events s ≠ [] ↔ s.teeEnabled = true ∧
        (route s.debug r x.body x.legacy).Completes ∧ Report.isReported a.path.toList = true)) := by
  obtain ⟨-, ⟨htee, hcompletes, status, latency, -, hrep⟩ | ⟨hnot, hrep⟩⟩ :=
    surrounded_reports (s := s) (x := x) ha
  · rw [(Run.events_of_reports_cons {} hrep).trans (List.append_nil _), Report.event?]
    cases Report.isReported a.path.toList with
    | true =>
      refine ⟨fun h => absurd h.symm Bool.false_ne_true, fun _ => ?_⟩
      exact iff_of_true (List.cons_ne_nil _ _) ⟨htee, hcompletes, rfl⟩
    | false =>
      exact ⟨fun _ => rfl, fun _ => iff_of_false (fun h => h rfl) fun h => Bool.false_ne_true h.2.2⟩
  · rw [Run.events_of_reports_nil hrep]
    refine ⟨fun _ => rfl, fun ht => iff_of_false (fun h => h rfl) fun h => hnot ⟨h.1, h.2.1, ht⟩⟩

/-- An operational path is reported exactly if it ends in a line feed, and only for such a path does an
operational request have an event. It has one if it gets past the layer, reports are wanted and its page
completes a response. -/
theorem operational_reported_iff (s : Settings) (r : Request) (x : Surroundings) (a : Snapshot) :
    (∀ path, isExempt path = true → (Report.isReported path = true ↔ LineFed path)) ∧
      (Operational s r a → ∃ events : List Report.Event,
        (∀ p, (schedule s p (handle s r x).entries).1.sends.map (·.event) =
          p.sends.map (·.event) ++ events) ∧
        (¬ LineFed a.path.toList → events = []) ∧
        (isExempt r.path.toList = true → Timely x → (events ≠ [] ↔ s.teeEnabled = true ∧
          (route s.debug r x.body x.legacy).Completes ∧ LineFed a.path.toList))) := by
  refine ⟨fun path => isReported_iff_of_isExempt, fun h => ?_⟩
  obtain ⟨ha, hex⟩ := h.spec
  have hreports : (handle s r x).reports = (layered s r x).reports := reports_lastResort r _
  obtain ⟨hquiet, hcounted⟩ := events_surrounded (s := s) (x := x) ha
  have hpath := isReported_iff_of_isExempt hex
  refine ⟨(handle s r x).events s, fun p => events_schedule s p _, fun hn => ?_, fun hexempt ht => ?_⟩
  · rw [← hpath, Bool.not_eq_true] at hn
    rcases reports_layered (s := s) (x := x) ha with hl | hl
    · rw [Run.events, hreports, hl]
      exact hquiet hn
    · exact Run.events_of_reports_nil (hreports.trans hl)
  · rw [← hpath, Run.events, hreports, layered_exempt hexempt]
    exact hcounted ht

/-- A request for one of the pages that show the gateway to be alive. -/
def botCheck : Request := .ofTarget "GET" (Utf8.encode "/-/bot".toList) []

theorem operational_reported_iff_botCheck :
    Operational {} botCheck botCheck.plain ∧
      ∀ p, (schedule {} p (handle {} botCheck { legacy := unreachable }).entries).1.sends.map (·.event) =
        p.sends.map (·.event) := by
  have h : Operational {} botCheck botCheck.plain := .page (p := .bot) rfl (.inr rfl)
  obtain ⟨events, hevents, hquiet, -⟩ :=
    (operational_reported_iff {} botCheck { legacy := unreachable } botCheck.plain).2 h
  obtain rfl := hquiet (by decide +kernel)
  exact ⟨h, fun p => (hevents p).trans (List.append_nil _)⟩

/-- The same request with an escaped line feed at the end of its path. -/
def lineFedBotCheck : Request := .ofTarget "GET" (Utf8.encode "/-/bot%0A".toList) []

theorem lineFedBotCheck_reported :
    isExempt lineFedBotCheck.path.toList = true ∧
      Match.find false lineFedBotCheck.path.toList lineFedBotCheck.method = .page .bot ∧
      Report.isReported lineFedBotCheck.path.toList = true ∧
      (schedule {} {} (handle {} lineFedBotCheck { legacy := unreachable }).entries).1.sends.length = 1 :=
  ⟨by decide +kernel, rfl, by decide +kernel, by decide +kernel⟩

end Requests

end Gateway

end Changeover
