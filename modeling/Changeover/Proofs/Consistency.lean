import Changeover.Proofs.ConsentSession
import Changeover.Proofs.EveryRequest

/-!
# Redirecting, forwarding and reporting

A request that the redirect layer redirects is neither forwarded nor reported. Any other is forwarded at
most once, and reported once if its page gives a whole answer and reports are wanted of its path
(`redirect_forward_report`). What is reported is the answer that was sent; it says that the visitor prefers
the new site only of one who has just come back from there, or of an operational page.
-/

namespace Changeover.Gateway

open Text

namespace Run

variable (r : Run) (extra : List RawHeader)

theorem reports_append (a b : List Entry) :
    reports { entries := a ++ b } = reports { entries := a } ++ reports { entries := b } :=
  List.filterMap_append ..

theorem forwarded_append (a b : List Entry) :
    forwarded { entries := a ++ b } = forwarded { entries := a } ++ forwarded { entries := b } :=
  List.filterMap_append ..

theorem forwarded_after (before : List Entry) :
    (r.after before).forwarded = forwarded { entries := before } ++ r.forwarded :=
  forwarded_append before r.entries

theorem filterMap_withHeaders {β : Type} {view : Entry → Option β} (h : ∀ m, view (.sent m) = none) :
    (r.withHeaders extra).entries.filterMap view = r.entries.filterMap view := by
  rw [withHeaders, List.filterMap_map]
  congr 1
  funext e
  cases e with
  | sent m => cases m <;> exact (h _).trans (h _).symm
  | _ => rfl

/-- One whole answer of that status is sent. -/
def Sends (status : Int) : Prop :=
  ∃ response : Response, r.messages = response.messages ∧ response.status = status

/-- The events of what is handed over to be reported. -/
def events (s : Settings) : List Report.Event :=
  r.reports.filterMap fun (a, latency, isRobot, status) => Report.event? s a latency isRobot status

variable {r} {s : Settings} {a : Snapshot} {latency : Duration} {isRobot : Bool} {status : Int}

theorem events_of_reports_nil (h : r.reports = []) : r.events s = [] := by
  rw [events, h]
  rfl

theorem events_of_reports_cons (rest : Run)
    (h : r.reports = (a, latency, isRobot, status) :: rest.reports) :
    r.events s = (Report.event? s a latency isRobot status).toList ++ rest.events s := by
  rw [events, h]
  cases he : Report.event? s a latency isRobot status with
  | none => exact List.filterMap_cons_none he
  | some e => exact List.filterMap_cons_some he

end Run

theorem events_schedule (s : Settings) (p : Report.Pending) (es : List Entry) :
    (schedule s p es).1.sends.map (·.event) =
      p.sends.map (·.event) ++ Run.events { entries := es } s := by
  -- each event goes to the end of the sends there are, so these may be any
  induction es generalizing p with
  | nil => exact (List.append_nil _).symm
  | cons e es ih =>
    cases e with
    | reported a latency isRobot status =>
      have hevents : Run.events { entries := .reported a latency isRobot status :: es } s =
        (Report.event? s a latency isRobot status).toList ++ Run.events { entries := es } s :=
        Run.events_of_reports_cons _ rfl
      rw [hevents]
      simp only [schedule, ih, Report.offer]
      cases Report.event? s a latency isRobot status with
      | none => rfl
      | some event => simp [Report.Pending.act, Report.Pending.hold]
    | _ => exact ih p

section Layers

variable {s : Settings} {r : Request} {x : Surroundings} {a : Snapshot} {fields : List RawHeader}

theorem entries_lastResort (r : Request) (inner : Run) :
    ∃ added, (lastResort r inner).entries = inner.entries ++ added ∧
      Run.reports { entries := added } = [] ∧ Run.forwarded { entries := added } = [] := by
  unfold lastResort
  cases inner.raised with
  | none => exact ⟨[], (List.append_nil _).symm, rfl, rfl⟩
  | some f =>
    cases urlPath r with
    | error g => exact ⟨[], (List.append_nil _).symm, rfl, rfl⟩
    | ok path =>
      refine ⟨_, rfl, ?_⟩
      split <;> exact ⟨rfl, rfl⟩

theorem reports_lastResort (r : Request) (inner : Run) :
    (lastResort r inner).reports = inner.reports := by
  obtain ⟨added, h, hr, -⟩ := entries_lastResort r inner
  show Run.reports { entries := (lastResort r inner).entries } = _
  rw [h, Run.reports_append, hr]
  exact List.append_nil _

theorem forwarded_lastResort (r : Request) (inner : Run) :
    (lastResort r inner).forwarded = inner.forwarded := by
  obtain ⟨added, h, -, hf⟩ := entries_lastResort r inner
  show Run.forwarded { entries := (lastResort r inner).entries } = _
  rw [h, Run.forwarded_append, hf]
  exact List.append_nil _

theorem Quiet.reports_after {before : List Entry} (h : Quiet before) (run : Run) :
    (run.after before).reports = run.reports :=
  (Run.reports_append before run.entries).trans (by rw [h.reports]; rfl)

theorem Quiet.forwarded_after {before : List Entry} (h : Quiet before) {run : Run}
    (hrun : run.forwarded = []) : (run.after before).forwarded.length ≤ 1 := by
  rw [run.forwarded_after, hrun, List.append_nil]
  exact h.forwarded

theorem PageRun.reports {run : Run} (h : PageRun run) : run.reports = [] := by
  cases h with
  | answered response hq => exact hq.reports_after _
  | broken f hq => exact hq.reports_after _

theorem PageRun.forwarded {run : Run} (h : PageRun run) : run.forwarded.length ≤ 1 := by
  cases h with
  | answered response hq => exact hq.forwarded_after rfl
  | broken f hq => exact hq.forwarded_after rfl

theorem PageRun.completes_iff {run : Run} (h : PageRun run) : run.Completes ↔ run.raised = none := by
  cases h with
  | answered response hq =>
    refine iff_of_true ⟨[], response.status, response.headers, [], response.body, [], ?_⟩ rfl
    exact hq.messages_after _
  | broken f hq =>
    refine iff_of_false ?_ (Option.some_ne_none f)
    rintro ⟨before, status, fields, parts, content, rest, hm⟩
    rw [hq.messages_after] at hm
    exact absurd hm.symm (by simp [Run.fault, Run.messages])

theorem redirected_iff_of_snapshot (ha : Snapshot.ofRequest r = .ok a)
    (hc : SetCookie.ofUpdate s (Decision.resolve s a).cookie = .ok fields) (inner : Run) :
    (⟨r, inner⟩ : Visit).Redirected s isExempt ↔
      isExempt r.path.toList = false ∧ (Decision.resolve s a).redirects = true := by
  cases hex : isExempt r.path.toList with
  | true =>
    refine iff_of_false (Visit.not_redirected ?_) nofun
    rw [Visit.around, redirectLayer_exempt _ hex]
    rfl
  | false =>
    cases hd : (Decision.resolve s a).destination with
    | some url =>
      refine iff_of_true ⟨url.toList, fields, fun inner => ?_⟩ ⟨rfl, Option.isSome_iff_exists.2 ⟨url, hd⟩⟩
      exact messages_redirectLayer_redirect inner hc hex ha rfl hd
    | none =>
      refine iff_of_false (Visit.not_redirected (messages_redirectLayer_pass {} hc hex ha rfl hd)) ?_
      rw [Decision.redirects, hd]
      exact fun h => Bool.false_ne_true h.2

/-- The time that the clock has counted can be told. -/
def Timely (x : Surroundings) : Prop := ∃ latency, Duration.ofClock x.counted = .ok latency

theorem reports_answeredRun (ha : Snapshot.ofRequest r = .ok a) (response : Response) :
    (∃ latency, (answeredRun false r x.counted response).reports =
        [(a, latency, Robot.sent a, response.status)]) ∨
      ¬ Timely x ∧ (answeredRun false r x.counted response).reports = [] := by
  unfold answeredRun Timely
  cases Duration.ofClock x.counted with
  | ok latency =>
    simp only [dispatch, ha]
    exact .inl ⟨latency, rfl⟩
  | error t => exact .inr ⟨fun h => (nomatch h.choose_spec), rfl⟩

theorem forwarded_answeredRun (counted : Int) (response : Response) :
    (answeredRun false r counted response).forwarded = [] := by
  unfold answeredRun dispatch
  cases Duration.ofClock counted with
  | ok latency => cases Snapshot.ofRequest r <;> rfl
  | error t => rfl

/-- A page is forwarded at most once. It is handed over once if it gives a whole answer, reports are
wanted and the time can be told, and else not at all. -/
theorem surrounded_reports (ha : Snapshot.ofRequest r = .ok a) :
    (surrounded s r x).forwarded.length ≤ 1 ∧
      (s.teeEnabled = true ∧ (route s.debug r x.body x.legacy).Completes ∧
          (∃ status latency, (surrounded s r x).Sends status ∧
            (surrounded s r x).reports = [(a, latency, Robot.sent a, status)]) ∨
        ¬ (s.teeEnabled = true ∧ (route s.debug r x.body x.legacy).Completes ∧ Timely x) ∧
          (surrounded s r x).reports = []) := by
  have hpage := pageRun_route s.debug r x.body x.legacy
  have hcompletes := hpage.completes_iff
  rw [surrounded]
  generalize route s.debug r x.body x.legacy = run at hpage hcompletes
  cases htee : s.teeEnabled with
  | false => exact ⟨hpage.forwarded, .inr ⟨fun h => Bool.false_ne_true h.1, hpage.reports⟩⟩
  | true =>
    rw [if_pos rfl, hcompletes]
    cases hpage with
    | answered response hq =>
      rw [reportLayer_answered hq]
      refine ⟨hq.forwarded_after (forwarded_answeredRun _ response), ?_⟩
      rw [hq.reports_after]
      have hm := (hq.messages_after _).trans (messages_answeredRun false r x.counted response)
      rcases reports_answeredRun (x := x) ha response with ⟨latency, h⟩ | ⟨hlate, h⟩
      · exact .inl ⟨rfl, rfl, response.status, latency, ⟨response, hm, rfl⟩, h⟩
      · exact .inr ⟨fun hall => hlate hall.2.2, h⟩
    | broken f hq =>
      rw [reportLayer_broken hq]
      exact ⟨(PageRun.broken f hq).forwarded,
        .inr ⟨fun h => Option.some_ne_none f h.2.1, (PageRun.broken f hq).reports⟩⟩

/-- The run is repeated, only that starts may get more fields. -/
structure Repeats (inner outer : Run) : Prop where
  sends : ∀ {status}, inner.Sends status → outer.Sends status
  reports : outer.reports = inner.reports
  forwarded : outer.forwarded = inner.forwarded

theorem repeats_withHeaders (inner : Run) (extra : List RawHeader) :
    Repeats inner (inner.withHeaders extra) where
  sends := by
    rintro status ⟨response, hm, hs⟩
    refine ⟨{ response with headers := response.headers ++ extra }, ?_, hs⟩
    rw [Run.messages_withHeaders, hm]
    rfl
  reports := Run.filterMap_withHeaders _ extra fun _ => rfl
  forwarded := Run.filterMap_withHeaders _ extra fun _ => rfl

theorem layered_passed (ha : Snapshot.ofRequest r = .ok a)
    (hc : SetCookie.ofUpdate s (Decision.resolve s a).cookie = .ok fields)
    (h : isExempt r.path.toList = true ∨ (Decision.resolve s a).destination = none) :
    Repeats (surrounded s r x) (layered s r x) := by
  rw [layered_eq]
  cases hex : isExempt r.path.toList with
  | true =>
    rw [redirectLayer_exempt _ hex]
    exact ⟨id, rfl, rfl⟩
  | false =>
    have hd := h.resolve_left (by simp [hex])
    rw [redirectLayer_decided _ hex ha rfl, carryOut, hc, hd]
    have hrepeats := repeats_withHeaders (surrounded s r x) fields
    exact ⟨hrepeats.sends, hrepeats.reports, hrepeats.forwarded⟩

theorem layered_redirected (ha : Snapshot.ofRequest r = .ok a)
    (hc : SetCookie.ofUpdate s (Decision.resolve s a).cookie = .ok fields)
    (hex : isExempt r.path.toList = false) (hd : (Decision.resolve s a).redirects = true) :
    (layered s r x).reports = [] ∧ (layered s r x).forwarded = [] := by
  obtain ⟨url, hurl⟩ := Option.isSome_iff_exists.1 hd
  rw [layered_eq, redirectLayer_decided _ hex ha rfl, carryOut, hc, hurl]
  exact ⟨rfl, rfl⟩

theorem handle_sends {status : Int} (h : (layered s r x).Sends status) : (handle s r x).Sends status := by
  obtain ⟨response, hm, hs⟩ := h
  exact ⟨response, (messages_lastResort_of_answered ⟨response, hm⟩).trans hm, hs⟩

/-- What is reported of a request that was passed on as a preference for the new site is that of a
visitor who has just come back, or of one at an operational page. -/
theorem returning_or_exempt (h : isExempt r.path.toList = true ∨ (Decision.resolve s a).destination = none)
    (hp : Decision.prefersNewSite s a = true) :
    Decision.Returning s a ∨ isExempt r.path.toList = true := by
  refine h.symm.imp_left fun hd => Classical.byContradiction fun hr => ?_
  have hredirects := Decision.redirects_resolve_iff.2 ⟨hr, Decision.prefersNewSite_iff.1 hp⟩
  rw [Decision.redirects, hd] at hredirects
  cases hredirects

end Layers

/-- A request that is redirected is neither forwarded nor reported. Any other is forwarded at most once and
reported at most once: as long as the time can be told, exactly if reports are wanted, its page completes a
response and its path is one that is reported. An event tells the status of the answer that was sent, and
of no other visitor that the new site is preferred than of one who has just come back or is at an
operational page. -/
theorem redirect_forward_report {s : Settings} {r : Request} {x : Surroundings} {a : Snapshot}
    {fields : List RawHeader} (ha : Snapshot.ofRequest r = .ok a)
    (hc : SetCookie.ofUpdate s (Decision.resolve s a).cookie = .ok fields) :
    ∃ events : List Report.Event,
      (∀ p, (schedule s p (handle s r x).entries).1.sends.map (·.event) =
        p.sends.map (·.event) ++ events) ∧
      ((⟨r, surrounded s r x⟩ : Visit).Redirected s isExempt →
        (handle s r x).forwarded = [] ∧ events = []) ∧
      (¬ (⟨r, surrounded s r x⟩ : Visit).Redirected s isExempt →
        (handle s r x).forwarded.length ≤ 1 ∧ events.length ≤ 1 ∧
        (Timely x → (events ≠ [] ↔ s.teeEnabled = true ∧
          (route s.debug r x.body x.legacy).Completes ∧ Report.isReported a.path.toList = true))) ∧
      ∀ e ∈ events, (handle s r x).Sends e.status ∧
        (e.redirected = true → Decision.Returning s a ∨ isExempt r.path.toList = true) := by
  have hreports : (handle s r x).reports = (layered s r x).reports := reports_lastResort r _
  have hforwarded : (handle s r x).forwarded = (layered s r x).forwarded := forwarded_lastResort r _
  refine ⟨(handle s r x).events s, fun p => events_schedule s p _, ?_⟩
  rw [redirected_iff_of_snapshot ha hc, hforwarded]
  by_cases hr : isExempt r.path.toList = false ∧ (Decision.resolve s a).redirects = true
  · obtain ⟨hrep, hfor⟩ := layered_redirected (x := x) ha hc hr.1 hr.2
    rw [Run.events_of_reports_nil (hreports.trans hrep)]
    exact ⟨fun _ => ⟨hfor, rfl⟩, fun h => absurd hr h, nofun⟩
  have hpassed : isExempt r.path.toList = true ∨ (Decision.resolve s a).destination = none := by
    cases hex : isExempt r.path.toList with
    | true => exact .inl rfl
    | false => exact .inr (Option.not_isSome_iff_eq_none.1 fun hd => hr ⟨hex, hd⟩)
  have hl : Repeats (surrounded s r x) (layered s r x) := layered_passed ha hc hpassed
  rw [hl.forwarded]
  obtain ⟨hf, ⟨htee, hcompletes, status, latency, hs, hrep⟩ | ⟨hnot, hrep⟩⟩ :=
    surrounded_reports (s := s) (x := x) ha
  · have hevents : (handle s r x).events s =
        (Report.event? s a latency (Robot.sent a) status).toList :=
      (Run.events_of_reports_cons {} (hreports.trans (hl.reports.trans hrep))).trans (List.append_nil _)
    rw [hevents, Report.event?]
    cases hpath : Report.isReported a.path.toList with
    | true =>
      refine ⟨fun h => absurd h hr, fun _ => ⟨hf, Nat.le_refl 1, fun _ => ?_⟩, fun e he => ?_⟩
      · exact iff_of_true (List.cons_ne_nil _ _) ⟨htee, hcompletes, rfl⟩
      · obtain rfl := List.mem_singleton.1 he
        exact ⟨handle_sends (hl.sends hs), returning_or_exempt hpassed⟩
    | false =>
      refine ⟨fun h => absurd h hr, fun _ => ⟨hf, Nat.zero_le 1, fun _ => ?_⟩, nofun⟩
      exact iff_of_false (fun h => h rfl) fun h => Bool.false_ne_true h.2.2
  · rw [Run.events_of_reports_nil (hreports.trans (hl.reports.trans hrep))]
    refine ⟨fun h => absurd h hr, fun _ => ⟨hf, Nat.zero_le _, fun ht => ?_⟩, nofun⟩
    exact iff_of_false (fun h => h rfl) fun h => hnot ⟨h.1, h.2.1, ht⟩

/-- The request of a visitor who comes back from the new site and prefers it. -/
def backAgain : Request :=
  .ofTarget "GET" (Utf8.encode "/net/http?utm_source=backtogodoc".toList)
    [Header.raw "cookie" "pkggodev-redirect=on"]

/-- A legacy site that answers after some time. -/
def answering : Surroundings := { legacy := .answered steadyAnswer, counted := 1500 }

theorem redirect_forward_report_backAgain :
    Snapshot.ofRequest backAgain = .ok backAgain.plain ∧
      SetCookie.ofUpdate {} (Decision.resolve {} backAgain.plain).cookie = .ok [] ∧ Timely answering ∧
      ∃ e, (schedule {} {} (handle {} backAgain answering).entries).1.sends.map (·.event) = [e] ∧
        (handle {} backAgain answering).Sends e.status := by
  have ha : Snapshot.ofRequest backAgain = .ok backAgain.plain :=
    Snapshot.ofRequest_of_slash (by decide +kernel)
  have hdecision : Decision.resolve {} backAgain.plain = {} := if_pos (by decide +kernel)
  have hc : SetCookie.ofUpdate {} (Decision.resolve {} backAgain.plain).cookie = .ok [] := by
    rw [hdecision]
    rfl
  have ht : Timely answering := ⟨⟨1500⟩, ofClock_eq_ok (by decide +kernel)⟩
  obtain ⟨events, hevents, -, hpassed, hsends⟩ := redirect_forward_report (x := answering) ha hc
  have hnot : ¬ (⟨backAgain, surrounded {} backAgain answering⟩ : Visit).Redirected {} isExempt := by
    rw [redirected_iff_of_snapshot ha hc, hdecision]
    exact fun h => nomatch h.2
  have hcompletes : (route false backAgain answering.body answering.legacy).Completes :=
    (pageRun_route ..).completes_iff.2 (Option.isNone_iff_eq_none.1 (by decide +kernel))
  obtain ⟨-, hlength, hreported⟩ := hpassed hnot
  have hne : events ≠ [] := (hreported ht).2 ⟨rfl, hcompletes, by decide +kernel⟩
  obtain ⟨e, rfl⟩ : ∃ e, events = [e] :=
    List.length_eq_one_iff.1 (Nat.le_antisymm hlength (List.length_pos_iff.2 hne))
  exact ⟨ha, hc, ht, e, hevents {}, (hsends e List.mem_cons_self).1⟩

end Changeover.Gateway
