import Changeover.Gateway.ReportLayer
import Changeover.Proofs.RedirectRuns

/-!
# What the report layer does

The layer repeats the run that it surrounds, and its only entries of its own are handovers. `Reporting`
says where they stand: right after each last part of a body that follows some start, with the status of
the latest start. `reportFrom_reporting` shows that the layer keeps to it as long as the time can be
told, so every message and the fault pass through unchanged (`timedReportLayer_transparent`). Nothing is
handed over of a request that cannot be taken apart (`no_report_of_unreadable`).
-/

namespace Changeover.Gateway

namespace Run

/-- The run starts a response and sends the last part of a body after it. -/
def Completes (r : Run) : Prop :=
  ∃ before status fields parts content rest,
    r.messages = before ++ .start status fields :: (parts ++ .body content false :: rest)

/-- What is handed over to be reported: the snapshot, the latency, whether a robot asks, the status. -/
def reports (r : Run) : List (Snapshot × Duration × Bool × Int) :=
  r.entries.filterMap fun
    | .reported a latency isRobot status => some (a, latency, isRobot, status)
    | _ => none

theorem status?_concat_start (past : List Entry) (status : Int) (fields : List RawHeader) :
    status? { entries := past ++ [.sent (.start status fields)] } = some status := by
  rw [status?_eq, messages_append, messages_cons_sent, List.filterMap_append]
  exact List.getLast?_concat

theorem status?_concat_of_ne {e : Entry} (h : ∀ status fields, e ≠ .sent (.start status fields))
    (past : List Entry) : status? { entries := past ++ [e] } = status? { entries := past } := by
  have hnone : (messages { entries := [e] }).filterMap Message.status? = [] := by
    cases e with
    | sent m =>
      cases m with
      | start status fields => exact absurd rfl (h status fields)
      | _ => rfl
    | _ => rfl
  rw [status?_eq, messages_append, List.filterMap_append, hnone, List.append_nil, ← status?_eq]

theorem exists_start_of_status? {r : Run} {status : Int} (h : r.status? = some status) :
    ∃ before fields parts, r.messages = before ++ .start status fields :: parts := by
  rw [status?_eq] at h
  obtain ⟨m, hm, hs⟩ := List.mem_filterMap.1 (List.mem_of_getLast? h)
  obtain ⟨before, parts, hsplit⟩ := List.append_of_mem hm
  cases m with
  | start s fields =>
    cases hs
    exact ⟨before, fields, parts, hsplit⟩
  | _ => cases hs

end Run

/-- The status with which a request is handed over once `e` has been passed on after `past`: that of
the latest start, if `e` is the last part of a body. -/
def due? (past : List Entry) : Entry → Option Int
  | .sent (.body _ false) => Run.status? { entries := past }
  | _ => none

/-- What is done to hand a request over: it is reported, which may fail; of one that cannot be taken
apart only that is logged. -/
inductive Handover (r : Request) (status : Int) : List Entry → Prop
  | reported {a : Snapshot} (latency : Duration) : Snapshot.ofRequest r = .ok a →
      Handover r status [.reported a latency (Robot.sent a) status]
  | failed {a : Snapshot} (latency : Duration) : Snapshot.ofRequest r = .ok a →
      Handover r status
        [.reported a latency (Robot.sent a) status, .logged (dispatchError r.path)]
  | unreadable {e : Url.SplitError} : Snapshot.ofRequest r = .error e →
      Handover r status [.logged (dispatchError r.path)]

/-- After the entries `past`, the entries `inside` are repeated as `outside`, each followed by a handover
if one is due. -/
inductive Reporting (r : Request) : List Entry → List Entry → List Entry → Prop
  | done {past : List Entry} : Reporting r past [] []
  | passed {past inside outside : List Entry} {e : Entry} : due? past e = none →
      Reporting r (past ++ [e]) inside outside → Reporting r past (e :: inside) (e :: outside)
  | handed {past inside outside handover : List Entry} {e : Entry} {status : Int} :
      due? past e = some status → Handover r status handover →
      Reporting r (past ++ [e]) inside outside →
      Reporting r past (e :: inside) (e :: (handover ++ outside))

theorem handover_dispatch (fails : Bool) (r : Request) (latency : Duration) (status : Int) :
    Handover r status (dispatch fails r latency status) := by
  unfold dispatch
  cases h : Snapshot.ofRequest r with
  | error e => exact .unreadable h
  | ok a =>
    cases fails with
    | false => exact .reported latency h
    | true => exact .failed latency h

theorem Handover.messages {r : Request} {status : Int} {handover : List Entry}
    (h : Handover r status handover) : Run.messages { entries := handover } = [] := by
  cases h <;> rfl

namespace Reporting

variable {r : Request} {past inside outside : List Entry}

theorem messages (h : Reporting r past inside outside) :
    Run.messages { entries := outside } = Run.messages { entries := inside } := by
  induction h with
  | done => rfl
  | passed _ _ ih => rw [Run.messages_cons, ih, ← Run.messages_cons]
  | handed _ hh _ ih =>
    rw [Run.messages_cons, Run.messages_append, hh.messages, List.nil_append, ih, ← Run.messages_cons]

/-- Entries after which nothing is due are repeated as they are, and then the layer goes on. -/
theorem of_quiet {before after : List Entry} (h : Reporting r past (before ++ after) outside)
    (hq : ∀ p e q, before = p ++ e :: q → due? (past ++ p) e = none) :
    ∃ rest, outside = before ++ rest ∧ Reporting r (past ++ before) after rest := by
  induction before generalizing past outside with
  | nil => exact ⟨outside, rfl, by rwa [List.append_nil]⟩
  | cons e before ih =>
    have he : due? past e = none := by simpa using hq [] e before rfl
    have hrest : ∀ p e' q, before = p ++ e' :: q → due? (past ++ [e] ++ p) e' = none := by
      intro p e' q hp
      simpa using hq (e :: p) e' q (by rw [hp]; rfl)
    cases h with
    | passed _ h =>
      obtain ⟨rest, hout, hr⟩ := ih h hrest
      exact ⟨rest, by rw [hout]; rfl, by simpa using hr⟩
    | handed hdue _ _ => exact absurd (hdue.symm.trans he) (by simp)

end Reporting

theorem last_of_due? {past : List Entry} {e : Entry} {status : Int} (h : due? past e = some status) :
    ∃ content, e = .sent (.body content false) := by
  match e, h with
  | .sent (.body content false), _ => exact ⟨content, rfl⟩

theorem due?_eq_none_of_messages {es p q : List Entry} {e : Entry}
    (h : ∀ content, .body content false ∉ Run.messages { entries := es }) (past : List Entry)
    (hes : es = p ++ e :: q) : due? past e = none := by
  refine Option.eq_none_iff_forall_ne_some.2 fun status hdue => ?_
  obtain ⟨content, rfl⟩ := last_of_due? hdue
  refine h content ?_
  rw [hes, Run.messages_append, Run.messages_cons_sent]
  exact List.mem_append_right _ List.mem_cons_self

theorem completes_of_due? {p q : List Entry} {e : Entry} {status : Int} (h : due? p e = some status) :
    Run.Completes { entries := p ++ e :: q } := by
  match e, h with
  | .sent (.body content false), h =>
    obtain ⟨before, fields, parts, hp⟩ := Run.exists_start_of_status? h
    refine ⟨before, status, fields, parts, content, Run.messages { entries := q }, ?_⟩
    rw [Run.messages_append, hp, Run.messages_cons_sent, List.append_assoc, List.cons_append]

theorem due?_eq_none_of_not_completes {es p q : List Entry} {e : Entry}
    (h : ¬ Run.Completes { entries := es }) (hes : es = p ++ e :: q) : due? p e = none :=
  Option.eq_none_iff_forall_ne_some.2 fun _ hdue => h (hes ▸ completes_of_due? hdue)

section Layer

variable {fails : Nat → Bool} {clock : Nat → Int} {r : Request} {raised : Option Fault}
  {past : List Entry} {e : Entry} {n : Nat}

theorem reportFrom_passed (h : due? past e = none) (rest : List Entry) :
    reportFrom fails clock r raised (Run.status? { entries := past }) n (e :: rest) =
      (reportFrom fails clock r raised (Run.status? { entries := past ++ [e] }) n rest).after [e] := by
  cases e with
  | sent m =>
    cases m with
    | start status fields =>
      rw [Run.status?_concat_start]
      rfl
    | body content more =>
      rw [Run.status?_concat_of_ne (by simp)]
      cases more with
      | true => simp only [reportFrom]
      | false =>
        have hnone : Run.status? { entries := past } = none := h
        rw [hnone]
        rfl
    | other kind =>
      rw [Run.status?_concat_of_ne (by simp)]
      simp only [reportFrom]
  | _ =>
    rw [Run.status?_concat_of_ne (by simp)]
    simp only [reportFrom]

theorem reportFrom_handed {status : Int} {latency : Duration} (h : due? past e = some status)
    (hl : Duration.ofClock (clock n) = .ok latency) (rest : List Entry) :
    reportFrom fails clock r raised (Run.status? { entries := past }) n (e :: rest) =
      (reportFrom fails clock r raised (Run.status? { entries := past ++ [e] }) (n + 1) rest).after
        (e :: dispatch (fails n) r latency status) := by
  match e, h with
  | .sent (.body content false), h =>
    have hs : Run.status? { entries := past } = some status := h
    rw [Run.status?_concat_of_ne (by simp), hs]
    simp only [reportFrom, hl]

/-- The layer keeps to `Reporting` and ends as the run inside ends, as long as the time can be told. -/
theorem reportFrom_reporting (htime : ∀ n, ∃ latency, Duration.ofClock (clock n) = .ok latency)
    (past : List Entry) (n : Nat) (inside : List Entry) :
    Reporting r past inside
        (reportFrom fails clock r raised (Run.status? { entries := past }) n inside).entries ∧
      (reportFrom fails clock r raised (Run.status? { entries := past }) n inside).raised = raised := by
  induction inside generalizing past n with
  | nil => exact ⟨.done, rfl⟩
  | cons e rest ih =>
    cases h : due? past e with
    | none =>
      obtain ⟨hr, hf⟩ := ih (past ++ [e]) n
      rw [reportFrom_passed h]
      exact ⟨.passed h hr, hf⟩
    | some status =>
      obtain ⟨latency, hl⟩ := htime n
      obtain ⟨hr, hf⟩ := ih (past ++ [e]) (n + 1)
      rw [reportFrom_handed h hl]
      exact ⟨.handed h (handover_dispatch _ r latency status) hr, hf⟩

end Layer

namespace Reporting

variable {r : Request} {past inside outside : List Entry}

theorem eq_of_quiet (h : Reporting r past inside outside)
    (hq : ∀ p e q, inside = p ++ e :: q → due? (past ++ p) e = none) : outside = inside := by
  rw [← List.append_nil inside] at h
  obtain ⟨rest, hout, hrest⟩ := h.of_quiet hq
  cases hrest
  rw [hout, List.append_nil]

theorem eq_of_not_completes (h : Reporting r [] inside outside)
    (hc : ¬ Run.Completes { entries := inside }) : outside = inside :=
  h.eq_of_quiet fun _ _ _ => due?_eq_none_of_not_completes hc

/-- One whole response is handed over once, right after its last part. -/
theorem of_response {status : Int} {fields : List RawHeader} {chunks : List Bytes} {last : Bytes}
    (h : Reporting r [] inside outside) (hm : Run.messages { entries := inside } =
      .start status fields :: chunks.map (.body · true) ++ [.body last false]) :
    ∃ before after handover, inside = before ++ .sent (.body last false) :: after ∧
      outside = before ++ .sent (.body last false) :: (handover ++ after) ∧
      Handover r status handover := by
  obtain ⟨a, b, rfl, ha, hb⟩ := List.filterMap_eq_append_iff.1 hm
  obtain ⟨c, e, after, rfl, hc, he, hafter⟩ := List.filterMap_eq_cons_iff.1 hb
  replace he : e = .sent (.body last false) := by
    cases e with
    | sent m => exact congrArg _ (Option.some.inj he)
    | _ => cases he
  subst he
  have hbefore : Run.messages { entries := a ++ c } = .start status fields :: chunks.map (.body · true) := by
    have hnone : Run.messages { entries := c } = [] := List.filterMap_eq_nil_iff.2 hc
    rw [Run.messages_append, hnone, List.append_nil]
    exact ha
  have hstatus : Run.status? { entries := a ++ c } = some status := by
    rw [Run.status?_eq, hbefore, List.filterMap_cons, List.filterMap_map]
    have hnone : chunks.filterMap (Message.status? ∘ (.body · true)) = [] :=
      List.filterMap_eq_nil_iff.2 fun _ _ => rfl
    rw [hnone]
    rfl
  rw [← List.append_assoc] at h
  obtain ⟨rest, rfl, hrest⟩ := h.of_quiet fun _ _ _ => due?_eq_none_of_messages (by simp [hbefore]) _
  cases hrest with
  | passed hdue _ => exact absurd (hstatus.symm.trans hdue) (by simp)
  | @handed _ _ out handover _ s hdue hh hout =>
    obtain rfl : s = status := Option.some.inj (hdue.symm.trans hstatus)
    have hnone : Run.messages { entries := after } = [] := hafter
    have hq : out = after := hout.eq_of_quiet fun _ _ _ => due?_eq_none_of_messages (by simp [hnone]) _
    exact ⟨a ++ c, after, handover, by simp, by rw [hq], hh⟩

end Reporting

/-- As long as the time can be told, the layer sends what it surrounds sends and ends as it ends; its
own entries are the handovers, each right after the last part of a body that follows some start, with
the status of the latest start. So one whole response is handed over once, and a run that completes
none is repeated as it is. -/
theorem timedReportLayer_transparent {fails : Nat → Bool} {clock : Nat → Int}
    (htime : ∀ n, ∃ latency, Duration.ofClock (clock n) = .ok latency) (r : Request) (inner : Run) :
    (timedReportLayer fails clock (.http r) inner).messages = inner.messages ∧
      (timedReportLayer fails clock (.http r) inner).raised = inner.raised ∧
      Reporting r [] inner.entries (timedReportLayer fails clock (.http r) inner).entries ∧
      (∀ status fields (chunks : List Bytes) last, inner.messages =
          .start status fields :: chunks.map (.body · true) ++ [.body last false] →
        ∃ before after handover, inner.entries = before ++ .sent (.body last false) :: after ∧
          (timedReportLayer fails clock (.http r) inner).entries =
            before ++ .sent (.body last false) :: (handover ++ after) ∧
          Handover r status handover) ∧
      (¬ inner.Completes →
        (timedReportLayer fails clock (.http r) inner).entries = inner.entries) := by
  obtain ⟨hr, hf⟩ := @reportFrom_reporting fails clock r inner.raised htime [] 0 inner.entries
  exact ⟨hr.messages, hf, hr, fun _ _ _ _ hm => hr.of_response hm, hr.eq_of_not_completes⟩

/-- A response with two parts and a second one, after which the run breaks off. -/
def brokenOff : Run where
  entries := [.entered, .sent (.start 200 []), .sent (.body [97] true), .sent (.body [] false),
    .sent (.start 404 []), .sent (.body [] false), .sent (.other "http.response.trailers")]
  raised := some .disconnected

/-- A clock that counts between its first two readings. -/
def countingClock (n : Nat) : Int := if n = 0 then 1500 else 2500

theorem ofClock_eq_ok {counted : Int} {latency : Duration}
    (h : (Duration.ofClock counted).toOption = some latency) :
    Duration.ofClock counted = .ok latency := by
  cases hc : Duration.ofClock counted with
  | error t =>
    rw [hc] at h
    cases h
  | ok d =>
    rw [hc] at h
    exact congrArg _ (Option.some.inj h)

theorem timedReportLayer_transparent_brokenOff :
    (∀ n, ∃ latency, Duration.ofClock (countingClock n) = .ok latency) ∧
      (timedReportLayer (· == 0) countingClock (.http { path := "/p" }) brokenOff).messages =
        brokenOff.messages ∧
      (timedReportLayer (· == 0) countingClock (.http { path := "/p" }) brokenOff).raised =
        some .disconnected := by
  have htime : ∀ n, ∃ latency, Duration.ofClock (countingClock n) = .ok latency := by
    intro n
    by_cases hn : n = 0
    · exact ⟨⟨1500⟩, ofClock_eq_ok (by rw [countingClock, if_pos hn]; decide +kernel)⟩
    · exact ⟨⟨2500⟩, ofClock_eq_ok (by rw [countingClock, if_neg hn]; decide +kernel)⟩
  obtain ⟨hm, hf, -⟩ := @timedReportLayer_transparent (· == 0) countingClock htime { path := "/p" } brokenOff
  exact ⟨htime, hm, hf⟩

/-- A request whose target has an authority with a bracket that is never closed. -/
def openBracket : Request := { path := "http://[zz/" }

/-- A whole response to a request that cannot be taken apart is not handed over. -/
theorem no_report_of_unreadable :
    (∃ e, Snapshot.ofRequest openBracket = .error e) ∧
      (Response.run { status := 200, headers := [] }).Completes ∧
      (timedReportLayer (fun _ => false) countingClock (.http openBracket)
        (Response.run { status := 200, headers := [] })).reports = [] := by
  have hfails : (Snapshot.ofRequest openBracket).isOk = false := by decide +kernel
  refine ⟨?_, ⟨[], 200, [], [], [], [], rfl⟩, List.isEmpty_iff.1 (by decide +kernel)⟩
  cases h : Snapshot.ofRequest openBracket with
  | error e => exact ⟨e, rfl⟩
  | ok a =>
    rw [h] at hfails
    cases hfails

end Changeover.Gateway
