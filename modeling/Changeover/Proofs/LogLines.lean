import Changeover.Proofs.Consistency
import Changeover.Log.Call

/-!
# What stands in the lines of the log

The lines are objects whose members are filled in from three sides: the name, the level and the logger of the
record, its fields, and what the writing keeps for itself. A record whose fields keep clear of all those names
is written as it is (`Log.Record.Clear.answer`). `Gateway.sites` lists the places where the program logs, with
the names of the fields that each gives; a record of any run comes from one of them (`Gateway.Recorded.placed`).
All of them keep clear of the others' names, but the fields called `event` that go with a delivery that failed
take the place of the name.
-/

namespace Changeover

namespace Log

variable {c : Config} {r : Record} {f : String × Json}

/-! ### A record whose fields keep clear -/

/-- The call that a record comes from. -/
def Record.call (r : Record) : Call :=
  { style := r.style, logger := r.logger, level := r.level.word, event := r.event, fields := r.fields }

/-- The names of the members that are left out of a line. -/
def hiddenNames (style : Style) : List String :=
  hiddenMembers ++ if style = .bound then boundHiddenMembers else []

/-- The names that are kept for something else than fields. A plain record may have a field called `event`. -/
def reservedNames (style : Style) : List String :=
  ["level", "logger"] ++ hiddenNames style ++
    match style with
    | .plain => recordNames
    | .bound => ["event", "self", "method_name"]

/-- The fields have different names and none that is kept for something else. -/
structure Record.Clear (r : Record) : Prop where
  named : r.logger ≠ ""
  distinct : r.fields.Distinct
  reserved : ∀ f ∈ r.fields, f.1 ∉ reservedNames r.style

theorem Record.Clear.ne (h : r.Clear) {name : String} (hname : name ∈ reservedNames r.style) (hf : f ∈ r.fields) :
    f.1 ≠ name :=
  fun he => h.reserved f hf (he ▸ hname)

theorem hiddenNames_subset {style : Style} {name : String} (h : name ∈ hiddenNames style) :
    name ∈ reservedNames style :=
  List.mem_append_left _ (List.mem_append_right _ h)

/-- The level and the logger of a record. -/
def Record.own (r : Record) : Table Json := [("level", .text r.level.word), ("logger", .text r.logger)]

/-- What is entered after the name of a record. -/
def Record.entered (r : Record) : Table Json :=
  match r.style with
  | .plain => r.own ++ r.fields
  | .bound => r.fields ++ r.own

theorem Record.members_eq (r : Record) :
    r.members = Table.ofEntries (("event", .text r.event) :: r.entered) := by
  unfold Record.members Record.entered
  cases r.style <;> rfl

theorem Record.mem_entered : f ∈ r.entered ↔ f ∈ r.own ∨ f ∈ r.fields := by
  unfold Record.entered
  cases r.style <;> simp [or_comm]

theorem Record.mem_keys_own (hf : f ∈ r.own) : f.1 ∈ ["level", "logger"] := List.mem_map_of_mem hf

theorem Record.Clear.distinct_entered (h : r.Clear) : r.entered.Distinct := by
  have hown : (r.own.map (·.1)).Nodup := show ["level", "logger"].Nodup by decide
  have hapart : ∀ a ∈ r.own.map (·.1), ∀ b ∈ r.fields.map (·.1), a ≠ b := by
    intro a ha b hb
    obtain ⟨f, hf, rfl⟩ := List.mem_map.1 hb
    exact (h.ne (List.mem_append_left _ (List.mem_append_left _ ha)) hf).symm
  unfold Record.entered Table.Distinct
  cases r.style with
  | plain => exact List.map_append ▸ List.nodup_append.2 ⟨hown, h.distinct, hapart⟩
  | bound =>
    exact List.map_append ▸ List.nodup_append.2 ⟨h.distinct, hown, fun b hb a ha => (hapart a ha b hb).symm⟩

theorem Record.Clear.get?_entered (h : r.Clear) (hf : f ∈ r.entered) : r.members.get? f.1 = some f.2 := by
  obtain ⟨a, b, hsplit, hb⟩ := h.distinct_entered.split hf
  rw [members_eq, hsplit]
  exact Table.get?_ofEntries_append (a := ("event", _) :: a) f.2 hb

theorem Record.Clear.get?_field (h : r.Clear) (hf : f ∈ r.fields) : r.members.get? f.1 = some f.2 :=
  h.get?_entered (mem_entered.2 (.inr hf))

theorem Record.Clear.get?_level (h : r.Clear) : r.members.get? "level" = some (.text r.level.word) :=
  h.get?_entered (f := ("level", _)) (mem_entered.2 (.inl List.mem_cons_self))

theorem Record.Clear.get?_logger (h : r.Clear) : r.members.get? "logger" = some (.text r.logger) :=
  h.get?_entered (f := ("logger", _)) (mem_entered.2 (.inl (List.mem_cons_of_mem _ List.mem_cons_self)))

theorem Record.Clear.get?_event (h : r.Clear) :
    r.members.get? "event" = some ((r.fields.get? "event").getD (.text r.event)) := by
  by_cases hf : ∃ f ∈ r.fields, f.1 = "event"
  · obtain ⟨f, hf, hname⟩ := hf
    rw [← hname, h.get?_field hf, h.distinct.get?_of_mem hf]
    rfl
  · have hfields : ∀ x ∈ r.fields, x.1 ≠ "event" := fun x hx hname => hf ⟨x, hx, hname⟩
    rw [Table.get?_eq_none hfields, members_eq]
    refine Table.get?_ofEntries_append (a := []) _ fun x hx => ?_
    rcases mem_entered.1 hx with hown | hx
    · exact fun hname => absurd (hname ▸ mem_keys_own hown) (by decide)
    · exact hfields x hx

/-! ### Its line -/

theorem shown_of_hidden (style : Style) :
    ∀ name ∈ hiddenNames style, name ≠ "event" ∧ name ∉ ["level", "logger"] := by
  cases style <;> decide

theorem Record.Clear.ne_hidden (h : r.Clear) {name : String} (hname : name ∈ hiddenNames r.style) :
    ∀ x ∈ r.members, x.1 ≠ name := by
  obtain ⟨hevent, hown⟩ := shown_of_hidden _ _ hname
  rintro x hx rfl
  rw [members_eq] at hx
  have hkey := Table.mem_keys_ofEntries (List.mem_map_of_mem (f := (·.1)) hx)
  rcases List.mem_cons.1 hkey with he | hkey
  · exact hevent he
  · obtain ⟨f, hf, hkey⟩ := List.mem_map.1 hkey
    rcases mem_entered.1 hf with hf | hf
    · exact hown (hkey ▸ mem_keys_own hf)
    · exact h.ne (hiddenNames_subset hname) hf hkey

theorem Record.Clear.noArguments (h : r.Clear) : r.members.get? "positional_args" = none :=
  Table.get?_eq_none (h.ne_hidden (List.mem_append_left _ (by decide)))

theorem Record.Clear.fillKept (h : r.Clear) : fillKept r.members = .ok r.members := by
  rw [Log.fillKept, h.noArguments]

theorem Record.Clear.visible (h : r.Clear) : visible r.style r.members = r.members := by
  rw [Log.visible, h.noArguments, List.append_nil, List.filter_eq_self]
  intro x hx
  rw [Bool.not_eq_true', List.contains_eq_mem, decide_eq_false_iff_not]
  exact fun hmem => h.ne_hidden hmem x hx rfl

theorem Record.Clear.record_call (h : r.Clear) : r.call.record r.level = r := by
  have hname : loggerName r.logger = r.logger := by
    rw [loggerName, if_neg (by simpa using h.named)]
  rw [Call.record, call, hname]

theorem meaning?_word (l : Level) : meaning? l.word = some (.level l) := by
  cases l <;> rfl

theorem methods_word (l : Level) : methods.get? l.word = some (l.word, l) := by
  cases l <;> rfl

theorem Record.Clear.writeMembers (h : r.Clear) (hc : c.structured = true) :
    c.writeMembers (Log.visible r.style r.members) = .line r.line := by
  rw [Config.writeMembers, if_pos hc, h.visible, line]

theorem Record.Clear.writePlain (h : r.Clear) (hs : r.style = .plain) (hc : c.structured = true) :
    c.writePlain r.call r.level = .line r.line := by
  have hplain : r.call.arguments.isEmpty = true := rfl
  have hfilled : Log.fillKept ({ r.call.record r.level with event := r.call.event }).members = .ok r.members := by
    rw [h.record_call]
    exact h.fillKept
  rw [Config.writePlain, hplain]
  simp only [if_true, bind, Except.bind, hfilled]
  exact hs ▸ h.writeMembers hc

theorem Record.Clear.answerPlain (h : r.Clear) (hs : r.style = .plain) (hc : c.structured = true)
    (hw : c.writes r = true) : c.answerPlain r.call = .ok (.line r.line) := by
  have hfind : r.call.fields.find? (fun f => recordNames.contains f.1) = none :=
    List.find?_eq_none.2 fun f hf => by
      simpa using fun hmem => h.reserved f hf (hs ▸ List.mem_append_right _ hmem)
  have hlevel : meaning? r.call.level = some (.level r.level) := meaning?_word r.level
  rw [Config.answerPlain, hlevel]
  simp only [h.record_call, hw, Bool.not_true, Bool.false_eq_true, if_false, hfind, h.writePlain hs hc]

theorem Record.Clear.answerBound (h : r.Clear) (hs : r.style = .bound) (hc : c.structured = true)
    (hw : c.writes r = true) : c.answerBound r.call = .ok (.line r.line) := by
  have hne {name : String} (hname : name ∈ ["event", "self", "method_name"]) : ∀ f ∈ r.fields, f.1 ≠ name :=
    fun f hf => h.ne (hs ▸ List.mem_append_right _ hname) hf
  have hgiven : r.call.givenTwice? r.level.word = none := by
    have hevent : ∀ f ∈ r.fields, f.1 ≠ "event" := hne (by decide)
    have hself : ∀ f ∈ r.fields, f.1 ≠ "self" := hne (by decide)
    have hfind : r.call.fields.find? (fun f => f.1 == "event" || f.1 == "self") = none :=
      List.find?_eq_none.2 fun f hf => by simp [hevent f hf, hself f hf]
    have hmethod : r.call.fields.get? "method_name" = none := Table.get?_eq_none (hne (by decide))
    rw [Call.givenTwice?, hfind, hmethod]
    rfl
  have hfilled : r.call.boundMembers r.level = .ok r.members := by
    rw [Call.boundMembers, h.record_call]
    exact h.fillKept
  have hmethod : methods.get? r.call.level = some (r.level.word, r.level) := methods_word r.level
  have hline : c.writeMembers (Log.visible .bound r.members) = .line r.line := hs ▸ h.writeMembers hc
  rw [Config.answerBound, hmethod]
  simp only [hgiven, hfilled, h.record_call, hw, if_true, hline]

/-- A record whose fields keep clear of the names kept for something else is written as it is. -/
theorem Record.Clear.answer (h : r.Clear) (hc : c.structured = true) (hw : c.writes r = true) :
    c.answer r.call = .ok (.line r.line) := by
  unfold Config.answer
  cases hs : r.call.style with
  | plain => exact h.answerPlain hs hc hw
  | bound => exact h.answerBound hs hc hw

end Log

namespace Gateway

variable {s : Settings} {x : Log.Record} {r : Request} {inner run : Run} {p : Report.Pending} {e : Report.Effects}

/-! ### Where the program logs -/

/-- A place where the program logs: the logger, the name, and the names of the fields that go with it. -/
structure Site where
  logger : String
  event : String
  fields : List String
  style : Log.Style
  deriving DecidableEq

/-- The place that a record looks to come from. -/
def siteOf (x : Log.Record) : Site := ⟨x.logger, x.event, x.fields.map (·.1), x.style⟩

/-- The places where the program logs. -/
def sites : List Site :=
  [⟨mainLogger, "init.complete", ["new_site_host", "legacy_origin", "tee_enabled"], .plain⟩,
    ⟨mainLogger, "unhandled.exception", ["exc_type", "path", "method"], .plain⟩,
    ⟨layerLogger, "redirect.resolve_error", ["path"], .plain⟩,
    ⟨layerLogger, "redirect.issued", ["from_path", "to_url", "cookie", "status_code"], .plain⟩,
    ⟨layerLogger, "tee.dispatch_error", ["path"], .plain⟩,
    ⟨"routes.legacy_routes", "legacy.upstream_failed", ["path", "method", "error", "exc_type"], .bound⟩,
    ⟨Report.deliveryLogger, "tee.skipped", ["path"], .plain⟩,
    ⟨Report.deliveryLogger, "tee.serialize_failed", ["target", "event", "error"], .plain⟩,
    ⟨Report.deliveryLogger, "tee.failed", ["target", "event", "error", "exc_type"], .plain⟩,
    ⟨Report.deliveryLogger, "tee.rejected", ["target", "path", "status_code"], .plain⟩,
    ⟨Report.deliveryLogger, "tee.sent", ["target", "path", "status"], .plain⟩,
    ⟨Report.deliveryLogger, "tee.drain_timeout", ["pending"], .plain⟩]

/-- The record comes from one of the places; the event of a failed delivery is what was to be sent. -/
structure Placed (x : Log.Record) : Prop where
  mem : siteOf x ∈ sites
  sent : x.event = "tee.failed" → ∃ e : Report.Event, x.fields.get? "event" = some (.text e.wire)

theorem Placed.of_getElem? (i : Nat) (h : sites[i]? = some (siteOf x)) (hne : x.event ≠ "tee.failed") : Placed x :=
  ⟨List.mem_of_getElem? h, fun he => absurd he hne⟩

theorem clear_sites : ∀ y ∈ sites, y.logger ≠ "" ∧ y.fields.Nodup ∧
    ∀ name ∈ y.fields, name ∉ Log.reservedNames y.style := by
  decide

/-- A field called `event` goes with a delivery that failed, and with nothing else. -/
theorem event_mem_fields_iff : ∀ y ∈ sites, "event" ∈ y.fields ↔
    y.event = "tee.failed" ∨ y.event = "tee.serialize_failed" := by
  decide

theorem Placed.clear (h : Placed x) : x.Clear := by
  obtain ⟨hnamed, hdistinct, hreserved⟩ := clear_sites _ h.mem
  exact ⟨hnamed, hdistinct, fun f hf => hreserved f.1 (List.mem_map_of_mem hf)⟩

/-! ### The records of the program come from these places -/

theorem placed_started (s : Settings) : Placed (started s) := .of_getElem? 0 rfl (by simp [started])

theorem placed_unhandled (path : List Char) (r : Request) (f : Fault) : Placed (unhandled path r f) :=
  .of_getElem? 1 rfl (by simp [unhandled])

theorem placed_resolveError (path : String) : Placed (resolveError path) :=
  .of_getElem? 2 rfl (by simp [resolveError])

theorem placed_redirectIssued (path destination : String) (cookie : CookieUpdate) :
    Placed (redirectIssued path destination cookie) :=
  .of_getElem? 3 rfl (by simp [redirectIssued])

theorem placed_dispatchError (path : String) : Placed (dispatchError path) :=
  .of_getElem? 4 rfl (by simp [dispatchError])

theorem placed_legacyFailed (path : List Char) (method : String) (f : Failure) :
    Placed (legacyFailed path method f) :=
  .of_getElem? 5 rfl (by simp [legacyFailed])

theorem placed_skipped (path : String) : Placed (Report.skipped path) :=
  .of_getElem? 6 rfl (by simp [Report.skipped, Report.deliveryRecord])

theorem placed_timedOut (n : Nat) : Placed (Report.timedOut n) :=
  .of_getElem? 11 rfl (by simp [Report.timedOut, Report.deliveryRecord])

theorem placed_nil : ∀ x ∈ ([] : List Log.Record), Placed x := fun _ h => absurd h List.not_mem_nil

theorem placed_unwritten (target shown : String) (f : Report.WriteFault) :
    ∀ x ∈ (Report.unwritten target shown f).records, Placed x := by
  cases f with
  | content message =>
    exact List.forall_mem_singleton.2 (.of_getElem? 7 rfl (by simp [Report.deliveryRecord]))
  | other f => exact placed_nil

theorem placed_outcome (target : String) (e : Report.Event) (reply : Report.Reply) :
    ∀ x ∈ (Report.outcome target e reply).records, Placed x := by
  cases reply with
  | failed f =>
    cases f with
    | transport name message =>
      exact List.forall_mem_singleton.2 ⟨List.mem_of_getElem? (i := 8) rfl, fun _ => ⟨e, rfl⟩⟩
    | foreign name message => exact placed_nil
  | status code =>
    simp only [Report.outcome]
    split
    · exact List.forall_mem_singleton.2 (.of_getElem? 9 rfl (by simp [Report.deliveryRecord]))
    · exact List.forall_mem_singleton.2 (.of_getElem? 10 rfl (by simp [Report.deliveryRecord]))

/-! ### Runs -/

theorem Run.records_after (before : List Entry) (run : Run) :
    (run.after before).records = Run.records { entries := before } ++ run.records :=
  List.filterMap_append ..

theorem Run.records_withHeaders (run : Run) (extra : List RawHeader) :
    (run.withHeaders extra).records = run.records :=
  Run.filterMap_withHeaders run extra fun _ => rfl

/-- All that a run logs comes from the places where the program logs. -/
def Run.LogsPlaced (run : Run) : Prop := ∀ x ∈ run.records, Placed x

theorem Run.LogsPlaced.after {before : List Entry} (hbefore : ∀ x ∈ Run.records { entries := before }, Placed x)
    (h : run.LogsPlaced) : (run.after before).LogsPlaced := by
  rw [Run.LogsPlaced, Run.records_after]
  exact List.forall_mem_append.2 ⟨hbefore, h⟩

theorem Run.LogsPlaced.withHeaders (h : run.LogsPlaced) (extra : List RawHeader) :
    (run.withHeaders extra).LogsPlaced := by
  rwa [Run.LogsPlaced, Run.records_withHeaders]

theorem logsPlaced_afterFailure (r : Request) (f : Failure) : (afterFailure r f).LogsPlaced := by
  cases f with
  | transport name message =>
    unfold afterFailure
    cases urlPath r with
    | error g => exact placed_nil
    | ok path =>
      exact .after (List.forall_mem_singleton.2 (placed_legacyFailed path r.method _)) placed_nil
  | foreign name message => exact placed_nil

theorem logsPlaced_afterAnswer (r : Request) (u : LegacyReply) : (afterAnswer r u).LogsPlaced := by
  cases u with
  | failed f => exact logsPlaced_afterFailure r f
  | answered a =>
    simp only [afterAnswer]
    split <;> exact placed_nil

theorem logsPlaced_forward (r : Request) (body : Option Bytes) (u : LegacyReply) :
    (forward r body u).LogsPlaced := by
  unfold forward
  split
  · exact placed_nil
  · split
    · exact placed_nil
    · exact (logsPlaced_afterAnswer r u).after placed_nil

theorem logsPlaced_route (debug : Bool) (r : Request) (body : Option Bytes) (u : LegacyReply) :
    (route debug r body u).LogsPlaced := by
  unfold route
  cases Match.find debug r.path.toList r.method with
  | page p =>
    cases p with
    | legacy => exact logsPlaced_forward r body u
    | _ => exact placed_nil
  | wrongMethod p => exact placed_nil
  | slash path =>
    simp only
    split <;> exact placed_nil
  | nothing => exact placed_nil

theorem placed_dispatch (fails : Bool) (r : Request) (latency : Duration) (status : Int) :
    ∀ x ∈ Run.records { entries := dispatch fails r latency status }, Placed x := by
  unfold dispatch
  cases Snapshot.ofRequest r with
  | error e => exact List.forall_mem_singleton.2 (placed_dispatchError r.path)
  | ok a =>
    cases fails with
    | false => exact placed_nil
    | true => exact List.forall_mem_singleton.2 (placed_dispatchError r.path)

theorem logsPlaced_reportFrom (fails : Nat → Bool) (clock : Nat → Int) (r : Request) (raised : Option Fault)
    {entries : List Entry} (h : Run.LogsPlaced { entries }) (status : Option Int) (n : Nat) :
    (reportFrom fails clock r raised status n entries).LogsPlaced := by
  induction entries generalizing status n with
  | nil => exact placed_nil
  | cons e rest ih =>
    obtain ⟨he, hrest⟩ : Run.LogsPlaced { entries := [e] } ∧ Run.LogsPlaced { entries := rest } :=
      List.forall_mem_append.1 (Run.records_after [e] { entries := rest } ▸ h)
    -- the layer adds what the handover logs, and only where one is due and the time can be told
    unfold reportFrom
    split
    · exact (ih hrest _ _).after he
    · split
      · refine (ih hrest _ _).after ?_
        exact List.forall_mem_append.2 ⟨he, placed_dispatch _ r _ _⟩
      · exact he
    · exact (ih hrest _ _).after he

theorem Run.LogsPlaced.timedReportLayer (h : inner.LogsPlaced) (fails : Nat → Bool) (clock : Nat → Int)
    (c : Connection) : (timedReportLayer fails clock c inner).LogsPlaced := by
  cases c with
  | other => exact h
  | http r => exact logsPlaced_reportFrom fails clock r inner.raised h none 0

theorem Run.LogsPlaced.carryOut (h : inner.LogsPlaced) (s : Settings) (r : Request) (d : Decision) :
    (carryOut s r d inner).LogsPlaced := by
  unfold Gateway.carryOut
  cases SetCookie.ofUpdate s d.cookie with
  | error e => exact placed_nil
  | ok cookies =>
    cases d.destination with
    | some url => exact .after (List.forall_mem_singleton.2 (placed_redirectIssued r.path url d.cookie)) placed_nil
    | none => exact h.withHeaders cookies

theorem Run.LogsPlaced.redirectLayer (h : inner.LogsPlaced) (s : Settings) (exempt : List Char → Bool)
    (resolve : Resolver) (c : Connection) : (redirectLayer s exempt resolve c inner).LogsPlaced := by
  cases c with
  | other => exact h
  | http r =>
    simp only [Gateway.redirectLayer]
    split
    · exact h
    · split
      · exact placed_nil
      · split
        · exact (h.carryOut s r _).after placed_nil
        · exact h.after (List.forall_mem_singleton.2 (placed_resolveError r.path))

theorem Run.LogsPlaced.lastResort (h : inner.LogsPlaced) (r : Request) : (lastResort r inner).LogsPlaced := by
  unfold Gateway.lastResort
  cases inner.raised with
  | none => exact h
  | some f =>
    cases urlPath r with
    | error g => exact h
    | ok path =>
      have hrecord : Run.LogsPlaced { entries := [.logged (unhandled path r f)] } :=
        List.forall_mem_singleton.2 (placed_unhandled path r f)
      have hanswer : Run.LogsPlaced
          { entries := if inner.status?.isNone then faultResponse.messages.map .sent else [] } := by
        cases inner.status?.isNone <;> exact placed_nil
      exact Run.LogsPlaced.after h (Run.LogsPlaced.after hrecord hanswer)

theorem logsPlaced_handle (s : Settings) (r : Request) (x : Surroundings) : (handle s r x).LogsPlaced := by
  refine (Run.LogsPlaced.redirectLayer ?_ s isExempt _ (.http r)).lastResort r
  have hpages := logsPlaced_route s.debug r x.body x.legacy
  split
  · exact hpages.timedReportLayer _ _ _
  · exact hpages

/-! ### Sends -/

/-- All that can be seen of an act in the log comes from the places where the program logs. -/
def LogsPlaced (e : Report.Effects) : Prop := ∀ x ∈ e.records, Placed x

theorem logsPlaced_write (x : Report.Send) : LogsPlaced x.write.2 := by
  unfold Report.Send.write
  split
  · exact placed_nil
  · exact placed_unwritten _ _ _
  · exact placed_nil

theorem logsPlaced_post (id : Nat) (reply : Report.Reply) (x : Report.Send) : LogsPlaced (x.post id reply).2 := by
  unfold Report.Send.post
  split <;> exact placed_nil

theorem logsPlaced_answer (x : Report.Send) : LogsPlaced x.answer.2 := by
  unfold Report.Send.answer
  split
  · exact placed_outcome _ _ _
  · exact placed_nil

theorem logsPlaced_update (p : Report.Pending) (id : Nat) {step : Report.Send → Report.Send × Report.Effects}
    (h : ∀ x, LogsPlaced (step x).2) : LogsPlaced (p.update id step).2 := by
  unfold Report.Pending.update
  split
  · exact h _
  · exact placed_nil

theorem logsPlaced_leave (p : Report.Pending) (n : Nat) (w : Report.Wait) : LogsPlaced (p.leave n w).2 := by
  simp only [Report.Pending.leave]
  split
  · exact placed_nil
  · split
    · exact List.forall_mem_singleton.2 (placed_timedOut _)
    · exact placed_nil

theorem logsPlaced_act (p : Report.Pending) (a : Report.Act) : LogsPlaced (p.act a).2 := by
  cases a with
  | write id => exact logsPlaced_update p id logsPlaced_write
  | post id reply => exact logsPlaced_update p id (logsPlaced_post id reply)
  | answer id => exact logsPlaced_update p id logsPlaced_answer
  | stop id => exact logsPlaced_update p id fun _ => placed_nil
  | leave n =>
    simp only [Report.Pending.act]
    split
    · split
      · exact placed_nil
      · exact logsPlaced_leave p n _
    · exact placed_nil
  | _ => exact placed_nil

theorem logsPlaced_perform (p : Report.Pending) (acts : List Report.Act) : LogsPlaced (p.perform acts).2 := by
  induction acts generalizing p with
  | nil => exact placed_nil
  | cons a acts ih => exact List.forall_mem_append.2 ⟨logsPlaced_act p a, ih _⟩

theorem logsPlaced_offer (s : Settings) (p : Report.Pending) (a : Snapshot) (latency : Duration) (isRobot : Bool)
    (status : Int) : LogsPlaced (Report.offer s p a latency isRobot status).2.2 := by
  unfold Report.offer
  split
  · exact placed_nil
  · exact List.forall_mem_singleton.2 (placed_skipped a.path)

theorem placed_schedule (s : Settings) (p : Report.Pending) {entries : List Entry}
    (h : Run.LogsPlaced { entries }) : ∀ x ∈ (schedule s p entries).2, Placed x := by
  induction entries generalizing p with
  | nil => exact placed_nil
  | cons e rest ih =>
    obtain ⟨he, hrest⟩ : Run.LogsPlaced { entries := [e] } ∧ Run.LogsPlaced { entries := rest } :=
      List.forall_mem_append.1 (Run.records_after [e] { entries := rest } ▸ h)
    cases e with
    | reported a latency isRobot status =>
      exact List.forall_mem_append.2 ⟨logsPlaced_offer s p a latency isRobot status, ih _ hrest⟩
    | logged x => exact List.forall_mem_cons.2 ⟨he x List.mem_cons_self, ih p hrest⟩
    | _ => exact ih p hrest

theorem logsPlaced_serve (s : Settings) (p : Report.Pending) (plan : Report.Plan) (r : Request)
    (y : Surroundings) : LogsPlaced (serve s p plan r y).2.2 :=
  List.forall_mem_append.2 ⟨placed_schedule s p (logsPlaced_handle s r y), logsPlaced_perform _ _⟩

/-! ### The lines -/

/-- The records that the program logs: at its start, around a request, when an event is offered, by whatever
happens to the sends, and by its layers around anything else that logs no other records. -/
inductive Recorded : Log.Record → Prop
  | started (s : Settings) : Recorded (started s)
  | served {s : Settings} {p : Report.Pending} {plan : Report.Plan} {r : Request} {y : Surroundings}
      {x : Log.Record} : x ∈ (serve s p plan r y).2.2.records → Recorded x
  | offered {s : Settings} {p : Report.Pending} {a : Snapshot} {latency : Duration} {isRobot : Bool}
      {status : Int} {x : Log.Record} : x ∈ (Report.offer s p a latency isRobot status).2.2.records → Recorded x
  | sent (p : Report.Pending) (acts : List Report.Act) {x : Log.Record} :
      x ∈ (p.perform acts).2.records → Recorded x
  | redirected {s : Settings} {exempt : List Char → Bool} {resolve : Resolver} {c : Connection} {inner : Run}
      {x : Log.Record} : (∀ y ∈ inner.records, Recorded y) →
      x ∈ (redirectLayer s exempt resolve c inner).records → Recorded x
  | reported {fails : Nat → Bool} {clock : Nat → Int} {c : Connection} {inner : Run} {x : Log.Record} :
      (∀ y ∈ inner.records, Recorded y) → x ∈ (timedReportLayer fails clock c inner).records → Recorded x

theorem Recorded.placed (h : Recorded x) : Placed x := by
  induction h with
  | started s => exact placed_started s
  | served hx => exact logsPlaced_serve _ _ _ _ _ _ hx
  | offered hx => exact logsPlaced_offer _ _ _ _ _ _ _ hx
  | sent p acts hx => exact logsPlaced_perform p acts _ hx
  | redirected _ hx ih => exact Run.LogsPlaced.redirectLayer ih _ _ _ _ _ hx
  | reported _ hx ih => exact Run.LogsPlaced.timedReportLayer ih _ _ _ _ hx

theorem wire_ne_failed (e : Report.Event) : e.wire ≠ "tee.failed" := by
  intro h
  have hfirst : e.wire.toList.head? = some '\x7b' := by
    rw [Report.Event.wire, Json.print, String.toList_ofList]
    rfl
  rw [h] at hfirst
  exact absurd hfirst (by decide)

/-- The name of a record stands in its line, unless its delivery failed. -/
theorem Placed.named_iff (h : Placed x) : x.members.get? "event" = some (.text x.event) ↔
    x.event ≠ "tee.failed" ∧
      (x.event = "tee.serialize_failed" → x.fields.get? "event" = some (.text x.event)) := by
  rw [h.clear.get?_event, Option.some.injEq]
  constructor
  · intro hname
    refine ⟨fun he => ?_, fun he => ?_⟩
    · -- what was to be sent is an object, so it is not the name
      obtain ⟨e, hsent⟩ := h.sent he
      rw [hsent, Option.getD_some, he] at hname
      exact wire_ne_failed e (Json.text.inj hname)
    · obtain ⟨f, hf, hkey⟩ := List.mem_map.1 ((event_mem_fields_iff _ h.mem).2 (.inr he))
      have hget : x.fields.get? "event" = some f.2 := hkey ▸ h.clear.distinct.get?_of_mem hf
      rw [hget, Option.getD_some] at hname
      rw [hget, hname]
  · rintro ⟨hsent, hshown⟩
    by_cases hmem : "event" ∈ x.fields.map (·.1)
    · rw [hshown (((event_mem_fields_iff _ h.mem).1 hmem).resolve_left hsent), Option.getD_some]
    · have hnone : x.fields.get? "event" = none :=
        Table.get?_eq_none fun f hf hkey => hmem (List.mem_map.2 ⟨f, hf, hkey⟩)
      rw [hnone, Option.getD_none]

theorem structured_of_environment {env : Table String} {c : Log.Config} (hc : Log.Config.ofEnvironment env = .ok c)
    (hformat : Text.lower ((env.get? "LOG_FORMAT").getD "").toList = "json".toList) : c.structured = true := by
  unfold Log.Config.ofEnvironment at hc
  cases ht : Log.thresholdNamed ((env.get? "LOG_LEVEL").getD "INFO") with
  | error e =>
    rw [ht] at hc
    cases hc
  | ok threshold =>
    rw [ht] at hc
    cases hc
    exact beq_iff_eq.2 hformat

/-- Where the environment asks for objects, every record of the program that is written becomes an object in
which each field has its own member, beside the level and the logger. The name has its own too, but not of a
delivery that failed: there the event takes its place, so it stands only if the event is shown as that name. -/
theorem line_of_recorded {env : Table String} {c : Log.Config} (h : Recorded x)
    (hc : Log.Config.ofEnvironment env = .ok c)
    (hformat : Text.lower ((env.get? "LOG_FORMAT").getD "").toList = "json".toList) (hw : c.writes x = true) :
    c.answer x.call = .ok (.line (.object x.members)) ∧
      (∀ f ∈ x.fields, x.members.get? f.1 = some f.2) ∧
      x.members.get? "level" = some (.text x.level.word) ∧ x.members.get? "logger" = some (.text x.logger) ∧
      (x.members.get? "event" = some (.text x.event) ↔ x.event ≠ "tee.failed" ∧
        (x.event = "tee.serialize_failed" → x.fields.get? "event" = some (.text x.event))) := by
  have hclear := h.placed.clear
  exact ⟨hclear.answer (structured_of_environment hc hformat) hw, fun f hf => hclear.get?_field hf,
    hclear.get?_level, hclear.get?_logger, h.placed.named_iff⟩

/-- An event of a page view. -/
def pageView : Report.Event :=
  { host := "godoc.org", path := "/net/http", status := 200, url := "https://godoc.org/net/http", headers := []
    latency := ⟨5000⟩, isRobot := false, redirected := false }

/-- What happens to the one event that is sent, with the collector's reply. -/
def deliveryActs (reply : Report.Reply) : List Report.Act :=
  [.schedule "https://collector.example/" pageView none, .write 0, .post 0 reply, .answer 0]

/-- The line of a delivery that the collector accepts says what it is. -/
theorem line_of_recorded_accepted :
    let x := Report.deliveryRecord .info "tee.sent" [("target", .text "https://collector.example/"),
      ("path", .text "/net/http"), ("status", .int 200)]
    Recorded x ∧ Log.Config.ofEnvironment [("LOG_FORMAT", "json")] = .ok {} ∧
      Log.Config.writes {} x = true ∧ x.members.get? "event" = some (.text "tee.sent") := by
  intro x
  have hx : Recorded x :=
    .sent {} (deliveryActs (.status 202)) (List.mem_singleton.2 rfl)
  have hc : Log.Config.ofEnvironment [("LOG_FORMAT", "json")] = .ok {} := rfl
  obtain ⟨-, -, -, -, hname⟩ := line_of_recorded hx hc rfl (by decide)
  exact ⟨hx, hc, by decide, hname.2 ⟨by simp [x, Report.deliveryRecord], by simp [x, Report.deliveryRecord]⟩⟩

/-- The line of a delivery that fails in transport has the event in place of the name. -/
theorem connectError_nameless :
    let x := Report.deliveryRecord .error "tee.failed" [("target", .text "https://collector.example/"),
      ("event", .text pageView.wire), ("error", .text "boom"), ("exc_type", .text "ConnectError")]
    Recorded x ∧ Log.Config.answer {} x.call = .ok (.line (.object x.members)) ∧
      x.members.get? "event" = some (.text pageView.wire) ∧
      x.members.get? "event" ≠ some (.text "tee.failed") := by
  intro x
  have hx : Recorded x :=
    .sent {} (deliveryActs (.failed (.transport "ConnectError" "boom"))) (List.mem_singleton.2 rfl)
  have hname : x.members.get? "event" = some (.text pageView.wire) := hx.placed.clear.get?_event
  refine ⟨hx, hx.placed.clear.answer rfl (by decide), hname, fun he => ?_⟩
  exact wire_ne_failed pageView (Json.text.inj (Option.some.inj (hname.symm.trans he)))

end Gateway

end Changeover
