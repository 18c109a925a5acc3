import Changeover.Proofs.JsonReading
import Changeover.Proofs.RedirectRuns
import Changeover.Report.Event

/-!
# The wire format of events

What is sent of an event reads back as one object that holds everything the event holds, the latency as a
thousandfold of its microseconds, so events with the same wire text are equal (`Event.wire_lossless`). The one
thing asked of an event is that its headers are a table with one entry for each name, as those of every request
are (`Event.distinct_ofSnapshot`).
-/

namespace Changeover

namespace Duration

theorem parts_eq (d : Duration) :
    (d.days * 86400 + d.seconds) * 1000000 + d.beyondSeconds = d.microseconds := by
  unfold days seconds beyondSeconds
  omega

theorem nanoseconds_eq (d : Duration) : d.nanoseconds = 1000 * d.microseconds := by
  rw [← parts_eq d, nanoseconds]
  omega

theorem nanoseconds_inj {d d' : Duration} (h : d.nanoseconds = d'.nanoseconds) : d = d' := by
  obtain ⟨n⟩ := d
  obtain ⟨n'⟩ := d'
  rw [nanoseconds_eq, nanoseconds_eq] at h
  exact congrArg mk (Int.eq_of_mul_eq_mul_left (by decide) h)

theorem microseconds_ofUnits {amount : String → Int} {d : Duration} (h : ofUnits amount = .ok d) :
    d.microseconds = total amount := by
  unfold ofUnits ofMicroseconds at h
  dsimp only at h
  split at h
  · rw [← Except.ok.inj h]
  · cases h

end Duration

namespace Header

theorem distinct_group (hs : List RawHeader) : (group hs).Distinct := by
  suffices hall : ∀ groups : Table (List String), groups.Distinct → (hs.foldl add groups).Distinct from
    hall [] List.nodup_nil
  induction hs with
  | nil => exact fun _ h => h
  | cons h hs ih => exact fun groups hg => ih _ (hg.alter _ _)

end Header

namespace Report.Event

variable {e : Event}

theorem exact_toJson (h : e.headers.Distinct) : e.toJson.Exact := by
  have hnames : Table.Distinct (e.headers.map fun h => (h.1, Json.array (h.2.map .text))) := by
    rw [Table.Distinct, List.map_map]
    exact h
  have hvalues : ∀ m ∈ e.headers.map fun h => (h.1, Json.array (h.2.map .text)), m.2.Exact := by
    intro m hm
    obtain ⟨h, -, rfl⟩ := List.mem_map.1 hm
    refine .array fun v hv => ?_
    obtain ⟨t, -, rfl⟩ := List.mem_map.1 hv
    exact .text t
  have hmembers : ["Host", "Path", "Status", "URL", "Header", "Latency", "IsRobot", "UsePkgGoDev"].Nodup := by
    decide
  refine .object hmembers ?_
  simp only [List.forall_mem_cons]
  exact ⟨.text _, .text _, .int _, .text _, .object hnames hvalues, .int _, .bool _, .bool _,
    List.forall_mem_nil _⟩

theorem toJson_inj {e' : Event} (h : e.toJson = e'.toJson) : e = e' := by
  obtain ⟨host, path, status, url, headers, latency, isRobot, redirected⟩ := e
  obtain ⟨host', path', status', url', headers', latency', isRobot', redirected'⟩ := e'
  simp only [toJson, Json.object.injEq, List.cons.injEq, Prod.mk.injEq, Json.text.injEq, Json.int.injEq,
    Json.bool.injEq, true_and, and_true] at h
  obtain ⟨rfl, rfl, rfl, rfl, hheaders, hlatency, rfl, rfl⟩ := h
  have htexts : Function.Injective fun values : List String => Json.array (values.map .text) := fun a b hab =>
    List.map_injective_iff.2 (fun _ _ => Json.text.inj) (Json.array.inj hab)
  obtain rfl : headers = headers' := by
    refine List.map_injective_iff.2 (fun a b hab => ?_) hheaders
    obtain ⟨hname, hvalues⟩ := Prod.mk.inj hab
    exact Prod.ext hname (htexts hvalues)
  rw [Duration.nanoseconds_inj hlatency]

/-- What is sent of an event reads as one object with a member for each part of the event. Its latency is a
thousandfold of the microseconds, whatever amounts of the units gave it. So an event is known from what is sent
of it. -/
theorem wire_lossless (h : e.headers.Distinct) :
    Json.read? e.wire = some (.object [
      ("Host", .text e.host),
      ("Path", .text e.path),
      ("Status", .int e.status),
      ("URL", .text e.url),
      ("Header", .object (e.headers.map fun h => (h.1, .array (h.2.map .text)))),
      ("Latency", .int (1000 * e.latency.microseconds)),
      ("IsRobot", .bool e.isRobot),
      ("UsePkgGoDev", .bool e.redirected)]) ∧
    (∀ amount, Duration.ofUnits amount = .ok e.latency → e.latency.microseconds =
      604800000000 * amount "weeks" + 86400000000 * amount "days" + 3600000000 * amount "hours" +
        60000000 * amount "minutes" + 1000000 * amount "seconds" + 1000 * amount "milliseconds" +
        amount "microseconds") ∧
    ∀ e' : Event, e'.headers.Distinct → e'.wire = e.wire → e' = e := by
  refine ⟨?_, fun amount hamount => ?_, fun e' h' hwire => ?_⟩
  · rw [wire, Json.read?_print (exact_toJson h), toJson, Duration.nanoseconds_eq]
  · rw [Duration.microseconds_ofUnits hamount]
    simp only [Duration.total, Duration.units, List.foldl_cons, List.foldl_nil]
    omega
  · exact toJson_inj ((Json.print_inj (exact_toJson h') (exact_toJson h)).1 hwire)

/-- An event with quotes, a backslash and controls in its texts, a header with several values and one without,
and a negative latency. -/
def awkward : Event :=
  { host := "go\"doc\\.org"
    path := "/a\nb"
    status := -200
    url := "https://godoc.org/\t"
    headers := [("Accept", ["b", "", "a"]), ("", []), ("X-\"", ["€\r\n"])]
    latency := ⟨-86399999999⟩
    isRobot := true
    redirected := false }

theorem wire_lossless_awkward :
    awkward.headers.Distinct ∧
      Json.read? awkward.wire = some (.object [
        ("Host", .text "go\"doc\\.org"),
        ("Path", .text "/a\nb"),
        ("Status", .int (-200)),
        ("URL", .text "https://godoc.org/\t"),
        ("Header", .object [("Accept", .array [.text "b", .text "", .text "a"]), ("", .array []),
          ("X-\"", .array [.text "€\r\n"])]),
        ("Latency", .int (-86399999999000)),
        ("IsRobot", .bool true),
        ("UsePkgGoDev", .bool false)]) ∧
      Duration.ofUnits (fun u => if u = "days" then -1 else if u = "microseconds" then 1 else 0) =
        .ok awkward.latency ∧
      ∀ e : Event, e.headers.Distinct → e.wire = awkward.wire → e = awkward := by
  have hdistinct : awkward.headers.Distinct := by decide
  obtain ⟨hread, -, hinj⟩ := wire_lossless hdistinct
  exact ⟨hdistinct, hread, rfl, hinj⟩

/-- The headers of what is reported of a request have one entry for each name. -/
theorem distinct_ofSnapshot {r : Request} {a : Snapshot} (h : Snapshot.ofRequest r = .ok a) (s : Settings)
    (latency : Duration) (isRobot : Bool) (status : Int) :
    (ofSnapshot s a latency isRobot status).headers.Distinct := by
  obtain ⟨host, path, -, rfl⟩ := Snapshot.ofRequest_eq_ok h
  exact (Header.distinct_group r.headers).erase "Host"

end Report.Event

end Changeover
