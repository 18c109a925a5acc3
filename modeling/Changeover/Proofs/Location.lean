import Changeover.Proofs.ConsentUpdate
import Changeover.Proofs.DecisionLaw
import Changeover.Proofs.Destination
import Changeover.Proofs.NamedHost
import Changeover.Proofs.RedirectFrame

/-!
# Where a redirect leads

A destination is escaped once more when it becomes a header value. Escaping changes a text unless it keeps all of
it (`Percent.encode_eq_self_iff`), and what was written with the two escapings of a destination is kept by the
third one (`Written.keptInLocation`), the escape sign among it. So only the host of the new site could be changed
(`escapeLocation_ofUrl_iff`). If that is a name, the visitor is sent where it was decided, by a value of harmless
characters (`location_eq_destination`).
-/

namespace Changeover

open Text

namespace Text.Percent

variable {keep : Char → Bool} {c : Char} {s : List Char}

theorem encodeChar_of_kept (h : keep c = true) : encodeChar keep c = [c] := if_pos h

theorem one_lt_length_encodeChar (h : ¬ keep c = true) : 1 < (encodeChar keep c).length := by
  obtain ⟨b, bs, hbytes⟩ := List.exists_cons_of_ne_nil (Utf8.encodeChar_ne_nil c)
  rw [encodeChar, if_neg h, hbytes, List.flatMap_cons, List.length_append]
  exact Nat.lt_add_right _ (by decide : 1 < 3)

theorem length_le_encode (keep : Char → Bool) (s : List Char) : s.length ≤ (encode keep s).length := by
  induction s with
  | nil => exact Nat.le_refl _
  | cons c s ih =>
    have hc : 1 ≤ (encodeChar keep c).length := by
      by_cases h : keep c = true
      · rw [encodeChar_of_kept h]
        exact Nat.le_refl 1
      · exact Nat.le_of_lt (one_lt_length_encodeChar h)
    rw [encode_cons, List.length_cons, List.length_append]
    omega

theorem encode_eq_self_iff : encode keep s = s ↔ ∀ c ∈ s, keep c = true := by
  induction s with
  | nil => exact iff_of_true rfl nofun
  | cons c s ih =>
    rw [List.forall_mem_cons, encode_cons]
    by_cases h : keep c = true
    · rw [encodeChar_of_kept h, List.singleton_append, List.cons_inj_right, ih, and_iff_right h]
    · -- the escape makes the text longer, even if it begins with the sign that it stands for
      refine iff_of_false (fun he => ?_) fun hall => h hall.1
      have hlength := congrArg List.length he
      have hlonger := one_lt_length_encodeChar h
      have hrest := length_le_encode keep s
      rw [List.length_append, List.length_cons] at hlength
      omega

end Text.Percent

theorem Query.render_chars {c : Char} {ps : List Query.Pair} (h : c ∈ render ps) :
    c = '&' ∨ c = '=' ∨ c = '+' ∨ c = '%' ∨ Percent.unreserved c = true := by
  rcases mem_intercalate h with hc | ⟨part, hpart, hc⟩
  · exact .inl hc
  obtain ⟨p, -, rfl⟩ := List.mem_map.1 hpart
  rw [encodePair, List.mem_append, List.mem_cons] at hc
  rcases hc with hc | hc | hc
  · exact .inr (.inr (encodePart_chars hc))
  · exact .inr (.inl hc)
  · exact .inr (.inr (encodePart_chars hc))

namespace Url

/-- A character of a URL whose parts have been escaped: one that a path keeps, the escape sign or the mark of the
query. -/
def Written (c : Char) : Prop := keptInPath c = true ∨ c = '%' ∨ c = '?'

instance (c : Char) : Decidable (Written c) := inferInstanceAs (Decidable (_ ∨ _))

/-- A printable character of ASCII that neither ends a header value, nor begins a fragment, nor means anything in
a page. -/
def Harmless (c : Char) : Prop :=
  0x20 < c.toNat ∧ c.toNat < 0x7F ∧ c ≠ '"' ∧ c ≠ '<' ∧ c ≠ '>' ∧ c ≠ '#'

instance (c : Char) : Decidable (Harmless c) := inferInstanceAs (Decidable (_ ∧ _))

variable {c : Char} {path : List Char}

namespace Written

theorem of_unreserved (h : Percent.unreserved c = true) : Written c := .inl (Bool.or_eq_true_iff.2 (.inl h))

theorem ascii (h : Written c) : c.toNat < 128 := by
  rcases h with h | rfl | rfl
  · exact (keptInPath_keepable c h).1
  · decide
  · decide

theorem keptInLocation (h : Written c) : Url.keptInLocation c = true :=
  of_ascii (P := fun c => Written c → Url.keptInLocation c = true) (by decide +kernel) h.ascii h

theorem harmless (h : Written c) : Harmless c :=
  of_ascii (P := fun c => Written c → Harmless c) (by decide +kernel) h.ascii h

theorem of_escapePath (h : c ∈ escapePath path) : Written c := by
  rcases Percent.encode_chars h with h | h | ⟨n, hn, rfl⟩
  · exact .inl h
  · exact .inr (.inl h)
  · exact of_unreserved (Query.unreserved_upper hn)

theorem of_render {ps : List Query.Pair} (h : c ∈ Query.render ps) : Written c := by
  rcases Query.render_chars h with rfl | rfl | rfl | rfl | h
  · decide
  · decide
  · decide
  · decide
  · exact of_unreserved h

end Written

end Url

namespace Destination

variable {s : Settings} {url : List Char} {c : Char}

/-- All of a destination but the host has been written. -/
theorem written_of_mem (h : c ∈ ofUrl s url) : c ∈ s.newSiteHost.toList ∨ Url.Written c := by
  have hscheme : ∀ c ∈ "https://".toList, Url.Written c := forall_of_all (by decide)
  rw [ofUrl_eq, List.mem_append, List.mem_append, List.mem_append, List.mem_cons] at h
  rcases h with (h | h) | h | rfl | h
  · exact .inr (hscheme c h)
  · exact .inl h
  · exact .inr (.of_escapePath h)
  · exact .inr (by decide)
  · exact .inr (.of_render h)

theorem escapeLocation_ofUrl_iff (s : Settings) (url : List Char) :
    Url.escapeLocation (ofUrl s url) = ofUrl s url ↔
      ∀ c ∈ s.newSiteHost.toList, Url.keptInLocation c = true := by
  rw [Url.escapeLocation, Percent.encode_eq_self_iff]
  constructor
  · intro h c hc
    refine h c ?_
    rw [ofUrl_eq]
    exact List.mem_append_left _ (List.mem_append_right _ hc)
  · intro h c hc
    rcases written_of_mem hc with hc | hc
    · exact h c hc
    · exact hc.keptInLocation

theorem written_of_plainHost
    (h : ∀ c ∈ s.newSiteHost.toList, c.isAlphanum = true ∨ c = '.' ∨ c = '-' ∨ c = ':') :
    ∀ c ∈ s.newSiteHost.toList, Url.Written c := by
  intro c hc
  rcases h c hc with hc | rfl | rfl | rfl
  · exact .of_unreserved (by simp [Percent.unreserved, hc])
  · decide
  · decide
  · decide

end Destination

namespace Gateway

variable {s : Settings} {exempt : List Char → Bool} {resolve : Resolver} {r : Request} {a : Snapshot}
  {d : Decision} {cookies : List RawHeader}

theorem leads_redirectLayer {url : String} (hex : exempt r.path.toList = false)
    (ha : Snapshot.ofRequest r = .ok a) (hd : resolve a = some d)
    (hc : SetCookie.ofUpdate s d.cookie = .ok cookies) (hurl : d.destination = some url) (inner : Run) :
    Leads url cookies (redirectLayer s exempt resolve (.http r) inner) := by
  rw [redirectLayer_decided inner hex ha hd, carryOut, hc, hurl]
  exact leads_redirection hc url [.resolved a.path, .logged (redirectIssued r.path url d.cookie)] rfl

/-- If the host of the new site is a name, with or without a port, the visitor is sent exactly where it was
decided. A destination is left as it is when it becomes a header value; it is made of harmless characters; and
the answer to every request with that snapshot has it as its one `location`. -/
theorem location_eq_destination {url : String}
    (hhost : ∀ c ∈ s.newSiteHost.toList, c.isAlphanum = true ∨ c = '.' ∨ c = '-' ∨ c = ':')
    (hurl : (Decision.resolve s a).destination = some url) :
    Url.escapeLocation url.toList = url.toList ∧ (∀ c ∈ url.toList, Url.Harmless c) ∧
      ∀ cookies, SetCookie.ofUpdate s (Decision.resolve s a).cookie = .ok cookies →
        ∀ exempt r inner, exempt r.path.toList = false → Snapshot.ofRequest r = .ok a →
          ∃ fields,
            (redirectLayer s exempt (fun a => some (Decision.resolve s a)) (.http r) inner).messages =
              [.start 302 fields, .body [] false] ∧
            (Header.rawValues fields "location").map Latin1.ofBytes = [url.toList] := by
  have hname := Destination.written_of_plainHost hhost
  have htext := Decision.toList_destination hurl
  have hkept : Url.escapeLocation url.toList = url.toList := by
    rw [htext]
    exact (Destination.escapeLocation_ofUrl_iff s _).2 fun c hc => (hname c hc).keptInLocation
  refine ⟨hkept, fun c hc => ?_, fun cookies hcookies exempt r inner hex ha => ?_⟩
  · rw [htext] at hc
    rcases Destination.written_of_mem hc with hc | hc
    · exact (hname c hc).harmless
    · exact hc.harmless
  · have hleads : Leads url cookies
        (redirectLayer s exempt (fun a => some (Decision.resolve s a)) (.http r) inner) :=
      leads_redirectLayer hex ha rfl hcookies hurl inner
    obtain ⟨fields, hmessages, hlocation, -, hothers⟩ := hleads.messages
    refine ⟨fields ++ cookies, hmessages, ?_⟩
    rw [Header.rawValues_append, hothers, List.append_nil, hlocation, hkept]

/-- A request whose path, once decoded, would begin a field of its own, a tag, a string and a fragment. -/
def injecting : Request :=
  .ofTarget "GET" (Utf8.encode "/a%0D%0ALocation:%20x%22%3Cb%3E%23?redirect=on".toList) []

/-- It is redirected to the page of that path, and nothing of it gets out of the field. -/
theorem location_eq_destination_injecting :
    isExempt injecting.path.toList = false ∧ Snapshot.ofRequest injecting = .ok injecting.plain ∧
      injecting.path = "/a\r\nLocation: x\"<b>#" ∧
      ∃ fields,
        (redirectLayer {} isExempt (fun a => some (Decision.resolve {} a)) (.http injecting)
          startedTwice).messages = [.start 302 fields, .body [] false] ∧
        (Header.rawValues fields "location").map Latin1.ofBytes =
          ["https://pkg.go.dev/a%0D%0ALocation:%20x%22%3Cb%3E%23?tab=doc&utm_source=godoc".toList] := by
  have hex : isExempt injecting.path.toList = false := by decide +kernel
  have ha : Snapshot.ofRequest injecting = .ok injecting.plain :=
    Snapshot.ofRequest_of_slash (by decide +kernel)
  have hurl : (Decision.resolve {} injecting.plain).destination = some
      "https://pkg.go.dev/a%0D%0ALocation:%20x%22%3Cb%3E%23?tab=doc&utm_source=godoc" := by decide +kernel
  have hc := SetCookie.ofUpdate_eq (s := {}) (by decide +kernel) (Decision.resolve {} injecting.plain).cookie
  have hhost : ∀ c ∈ ({} : Settings).newSiteHost.toList,
      c.isAlphanum = true ∨ c = '.' ∨ c = '-' ∨ c = ':' := forall_of_all (by decide)
  exact ⟨hex, ha, by decide +kernel,
    (location_eq_destination hhost hurl).2.2 _ hc isExempt injecting startedTwice hex ha⟩

end Gateway

end Changeover
