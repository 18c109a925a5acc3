import Changeover.Proofs.FieldNames
import Changeover.Proofs.LegacyProxy

/-!
# How long a relayed answer is

The length of a body can come from the gateway, which counts it, and from the legacy site, which may state
it any number of times. A relayed answer tells it once: only an answer to HEAD, which has no body to count,
keeps what the legacy site states, and the gateway then adds nothing (`forward_framed`).
-/

namespace Changeover.Gateway

open Text

section Names

variable {name other : String} {h : RawHeader} {hs : List RawHeader}

theorem isNamed_unique (hn : isNamed name h = true) (ho : isNamed other h = true) : name = other := by
  rw [isNamed, beq_iff_eq] at hn ho
  exact String.toList_inj.1 (hn.symm.trans ho)

theorem isNamed_eq_false (hn : isNamed name h = true) (hne : name ≠ other) : isNamed other h = false :=
  Bool.eq_false_iff.2 fun ho => hne (isNamed_unique hn ho)

theorem isOfConnection_eq_false (hn : isNamed name h = true) (hc : name ∉ hopByHop) :
    isOfConnection h = false := by
  refine List.any_eq_false.2 fun other ho hother => hc ?_
  rw [isNamed_unique hn hother]
  exact ho

theorem isNamed_lengthField (body : Bytes) : isNamed "content-length" (lengthField body) = true := by
  -- the name does not depend on the body
  show isNamed "content-length" (Header.raw "content-length" "") = true
  decide

/-- The lengths that are told by the fields. -/
def lengths (hs : List RawHeader) : List String :=
  (hs.filter (isNamed "content-length")).map fun h => Latin1.text h.2

theorem lengths_append (hs hs' : List RawHeader) : lengths (hs ++ hs') = lengths hs ++ lengths hs' := by
  rw [lengths, List.filter_append, List.map_append]
  rfl

theorem lengths_raw (hn : isNamed "content-length" (Header.raw name "") = true) (n : Nat) :
    lengths [Header.raw name (toString n)] = [toString n] := by
  have hbytes : (toString n).toList.all (·.toNat < 256) = true :=
    List.all_eq_true.2 fun c hc => decide_eq_true (Nat.lt_trans (toString_ascii n c hc) (by decide))
  have htext : Latin1.text (Header.raw name (toString n)).2 = toString n := by
    rw [Latin1.text, Header.ofBytes_raw_value hbytes, String.ofList_toList]
  have hkept : isNamed "content-length" (Header.raw name (toString n)) = true := hn
  rw [lengths, List.filter_cons_of_pos hkept, List.filter_nil, List.map_singleton, htext]

theorem lengths_map_lowered (hs : List RawHeader) : lengths (hs.map lowered) = lengths hs := by
  have hnames : isNamed "content-length" ∘ lowered = isNamed "content-length" :=
    funext (isNamed_lowered _)
  rw [lengths, List.filter_map, List.map_map, hnames]
  rfl

end Names

section Answers

variable {method : String} {a : Response}

theorem lengths_ownLength (method : String) (a : Response) : lengths (ownLength method a) =
    if method = "HEAD" ∨ a.status < 200 ∨ a.status = 204 ∨ a.status = 304 then []
    else [toString a.body.length] := by
  have hnone : (method == "HEAD" || !statesLength a.status) = true ↔
      method = "HEAD" ∨ a.status < 200 ∨ a.status = 204 ∨ a.status = 304 := by
    simp [statesLength, or_assoc]
  rw [ownLength]
  split <;> rename_i h <;> rw [hnone] at h
  · rw [if_pos h]
    rfl
  · rw [if_neg h, lengthField, lengths_raw (by decide)]

/-- An answer is read with the length of its body if it has one and states none. -/
theorem lengths_statedHeaders (a : Response) : lengths (statedHeaders a) =
    if a.body = [] ∨ lengths a.headers ≠ [] then lengths a.headers else [toString a.body.length] := by
  have hstated : a.headers.any (isNamed "content-length") = true ↔ lengths a.headers ≠ [] := by
    simp [lengths, List.filter_eq_nil_iff]
  have hread : (a.body.isEmpty || a.headers.any (isNamed "content-length")) = true ↔
      a.body = [] ∨ lengths a.headers ≠ [] := by
    rw [Bool.or_eq_true, List.isEmpty_iff, hstated]
  have hunfold : statedHeaders a =
      if a.body.isEmpty || a.headers.any (isNamed "content-length") then a.headers
      else a.headers ++ [Header.raw "Content-Length" (toString a.body.length)] := rfl
  rw [hunfold]
  split <;> rename_i h <;> rw [hread] at h
  · rw [if_pos h]
  · have hnone : lengths a.headers = [] := Classical.not_not.1 (not_or.1 h).2
    rw [if_neg h, lengths_append, hnone, List.nil_append, lengths_raw (by decide)]

/-- Only an answer to HEAD keeps the lengths that it arrives with, and it keeps all of them. -/
theorem lengths_keptFields (method : String) (a : Response) : lengths (keptFields method a) =
    if method = "HEAD" then lengths (statedHeaders a) else [] := by
  have hkept (f : RawHeader) (hf : isNamed "content-length" f = true) :
      isDropped (method == "HEAD") (Latin1.ofBytes (lowered f).1) = !(method == "HEAD") := by
    rw [isDropped_eq, isOfConnection_eq_false hf (by decide), isNamed_eq_false hf (by decide), hf]
    rfl
  rw [lengths, keptFields, List.filter_filter]
  split
  · next hm =>
    refine congrArg _ (List.filter_congr fun f _ => ?_)
    cases hf : isNamed "content-length" f with
    | false => rfl
    | true => rw [hkept f hf, hm]; rfl
  · next hm =>
    refine List.map_eq_nil_iff.2 (List.filter_eq_nil_iff.2 fun f _ h => ?_)
    obtain ⟨hf, hn⟩ := Bool.and_eq_true_iff.1 h
    rw [hkept f hf, beq_false_of_ne hm] at hn
    exact absurd hn (by decide)

/-- The frame of a relayed answer. -/
structure Framed (method : String) (a response : Response) : Prop where
  status : response.status = a.status
  body : response.body = a.body
  /-- The length of the body is told once, if answers of that status have one. -/
  length : method ≠ "HEAD" → lengths response.headers =
    if a.status < 200 ∨ a.status = 204 ∨ a.status = 304 then [] else [toString response.body.length]
  /-- The lengths told are those of the answer as it is read: with that of its body if it states none. -/
  head : method = "HEAD" → lengths response.headers = lengths (statedHeaders a)
  /-- No field belongs to the connection that the answer arrives on or tells a coding of its body. -/
  fields : ∀ f ∈ response.headers, isOfConnection f = false ∧ isNamed "content-encoding" f = false

theorem framed_verbatim (method : String) (a : Response) : Framed method a (verbatim method a) := by
  have hlengths : lengths (verbatim method a).headers =
      lengths (ownLength method a) ++ lengths (keptFields method a) := by
    rw [verbatim, lengths_append, lengths_map_lowered]
  rw [lengths_ownLength, lengths_keptFields] at hlengths
  refine ⟨rfl, rfl, fun hm => ?_, fun hm => ?_, fun f hf => ?_⟩
  · rw [hlengths, if_neg hm, List.append_nil]
    simp only [hm, false_or]
    rfl
  · rw [hlengths, if_pos hm, if_pos (.inl hm), List.nil_append]
  · rcases List.mem_append.1 hf with hf | hf
    · -- the only field of the gateway's own is the length
      have hf : f = lengthField a.body := by
        unfold ownLength at hf
        split at hf
        · cases hf
        · exact List.mem_singleton.1 hf
      have hn := isNamed_lengthField a.body
      rw [hf]
      exact ⟨isOfConnection_eq_false hn (by decide), isNamed_eq_false hn (by decide)⟩
    · obtain ⟨g, hg, rfl⟩ := List.mem_map.1 hf
      have hkept := (List.mem_filter.1 hg).2
      rw [isDropped_eq, Bool.not_eq_true', Bool.or_eq_false_iff, Bool.or_eq_false_iff] at hkept
      rw [isOfConnection_lowered, isNamed_lowered]
      exact hkept.1

end Answers

/-- The answer of the legacy site, if its fields are of ASCII characters, is given with its status and its
body, and with lengths and codings that belong to that body. -/
theorem forward_framed {r : Request} {t : Url.Target} {b : Bytes} {a : Response}
    (ht : forwardedTarget r = .ok t) (ha : ∀ f ∈ a.headers, AsciiField f) :
    ∃ response, (forward r (some b) (.answered a)).Gives response ∧ Framed r.method a response :=
  ⟨verbatim r.method a, (gives_forward_iff ht).2 (relay_ascii ha r.method), framed_verbatim r.method a⟩

/-- A request for the head of a page. -/
def headRequest : Request := .ofTarget "HEAD" (Utf8.encode "/net/http".toList) []

/-- An answer that tells two lengths, and a coding of the connection that it arrives on. -/
def twoLengths : Response where
  status := 200
  headers := [Header.raw "Content-LENGTH" "11", Header.raw "Transfer-ENCODING" "chunked",
    Header.raw "content-length" "12"]

/-- An answer to HEAD keeps both lengths. -/
theorem forward_framed_twoLengths :
    (∃ t, forwardedTarget headRequest = .ok t) ∧ (∀ f ∈ twoLengths.headers, AsciiField f) ∧
      ∃ response, (forward headRequest (some []) (.answered twoLengths)).Gives response ∧
        Framed "HEAD" twoLengths response ∧ lengths response.headers = ["11", "12"] := by
  have hr : SentTarget headRequest (Utf8.encode "/net/http".toList) :=
    ⟨⟨_, rfl, by decide⟩, by decide, by decide, by decide, by decide, by decide⟩
  obtain ⟨t, ht⟩ := hr.forwarded (by decide)
  have ha : ∀ f ∈ twoLengths.headers, AsciiField f := by decide
  obtain ⟨response, hgives, hframed⟩ := forward_framed (b := []) ht ha
  have hlengths : lengths twoLengths.headers = ["11", "12"] := by decide
  refine ⟨⟨t, ht⟩, ha, response, hgives, hframed, ?_⟩
  rw [hframed.head rfl, lengths_statedHeaders, if_pos (.inl rfl), hlengths]

end Changeover.Gateway
