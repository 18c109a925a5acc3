import Changeover.Cookie
import Changeover.Cookie.Jar
import Changeover.Cookie.SetCookie
import Changeover.Query

/-!
# The consent cookie on its way

The cookie travels twice as text. What an update writes, a browser stores or deletes under the very
name (`receive_store`, `receive_delete`). What a browser sends among its other cookies is read back as
it is (`get?_ofHeaders_of_holds`), and nothing is read when it sends none of that name
(`get?_ofHeaders_of_lacks`).
-/

namespace Changeover

open Text

/-- What an update makes of the cookie that a browser holds. -/
def CookieUpdate.apply : CookieUpdate → Option String → Option String
  | .keep, w => w
  | .set, _ => some "on"
  | .clear, _ => none

theorem CookieUpdate.apply_apply (u : CookieUpdate) (w : Option String) :
    u.apply (u.apply w) = u.apply w := by
  cases u <;> rfl

namespace SetCookie

variable {name : String} {c : Char}

theorem isNameChar_ascii (h : isNameChar c = true) : c.toNat < 128 := by
  rcases Bool.or_eq_true_iff.1 h with h | h
  · exact (Query.isAlphanum_ascii h).1
  · have : "!#$%&'*+-.^_`|~:".toList.all (·.toNat < 128) = true := by decide
    exact of_decide_eq_true (List.all_eq_true.1 this c (List.contains_iff_mem.1 h))

theorem isNameChar_plain (h : isNameChar c = true) : c ≠ '=' ∧ c ≠ ';' ∧ isBlank c = false := by
  have hascii : ∀ n : Fin 128, isNameChar (Char.ofNat n) = true →
      Char.ofNat n ≠ '=' ∧ Char.ofNat n ≠ ';' ∧ isBlank (Char.ofNat n) = false := by decide +kernel
  have := hascii ⟨c.toNat, isNameChar_ascii h⟩
  rw [Char.ofNat_toNat] at this
  exact this h

theorem name_legal (h : fault? name = none) :
    ¬ (name.isEmpty || !name.toList.all isNameChar) = true := by
  unfold fault? at h
  split at h
  · cases h
  split at h
  · cases h
  · assumption

theorem name_chars (h : fault? name = none) : ∀ c ∈ name.toList, isNameChar c = true := by
  have := name_legal h
  simp_all

theorem name_ne_nil (h : fault? name = none) : name.toList ≠ [] := by
  have := name_legal h
  simp_all

theorem not_mem_name (h : fault? name = none) (hc : isNameChar c = false) : c ∉ name.toList :=
  fun hm => absurd (name_chars h c hm) (by simp [hc])

theorem ofBytes_field (h : fault? name = none) {rest : String}
    (hr : rest.toList.all (·.toNat < 256) = true) (field : String) :
    Latin1.ofBytes (Header.raw field (name ++ rest)).2 = name.toList ++ rest.toList := by
  rw [← String.toList_append]
  refine Header.ofBytes_raw_value ?_ field
  rw [String.toList_append, List.all_append, hr, Bool.and_true, List.all_eq_true]
  intro c hc
  exact decide_eq_true (Nat.lt_trans (isNameChar_ascii (name_chars h c hc)) (by decide))

theorem ofBytes_store (h : fault? name = none) : Latin1.ofBytes (store name).2 =
    name.toList ++ '=' :: ("on".toList ++ ';' :: " Path=/; SameSite=lax".toList) := by
  rw [store, String.append_assoc, String.append_assoc]
  exact ofBytes_field h (by decide) _

theorem ofBytes_delete (h : fault? name = none) : Latin1.ofBytes (delete name).2 =
    name.toList ++ '=' :: ("\"\"".toList ++ ';' :: " Max-Age=-1; Path=/; SameSite=lax".toList) :=
  ofBytes_field h (by decide) _

/-- The fields of an update of the cookie `name`. -/
def fields (name : String) : CookieUpdate → List RawHeader
  | .keep => []
  | .set => [store name]
  | .clear => [delete name]

theorem ofUpdate_eq {s : Settings} (h : fault? s.redirectCookie = none) (u : CookieUpdate) :
    ofUpdate s u = .ok (fields s.redirectCookie u) := by
  cases u <;> simp only [ofUpdate, fields, h]

theorem ofUpdate_eq_ok {s : Settings} {u : CookieUpdate} {hs : List RawHeader}
    (h : ofUpdate s u = .ok hs) :
    hs = fields s.redirectCookie u ∧ (u = .keep ∨ fault? s.redirectCookie = none) := by
  cases hname : fault? s.redirectCookie with
  | none =>
    rw [ofUpdate_eq hname] at h
    exact ⟨(Except.ok.inj h).symm, .inr rfl⟩
  | some f =>
    cases u with
    | keep => exact ⟨(Except.ok.inj h).symm, .inl rfl⟩
    | _ =>
      simp only [ofUpdate, hname] at h
      cases h

end SetCookie

namespace Jar

open SetCookie

variable {name : String} {hs : List RawHeader}

theorem before_field (h : fault? name = none) {value : List Char} (hv : ';' ∉ value) (rest : List Char) :
    before ';' (name.toList ++ '=' :: (value ++ ';' :: rest)) = name.toList ++ '=' :: value := by
  have hs : ';' ∉ name.toList ++ '=' :: value := by
    simp [not_mem_name h (show isNameChar ';' = false by decide), hv]
  rw [← List.cons_append, ← List.append_assoc]
  exact before_append hs rest

theorem receive_field (h : fault? name = none) (j : Jar) {value : List Char} (hv : ';' ∉ value)
    (rest : List Char) :
    j.receive (name.toList ++ '=' :: (value ++ ';' :: rest)) =
      if occursIn "Max-Age=-1".toList (name.toList ++ '=' :: (value ++ ';' :: rest)) then j.erase name
      else j.put name (String.ofList value) := by
  have hn : '=' ∉ name.toList := not_mem_name h (by decide)
  rw [receive, before_field h hv, before_append hn, after, after?_append hn, String.ofList_toList]
  rfl

theorem receive_store (h : fault? name = none) (j : Jar) :
    j.receive (Latin1.ofBytes (store name).2) = j.put name "on" := by
  have hage : ¬ "Max-Age=-1".toList <:+: name.toList ++
      '=' :: ("on".toList ++ ';' :: " Path=/; SameSite=lax".toList) := by
    intro hin
    have := infix_of_infix_append (x := '=') (p := "-1".toList) (not_mem_name h (by decide))
      (List.IsInfix.trans ⟨"Max-Age".toList, [], rfl⟩ hin)
    exact absurd (occursIn_iff.2 this) (by decide)
  rw [ofBytes_store h, receive_field h j (by decide), if_neg (mt occursIn_iff.1 hage)]
  rfl

theorem receive_delete (h : fault? name = none) (j : Jar) :
    j.receive (Latin1.ofBytes (delete name).2) = j.erase name := by
  have hage : "Max-Age=-1".toList <:+: name.toList ++
      '=' :: ("\"\"".toList ++ ';' :: " Max-Age=-1; Path=/; SameSite=lax".toList) :=
    ⟨name.toList ++ "=\"\"; ".toList, "; Path=/; SameSite=lax".toList, by simp⟩
  rw [ofBytes_delete h, receive_field h j (by decide), if_pos (occursIn_iff.2 hage)]

/-- The name of the cookie that a `set-cookie` value is about. -/
def named (setCookie : List Char) : String := String.ofList (before '=' (before ';' setCookie))

theorem named_field (h : fault? name = none) {value : List Char} (hv : ';' ∉ value) (rest : List Char) :
    named (name.toList ++ '=' :: (value ++ ';' :: rest)) = name := by
  rw [named, before_field h hv, before_append (not_mem_name h (by decide)), String.ofList_toList]

/-- None of the fields is about the cookie `name`. -/
def Silent (name : String) (hs : List RawHeader) : Prop :=
  ∀ v ∈ Header.rawValues hs "set-cookie", named (Latin1.ofBytes v) ≠ name

instance : Decidable (Silent name hs) := inferInstanceAs (Decidable (∀ v ∈ _, _))

theorem get?_receive_of_ne (j : Jar) {v : List Char} (h : named v ≠ name) :
    (j.receive v).get? name = j.get? name := by
  unfold receive
  split
  · exact Table.get?_erase_of_ne j h.symm
  · exact Table.get?_put_of_ne j _ h.symm

theorem get?_receiveAll_of_silent (j : Jar) (h : Silent name hs) :
    (j.receiveAll hs).get? name = j.get? name := by
  unfold Silent at h
  unfold receiveAll
  generalize Header.rawValues hs "set-cookie" = vs at h ⊢
  induction vs generalizing j with
  | nil => rfl
  | cons v r ih =>
    rw [List.foldl_cons, ih _ fun w hw => h w (List.mem_cons_of_mem v hw)]
    exact get?_receive_of_ne j (h v List.mem_cons_self)

theorem receiveAll_append (j : Jar) (hs hs' : List RawHeader) :
    j.receiveAll (hs ++ hs') = (j.receiveAll hs).receiveAll hs' := by
  simp only [receiveAll, Header.rawValues, List.filter_append, List.map_append, List.foldl_append]

theorem receiveAll_setCookie (j : Jar) (value : String) :
    j.receiveAll [Header.raw "set-cookie" value] =
      j.receive (Latin1.ofBytes (Header.raw "set-cookie" value).2) := by
  have hname : Latin1.ofBytes (Header.raw "set-cookie" value).1 = "set-cookie".toList :=
    Header.ofBytes_raw_name (by decide) value
  simp [receiveAll, Header.rawValues, hname]

theorem get?_receiveAll_fields (h : fault? name = none) (j : Jar) (u : CookieUpdate) :
    (j.receiveAll (SetCookie.fields name u)).get? name = u.apply (j.get? name) := by
  cases u with
  | keep => rfl
  | set =>
    rw [SetCookie.fields, store, receiveAll_setCookie]
    exact (congrArg (Table.get? · name) (receive_store h j)).trans (Table.get?_put_self j name "on")
  | clear =>
    rw [SetCookie.fields, delete, receiveAll_setCookie]
    exact (congrArg (Table.get? · name) (receive_delete h j)).trans (Table.get?_erase_self j name)

/-- However many responses are started, what counts is the update that each of them carries. -/
theorem get?_foldl_receiveAll (h : fault? name = none) (u : CookieUpdate)
    {bases : List (List RawHeader)} (hne : bases ≠ []) (hs : ∀ b ∈ bases, Silent name b) (j : Jar) :
    ((bases.map (· ++ SetCookie.fields name u)).foldl receiveAll j).get? name =
      u.apply (j.get? name) := by
  have one : ∀ b ∈ bases, ∀ j : Jar,
      (j.receiveAll (b ++ SetCookie.fields name u)).get? name = u.apply (j.get? name) := by
    intro b hb j
    rw [receiveAll_append, get?_receiveAll_fields h, get?_receiveAll_of_silent j (hs b hb)]
  clear hs
  induction bases generalizing j with
  | nil => exact absurd rfl hne
  | cons b r ih =>
    rw [List.map_cons, List.foldl_cons]
    by_cases hr : r = []
    · subst hr
      exact one b List.mem_cons_self j
    · rw [ih hr _ fun x hx => one x (List.mem_cons_of_mem b hx), one b List.mem_cons_self,
        CookieUpdate.apply_apply]

end Jar

namespace Cookie

variable {name v : List Char} {hs : List RawHeader}

/-- The pieces between the semicolons of all `cookie` fields. -/
def sent (hs : List RawHeader) : List (List Char) :=
  (Header.rawValues hs "cookie").flatMap fun v => (Latin1.ofBytes v).splitOn ';'

/-- A piece that is a cookie of another name, or of none. -/
def OtherThan (name piece : List Char) : Prop := '=' ∈ piece → trim (before '=' piece) ≠ name

instance (name piece : List Char) : Decidable (OtherThan name piece) := inferInstanceAs (Decidable (_ → _))

/-- The fields hold the cookie `name` with the value `v`, maybe between blanks, and all other cookies
that they hold have other names. -/
def Holds (name v : List Char) (hs : List RawHeader) : Prop :=
  ∃ a l r b, sent hs = a ++ (l ++ (name ++ '=' :: v) ++ r) :: b ∧ (∀ c ∈ l, isBlank c = true) ∧
    (∀ c ∈ r, isBlank c = true) ∧ ∀ p ∈ a ++ b, OtherThan name p

/-- All cookies that the fields hold have other names. -/
def Lacks (name : List Char) (hs : List RawHeader) : Prop := ∀ p ∈ sent hs, OtherThan name p

instance : Decidable (Lacks name hs) := inferInstanceAs (Decidable (∀ p ∈ _, _))

theorem ofHeaders_eq (hs : List RawHeader) : ofHeaders hs = Table.ofEntries
    (((sent hs).filterMap piece?).map fun p => (String.ofList p.1, String.ofList p.2)) := by
  rw [ofHeaders, sent, List.filterMap_flatMap]
  rfl

theorem piece?_of_otherThan {p : List Char} {q : List Char × List Char} (hn : name ≠ [])
    (hp : OtherThan name p) (hq : piece? p = some q) : q.1 ≠ name := by
  unfold piece? at hq
  cases he : after? '=' p with
  | none =>
    rw [he] at hq
    simp only at hq
    split at hq
    · cases hq
    · cases hq
      exact hn.symm
  | some w =>
    rw [he] at hq
    simp only at hq
    split at hq
    · cases hq
    · cases hq
      refine hp (Decidable.of_not_not fun hno => ?_)
      rw [after?_eq_none hno] at he
      cases he

theorem key_ne_of_otherThan {ps : List (List Char)} (hn : name ≠ []) (h : ∀ p ∈ ps, OtherThan name p) :
    ∀ e ∈ (ps.filterMap piece?).map fun q => (String.ofList q.1, String.ofList q.2),
      e.1 ≠ String.ofList name := by
  intro e he
  obtain ⟨q, hq, rfl⟩ := List.mem_map.1 he
  obtain ⟨p, hp, hpq⟩ := List.mem_filterMap.1 hq
  exact fun heq => piece?_of_otherThan hn (h p hp) hpq (String.ofList_injective heq)

theorem get?_ofHeaders_of_lacks (hn : name ≠ []) (h : Lacks name hs) :
    (ofHeaders hs).get? (String.ofList name) = none := by
  rw [ofHeaders_eq]
  exact Table.get?_ofEntries_of_ne (key_ne_of_otherThan hn h)

theorem piece?_pair {l r : List Char} (hn : name ≠ []) (hname : ∀ c ∈ name, c ≠ '=' ∧ isBlank c = false)
    (hv : ∀ c ∈ v, isBlank c = false) (hq : v.head? ≠ some '"') (hl : ∀ c ∈ l, isBlank c = true)
    (hr : ∀ c ∈ r, isBlank c = true) : piece? (l ++ (name ++ '=' :: v) ++ r) = some (name, v) := by
  have heq : '=' ∉ l ++ name := by
    intro hm
    rcases List.mem_append.1 hm with hm | hm
    · exact absurd (hl _ hm) (by decide)
    · exact (hname _ hm).1 rfl
  have hsplit : l ++ (name ++ '=' :: v) ++ r = l ++ name ++ '=' :: (v ++ r) := by simp
  have htrim : trim (l ++ name) = name := by
    rw [← List.append_nil (l ++ name)]
    exact trimOf_append hl (fun c hc => (hname c hc).2) (fun _ hc => absurd hc List.not_mem_nil)
  have htrim' : trim (v ++ r) = v := trimOf_append (l := []) (fun _ hc => absurd hc List.not_mem_nil) hv hr
  have hvalue : value v = v := by
    cases v with
    | nil => rfl
    | cons c v' =>
      unfold value
      split
      · next heq => cases heq; exact absurd rfl hq
      · rfl
  rw [piece?, hsplit, after?_append heq, before_append heq]
  simp only [htrim, htrim', hvalue, List.isEmpty_iff, hn, Bool.and_eq_true, false_and, if_false]

/-- The value of a cookie is read as it was sent, whatever stands around it. -/
theorem get?_ofHeaders_of_holds (hn : name ≠ []) (hname : ∀ c ∈ name, c ≠ '=' ∧ isBlank c = false)
    (hv : ∀ c ∈ v, isBlank c = false) (hq : v.head? ≠ some '"') (h : Holds name v hs) :
    (ofHeaders hs).get? (String.ofList name) = some (String.ofList v) := by
  obtain ⟨a, l, r, b, hsent, hl, hr, hother⟩ := h
  rw [ofHeaders_eq, hsent, List.filterMap_append, List.filterMap_cons_some (piece?_pair hn hname hv hq hl hr),
    List.map_append, List.map_cons]
  exact Table.get?_ofEntries_append _
    (key_ne_of_otherThan hn fun p hp => hother p (List.mem_append_right a hp))

end Cookie

end Changeover
