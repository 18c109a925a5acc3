import Mathlib.Data.List.Basic
import Mathlib.Data.List.TakeWhile
import Mathlib.Tactic.SplitIfs
import Changeover.Json.Reader

/-!
# Written values read back

A value without binary numbers, whose objects name no member twice, is read back from its text as it was
(`Json.read?_print`), so different values have different texts (`Json.print_inj`). What is written of a
value is read with any rest after it that does not go on with a number.
-/

namespace Changeover

open Text

namespace Json

/-! ### Texts -/

theorem hex4?_fixed {n : Nat} (h : n < 32) :
    ∃ a b c d, Hex.fixed 4 n = [a, b, c, d] ∧ hex4? a b c d = some n := by
  have hall : ∀ k : Fin 32, ∃ a b, Hex.fixed 4 k.val = ['0', '0', a, b] ∧
      hex4? '0' '0' a b = some k.val := fun k =>
    ⟨Hex.lower (k.val / 16 % 16), Hex.lower (k.val % 16), by revert k; decide, by revert k; decide⟩
  obtain ⟨a, b, h⟩ := hall ⟨n, h⟩
  exact ⟨_, _, _, _, h⟩

theorem escape_cases (c : Char) :
    (∃ x, escape c = ['\\', x] ∧ escaped? x = some c ∧ x ≠ 'u') ∨
      (c.toNat < 32 ∧ escape c = '\\' :: 'u' :: Hex.fixed 4 c.toNat) ∨
      (escape c = [c] ∧ c ≠ '"' ∧ c ≠ '\\' ∧ 32 ≤ c.toNat) := by
  have hshort {x d : Char} (hx : escaped? x = some d) (hu : x ≠ 'u') (hd : c = d) :
      ∃ y, ['\\', x] = ['\\', y] ∧ escaped? y = some c ∧ y ≠ 'u' := ⟨x, rfl, hd ▸ hx, hu⟩
  generalize hl : escape c = l
  unfold escape at hl
  split_ifs at hl with hquote hback hb hf hn hr ht hlow <;> subst hl
  · exact .inl (hshort rfl (by decide) (eq_of_beq hquote))
  · exact .inl (hshort rfl (by decide) (eq_of_beq hback))
  · exact .inl (hshort rfl (by decide) (Char.toNat_inj.1 (eq_of_beq hb)))
  · exact .inl (hshort rfl (by decide) (Char.toNat_inj.1 (eq_of_beq hf)))
  · exact .inl (hshort rfl (by decide) (eq_of_beq hn))
  · exact .inl (hshort rfl (by decide) (eq_of_beq hr))
  · exact .inl (hshort rfl (by decide) (eq_of_beq ht))
  · exact .inr (.inl ⟨hlow, rfl⟩)
  · exact .inr (.inr ⟨rfl, by simpa using hquote, by simpa using hback, Nat.not_lt.1 hlow⟩)

theorem textFrom_escape (read : List Char) (c : Char) (s : List Char) :
    textFrom read none (escape c ++ s) = textFrom (c :: read) none s := by
  rcases escape_cases c with ⟨x, hx, hread, hu⟩ | ⟨hlow, hx⟩ | ⟨hx, hquote, hback, hlow⟩
  · rw [hx]
    exact textFrom.eq_4 read x s c (fun _ _ _ _ _ h => absurd h hu) hread
  · obtain ⟨x, y, z, w, hfixed, hread⟩ := hex4?_fixed hlow
    have hunit : unit? none c.toNat = some (some c, none) := by
      have h₁ : ¬ 0xD800 ≤ c.toNat := by omega
      have h₂ : ¬ 0xDC00 ≤ c.toNat := by omega
      simp [unit?, h₁, h₂]
    rw [hx, hfixed]
    simp only [List.cons_append, List.nil_append, textFrom.eq_3, hread, Option.bind_some, hunit]
    rfl
  · rw [hx, List.singleton_append, textFrom.eq_6 read none c s hquote
      (fun _ _ _ _ _ h => absurd h hback) (fun _ _ h => absurd h hback)]
    simp [hlow]

theorem textFrom_escaped (read s rest : List Char) :
    textFrom read none (s.flatMap escape ++ '"' :: rest) = some (String.ofList (read.reverse ++ s), rest) := by
  induction s generalizing read with
  | nil =>
    rw [List.append_nil]
    exact textFrom.eq_2 read none rest
  | cons c s ih =>
    rw [List.flatMap_cons, List.append_assoc, textFrom_escape, ih, List.reverse_cons, List.append_assoc]
    rfl

theorem textFrom_quote (s : String) (rest : List Char) :
    ∃ r, quote s ++ rest = '"' :: r ∧ textFrom [] none r = some (s, rest) := by
  refine ⟨s.toList.flatMap escape ++ '"' :: rest, ?_, ?_⟩
  · rw [quote, List.cons_append, List.append_assoc, List.singleton_append]
  · rw [textFrom_escaped, List.reverse_nil, List.nil_append, String.ofList_toList]

/-! ### Numbers -/

/-- A text that a number is not continued by. -/
def Stops (rest : List Char) : Prop := ∀ c ∈ rest.head?, isNumberChar c = false

theorem head?_toDigits {n : Nat} (h : n ≠ 0) : (Nat.toDigits 10 n).head? ≠ some '0' := by
  induction n using Nat.strongRecOn with
  | ind n ih =>
    rw [Nat.toDigits_eq_if (by decide)]
    split
    · next hlt =>
      have hall : ∀ k : Fin 10, k.val ≠ 0 → k.val.digitChar ≠ '0' := by decide
      simpa using hall ⟨n, hlt⟩ h
    · next hge =>
      rw [List.head?_append_of_ne_nil _ Nat.toDigits_ne_nil]
      exact ih (n / 10) (by omega) (by omega)

theorem isWhole_toDigits (n : Nat) : isWhole (Nat.toDigits 10 n) = true := by
  by_cases h : n = 0
  · rw [h]
    rfl
  · simp [isWhole, Nat.toDigits_ne_nil, head?_toDigits h]

theorem natOf_toDigits (n : Nat) : Decimal.natOf (Nat.toDigits 10 n) = n := Nat.ofDigitChars_ten_toDigits

theorem isDigit_of_mem_toDigits {n : Nat} {c : Char} (h : c ∈ Nat.toDigits 10 n) : c.isDigit = true :=
  Nat.isDigit_of_mem_toDigits (by decide) (by decide) h

theorem toString_toList (n : Int) : (toString n).toList =
    (if n < 0 then ['-'] else []) ++ Nat.toDigits 10 n.natAbs := by
  cases n with
  | ofNat m =>
    show m.repr.toList = _
    rw [Nat.repr_eq_ofList_toDigits, String.toList_ofList]
    rfl
  | negSucc m =>
    show ("-" ++ (m + 1).repr).toList = _
    rw [String.toList_append, Nat.repr_eq_ofList_toDigits, if_pos (Int.negSucc_lt_zero m)]
    exact congrArg ('-' :: ·) String.toList_ofList

theorem minus_toDigits (n : Nat) : minus (Nat.toDigits 10 n) = (false, Nat.toDigits 10 n) := by
  unfold minus
  split
  · next r h => exact absurd (isDigit_of_mem_toDigits (h ▸ List.mem_cons_self)) (by decide)
  · rfl

theorem number?_toString (n : Int) : number? (toString n).toList = some (.int n) := by
  have hminus : minus (toString n).toList = (decide (n < 0), Nat.toDigits 10 n.natAbs) := by
    rw [toString_toList]
    by_cases h : n < 0
    · simp [h, minus]
    · simp [h, minus_toDigits]
  have hdigits : ∀ c ∈ Nat.toDigits 10 n.natAbs, c.isDigit = true := fun c hc => isDigit_of_mem_toDigits hc
  have htake : (Nat.toDigits 10 n.natAbs).takeWhile Char.isDigit = Nat.toDigits 10 n.natAbs :=
    List.takeWhile_eq_self_iff.2 hdigits
  have hdrop : (Nat.toDigits 10 n.natAbs).dropWhile Char.isDigit = [] := List.dropWhile_eq_nil_iff.2 hdigits
  simp only [number?, hminus, htake, hdrop, isWhole_toDigits, natOf_toDigits]
  by_cases h : n < 0
  · simp only [h, decide_true, if_true, Bool.not_true, Bool.false_eq_true, if_false, List.isEmpty_nil]
    congr
    omega
  · simp only [h, decide_false, if_true, Bool.not_true, Bool.false_eq_true, if_false, List.isEmpty_nil]
    congr
    omega

theorem toString_cases (n : Int) : ∃ d t, d.isDigit = true ∧
    ((toString n).toList = d :: t ∨ (toString n).toList = '-' :: d :: t) := by
  obtain ⟨d, t, hdt⟩ := List.exists_cons_of_ne_nil (Nat.toDigits_ne_nil (n := n.natAbs) (b := 10))
  refine ⟨d, t, isDigit_of_mem_toDigits (hdt ▸ List.mem_cons_self), ?_⟩
  rw [toString_toList, hdt]
  split
  · exact .inr rfl
  · exact .inl rfl

theorem isNumberChar_of_mem_toString {n : Int} {c : Char} (h : c ∈ (toString n).toList) :
    isNumberChar c = true := by
  rw [toString_toList] at h
  rcases List.mem_append.1 h with h | h
  · split at h
    · rw [List.mem_singleton.1 h]
      rfl
    · cases h
  · simp [isNumberChar, isDigit_of_mem_toDigits h]

theorem find?_words_toString (n : Int) (rest : List Char) :
    words.find? (fun w => w.1.toList.isPrefixOf ((toString n).toList ++ rest)) = none := by
  obtain ⟨d, t, hd, h⟩ := toString_cases n
  have hletter {x : Char} (hx : x.isDigit = false) : (x == d) = false :=
    beq_eq_false_iff_ne.2 fun he => Bool.false_ne_true (hx.symm.trans (he ▸ hd))
  have hn := hletter (x := 'n') rfl
  have ht := hletter (x := 't') rfl
  have hf := hletter (x := 'f') rfl
  have hN := hletter (x := 'N') rfl
  have hI := hletter (x := 'I') rfl
  have hminus := hletter (x := '-') rfl
  rcases h with h | h <;> rw [h] <;> simp [words, List.find?, List.isPrefixOf, hn, ht, hf, hN, hI, hminus]

theorem scalar?_toString (n : Int) {rest : List Char} (h : Stops rest) :
    scalar? ((toString n).toList ++ rest) = some (.int n, rest) := by
  have hnumber : ∀ c ∈ (toString n).toList, isNumberChar c = true := fun c hc => isNumberChar_of_mem_toString hc
  have htake : rest.takeWhile isNumberChar = [] := by
    cases rest with
    | nil => rfl
    | cons c rest => exact List.takeWhile_cons_of_neg (by simp [h c rfl])
  have hdrop : rest.dropWhile isNumberChar = rest := by
    cases rest with
    | nil => rfl
    | cons c rest => exact List.dropWhile_cons_of_neg (by simp [h c rfl])
  rw [scalar?, find?_words_toString]
  simp only [List.takeWhile_append_of_pos hnumber, List.dropWhile_append_of_pos hnumber, htake, hdrop,
    List.append_nil, number?_toString, Option.map_some]

/-! ### Values -/

theorem skip_cons {c : Char} (h : 32 < c.toNat) (r : List Char) : skip (c :: r) = c :: r := by
  refine List.dropWhile_cons_of_neg ?_
  have hne {x : Char} (hx : x.toNat ≤ 32) : c ≠ x := fun he => Nat.not_lt.2 hx (he ▸ h)
  simp [hne (x := ' ') (by decide), hne (x := '\t') (by decide), hne (x := '\n') (by decide),
    hne (x := '\r') (by decide)]

/-- A value without binary numbers, whose objects name no member twice. -/
inductive Exact : Json → Prop
  | null : Exact .null
  | bool (b : Bool) : Exact (.bool b)
  | int (n : Int) : Exact (.int n)
  | text (s : String) : Exact (.text s)
  | array {items : List Json} : (∀ v ∈ items, Exact v) → Exact (.array items)
  | object {members : List (String × Json)} : Table.Distinct members → (∀ m ∈ members, Exact m.2) →
      Exact (.object members)

theorem Exact.render_cons {v : Json} (h : Exact v) :
    ∃ c t, v.render = c :: t ∧ 32 < c.toNat ∧ c ≠ ']' := by
  cases h with
  | null => exact ⟨_, _, rfl, by decide, by decide⟩
  | bool b => cases b <;> exact ⟨_, _, rfl, by decide, by decide⟩
  | int n =>
    obtain ⟨d, t, hd, h⟩ := toString_cases n
    rcases h with h | h
    · refine ⟨d, t, h, ?_, ?_⟩
      · exact Nat.lt_of_lt_of_le (by decide : 32 < '0'.toNat) (Char.isDigit_iff_toNat.1 hd).1
      · rintro rfl
        cases hd
    · exact ⟨_, _, h, by decide, by decide⟩
  | text s => exact ⟨_, _, rfl, by decide, by decide⟩
  | array _ => exact ⟨_, _, rfl, by decide, by decide⟩
  | object _ _ => exact ⟨_, _, rfl, by decide, by decide⟩

theorem Exact.skip_render {v : Json} (h : Exact v) (rest : List Char) :
    skip (v.render ++ rest) = v.render ++ rest := by
  obtain ⟨c, t, ht, hc, -⟩ := h.render_cons
  rw [ht]
  exact skip_cons hc _

/-- A value is read from what is written of it, whatever follows that is no part of a number. -/
def Reads (v : Json) : Prop :=
  ∀ fuel rest, v.render.length ≤ fuel → Stops rest → value? fuel (v.render ++ rest) = some (v, rest)

theorem stops_cons {c : Char} (h : isNumberChar c = false) (rest : List Char) : Stops (c :: rest) := by
  rintro _ ⟨⟩
  exact h

theorem renderItems_cons_cons (v w : Json) (r : List Json) :
    renderItems (v :: w :: r) = v.render ++ ',' :: renderItems (w :: r) := rfl

theorem renderItems_cons (v : Json) (r : List Json) : ∃ t, renderItems (v :: r) = v.render ++ t := by
  cases r with
  | nil => exact ⟨[], (List.append_nil _).symm⟩
  | cons w r => exact ⟨_, rfl⟩

theorem items?_render {items : List Json} (hne : items ≠ []) (hall : ∀ v ∈ items, Exact v ∧ Reads v)
    (fuel : Nat) (read : List Json) (rest : List Char) (hf : (renderItems items).length < fuel) :
    items? fuel read (renderItems items ++ ']' :: rest) = some (read.reverse ++ items, rest) := by
  -- each item takes one unit of fuel, and what is written of it is no shorter
  induction items generalizing fuel read with
  | nil => exact absurd rfl hne
  | cons v items ih =>
    obtain ⟨fuel, rfl⟩ := Nat.exists_eq_add_one_of_ne_zero (Nat.ne_zero_of_lt hf)
    obtain ⟨-, hv⟩ := hall v List.mem_cons_self
    cases items with
    | nil =>
      have hread := hv fuel (']' :: rest) (Nat.le_of_lt_succ hf) (stops_cons rfl rest)
      simp only [renderItems, items?, hread, skip_cons (c := ']') (by decide), List.reverse_cons]
    | cons w items =>
      rw [renderItems_cons_cons, List.length_append, List.length_cons] at hf
      have hread := hv fuel (',' :: (renderItems (w :: items) ++ ']' :: rest)) (by omega) (stops_cons rfl _)
      have hskip : skip (renderItems (w :: items) ++ ']' :: rest) =
          renderItems (w :: items) ++ ']' :: rest := by
        obtain ⟨t, ht⟩ := renderItems_cons w items
        rw [ht, List.append_assoc]
        exact (hall w (List.mem_cons_of_mem v List.mem_cons_self)).1.skip_render _
      have hrest := ih (List.cons_ne_nil w items) (fun x hx => hall x (List.mem_cons_of_mem v hx)) fuel
        (v :: read) (by omega)
      rw [renderItems_cons_cons, List.append_assoc, List.cons_append]
      simp only [items?, hread, skip_cons (c := ',') (by decide), hskip, hrest, List.reverse_cons,
        List.append_assoc, List.singleton_append]

theorem renderMembers_cons_cons (m n : String × Json) (r : List (String × Json)) :
    renderMembers (m :: n :: r) = quote m.1 ++ ':' :: (m.2.render ++ ',' :: renderMembers (n :: r)) := rfl

theorem renderMembers_cons (m : String × Json) (r : List (String × Json)) :
    ∃ t, renderMembers (m :: r) = '"' :: t := by
  cases r with
  | nil => exact ⟨_, rfl⟩
  | cons n r => exact ⟨_, rfl⟩

theorem members?_render {members : List (String × Json)} (hne : members ≠ [])
    (hall : ∀ m ∈ members, Exact m.2 ∧ Reads m.2) (fuel : Nat) (read : List (String × Json))
    (rest : List Char) (hf : (renderMembers members).length < fuel) :
    members? fuel read (renderMembers members ++ '\x7d' :: rest) = some (read.reverse ++ members, rest) := by
  -- each member takes one unit of fuel, and what is written of it is longer
  induction members generalizing fuel read with
  | nil => exact absurd rfl hne
  | cons m members ih =>
    obtain ⟨fuel, rfl⟩ := Nat.exists_eq_add_one_of_ne_zero (Nat.ne_zero_of_lt hf)
    obtain ⟨hexact, hm⟩ := hall m List.mem_cons_self
    cases members with
    | nil =>
      rw [renderMembers, List.length_append, List.length_cons] at hf
      have hread := hm fuel ('\x7d' :: rest) (by omega) (stops_cons rfl rest)
      obtain ⟨r, hr, htext⟩ := textFrom_quote m.1 (':' :: (m.2.render ++ '\x7d' :: rest))
      rw [renderMembers, List.append_assoc, List.cons_append, hr]
      simp only [members?, htext, Option.map_some, skip_cons (c := ':') (by decide), hexact.skip_render, hread,
        skip_cons (c := '\x7d') (by decide), List.reverse_cons]
    | cons n members =>
      rw [renderMembers_cons_cons, List.length_append, List.length_cons, List.length_append,
        List.length_cons] at hf
      have hread := hm fuel (',' :: (renderMembers (n :: members) ++ '\x7d' :: rest)) (by omega)
        (stops_cons rfl _)
      have hskip : skip (renderMembers (n :: members) ++ '\x7d' :: rest) =
          renderMembers (n :: members) ++ '\x7d' :: rest := by
        obtain ⟨t, ht⟩ := renderMembers_cons n members
        rw [ht]
        exact skip_cons (by decide) _
      have hrest := ih (List.cons_ne_nil n members) (fun x hx => hall x (List.mem_cons_of_mem m hx)) fuel
        (m :: read) (by omega)
      obtain ⟨r, hr, htext⟩ := textFrom_quote m.1
        (':' :: (m.2.render ++ ',' :: (renderMembers (n :: members) ++ '\x7d' :: rest)))
      rw [renderMembers_cons_cons, List.append_assoc, List.cons_append, List.append_assoc, List.cons_append, hr]
      simp only [members?, htext, Option.map_some, skip_cons (c := ':') (by decide), hexact.skip_render, hread,
        skip_cons (c := ',') (by decide), hskip, hrest, List.reverse_cons, List.append_assoc,
        List.singleton_append]

theorem value?_word {c : Char} (h : c ≠ '"' ∧ c ≠ '[' ∧ c ≠ '\x7b') (fuel : Nat) (r : List Char) :
    value? (fuel + 1) (c :: r) = scalar? (c :: r) := by
  rw [value?.eq_4 _ _ _ h.1 h.2.1, if_neg (by simpa using h.2.2)]

theorem reads_word {v : Json} {c : Char} {t : List Char} (hc : c ≠ '"' ∧ c ≠ '[' ∧ c ≠ '\x7b')
    (ht : v.render = c :: t)
    (h : ∀ rest, Stops rest → scalar? (v.render ++ rest) = some (v, rest)) : Reads v := by
  intro fuel rest hf hr
  rw [ht, List.length_cons] at hf
  obtain ⟨fuel, rfl⟩ := Nat.exists_eq_add_one_of_ne_zero (Nat.ne_zero_of_lt hf)
  rw [← h rest hr, ht]
  exact value?_word hc fuel _

/-- Every such value is read from what is written of it. -/
theorem Exact.reads {v : Json} (h : Exact v) : Reads v := by
  induction h with
  | null => exact reads_word (by decide) rfl fun rest _ => rfl
  | bool b => cases b <;> exact reads_word (by decide) rfl fun rest _ => rfl
  | int n =>
    obtain ⟨d, t, hd, ht | ht⟩ := toString_cases n
    · have hne {x : Char} (hx : x.isDigit = false) : d ≠ x := fun he =>
        Bool.false_ne_true (hx.symm.trans (he ▸ hd))
      exact reads_word ⟨hne rfl, hne rfl, hne rfl⟩ ht fun _ => scalar?_toString n
    · exact reads_word (by decide) ht fun _ => scalar?_toString n
  | text s =>
    intro fuel rest hf _
    obtain ⟨fuel, rfl⟩ := Nat.exists_eq_add_one_of_ne_zero (Nat.ne_zero_of_lt hf)
    obtain ⟨r, hr, htext⟩ := textFrom_quote s rest
    rw [render, hr, value?.eq_2, htext]
    rfl
  | @array items h ih =>
    intro fuel rest hf _
    rw [render, List.length_cons, List.length_append] at hf
    obtain ⟨fuel, rfl⟩ := Nat.exists_eq_add_one_of_ne_zero (Nat.ne_zero_of_lt hf)
    rw [render, List.cons_append, List.append_assoc, List.singleton_append, value?.eq_3]
    cases items with
    | nil => rfl
    | cons v items =>
      have hread := items?_render (List.cons_ne_nil v items) (fun x hx => ⟨h x hx, ih x hx⟩) fuel [] rest
        (by simp at hf; omega)
      obtain ⟨c, t, hc, hlow, hclose⟩ := (h v List.mem_cons_self).render_cons
      obtain ⟨u, hu⟩ := renderItems_cons v items
      rw [hu, hc] at hread ⊢
      simp only [List.cons_append, List.append_assoc, skip_cons hlow] at hread ⊢
      simp [hclose, hread]
  | @object members hdistinct h ih =>
    intro fuel rest hf _
    rw [render, List.length_cons, List.length_append] at hf
    obtain ⟨fuel, rfl⟩ := Nat.exists_eq_add_one_of_ne_zero (Nat.ne_zero_of_lt hf)
    rw [render, List.cons_append, List.append_assoc, List.singleton_append,
      value?.eq_4 _ _ _ (by decide) (by decide), if_pos (beq_self_eq_true _)]
    cases members with
    | nil => rfl
    | cons m members =>
      have hread := members?_render (List.cons_ne_nil m members) (fun x hx => ⟨h x hx, ih x hx⟩) fuel [] rest
        (by simp at hf; omega)
      obtain ⟨u, hu⟩ := renderMembers_cons m members
      rw [hu] at hread ⊢
      simp only [List.cons_append, skip_cons (c := '"') (by decide)] at hread ⊢
      simp [hread, Table.ofEntries_eq_self hdistinct]

/-- The text of such a value reads as the value. -/
theorem read?_print {v : Json} (h : Exact v) : read? v.print = some v := by
  have hlist : v.print.toList = v.render := String.toList_ofList
  have hskip : skip v.render = v.render := by simpa using h.skip_render []
  have hread := h.reads (2 * v.render.length + 1) [] (by omega) nofun
  rw [List.append_nil] at hread
  simp only [read?, hlist, hskip, hread]
  rfl

theorem print_inj {v w : Json} (hv : Exact v) (hw : Exact w) : v.print = w.print ↔ v = w := by
  constructor
  · intro h
    have hread := read?_print hv
    rw [h, read?_print hw] at hread
    exact (Option.some.inj hread).symm
  · rintro rfl
    rfl

end Json

end Changeover
