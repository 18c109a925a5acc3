import Changeover.Query
import Changeover.Url.Host
import Changeover.Url.Split

/-!
# Hosts as authorities

What a client may name as its host is made of signs that neither end an authority nor split one
(`plain_of_isHost`), and its brackets stand around an address. So it is acceptable as the authority of a
URL (`checkAuthority_of_isHost`).
-/

namespace Changeover

open Text

namespace Text

theorem of_ascii {P : Char → Prop} (h : ∀ n : Fin 128, P (Char.ofNat n)) {c : Char}
    (hc : c.toNat < 128) : P c := by
  have := h ⟨c.toNat, hc⟩
  rwa [Char.ofNat_toNat] at this

theorem forall_of_all {P : Char → Prop} [DecidablePred P] {s : List Char}
    (h : s.all (fun c => decide (P c)) = true) : ∀ c ∈ s, P c :=
  fun c hc => of_decide_eq_true (List.all_eq_true.1 h c hc)

theorem Hex.isDigit_ascii {c : Char} (h : isDigit c = true) : c.toNat < 128 := by
  have hle : c ≤ 'f' := by
    unfold isDigit value? at h
    split at h
    · next hd => simp at hd; exact Char.le_trans hd.2 (by decide)
    split at h
    · next hd => simp at hd; exact Char.le_trans hd.2 (by decide)
    split at h
    · next hd => simp at hd; exact hd.2
    · cases h
  exact Nat.lt_of_le_of_lt (show c.toNat ≤ 'f'.toNat from hle) (by decide)

theorem mem_intercalate {c x : Char} {ps : List (List Char)} (h : c ∈ [x].intercalate ps) :
    c = x ∨ ∃ p ∈ ps, c ∈ p := by
  induction ps with
  | nil => cases h
  | cons p ps ih =>
    cases ps with
    | nil =>
      have : c ∈ p := by simpa using h
      exact .inr ⟨p, List.mem_singleton_self p, this⟩
    | cons q qs =>
      rw [List.intercalate_cons_cons, List.append_assoc] at h
      rcases List.mem_append.1 h with h | h
      · exact .inr ⟨p, List.mem_cons_self, h⟩
      rcases List.mem_append.1 h with h | h
      · exact .inl (List.mem_singleton.1 h)
      · rcases ih h with h | ⟨r, hr, h⟩
        · exact .inl h
        · exact .inr ⟨r, List.mem_cons_of_mem p hr, h⟩

theorem mem_splitOn {c x : Char} {s : List Char} (h : c ∈ s) : c = x ∨ ∃ p ∈ s.splitOn x, c ∈ p :=
  mem_intercalate (by rwa [List.intercalate_splitOn x])

end Text

namespace Url

/-- A visible ASCII character that neither ends an authority nor splits one nor is a bracket. -/
def Plain (c : Char) : Prop :=
  0x20 < c.toNat ∧ c.toNat < 128 ∧ endsAuthority c = false ∧ c ≠ '@' ∧ c ≠ '[' ∧ c ≠ ']'

instance (c : Char) : Decidable (Plain c) := inferInstanceAs (Decidable (_ ∧ _))

section Characters

variable {c : Char} {s : List Char}

theorem isNameChar_ascii (h : isNameChar c = true) : c.toNat < 128 := by
  rcases Bool.or_eq_true_iff.1 h with h | h
  · exact (Query.unreserved_keepable c h).1
  · have : "!$&'()*+,;=".toList.all (·.toNat < 128) = true := by decide
    exact of_decide_eq_true (List.all_eq_true.1 this c (List.contains_iff_mem.1 h))

theorem plain_of_isNameChar (h : isNameChar c = true) : Plain c :=
  of_ascii (P := fun c => isNameChar c = true → Plain c) (by decide +kernel) (isNameChar_ascii h) h

theorem plain_of_hexDigit (h : Hex.isDigit c = true) : Plain c ∧ c ≠ ':' :=
  of_ascii (P := fun c => Hex.isDigit c = true → Plain c ∧ c ≠ ':') (by decide +kernel)
    (Hex.isDigit_ascii h) h

theorem plain_of_isDigit (h : c.isDigit = true) : Plain c ∧ c ≠ ':' :=
  of_ascii (P := fun c => c.isDigit = true → Plain c ∧ c ≠ ':') (by decide +kernel)
    (Query.isAlphanum_ascii (by simp [Char.isAlphanum, h])).1 h

theorem plain_of_isEscapedName (h : isEscapedName s = true) : ∀ c ∈ s, Plain c := by
  fun_induction isEscapedName s with
  | case1 => exact fun _ hc => absurd hc List.not_mem_nil
  | case2 a b r ih =>
    obtain ⟨⟨ha, hb⟩, hr⟩ := by simpa [Bool.and_eq_true] using h
    intro c hc
    simp only [List.mem_cons] at hc
    rcases hc with rfl | rfl | rfl | hc
    · decide
    · exact (plain_of_hexDigit ha).1
    · exact (plain_of_hexDigit hb).1
    · exact ih hr c hc
  | case3 x r hx ih =>
    obtain ⟨hn, hr⟩ := Bool.and_eq_true_iff.1 h
    intro c hc
    rcases List.mem_cons.1 hc with rfl | hc
    · exact plain_of_isNameChar hn
    · exact ih hr c hc

theorem plain_of_isServicePart (h : isServicePart s = true) : ∀ c ∈ s, Plain c := by
  unfold isServicePart at h
  split at h
  · exact fun _ hc => absurd hc List.not_mem_nil
  · next ds =>
    simp only [Bool.and_eq_true, List.all_eq_true] at h
    intro c hc
    rcases List.mem_cons.1 hc with rfl | hc
    · decide
    · exact (plain_of_isDigit (h.1.2 c hc)).1
  · cases h

theorem plain_of_isFutureHost (h : isFutureHost s = true) : ∀ c ∈ s, Plain c := by
  unfold isFutureHost at h
  split at h
  · next x r hd =>
    simp only [Bool.and_eq_true, List.all_eq_true, Bool.or_eq_true, beq_iff_eq] at h
    intro c hc
    rw [← List.takeWhile_append_dropWhile (p := Hex.isDigit) (l := s), hd] at hc
    rcases List.mem_append.1 hc with hc | hc
    · exact (plain_of_hexDigit (List.all_eq_true.1 List.all_takeWhile c hc)).1
    rcases List.mem_cons.1 hc with rfl | hc
    · decide
    · rcases h.2 c hc with hn | rfl
      · exact plain_of_isNameChar hn
      · decide
  · cases h

theorem plain_of_isIpv4 (h : isIpv4 s = true) : ∀ c ∈ s, Plain c ∧ c ≠ ':' := by
  simp only [isIpv4, Bool.and_eq_true, List.all_eq_true] at h
  intro c hc
  rcases mem_splitOn (x := '.') hc with rfl | ⟨p, hp, hc⟩
  · decide
  · have := h.2 p hp
    simp only [isOctet, Bool.and_eq_true, List.all_eq_true] at this
    exact plain_of_isDigit (this.1.1.2 c hc)

theorem plain_of_isHextet (h : isHextet s = true) : ∀ c ∈ s, Plain c := by
  simp only [isHextet, Bool.and_eq_true, List.all_eq_true] at h
  exact fun c hc => (plain_of_hexDigit (h.2 c hc)).1

theorem plain_of_sideGroups {side : List (List Char)} {n : Nat} (h : sideGroups side = some n) :
    ∀ p ∈ side, ∀ c ∈ p, Plain c := by
  unfold sideGroups at h
  split at h
  · next hs =>
    rw [beq_iff_eq.1 hs]
    simp
  split at h
  · next hs => exact fun p hp => plain_of_isHextet (List.all_eq_true.1 hs p hp)
  · cases h

theorem plain_of_areGroups {groups : List (List Char)} (h : areGroups groups = true) :
    ∀ p ∈ groups, ∀ c ∈ p, Plain c := by
  unfold areGroups at h
  simp only at h
  split at h
  · next hgap =>
    have hmem : ([] : List Char) ∈ groups.tail :=
      List.dropLast_subset _ (List.contains_iff_mem.1 hgap)
    unfold gappedGroups at h
    split at h
    · next m n hhi hlo =>
      intro p hp
      cases groups with
      | nil => cases hp
      | cons g rest =>
        rw [List.tail_cons] at hmem hhi hlo
        rw [← before_append_after hmem] at hp
        rcases List.mem_cons.1 hp with rfl | hp
        · exact plain_of_sideGroups hhi p (by simp)
        rcases List.mem_append.1 hp with hp | hp
        · exact plain_of_sideGroups hhi p (by simp [hp])
        rcases List.mem_cons.1 hp with rfl | hp
        · exact fun c hc => absurd hc List.not_mem_nil
        · exact plain_of_sideGroups hlo p hp
    · cases h
  · simp only [fullGroups, Bool.and_eq_true, List.all_eq_true] at h
    exact fun p hp => plain_of_isHextet (h.2 p hp)

theorem plain_of_hextets? {parts groups : List (List Char)} (h : hextets? parts = some groups)
    (hg : areGroups groups = true) : ∀ p ∈ parts, ∀ c ∈ p, Plain c := by
  have hplain := plain_of_areGroups hg
  unfold hextets? at h
  split at h
  · cases h
  · next l r hrev =>
    have hparts : parts = r.reverse ++ [l] := by
      rw [← List.reverse_reverse parts, hrev, List.reverse_cons]
    split at h
    · split at h
      · next h4 =>
        obtain rfl := Option.some.inj h
        intro p hp
        rw [hparts] at hp
        rcases List.mem_append.1 hp with hp | hp
        · exact hplain p (List.mem_append_left _ hp)
        · rw [List.mem_singleton.1 hp]
          exact fun c hc => (plain_of_isIpv4 h4 c hc).1
      · cases h
    · obtain rfl := Option.some.inj h
      exact hplain

theorem plain_of_isIpv6 (h : isIpv6 s = true) (hz : '%' ∉ s) : ∀ c ∈ s, Plain c := by
  simp only [isIpv6, Bool.and_eq_true] at h
  have hg := h.1.2
  rw [before_eq_self hz] at hg
  simp only [isIpv6Groups, Bool.and_eq_true] at hg
  intro c hc
  rcases mem_splitOn (x := ':') hc with rfl | ⟨p, hp, hc⟩
  · decide
  · cases hh : hextets? (s.splitOn ':') with
    | none => simp [hh] at hg
    | some groups =>
      simp only [hh, Bool.and_eq_true] at hg
      exact plain_of_hextets? hh hg.2.2 p hp c hc

theorem plain_of_isNumericHost (h : isNumericHost s = true) : ∀ c ∈ s, Plain c := by
  unfold isNumericHost at h
  split at h
  · next r =>
    intro c hc
    rcases List.mem_cons.1 hc with rfl | hc
    · decide
    · exact plain_of_isFutureHost h c hc
  · simp only [Bool.and_eq_true, Bool.not_eq_true'] at h
    refine plain_of_isIpv6 h.1 fun hm => ?_
    rw [List.contains_iff_mem.2 hm] at h
    cases h.2

end Characters

section Authority

variable {host : List Char}

/-- The shape of a host: a plain name, or a numeric one in brackets, and the number of a service. -/
theorem isHost_cases (h : isHost host = true) : (∀ c ∈ host, Plain c) ∨
    ∃ address rest, host = '[' :: (address ++ ']' :: rest) ∧ isNumericHost address = true ∧
      isServicePart rest = true := by
  unfold isHost at h
  split at h
  · next r =>
    split at h
    · next rest hafter =>
      obtain ⟨hn, hs⟩ := Bool.and_eq_true_iff.1 h
      have hmem : ']' ∈ r := by
        refine Classical.byContradiction fun hm => ?_
        rw [after?_eq_none hm] at hafter
        cases hafter
      have hr := before_append_after hmem
      rw [after, hafter, Option.getD_some] at hr
      exact .inr ⟨_, rest, by rw [hr], hn, hs⟩
    · cases h
  · simp only [Bool.and_eq_true] at h
    obtain ⟨⟨-, hname⟩, hservice⟩ := h
    refine .inl fun c hc => ?_
    rw [← List.prefix_iff_eq_append.1 (List.takeWhile_prefix (l := host) (· != ':'))] at hc
    rcases List.mem_append.1 hc with hc | hc
    · exact plain_of_isEscapedName hname c hc
    · exact plain_of_isServicePart hservice c hc

theorem plain_of_isHost (h : isHost host = true) : ∀ c ∈ host, Plain c ∨ c = '[' ∨ c = ']' := by
  rcases isHost_cases h with hplain | ⟨address, rest, rfl, hn, hs⟩
  · exact fun c hc => .inl (hplain c hc)
  · intro c hc
    simp only [List.mem_cons, List.mem_append] at hc
    rcases hc with hc | hc | hc | hc
    · exact .inr (.inl hc)
    · exact .inl (plain_of_isNumericHost hn c hc)
    · exact .inr (.inr hc)
    · exact .inl (plain_of_isServicePart hs c hc)

theorem isFutureAddress_of_isFutureHost (h : isFutureHost host = true) : isFutureAddress host = true := by
  unfold isFutureHost at h
  split at h
  · next hd =>
    rw [isFutureAddress, hd]
    exact Bool.and_eq_true_iff.2 ⟨(Bool.and_eq_true_iff.1 h).1, rfl⟩
  · cases h

theorem isIpv4_eq_false_of_isIpv6 (h : isIpv6 host = true) : isIpv4 host = false := by
  refine Bool.eq_false_iff.2 fun h4 => ?_
  have hcolon : ':' ∉ before '%' host := fun hc =>
    (plain_of_isIpv4 h4 ':' (List.takeWhile_subset _ hc)).2 rfl
  simp only [isIpv6, isIpv6Groups, Bool.and_eq_true, decide_eq_true_eq] at h
  have := h.1.2.1
  rw [List.splitOn_eq_singleton hcolon] at this
  exact absurd this (by simp)

theorem checkBracketedHost_of_isNumericHost (h : isNumericHost host = true) :
    checkBracketedHost host = .ok () := by
  unfold isNumericHost at h
  split at h
  · exact if_pos (isFutureAddress_of_isFutureHost h)
  · next hv =>
    simp only [Bool.and_eq_true] at h
    rw [checkBracketedHost.eq_2 host hv, isIpv4_eq_false_of_isIpv6 h.1, h.1]
    rfl

theorem checkAmbiguous_of_ascii (h : ∀ c ∈ host, c.toNat < 128) : checkAmbiguous host = .ok () := by
  have hfar : ambiguousCodes.all (128 ≤ ·) = true := by decide
  refine if_neg fun hany => ?_
  obtain ⟨c, hc, hcode⟩ := List.any_eq_true.1 hany
  have := of_decide_eq_true (List.all_eq_true.1 hfar _ (List.contains_iff_mem.1 hcode))
  have := h c hc
  omega

theorem checkBrackets_numeric {address rest : List Char} (hn : isNumericHost address = true)
    (hs : isServicePart rest = true) : checkBrackets ('[' :: (address ++ ']' :: rest)) = .ok () := by
  have hclose : ']' ∉ address := fun hc => (plain_of_isNumericHost hn ']' hc).2.2.2.2.2 rfl
  have hat : '@' ∉ '[' :: (address ++ ']' :: rest) := by
    intro hc
    simp only [List.mem_cons, List.mem_append] at hc
    rcases hc with hc | hc | hc | hc
    · cases hc
    · exact (plain_of_isNumericHost hn '@' hc).2.2.2.1 rfl
    · cases hc
    · exact (plain_of_isServicePart hs '@' hc).2.2.2.1 rfl
  have hend : (!rest.isEmpty && rest.head? != some ':') = false := by
    unfold isServicePart at hs
    split at hs <;> first | rfl | cases hs
  have hplace : afterLast '@' ('[' :: (address ++ ']' :: rest)) = '[' :: (address ++ ']' :: rest) := by
    rw [afterLast, before_eq_self (mt List.mem_reverse.1 hat), List.reverse_reverse]
  have hinside : after? '[' ('[' :: (address ++ ']' :: rest)) = some (address ++ ']' :: rest) :=
    after?_append (a := []) List.not_mem_nil _
  have hbefore : before '[' ('[' :: (address ++ ']' :: rest)) = [] :=
    before_append (a := []) List.not_mem_nil _
  have hboth : checkBrackets ('[' :: (address ++ ']' :: rest)) =
      checkBracketed ('[' :: (address ++ ']' :: rest)) := by
    simp [checkBrackets]
  rw [hboth, checkBracketed, hplace, hinside]
  simp only [hbefore, after, after?_append hclose, before_append hclose, Option.getD_some, hend]
  exact checkBracketedHost_of_isNumericHost hn

theorem checkAuthority_of_isHost (h : isHost host = true) : checkAuthority host = .ok () := by
  have hbrackets : checkBrackets host = .ok () := by
    rcases isHost_cases h with hplain | ⟨address, rest, rfl, hn, hs⟩
    · have hopen : '[' ∉ host := fun hc => (hplain '[' hc).2.2.2.2.1 rfl
      have hclose : ']' ∉ host := fun hc => (hplain ']' hc).2.2.2.2.2 rfl
      simp [checkBrackets, hopen, hclose]
    · exact checkBrackets_numeric hn hs
  have hascii : ∀ c ∈ host, c.toNat < 128 := fun c hc => by
    rcases plain_of_isHost h c hc with hp | rfl | rfl
    · exact hp.2.1
    · decide
    · decide
  rw [checkAuthority, hbrackets]
  exact checkAmbiguous_of_ascii hascii

end Authority

end Url

end Changeover
