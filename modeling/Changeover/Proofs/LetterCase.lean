import Changeover.Proofs.HeaderGroups

/-!
# Letter case across ASCII

To change the case of a character leads from ASCII into ASCII, and from outside to outside, with few exceptions. Into
small ASCII letters lead the Kelvin sign and the dotted capital, which leaves its dot behind (`lowerChar_cases`). Into
ASCII capitals lead ten characters, of which the sharp `s` and the ligatures become several letters
(`upperChar_cases`). So a text in capitals is an ASCII name exactly if it spells the name, letter by letter or with one
of these ten (`upper_eq_iff_spells`).
-/

namespace Changeover.Text

theorem toLower_of_not_capital {c : Char} (h : ¬ (65 ≤ c.toNat ∧ c.toNat ≤ 90)) : c.toLower = c :=
  dif_neg h

theorem toNat_toLower_of_capital {c : Char} (h : 65 ≤ c.toNat ∧ c.toNat ≤ 90) :
    c.toLower.toNat = c.toNat + 32 := by
  have hlower : c.toLower.toNat = (c.val + 32).toNat := congrArg Char.toNat (dif_pos h)
  have hsum : (c.val + 32).toNat = (c.toNat + 32) % 4294967296 := UInt32.toNat_add c.val 32
  omega

namespace Case

theorem partner?_eq_some {ranges : List (Nat × Nat × Nat × Nat)} {n m : Nat} (h : partner? ranges n = some m) :
    ∃ r ∈ ranges, r.1 ≤ n ∧ n ≤ r.2.1 ∧ m = r.2.2.2 + (n - r.1) := by
  obtain ⟨r, hr, hm⟩ := Option.map_eq_some_iff.1 h
  have hin := List.find?_some hr
  simp only [Bool.and_eq_true, decide_eq_true_eq] at hin
  exact ⟨r, List.mem_of_find?_eq_some hr, hin.1.1, hin.1.2, hm.symm⟩

theorem beyond_ofNat {n : Nat} (hv : n.isValidChar) (h : 128 ≤ n) : 128 ≤ (Char.ofNat n).toNat := by
  rw [Char.ofNat, dif_pos hv]
  exact h

/-- A range of letters lies in ASCII, is one of the exceptions, or leads to characters beyond ASCII. -/
def LeadsBeyond (exceptions : List (Nat × Nat)) (r : Nat × Nat × Nat × Nat) : Prop :=
  r.2.1 < 128 ∨ r.1 = r.2.1 ∧ (r.1, r.2.2.2) ∈ exceptions ∨
    128 ≤ r.2.2.2 ∧ r.2.2.2 + (r.2.1 - r.1) < 0xD800 ∨ 0xDFFF < r.2.2.2 ∧ r.2.2.2 + (r.2.1 - r.1) < 0x110000

instance (exceptions : List (Nat × Nat)) (r : Nat × Nat × Nat × Nat) : Decidable (LeadsBeyond exceptions r) :=
  inferInstanceAs (Decidable (_ ∨ _))

/-- The characters beyond ASCII whose capitals are in ASCII: the dotless `i`, the long `s`, the sharp `s` and the
ligatures. -/
def otherForms : List (Char × String) :=
  [('\u0131', "I"), ('\u017f', "S"), ('\u00df', "SS"), ('\ufb00', "FF"), ('\ufb01', "FI"), ('\ufb02', "FL"),
    ('\ufb03', "FFI"), ('\ufb04', "FFL"), ('\ufb05', "ST"), ('\ufb06', "ST")]

/-- The exceptions are the Kelvin sign among what has a small letter, and among what has capitals the other forms, two of
which have only one. -/
theorem tables_leadBeyond : (∀ r ∈ lowerRanges, LeadsBeyond [(0x212A, 107)] r) ∧
    (∀ r ∈ upperRanges, LeadsBeyond [(0x131, 0x49), (0x17F, 0x53)] r) ∧
    ∀ e ∈ upperExpansions, (∃ form ∈ otherForms, form.1 = Char.ofNat e.1) ∨
      ∃ n ∈ e.2, 128 ≤ n ∧ n < 0xD800 := by
  decide +kernel

theorem partner_of_leadsBeyond {exceptions : List (Nat × Nat)} {ranges : List (Nat × Nat × Nat × Nat)}
    (h : ∀ r ∈ ranges, LeadsBeyond exceptions r) {c : Char} (hc : 128 ≤ c.toNat) :
    (∃ m, (c.toNat, m) ∈ exceptions ∧ ((partner? ranges c.toNat).map Char.ofNat).getD c = Char.ofNat m) ∨
      128 ≤ (((partner? ranges c.toNat).map Char.ofNat).getD c).toNat := by
  cases hp : partner? ranges c.toNat with
  | none => exact .inr hc
  | some m =>
    obtain ⟨r, hr, hlo, hhi, hm⟩ := partner?_eq_some hp
    rcases h r hr with h | ⟨heq, hmem⟩ | h | h
    · omega
    · have hn : c.toNat = r.1 := by omega
      have hfirst : m = r.2.2.2 := by omega
      exact .inl ⟨m, by rw [hn, hfirst]; exact hmem, rfl⟩
    · exact .inr (beyond_ofNat (.inl (by omega)) (by omega))
    · exact .inr (beyond_ofNat (.inr ⟨by omega, by omega⟩) (by omega))

/-- The small letter of a character is that of an ASCII character, or that of the Kelvin sign, or not ASCII. -/
def SmallOf (c d : Char) : Prop :=
  c.toNat < 128 ∧ d = c.toLower ∨ c.toNat = 0x212A ∧ d = 'k' ∨ 128 ≤ d.toNat

theorem lowerChar_cases (c : Char) :
    (c.toNat = 0x130 ∧ lowerChar c = ['i', Char.ofNat 0x307]) ∨ ∃ d, lowerChar c = [d] ∧ SmallOf c d := by
  by_cases hc : c.toNat < 128
  · exact .inr ⟨_, lowerChar_ascii hc, .inl ⟨hc, rfl⟩⟩
  by_cases hdotted : c.toNat = 0x130
  · exact .inl ⟨hdotted, by rw [lowerChar, hdotted]; rfl⟩
  refine .inr ⟨_, by rw [lowerChar, beq_false_of_ne hdotted]; rfl, ?_⟩
  rcases partner_of_leadsBeyond tables_leadBeyond.1 (Nat.not_lt.1 hc) with ⟨m, hm, hd⟩ | h
  · obtain ⟨hn, rfl⟩ : c.toNat = 0x212A ∧ m = 107 := by simpa using hm
    exact .inr (.inl ⟨hn, hd⟩)
  · exact .inr (.inr h)

theorem lowerFrom_cons_cases (before : List Char) (c : Char) (s : List Char) :
    (c.toNat = 0x130 ∧
      lowerFrom before (c :: s) = 'i' :: Char.ofNat 0x307 :: lowerFrom (c :: before) s) ∨
      ∃ d, lowerFrom before (c :: s) = d :: lowerFrom (c :: before) s ∧ SmallOf c d := by
  by_cases hsigma : c = sigma
  · refine .inr ⟨Char.ofNat (if meetsCased before && !meetsCased s then 0x3C2 else 0x3C3), ?_, .inr (.inr ?_)⟩
    · rw [lowerFrom, hsigma]
      rfl
    · split <;> decide
  · have hsmall : lowerFrom before (c :: s) = lowerChar c ++ lowerFrom (c :: before) s := by
      simp only [lowerFrom, beq_false_of_ne hsigma]
      rfl
    rcases lowerChar_cases c with ⟨hc, h⟩ | ⟨d, h, hd⟩
    · exact .inl ⟨hc, by rw [hsmall, h]; rfl⟩
    · exact .inr ⟨d, by rw [hsmall, h]; rfl, hd⟩

theorem upperChar_otherForms : ∀ form ∈ otherForms, upperChar form.1 = form.2.toList := by
  decide

/-- The capitals of a character are that of an ASCII character, or those of one of the other forms, or not all ASCII. -/
theorem upperChar_cases (c : Char) :
    (c.toNat < 128 ∧ upperChar c = [c.toUpper]) ∨ (∃ letters, (c, letters) ∈ otherForms) ∨
      ∃ d ∈ upperChar c, 128 ≤ d.toNat := by
  obtain ⟨-, hranges, hexpansions⟩ := tables_leadBeyond
  have hsingle : ∀ e ∈ [(0x131, 0x49), (0x17F, 0x53)], ∃ form ∈ otherForms, form.1 = Char.ofNat e.1 := by decide
  have hknown (h : ∃ form ∈ otherForms, form.1 = Char.ofNat c.toNat) : ∃ letters, (c, letters) ∈ otherForms := by
    obtain ⟨form, hform, hfirst⟩ := h
    rw [Char.ofNat_toNat] at hfirst
    exact ⟨form.2, hfirst ▸ hform⟩
  by_cases hc : c.toNat < 128
  · exact .inl ⟨hc, upperChar_ascii hc⟩
  cases hl : upperExpansions.lookup c.toNat with
  | some l =>
    obtain ⟨before, after, happ, -⟩ := List.lookup_eq_some_iff.1 hl
    rcases hexpansions (c.toNat, l) (by simp [happ]) with h | ⟨n, hn, hlo, hhi⟩
    · exact .inr (.inl (hknown h))
    · refine .inr (.inr ⟨Char.ofNat n, ?_, beyond_ofNat (.inl hhi) hlo⟩)
      rw [upperChar, hl]
      exact List.mem_map_of_mem hn
  | none =>
    rcases partner_of_leadsBeyond hranges (Nat.not_lt.1 hc) with ⟨m, hm, -⟩ | h
    · exact .inr (.inl (hknown (hsingle _ hm)))
    · exact .inr (.inr ⟨_, by rw [upperChar, hl]; exact List.mem_singleton_self _, h⟩)

end Case

/-- The text is the name in whatever case: each of its characters is in ASCII and has a capital there, or is one of the
other forms of some letters. -/
inductive Spells : List Char → List Char → Prop
  | nil : Spells [] []
  | ascii {c : Char} {text name : List Char} :
      c.toNat < 128 → Spells text name → Spells (c :: text) (c.toUpper :: name)
  | form {c : Char} {letters : String} {text name : List Char} :
      (c, letters) ∈ Case.otherForms → Spells text name → Spells (c :: text) (letters.toList ++ name)

theorem Spells.self {name : List Char} (h : ∀ c ∈ name, c.toNat < 128 ∧ c.toUpper = c) : Spells name name := by
  induction name with
  | nil => exact .nil
  | cons c name ih =>
    obtain ⟨⟨hc, hcapital⟩, hrest⟩ := List.forall_mem_cons.1 h
    have := Spells.ascii hc (ih hrest)
    rwa [hcapital] at this

theorem Spells.upper_eq {text name : List Char} (h : Spells text name) : upper text = name := by
  induction h with
  | nil => rfl
  | @ascii c text name hc _ ih =>
    show Case.upperChar c ++ upper text = _
    rw [Case.upperChar_ascii hc, ih]
    rfl
  | @form c letters text name hform _ ih =>
    show Case.upperChar c ++ upper text = _
    rw [Case.upperChar_otherForms _ hform, ih]

theorem upper_eq_iff_spells {text name : List Char} (h : ∀ c ∈ name, c.toNat < 128) :
    upper text = name ↔ Spells text name := by
  constructor
  · intro hupper
    induction text generalizing name with
    | nil =>
      subst hupper
      exact .nil
    | cons c text ih =>
      have hcons : Case.upperChar c ++ upper text = name := hupper
      subst hcons
      obtain ⟨hfirst, hrest⟩ := List.forall_mem_append.1 h
      have htext := ih hrest rfl
      rcases Case.upperChar_cases c with ⟨hc, hup⟩ | ⟨letters, hform⟩ | ⟨d, hd, hbeyond⟩
      · rw [hup]
        exact .ascii hc htext
      · rw [Case.upperChar_otherForms _ hform]
        exact .form hform htext
      · have := hfirst d hd
        omega
  · exact Spells.upper_eq

end Changeover.Text
