import Changeover.Proofs.LetterCase
import Mathlib.Data.List.Forall2

/-!
# Names of robots

A client is taken for a robot if its name is blank or holds a run of characters that stand, one by one, for those
of a word (`isRobotName_iff`). A character stands for a small letter if it is one of its two cases or one of four
letters of other alphabets (`fold_eq_iff`). Whatever surrounds a run leaves it where it is, and since case is
dropped from each character on its own, the case of the letters does not matter.

To look for a word in the text in small letters finds nothing else (`infix_of_infix_lower`): beyond ASCII only the
Kelvin sign and the dotted capital have a small letter in ASCII, and the latter leaves its dot behind, which is no
part of a word.
-/

namespace Changeover

open Text

namespace Robot

variable {c d : Char} {word run text : List Char}

/-- Letters of other alphabets that count as a letter: two for `i`, the sign for degrees Kelvin and the long `s`. -/
def lookalikes : List (Char × Char) :=
  [('i', Char.ofNat 0x130), ('i', Char.ofNat 0x131), ('k', Char.ofNat 0x212A), ('s', Char.ofNat 0x17F)]

/-- The second character stands for the first one, which is no capital. -/
def Stands (c d : Char) : Prop := d.toLower = c ∨ (c, d) ∈ lookalikes

/-- The word stands somewhere in the text, its characters side by side, in whatever case. -/
def Names (word text : List Char) : Prop := ∃ run, run <:+: text ∧ List.Forall₂ Stands word run

theorem fold_ascii (h : d.toNat < 128) : fold d = d.toLower := by
  have hne {n : Nat} (hn : 128 ≤ n) : (d.toNat == n) = false := beq_false_of_ne (by omega)
  simp only [fold, hne (show 128 ≤ 0x130 by decide), hne (show 128 ≤ 0x131 by decide),
    hne (show 128 ≤ 0x212A by decide), hne (show 128 ≤ 0x17F by decide)]
  rfl

theorem fold_eq_iff (hc : c.toNat < 128) : fold d = c ↔ Stands c d := by
  have hforeign : ∀ p ∈ lookalikes, 128 ≤ p.2.toNat ∧ fold p.2 = p.1 := by decide
  by_cases hd : d.toNat < 128
  · have hnone : (c, d) ∉ lookalikes := fun hm => Nat.not_lt.2 (hforeign _ hm).1 hd
    rw [fold_ascii hd, Stands, or_iff_left hnone]
  · have hself : d.toLower = d := toLower_of_not_capital (by omega)
    have hne : d ≠ c := fun h => hd (h ▸ hc)
    rw [Stands, hself, or_iff_right hne]
    refine ⟨fun h => ?_, fun hm => (hforeign _ hm).2⟩
    have hnum {n : Nat} (hn : (d.toNat == n) = true) : d = Char.ofNat n := by
      rw [← beq_iff_eq.1 hn, Char.ofNat_toNat]
    unfold fold at h
    split at h
    · next hi =>
      subst h
      rcases Bool.or_eq_true_iff.1 hi with hi | hi <;> rw [hnum hi] <;> simp [lookalikes]
    split at h
    · next hk =>
      subst h
      rw [hnum hk]
      simp [lookalikes]
    split at h
    · next hs =>
      subst h
      rw [hnum hs]
      simp [lookalikes]
    · exact absurd (hself.symm.trans h) hne

theorem map_fold_eq_iff (hw : ∀ c ∈ word, c.toNat < 128) :
    run.map fold = word ↔ List.Forall₂ Stands word run := by
  induction word generalizing run with
  | nil => simp
  | cons c word ih =>
    obtain ⟨hc, hw⟩ := List.forall_mem_cons.1 hw
    cases run with
    | nil => simp
    | cons d run => rw [List.map_cons, List.cons.injEq, List.forall₂_cons, ih hw, fold_eq_iff hc]

theorem infix_map_fold_iff (hw : ∀ c ∈ word, c.toNat < 128) : word <:+: text.map fold ↔ Names word text := by
  rw [List.infix_map_iff, Names]
  refine exists_congr fun run => and_congr_right fun _ => ?_
  rw [eq_comm, map_fold_eq_iff hw]

theorem Names.append (h : Names word text) (x y : List Char) : Names word (x ++ text ++ y) := by
  obtain ⟨run, hrun, hword⟩ := h
  exact ⟨run, hrun.trans (List.infix_append x text y), hword⟩

theorem fold_of_smallOf (h : Case.SmallOf c d) (hd : d.toNat < 128) : fold c = d := by
  rcases h with ⟨hc, rfl⟩ | ⟨hc, rfl⟩ | h
  · exact fold_ascii hc
  · rw [fold, hc]
    rfl
  · omega

/-- What an ASCII text in small letters begins with was there in some case. -/
theorem prefix_of_prefix_lower (hw : ∀ c ∈ word, c.toNat < 128) {before : List Char}
    (h : word <+: Case.lowerFrom before text) : ∃ run, run <+: text ∧ run.map fold = word := by
  induction text generalizing word before with
  | nil => exact ⟨[], List.nil_prefix, (List.prefix_nil.1 h).symm⟩
  | cons c text ih =>
    cases word with
    | nil => exact ⟨[], List.nil_prefix, rfl⟩
    | cons x word =>
      obtain ⟨hx, hrest⟩ := List.forall_mem_cons.1 hw
      rcases Case.lowerFrom_cons_cases before c text with ⟨hc, hlower⟩ | ⟨d, hlower, hd⟩
      · rw [hlower, List.cons_prefix_cons] at h
        obtain ⟨rfl, h⟩ := h
        cases word with
        | nil => exact ⟨[c], by simp, by simp [fold, hc]⟩
        | cons y word =>
          -- the dot that is left behind is not ASCII
          obtain ⟨rfl, -⟩ := List.cons_prefix_cons.1 h
          exact absurd (hrest _ List.mem_cons_self) (by decide)
      · rw [hlower, List.cons_prefix_cons] at h
        obtain ⟨rfl, h⟩ := h
        obtain ⟨run, hrun, hfold⟩ := ih hrest h
        refine ⟨c :: run, List.cons_prefix_cons.2 ⟨rfl, hrun⟩, ?_⟩
        rw [List.map_cons, fold_of_smallOf hd hx, hfold]

theorem infix_of_infix_lower (hw : ∀ c ∈ word, c.toNat < 128) {before : List Char}
    (h : word <:+: Case.lowerFrom before text) : word <:+: text.map fold := by
  have hfront (s before : List Char) (h : word <+: Case.lowerFrom before s) : word <:+: s.map fold := by
    obtain ⟨run, hrun, rfl⟩ := prefix_of_prefix_lower hw h
    exact (hrun.map fold).isInfix
  induction text generalizing before with
  | nil => exact hfront [] before (List.prefix_nil.2 (List.infix_nil.1 h))
  | cons c text ih =>
    have hlater (h : word <:+: Case.lowerFrom (c :: before) text) : word <:+: (c :: text).map fold :=
      List.infix_cons (ih h)
    rcases Case.lowerFrom_cons_cases before c text with ⟨-, hlower⟩ | ⟨d, hlower, -⟩
    · rw [hlower, List.infix_cons_iff, List.infix_cons_iff, ← hlower] at h
      rcases h with h | h | h
      · exact hfront _ _ h
      · cases word with
        | nil => exact List.nil_infix
        | cons x word =>
          obtain ⟨rfl, -⟩ := List.cons_prefix_cons.1 h
          exact absurd (hw _ List.mem_cons_self) (by decide)
      · exact hlater h
    · rw [hlower, List.infix_cons_iff, ← hlower] at h
      exact h.elim (hfront _ _) hlater

theorem tokens_ascii : ∀ t ∈ tokens, ∀ c ∈ t.toList, c.toNat < 128 := by
  have hall : ∀ t ∈ tokens, t.toList.all (fun c => decide (c.toNat < 128)) = true := by decide
  intro t ht
  exact forall_of_all (hall t ht)

theorem isRobotName_iff (agent : List Char) : isRobotName agent = true ↔
    (∀ c ∈ agent, isBlank c = true) ∨ ∃ t ∈ tokens, Names t.toList agent := by
  rw [isRobotName, Bool.or_eq_true, List.all_eq_true, List.any_eq_true]
  refine or_congr_right (exists_congr fun t => and_congr_right fun ht => ?_)
  rw [occursIn_iff, infix_map_fold_iff (tokens_ascii t ht)]

theorem fold_toLower (c : Char) : fold c.toLower = fold c := by
  by_cases hc : c.toNat < 128
  · have hsmall := (Case.cased_ascii hc).small
    rw [fold_ascii hsmall.1, fold_ascii hc, (Case.cased_ascii hsmall.1).lower_self hsmall]
  · rw [toLower_of_not_capital (by omega)]

theorem isBlank_toLower (c : Char) : isBlank c.toLower = isBlank c := by
  have hletter {d : Char} (h : 65 ≤ d.toNat ∧ d.toNat ≤ 122) : isBlank d = false := by
    simp only [isBlank, isSpace, Bool.or_eq_false_iff, Bool.and_eq_false_iff, decide_eq_false_iff_not,
      beq_eq_false_iff_ne]
    omega
  by_cases hc : 65 ≤ c.toNat ∧ c.toNat ≤ 90
  · have hsmall := toNat_toLower_of_capital hc
    rw [hletter (by omega), hletter (by omega)]
  · rw [toLower_of_not_capital hc]

theorem isRobotName_map_toLower (agent : List Char) : isRobotName (agent.map Char.toLower) = isRobotName agent := by
  have hfold : (agent.map Char.toLower).map fold = agent.map fold := by
    rw [List.map_map]
    exact List.map_congr_left fun c _ => fold_toLower c
  have hblank : (agent.map Char.toLower).all isBlank = agent.all isBlank := by
    rw [List.all_map]
    exact congrArg agent.all (funext isBlank_toLower)
  rw [isRobotName, isRobotName, hfold, hblank]

theorem lower_ascii {agent : List Char} (h : ∀ c ∈ agent, c.toNat < 128) : lower agent = agent.map fold := by
  rw [lower, Case.lowerFrom_ascii h]
  exact List.map_congr_left fun c hc => (fold_ascii (h c hc)).symm

/-- A name of a robot is blank or names a word. If it is ASCII, that is to hold the word once it is in small
letters. The case of ASCII letters does not matter. And a text that names a word, or holds one once it is in small
letters, makes a robot's name of whatever it is put into. -/
theorem isRobotName_law (agent : List Char) :
    (isRobotName agent = true ↔
      (∀ c ∈ agent, isBlank c = true) ∨ ∃ t ∈ tokens, Names t.toList agent) ∧
    ((∀ c ∈ agent, c.toNat < 128) → (isRobotName agent = true ↔
      (∀ c ∈ agent, isBlank c = true) ∨ ∃ t ∈ tokens, t.toList <:+: lower agent)) ∧
    (∀ other : List Char, agent.map Char.toLower = other.map Char.toLower →
      isRobotName agent = isRobotName other) ∧
    ∀ t ∈ tokens, Names t.toList agent ∨ t.toList <:+: lower agent →
      ∀ x y, isRobotName (x ++ agent ++ y) = true := by
  refine ⟨isRobotName_iff agent, fun hascii => ?_, fun other h => ?_, fun t ht h x y => ?_⟩
  · rw [isRobotName_iff, lower_ascii hascii]
    refine or_congr_right (exists_congr fun t => and_congr_right fun ht => ?_)
    rw [infix_map_fold_iff (tokens_ascii t ht)]
  · rw [← isRobotName_map_toLower, h, isRobotName_map_toLower]
  · have hnames : Names t.toList agent := by
      rcases h with h | h
      · exact h
      · exact (infix_map_fold_iff (tokens_ascii t ht)).1 (infix_of_infix_lower (tokens_ascii t ht) h)
    exact (isRobotName_iff _).2 (.inr ⟨t, ht, hnames.append x y⟩)

/-- Capitals, and a long `s` that no small letter of ASCII comes from. -/
theorem isRobotName_law_otherCases :
    (∀ c ∈ "CURL/8.4".toList, c.toNat < 128) ∧ "curl/".toList <:+: lower "CURL/8.4".toList ∧
      isRobotName "CURL/8.4".toList = true ∧
      "CURL/8.4".toList.map Char.toLower = "Curl/8.4".toList.map Char.toLower ∧
      isRobotName "Curl/8.4".toList = true ∧
      Names "slurp".toList "\u017fLURP".toList ∧
      isRobotName ("(".toList ++ "\u017fLURP".toList ++ ")".toList) = true := by
  have hascii : ∀ c ∈ "CURL/8.4".toList, c.toNat < 128 := forall_of_all (by decide)
  have hlower : "curl/".toList <:+: lower "CURL/8.4".toList := by
    rw [lower_ascii hascii]
    exact occursIn_iff.1 (by decide)
  have hcase : "CURL/8.4".toList.map Char.toLower = "Curl/8.4".toList.map Char.toLower := by decide
  have hnames : Names "slurp".toList "\u017fLURP".toList :=
    ⟨_, List.infix_rfl, (map_fold_eq_iff (tokens_ascii "slurp" (by decide))).1 (by decide)⟩
  obtain ⟨-, hiff, hother, -⟩ := isRobotName_law "CURL/8.4".toList
  obtain ⟨-, -, -, hput⟩ := isRobotName_law "\u017fLURP".toList
  have hcurl := (hiff hascii).2 (.inr ⟨"curl/", by decide, hlower⟩)
  exact ⟨hascii, hlower, hcurl, hcase, (hother _ hcase).symm.trans hcurl, hnames,
    hput "slurp" (by decide) (.inl hnames) _ _⟩

end Robot

end Changeover
