import Changeover.Proofs.RuleTable

/-!
# Vendored packages by segments

The vendor rule looks for runs of characters, but it means whole segments: `/vendor/` stands in a path, or `/vendor`
at its end, exactly if some segment after the first slash is the word `vendor` (`vendored_iff_hasVendorSegment`).
That holds of every word without the mark at which a text is cut (`Text.mem_tail_splitOn_iff`), by induction on the
text: at each mark the word may be what stands before the next one. What the other rules ask for has no such
segment, so the order of the rules decides nothing but for the last one (`ofPath_eq_iff_takes`).
-/

namespace Changeover

namespace Text

variable {α : Type} [BEq α] [LawfulBEq α] {m : α} {word l : List α}

theorem before_eq_iff (h : m ∉ word) : before m l = word ↔ word ++ [m] <+: l ∨ word = l := by
  constructor
  · rintro rfl
    by_cases hm : m ∈ l
    · have hl := before_append_after hm
      exact .inl ⟨after m l, by simpa using hl⟩
    · exact .inr (before_eq_self hm)
  · rintro (⟨rest, rfl⟩ | rfl)
    · rw [List.append_assoc]
      exact before_append h rest
    · exact before_eq_self h

theorem splitOn_eq_cons (m : α) (l : List α) : l.splitOn m = before m l :: (l.splitOn m).tail := by
  by_cases hm : m ∈ l
  · rw [← before_append_after hm, List.splitOn_append_cons_self_of_not_mem (not_mem_before m l),
      before_append (not_mem_before m l)]
    rfl
  · rw [List.splitOn_eq_singleton hm, before_eq_self hm]
    rfl

/-- A word is a part after a mark if it stands between two marks, or at the end after one. -/
theorem mem_tail_splitOn_iff (h : m ∉ word) :
    word ∈ (l.splitOn m).tail ↔ m :: word ++ [m] <:+: l ∨ m :: word <:+ l := by
  induction l with
  | nil => simp
  | cons x l ih =>
    rw [List.splitOn_cons_eq_if_modifyHead, List.infix_cons_iff, List.suffix_cons_iff, List.cons_append,
      List.cons_prefix_cons, List.cons.injEq]
    by_cases hx : x = m
    · subst hx
      -- the first part of the rest ends at its next mark, and the hypothesis is about the others
      have hparts : word ∈ l.splitOn x ↔ (word ++ [x] <+: l ∨ word = l) ∨ word ∈ (l.splitOn x).tail := by
        rw [splitOn_eq_cons, List.mem_cons, eq_comm, before_eq_iff h, List.tail_cons]
      rw [if_pos BEq.rfl, List.tail_cons, hparts, ih, List.cons_append]
      simp only [true_and]
      exact or_or_or_comm
    · have hne : ¬ (x == m) = true := by simpa using hx
      rw [if_neg hne, splitOn_eq_cons m l, List.modifyHead_cons, List.tail_cons, ih]
      simp [Ne.symm hx]

end Text

namespace Rule

variable {path : List Char} {rule : Rule}

/-- Some segment of the path after its first slash is the word `vendor`. -/
def HasVendorSegment (path : List Char) : Prop := "vendor".toList ∈ (path.splitOn '/').tail

/-- What a rule asks of the paths that it takes. -/
def Takes : Rule → List Char → Prop
  | .vendor, path => HasVendorSegment path
  | .stdlib, path => path = "/-/go".toList
  | .about, path => path = "/-/about".toList
  | .home, path => path = "/".toList
  | .subrepo, path => path = "/-/subrepo".toList
  | .package, path => ¬ HasVendorSegment path ∧ path ∉ listed

theorem vendored_iff_hasVendorSegment : Vendored path ↔ HasVendorSegment path := by
  have hword : '/' ∉ "vendor".toList := by decide
  exact (Text.mem_tail_splitOn_iff hword).symm

theorem isVendored_iff_hasVendorSegment : isVendored path = true ↔ HasVendorSegment path :=
  isVendored_iff.trans vendored_iff_hasVendorSegment

theorem takes_ofPath (path : List Char) : (ofPath path).Takes path := by
  unfold ofPath
  split
  · next hv => exact isVendored_iff_hasVendorSegment.1 hv
  next hv =>
  split
  · assumption
  next hg =>
  split
  · assumption
  next ha =>
  split
  · assumption
  next hr =>
  split
  · assumption
  next hs => exact ⟨mt isVendored_iff_hasVendorSegment.2 hv, not_mem_listed.2 ⟨hg, ha, hr, hs⟩⟩

theorem Takes.ofPath_eq (h : rule.Takes path) : ofPath path = rule := by
  cases rule with
  | vendor => rw [ofPath, if_pos (isVendored_iff_hasVendorSegment.2 h)]
  | stdlib => rw [show path = _ from h]; rfl
  | about => rw [show path = _ from h]; rfl
  | home => rw [show path = _ from h]; rfl
  | subrepo => rw [show path = _ from h]; rfl
  | package =>
    obtain ⟨hv, hl⟩ := h
    obtain ⟨hg, ha, hr, hs⟩ := not_mem_listed.1 hl
    rw [ofPath, if_neg (mt isVendored_iff_hasVendorSegment.1 hv), if_neg hg, if_neg ha, if_neg hr, if_neg hs]

theorem ofPath_eq_iff_takes : ofPath path = rule ↔ rule.Takes path := by
  constructor
  · rintro rfl
    exact takes_ofPath path
  · exact Takes.ofPath_eq

/-- The vendor rule takes the paths with a segment `vendor` after the first slash, and each other path has exactly one
of the other rules; which one it is says the condition of the rule, in whatever order the rules are tried. -/
theorem ofPath_by_segments (path : List Char) :
    (isVendored path = true ↔ HasVendorSegment path) ∧
    (ofPath path = .vendor ↔ HasVendorSegment path) ∧
    (¬ HasVendorSegment path ↔ ∃ rule : Rule, rule ≠ .vendor ∧ ∀ other : Rule, other.Takes path ↔ other = rule) ∧
    ∀ rule : Rule, ofPath path = rule ↔ rule.Takes path := by
  refine ⟨isVendored_iff_hasVendorSegment, ofPath_eq_iff_takes, ?_, fun rule => ofPath_eq_iff_takes⟩
  constructor
  · intro hv
    refine ⟨ofPath path, fun h => hv (ofPath_eq_iff_takes.1 h), fun other => ?_⟩
    rw [← ofPath_eq_iff_takes, eq_comm]
  · rintro ⟨rule, hrule, honly⟩ hv
    exact hrule ((honly .vendor).1 hv).symm

/-- Neither a longer name nor what stands before the first slash counts; empty segments in between do no harm. -/
example : isVendored "/some/vendored".toList = false ∧ isVendored "vendor/x".toList = false ∧
    isVendored "//vendor".toList = true ∧ isVendored "/a/vendor/vendor/".toList = true := by decide

end Rule

end Changeover
