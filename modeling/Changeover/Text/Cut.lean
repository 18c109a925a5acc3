/-!
# Cutting lists at a mark

The part before the first mark, the part after it, the part after the last one, and the search for
a run of elements. Nothing is lost by a cut: `before_append_after`.
-/

namespace Changeover.Text

variable {α : Type} [BEq α]

/-- The elements before the first `c`; all of them when there is none. -/
def before (c : α) (l : List α) : List α :=
  l.takeWhile (· != c)

/-- The elements after the first `c`, if there is one. -/
def after? (c : α) (l : List α) : Option (List α) :=
  match l.dropWhile (· != c) with
  | [] => none
  | _ :: r => some r

/-- The elements after the first `c`; none when there is none. -/
def after (c : α) (l : List α) : List α :=
  (after? c l).getD []

/-- The elements after the last `c`; all of them when there is none. -/
def afterLast (c : α) (l : List α) : List α :=
  (before c l.reverse).reverse

/-- Whether `p` stands somewhere in `l`, its elements side by side. -/
def occursIn (p : List α) : List α → Bool
  | [] => p.isEmpty
  | x :: r => p.isPrefixOf (x :: r) || occursIn p r

theorem not_mem_before [LawfulBEq α] (c : α) (l : List α) : c ∉ before c l := by
  induction l with
  | nil => simp [before]
  | cons x r ih =>
    by_cases hx : x = c
    · simp [before, hx]
    · simpa [before, hx, Ne.symm hx] using ih

theorem after?_eq_none [LawfulBEq α] {c : α} {l : List α} (h : c ∉ l) : after? c l = none := by
  induction l with
  | nil => rfl
  | cons x r ih =>
    obtain ⟨hx, hr⟩ := not_or.1 (mt List.mem_cons.2 h)
    simpa [after?, Ne.symm hx] using ih hr

theorem before_append_after [LawfulBEq α] {c : α} {l : List α} (h : c ∈ l) :
    before c l ++ c :: after c l = l := by
  induction l with
  | nil => cases h
  | cons x r ih =>
    by_cases hx : x = c
    · subst hx
      simp [before, after, after?]
    · have hr : c ∈ r := (List.mem_cons.1 h).resolve_left (Ne.symm hx)
      simpa [before, after, after?, hx] using ih hr

theorem before_append [LawfulBEq α] {c : α} {a : List α} (h : c ∉ a) (b : List α) :
    before c (a ++ c :: b) = a := by
  induction a with
  | nil => simp [before]
  | cons x r ih =>
    obtain ⟨hx, hr⟩ := not_or.1 (mt List.mem_cons.2 h)
    simpa [before, Ne.symm hx] using ih hr

theorem after?_append [LawfulBEq α] {c : α} {a : List α} (h : c ∉ a) (b : List α) :
    after? c (a ++ c :: b) = some b := by
  induction a with
  | nil => simp [after?]
  | cons x r ih =>
    obtain ⟨hx, hr⟩ := not_or.1 (mt List.mem_cons.2 h)
    simpa [after?, Ne.symm hx] using ih hr

theorem before_eq_self [LawfulBEq α] {c : α} {a : List α} (h : c ∉ a) : before c a = a := by
  induction a with
  | nil => rfl
  | cons x r ih =>
    obtain ⟨hx, hr⟩ := not_or.1 (mt List.mem_cons.2 h)
    simpa [before, Ne.symm hx] using ih hr

theorem before_append_of_not_mem [LawfulBEq α] {c : α} {a : List α} (h : c ∉ a) (b : List α) :
    before c (a ++ b) = a ++ before c b :=
  List.takeWhile_append_of_pos fun _ hx => bne_iff_ne.2 fun hxc => h (hxc ▸ hx)

theorem not_mem_afterLast [LawfulBEq α] (c : α) (l : List α) : c ∉ afterLast c l := by
  intro h
  exact not_mem_before c l.reverse (List.mem_reverse.1 h)

theorem afterLast_append_of_not_mem [LawfulBEq α] {c : α} {b : List α} (h : c ∉ b) (a : List α) :
    afterLast c (a ++ b) = afterLast c a ++ b := by
  have hb : c ∉ b.reverse := fun hc => h (List.mem_reverse.1 hc)
  rw [afterLast, List.reverse_append, before_append_of_not_mem hb, List.reverse_append,
    List.reverse_reverse, ← afterLast]

theorem afterLast_suffix (c : α) (l : List α) : afterLast c l <:+ l := by
  obtain ⟨s, hs⟩ : before c l.reverse <+: l.reverse := List.takeWhile_prefix _
  refine ⟨s.reverse, ?_⟩
  rw [afterLast, ← List.reverse_append, hs, List.reverse_reverse]

theorem cons_afterLast_suffix [LawfulBEq α] {c : α} {l : List α} (h : c ∈ l) :
    c :: afterLast c l <:+ l := by
  have hl := congrArg List.reverse (before_append_after (List.mem_reverse.2 h))
  refine ⟨(after c l.reverse).reverse, ?_⟩
  simpa [afterLast] using hl

theorem occursIn_iff [LawfulBEq α] {p l : List α} : occursIn p l = true ↔ p <:+: l := by
  induction l with
  | nil => simp [occursIn]
  | cons x r ih => rw [occursIn, Bool.or_eq_true, ih, List.isPrefixOf_iff_prefix, List.infix_cons_iff]

omit [BEq α] in
/-- A sign that a text does not hold cannot begin a run across the end of that text. -/
theorem infix_of_infix_append {x : α} {p n l : List α} (hx : x ∉ n) (h : x :: p <:+: n ++ l) :
    x :: p <:+: l := by
  induction n with
  | nil => exact h
  | cons y n ih =>
    obtain ⟨hxy, hn⟩ := not_or.1 (mt List.mem_cons.2 hx)
    rcases List.infix_cons_iff.1 h with h | h
    · exact absurd (List.cons_prefix_cons.1 h).1 hxy
    · exact ih hn h

end Changeover.Text
