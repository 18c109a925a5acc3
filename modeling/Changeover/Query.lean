import Changeover.Text.Cut
import Changeover.Text.Percent

/-!
# Query strings

A query string is a list of pieces between `&`s; a piece is a name and a value around its first `=`,
both with `+` for the space and percent escapes. Empty pieces are skipped, and a piece without `=`
has the empty value. Main statement: `parse_render`, for any names and values whatever.
-/

namespace Changeover.Query

open Text

/-- A name and its value. -/
abbrev Pair := List Char × List Char

/-- Reads one side of a piece. -/
def decodePart (s : List Char) : List Char :=
  Percent.decode (s.map fun c => if c == '+' then ' ' else c)

/-- Reads one piece. -/
def piece (s : List Char) : Pair := (decodePart (before '=' s), decodePart (after '=' s))

/-- The parameters of a query string, in order. -/
def parse (s : List Char) : List Pair :=
  ((s.splitOn '&').filter (!·.isEmpty)).map piece

/-- The value of the first parameter of that name. -/
def first? (name : List Char) (ps : List Pair) : Option (List Char) :=
  (ps.find? (·.1 == name)).map (·.2)

/-- Whether some parameter has that name. -/
def mentions (name : List Char) (ps : List Pair) : Bool := ps.any (·.1 == name)

/-- One character of a name or value as it is written. -/
def encodeChar (c : Char) : List Char :=
  if c == ' ' then ['+'] else Percent.encodeChar Percent.unreserved c

/-- Writes one side of a piece. -/
def encodePart (s : List Char) : List Char := s.flatMap encodeChar

/-- Writes one parameter. -/
def encodePair (p : Pair) : List Char := encodePart p.1 ++ '=' :: encodePart p.2

/-- Writes parameters in order. -/
def render (ps : List Pair) : List Char := ['&'].intercalate (ps.map encodePair)

/-! ### Reading what was written -/

theorem isAlphanum_ascii {c : Char} (h : c.isAlphanum = true) : c.toNat < 128 ∧ c ≠ '%' := by
  have h' : (decide (c.val ≥ 65 ∧ c.val ≤ 90) || (decide (c.val ≥ 97) && decide (c.val ≤ 122)) ||
      (decide (c.val ≥ 48) && decide (c.val ≤ 57))) = true := h
  simp only [Bool.or_eq_true, Bool.and_eq_true, decide_eq_true_eq, ge_iff_le,
    UInt32.le_iff_toNat_le] at h'
  have hv : c.toNat = c.val.toNat := rfl
  constructor
  · simp at h'
    omega
  · rintro rfl
    simp at h'

theorem unreserved_keepable : Percent.Keepable Percent.unreserved := by
  intro c h
  simp only [Percent.unreserved, Bool.or_eq_true, beq_iff_eq] at h
  rcases h with (((h | rfl) | rfl) | rfl) | rfl
  · exact isAlphanum_ascii h
  all_goals decide

theorem unreserved_upper {n : Nat} (hn : n < 16) : Percent.unreserved (Hex.upper n) = true := by
  have : ∀ k : Fin 16, Percent.unreserved (Hex.upper k) = true := by decide
  exact this ⟨n, hn⟩

theorem encodePart_chars {c : Char} {s : List Char} (h : c ∈ encodePart s) :
    c = '+' ∨ c = '%' ∨ Percent.unreserved c = true := by
  obtain ⟨x, _, hx⟩ := List.mem_flatMap.1 h
  by_cases h₁ : x = ' '
  · simp [encodeChar, h₁] at hx
    exact .inl hx
  · rw [encodeChar, if_neg (by simpa using h₁)] at hx
    rcases Percent.encodeChar_chars hx with h | h | ⟨n, hn, rfl⟩
    · exact .inr (.inr h)
    · exact .inr (.inl h)
    · exact .inr (.inr (unreserved_upper hn))

theorem not_mem_encodePart {c : Char} (h : c ≠ '+' ∧ c ≠ '%' ∧ Percent.unreserved c = false)
    (s : List Char) : c ∉ encodePart s := by
  intro hc
  rcases encodePart_chars hc with h' | h' | h'
  · exact h.1 h'
  · exact h.2.1 h'
  · simp [h.2.2] at h'

/-- What is kept once the sign for the space has been read. -/
def keptOrSpace (c : Char) : Bool := Percent.unreserved c || c == ' '

theorem keptOrSpace_keepable : Percent.Keepable keptOrSpace := by
  intro c h
  simp only [keptOrSpace, Bool.or_eq_true, beq_iff_eq] at h
  rcases h with h | rfl
  · exact unreserved_keepable c h
  · decide

theorem plus_read (s : List Char) :
    ((encodePart s).map fun c => if c == '+' then ' ' else c) = Percent.encode keptOrSpace s := by
  induction s with
  | nil => rfl
  | cons x r ih =>
    have h₁ : encodePart (x :: r) = encodeChar x ++ encodePart r := rfl
    have h₂ : Percent.encode keptOrSpace (x :: r) =
        Percent.encodeChar keptOrSpace x ++ Percent.encode keptOrSpace r := rfl
    rw [h₁, h₂, List.map_append, ih]
    congr 1
    by_cases hx : x = ' '
    · subst hx
      decide
    · have hk : keptOrSpace x = Percent.unreserved x := by simp [keptOrSpace, hx]
      have he : encodeChar x = Percent.encodeChar Percent.unreserved x := by simp [encodeChar, hx]
      have hs : Percent.encodeChar keptOrSpace x = Percent.encodeChar Percent.unreserved x := by
        simp [Percent.encodeChar, hk]
      rw [he, hs]
      refine (List.map_congr_left fun c hc => ?_).trans (List.map_id _)
      have hp : c ≠ '+' := by
        rintro rfl
        rcases Percent.encodeChar_chars hc with h | h | ⟨n, hn, h⟩
        · exact absurd h (by decide)
        · exact absurd h (by decide)
        · exact absurd (h ▸ unreserved_upper hn) (by decide)
      simp [hp]

theorem decodePart_encodePart (s : List Char) : decodePart (encodePart s) = s := by
  rw [decodePart, plus_read, Percent.decode_encode keptOrSpace_keepable]

theorem piece_encodePair (p : Pair) : piece (encodePair p) = p := by
  have h : '=' ∉ encodePart p.1 := not_mem_encodePart (by decide) _
  simp only [piece, encodePair, before_append h, after, after?_append h, Option.getD_some,
    decodePart_encodePart]

/-- Parameters that are written read back, whatever their names and values. -/
theorem parse_render (ps : List Pair) : parse (render ps) = ps := by
  cases ps with
  | nil => rfl
  | cons p r =>
    have hsep : ∀ l ∈ (p :: r).map encodePair, '&' ∉ l := by
      intro l hl
      obtain ⟨x, _, rfl⟩ := List.mem_map.1 hl
      simp only [encodePair, List.mem_append, List.mem_cons, not_or]
      exact ⟨not_mem_encodePart (by decide) _, by decide, not_mem_encodePart (by decide) _⟩
    have hne : ∀ l ∈ (p :: r).map encodePair, (!l.isEmpty) = true := by
      intro l hl
      obtain ⟨x, _, rfl⟩ := List.mem_map.1 hl
      simp [encodePair]
    rw [parse, render, List.splitOn_intercalate '&' hsep (by simp), List.filter_eq_self.2 hne,
      List.map_map]
    exact (List.map_congr_left fun x _ => piece_encodePair x).trans (List.map_id _)

end Changeover.Query
