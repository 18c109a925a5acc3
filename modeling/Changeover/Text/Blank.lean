/-!
# Blank characters

The characters that trimming removes: the controls tab to carriage return and the four information
separators, the spaces of every width, and the line and paragraph separators. White space is the same
without the information separators.
-/

namespace Changeover.Text

/-- Whether a character is white space. -/
def isSpace (c : Char) : Bool :=
  let n := c.toNat
  (0x09 ≤ n && n ≤ 0x0D) || n == 0x20 || n == 0x85 || n == 0xA0 || n == 0x1680 ||
    (0x2000 ≤ n && n ≤ 0x200A) || n == 0x2028 || n == 0x2029 || n == 0x202F || n == 0x205F ||
    n == 0x3000

/-- Whether a character counts as blank. -/
def isBlank (c : Char) : Bool := isSpace c || (0x1C ≤ c.toNat && c.toNat ≤ 0x1F)

/-- The text without the characters of a kind at its end. -/
def trimEndOf (p : Char → Bool) (s : List Char) : List Char := (s.reverse.dropWhile p).reverse

/-- The text without the characters of a kind at its two ends. -/
def trimOf (p : Char → Bool) (s : List Char) : List Char := trimEndOf p (s.dropWhile p)

/-- The text without the blanks at its two ends. -/
def trim (s : List Char) : List Char := trimOf isBlank s

theorem dropWhile_of_none {p : Char → Bool} {s : List Char} (h : ∀ c ∈ s, p c = false) :
    s.dropWhile p = s := by
  cases s with
  | nil => rfl
  | cons c r => simp [h c List.mem_cons_self]

/-- Trimming takes away what stands around a text that holds nothing to trim. -/
theorem trimOf_append {p : Char → Bool} {l s r : List Char} (hl : ∀ c ∈ l, p c = true)
    (hs : ∀ c ∈ s, p c = false) (hr : ∀ c ∈ r, p c = true) : trimOf p (l ++ s ++ r) = s := by
  have hrev : ∀ c ∈ s.reverse, p c = false := fun c hc => hs c (List.mem_reverse.1 hc)
  rw [trimOf, List.append_assoc, List.dropWhile_append_of_pos hl]
  cases s with
  | nil => rw [List.nil_append, ← List.append_nil r, List.dropWhile_append_of_pos hr]; rfl
  | cons c s' =>
    rw [List.cons_append, List.dropWhile_cons_of_neg (by simp [hs c List.mem_cons_self]),
      ← List.cons_append, trimEndOf, List.reverse_append,
      List.dropWhile_append_of_pos (fun x hx => hr x (List.mem_reverse.1 hx)),
      dropWhile_of_none hrev, List.reverse_reverse]

end Changeover.Text
