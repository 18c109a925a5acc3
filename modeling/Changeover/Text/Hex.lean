/-!
# Hexadecimal digits

Digits of either case are read; which case is written is the caller's choice. Main statement:
`value?_upper`.
-/

namespace Changeover.Text.Hex

/-- The digit of a number below sixteen, with capital letters. -/
def upper (n : Nat) : Char := if n < 10 then Char.ofNat (48 + n) else Char.ofNat (55 + n)

/-- The digit of a number below sixteen, with small letters. -/
def lower (n : Nat) : Char := if n < 10 then Char.ofNat (48 + n) else Char.ofNat (87 + n)

/-- The number of a digit of either case. -/
def value? (c : Char) : Option Nat :=
  if '0' ≤ c && c ≤ '9' then some (c.toNat - 48)
  else if 'A' ≤ c && c ≤ 'F' then some (c.toNat - 55)
  else if 'a' ≤ c && c ≤ 'f' then some (c.toNat - 87)
  else none

/-- Whether a character is a digit of either case. -/
def isDigit (c : Char) : Bool := (value? c).isSome

/-- The last `w` digits of a number, with small letters. -/
def fixed : Nat → Nat → List Char
  | 0, _ => []
  | w + 1, n => fixed w (n / 16) ++ [lower (n % 16)]

theorem value?_upper {n : Nat} (h : n < 16) : value? (upper n) = some n := by
  have : ∀ k : Fin 16, value? (upper k) = some k.val := by decide
  exact this ⟨n, h⟩

theorem upper_ascii {n : Nat} (h : n < 16) : (upper n).toNat < 128 := by
  have : ∀ k : Fin 16, (upper k).toNat < 128 := by decide
  exact this ⟨n, h⟩

end Changeover.Text.Hex
