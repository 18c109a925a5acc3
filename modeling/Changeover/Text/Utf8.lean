import Changeover.Text.Latin1

/-!
# Reading and writing UTF-8

Bytes are read one at a time. Between two bytes the reader remembers the sequence that has begun:
how many bytes it still owes, its value so far and the range the next byte must be in. A byte
outside the range ends the sequence as one unreadable part and is then read as a first byte, so each
longest readable beginning counts once. Main statements: `decode?_encode`, `decodeLossy_encode`.
-/

namespace Changeover.Text.Utf8

/-- A sequence that has begun. -/
structure Begun where
  /-- The number of bytes it still owes. -/
  owed : Nat
  /-- The bits read so far. -/
  value : Nat
  /-- The least number of the byte that may follow. -/
  lo : Nat
  /-- The greatest number of the byte that may follow. -/
  hi : Nat

/-- What a byte leaves behind: the parts it completes (`none` for an unreadable one) and the
sequence that is open after it. -/
abbrev Step := List (Option Char) × Option Begun

/-- Reads a byte that is the first of a sequence. Surrogates, overlong forms and numbers above the
last character are excluded by the range of the second byte. -/
def start (b : UInt8) : Step :=
  let n := b.toNat
  if n < 0x80 then ([some (Char.ofNat n)], none)
  else if n < 0xC2 then ([none], none)
  else if n < 0xE0 then ([], some ⟨1, n - 0xC0, 0x80, 0xBF⟩)
  else if n < 0xF0 then
    ([], some ⟨2, n - 0xE0, if n == 0xE0 then 0xA0 else 0x80, if n == 0xED then 0x9F else 0xBF⟩)
  else if n < 0xF5 then
    ([], some ⟨3, n - 0xF0, if n == 0xF0 then 0x90 else 0x80, if n == 0xF4 then 0x8F else 0xBF⟩)
  else ([none], none)

/-- Adds a byte of the right range to an open sequence. -/
def Begun.push (p : Begun) (b : UInt8) : Step :=
  let v := p.value * 64 + (b.toNat - 0x80)
  if p.owed ≤ 1 then ([some (Char.ofNat v)], none) else ([], some ⟨p.owed - 1, v, 0x80, 0xBF⟩)

/-- Reads one byte. -/
def step : Option Begun → UInt8 → Step
  | none, b => start b
  | some p, b =>
    if p.lo ≤ b.toNat && b.toNat ≤ p.hi then p.push b else (none :: (start b).1, (start b).2)

/-- Reads bytes after an open sequence; a sequence still open at the end is unreadable. -/
def scanFrom : Option Begun → Bytes → List (Option Char)
  | none, [] => []
  | some _, [] => [none]
  | p, b :: r => (step p b).1 ++ scanFrom (step p b).2 r

/-- The characters of the bytes, with `none` for each unreadable part. -/
def scan (b : Bytes) : List (Option Char) := scanFrom none b

/-- The character that stands for an unreadable part. -/
def replacement : Char := Char.ofNat 0xFFFD

/-- Reads any bytes, with the replacement character for each unreadable part. -/
def decodeLossy (b : Bytes) : List Char := (scan b).map (·.getD replacement)

/-- Reads bytes that hold no unreadable part. -/
def decode? (b : Bytes) : Option (List Char) := (scan b).mapM id

/-- The bytes of one character. -/
def encodeChar (c : Char) : Bytes :=
  let n := c.toNat
  let tail (k : Nat) : UInt8 := UInt8.ofNat (0x80 + k % 64)
  if n < 0x80 then [UInt8.ofNat n]
  else if n < 0x800 then [UInt8.ofNat (0xC0 + n / 64), tail n]
  else if n < 0x10000 then [UInt8.ofNat (0xE0 + n / 4096), tail (n / 64), tail n]
  else [UInt8.ofNat (0xF0 + n / 262144), tail (n / 4096), tail (n / 64), tail n]

/-- Writes text as UTF-8. -/
def encode (s : List Char) : Bytes := s.flatMap encodeChar

theorem toNat_ofNat_of_lt {n : Nat} (h : n < 256) : (UInt8.ofNat n).toNat = n := by
  simp [UInt8.toNat_ofNat', Nat.mod_eq_of_lt h]

theorem toNat_lt (c : Char) : c.toNat < 0xD800 ∨ 0xDFFF < c.toNat ∧ c.toNat < 0x110000 := c.valid

theorem start_of_lt {b : UInt8} (h : b.toNat < 0x80) : start b = ([some (Char.ofNat b.toNat)], none) := by
  simp [start, h]

theorem start_two {b : UInt8} (h : 0xC2 ≤ b.toNat) (h' : b.toNat < 0xE0) :
    start b = ([], some ⟨1, b.toNat - 0xC0, 0x80, 0xBF⟩) := by
  simp [start, h', show ¬ b.toNat < 0x80 by omega, show ¬ b.toNat < 0xC2 by omega]

theorem start_three {b : UInt8} (h : 0xE0 ≤ b.toNat) (h' : b.toNat < 0xF0) :
    start b = ([], some ⟨2, b.toNat - 0xE0, if b.toNat == 0xE0 then 0xA0 else 0x80,
      if b.toNat == 0xED then 0x9F else 0xBF⟩) := by
  simp [start, h', show ¬ b.toNat < 0x80 by omega, show ¬ b.toNat < 0xC2 by omega,
    show ¬ b.toNat < 0xE0 by omega]

theorem start_four {b : UInt8} (h : 0xF0 ≤ b.toNat) (h' : b.toNat < 0xF5) :
    start b = ([], some ⟨3, b.toNat - 0xF0, if b.toNat == 0xF0 then 0x90 else 0x80,
      if b.toNat == 0xF4 then 0x8F else 0xBF⟩) := by
  simp [start, h', show ¬ b.toNat < 0x80 by omega, show ¬ b.toNat < 0xC2 by omega,
    show ¬ b.toNat < 0xE0 by omega, show ¬ b.toNat < 0xF0 by omega]

theorem scanFrom_cons (p : Option Begun) (b : UInt8) (r : Bytes) :
    scanFrom p (b :: r) = (step p b).1 ++ scanFrom (step p b).2 r := by
  cases p <;> rfl

theorem scanFrom_last {v lo hi : Nat} {b : UInt8} (r : Bytes) (h : lo ≤ b.toNat) (h' : b.toNat ≤ hi) :
    scanFrom (some ⟨1, v, lo, hi⟩) (b :: r) =
      some (Char.ofNat (v * 64 + (b.toNat - 0x80))) :: scanFrom none r := by
  simp [scanFrom_cons, step, Begun.push, h, h']

theorem scanFrom_more {owed v lo hi : Nat} {b : UInt8} (r : Bytes) (h : lo ≤ b.toNat)
    (h' : b.toNat ≤ hi) (ho : 2 ≤ owed) :
    scanFrom (some ⟨owed, v, lo, hi⟩) (b :: r) =
      scanFrom (some ⟨owed - 1, v * 64 + (b.toNat - 0x80), 0x80, 0xBF⟩) r := by
  simp [scanFrom_cons, step, Begun.push, h, h', show ¬ owed ≤ 1 by omega]

theorem scanFrom_encodeChar (c : Char) (r : Bytes) :
    scanFrom none (encodeChar c ++ r) = some c :: scanFrom none r := by
  have hc := toNat_lt c
  have hn : Char.ofNat c.toNat = c := Char.ofNat_toNat c
  have tail (k : Nat) : (UInt8.ofNat (0x80 + k % 64)).toNat = 0x80 + k % 64 :=
    toNat_ofNat_of_lt (by omega)
  unfold encodeChar
  simp only
  generalize c.toNat = n at hc hn tail ⊢
  by_cases h₁ : n < 0x80
  · have hb : (UInt8.ofNat n).toNat = n := toNat_ofNat_of_lt (by omega)
    have hlt : (UInt8.ofNat n).toNat < 0x80 := by rw [hb]; exact h₁
    simp [h₁, scanFrom_cons, step, start_of_lt hlt, hb, hn]
  by_cases h₂ : n < 0x800
  · have hb : (UInt8.ofNat (0xC0 + n / 64)).toNat = 0xC0 + n / 64 := toNat_ofNat_of_lt (by omega)
    have hv : (0xC0 + n / 64 - 0xC0) * 64 + (0x80 + n % 64 - 0x80) = n := by omega
    simp only [h₁, h₂, if_false, if_true, List.cons_append, List.nil_append]
    rw [scanFrom_cons]
    simp only [step]
    rw [start_two (by omega) (by omega)]
    simp only [List.nil_append]
    rw [scanFrom_last r (by rw [tail]; omega) (by rw [tail]; omega), tail, hb, hv, hn]
  by_cases h₃ : n < 0x10000
  · have hb : (UInt8.ofNat (0xE0 + n / 4096)).toNat = 0xE0 + n / 4096 :=
      toNat_ofNat_of_lt (by omega)
    have hv : ((0xE0 + n / 4096 - 0xE0) * 64 + (0x80 + n / 64 % 64 - 0x80)) * 64 +
        (0x80 + n % 64 - 0x80) = n := by omega
    simp only [h₁, h₂, h₃, if_false, if_true, List.cons_append, List.nil_append]
    rw [scanFrom_cons]
    simp only [step]
    rw [start_three (by omega) (by omega)]
    simp only [List.nil_append]
    rw [scanFrom_more _ (by rw [tail, hb]; simp only [beq_iff_eq]; split <;> omega)
      (by rw [tail, hb]; simp only [beq_iff_eq]; split <;> omega) (by omega),
      scanFrom_last r (by rw [tail]; omega) (by rw [tail]; omega), tail, tail, hb, hv, hn]
  · have hb : (UInt8.ofNat (0xF0 + n / 262144)).toNat = 0xF0 + n / 262144 :=
      toNat_ofNat_of_lt (by omega)
    have hv : (((0xF0 + n / 262144 - 0xF0) * 64 + (0x80 + n / 4096 % 64 - 0x80)) * 64 +
        (0x80 + n / 64 % 64 - 0x80)) * 64 + (0x80 + n % 64 - 0x80) = n := by omega
    simp only [h₁, h₂, h₃, if_false, List.cons_append, List.nil_append]
    rw [scanFrom_cons]
    simp only [step]
    rw [start_four (by omega) (by omega)]
    simp only [List.nil_append]
    rw [scanFrom_more _ (by rw [tail, hb]; simp only [beq_iff_eq]; split <;> omega)
      (by rw [tail, hb]; simp only [beq_iff_eq]; split <;> omega) (by omega),
      scanFrom_more _ (by rw [tail]; omega) (by rw [tail]; omega) (by omega),
      scanFrom_last r (by rw [tail]; omega) (by rw [tail]; omega), tail, tail, tail, hb, hv, hn]

theorem scan_encode (s : List Char) : scan (encode s) = s.map some := by
  induction s with
  | nil => rfl
  | cons c r ih =>
    have : encode (c :: r) = encodeChar c ++ encode r := rfl
    rw [this, scan, scanFrom_encodeChar, List.map_cons]
    exact congrArg _ ih

/-- Text written as UTF-8 reads back. -/
theorem decode?_encode (s : List Char) : decode? (encode s) = some s := by
  rw [decode?, scan_encode]
  induction s with
  | nil => rfl
  | cons c r ih => simp_all [List.mapM_cons]

theorem encodeChar_ne_nil (c : Char) : encodeChar c ≠ [] := by
  intro h
  have := scanFrom_encodeChar c []
  rw [h] at this
  cases this

theorem decodeLossy_cons {b : UInt8} (h : b.toNat < 0x80) (r : Bytes) :
    decodeLossy (b :: r) = Char.ofNat b.toNat :: decodeLossy r := by
  simp [decodeLossy, scan, scanFrom_cons, step, start_of_lt h]

/-- Text written as UTF-8 reads back without replacements. -/
theorem decodeLossy_encode (s : List Char) : decodeLossy (encode s) = s := by
  rw [decodeLossy, scan_encode, List.map_map]
  exact List.map_id s

end Changeover.Text.Utf8
