import Changeover.Text.Hex
import Changeover.Text.Utf8

/-!
# Percent escapes

Writing: a character outside the kept set becomes its UTF-8 bytes, each as `%` and two capital
digits. Reading: in each run of ASCII characters the escapes become bytes, a `%` that starts no
escape stands for itself, and the bytes of the run are read as UTF-8. Main statement: `decode_encode`.
-/

namespace Changeover.Text.Percent

/-- The escape of one byte. -/
def escape (b : UInt8) : List Char :=
  ['%', Hex.upper (b.toNat / 16), Hex.upper (b.toNat % 16)]

/-- The characters that no escaping touches: letters, digits and `_.-~`. -/
def unreserved (c : Char) : Bool :=
  c.isAlphanum || c == '_' || c == '.' || c == '-' || c == '~'

/-- One character, kept or escaped. -/
def encodeChar (keep : Char → Bool) (c : Char) : List Char :=
  if keep c then [c] else (Utf8.encodeChar c).flatMap escape

/-- The text with every character outside `keep` escaped. -/
def encode (keep : Char → Bool) (s : List Char) : List Char := s.flatMap (encodeChar keep)

/-- The byte named by the two characters after a `%`. -/
def byte? (a b : Char) : Option UInt8 :=
  match Hex.value? a, Hex.value? b with
  | some x, some y => some (UInt8.ofNat (x * 16 + y))
  | _, _ => none

/-- The bytes of an ASCII run. -/
def runBytes : List Char → Bytes
  | '%' :: a :: b :: r =>
    match byte? a b with
    | some x => x :: runBytes r
    | none => 37 :: runBytes (a :: b :: r)
  | c :: r => UInt8.ofNat c.toNat :: runBytes r
  | [] => []

/-- The text of an ASCII run that is given backwards. -/
def runText (run : List Char) : List Char := Utf8.decodeLossy (runBytes run.reverse)

/-- Reads the rest of a text after the ASCII run `run`, which is kept backwards. -/
def decodeFrom (run : List Char) : List Char → List Char
  | [] => runText run
  | c :: r => if c.toNat < 128 then decodeFrom (c :: run) r else runText run ++ c :: decodeFrom [] r

/-- The text with its escapes read. -/
def decode (s : List Char) : List Char := decodeFrom [] s

/-! ### Reading what was written -/

theorem byte?_upper (b : UInt8) :
    byte? (Hex.upper (b.toNat / 16)) (Hex.upper (b.toNat % 16)) = some b := by
  have h := b.toNat_lt
  have hb : b.toNat / 16 * 16 + b.toNat % 16 = b.toNat := by omega
  simp [byte?, Hex.value?_upper (show b.toNat / 16 < 16 by omega),
    Hex.value?_upper (show b.toNat % 16 < 16 by omega), hb]

theorem runBytes_escape (b : UInt8) (r : List Char) :
    runBytes (escape b ++ r) = b :: runBytes r := by
  simp [escape, runBytes, byte?_upper]

theorem runBytes_flatMap_escape (bs : Bytes) (r : List Char) :
    runBytes (bs.flatMap escape ++ r) = bs ++ runBytes r := by
  induction bs with
  | nil => rfl
  | cons b bs ih =>
    rw [List.flatMap_cons, List.append_assoc, runBytes_escape, ih]
    rfl

theorem runBytes_cons {c : Char} (h : c ≠ '%') (r : List Char) :
    runBytes (c :: r) = UInt8.ofNat c.toNat :: runBytes r := by
  rw [runBytes]
  intro a b r' hc _
  exact h hc

/-- A set of characters that may be kept: ASCII and without the escape sign. -/
def Keepable (keep : Char → Bool) : Prop := ∀ c, keep c = true → c.toNat < 128 ∧ c ≠ '%'

variable {keep : Char → Bool}

theorem runBytes_encodeChar (hk : Keepable keep) (c : Char) (r : List Char) :
    runBytes (encodeChar keep c ++ r) = Utf8.encodeChar c ++ runBytes r := by
  by_cases h : keep c = true
  · obtain ⟨hc, hp⟩ := hk c h
    have he : Utf8.encodeChar c = [UInt8.ofNat c.toNat] := by simp [Utf8.encodeChar, hc]
    simp [encodeChar, h, runBytes_cons hp, he]
  · simp [encodeChar, h, runBytes_flatMap_escape]

theorem runBytes_encode (hk : Keepable keep) (s : List Char) :
    runBytes (encode keep s) = Utf8.encode s := by
  induction s with
  | nil => rfl
  | cons c r ih =>
    have h₁ : encode keep (c :: r) = encodeChar keep c ++ encode keep r := rfl
    have h₂ : Utf8.encode (c :: r) = Utf8.encodeChar c ++ Utf8.encode r := rfl
    rw [h₁, h₂, runBytes_encodeChar hk, ih]

theorem encodeChar_chars {x c : Char} (h : c ∈ encodeChar keep x) :
    keep c = true ∨ c = '%' ∨ ∃ n < 16, c = Hex.upper n := by
  by_cases hk : keep x = true
  · rw [encodeChar, if_pos hk, List.mem_singleton] at h
    exact .inl (h ▸ hk)
  · rw [encodeChar, if_neg hk] at h
    obtain ⟨b, _, hb⟩ := List.mem_flatMap.1 h
    have := b.toNat_lt
    simp only [escape, List.mem_cons, List.not_mem_nil, or_false] at hb
    rcases hb with rfl | rfl | rfl
    · exact .inr (.inl rfl)
    · exact .inr (.inr ⟨_, by omega, rfl⟩)
    · exact .inr (.inr ⟨_, by omega, rfl⟩)

theorem encode_chars {s : List Char} {c : Char} (h : c ∈ encode keep s) :
    keep c = true ∨ c = '%' ∨ ∃ n < 16, c = Hex.upper n := by
  obtain ⟨x, _, hx⟩ := List.mem_flatMap.1 h
  exact encodeChar_chars hx

theorem encode_ascii (hk : Keepable keep) {s : List Char} {c : Char} (h : c ∈ encode keep s) :
    c.toNat < 128 := by
  rcases encode_chars h with h | rfl | ⟨n, hn, rfl⟩
  · exact (hk c h).1
  · decide
  · exact Hex.upper_ascii hn

theorem encode_cons (keep : Char → Bool) (c : Char) (s : List Char) :
    encode keep (c :: s) = encodeChar keep c ++ encode keep s := rfl

theorem head?_encode_cons (keep : Char → Bool) (c : Char) (s : List Char) :
    (encode keep (c :: s)).head? = some (if keep c then c else '%') := by
  rw [encode_cons, encodeChar]
  split
  · rfl
  · obtain ⟨b, bs, hb⟩ := List.exists_cons_of_ne_nil (Utf8.encodeChar_ne_nil c)
    rw [hb, List.flatMap_cons]
    rfl

theorem decodeFrom_of_ascii {s : List Char} (h : ∀ c ∈ s, c.toNat < 128) (run : List Char) :
    decodeFrom run s = runText (s.reverse ++ run) := by
  induction s generalizing run with
  | nil => rfl
  | cons c r ih =>
    have hc := h c List.mem_cons_self
    simp only [decodeFrom, hc, if_true]
    rw [ih (fun x hx => h x (List.mem_cons_of_mem c hx))]
    simp

theorem runText_concat {c : Char} (h : c.toNat < 128) (hp : c ≠ '%') (run : List Char) :
    runText (run ++ [c]) = c :: runText run := by
  have hb : (UInt8.ofNat c.toNat).toNat = c.toNat := Utf8.toNat_ofNat_of_lt (by omega)
  rw [runText, List.reverse_concat, runBytes_cons hp, Utf8.decodeLossy_cons (by rw [hb]; exact h), hb,
    Char.ofNat_toNat, runText]

/-- What stands first in a run is read first. -/
theorem decodeFrom_concat {c : Char} (h : c.toNat < 128) (hp : c ≠ '%') (run s : List Char) :
    decodeFrom (run ++ [c]) s = c :: decodeFrom run s := by
  induction s generalizing run with
  | nil => exact runText_concat h hp run
  | cons x r ih =>
    by_cases hx : x.toNat < 128
    · rw [decodeFrom, if_pos hx, decodeFrom, if_pos hx]
      exact ih (x :: run)
    · rw [decodeFrom, if_neg hx, decodeFrom, if_neg hx, runText_concat h hp]
      rfl

theorem decode_cons {c : Char} (h : c.toNat < 128) (hp : c ≠ '%') (s : List Char) :
    decode (c :: s) = c :: decode s := by
  rw [decode, decodeFrom, if_pos h]
  exact decodeFrom_concat h hp [] s

/-- Escaped text reads back, whatever was kept. -/
theorem decode_encode (hk : Keepable keep) (s : List Char) : decode (encode keep s) = s := by
  rw [decode, decodeFrom_of_ascii (fun _ h => encode_ascii hk h), runText]
  simp [runBytes_encode hk, Utf8.decodeLossy_encode]

end Changeover.Text.Percent
