/-!
# One byte per character

Raw parts of a message are bytes; read as text, each byte is the character of its number. Main
statement: `toBytes?_ofBytes`.
-/

namespace Changeover

/-- Raw bytes. -/
abbrev Bytes := List UInt8

namespace Text.Latin1

/-- The character of a byte's number. -/
def charOf (b : UInt8) : Char := Char.ofNat b.toNat

/-- The byte of a character's number, if it has one. -/
def byteOf? (c : Char) : Option UInt8 :=
  if c.toNat < 256 then some (UInt8.ofNat c.toNat) else none

/-- Bytes read as text. -/
def ofBytes (b : Bytes) : List Char := b.map charOf

/-- Text written as bytes, if every character has one. -/
def toBytes? (s : List Char) : Option Bytes := s.mapM byteOf?

/-- Bytes read as a string. -/
def text (b : Bytes) : String := String.ofList (ofBytes b)

theorem toNat_charOf (b : UInt8) : (charOf b).toNat = b.toNat := by
  have h : b.toNat.isValidChar := Or.inl (by have := b.toNat_lt; omega)
  have hc : charOf b = Char.ofNatAux b.toNat h := dif_pos h
  rw [hc]
  rfl

theorem byteOf?_charOf (b : UInt8) : byteOf? (charOf b) = some b := by
  have := b.toNat_lt
  simp [byteOf?, toNat_charOf, this]

theorem toBytes?_ofBytes (b : Bytes) : toBytes? (ofBytes b) = some b := by
  induction b with
  | nil => rfl
  | cons x r ih =>
    simp only [toBytes?, ofBytes, List.map_cons, List.mapM_cons] at ih ⊢
    simp [byteOf?_charOf, ih]

theorem ofBytes_inj {a b : Bytes} : ofBytes a = ofBytes b ↔ a = b := by
  refine ⟨fun h => ?_, congrArg _⟩
  have hbytes := congrArg toBytes? h
  rw [toBytes?_ofBytes, toBytes?_ofBytes] at hbytes
  exact Option.some.inj hbytes

theorem ofBytes_prefix_iff {a b : Bytes} : ofBytes a <+: ofBytes b ↔ a <+: b := by
  rw [List.prefix_iff_eq_take, List.prefix_iff_eq_take, ofBytes, ofBytes, List.length_map, ← List.map_take]
  exact ofBytes_inj

theorem charOf_ofNat {c : Char} (h : c.toNat < 256) : charOf (UInt8.ofNat c.toNat) = c := by
  rw [charOf, UInt8.toNat_ofNat', Nat.mod_eq_of_lt h, Char.ofNat_toNat]

theorem toBytes?_eq {s : List Char} (h : ∀ c ∈ s, c.toNat < 256) :
    toBytes? s = some (s.map fun c => UInt8.ofNat c.toNat) := by
  induction s with
  | nil => rfl
  | cons c r ih =>
    have hc : byteOf? c = some (UInt8.ofNat c.toNat) := if_pos (h c List.mem_cons_self)
    rw [toBytes?, List.mapM_cons, hc, ← toBytes?, ih fun x hx => h x (List.mem_cons_of_mem _ hx)]
    rfl

theorem ofBytes_toBytes? {s : List Char} (h : s.all (·.toNat < 256) = true) :
    ofBytes ((toBytes? s).getD []) = s := by
  replace h : ∀ c ∈ s, c.toNat < 256 := by simpa using h
  rw [toBytes?_eq h, Option.getD_some, ofBytes, List.map_map]
  exact (List.map_congr_left fun c hc => charOf_ofNat (h c hc)).trans (List.map_id s)

end Text.Latin1

end Changeover
