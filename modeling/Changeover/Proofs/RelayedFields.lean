import Changeover.Gateway.Proxy
import Changeover.Proofs.NamedHost

/-!
# The fields of a relayed answer

What is relayed can be told field by field (`relay_eq_ok_iff`): the length of the body where one is stated,
and then the fields that are not dropped, in order, each with its name in small letters and the text of its
value, written with one byte for each character. ASCII text is the same in every coding, so an answer of
ASCII fields keeps its values as they were (`relay_ascii`).
-/

namespace Changeover

open Text

namespace Text

/-- Bytes that are ASCII characters. -/
def Ascii (b : Bytes) : Prop := ∀ x ∈ b, x < 128

instance (b : Bytes) : Decidable (Ascii b) := List.decidableBAll _ b

namespace Utf8

theorem encodeChar_charOf {x : UInt8} (h : x < 128) : encodeChar (Latin1.charOf x) = [x] := by
  have hn : x.toNat < 128 := UInt8.lt_iff_toNat_lt.1 h
  rw [encodeChar]
  simp only [Latin1.toNat_charOf, hn, if_true, UInt8.ofNat_toNat]

theorem encode_ofBytes {b : Bytes} (h : Ascii b) : encode (Latin1.ofBytes b) = b := by
  induction b with
  | nil => rfl
  | cons x b ih =>
    have hx : encode (Latin1.ofBytes (x :: b)) =
      encodeChar (Latin1.charOf x) ++ encode (Latin1.ofBytes b) := rfl
    rw [hx, encodeChar_charOf (h x List.mem_cons_self), ih fun y hy => h y (List.mem_cons_of_mem x hy)]
    rfl

theorem decodeLossy_ascii {b : Bytes} (h : Ascii b) : decodeLossy b = Latin1.ofBytes b := by
  rw [← decodeLossy_encode (Latin1.ofBytes b), encode_ofBytes h]

end Utf8

theorem Latin1.toBytes?_ascii {s : List Char} (h : ∀ c ∈ s, c.toNat < 128) :
    ∃ b, toBytes? s = some b ∧ Ascii b := by
  refine ⟨_, toBytes?_eq fun c hc => Nat.lt_trans (h c hc) (by decide), fun x hx => ?_⟩
  obtain ⟨c, hc, rfl⟩ := List.mem_map.1 hx
  have hlt := h c hc
  rw [UInt8.lt_iff_toNat_lt, UInt8.toNat_ofNat', Nat.mod_eq_of_lt (by omega)]
  exact hlt

theorem Latin1.ofBytes_of_toBytes? {s : List Char} {b : Bytes} (h : toBytes? s = some b) :
    ofBytes b = s := by
  induction s generalizing b with
  | nil =>
    cases h
    rfl
  | cons c s ih =>
    rw [toBytes?, List.mapM_cons] at h
    obtain ⟨x, hx, h⟩ := Option.bind_eq_some_iff.1 h
    obtain ⟨r, hr, h⟩ := Option.bind_eq_some_iff.1 h
    cases h
    have hlt : c.toNat < 256 := by
      by_cases hlt : c.toNat < 256
      · exact hlt
      · rw [byteOf?, if_neg hlt] at hx
        cases hx
    rw [byteOf?, if_pos hlt] at hx
    cases hx
    rw [ofBytes, List.map_cons, charOf_ofNat hlt, ← ofBytes, ih hr]

theorem Latin1.toBytes?_eq_some_iff {s : List Char} {b : Bytes} : toBytes? s = some b ↔ ofBytes b = s :=
  ⟨ofBytes_of_toBytes?, fun h => h ▸ toBytes?_ofBytes b⟩

/-- An ASCII character other than a capital. -/
def IsSmall (c : Char) : Prop := c.toNat < 128 ∧ ¬ (65 ≤ c.toNat ∧ c.toNat ≤ 90)

instance (c : Char) : Decidable (IsSmall c) := inferInstanceAs (Decidable (_ ∧ _))

theorem Case.partner?_take {ranges : List (Nat × Nat × Nat × Nat)} {k n : Nat}
    (h : ∀ r ∈ ranges.drop k, n < r.1) : partner? ranges n = partner? (ranges.take k) n := by
  have hfind (p : Nat × Nat × Nat × Nat → Bool) (hp : ∀ r ∈ ranges.drop k, ¬ p r = true) :
      ranges.find? p = (ranges.take k).find? p := by
    refine (congrArg (List.find? p) (List.take_append_drop k ranges).symm).trans ?_
    rw [List.find?_append, List.find?_eq_none.2 hp, Option.or_none]
  unfold partner?
  rw [hfind]
  intro r hr
  have := h r hr
  simp only [Bool.and_eq_true, decide_eq_true_eq]
  omega

theorem Case.partner?_byte {n : Nat} (h : n < 256) :
    partner? lowerRanges n = partner? (lowerRanges.take 3) n := by
  have hbeyond : ∀ r ∈ lowerRanges.drop 3, 256 ≤ r.1 := by decide +kernel
  exact partner?_take fun r hr => Nat.lt_of_lt_of_le h (hbeyond r hr)

theorem Case.partner?_small {c : Char} (h : IsSmall c) : partner? lowerRanges c.toNat = none := by
  obtain ⟨hascii, hcapital⟩ := h
  rw [partner?_byte (by omega), partner?, Option.map_eq_none_iff, List.find?_eq_none]
  simp only [lowerRanges, List.take_succ_cons, List.take_zero, List.forall_mem_cons,
    Bool.and_eq_true, decide_eq_true_eq]
  exact ⟨fun h => hcapital h.1, fun h => by omega, fun h => by omega, nofun⟩

/-- Text in which each character has one small letter, whatever its place. -/
theorem Case.lowerFrom_map {f : Char → Char} {s : List Char}
    (h : ∀ c ∈ s, c ≠ sigma ∧ lowerChar c = [f c]) (before : List Char) :
    lowerFrom before s = s.map f := by
  induction s generalizing before with
  | nil => rfl
  | cons c s ih =>
    obtain ⟨hsigma, hlower⟩ := h c List.mem_cons_self
    rw [lowerFrom, ih fun x hx => h x (List.mem_cons_of_mem c hx)]
    simp only [beq_false_of_ne hsigma, hlower]
    rfl

theorem lower_small {s : List Char} (h : ∀ c ∈ s, IsSmall c) : lower s = s := by
  refine (Case.lowerFrom_map (f := id) (fun c hc => ⟨?_, ?_⟩) []).trans (List.map_id s)
  · rintro rfl
    exact absurd (h _ hc).1 (by decide)
  · have hdotted : (c.toNat == 0x130) = false :=
      beq_false_of_ne fun he => absurd (h c hc).1 (by omega)
    simp only [Case.lowerChar, hdotted, Case.partner?_small (h c hc)]
    rfl

end Text

namespace Gateway

/-- A field of ASCII characters. -/
def AsciiField (h : RawHeader) : Prop := Ascii h.1 ∧ Ascii h.2

instance (h : RawHeader) : Decidable (AsciiField h) := inferInstanceAs (Decidable (_ ∧ _))

/-- A field with its name in small letters. -/
def lowered (h : RawHeader) : RawHeader := (lowerBytes h.1, h.2)

theorem asciiField_raw {name value : String} (hn : name.toList.all (·.toNat < 128) = true)
    (hv : ∀ c ∈ value.toList, c.toNat < 128) : AsciiField (Header.raw name value) := by
  obtain ⟨n, hn, hn'⟩ := Latin1.toBytes?_ascii (s := name.toList) (by simpa using hn)
  obtain ⟨v, hv, hv'⟩ := Latin1.toBytes?_ascii hv
  rw [Header.raw, hn, hv]
  exact ⟨hn', hv'⟩

theorem toString_ascii (n : Nat) : ∀ c ∈ (toString n).toList, c.toNat < 128 := by
  intro c hc
  rw [Nat.toString_eq_ofList_toDigits, String.toList_ofList] at hc
  exact (Url.plain_of_isDigit (Nat.isDigit_of_mem_toDigits (by decide) (by decide) hc)).1.2.1

theorem lowerBytes_small {b : Bytes} (h : Ascii b) : ∀ x ∈ lowerBytes b, IsSmall (Latin1.charOf x) := by
  intro x hx
  obtain ⟨y, hy, rfl⟩ := List.mem_map.1 hx
  have hascii := UInt8.lt_iff_toNat_lt.1 (h y hy)
  rw [IsSmall, Latin1.toNat_charOf]
  split
  · next hc =>
    obtain ⟨hlow, hhigh⟩ : 65 ≤ y ∧ y ≤ 90 := by simpa using hc
    have hlow : 65 ≤ y.toNat := UInt8.le_iff_toNat_le.1 hlow
    have hhigh : y.toNat ≤ 90 := UInt8.le_iff_toNat_le.1 hhigh
    rw [UInt8.toNat_add]
    show (y.toNat + 32) % 256 < 128 ∧ ¬ (65 ≤ (y.toNat + 32) % 256 ∧ (y.toNat + 32) % 256 ≤ 90)
    omega
  · next hc =>
    refine ⟨hascii, fun hcap => hc ?_⟩
    simpa [UInt8.le_iff_toNat_le] using hcap

theorem lowerBytes_ascii {b : Bytes} (h : Ascii b) : Ascii (lowerBytes b) := by
  intro x hx
  have hsmall := (lowerBytes_small h x hx).1
  rw [Latin1.toNat_charOf] at hsmall
  exact UInt8.lt_iff_toNat_lt.2 hsmall

theorem mem_statedHeaders {a : Response} {f : RawHeader} (h : f ∈ statedHeaders a) :
    f ∈ a.headers ∨ f = Header.raw "Content-Length" (toString a.body.length) := by
  unfold statedHeaders at h
  simp only at h
  split at h
  · exact .inl h
  · exact (List.mem_append.1 h).imp_right List.mem_singleton.1

theorem asciiField_length (n : Nat) : AsciiField (Header.raw "Content-Length" (toString n)) :=
  asciiField_raw rfl (toString_ascii n)

/-- The answer to a relayed HEAD request, and one of certain statuses, states no length of its own. -/
def ownLength (method : String) (a : Response) : List RawHeader :=
  if method == "HEAD" || !statesLength a.status then [] else [lengthField a.body]

/-- The fields of an answer that are relayed. -/
def keptFields (method : String) (a : Response) : List RawHeader :=
  (statedHeaders a).filter fun f => !isDropped (method == "HEAD") (Latin1.ofBytes (lowered f).1)

/-- The two texts of a field, with a character for each byte. -/
def fieldText (f : RawHeader) : List Char × List Char := (Latin1.ofBytes f.1, Latin1.ofBytes f.2)

theorem writeField_eq_ok_iff {t : List Char × List Char} {f : RawHeader} :
    writeField t = .ok f ↔ fieldText f = t := by
  obtain ⟨name, value⟩ := t
  rw [fieldText, Prod.mk.injEq, ← Latin1.toBytes?_eq_some_iff, ← Latin1.toBytes?_eq_some_iff]
  unfold writeField
  cases Latin1.toBytes? name with
  | none => exact iff_of_false nofun nofun
  | some n =>
    cases Latin1.toBytes? value with
    | none => exact iff_of_false nofun nofun
    | some v => simp only [Except.ok.injEq, Option.some.injEq, Prod.ext_iff]

theorem mapM_writeField_eq_ok_iff {ts : List (List Char × List Char)} {fs : List RawHeader} :
    ts.mapM writeField = .ok fs ↔ fs.map fieldText = ts := by
  induction ts generalizing fs with
  | nil => simp [pure, Except.pure, eq_comm]
  | cons t ts ih =>
    rw [List.mapM_cons, List.map_eq_cons_iff]
    constructor
    · intro h
      cases hf : writeField t with
      | error e => rw [hf] at h; cases h
      | ok f =>
        cases hfs : ts.mapM writeField with
        | error e => rw [hf, hfs] at h; cases h
        | ok rest =>
          rw [hf, hfs] at h
          cases h
          exact ⟨f, rest, rfl, writeField_eq_ok_iff.1 hf, ih.1 hfs⟩
    · rintro ⟨f, rest, rfl, hf, hrest⟩
      rw [writeField_eq_ok_iff.2 hf, ih.2 hrest]
      rfl

theorem read_ascii {b : Bytes} (h : Ascii b) (c : HeaderCoding) : c.read b = Latin1.ofBytes b := by
  cases c with
  | latin1 => rfl
  | utf8 => exact Utf8.decodeLossy_ascii h

theorem readField_of_name {f : RawHeader} (h : Ascii f.1) (c : HeaderCoding) :
    readField c f = (Latin1.ofBytes (lowered f).1, c.read f.2) := by
  have hsmall : ∀ x ∈ Latin1.ofBytes (lowerBytes f.1), IsSmall x := by
    intro x hx
    obtain ⟨y, hy, rfl⟩ := List.mem_map.1 hx
    exact lowerBytes_small h y hy
  rw [readField, read_ascii (lowerBytes_ascii h), lower_small hsmall]
  rfl

variable {a response : Response}

/-- The texts that are written of the fields that are relayed. -/
def keptTexts (method : String) (a : Response) : List (List Char × List Char) :=
  (keptFields method a).map fun f =>
    (Latin1.ofBytes (lowered f).1, (HeaderCoding.of (statedHeaders a)).read f.2)

/-- What is relayed of an answer whose fields have ASCII names: the length of the body where one is stated,
and the fields that are not dropped, with the text of each value in single bytes. -/
theorem relay_eq_ok_iff (h : ∀ f ∈ a.headers, Ascii f.1) (method : String) :
    relay method a = .ok response ↔ ∃ fs, fs.map fieldText = keptTexts method a ∧
      response = { a with headers := ownLength method a ++ fs } := by
  have hname : ∀ f ∈ statedHeaders a, Ascii f.1 := fun f hf =>
    (mem_statedHeaders hf).elim (h f) fun he => he ▸ (asciiField_length _).1
  have hread := List.map_congr_left fun f hf =>
    readField_of_name (hname f hf) (.of (statedHeaders a))
  have hrelay : relay method a = Except.bind ((keptTexts method a).mapM writeField) fun fs =>
      .ok { a with headers := ownLength method a ++ fs } := by
    simp only [relay, hread, List.filter_map]
    rfl
  simp only [hrelay, ← mapM_writeField_eq_ok_iff]
  cases (keptTexts method a).mapM writeField with
  | error e => exact iff_of_false nofun fun ⟨fs, hfs, _⟩ => nomatch hfs
  | ok fs =>
    constructor
    · intro hr
      exact ⟨fs, rfl, (Except.ok.inj hr).symm⟩
    · rintro ⟨_, hfs, rfl⟩
      cases hfs
      rfl

/-- The answer with the fields that are relayed as they were, but for the letter case of their names. -/
def verbatim (method : String) (a : Response) : Response :=
  { a with headers := ownLength method a ++ (keptFields method a).map lowered }

theorem relay_ascii (h : ∀ f ∈ a.headers, AsciiField f) (method : String) :
    relay method a = .ok (verbatim method a) := by
  refine (relay_eq_ok_iff (fun f hf => (h f hf).1) method).2 ⟨_, ?_, rfl⟩
  rw [List.map_map]
  refine List.map_congr_left fun f hf => congrArg (Prod.mk _) (read_ascii ?_ _).symm
  refine (mem_statedHeaders (List.mem_filter.1 hf).1).elim (fun hf => (h f hf).2) ?_
  exact fun he => he ▸ (asciiField_length _).2

end Gateway

end Changeover
