import Changeover.Proofs.RelayedFields

/-!
# Names of fields in any letter case

A field has a name if its bytes spell it in whatever mix of capitals and small letters (`isNamed`). The
gateway reads a name as text and takes the small letters of all of it. Either way finds an ASCII name in
the same fields (`lower_ofBytes_eq_iff`): a letter beyond ASCII that is one byte has no small letter in
ASCII. So a request's field is passed on (`isForwarded_eq`), and an answer's is left out (`isDropped_eq`),
by its name in any letter case.
-/

namespace Changeover

open Text

namespace Text

namespace Latin1

/-- The small letter of a byte that is read as a character. -/
def small (x : UInt8) : Char :=
  ((partner? (Case.lowerRanges.take 3) x.toNat).map Char.ofNat).getD (charOf x)

theorem of_byte {P : UInt8 → Prop} (h : ∀ n : Fin 256, P (UInt8.ofNat n)) (x : UInt8) : P x := by
  have := h ⟨x.toNat, x.toNat_lt⟩
  rwa [UInt8.ofNat_toNat] at this

/-- A byte has a small letter in ASCII if it is ASCII itself, and then it is the usual one. -/
theorem small_eq_iff (x : UInt8) {c : Char} (hc : c.toNat < 128) :
    small x = c ↔ charOf (if 65 ≤ x && x ≤ 90 then x + 32 else x) = c := by
  have hall : ∀ x : UInt8, small x = charOf (if 65 ≤ x && x ≤ 90 then x + 32 else x) ∨
      128 ≤ (small x).toNat ∧ 128 ≤ (charOf (if 65 ≤ x && x ≤ 90 then x + 32 else x)).toNat :=
    of_byte (by decide +kernel)
  rcases hall x with h | ⟨hsmall, hbyte⟩
  · rw [h]
  · exact iff_of_false (fun h => by rw [h] at hsmall; omega) fun h => by rw [h] at hbyte; omega

theorem lowerChar_charOf (x : UInt8) : Case.lowerChar (charOf x) = [small x] := by
  have hdotted : (x.toNat == 0x130) = false :=
    beq_false_of_ne fun h => absurd x.toNat_lt (by rw [h]; decide)
  simp only [Case.lowerChar, toNat_charOf, hdotted, Case.partner?_byte x.toNat_lt]
  rfl

theorem lower_ofBytes (b : Bytes) : lower (ofBytes b) = b.map small := by
  have hchars : ∀ c ∈ ofBytes b, c ≠ Case.sigma ∧ Case.lowerChar c = [(Case.lowerChar c).headD c] := by
    intro c hc
    obtain ⟨x, -, rfl⟩ := List.mem_map.1 hc
    refine ⟨fun h => ?_, by rw [lowerChar_charOf]; rfl⟩
    have := congrArg Char.toNat h
    rw [toNat_charOf] at this
    exact absurd x.toNat_lt (by rw [this]; decide)
  rw [lower, Case.lowerFrom_map hchars, ofBytes, List.map_map]
  exact List.map_congr_left fun x _ => by rw [Function.comp_apply, lowerChar_charOf]; rfl

end Latin1

end Text

namespace Gateway

theorem lower_ofBytes_eq_iff {b : Bytes} {name : List Char} (h : ∀ c ∈ name, c.toNat < 128) :
    lower (Latin1.ofBytes b) = name ↔ Latin1.ofBytes (lowerBytes b) = name := by
  rw [Latin1.lower_ofBytes]
  induction b generalizing name with
  | nil => exact Iff.rfl
  | cons x b ih =>
    cases name with
    | nil => exact iff_of_false nofun nofun
    | cons c name =>
      obtain ⟨hc, hname⟩ := List.forall_mem_cons.1 h
      rw [List.map_cons, List.cons.injEq, Latin1.small_eq_iff x hc, ih hname, ← List.cons.injEq]
      rfl

/-- Whether a field has a name, in whatever letter case. -/
def isNamed (name : String) (h : RawHeader) : Bool := Latin1.ofBytes (lowerBytes h.1) == name.toList

/-- Whether a field belongs to one connection, in whatever letter case its name is. -/
def isOfConnection (h : RawHeader) : Bool := hopByHop.any (isNamed · h)

theorem lowerBytes_lowerBytes (b : Bytes) : lowerBytes (lowerBytes b) = lowerBytes b := by
  have hall : ∀ x : UInt8, (fun x : UInt8 => if 65 ≤ x && x ≤ 90 then x + 32 else x)
      (if 65 ≤ x && x ≤ 90 then x + 32 else x) = if 65 ≤ x && x ≤ 90 then x + 32 else x :=
    Latin1.of_byte (by decide +kernel)
  rw [lowerBytes, lowerBytes, List.map_map]
  exact List.map_congr_left fun x _ => hall x

theorem isNamed_lowered (name : String) (h : RawHeader) : isNamed name (lowered h) = isNamed name h := by
  rw [isNamed, lowered, lowerBytes_lowerBytes]
  rfl

theorem isOfConnection_lowered (h : RawHeader) : isOfConnection (lowered h) = isOfConnection h := by
  simp only [isOfConnection, isNamed_lowered]

theorem ofList_beq (s : List Char) (name : String) : (String.ofList s == name) = (s == name.toList) := by
  rw [Bool.eq_iff_iff, beq_iff_eq, beq_iff_eq, ← String.toList_inj, String.toList_ofList]

theorem contains_ofList (names : List String) (s : List Char) :
    names.contains (String.ofList s) = names.any (s == ·.toList) := by
  simp only [List.contains_eq_any_beq, ofList_beq]

/-- A field of an answer is left out if it belongs to one connection or tells the coding of the body, and
also if it tells the length and the answer has a body. -/
theorem isDropped_eq (isHead : Bool) (h : RawHeader) :
    isDropped isHead (Latin1.ofBytes (lowered h).1) = (isOfConnection h ||
      isNamed "content-encoding" h || isNamed "content-length" h && !isHead) := by
  simp only [isDropped, contains_ofList, ofList_beq]
  rfl

theorem isForwarded_eq (h : RawHeader) : isForwarded h = !(isOfConnection h || isNamed "host" h) := by
  have hascii : ("host" :: hopByHop).all (·.toList.all (·.toNat < 128)) = true := by decide
  have hnames : ∀ name ∈ "host" :: hopByHop, ∀ c ∈ name.toList, c.toNat < 128 := fun name hn c hc =>
    of_decide_eq_true (List.all_eq_true.1 (List.all_eq_true.1 hascii name hn) c hc)
  have hspelled : ∀ name ∈ "host" :: hopByHop,
      (lower (Latin1.ofBytes h.1) == name.toList) = isNamed name h := by
    intro name hn
    rw [isNamed, Bool.eq_iff_iff, beq_iff_eq, beq_iff_eq, lower_ofBytes_eq_iff (hnames name hn)]
  have hconnection : hopByHop.any (lower (Latin1.ofBytes h.1) == ·.toList) = isOfConnection h := by
    rw [isOfConnection, Bool.eq_iff_iff, List.any_eq_true, List.any_eq_true]
    exact exists_congr fun name => and_congr_right fun hn => by
      rw [hspelled name (List.mem_cons_of_mem _ hn)]
  simp only [isForwarded, contains_ofList, bne, ofList_beq, hconnection,
    hspelled "host" List.mem_cons_self, Bool.not_or]

end Gateway

end Changeover
