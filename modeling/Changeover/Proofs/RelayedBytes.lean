import Changeover.Proofs.LegacyProxy

/-!
# Values that are relayed byte for byte

The fields of an answer are read as UTF-8 if all of them can be, and else byte by byte, but they are always
written byte by byte. So values come back as they were if some value is not UTF-8, or if those that are
relayed are ASCII; UTF-8 text beyond ASCII has fewer characters than bytes and comes back as another value,
or not at all (`forward_verbatim_iff`).
-/

namespace Changeover

open Text

namespace Text.Utf8

/-! ### Texts are shorter than their bytes -/

/-- How many characters or unreadable parts are still to come of an open sequence. -/
def opened (p : Option Begun) : Nat := if p.isSome then 1 else 0

theorem start_cases (x : UInt8) : x.toNat < 0x80 ∧ start x = ([some (Char.ofNat x.toNat)], none) ∨
    start x = ([none], none) ∨ ∃ p, start x = ([], some p) := by
  by_cases hx : x.toNat < 0x80
  · exact .inl ⟨hx, start_of_lt hx⟩
  refine .inr ?_
  unfold start
  simp only [hx, if_false]
  split
  · exact .inl rfl
  split
  · exact .inr ⟨_, rfl⟩
  split
  · exact .inr ⟨_, rfl⟩
  split
  · exact .inr ⟨_, rfl⟩
  · exact .inl rfl

theorem length_start (x : UInt8) : (start x).1.length + opened (start x).2 = 1 := by
  rcases start_cases x with ⟨-, h⟩ | h | ⟨p, h⟩ <;> rw [h] <;> rfl

theorem length_push (p : Begun) (x : UInt8) : (p.push x).1.length + opened (p.push x).2 = 1 := by
  unfold Begun.push
  simp only
  split <;> rfl

theorem length_step_le (p : Option Begun) (x : UInt8) :
    (step p x).1.length + opened (step p x).2 ≤ opened p + 1 := by
  cases p with
  | none => exact Nat.le_of_eq (length_start x)
  | some p =>
    have hopened : opened (some p) = 1 := rfl
    rw [step]
    split
    · have hpush := length_push p x
      omega
    · have hstart := length_start x
      simp only [List.length_cons]
      omega

theorem length_scanFrom_le (p : Option Begun) (b : Bytes) :
    (scanFrom p b).length ≤ opened p + b.length := by
  induction b generalizing p with
  | nil =>
    cases p with
    | none => exact Nat.le_refl 0
    | some p => exact Nat.le_refl 1
  | cons x b ih =>
    have hrest := ih (step p x).2
    have hstep := length_step_le p x
    rw [scanFrom_cons, List.length_append, List.length_cons]
    omega

/-- A readable text that begins with an open sequence takes up at least one of the bytes for it. -/
theorem length_scanFrom_some_le {p : Begun} {b : Bytes} (h : none ∉ scanFrom (some p) b) :
    (scanFrom (some p) b).length ≤ b.length := by
  cases b with
  | nil => exact absurd (List.mem_singleton_self none) h
  | cons x b =>
    rw [scanFrom_cons, step] at h ⊢
    split at h
    · next hx =>
      rw [if_pos hx, List.length_append, List.length_cons]
      have hpush := length_push p x
      have hrest := length_scanFrom_le (p.push x).2 b
      omega
    · exact absurd (List.mem_append_left _ List.mem_cons_self) h

theorem ascii_of_length_scan {b : Bytes} (h : none ∉ scan b) (hlength : (scan b).length = b.length) :
    Ascii b := by
  induction b with
  | nil => exact nofun
  | cons x b ih =>
    have hscan : scan (x :: b) = (start x).1 ++ scanFrom (start x).2 b := scanFrom_cons none x b
    rw [hscan, List.length_cons] at hlength
    rw [hscan] at h
    rcases start_cases x with ⟨hx, hs⟩ | hs | ⟨p, hs⟩
    · rw [hs] at h hlength
      have hrest : (scan b).length = b.length := Nat.succ.inj hlength
      refine List.forall_mem_cons.2 ⟨UInt8.lt_iff_toNat_lt.2 hx, ih (fun hn => h ?_) hrest⟩
      exact List.mem_append_right _ hn
    · rw [hs] at h
      exact absurd (List.mem_append_left _ (List.mem_singleton_self none)) h
    · -- the first byte of a sequence has no character of its own, and the others cannot make up for it
      rw [hs] at h hlength
      have hle : (scanFrom (some p) b).length ≤ b.length := length_scanFrom_some_le h
      have hmore : (scanFrom (some p) b).length = b.length + 1 := hlength
      omega

theorem mapM_id_isSome {α : Type} {l : List (Option α)} : (l.mapM id).isSome ↔ none ∉ l := by
  induction l with
  | nil => simp
  | cons o l ih =>
    cases o with
    | none => simp [List.mapM_cons]
    | some a => cases hl : l.mapM id <;> simp_all [List.mapM_cons]

theorem decode?_isSome_iff {b : Bytes} : (decode? b).isSome ↔ none ∉ scan b := mapM_id_isSome

theorem decode?_ascii {b : Bytes} (h : Ascii b) : (decode? b).isSome := by
  rw [← encode_ofBytes h, decode?_encode]
  rfl

/-- The text of readable bytes is the one with a character for each byte only if they are ASCII. -/
theorem ofBytes_eq_decodeLossy_iff {b : Bytes} (h : (decode? b).isSome) :
    Latin1.ofBytes b = decodeLossy b ↔ Ascii b := by
  refine ⟨fun he => ascii_of_length_scan (decode?_isSome_iff.1 h) ?_, fun ha => (decodeLossy_ascii ha).symm⟩
  have hlength := congrArg List.length he
  rw [Latin1.ofBytes, decodeLossy, List.length_map, List.length_map] at hlength
  exact hlength.symm

end Text.Utf8

namespace Gateway

variable {r : Request} {t : Url.Target} {b : Bytes} {a response : Response}

/-- Some value of the answer is not UTF-8. -/
def HasRawValue (a : Response) : Prop := ∃ f ∈ a.headers, Utf8.decode? f.2 = none

theorem mem_statedHeaders_of_mem {f : RawHeader} (h : f ∈ a.headers) : f ∈ statedHeaders a := by
  unfold statedHeaders
  simp only
  split
  · exact h
  · exact List.mem_append_left _ h

theorem decode?_of_mem {f : RawHeader} (h : ¬ HasRawValue a) (hf : f ∈ statedHeaders a) :
    (Utf8.decode? f.2).isSome := by
  rcases mem_statedHeaders hf with hf | rfl
  · exact Option.isSome_iff_ne_none.2 fun hnone => h ⟨f, hf, hnone⟩
  · exact Utf8.decode?_ascii (asciiField_length _).2

/-- One value that is not UTF-8 makes all of them be read byte by byte. -/
theorem coding_cases (h : ∀ f ∈ a.headers, Ascii f.1) :
    HasRawValue a ∧ HeaderCoding.of (statedHeaders a) = .latin1 ∨
      ¬ HasRawValue a ∧ HeaderCoding.of (statedHeaders a) = .utf8 := by
  unfold HeaderCoding.of
  by_cases hraw : HasRawValue a
  · refine .inl ⟨hraw, if_neg fun hall => ?_⟩
    obtain ⟨f, hf, hnone⟩ := hraw
    have hread := (Bool.and_eq_true_iff.1 (List.all_eq_true.1 hall f (mem_statedHeaders_of_mem hf))).2
    exact Option.isSome_iff_ne_none.1 hread hnone
  · refine .inr ⟨hraw, if_pos (List.all_eq_true.2 fun f hf => Bool.and_eq_true_iff.2 ?_)⟩
    refine ⟨Utf8.decode?_ascii ?_, decode?_of_mem hraw hf⟩
    exact (mem_statedHeaders hf).elim (h f) fun he => he ▸ (asciiField_length _).1

theorem exists_map_fieldText_iff {fs : List RawHeader} {text : RawHeader → List Char} :
    (∃ gs : List RawHeader, gs.map fieldText = fs.map fun f => (Latin1.ofBytes (lowered f).1, text f)) ↔
      ∀ f ∈ fs, ∀ c ∈ text f, c.toNat < 256 := by
  constructor
  · rintro ⟨gs, hgs⟩ f hf c hc
    have hmem : (Latin1.ofBytes (lowered f).1, text f) ∈ gs.map fieldText := by
      rw [hgs]
      exact List.mem_map_of_mem hf
    obtain ⟨g, -, hg⟩ := List.mem_map.1 hmem
    have htext : Latin1.ofBytes g.2 = text f := (Prod.ext_iff.1 hg).2
    rw [← htext] at hc
    obtain ⟨x, -, rfl⟩ := List.mem_map.1 hc
    rw [Latin1.toNat_charOf]
    exact x.toNat_lt
  · intro h
    refine ⟨fs.map fun f => ((lowered f).1, (text f).map fun c => UInt8.ofNat c.toNat), ?_⟩
    rw [List.map_map]
    refine List.map_congr_left fun f hf => congrArg (Prod.mk _) ?_
    exact Latin1.ofBytes_of_toBytes? (Latin1.toBytes?_eq (h f hf))

theorem gives_verbatim_iff (ht : forwardedTarget r = .ok t) (h : ∀ f ∈ a.headers, Ascii f.1) :
    (forward r (some b) (.answered a)).Gives (verbatim r.method a) ↔
      ∀ f ∈ keptFields r.method a,
        Latin1.ofBytes f.2 = (HeaderCoding.of (statedHeaders a)).read f.2 := by
  have hfields (fs : List RawHeader) :
      verbatim r.method a = { a with headers := ownLength r.method a ++ fs } ↔
        (keptFields r.method a).map lowered = fs := by
    simp only [verbatim, Response.mk.injEq, true_and, and_true, List.append_cancel_left_eq]
  simp only [gives_forward_iff ht, relay_eq_ok_iff h, hfields, exists_eq_right', keptTexts, List.map_map]
  rw [List.map_inj_left]
  exact forall₂_congr fun f _ => ⟨fun he => (Prod.ext_iff.1 he).2, fun he => Prod.ext_iff.2 ⟨rfl, he⟩⟩

/-- The values of an answer are relayed byte for byte exactly if one of its values is not UTF-8, or those
that are relayed are ASCII. An answer is relayed at all exactly if one of its values is not UTF-8, or none
of those that are relayed has a character beyond single bytes; then what is sent is, byte by byte, the text
that the values have in UTF-8. -/
theorem forward_verbatim_iff (ht : forwardedTarget r = .ok t) (h : ∀ f ∈ a.headers, Ascii f.1) :
    ((forward r (some b) (.answered a)).Gives (verbatim r.method a) ↔
      HasRawValue a ∨ ∀ f ∈ keptFields r.method a, Ascii f.2) ∧
    ((∃ response, (forward r (some b) (.answered a)).Gives response) ↔
      HasRawValue a ∨ ∀ f ∈ keptFields r.method a, ∀ c ∈ Utf8.decodeLossy f.2, c.toNat < 256) ∧
    (¬ HasRawValue a → ∀ response, (forward r (some b) (.answered a)).Gives response ↔
      ∃ fs : List RawHeader, response = { a with headers := ownLength r.method a ++ fs } ∧
        fs.map fieldText = (keptFields r.method a).map fun f =>
          (Latin1.ofBytes (lowered f).1, Utf8.decodeLossy f.2)) := by
  have hgives (response : Response) : (forward r (some b) (.answered a)).Gives response ↔ _ :=
    (gives_forward_iff ht).trans (relay_eq_ok_iff h r.method)
  have hverbatim := gives_verbatim_iff (b := b) ht h
  unfold keptTexts at hgives
  rcases coding_cases h with ⟨hraw, hc⟩ | ⟨hraw, hc⟩ <;> rw [hc] at hverbatim hgives
  · -- what is read byte by byte is written as it was
    have hkept := hverbatim.2 fun f _ => rfl
    exact ⟨iff_of_true hkept (.inl hraw), iff_of_true ⟨_, hkept⟩ (.inl hraw), fun hn => absurd hraw hn⟩
  · simp only [hraw, false_or]
    refine ⟨hverbatim.trans ?_, ?_, fun _ response => (hgives response).trans ?_⟩
    · refine forall₂_congr fun f hf => Utf8.ofBytes_eq_decodeLossy_iff ?_
      exact decode?_of_mem hraw (List.mem_filter.1 hf).1
    · rw [← exists_map_fieldText_iff]
      constructor
      · rintro ⟨response, hr⟩
        obtain ⟨fs, hfs, -⟩ := (hgives response).1 hr
        exact ⟨fs, hfs⟩
      · rintro ⟨fs, hfs⟩
        exact ⟨_, (hgives _).2 ⟨fs, hfs, rfl⟩⟩
    · exact exists_congr fun fs => and_comm

theorem forwardedTarget_innerSlashes : ∃ t, forwardedTarget innerSlashes = .ok t := by
  have hr : SentTarget innerSlashes (Utf8.encode "/a//b%2Fc".toList) :=
    ⟨⟨_, rfl, by decide⟩, by decide, by decide, by decide, by decide, by decide⟩
  exact hr.forwarded (by decide)

/-- An answer with the word `café` in single bytes and with the letter `é` in UTF-8. -/
def mixedCodings : Response where
  status := 200
  headers := [(Utf8.encode "X-Place".toList, [99, 97, 102, 0xE9]), (Utf8.encode "x-name".toList, [0xC3, 0xA9])]

/-- Its values come through as they are. -/
theorem forward_verbatim_iff_mixedCodings :
    (∃ t, forwardedTarget innerSlashes = .ok t) ∧ (∀ f ∈ mixedCodings.headers, Ascii f.1) ∧
      (forward innerSlashes (some []) (.answered mixedCodings)).Gives (verbatim "GET" mixedCodings) := by
  obtain ⟨t, ht⟩ := forwardedTarget_innerSlashes
  have hnames : ∀ f ∈ mixedCodings.headers, Ascii f.1 := by decide
  have hraw : HasRawValue mixedCodings := ⟨_, List.mem_cons_self, by decide⟩
  exact ⟨⟨t, ht⟩, hnames, (forward_verbatim_iff ht hnames).1.2 (.inl hraw)⟩

/-- An answer of which one value is a text in UTF-8. -/
def named (value : List Char) : Response where
  status := 200
  headers := [(Utf8.encode "x-name".toList, Utf8.encode value)]
  body := [122]

/-- The letter `é` in UTF-8 becomes another value, and a text beyond single bytes is not answered at all. -/
theorem named_not_verbatim :
    ¬ (forward innerSlashes (some []) (.answered (named ['é']))).Gives (verbatim "GET" (named ['é'])) ∧
      (forward innerSlashes (some []) (.answered (named ['é']))).Gives
        { named ['é'] with headers := [lengthField [122], (Utf8.encode "x-name".toList, [0xE9])] } ∧
      ∀ response,
        ¬ (forward innerSlashes (some []) (.answered (named ['日']))).Gives response := by
  obtain ⟨t, ht⟩ := forwardedTarget_innerSlashes
  have hnames (value : List Char) : ∀ f ∈ (named value).headers, Ascii f.1 := by
    refine List.forall_mem_cons.2 ⟨?_, nofun⟩
    show Ascii (Utf8.encode "x-name".toList)
    decide
  refine ⟨fun h => ?_, ?_, fun response h => ?_⟩
  · exact absurd ((gives_verbatim_iff ht (hnames _)).1 h) (by decide +kernel)
  · rw [gives_forward_iff ht, relay_eq_ok_iff (hnames _)]
    exact ⟨[(Utf8.encode "x-name".toList, [0xE9])], by decide +kernel, rfl⟩
  · rw [gives_forward_iff ht, relay_eq_ok_iff (hnames _)] at h
    obtain ⟨fs, hfs, -⟩ := h
    have hkept : (Utf8.encode "x-name".toList, Utf8.encode ['日']) ∈ keptFields "GET" (named ['日']) := by
      decide +kernel
    have hsmall := exists_map_fieldText_iff.1 ⟨fs, hfs⟩ _ hkept '日' (by decide +kernel)
    exact absurd hsmall (by decide)

end Gateway

end Changeover
