import Changeover.Proofs.FieldNames
import Changeover.Proofs.RedirectRuns
import Changeover.Report.Event
import Changeover.Robot

/-!
# Fields grouped by name

The fields of a request are grouped under the canonical forms of their names. The canonical form of an ASCII
name has the letters of the name, and does not depend on their case (`Header.toLower_canonical`,
`Header.canonical_toLower`). So there is one group for each name in whatever case, in order of first
appearance, with the values of that name in order of arrival (`Header.group_eq`), and whoever looks for a name
finds the first field that has it (`Snapshot.headers_grouped`).
-/

namespace Changeover

open Text
open Gateway (isNamed lowerBytes lowerBytes_small ofList_beq)

namespace Text

namespace Case

/-- What is asked below of the letter cases of an ASCII character. -/
structure Cased (c : Char) : Prop where
  lowered : ((partner? (lowerRanges.take 3) c.toNat).map Char.ofNat).getD c = c.toLower
  raised : ((partner? (upperRanges.take 1) c.toNat).map Char.ofNat).getD c = c.toUpper
  small : IsSmall c.toLower
  lower_self : IsSmall c → c.toLower = c
  lower_upper : c.toUpper.toLower = c.toLower
  upper_lower : c.toLower.toUpper = c.toUpper
  hyphen : c.toLower = '-' → c = '-'

instance (c : Char) : Decidable (Cased c) :=
  decidable_of_decidable_of_iff (p := _ ∧ _ ∧ _ ∧ _ ∧ _ ∧ _ ∧ _)
    ⟨fun ⟨h₁, h₂, h₃, h₄, h₅, h₆, h₇⟩ => ⟨h₁, h₂, h₃, h₄, h₅, h₆, h₇⟩,
      fun h => ⟨h.1, h.2, h.3, h.4, h.5, h.6, h.7⟩⟩

theorem cased_ascii {c : Char} (h : c.toNat < 128) : Cased c := of_ascii (by decide +kernel) h

theorem tables_beyond_ascii : (∀ r ∈ titleRanges, 128 ≤ r.1) ∧ (∀ r ∈ upperRanges.drop 1, 128 ≤ r.1) ∧
    (∀ e ∈ titleExpansions, 128 ≤ e.1) ∧ ∀ e ∈ upperExpansions, 128 ≤ e.1 := by
  decide +kernel

theorem lowerChar_ascii {c : Char} (h : c.toNat < 128) : lowerChar c = [c.toLower] := by
  have hdotted : (c.toNat == 0x130) = false := beq_false_of_ne (by omega)
  rw [lowerChar, hdotted, partner?_byte (by omega), (cased_ascii h).lowered]
  rfl

theorem lookup_beyond_ascii {table : List (Nat × List Nat)} (ht : ∀ e ∈ table, 128 ≤ e.1) {c : Char}
    (h : c.toNat < 128) : table.lookup c.toNat = none := by
  refine List.lookup_eq_none_iff.2 fun e he => bne_iff_ne.2 fun hc => ?_
  have := ht e he
  omega

theorem upperChar_ascii {c : Char} (h : c.toNat < 128) : upperChar c = [c.toUpper] := by
  obtain ⟨-, huppers, -, huppered⟩ := tables_beyond_ascii
  have hupper : partner? upperRanges c.toNat = partner? (upperRanges.take 1) c.toNat :=
    partner?_take fun r hr => Nat.lt_of_lt_of_le h (huppers r hr)
  rw [← (cased_ascii h).raised, ← hupper]
  simp only [upperChar, lookup_beyond_ascii huppered h]

theorem titleChar_ascii {c : Char} (h : c.toNat < 128) : titleChar c = [c.toUpper] := by
  obtain ⟨htitles, -, htitled, -⟩ := tables_beyond_ascii
  have htitle : partner? titleRanges c.toNat = none :=
    partner?_take (k := 0) fun r hr => Nat.lt_of_lt_of_le h (htitles r hr)
  rw [titleChar, lookup_beyond_ascii htitled h, htitle]
  exact upperChar_ascii h

theorem lowerFrom_ascii {s : List Char} (h : ∀ c ∈ s, c.toNat < 128) (before : List Char) :
    lowerFrom before s = s.map Char.toLower := by
  refine lowerFrom_map (fun c hc => ⟨?_, lowerChar_ascii (h c hc)⟩) before
  rintro rfl
  exact absurd (h _ hc) (by decide)

end Case

theorem capitalize_ascii {c : Char} {s : List Char} (h : ∀ x ∈ c :: s, x.toNat < 128) :
    capitalize (c :: s) = c.toUpper :: s.map Char.toLower := by
  obtain ⟨hc, hs⟩ := List.forall_mem_cons.1 h
  rw [capitalize, Case.titleChar_ascii hc, Case.lowerFrom_ascii hs]
  rfl

end Text

namespace Table

/-- To change the entry of one of some names with different keys changes the value of that name, or adds one. -/
theorem alter_map {α ι : Type} [DecidableEq ι] {key : ι → String} {v : ι → α} {names : List ι} {m : ι}
    (hkey : ∀ n ∈ names, key n = key m → n = m) (hnames : names.Nodup) (f : Option α → α) :
    alter (names.map fun n => (key n, v n)) (key m) f =
      if m ∈ names then names.map fun n => (key n, if n = m then f (some (v n)) else v n)
      else (names.map fun n => (key n, v n)) ++ [(key m, f none)] := by
  induction names with
  | nil => rfl
  | cons n names ih =>
    obtain ⟨hn, hkey⟩ := List.forall_mem_cons.1 hkey
    obtain ⟨hnew, hnames⟩ := List.nodup_cons.1 hnames
    rw [List.map_cons, alter]
    by_cases hnm : n = m
    · subst hnm
      have hrest : ∀ x ∈ names, x ≠ n := fun x hx hxn => hnew (hxn ▸ hx)
      simp only [beq_self_eq_true, if_true, List.mem_cons_self, List.map_cons, List.cons.injEq, true_and]
      exact List.map_congr_left fun x hx => by rw [if_neg (hrest x hx)]
    · have hne : (key n == key m) = false := beq_false_of_ne fun h => hnm (hn h)
      rw [hne, if_neg Bool.false_ne_true, ih hkey hnames]
      by_cases hm : m ∈ names <;> simp [hm, hnm, Ne.symm hnm]

end Table

namespace Header

/-! ### Canonical names -/

/-- A name is a part without hyphens, or such a part, a hyphen and a name. -/
theorem parts_induction {P : List Char → Prop} (last : ∀ s, '-' ∉ s → P s)
    (part : ∀ s r, '-' ∉ s → P r → P (s ++ '-' :: r)) (s : List Char) : P s := by
  by_cases h : '-' ∈ s
  · have hs := before_append_after h
    have hlt : (after '-' s).length < s.length := by
      have := congrArg List.length hs
      rw [List.length_append, List.length_cons] at this
      omega
    rw [← hs]
    exact part _ _ (not_mem_before '-' s) (parts_induction last part (after '-' s))
  · exact last s h
termination_by s.length

theorem canonical_of_not_mem {s : List Char} (h : '-' ∉ s) : canonical s = capitalize s := by
  rw [canonical, List.splitOn_eq_singleton h]
  exact List.append_nil _

theorem canonical_append {s : List Char} (h : '-' ∉ s) (r : List Char) :
    canonical (s ++ '-' :: r) = capitalize s ++ '-' :: canonical r := by
  rw [canonical, List.splitOn_append_cons_self_of_not_mem h, List.map_cons]
  obtain ⟨p, ps, hps⟩ := List.exists_cons_of_ne_nil (List.splitOn_ne_nil '-' r)
  rw [canonical, hps, List.map_cons, List.intercalate_cons_cons]
  simp

theorem toLower_toLower {s : List Char} (h : ∀ c ∈ s, c.toNat < 128) :
    (s.map Char.toLower).map Char.toLower = s.map Char.toLower := by
  rw [List.map_map]
  refine List.map_congr_left fun c hc => ?_
  have hsmall := (Case.cased_ascii (h c hc)).small
  exact (Case.cased_ascii hsmall.1).lower_self hsmall

theorem toLower_capitalize {s : List Char} (h : ∀ c ∈ s, c.toNat < 128) :
    (capitalize s).map Char.toLower = s.map Char.toLower := by
  cases s with
  | nil => rfl
  | cons c s =>
    obtain ⟨hc, hs⟩ := List.forall_mem_cons.1 h
    rw [capitalize_ascii h, List.map_cons, List.map_cons, toLower_toLower hs, (Case.cased_ascii hc).lower_upper]

theorem capitalize_toLower {s : List Char} (h : ∀ c ∈ s, c.toNat < 128) :
    capitalize (s.map Char.toLower) = capitalize s := by
  cases s with
  | nil => rfl
  | cons c s =>
    obtain ⟨hc, hs⟩ := List.forall_mem_cons.1 h
    have hsmall : ∀ x ∈ c.toLower :: s.map Char.toLower, x.toNat < 128 := by
      rw [← List.map_cons]
      intro x hx
      obtain ⟨y, hy, rfl⟩ := List.mem_map.1 hx
      exact (Case.cased_ascii (h y hy)).small.1
    rw [List.map_cons, capitalize_ascii h, capitalize_ascii hsmall, toLower_toLower hs,
      (Case.cased_ascii hc).upper_lower]

theorem toLower_canonical {s : List Char} (h : ∀ c ∈ s, c.toNat < 128) :
    (canonical s).map Char.toLower = s.map Char.toLower := by
  induction s using parts_induction with
  | last s hs => rw [canonical_of_not_mem hs, toLower_capitalize h]
  | part s r hs ih =>
    obtain ⟨h, hr⟩ := List.forall_mem_append.1 h
    rw [canonical_append hs, List.map_append, List.map_append, List.map_cons, List.map_cons,
      toLower_capitalize h, ih (List.forall_mem_cons.1 hr).2]

theorem canonical_toLower {s : List Char} (h : ∀ c ∈ s, c.toNat < 128) :
    canonical (s.map Char.toLower) = canonical s := by
  have hhyphen {s : List Char} (h : ∀ c ∈ s, c.toNat < 128) (hs : '-' ∉ s) : '-' ∉ s.map Char.toLower := by
    intro hmem
    obtain ⟨c, hc, hlower⟩ := List.mem_map.1 hmem
    obtain rfl : c = '-' := (Case.cased_ascii (h c hc)).hyphen hlower
    exact hs hc
  induction s using parts_induction with
  | last s hs => rw [canonical_of_not_mem hs, canonical_of_not_mem (hhyphen h hs), capitalize_toLower h]
  | part s r hs ih =>
    obtain ⟨h, hr⟩ := List.forall_mem_append.1 h
    have hmap : (s ++ '-' :: r).map Char.toLower = s.map Char.toLower ++ '-' :: r.map Char.toLower := by
      rw [List.map_append]
      rfl
    rw [hmap, canonical_append (hhyphen h hs), canonical_append hs, capitalize_toLower h,
      ih (List.forall_mem_cons.1 hr).2]

/-- A name of ASCII characters without capitals. -/
def SmallName (name : String) : Prop := ∀ c ∈ name.toList, IsSmall c

theorem toList_toLower (name : String) : name.toLower.toList = name.toList.map Char.toLower := String.toList_map

theorem smallName_toLower {name : String} (h : ∀ c ∈ name.toList, c.toNat < 128) : SmallName name.toLower := by
  intro c hc
  rw [toList_toLower] at hc
  obtain ⟨x, hx, rfl⟩ := List.mem_map.1 hc
  exact (Case.cased_ascii (h x hx)).small

theorem SmallName.toLower_canonicalName {name : String} (h : SmallName name) :
    (canonicalName name).toLower = name := by
  have hself : name.toList.map Char.toLower = name.toList := by
    refine (List.map_congr_left fun c hc => ?_).trans (List.map_id _)
    exact (Case.cased_ascii (h c hc).1).lower_self (h c hc)
  rw [← String.toList_inj, toList_toLower, canonicalName, String.toList_ofList,
    toLower_canonical fun c hc => (h c hc).1, hself]

theorem SmallName.canonicalName_inj {name other : String} (h : SmallName name) (ho : SmallName other) :
    canonicalName name = canonicalName other ↔ name = other :=
  ⟨fun he => by rw [← h.toLower_canonicalName, he, ho.toLower_canonicalName], fun he => he ▸ rfl⟩

/-! ### Groups -/

theorem nodup_eraseDups {α : Type} [BEq α] [LawfulBEq α] (l : List α) : l.eraseDups.Nodup := by
  match l with
  | [] => exact List.nodup_nil
  | a :: l =>
    rw [List.eraseDups_cons, List.nodup_cons]
    refine ⟨fun h => ?_, nodup_eraseDups (l.filter fun b => !b == a)⟩
    simpa using List.mem_eraseDups.1 h
termination_by l.length
decreasing_by exact Nat.lt_succ_of_le (List.length_filter_le ..)

/-- The name of a field in small letters. -/
def smallName (h : RawHeader) : String := Latin1.text (lowerBytes h.1)

/-- The names of fields in small letters, in order of first appearance. -/
def names (hs : List RawHeader) : List String := (hs.map smallName).eraseDups

/-- The values of the fields of a name, in order of arrival. -/
def valuesOf (hs : List RawHeader) (name : String) : List String :=
  (hs.filter (isNamed name)).map fun h => Latin1.text h.2

/-- The value of the first field of a name; empty when there is none. -/
def firstValue (hs : List RawHeader) (name : String) : String :=
  ((hs.find? (isNamed name)).map fun h => Latin1.text h.2).getD ""

variable {hs : List RawHeader} {h : RawHeader} {name : String}

theorem isNamed_eq (name : String) (h : RawHeader) : isNamed name h = (smallName h == name) := by
  rw [isNamed, smallName, Latin1.text, ofList_beq]

theorem ofBytes_lowerBytes (b : Bytes) :
    Latin1.ofBytes (lowerBytes b) = (Latin1.ofBytes b).map Char.toLower := by
  have hall : ∀ x : UInt8, Latin1.charOf (if 65 ≤ x && x ≤ 90 then x + 32 else x) =
      (Latin1.charOf x).toLower := Latin1.of_byte (by decide +kernel)
  rw [Latin1.ofBytes, Latin1.ofBytes, lowerBytes, List.map_map, List.map_map]
  exact List.map_congr_left fun x _ => hall x

theorem ofBytes_ascii {b : Bytes} (hb : Ascii b) : ∀ c ∈ Latin1.ofBytes b, c.toNat < 128 := by
  intro c hc
  obtain ⟨x, hx, rfl⟩ := List.mem_map.1 hc
  rw [Latin1.toNat_charOf]
  exact UInt8.lt_iff_toNat_lt.1 (hb x hx)

theorem smallName_smallName (hh : Ascii h.1) : SmallName (smallName h) := by
  intro c hc
  rw [smallName, Latin1.text, String.toList_ofList] at hc
  obtain ⟨x, hx, rfl⟩ := List.mem_map.1 hc
  exact lowerBytes_small hh x hx

theorem mem_names : name ∈ names hs ↔ ∃ h ∈ hs, smallName h = name := by
  rw [names, List.mem_eraseDups, List.mem_map]

theorem smallName_of_mem_names (hascii : ∀ h ∈ hs, Ascii h.1) (hn : name ∈ names hs) : SmallName name := by
  obtain ⟨h, hh, rfl⟩ := mem_names.1 hn
  exact smallName_smallName (hascii h hh)

theorem nodup_names (hs : List RawHeader) : (names hs).Nodup := nodup_eraseDups _

theorem names_concat (hs : List RawHeader) (h : RawHeader) :
    names (hs ++ [h]) = if smallName h ∈ names hs then names hs else names hs ++ [smallName h] := by
  rw [names, List.map_append, List.eraseDups_append, ← names]
  by_cases hn : smallName h ∈ names hs
  · have hold : smallName h ∈ hs.map smallName := List.mem_eraseDups.1 hn
    simp [List.removeAll, hn, hold]
  · have hnew : smallName h ∉ hs.map smallName := mt List.mem_eraseDups.2 hn
    simp [List.removeAll, List.eraseDups_cons, hn, hnew]

theorem valuesOf_concat (hs : List RawHeader) (h : RawHeader) (name : String) :
    valuesOf (hs ++ [h]) name = valuesOf hs name ++ if smallName h = name then [Latin1.text h.2] else [] := by
  have hlast : (([h].filter (isNamed name)).map fun h => Latin1.text h.2) =
      if smallName h = name then [Latin1.text h.2] else [] := by
    by_cases hn : smallName h = name <;> simp [isNamed_eq, hn]
  rw [valuesOf, List.filter_append, List.map_append, hlast, ← valuesOf]

theorem valuesOf_eq_nil (hn : name ∉ names hs) : valuesOf hs name = [] := by
  rw [valuesOf, List.map_eq_nil_iff, List.filter_eq_nil_iff]
  intro h hh hnamed
  rw [isNamed_eq, beq_iff_eq] at hnamed
  exact hn (mem_names.2 ⟨h, hh, hnamed⟩)

/-- The group of a name. -/
def entry (hs : List RawHeader) (name : String) : String × List String := (canonicalName name, valuesOf hs name)

theorem add_entries (hascii : ∀ h ∈ hs, Ascii h.1) (hh : Ascii h.1) :
    add ((names hs).map (entry hs)) h = (names (hs ++ [h])).map (entry (hs ++ [h])) := by
  have hkey : String.ofList (canonical (Latin1.ofBytes h.1)) = canonicalName (smallName h) := by
    rw [canonicalName, smallName, Latin1.text, String.toList_ofList, ofBytes_lowerBytes,
      canonical_toLower (ofBytes_ascii hh)]
  have hinj : ∀ n ∈ names hs, canonicalName n = canonicalName (smallName h) → n = smallName h := fun n hn =>
    ((smallName_of_mem_names hascii hn).canonicalName_inj (smallName_smallName hh)).1
  rw [add, hkey]
  refine (Table.alter_map hinj (nodup_names hs) _).trans ?_
  rw [names_concat]
  by_cases hn : smallName h ∈ names hs
  · rw [if_pos hn, if_pos hn]
    refine List.map_congr_left fun n _ => ?_
    rw [entry, valuesOf_concat]
    by_cases hnh : n = smallName h
    · simp [hnh]
    · simp [hnh, Ne.symm hnh]
  · have hold : (names hs).map (entry hs) = (names hs).map (entry (hs ++ [h])) := by
      refine List.map_congr_left fun n hmem => ?_
      have hne : smallName h ≠ n := fun he => hn (he ▸ hmem)
      simp [entry, valuesOf_concat, hne]
    have hnew : (canonicalName (smallName h), [Latin1.text h.2]) = entry (hs ++ [h]) (smallName h) := by
      simp [entry, valuesOf_concat, valuesOf_eq_nil hn]
    rw [if_neg hn, if_neg hn, List.map_append, ← hold, List.map_singleton, ← hnew]
    rfl

/-- Fields with ASCII names are grouped as said: one group for each name. -/
theorem group_eq (hascii : ∀ h ∈ hs, Ascii h.1) : group hs = (names hs).map (entry hs) := by
  suffices hall : ∀ before : List RawHeader, (∀ h ∈ before ++ hs, Ascii h.1) →
      hs.foldl add ((names before).map (entry before)) = (names (before ++ hs)).map (entry (before ++ hs)) from
    hall [] hascii
  clear hascii
  induction hs with
  | nil => exact fun before _ => by rw [List.append_nil]; rfl
  | cons h hs ih =>
    intro before hall
    obtain ⟨hbefore, hrest⟩ := List.forall_mem_append.1 hall
    rw [List.foldl_cons, add_entries hbefore (hrest h List.mem_cons_self)]
    have hstep := ih (before ++ [h]) (by rwa [List.append_assoc])
    rwa [List.append_assoc] at hstep

theorem get?_entries {ns : List String} (hns : ∀ n ∈ ns, SmallName n) (hn : SmallName name) :
    Table.get? (ns.map (entry hs)) (canonicalName name) =
      if name ∈ ns then some (valuesOf hs name) else none := by
  induction ns with
  | nil => rfl
  | cons n ns ih =>
    obtain ⟨hsmall, hns⟩ := List.forall_mem_cons.1 hns
    rw [List.map_cons, entry, Table.get?, ih hns]
    by_cases hname : n = name
    · simp [hname]
    · have hne : (canonicalName n == canonicalName name) = false :=
        beq_false_of_ne fun he => hname ((hsmall.canonicalName_inj hn).1 he)
      simp [hne, Ne.symm hname]

theorem head?_valuesOf (hs : List RawHeader) (name : String) :
    (valuesOf hs name).head?.getD "" = firstValue hs name := by
  rw [valuesOf, List.head?_map, List.head?_filter, firstValue]

/-- Whoever looks for an ASCII name finds the first field that has it in whatever letter case. -/
theorem value_group (hascii : ∀ h ∈ hs, Ascii h.1) (hname : ∀ c ∈ name.toList, c.toNat < 128) :
    value (group hs) name = firstValue hs name.toLower := by
  have hkey : String.ofList (canonical (lower name.toList)) = canonicalName name.toLower := by
    rw [canonicalName, toList_toLower, lower, Case.lowerFrom_ascii hname]
  have hsmall : ∀ n ∈ names hs, SmallName n := fun n hn => smallName_of_mem_names hascii hn
  rw [value, group_eq hascii, hkey]
  simp only [get?_entries hsmall (smallName_toLower hname)]
  rw [← head?_valuesOf]
  split
  · rfl
  · next hn => rw [valuesOf_eq_nil hn]; rfl

theorem erase_entries {ns : List String} (hns : ∀ n ∈ ns, SmallName n) (hn : SmallName name) :
    Table.erase (ns.map (entry hs)) (canonicalName name) = (ns.filter (· != name)).map (entry hs) := by
  rw [Table.erase, List.filter_map]
  refine congrArg _ (List.filter_congr fun n hmem => ?_)
  rw [Bool.eq_iff_iff, Function.comp_apply, bne_iff_ne, bne_iff_ne, entry]
  exact not_congr ((hns n hmem).canonicalName_inj hn)

end Header

namespace Snapshot

variable {r : Request} {a : Snapshot}

/-- The headers of a request with ASCII names are grouped as said: there is one group for each name, whatever its
letter case, in order of first appearance, with all values of that name in order of arrival. A look-up in whatever
case gives the first of these values, so the first `User-Agent` says whether a robot sent the request; an event has
the same groups but that of `Host`. -/
theorem headers_grouped (hascii : ∀ h ∈ r.headers, Ascii h.1) (ha : ofRequest r = .ok a) :
    a.headers = (Header.names r.headers).map (Header.entry r.headers) ∧
      (Header.names r.headers).Nodup ∧
      (∀ name ∈ Header.names r.headers, (Header.canonicalName name).toLower = name) ∧
      (∀ name : String, (∀ c ∈ name.toList, c.toNat < 128) →
        a.header name = Header.firstValue r.headers name.toLower) ∧
      Robot.sent a = Robot.isRobotName (Header.firstValue r.headers "user-agent").toList ∧
      ∀ s latency isRobot status, (Report.Event.ofSnapshot s a latency isRobot status).headers =
        ((Header.names r.headers).filter (· != "host")).map (Header.entry r.headers) := by
  obtain ⟨host, path, -, rfl⟩ := ofRequest_eq_ok ha
  have hsmall : ∀ name ∈ Header.names r.headers, Header.SmallName name :=
    fun name hn => Header.smallName_of_mem_names hascii hn
  have hlookup (name : String) (hname : ∀ c ∈ name.toList, c.toNat < 128) :
      Header.value (Header.group r.headers) name = Header.firstValue r.headers name.toLower :=
    Header.value_group hascii hname
  have hgroup := Header.group_eq hascii
  refine ⟨hgroup, Header.nodup_names _, fun name hn => (hsmall name hn).toLower_canonicalName, hlookup, ?_, ?_⟩
  · have hagent := hlookup "User-Agent" (forall_of_all (by decide))
    have hname : "User-Agent".toLower = "user-agent" := by decide +kernel
    rw [hname] at hagent
    exact congrArg (fun v : String => Robot.isRobotName v.toList) hagent
  · intro s latency isRobot status
    have hhost : Header.SmallName "host" := forall_of_all (by decide)
    have herase : Table.erase ((Header.names r.headers).map (Header.entry r.headers))
        (Header.canonicalName "host") = _ := Header.erase_entries hsmall hhost
    rwa [← hgroup] at herase

/-- A request whose names mix their letter cases and come back after others. -/
def mixedCases : Request where
  headers := [Header.raw "X-forwarded-FOR" "1", Header.raw "hOST" "godoc.org",
    Header.raw "x-Forwarded-for" "2", Header.raw "user-AGENT" "curl/8", Header.raw "User-Agent" "Mozilla/5.0"]

theorem headers_grouped_mixedCases :
    (∀ h ∈ mixedCases.headers, Ascii h.1) ∧
      ∃ a, ofRequest mixedCases = .ok a ∧
        a.headers = [("X-Forwarded-For", ["1", "2"]), ("Host", ["godoc.org"]),
          ("User-Agent", ["curl/8", "Mozilla/5.0"])] ∧
        a.header "USER-agent" = "curl/8" ∧ Robot.sent a = true ∧
        (Report.Event.ofSnapshot {} a ⟨0⟩ true 200).headers =
          [("X-Forwarded-For", ["1", "2"]), ("User-Agent", ["curl/8", "Mozilla/5.0"])] := by
  have hascii : ∀ h ∈ mixedCases.headers, Ascii h.1 := by decide
  obtain ⟨hgroups, -, -, hlookup, hrobot, hevent⟩ := headers_grouped hascii rfl
  refine ⟨hascii, _, rfl, hgroups.trans (by decide +kernel), ?_, hrobot.trans (by decide +kernel), ?_⟩
  · exact (hlookup "USER-agent" (forall_of_all (by decide))).trans (by decide +kernel)
  · exact (hevent {} _ true 200).trans (by decide +kernel)

end Snapshot

end Changeover
