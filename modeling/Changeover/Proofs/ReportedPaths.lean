import Changeover.Report.Filter

/-!
# Which paths are reported

The extension of a path is found in two steps, the last segment and then the last dot in it. A text that holds
neither a slash nor a dot is what stands after that dot exactly if the path ends with a dot and that text
(`pathExtension_eq_cons_iff`): both marks then stand before the text, so no later one can come between. Hence the
filter asks for a beginning, for one of five endings, or for a whole path (`isReported_eq_false_iff`).
-/

namespace Changeover

open Text

namespace Report

variable {path ext : List Char}

theorem suffix_lastSegment_iff (h : '/' ∉ ext) : ext <:+ afterLast '/' path ↔ ext <:+ path := by
  constructor
  · intro hs
    exact hs.trans (afterLast_suffix '/' path)
  · rintro ⟨front, rfl⟩
    rw [afterLast_append_of_not_mem h]
    exact List.suffix_append _ _

theorem dot_suffix_iff {name : List Char} (h : '.' ∉ ext) :
    '.' :: ext <:+ name ↔ '.' ∈ name ∧ afterLast '.' name = ext := by
  constructor
  · rintro ⟨front, rfl⟩
    have hsplit : front ++ '.' :: ext = (front ++ ['.']) ++ ext := by simp
    refine ⟨by simp, ?_⟩
    rw [hsplit, afterLast_append_of_not_mem h]
    simp [afterLast, before]
  · rintro ⟨hdot, rfl⟩
    exact cons_afterLast_suffix hdot

theorem pathExtension_eq (path : List Char) : pathExtension path =
    if '.' ∈ afterLast '/' path then '.' :: afterLast '.' (afterLast '/' path) else [] := by
  simp only [pathExtension, List.contains_iff_mem]

/-- What stands after the dot of an extension holds neither mark and ends the path. -/
theorem pathExtension_eq_cons_iff :
    pathExtension path = '.' :: ext ↔ '/' ∉ ext ∧ '.' ∉ ext ∧ '.' :: ext <:+ path := by
  have hslash : '/' ∉ '.' :: ext ↔ '/' ∉ ext := by simp
  rw [pathExtension_eq]
  constructor
  · intro h
    split at h
    · next hdot =>
      obtain ⟨-, rfl⟩ := List.cons.inj h
      have hname := cons_afterLast_suffix hdot
      have hnone : '/' ∉ '.' :: afterLast '.' (afterLast '/' path) := fun hm =>
        not_mem_afterLast '/' path (hname.subset hm)
      exact ⟨hslash.1 hnone, not_mem_afterLast _ _, (suffix_lastSegment_iff hnone).1 hname⟩
    · cases h
  · rintro ⟨hs, hd, hend⟩
    rw [← suffix_lastSegment_iff (hslash.2 hs), dot_suffix_iff hd] at hend
    obtain ⟨hdot, rfl⟩ := hend
    rw [if_pos hdot]

/-- The path ends like that of a file that goes with a page. -/
def EndsLikeAsset (path : List Char) : Prop :=
  ∃ ending ∈ [".css", ".html", ".js", ".txt", ".xml"], ending.toList <:+ path

theorem pathExtension_mem_iff : pathExtension path ∈ assetExtensions ↔ EndsLikeAsset path := by
  have hplain : ∀ ending ∈ ["css", "html", "js", "txt", "xml"],
      '/' ∉ ending.toList ∧ '.' ∉ ending.toList := by decide
  have hone : ∀ ending ∈ ["css", "html", "js", "txt", "xml"],
      pathExtension path = '.' :: ending.toList ↔ '.' :: ending.toList <:+ path := by
    intro ending he
    rw [pathExtension_eq_cons_iff, and_iff_right (hplain ending he).1, and_iff_right (hplain ending he).2]
  simp only [List.forall_mem_cons] at hone
  obtain ⟨hcss, hhtml, hjs, htxt, hxml, -⟩ := hone
  simp only [assetExtensions, EndsLikeAsset, List.mem_cons, List.not_mem_nil, or_false, exists_eq_or_imp,
    exists_eq_left]
  exact or_congr hcss (or_congr hhtml (or_congr hjs (or_congr htxt hxml)))

/-- A path is left out exactly if it is the platform's, ends like that of a file that goes with a page, or is one of
the two operational ones; and its extension is one of such a file exactly if it ends like that. -/
theorem isReported_eq_false_iff (path : List Char) :
    (isReported path = false ↔ "/_ah/".toList <+: path ∨ EndsLikeAsset path ∨
      path = "/-/bot".toList ∨ path = "/-/refresh".toList) ∧
    (pathExtension path ∈ assetExtensions ↔ EndsLikeAsset path) := by
  refine ⟨?_, pathExtension_mem_iff⟩
  rw [isReported, Bool.not_eq_false', Bool.or_eq_true, Bool.or_eq_true, List.isPrefixOf_iff_prefix,
    List.contains_iff_mem, List.contains_iff_mem, pathExtension_mem_iff, or_assoc]
  simp [operationalPaths]

/-- Dots of directories do not count, of several dots the last one does, and a name may be all extension. -/
example : isReported "/a.css/b".toList = true ∧ isReported "/a.css/".toList = true ∧
    isReported "/b.min.js".toList = false ∧ isReported ".xml".toList = false ∧
    isReported "/a.js.".toList = true := by decide

end Report

end Changeover
