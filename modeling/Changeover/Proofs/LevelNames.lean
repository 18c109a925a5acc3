import Changeover.Log.Record
import Changeover.Proofs.LetterCase

/-!
# The level that the environment asks for

A text asks for the level that it names in whatever case, and for `info` if it names none (`AsksFor`). It gets what it
asks for unless it names one of the two other things that have a name in capitals, the layout of lines and the table
of layouts: then there is no configuration at all (`Config.threshold_asked_iff`). A name is looked up in capitals, so
all that counts are the texts that spell one of the ten names.
-/

namespace Changeover.Log

open Text

variable {text : String}

/-- The text is the name, which is in capitals, in whatever case. -/
def Names (text name : String) : Prop := Spells text.toList name.toList

/-- The names of the levels and the numbers that they stand for. -/
def levelNumbers : List (String × Nat) :=
  [("DEBUG", 10), ("INFO", 20), ("WARNING", 30), ("WARN", 30), ("ERROR", 40), ("CRITICAL", 50), ("FATAL", 50),
    ("NOTSET", 0)]

/-- The number that a text asks for. -/
inductive AsksFor (text : String) : Nat → Prop
  | named {level : String × Nat} : level ∈ levelNumbers → Names text level.1 → AsksFor text level.2
  | unnamed : (∀ level ∈ levelNumbers, ¬ Names text level.1) → AsksFor text 20

/-- The name of what is no level. -/
def NotALevel.name : NotALevel → String
  | .layout => "BASIC_FORMAT"
  | .layouts => "_STYLES"

theorem exists_asksFor (text : String) : ∃ n, AsksFor text n := by
  by_cases h : ∃ level ∈ levelNumbers, Names text level.1
  · obtain ⟨level, hl, hn⟩ := h
    exact ⟨level.2, .named hl hn⟩
  · exact ⟨20, .unnamed fun level hl hn => h ⟨level, hl, hn⟩⟩

theorem meaning?_of_names {name : String} (h : Names text name) : meaning? text = meanings.get? name := by
  rw [meaning?, Spells.upper_eq h, String.ofList_toList]

theorem meaning?_eq_none (h : ∀ name ∈ meanings.map (·.1), ¬ Names text name) : meaning? text = none := by
  have hascii : ∀ name ∈ meanings.map (·.1), name.toList.all (fun c => decide (c.toNat < 128)) = true := by decide
  refine Table.get?_eq_none fun e he hkey => ?_
  have hname : e.1 ∈ meanings.map (·.1) := List.mem_map_of_mem he
  have hupper : upper text.toList = e.1.toList := by rw [hkey, String.toList_ofList]
  exact h _ hname ((upper_eq_iff_spells (forall_of_all (hascii _ hname))).1 hupper)

theorem thresholdNamed_level {level : String × Nat} (hl : level ∈ levelNumbers) (h : Names text level.1) :
    thresholdNamed text = .ok level.2 := by
  rw [thresholdNamed, meaning?_of_names h]
  simp only [levelNumbers, List.mem_cons, List.not_mem_nil, or_false] at hl
  rcases hl with rfl | rfl | rfl | rfl | rfl | rfl | rfl | rfl <;> rfl

theorem thresholdNamed_notALevel {e : NotALevel} (h : Names text e.name) : thresholdNamed text = .error e := by
  rw [thresholdNamed, meaning?_of_names h]
  cases e <;> rfl

theorem thresholdNamed_unnamed (hlevels : ∀ level ∈ levelNumbers, ¬ Names text level.1)
    (hothers : ∀ e : NotALevel, ¬ Names text e.name) : thresholdNamed text = .ok 20 := by
  have hnames : meanings.map (·.1) =
      levelNumbers.map (·.1) ++ [NotALevel.layout.name, NotALevel.layouts.name] := rfl
  have hnone : meaning? text = none := by
    refine meaning?_eq_none fun name hname => ?_
    rw [hnames, List.mem_append] at hname
    rcases hname with hname | hname
    · obtain ⟨level, hl, rfl⟩ := List.mem_map.1 hname
      exact hlevels level hl
    · simp only [List.mem_cons, List.not_mem_nil, or_false] at hname
      rcases hname with rfl | rfl
      · exact hothers .layout
      · exact hothers .layouts
  rw [thresholdNamed, hnone]
  rfl

/-- A text that names nothing else gets the number that it asks for, and so it asks for one only. -/
theorem thresholdNamed_eq_ok_iff (hothers : ∀ e : NotALevel, ¬ Names text e.name) (n : Nat) :
    thresholdNamed text = .ok n ↔ AsksFor text n := by
  have hgets {m : Nat} (h : AsksFor text m) : thresholdNamed text = .ok m := by
    cases h with
    | named hl hn => exact thresholdNamed_level hl hn
    | unnamed hn => exact thresholdNamed_unnamed hn hothers
  constructor
  · intro h
    obtain ⟨m, hm⟩ := exists_asksFor text
    cases h.symm.trans (hgets hm)
    exact hm
  · exact hgets

theorem thresholdNamed_eq_error_iff {e : NotALevel} : thresholdNamed text = .error e ↔ Names text e.name := by
  constructor
  · intro h
    by_cases hothers : ∀ e' : NotALevel, ¬ Names text e'.name
    · obtain ⟨n, hn⟩ := exists_asksFor text
      cases h.symm.trans ((thresholdNamed_eq_ok_iff hothers n).2 hn)
    · obtain ⟨e', hn⟩ := Classical.not_forall_not.1 hothers
      cases h.symm.trans (thresholdNamed_notALevel hn)
      exact hn
  · exact thresholdNamed_notALevel

namespace Config

theorem ofEnvironment_put (env : Table String) (text : String) : ∃ structured : Bool,
    ofEnvironment (env.put "LOG_LEVEL" text) =
      (thresholdNamed text).map fun threshold => { threshold, structured } := by
  refine ⟨Text.lower (((env.put "LOG_LEVEL" text).get? "LOG_FORMAT").getD "").toList == "json".toList, ?_⟩
  unfold ofEnvironment
  rw [Table.get?_put_self, Option.getD_some]
  cases thresholdNamed text <;> rfl

/-- Whatever else the environment holds, a text for the level leads to a configuration, with the one number that the
text asks for, exactly if it is not the name of something else, in whatever case; and such a name is refused as what it
is the name of. -/
theorem threshold_asked_iff (env : Table String) (text : String) :
    ((∃ c, ofEnvironment (env.put "LOG_LEVEL" text) = .ok c ∧ ∀ n, AsksFor text n ↔ n = c.threshold) ↔
      ∀ e : NotALevel, ¬ Names text e.name) ∧
    ∀ e : NotALevel, ofEnvironment (env.put "LOG_LEVEL" text) = .error e ↔ Names text e.name := by
  obtain ⟨structured, hput⟩ := ofEnvironment_put env text
  have herror (e : NotALevel) : ofEnvironment (env.put "LOG_LEVEL" text) = .error e ↔ Names text e.name := by
    rw [← thresholdNamed_eq_error_iff, hput]
    cases thresholdNamed text <;> simp [Except.map]
  refine ⟨⟨?_, ?_⟩, herror⟩
  · rintro ⟨c, hc, -⟩ e hn
    cases hc.symm.trans ((herror e).2 hn)
  · intro hothers
    obtain ⟨number, hnumber⟩ := exists_asksFor text
    have hgets := (thresholdNamed_eq_ok_iff hothers number).2 hnumber
    refine ⟨{ threshold := number, structured }, by rw [hput, hgets]; rfl, fun n => ?_⟩
    rw [← thresholdNamed_eq_ok_iff hothers, hgets, Except.ok.injEq, eq_comm]

/-- The name of the layout of lines names no level and so asks for `info`, but there is no configuration. -/
theorem basicFormat_refused : AsksFor "BASIC_FORMAT" 20 ∧
    ofEnvironment [("LOG_LEVEL", "BASIC_FORMAT")] = .error .layout ∧
    ¬ ∃ c, ofEnvironment [("LOG_LEVEL", "BASIC_FORMAT")] = .ok c ∧ AsksFor "BASIC_FORMAT" c.threshold := by
  have hself : Names "BASIC_FORMAT" "BASIC_FORMAT" := Spells.self (forall_of_all (by decide))
  have hother : ∀ level ∈ levelNumbers, level.1.toList ≠ "BASIC_FORMAT".toList := by decide
  have hasks : AsksFor "BASIC_FORMAT" 20 :=
    .unnamed fun level hl hn => hother level hl (hn.upper_eq.symm.trans hself.upper_eq)
  have hlayout : thresholdNamed "BASIC_FORMAT" = .error .layout := thresholdNamed_eq_error_iff.2 hself
  have hrefused : ofEnvironment [("LOG_LEVEL", "BASIC_FORMAT")] = .error .layout := by
    obtain ⟨structured, hput⟩ := ofEnvironment_put [] "BASIC_FORMAT"
    rw [hlayout] at hput
    exact hput
  refine ⟨hasks, hrefused, ?_⟩
  rintro ⟨c, hc, -⟩
  cases hc.symm.trans hrefused

/-- The case of the letters does not matter, the dotless `i` has the capital of the other one, and what is no name
asks for `info`. -/
example : ofEnvironment [("LOG_LEVEL", "wArn\u0131ng")] = .ok { threshold := 30, structured := false } ∧
    ofEnvironment [("LOG_LEVEL", "chatty")] = .ok { threshold := 20, structured := false } := ⟨rfl, rfl⟩

end Config

end Changeover.Log
