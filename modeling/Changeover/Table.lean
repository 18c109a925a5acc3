/-!
# Tables in order of arrival

A table keyed by text that keeps its keys in the order in which each was first entered. Entering a
known key again changes its value and keeps its place.
-/

namespace Changeover

/-- A table from text to values. -/
abbrev Table (α : Type) := List (String × α)

namespace Table

variable {α : Type}

/-- The value of a key. -/
def get? (t : Table α) (k : String) : Option α :=
  match t with
  | [] => none
  | (k', v) :: r => if k' == k then some v else get? r k

/-- The table with the value of `k` computed from the one it had. -/
def alter (t : Table α) (k : String) (f : Option α → α) : Table α :=
  match t with
  | [] => [(k, f none)]
  | (k', v) :: r => if k' == k then (k', f (some v)) :: r else (k', v) :: alter r k f

/-- The table with `v` as the value of `k`. -/
def put (t : Table α) (k : String) (v : α) : Table α := t.alter k fun _ => v

/-- The table without `k`. -/
def erase (t : Table α) (k : String) : Table α := t.filter (·.1 != k)

/-- The table of a list of entries, later ones replacing earlier ones of the same key. -/
def ofEntries (l : List (String × α)) : Table α := l.foldl (fun t e => t.put e.1 e.2) []

theorem get?_alter_self (t : Table α) (k : String) (f : Option α → α) :
    (t.alter k f).get? k = some (f (t.get? k)) := by
  induction t with
  | nil => simp [alter, get?]
  | cons e r ih =>
    obtain ⟨k', v⟩ := e
    by_cases h : k' = k
    · simp [alter, get?, h]
    · simp [alter, get?, h, ih]

theorem get?_alter_of_ne (t : Table α) {k k' : String} (f : Option α → α) (h : k' ≠ k) :
    (t.alter k f).get? k' = t.get? k' := by
  induction t with
  | nil => simp [alter, get?, Ne.symm h]
  | cons e r ih =>
    obtain ⟨j, v⟩ := e
    by_cases hj : j = k
    · subst hj
      simp [alter, get?, Ne.symm h]
    · by_cases hk : j = k'
      · subst hk
        simp [alter, get?, h]
      · simp [alter, get?, hj, hk, ih]

theorem get?_put_self (t : Table α) (k : String) (v : α) : (t.put k v).get? k = some v :=
  get?_alter_self t k _

theorem get?_put_of_ne (t : Table α) {k k' : String} (v : α) (h : k' ≠ k) :
    (t.put k v).get? k' = t.get? k' :=
  get?_alter_of_ne t _ h

theorem get?_erase_self (t : Table α) (k : String) : (t.erase k).get? k = none := by
  induction t with
  | nil => rfl
  | cons e r ih =>
    by_cases h : e.1 = k
    · simpa [erase, h] using ih
    · simpa [erase, get?, h] using ih

theorem get?_erase_of_ne (t : Table α) {k k' : String} (h : k' ≠ k) :
    (t.erase k).get? k' = t.get? k' := by
  induction t with
  | nil => rfl
  | cons e r ih =>
    by_cases he : e.1 = k
    · simpa [erase, get?, he, Ne.symm h] using ih
    · by_cases hk : e.1 = k'
      · simp [erase, get?, hk, h]
      · simpa [erase, get?, he, hk] using ih

theorem get?_foldl_put_of_ne {l : List (String × α)} {k : String} (h : ∀ e ∈ l, e.1 ≠ k)
    (t : Table α) : get? (l.foldl (fun t e => t.put e.1 e.2) t) k = t.get? k := by
  induction l generalizing t with
  | nil => rfl
  | cons e r ih =>
    rw [List.foldl_cons, ih (fun x hx => h x (List.mem_cons_of_mem _ hx))]
    exact get?_put_of_ne t e.2 (h e List.mem_cons_self).symm

theorem get?_ofEntries_of_ne {l : List (String × α)} {k : String} (h : ∀ e ∈ l, e.1 ≠ k) :
    (ofEntries l).get? k = none :=
  get?_foldl_put_of_ne h []

theorem get?_ofEntries_append {a b : List (String × α)} {k : String} (v : α)
    (h : ∀ e ∈ b, e.1 ≠ k) : (ofEntries (a ++ (k, v) :: b)).get? k = some v := by
  rw [ofEntries, List.foldl_append, List.foldl_cons, get?_foldl_put_of_ne h]
  exact get?_put_self _ k v

/-- No key has two entries. -/
def Distinct (t : Table α) : Prop := (t.map (·.1)).Nodup

instance (t : Table α) : Decidable (Distinct t) := inferInstanceAs (Decidable (List.Nodup _))

theorem keys_alter (t : Table α) (k : String) (f : Option α → α) :
    (t.alter k f).map (·.1) = if k ∈ t.map (·.1) then t.map (·.1) else t.map (·.1) ++ [k] := by
  induction t with
  | nil => rfl
  | cons e t ih =>
    obtain ⟨k', v⟩ := e
    by_cases h : k' = k
    · simp [alter, h]
    · simp only [alter, beq_iff_eq, h, if_false, List.map_cons, ih, List.mem_cons, Ne.symm h, false_or]
      split <;> rfl

theorem Distinct.alter {t : Table α} (h : t.Distinct) (k : String) (f : Option α → α) :
    (t.alter k f).Distinct := by
  rw [Distinct, keys_alter]
  split
  · exact h
  · next hk =>
    refine List.nodup_append.2 ⟨h, List.nodup_cons.2 ⟨List.not_mem_nil, List.nodup_nil⟩, ?_⟩
    rintro a ha b hb rfl
    exact hk (List.mem_singleton.1 hb ▸ ha)

theorem Distinct.erase {t : Table α} (h : t.Distinct) (k : String) : (t.erase k).Distinct :=
  List.Nodup.sublist (List.Sublist.map _ List.filter_sublist) h

theorem put_of_new {t : Table α} {k : String} (h : k ∉ t.map (·.1)) (v : α) : t.put k v = t ++ [(k, v)] := by
  induction t with
  | nil => rfl
  | cons e t ih =>
    obtain ⟨hk, ht⟩ := not_or.1 (mt List.mem_cons.2 h)
    rw [put, Table.alter, if_neg (by simpa using Ne.symm hk)]
    exact congrArg (e :: ·) (ih ht)

/-- Entries of different keys are the table that they make. -/
theorem ofEntries_eq_self {l : List (String × α)} (h : Distinct l) : ofEntries l = l := by
  suffices hall : ∀ t : Table α, Distinct (t ++ l) →
      l.foldl (fun t e => t.put e.1 e.2) t = t ++ l from hall [] h
  clear h
  induction l with
  | nil => exact fun t _ => (List.append_nil t).symm
  | cons e l ih =>
    intro t h
    have hnew : e.1 ∉ t.map (·.1) := by
      rw [Distinct, List.map_append] at h
      exact fun hmem => (List.nodup_append.1 h).2.2 _ hmem _ List.mem_cons_self rfl
    rw [List.foldl_cons, put_of_new hnew, ih _ (by rwa [List.append_assoc]), List.append_assoc]
    rfl

theorem mem_keys_ofEntries {l : List (String × α)} {k : String} (h : k ∈ (ofEntries l).map (·.1)) :
    k ∈ l.map (·.1) := by
  suffices hall : ∀ t : Table α, k ∈ (l.foldl (fun t e => t.put e.1 e.2) t).map (·.1) →
      k ∈ t.map (·.1) ∨ k ∈ l.map (·.1) from (hall [] h).resolve_left List.not_mem_nil
  clear h
  induction l with
  | nil => exact fun t h => .inl h
  | cons e l ih =>
    intro t h
    rcases ih _ h with h | h
    · replace h : k ∈ (t.alter e.1 fun _ => e.2).map (·.1) := h
      rw [keys_alter] at h
      split at h
      · exact .inl h
      · exact (List.mem_append.1 h).imp_right fun hk => List.mem_cons.2 (.inl (List.mem_singleton.1 hk))
    · exact .inr (List.mem_cons_of_mem _ h)

theorem get?_eq_none {t : Table α} {k : String} (h : ∀ e ∈ t, e.1 ≠ k) : t.get? k = none := by
  induction t with
  | nil => rfl
  | cons e t ih =>
    obtain ⟨he, ht⟩ := List.forall_mem_cons.1 h
    rw [get?, if_neg (by simpa using he), ih ht]

theorem Distinct.split {t : Table α} {e : String × α} (h : t.Distinct) (he : e ∈ t) :
    ∃ a b, t = a ++ e :: b ∧ ∀ x ∈ b, x.1 ≠ e.1 := by
  obtain ⟨a, b, rfl⟩ := List.append_of_mem he
  refine ⟨a, b, rfl, fun x hx hkey => ?_⟩
  rw [Distinct, List.map_append, List.map_cons] at h
  have hb := (List.nodup_cons.1 (List.nodup_append.1 h).2.1).1
  exact hb (hkey ▸ List.mem_map_of_mem hx)

theorem Distinct.get?_of_mem {t : Table α} {e : String × α} (h : t.Distinct) (he : e ∈ t) :
    t.get? e.1 = some e.2 := by
  obtain ⟨a, b, rfl, hb⟩ := h.split he
  rw [← ofEntries_eq_self h]
  exact get?_ofEntries_append e.2 hb

end Table

end Changeover
