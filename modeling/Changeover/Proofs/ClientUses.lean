import Changeover.Clients

/-!
# Clients that get lost

Uses of the shared clients go on side by side and take their steps in any order (`ClientUses.run`). What one
step can do is said once, by `Clients.Step`. A use that closes the clients notes which are kept when it begins
and forgets those that are kept when it ends. So an open client is one that is kept, or one that was created
while a use waited for another client to close (`ClientUses.Sound`). Once all uses are over, the open clients of
the second sort are lost and no others: nothing keeps them, and a later closing does not find them
(`ClientUses.accounted_iff`).
-/

namespace Changeover

/-- The clients that a use has still to close, if it is one that closes. -/
def ClientUse.left? (c : Clients) : ClientUse → Option (List Nat)
  | .closing => some c.keptList
  | .closingRest left => some left
  | _ => none

/-- Whether a use waits for a client to close. -/
def ClientUse.awaitsClosing : ClientUse → Bool
  | .closingRest _ => true
  | _ => false

/-- Whether a use has come to its end. -/
def ClientUse.isOver : ClientUse → Bool
  | .holding _ _ | .failed _ | .closed => true
  | _ => false

namespace Clients

variable {s : Settings} {c c' : Clients} {u u' : ClientUse} {x : Client} {kind : ClientKind} {m n : Nat}

/-! ### What is kept and what is open -/

/-- The client is kept. -/
def Keeps (c : Clients) (n : Nat) : Prop := ∃ kind, c.kept kind = some n

/-- The clients without the kept ones. -/
def forget (c : Clients) : Clients := { c with collector := none, legacy := none }

theorem mem_keptList : n ∈ c.keptList ↔ c.Keeps n := by
  simp only [keptList, List.mem_append, Option.mem_toList]
  constructor
  · rintro (h | h)
    · exact ⟨.collector, h⟩
    · exact ⟨.legacy, h⟩
  · rintro ⟨kind, h⟩
    cases kind with
    | collector => exact .inl h
    | legacy => exact .inr h

theorem isOpen_iff : c.isOpen n = true ↔ ∃ x, c.all[n]? = some x ∧ x.closed = false := by
  rw [isOpen]
  cases c.all[n]? <;> simp

theorem lt_of_isOpen (h : c.isOpen n = true) : n < c.all.length := by
  obtain ⟨x, hx, -⟩ := isOpen_iff.1 h
  exact (List.getElem?_eq_some_iff.1 hx).1

theorem all_add (c : Clients) (x : Client) : (c.add x).all = c.all ++ [x] := by
  unfold add keep
  cases x.kind <;> rfl

theorem kept_add (c : Clients) (x : Client) (kind : ClientKind) :
    (c.add x).kept kind = if kind = x.kind then some c.all.length else c.kept kind := by
  unfold add keep
  cases x.kind <;> cases kind <;> rfl

theorem getElem?_add_of_lt (h : n < c.all.length) (x : Client) : (c.add x).all[n]? = c.all[n]? := by
  rw [all_add, List.getElem?_append_left h]

theorem getElem?_add_self (c : Clients) (x : Client) : (c.add x).all[c.all.length]? = some x := by
  rw [all_add, List.getElem?_append_right (Nat.le_refl _), Nat.sub_self]
  rfl

theorem isOpen_of_add (h : (c.add x).isOpen n = true) : n = c.all.length ∨ c.isOpen n = true := by
  have hlen := lt_of_isOpen h
  rw [all_add, List.length_append, List.length_singleton] at hlen
  rcases Nat.lt_succ_iff_lt_or_eq.1 hlen with hn | hn
  · rw [isOpen, getElem?_add_of_lt hn] at h
    exact .inr h
  · exact .inl hn

theorem isOpen_close (c : Clients) (m n : Nat) : (c.close m).isOpen n = (c.isOpen n && m != n) := by
  rw [isOpen, isOpen, close, List.getElem?_modify]
  cases c.all[n]? with
  | none => rfl
  | some x => by_cases h : m = n <;> simp [h]

theorem kept_close (c : Clients) (m : Nat) : (c.close m).kept = c.kept := by
  funext kind
  cases kind <;> rfl

theorem not_keeps_forget (c : Clients) (n : Nat) : ¬ c.forget.Keeps n := by
  rintro ⟨kind, h⟩
  cases kind <;> cases h

theorem ofSettings_eq_ok (h : Client.ofSettings s kind = .ok x) :
    ∃ url, x = { kind, baseUrl := url, timeout := s.httpTimeout } := by
  unfold Client.ofSettings at h
  cases hb : kind.baseUrl s with
  | error e =>
    rw [hb] at h
    cases h
  | ok url =>
    rw [hb] at h
    cases h
    exact ⟨url, rfl⟩

theorem kind_ofSettings (h : Client.ofSettings s kind = .ok x) : x.kind = kind := by
  obtain ⟨url, rfl⟩ := ofSettings_eq_ok h
  rfl

/-! ### What one step does -/

/-- What a step of a use does to the clients and to the use. -/
inductive Step (s : Settings) (c : Clients) : ClientUse → Clients → ClientUse → Prop
  | found {kind : ClientKind} {n : Nat} : c.usable kind = some n →
      Step s c (.asking kind) c (.holding kind n)
  | queue {kind : ClientKind} : c.usable kind = none → Step s c (.asking kind) c (.queued kind)
  | lock {kind : ClientKind} : c.locked = false →
      Step s c (.queued kind) (c.setLock true) (.creating kind)
  | foundLater {kind : ClientKind} {n : Nat} : c.usable kind = some n →
      Step s c (.creating kind) (c.setLock false) (.holding kind n)
  | create {kind : ClientKind} {x : Client} : c.usable kind = none → Client.ofSettings s kind = .ok x →
      Step s c (.creating kind) ((c.add x).setLock false) (.holding kind c.all.length)
  | refuse {kind : ClientKind} {e : Url.BaseFault} : c.usable kind = none →
      Client.ofSettings s kind = .error e → Step s c (.creating kind) (c.setLock false) (.failed e)
  | close {u : ClientUse} {passed left : List Nat} {n : Nat} : u.left? c = some (passed ++ n :: left) →
      (∀ m ∈ passed, c.isOpen m = false) → c.isOpen n = true →
      Step s c u (c.close n) (.closingRest left)
  | forget {u : ClientUse} {passed : List Nat} : u.left? c = some passed →
      (∀ m ∈ passed, c.isOpen m = false) → Step s c u c.forget .closed

theorem closeNext_cases (c : Clients) (l : List Nat) :
    (∃ passed n left, l = passed ++ n :: left ∧ (∀ m ∈ passed, c.isOpen m = false) ∧
        c.isOpen n = true ∧ c.closeNext l = (c.close n, .closingRest left)) ∨
      (∀ m ∈ l, c.isOpen m = false) ∧ c.closeNext l = (c.forget, .closed) := by
  induction l with
  | nil => exact .inr ⟨nofun, rfl⟩
  | cons x r ih =>
    by_cases hx : c.isOpen x = true
    · exact .inl ⟨[], x, r, rfl, nofun, hx, by rw [closeNext, if_pos hx]⟩
    have hclosed := Bool.eq_false_iff.2 hx
    rw [closeNext, if_neg hx]
    rcases ih with ⟨passed, n, left, rfl, hpassed, hn, h⟩ | ⟨hr, h⟩
    · exact .inl ⟨x :: passed, n, left, rfl, List.forall_mem_cons.2 ⟨hclosed, hpassed⟩, hn, h⟩
    · exact .inr ⟨List.forall_mem_cons.2 ⟨hclosed, hr⟩, h⟩

theorem step_closeNext {l : List Nat} (hu : u.left? c = some l) (h : c.closeNext l = (c', u')) :
    Step s c u c' u' := by
  rcases closeNext_cases c l with ⟨passed, n, left, rfl, hpassed, hn, he⟩ | ⟨hpassed, he⟩
  · cases he.symm.trans h
    exact .close hu hpassed hn
  · cases he.symm.trans h
    exact .forget hu hpassed

theorem step_cases (h : c.step s u = some (c', u')) : Step s c u c' u' := by
  cases u with
  | asking kind =>
    rw [step] at h
    cases hk : c.usable kind with
    | some n =>
      rw [hk] at h
      cases h
      exact .found hk
    | none =>
      rw [hk] at h
      cases h
      exact .queue hk
  | queued kind =>
    cases hl : c.locked with
    | true =>
      rw [step, if_pos hl] at h
      cases h
    | false =>
      rw [step, hl] at h
      cases h
      exact .lock hl
  | creating kind =>
    rw [step] at h
    cases hk : c.usable kind with
    | some n =>
      rw [hk] at h
      cases h
      exact .foundLater hk
    | none =>
      rw [hk, create] at h
      cases hx : Client.ofSettings s kind with
      | ok x =>
        rw [hx] at h
        cases h
        exact .create hk hx
      | error e =>
        rw [hx] at h
        cases h
        exact .refuse hk hx
  | closing => exact step_closeNext rfl (Option.some.inj h)
  | closingRest left => exact step_closeNext rfl (Option.some.inj h)
  | holding kind n => cases h
  | failed e => cases h
  | closed => cases h

/-- The kept clients are of the kind that they are kept for. -/
def Sorted (c : Clients) : Prop :=
  ∀ kind n, c.kept kind = some n → ∃ x, c.all[n]? = some x ∧ x.kind = kind

theorem Step.getElem? (h : Step s c u c' u') (hn : c.all[n]? = some x) :
    ∃ y, c'.all[n]? = some y ∧ y.kind = x.kind := by
  cases h with
  | create hk hx =>
    exact ⟨x, (getElem?_add_of_lt (List.getElem?_eq_some_iff.1 hn).1 _).trans hn, rfl⟩
  | @close _ _ _ m _ _ _ =>
    rw [Clients.close, List.getElem?_modify, hn]
    by_cases hm : m = n <;> simp [hm]
  | _ => exact ⟨x, hn, rfl⟩

theorem Step.length_le (h : Step s c u c' u') : c.all.length ≤ c'.all.length := by
  refine Nat.le_of_not_lt fun hlt => ?_
  obtain ⟨y, hy, -⟩ := h.getElem? (List.getElem?_eq_getElem hlt)
  exact Nat.lt_irrefl _ (List.getElem?_eq_some_iff.1 hy).1

theorem Step.kept_cases (h : Step s c u c' u') (hn : c'.kept kind = some n) :
    c.kept kind = some n ∨ n = c.all.length ∧ ∃ x, c'.all[n]? = some x ∧ x.kind = kind := by
  cases h with
  | @create _ x _ _ =>
    have hkept : ((c.add x).setLock false).kept kind =
        if kind = x.kind then some c.all.length else c.kept kind := kept_add c x kind
    rw [hkept] at hn
    split at hn
    · next hkind =>
      cases hn
      exact .inr ⟨rfl, x, getElem?_add_self c x, hkind.symm⟩
    · exact .inl hn
  | close _ _ _ =>
    rw [kept_close] at hn
    exact .inl hn
  | forget _ _ => exact absurd ⟨kind, hn⟩ (not_keeps_forget c n)
  | _ => exact .inl hn

theorem Step.sorted (h : Step s c u c' u') (hc : c.Sorted) : c'.Sorted := by
  intro kind n hn
  rcases h.kept_cases hn with hold | ⟨-, x, hx, hkind⟩
  · obtain ⟨x, hx, hkind⟩ := hc kind n hold
    obtain ⟨y, hy, hsame⟩ := h.getElem? hx
    exact ⟨y, hy, hsame.trans hkind⟩
  · exact ⟨x, hx, hkind⟩

/-! ### Closing the kept clients -/

theorem advance_closed (s : Settings) (fuel : Nat) (c : Clients) :
    advance s fuel c .closed = (c, .closed) := by
  cases fuel <;> rfl

theorem isOpen_advance_closingRest {fuel : Nat} {l : List Nat} (h : l.length < fuel) :
    (advance s fuel c (.closingRest l)).1.isOpen n = true ↔ c.isOpen n = true ∧ n ∉ l := by
  -- each step takes an open client off the list, so the fuel lasts
  induction fuel generalizing c l with
  | zero => exact absurd h (Nat.not_lt_zero _)
  | succ fuel ih =>
    have hclosed {l : List Nat} (hl : ∀ m ∈ l, c.isOpen m = false) (hn : c.isOpen n = true) : n ∉ l :=
      fun hm => Bool.false_ne_true ((hl n hm).symm.trans hn)
    rcases closeNext_cases c l with ⟨passed, m, left, rfl, hpassed, -, he⟩ | ⟨hl, he⟩
    · have hleft : left.length < fuel := by
        rw [List.length_append, List.length_cons] at h
        omega
      have hnext : advance s (fuel + 1) c (.closingRest (passed ++ m :: left)) =
          advance s fuel (c.close m) (.closingRest left) := by
        rw [advance, step, he]
      rw [hnext, ih hleft, isOpen_close, Bool.and_eq_true, bne_iff_ne, List.mem_append, List.mem_cons]
      constructor
      · rintro ⟨⟨hn, hne⟩, hnotin⟩
        exact ⟨hn, not_or.2 ⟨hclosed hpassed hn, not_or.2 ⟨hne.symm, hnotin⟩⟩⟩
      · rintro ⟨hn, hnotin⟩
        obtain ⟨hne, hnotin⟩ := not_or.1 (not_or.1 hnotin).2
        exact ⟨⟨hn, Ne.symm hne⟩, hnotin⟩
    · have hend : advance s (fuel + 1) c (.closingRest l) = (c.forget, .closed) := by
        rw [advance, step, he]
        exact advance_closed s fuel c.forget
      rw [hend]
      exact ⟨fun hn => ⟨hn, hclosed hl hn⟩, fun hn => hn.1⟩

theorem isOpen_closeAll : (c.closeAll s).isOpen n = true ↔ c.isOpen n = true ∧ ¬ c.Keeps n := by
  have hlen : c.keptList.length < 4 := by
    rw [keptList]
    cases c.collector <;> cases c.legacy <;> simp
  rw [← mem_keptList]
  exact isOpen_advance_closingRest hlen

/-- Every client is accounted for: the open ones are kept, one of a kind at most, and closing the kept clients
closes all. -/
structure Accounted (s : Settings) (c : Clients) : Prop where
  kept : ∀ n, c.isOpen n = true → c.Keeps n
  single : ∀ (m n : Nat) (x y : Client), c.all[m]? = some x → c.all[n]? = some y → x.closed = false →
    y.closed = false → x.kind = y.kind → m = n
  closable : ∀ n, (c.closeAll s).isOpen n = false

theorem Sorted.accounted (h : c.Sorted) (hkept : ∀ n, c.isOpen n = true → c.Keeps n) : Accounted s c where
  kept := hkept
  single m n x y hm hn hx hy hkind := by
    have hkeeps {n : Nat} {x : Client} (hn : c.all[n]? = some x) (hx : x.closed = false) :
        c.kept x.kind = some n := by
      obtain ⟨kind, hk⟩ := hkept n (isOpen_iff.2 ⟨x, hn, hx⟩)
      obtain ⟨x', hx', rfl⟩ := h kind n hk
      rwa [Option.some.inj (hn.symm.trans hx')]
    exact Option.some.inj ((hkeeps hm hx).symm.trans (hkind ▸ hkeeps hn hy))
  closable n := Bool.eq_false_iff.2 fun hn =>
    (isOpen_closeAll.1 hn).2 (hkept n (isOpen_closeAll.1 hn).1)

end Clients

/-- Uses of the clients that go on side by side. -/
structure ClientUses where
  clients : Clients := {}
  uses : List ClientUse

namespace ClientUses

open Clients (Step)

variable {s : Settings} {p : ClientUses} {c : Clients} {u u' : ClientUse} {order late : List Nat} {i n : Nat}

/-- Takes the use of that number one step further, if it can go on. -/
def turn (s : Settings) (p : ClientUses) (i : Nat) : ClientUses :=
  match p.uses[i]?.bind (p.clients.step s) with
  | some (c, u) => ⟨c, p.uses.set i u⟩
  | none => p

/-- Takes the uses further, one step of one use after the other. -/
def run (s : Settings) (p : ClientUses) (order : List Nat) : ClientUses := order.foldl (turn s) p

/-- Whether some use waits for a client to close. -/
def awaitsClosing (p : ClientUses) : Bool := p.uses.any (·.awaitsClosing)

/-- Whether all uses have come to their end. -/
def isOver (p : ClientUses) : Bool := p.uses.all (·.isOver)

/-- The clients that are created while some use waits for another client to close. -/
def createdLate (s : Settings) (p : ClientUses) : List Nat → List Nat
  | [] => []
  | i :: order =>
    let q := p.turn s i
    let created := List.range' p.clients.all.length (q.clients.all.length - p.clients.all.length)
    (if p.awaitsClosing then created else []) ++ q.createdLate s order

/-- Nothing has begun yet, and the open clients are kept, each for its kind. -/
structure Starting (p : ClientUses) : Prop where
  sorted : p.clients.Sorted
  kept : ∀ n, p.clients.isOpen n = true → p.clients.Keeps n
  uses : ∀ u ∈ p.uses, (∃ kind, u = .asking kind) ∨ u = .closing

theorem turn_cases (s : Settings) (p : ClientUses) (i : Nat) :
    p.turn s i = p ∨ ∃ u c u', p.uses[i]? = some u ∧ Step s p.clients u c u' ∧
      p.turn s i = ⟨c, p.uses.set i u'⟩ := by
  unfold turn
  cases hu : p.uses[i]? with
  | none => exact .inl rfl
  | some u =>
    rw [Option.bind_some]
    cases hstep : p.clients.step s u with
    | none => exact .inl rfl
    | some r => exact .inr ⟨u, r.1, r.2, rfl, Clients.step_cases hstep, rfl⟩

theorem awaitsClosing_iff : p.awaitsClosing = true ↔ ∃ left, .closingRest left ∈ p.uses := by
  rw [awaitsClosing, List.any_eq_true]
  constructor
  · rintro ⟨u, hu, h⟩
    cases u with
    | closingRest left => exact ⟨left, hu⟩
    | _ => cases h
  · rintro ⟨left, h⟩
    exact ⟨_, h, rfl⟩

theorem sorted_turn (h : p.clients.Sorted) (s : Settings) (i : Nat) : (p.turn s i).clients.Sorted := by
  rcases turn_cases s p i with he | ⟨u, c, u', -, hstep, he⟩
  · rwa [he]
  · rw [he]
    exact hstep.sorted h

theorem sorted_run (h : p.clients.Sorted) (s : Settings) (order : List Nat) :
    (p.run s order).clients.Sorted := by
  induction order generalizing p with
  | nil => exact h
  | cons i order ih => exact ih (sorted_turn h s i)

/-! ### What is open is kept or was created late -/

/-- What holds at every moment of a run in which only clients of the list `late` are created late: an open
client that is not kept is one of them, and so is one that a closing will not come to. -/
structure Sound (late : List Nat) (p : ClientUses) : Prop where
  kept : ∀ n, p.clients.isOpen n = true → p.clients.Keeps n ∨ n ∈ late
  left : ∀ left, .closingRest left ∈ p.uses → ∀ n, p.clients.isOpen n = true → n ∈ left ∨ n ∈ late

theorem Starting.sound (h : p.Starting) (late : List Nat) : Sound late p where
  kept n hn := .inl (h.kept n hn)
  left l hl := by
    rcases h.uses _ hl with ⟨kind, h⟩ | h <;> cases h

theorem Sound.left_of_left? {l : List Nat} (h : Sound late p) (hu : p.uses[i]? = some u)
    (hl : u.left? p.clients = some l) (hn : p.clients.isOpen n = true) : n ∈ l ∨ n ∈ late := by
  cases u with
  | closing =>
    cases hl
    rw [Clients.mem_keptList]
    exact h.kept n hn
  | closingRest left =>
    cases hl
    exact h.left _ (List.mem_of_getElem? hu) n hn
  | _ => cases hl

theorem Sound.same (h : Sound late p) (hall : c.all = p.clients.all) (hkept : c.kept = p.clients.kept)
    (hu : u'.awaitsClosing = false) : Sound late ⟨c, p.uses.set i u'⟩ := by
  have hopen (n : Nat) : c.isOpen n = p.clients.isOpen n := by rw [Clients.isOpen, hall, Clients.isOpen]
  refine ⟨fun n hn => ?_, fun l hl n hn => ?_⟩
  · rw [Clients.Keeps, hkept]
    exact h.kept n (hopen n ▸ hn)
  · rcases List.mem_or_eq_of_mem_set hl with hl | rfl
    · exact h.left l hl n (hopen n ▸ hn)
    · cases hu

theorem Sound.create {x : Client} {kind : ClientKind} (h : Sound late p)
    (hk : p.clients.usable kind = none) (hx : x.kind = kind) (hu : u'.awaitsClosing = false)
    (hlate : p.awaitsClosing = true → p.clients.all.length ∈ late) :
    Sound late ⟨(p.clients.add x).setLock false, p.uses.set i u'⟩ := by
  have hkept (k : ClientKind) : ((p.clients.add x).setLock false).kept k =
      if k = x.kind then some p.clients.all.length else p.clients.kept k := Clients.kept_add p.clients x k
  refine ⟨fun n hn => ?_, fun l hl n hn => ?_⟩
  · rcases Clients.isOpen_of_add hn with rfl | hold
    · exact .inl ⟨x.kind, by rw [hkept, if_pos rfl]⟩
    · -- what was kept for that kind is not open, so nothing open is given up for the new client
      refine (h.kept n hold).imp_left fun ⟨k, hkn⟩ => ⟨k, ?_⟩
      have hne : k ≠ x.kind := by
        rintro rfl
        rw [← hx, Clients.usable, hkn, Option.filter_some, if_pos hold] at hk
        cases hk
      rw [hkept, if_neg hne, hkn]
  · rcases List.mem_or_eq_of_mem_set hl with hl | rfl
    · rcases Clients.isOpen_of_add hn with rfl | hold
      · exact .inr (hlate (awaitsClosing_iff.2 ⟨l, hl⟩))
      · exact h.left l hl n hold
    · cases hu

theorem Sound.close {passed left : List Nat} {m : Nat} (h : Sound late p) (hu : p.uses[i]? = some u)
    (hl : u.left? p.clients = some (passed ++ m :: left))
    (hpassed : ∀ m ∈ passed, p.clients.isOpen m = false) :
    Sound late ⟨p.clients.close m, p.uses.set i (.closingRest left)⟩ := by
  have hopen {n : Nat} (hn : (p.clients.close m).isOpen n = true) :
      p.clients.isOpen n = true ∧ m ≠ n := by
    rwa [Clients.isOpen_close, Bool.and_eq_true, bne_iff_ne] at hn
  refine ⟨fun n hn => ?_, fun l hl' n hn => ?_⟩
  · rw [Clients.Keeps, Clients.kept_close]
    exact h.kept n (hopen hn).1
  · obtain ⟨hold, hne⟩ := hopen hn
    rcases List.mem_or_eq_of_mem_set hl' with hl' | heq
    · exact h.left l hl' n hold
    · cases heq
      refine (h.left_of_left? hu hl hold).imp_left fun hmem => ?_
      rcases List.mem_append.1 hmem with hmem | hmem
      · exact absurd ((hpassed n hmem).symm.trans hold) Bool.false_ne_true
      · exact (List.mem_cons.1 hmem).resolve_left (Ne.symm hne)

theorem Sound.forget {passed : List Nat} (h : Sound late p) (hu : p.uses[i]? = some u)
    (hl : u.left? p.clients = some passed) (hpassed : ∀ m ∈ passed, p.clients.isOpen m = false) :
    Sound late ⟨p.clients.forget, p.uses.set i .closed⟩ := by
  refine ⟨fun n hn => .inr ?_, fun l hl' n hn => ?_⟩
  · -- what the closing has come to is closed, so what is still open was created meanwhile
    refine (h.left_of_left? hu hl hn).resolve_left fun hmem => ?_
    exact Bool.false_ne_true ((hpassed n hmem).symm.trans hn)
  · rcases List.mem_or_eq_of_mem_set hl' with hl' | heq
    · exact h.left l hl' n hn
    · cases heq

theorem Sound.turn (h : Sound late p) (i : Nat)
    (hlate : p.awaitsClosing = true →
      ∀ n, p.clients.all.length ≤ n → n < (p.turn s i).clients.all.length → n ∈ late) :
    Sound late (p.turn s i) := by
  rcases turn_cases s p i with he | ⟨u, c, u', hu, hstep, he⟩
  · rwa [he]
  rw [he] at hlate ⊢
  cases hstep with
  | create hk hx =>
    refine h.create hk (Clients.kind_ofSettings hx) rfl fun hw => hlate hw _ (Nat.le_refl _) ?_
    show _ < (p.clients.add _).all.length
    rw [Clients.all_add, List.length_append]
    exact Nat.lt_succ_self _
  | close hl hpassed _ => exact h.close hu hl hpassed
  | forget hl hpassed => exact h.forget hu hl hpassed
  | _ => exact h.same rfl rfl rfl

theorem mem_createdLate_cons : n ∈ p.createdLate s (i :: order) ↔
    (p.awaitsClosing = true ∧ p.clients.all.length ≤ n ∧ n < (p.turn s i).clients.all.length) ∨
      n ∈ (p.turn s i).createdLate s order := by
  rw [createdLate, List.mem_append]
  refine or_congr_left ?_
  split
  · next hw =>
    simp only [List.mem_range'_1, hw, true_and]
    omega
  · next hw => simp [hw]

theorem Sound.run (h : Sound late p) (order : List Nat) (hlate : ∀ n ∈ p.createdLate s order, n ∈ late) :
    Sound late (p.run s order) := by
  induction order generalizing p with
  | nil => exact h
  | cons i order ih =>
    refine ih (h.turn i fun hw n hle hlt => ?_) fun n hn => ?_
    · exact hlate n (mem_createdLate_cons.2 (.inl ⟨hw, hle, hlt⟩))
    · exact hlate n (mem_createdLate_cons.2 (.inr hn))

/-! ### What was created late is not kept in the end -/

/-- The client exists, and it is not kept or will be forgotten by a use that waits for another to close. -/
structure Passing (n : Nat) (p : ClientUses) : Prop where
  created : n < p.clients.all.length
  passing : p.awaitsClosing = true ∨ ¬ p.clients.Keeps n

theorem mem_set_of_ne {v : ClientUse} (hu : p.uses[i]? = some u) (hv : v ∈ p.uses) (h : v ≠ u) :
    v ∈ p.uses.set i u' := by
  obtain ⟨j, hj⟩ := List.mem_iff_getElem?.1 hv
  have hij : i ≠ j := by
    rintro rfl
    exact h (Option.some.inj (hj.symm.trans hu))
  exact List.mem_iff_getElem?.2 ⟨j, (List.getElem?_set_ne hij).trans hj⟩

/-- A use that waits for a client to close goes on waiting or forgets the kept clients. -/
theorem awaitsClosing_turn (h : p.awaitsClosing = true) (s : Settings) (i : Nat) :
    (p.turn s i).awaitsClosing = true ∨ ∀ n, ¬ (p.turn s i).clients.Keeps n := by
  rcases turn_cases s p i with he | ⟨u, c, u', hu, hstep, he⟩
  · exact .inl (by rwa [he])
  rw [he]
  obtain ⟨left, hl⟩ := awaitsClosing_iff.1 h
  -- a step of another use leaves this one waiting
  have hother (hne : ClientUse.closingRest left ≠ u) :
      awaitsClosing ⟨c, p.uses.set i u'⟩ = true :=
    awaitsClosing_iff.2 ⟨left, mem_set_of_ne hu hl hne⟩
  cases hstep with
  | close _ _ _ =>
    exact .inl (awaitsClosing_iff.2 ⟨_, List.mem_set (List.getElem?_eq_some_iff.1 hu).1 _⟩)
  | forget _ _ => exact .inr (Clients.not_keeps_forget p.clients)
  | _ => exact .inl (hother nofun)

theorem not_keeps_turn (hn : n < p.clients.all.length) (h : ¬ p.clients.Keeps n) (s : Settings) (i : Nat) :
    ¬ (p.turn s i).clients.Keeps n := by
  rcases turn_cases s p i with he | ⟨u, c, u', hu, hstep, he⟩
  · rwa [he]
  rw [he]
  rintro ⟨kind, hkept⟩
  rcases hstep.kept_cases hkept with hold | ⟨rfl, -⟩
  · exact h ⟨kind, hold⟩
  · exact Nat.lt_irrefl _ hn

theorem length_le_turn (s : Settings) (p : ClientUses) (i : Nat) :
    p.clients.all.length ≤ (p.turn s i).clients.all.length := by
  rcases turn_cases s p i with he | ⟨u, c, u', -, hstep, he⟩
  · exact Nat.le_of_eq (by rw [he])
  · rw [he]
    exact hstep.length_le

theorem Passing.turn (h : Passing n p) (s : Settings) (i : Nat) : Passing n (p.turn s i) where
  created := Nat.lt_of_lt_of_le h.created (length_le_turn s p i)
  passing := by
    rcases h.passing with hw | hn
    · exact (awaitsClosing_turn hw s i).imp_right fun hnone => hnone n
    · exact .inr (not_keeps_turn h.created hn s i)

theorem Passing.run (h : Passing n p) (s : Settings) (order : List Nat) : Passing n (p.run s order) := by
  induction order generalizing p with
  | nil => exact h
  | cons i order ih => exact ih (h.turn s i)

theorem passing_of_createdLate (h : n ∈ p.createdLate s order) : Passing n (p.run s order) := by
  induction order generalizing p with
  | nil => cases h
  | cons i order ih =>
    rcases mem_createdLate_cons.1 h with ⟨hw, -, hlt⟩ | h
    · have hpassing : Passing n (p.turn s i) :=
        ⟨hlt, (awaitsClosing_turn hw s i).imp_right fun hnone => hnone n⟩
      exact hpassing.run s order
    · exact ih h

theorem not_awaitsClosing_of_isOver (h : p.isOver = true) : p.awaitsClosing = false := by
  refine Bool.eq_false_iff.2 fun hw => ?_
  obtain ⟨left, hl⟩ := awaitsClosing_iff.1 hw
  cases List.all_eq_true.1 h _ hl

/-- Once all uses are over, an open client is lost exactly if it was created while some use waited for another
client to close: nothing keeps it then, and closing the kept clients leaves it open. So every client is
accounted for exactly if none that is open was created so late. -/
theorem accounted_iff (h : p.Starting) (s : Settings) (order : List Nat)
    (hover : (p.run s order).isOver = true) :
    (∀ n, (p.run s order).clients.isOpen n = true →
        (n ∈ p.createdLate s order ↔ ¬ (p.run s order).clients.Keeps n) ∧
        (n ∈ p.createdLate s order ↔ ((p.run s order).clients.closeAll s).isOpen n = true)) ∧
      ((p.run s order).clients.Accounted s ↔
        ∀ n ∈ p.createdLate s order, (p.run s order).clients.isOpen n = false) := by
  have hsound : Sound (p.createdLate s order) (p.run s order) := (h.sound _).run order fun n hn => hn
  have hlost {n : Nat} (hn : n ∈ p.createdLate s order) : ¬ (p.run s order).clients.Keeps n :=
    (passing_of_createdLate hn).passing.resolve_left
      (Bool.eq_false_iff.1 (not_awaitsClosing_of_isOver hover))
  have hiff {n : Nat} (hn : (p.run s order).clients.isOpen n = true) :
      n ∈ p.createdLate s order ↔ ¬ (p.run s order).clients.Keeps n :=
    ⟨hlost, (hsound.kept n hn).resolve_left⟩
  refine ⟨fun n hn => ⟨hiff hn, (hiff hn).trans ?_⟩, fun ha n hn => ?_, fun hclosed => ?_⟩
  · exact ⟨fun hk => Clients.isOpen_closeAll.2 ⟨hn, hk⟩, fun hk => (Clients.isOpen_closeAll.1 hk).2⟩
  · exact Bool.eq_false_iff.2 fun hopen => hlost hn (ha.kept n hopen)
  · refine (sorted_run h.sorted s order).accounted fun n hn => (hsound.kept n hn).resolve_right fun hl => ?_
    exact Bool.false_ne_true ((hclosed n hl).symm.trans hn)

theorem starting_of_new {uses : List ClientUse} (h : ∀ u ∈ uses, (∃ kind, u = .asking kind) ∨ u = .closing) :
    Starting { uses } where
  sorted kind n hn := by cases kind <;> cases hn
  kept n hn := by cases hn
  uses := h

/-- Two uses of one client and one of the other, a closing, and a use after it. -/
def usesAround : ClientUses :=
  { uses := [.asking .collector, .asking .legacy, .asking .collector, .closing, .asking .legacy] }

/-- The first three uses go on together, and the last begins when nothing is left to close: all three clients
that are created are accounted for. -/
theorem accounted_iff_usesAround :
    let order := [0, 1, 2, 0, 0, 1, 1, 2, 2, 3, 3, 4, 3, 4, 4]
    usesAround.Starting ∧ (usesAround.run {} order).isOver = true ∧
      (usesAround.run {} order).clients.all.length = 3 ∧ (usesAround.run {} order).clients.Accounted {} := by
  have hstart : usesAround.Starting := starting_of_new (by simp)
  refine ⟨hstart, by decide +kernel, by decide +kernel, ?_⟩
  refine (accounted_iff hstart {} _ (by decide +kernel)).2.2 ?_
  decide +kernel

/-- A use, a closing, and a use of the same client. -/
def usesMeanwhile : ClientUses := { uses := [.asking .collector, .closing, .asking .collector] }

/-- The second use creates its client while the closing waits: that client stays open, and nothing keeps it. -/
theorem createdMeanwhile_lost :
    let order := [0, 0, 0, 1, 2, 2, 2, 1]
    usesMeanwhile.Starting ∧ (usesMeanwhile.run {} order).isOver = true ∧
      (usesMeanwhile.run {} order).clients.isOpen 1 = true ∧
      ((usesMeanwhile.run {} order).clients.closeAll {}).isOpen 1 = true ∧
      ¬ (usesMeanwhile.run {} order).clients.Accounted {} := by
  have hstart : usesMeanwhile.Starting := starting_of_new (by simp)
  have hopen : ((usesMeanwhile.run {} [0, 0, 0, 1, 2, 2, 2, 1]).clients.closeAll {}).isOpen 1 = true := by
    decide +kernel
  exact ⟨hstart, by decide +kernel, by decide +kernel, hopen,
    fun h => Bool.false_ne_true ((h.closable 1).symm.trans hopen)⟩

end ClientUses

end Changeover
