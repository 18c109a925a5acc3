import Changeover.Proofs.ClientUses

/-!
# Clients in common

Uses that only ask for the clients may take their steps in any order, from slots that are empty or keep an open
or a closed client. `InCommon` is what holds at every moment of such a run. A client is created in the very
step that has found none open, so a kind gets one new client at most, and the holders of a kind hold the client
that is kept and open. The lock is needed for none of this. It matters for the end of a run: who waits for it
waits for a use that is about to give it back, so under a fair schedule all uses come to their end
(`exists_isOver`).
-/

namespace Changeover

open Clients (Step)

namespace Clients

variable {s : Settings} {c c' old : Clients} {u u' : ClientUse} {x : Client} {kind : ClientKind} {n : Nat}

/-- The clients of a kind that have been created since `old`. -/
def since (c old : Clients) (kind : ClientKind) : List Nat :=
  (List.range' old.all.length (c.all.length - old.all.length)).filter fun n =>
    c.all[n]?.any (·.kind == kind)

theorem usable_eq_some : c.usable kind = some n ↔ c.kept kind = some n ∧ c.isOpen n = true := by
  rw [usable, Option.filter_eq_some_iff]

theorem closed_ofSettings (h : Client.ofSettings s kind = .ok x) : x.closed = false := by
  obtain ⟨url, rfl⟩ := ofSettings_eq_ok h
  rfl

theorem Sorted.lt_length (h : c.Sorted) (hn : c.kept kind = some n) : n < c.all.length := by
  obtain ⟨x, hx, -⟩ := h kind n hn
  exact (List.getElem?_eq_some_iff.1 hx).1

theorem usable_add (h : c.Sorted) (hx : x.closed = false) (kind : ClientKind) :
    (c.add x).usable kind = if kind = x.kind then some c.all.length else c.usable kind := by
  rw [usable, kept_add]
  split
  · simp [isOpen, getElem?_add_self, hx]
  · rw [usable]
    cases hk : c.kept kind with
    | none => rfl
    | some n => rw [Option.filter_some, Option.filter_some, isOpen, getElem?_add_of_lt (h.lt_length hk), isOpen]

theorem since_add (hlen : old.all.length ≤ c.all.length) (x : Client) (kind : ClientKind) :
    (c.add x).since old kind = c.since old kind ++ if kind = x.kind then [c.all.length] else [] := by
  have hcount : (c.add x).all.length - old.all.length = c.all.length - old.all.length + 1 := by
    rw [all_add, List.length_append, List.length_singleton]
    omega
  have hlast : old.all.length + 1 * (c.all.length - old.all.length) = c.all.length := by omega
  rw [since, hcount, List.range'_concat, List.filter_append, hlast]
  refine congr (congrArg _ (List.filter_congr fun n hn => ?_)) ?_
  · rw [getElem?_add_of_lt (by rw [List.mem_range'_1] at hn; omega)]
  · by_cases hk : kind = x.kind
    · simp [getElem?_add_self, hk]
    · simp [getElem?_add_self, hk, Ne.symm hk]

theorem Sorted.usable_ne {m : Nat} (h : c.Sorted) (hm : c.usable .collector = some m)
    (hn : c.usable .legacy = some n) : m ≠ n := by
  rintro rfl
  obtain ⟨x, hx, hcollector⟩ := h _ _ (usable_eq_some.1 hm).1
  obtain ⟨y, hy, hlegacy⟩ := h _ _ (usable_eq_some.1 hn).1
  cases hx.symm.trans hy
  cases hcollector.symm.trans hlegacy

end Clients

namespace ClientUse

/-- Whether a use holds the lock. -/
def holdsLock : ClientUse → Bool
  | .creating _ => true
  | _ => false

/-- How many steps a use that asks for a client may still take. -/
def stepsLeft : ClientUse → Nat
  | .asking _ => 3
  | .queued _ => 2
  | .creating _ => 1
  | _ => 0

/-- What a use that asked for a client of that kind may have come to, with the clients that there were at its
start and those that there are now. -/
inductive Outcome (s : Settings) (old c : Clients) (kind : ClientKind) : ClientUse → Prop
  | asking : Outcome s old c kind (.asking kind)
  | queued : Outcome s old c kind (.queued kind)
  | creating : Outcome s old c kind (.creating kind)
  | holding {n : Nat} : c.usable kind = some n → Outcome s old c kind (.holding kind n)
  | failed {e : Url.BaseFault} : old.usable kind = none → Client.ofSettings s kind = .error e →
      Outcome s old c kind (.failed e)

variable {s : Settings} {old c c' : Clients} {kind : ClientKind} {u u' : ClientUse}

theorem Outcome.left?_eq_none (h : Outcome s old c kind u) : u.left? c = none := by
  cases h <;> rfl

theorem Outcome.mono (h : Outcome s old c kind u)
    (hc : ∀ n, c.usable kind = some n → c'.usable kind = some n) : Outcome s old c' kind u := by
  cases h with
  | asking => exact .asking
  | queued => exact .queued
  | creating => exact .creating
  | holding hn => exact .holding (hc _ hn)
  | failed hnone he => exact .failed hnone he

theorem stepsLeft_lt (h : Step s c u c' u') (hu : u.left? c = none) : u'.stepsLeft < u.stepsLeft := by
  cases h with
  | close hl _ _ => cases hu.symm.trans hl
  | forget hl _ => cases hu.symm.trans hl
  | _ => simp [stepsLeft]

end ClientUse

namespace ClientUses

variable {s : Settings} {p q : ClientUses} {c : Clients} {u u' : ClientUse} {kind : ClientKind} {i n : Nat}

/-- All uses ask for a client, and nobody holds the lock. -/
structure Asking (p : ClientUses) : Prop where
  sorted : p.clients.Sorted
  unlocked : p.clients.locked = false
  uses : ∀ u ∈ p.uses, ∃ kind, u = .asking kind

/-! ### What holds at every moment -/

/-- What `q` has in common with the start `p` at every moment of a run. -/
structure InCommon (s : Settings) (p q : ClientUses) : Prop where
  sorted : q.clients.Sorted
  length_le : p.clients.all.length ≤ q.clients.all.length
  still : ∀ kind n, p.clients.usable kind = some n → q.clients.usable kind = some n
  created : ∀ kind, q.clients.since p.clients kind =
    if (p.clients.usable kind).isSome then [] else (q.clients.usable kind).toList
  length_uses : q.uses.length = p.uses.length
  outcome : ∀ (i : Nat) (u : ClientUse), q.uses[i]? = some u →
    ∃ kind, p.uses[i]? = some (ClientUse.asking kind) ∧ u.Outcome s p.clients q.clients kind
  lock : q.uses.countP (·.holdsLock) = q.clients.locked.toNat

theorem Asking.inCommon (h : p.Asking) (s : Settings) : InCommon s p p where
  sorted := h.sorted
  length_le := Nat.le_refl _
  still _ _ hn := hn
  created kind := by
    rw [Clients.since, Nat.sub_self]
    cases p.clients.usable kind <;> rfl
  length_uses := rfl
  outcome i u hu := by
    obtain ⟨kind, rfl⟩ := h.uses u (List.mem_of_getElem? hu)
    exact ⟨kind, hu, .asking⟩
  lock := by
    rw [h.unlocked, List.countP_eq_zero.2 fun u hu => ?_]
    · rfl
    · obtain ⟨kind, rfl⟩ := h.uses u hu
      exact Bool.false_ne_true

theorem countP_holdsLock_set (hu : q.uses[i]? = some u) (u' : ClientUse) :
    (q.uses.set i u').countP (·.holdsLock) + u.holdsLock.toNat =
      q.uses.countP (·.holdsLock) + u'.holdsLock.toNat := by
  obtain ⟨hi, rfl⟩ := List.getElem?_eq_some_iff.1 hu
  rw [List.countP_set hi]
  cases hl : (q.uses[i]).holdsLock with
  | false => cases u'.holdsLock <;> simp
  | true =>
    have hpos : 0 < q.uses.countP (·.holdsLock) := List.countP_pos_iff.2 ⟨_, List.getElem_mem hi, hl⟩
    cases u'.holdsLock <;> simp <;> omega

/-- A step keeps what holds, if it keeps the clients in use, counts the new ones and passes the lock on. -/
theorem InCommon.set (h : InCommon s p q) (hu : q.uses[i]? = some u) (hsorted : c.Sorted)
    (hlen : q.clients.all.length ≤ c.all.length)
    (hstill : ∀ kind n, q.clients.usable kind = some n → c.usable kind = some n)
    (hcreated : ∀ kind, c.since p.clients kind =
      if (p.clients.usable kind).isSome then [] else (c.usable kind).toList)
    (hout : ∀ kind, u.Outcome s p.clients q.clients kind → u'.Outcome s p.clients c kind)
    (hlock : c.locked.toNat + u.holdsLock.toNat = q.clients.locked.toNat + u'.holdsLock.toNat) :
    InCommon s p ⟨c, q.uses.set i u'⟩ where
  sorted := hsorted
  length_le := Nat.le_trans h.length_le hlen
  still kind n hn := hstill kind n (h.still kind n hn)
  created := hcreated
  length_uses := List.length_set.trans h.length_uses
  outcome j v hv := by
    rw [List.getElem?_set] at hv
    split at hv
    · next hij =>
      subst hij
      obtain ⟨kind, hp, ho⟩ := h.outcome i u hu
      split at hv
      · cases hv
        exact ⟨kind, hp, hout kind ho⟩
      · cases hv
    · obtain ⟨kind, hp, ho⟩ := h.outcome j v hv
      exact ⟨kind, hp, ho.mono (hstill kind)⟩
  lock := by
    have hcount := countP_holdsLock_set hu u'
    have hbefore := h.lock
    show (q.uses.set i u').countP (·.holdsLock) = c.locked.toNat
    omega

theorem InCommon.setLock {b : Bool} (h : InCommon s p q) (hu : q.uses[i]? = some u)
    (hout : ∀ kind, u.Outcome s p.clients q.clients kind → u'.Outcome s p.clients q.clients kind)
    (hlock : b.toNat + u.holdsLock.toNat = q.clients.locked.toNat + u'.holdsLock.toNat) :
    InCommon s p ⟨q.clients.setLock b, q.uses.set i u'⟩ :=
  h.set hu h.sorted (Nat.le_refl _) (fun _ _ hn => hn) h.created
    (fun kind ho => (hout kind ho).mono fun _ hn => hn) hlock

theorem InCommon.none_of_none (h : InCommon s p q) (hnone : q.clients.usable kind = none) :
    p.clients.usable kind = none :=
  Option.eq_none_iff_forall_ne_some.2 fun n hn => by cases hnone.symm.trans (h.still kind n hn)

theorem InCommon.locked (h : InCommon s p q) (hu : q.uses[i]? = some (.creating kind)) :
    q.clients.locked = true := by
  cases hl : q.clients.locked with
  | true => rfl
  | false =>
    have hnone := h.lock
    rw [hl] at hnone
    exact absurd rfl (List.countP_eq_zero.1 hnone _ (List.mem_of_getElem? hu))

theorem InCommon.create {x : Client} (h : InCommon s p q) (hu : q.uses[i]? = some (.creating kind))
    (hnone : q.clients.usable kind = none) (hx : Client.ofSettings s kind = .ok x) :
    InCommon s p ⟨(q.clients.add x).setLock false,
      q.uses.set i (.holding kind q.clients.all.length)⟩ := by
  have hstep : Step s q.clients (.creating kind) ((q.clients.add x).setLock false)
      (.holding kind q.clients.all.length) := .create hnone hx
  have husable (k : ClientKind) : ((q.clients.add x).setLock false).usable k =
      if k = kind then some q.clients.all.length else q.clients.usable k := by
    rw [← Clients.kind_ofSettings hx]
    exact Clients.usable_add h.sorted (Clients.closed_ofSettings hx) k
  have hsince (k : ClientKind) : ((q.clients.add x).setLock false).since p.clients k =
      q.clients.since p.clients k ++ if k = kind then [q.clients.all.length] else [] := by
    rw [← Clients.kind_ofSettings hx]
    exact Clients.since_add h.length_le x k
  refine h.set hu (hstep.sorted h.sorted) hstep.length_le (fun k n hn => ?_) (fun k => ?_) (fun k ho => ?_) ?_
  · -- the kind has nothing in use, so nothing in use is given up for the new client
    rw [husable, if_neg, hn]
    rintro rfl
    cases hnone.symm.trans hn
  · rw [hsince, husable, h.created]
    by_cases hk : k = kind
    · subst hk
      rw [h.none_of_none hnone, hnone, if_pos rfl, if_pos rfl]
      rfl
    · rw [if_neg hk, if_neg hk, List.append_nil]
  · cases ho
    exact .holding (by rw [husable, if_pos rfl])
  · rw [h.locked hu]
    rfl

theorem InCommon.turn (h : InCommon s p q) (i : Nat) : InCommon s p (q.turn s i) := by
  rcases turn_cases s q i with he | ⟨u, c, u', hu, hstep, he⟩
  · rwa [he]
  rw [he]
  obtain ⟨kind, -, ho⟩ := h.outcome i u hu
  cases hstep with
  | found hn =>
    exact h.setLock hu (b := q.clients.locked) (fun k ho => by cases ho; exact .holding hn) rfl
  | queue _ =>
    exact h.setLock hu (b := q.clients.locked) (fun k ho => by cases ho; exact .queued) rfl
  | lock hl =>
    refine h.setLock hu (fun k ho => by cases ho; exact .creating) ?_
    rw [hl]
    rfl
  | foundLater hn =>
    refine h.setLock hu (fun k ho => by cases ho; exact .holding hn) ?_
    rw [h.locked hu]
    rfl
  | create hnone hx => exact h.create hu hnone hx
  | refuse hnone hx =>
    refine h.setLock hu (fun k ho => ?_) ?_
    · cases ho
      exact .failed (h.none_of_none hnone) hx
    · rw [h.locked hu]
      rfl
  | close hl _ _ => cases ho.left?_eq_none.symm.trans hl
  | forget hl _ => cases ho.left?_eq_none.symm.trans hl

theorem InCommon.run (h : InCommon s p q) (order : List Nat) : InCommon s p (q.run s order) := by
  induction order generalizing q with
  | nil => exact h
  | cons i order ih => exact ih (h.turn i)

/-! ### All uses come to their end -/

/-- How many steps all the uses may still take. -/
def stepsLeft (p : ClientUses) : Nat := p.uses.foldr (fun u n => u.stepsLeft + n) 0

/-- The uses after that many turns of a schedule. -/
def after (s : Settings) (p : ClientUses) (schedule : Nat → Nat) (t : Nat) : ClientUses :=
  p.run s ((List.range t).map schedule)

/-- Every use gets its turn again and again. -/
def Fair (p : ClientUses) (schedule : Nat → Nat) : Prop :=
  ∀ i, i < p.uses.length → ∀ t, ∃ t', t ≤ t' ∧ schedule t' = i

variable {schedule : Nat → Nat}

theorem foldr_stepsLeft_set {uses : List ClientUse} (hu : uses[i]? = some u)
    (hlt : u'.stepsLeft < u.stepsLeft) :
    (uses.set i u').foldr (fun u n => u.stepsLeft + n) 0 < uses.foldr (fun u n => u.stepsLeft + n) 0 := by
  induction uses generalizing i with
  | nil => cases hu
  | cons v uses ih =>
    cases i with
    | zero =>
      cases hu
      exact Nat.add_lt_add_right hlt _
    | succ i => exact Nat.add_lt_add_left (ih hu) _

theorem InCommon.stepsLeft_of_step {r : Clients × ClientUse} (h : InCommon s p q) (hu : q.uses[i]? = some u)
    (hr : q.clients.step s u = some r) : (q.turn s i).stepsLeft < q.stepsLeft := by
  obtain ⟨kind, -, ho⟩ := h.outcome i u hu
  have hturn : q.turn s i = ⟨r.1, q.uses.set i r.2⟩ := by rw [ClientUses.turn, hu, Option.bind_some, hr]
  rw [hturn]
  exact foldr_stepsLeft_set hu (ClientUse.stepsLeft_lt (Clients.step_cases hr) ho.left?_eq_none)

theorem InCommon.turn_eq_or_lt (h : InCommon s p q) (i : Nat) :
    q.turn s i = q ∨ (q.turn s i).stepsLeft < q.stepsLeft := by
  cases hu : q.uses[i]? with
  | none => exact .inl (by rw [ClientUses.turn, hu]; rfl)
  | some u =>
    cases hr : q.clients.step s u with
    | none => exact .inl (by rw [ClientUses.turn, hu, Option.bind_some, hr])
    | some r => exact .inr (h.stepsLeft_of_step hu hr)

/-- Unless all uses are over, one of them can go on: the one that holds the lock, if another waits for it. -/
theorem InCommon.exists_turn_lt (h : InCommon s p q) (hover : q.isOver = false) :
    ∃ i, i < q.uses.length ∧ (q.turn s i).stepsLeft < q.stepsLeft := by
  have hgoes {i : Nat} {u : ClientUse} {r : Clients × ClientUse} (hu : q.uses[i]? = some u)
      (hr : q.clients.step s u = some r) : ∃ i, i < q.uses.length ∧ (q.turn s i).stepsLeft < q.stepsLeft :=
    ⟨i, (List.getElem?_eq_some_iff.1 hu).1, h.stepsLeft_of_step hu hr⟩
  obtain ⟨u, hmem, hu⟩ := List.all_eq_false.1 hover
  obtain ⟨i, hi⟩ := List.mem_iff_getElem?.1 hmem
  obtain ⟨kind, -, ho⟩ := h.outcome i u hi
  cases ho with
  | asking =>
    cases hk : q.clients.usable kind with
    | none => exact hgoes hi (by rw [Clients.step, hk])
    | some n => exact hgoes hi (by rw [Clients.step, hk])
  | queued =>
    cases hl : q.clients.locked with
    | false => exact hgoes hi (by rw [Clients.step, hl]; rfl)
    | true =>
      -- somebody holds the lock, and is creating a client, which nothing keeps it from
      have hone := h.lock
      rw [hl] at hone
      obtain ⟨v, hv, hlock⟩ := List.countP_pos_iff.1 (Nat.lt_of_lt_of_eq Nat.one_pos hone.symm)
      obtain ⟨j, hj⟩ := List.mem_iff_getElem?.1 hv
      cases v with
      | creating k =>
        cases hk : q.clients.usable k with
        | none => exact hgoes hj (by rw [Clients.step, hk])
        | some n => exact hgoes hj (by rw [Clients.step, hk])
      | _ => cases hlock
  | creating =>
    cases hk : q.clients.usable kind with
    | none => exact hgoes hi (by rw [Clients.step, hk])
    | some n => exact hgoes hi (by rw [Clients.step, hk])
  | holding _ => exact absurd rfl hu
  | failed _ _ => exact absurd rfl hu

theorem after_succ (s : Settings) (p : ClientUses) (schedule : Nat → Nat) (t : Nat) :
    p.after s schedule (t + 1) = (p.after s schedule t).turn s (schedule t) := by
  rw [after, List.range_succ, List.map_append, run, List.foldl_append]
  rfl

theorem Asking.after (h : p.Asking) (s : Settings) (schedule : Nat → Nat) (t : Nat) :
    InCommon s p (p.after s schedule t) :=
  (h.inCommon s).run _

theorem Asking.after_eq_or_lt (h : p.Asking) (s : Settings) (schedule : Nat → Nat) (t d : Nat) :
    p.after s schedule (t + d) = p.after s schedule t ∨
      (p.after s schedule (t + d)).stepsLeft < (p.after s schedule t).stepsLeft := by
  induction d with
  | zero => exact .inl rfl
  | succ d ih =>
    rw [← Nat.add_assoc, after_succ]
    rcases (h.after s schedule (t + d)).turn_eq_or_lt (schedule (t + d)) with he | hlt
    · rwa [he]
    · rcases ih with he | hlt'
      · rw [he] at hlt ⊢
        exact .inr hlt
      · exact .inr (Nat.lt_trans hlt hlt')

/-- A fair schedule comes to a step, unless all uses are over. -/
theorem Asking.exists_lt (h : p.Asking) (s : Settings) (hfair : p.Fair schedule) (t : Nat)
    (hover : (p.after s schedule t).isOver = false) :
    ∃ t', (p.after s schedule t').stepsLeft < (p.after s schedule t).stepsLeft := by
  have hnow := h.after s schedule t
  obtain ⟨i, hi, hlt⟩ := hnow.exists_turn_lt hover
  obtain ⟨t', hle, rfl⟩ := hfair i (hnow.length_uses ▸ hi) t
  obtain ⟨d, rfl⟩ := Nat.exists_eq_add_of_le hle
  rcases h.after_eq_or_lt s schedule t d with he | hlt'
  · exact ⟨t + d + 1, by rw [after_succ, he]; exact hlt⟩
  · exact ⟨t + d, hlt'⟩

theorem Asking.exists_isOver (h : p.Asking) (s : Settings) (hfair : p.Fair schedule) (t : Nat) :
    ∃ t', (p.after s schedule t').isOver = true := by
  -- every step that some use takes lowers the number of steps that are left
  induction hm : (p.after s schedule t).stepsLeft using Nat.strongRecOn generalizing t with
  | ind m ih =>
    cases hover : (p.after s schedule t).isOver with
    | true => exact ⟨t, hover⟩
    | false =>
      obtain ⟨t', hlt⟩ := h.exists_lt s hfair t hover
      exact ih _ (hm ▸ hlt) t' rfl

/-! ### The clients are shared -/

/-- What the uses of `q` share, if they started as `p`. -/
structure Shared (s : Settings) (p q : ClientUses) : Prop where
  /-- One client of a kind is created at most, the one that is then in use, and none if one was open. -/
  created : ∀ kind, q.clients.since p.clients kind =
    if (p.clients.usable kind).isSome then [] else (q.clients.usable kind).toList
  /-- The client that was open stays in use. -/
  still : ∀ kind n, p.clients.usable kind = some n → q.clients.usable kind = some n
  /-- Who has got a client has got the one in use for the kind that it asked for. -/
  held : ∀ (i : Nat) (kind : ClientKind) (n : Nat), q.uses[i]? = some (ClientUse.holding kind n) →
    p.uses[i]? = some (ClientUse.asking kind) ∧ q.clients.usable kind = some n
  /-- The two kinds have not got the same client. -/
  apart : ∀ i j m n : Nat, q.uses[i]? = some (ClientUse.holding .collector m) →
    q.uses[j]? = some (ClientUse.holding .legacy n) → m ≠ n
  /-- A use fails only where no client was open and the settings do not allow for one. -/
  failed : ∀ (i : Nat) (e : Url.BaseFault), q.uses[i]? = some (ClientUse.failed e) →
    ∃ kind, p.uses[i]? = some (ClientUse.asking kind) ∧
      p.clients.usable kind = none ∧ Client.ofSettings s kind = .error e
  /-- One use at a time holds the lock. -/
  alone : q.uses.countP (·.holdsLock) ≤ 1
  length_uses : q.uses.length = p.uses.length

theorem InCommon.shared (h : InCommon s p q) : Shared s p q := by
  have hheld (i : Nat) (kind : ClientKind) (n : Nat) (hu : q.uses[i]? = some (.holding kind n)) :
      p.uses[i]? = some (.asking kind) ∧ q.clients.usable kind = some n := by
    obtain ⟨k, hp, ho⟩ := h.outcome i _ hu
    cases ho with
    | holding hn => exact ⟨hp, hn⟩
  have halone : q.uses.countP (·.holdsLock) ≤ 1 := h.lock ▸ Bool.toNat_le _
  refine ⟨h.created, h.still, hheld, fun i j m n hm hn => ?_, fun i e hu => ?_, halone, h.length_uses⟩
  · exact h.sorted.usable_ne (hheld i _ m hm).2 (hheld j _ n hn).2
  · obtain ⟨k, hp, ho⟩ := h.outcome i _ hu
    cases ho with
    | failed hnone he => exact ⟨k, hp, hnone, he⟩

/-- Every use has got a client, or its kind had none open and the settings do not allow for one. -/
def Served (s : Settings) (p q : ClientUses) : Prop :=
  ∀ (i : Nat) (kind : ClientKind), p.uses[i]? = some (.asking kind) →
    (∃ n, q.uses[i]? = some (.holding kind n) ∧ q.clients.usable kind = some n) ∨
      ∃ e, q.uses[i]? = some (.failed e) ∧ p.clients.usable kind = none ∧ Client.ofSettings s kind = .error e

theorem InCommon.served (h : InCommon s p q) (hover : q.isOver = true) : Served s p q := by
  intro i kind hp
  have hi : i < q.uses.length := h.length_uses ▸ (List.getElem?_eq_some_iff.1 hp).1
  obtain ⟨u, hu⟩ : ∃ u, q.uses[i]? = some u := ⟨_, List.getElem?_eq_getElem hi⟩
  obtain ⟨k, hk, ho⟩ := h.outcome i _ hu
  cases hp.symm.trans hk
  have hend := List.all_eq_true.1 hover _ (List.mem_of_getElem? hu)
  cases ho with
  | holding hn => exact .inl ⟨_, hu, hn⟩
  | failed hnone he => exact .inr ⟨_, hu, hnone, he⟩
  | _ => cases hend

/-- However the steps of the uses follow each other, at every moment they share the clients as said, and if
each gets its turn again and again, all of them come to their end. -/
theorem shared_and_served (h : p.Asking) (s : Settings) :
    (∀ order, Shared s p (p.run s order)) ∧
      ∀ schedule, p.Fair schedule → ∃ t, Served s p (p.after s schedule t) := by
  refine ⟨fun order => ((h.inCommon s).run order).shared, fun schedule hfair => ?_⟩
  obtain ⟨t, hover⟩ := h.exists_isOver s hfair 0
  exact ⟨t, (h.after s schedule t).served hover⟩

/-- The collector's client has been closed, and that of the legacy site is open. Two uses ask for each. -/
def twoOfEach : ClientUses where
  clients :=
    { all := [⟨.collector, "", 5, false, true⟩, ⟨.legacy, "https://legacy.example", 5, false, false⟩]
      collector := some 0
      legacy := some 1 }
  uses := [.asking .collector, .asking .legacy, .asking .collector, .asking .legacy]

/-- Both uses of the collector's client find it closed, and wait for the lock, before one of them creates the
client that both get. -/
theorem shared_and_served_twoOfEach :
    let q := twoOfEach.run {} [0, 2, 1, 2, 0, 2, 0, 0, 3]
    twoOfEach.Asking ∧ Shared {} twoOfEach q ∧
      q.uses = [.holding .collector 2, .holding .legacy 1, .holding .collector 2, .holding .legacy 1] ∧
      twoOfEach.Fair (· % 4) ∧ ∃ t, Served {} twoOfEach (twoOfEach.after {} (· % 4) t) := by
  have hasking : twoOfEach.Asking := by
    refine ⟨fun kind n hn => ?_, rfl, by simp [twoOfEach]⟩
    cases kind <;> cases hn <;> exact ⟨_, rfl, rfl⟩
  have hfair : twoOfEach.Fair (· % 4) := fun i hi t => by
    replace hi : i < 4 := hi
    exact ⟨4 * t + i, by omega, by show (4 * t + i) % 4 = i; omega⟩
  obtain ⟨hshared, hserved⟩ := shared_and_served hasking {}
  exact ⟨hasking, hshared _, by decide +kernel, hfair, hserved _ hfair⟩

end ClientUses

end Changeover
