import Changeover.Report.Pending

/-!
# Every send to its end

Whatever the order of acts, every event has one send, which is held while it is open and makes one post at
most; what has ended without a post could not be written or was stopped (`Pending.perform_delivers`). The
invariant is `Pending.Sound`, and an act preserves it (`Pending.Sound.act`). What an act leaves alone is said
by `Send.Later` and `Pending.Later`: a send that is over stays as it is, and a request to stop stays.
-/

namespace Changeover.Report

/-! ### What is expected of the collector -/

/-- The collector answers, or fails in a way that is expected of a transport. -/
def Reply.Expected : Reply → Prop
  | .status _ => True
  | .failed f => ∃ name message, f = .transport name message

/-- The content of the event is why it cannot be written. -/
def Unwritable.Expected (u : Unwritable) : Prop := ∃ message, u.fault = .content message

/-- Nothing unexpected happens to an event or a post. -/
def Act.Expected : Act → Prop
  | .schedule _ _ unwritable => ∀ u ∈ unwritable, u.Expected
  | .post _ reply => reply.Expected
  | _ => True

/-- What a send is to deliver: an event, where to, and whether it can be written. -/
abbrev Order := String × Event × Option Unwritable

/-- What an act schedules. -/
def Act.orders : Act → List Order
  | .schedule target event unwritable => [(target, event, unwritable)]
  | _ => []

def Send.order (x : Send) : Order := (x.target, x.event, x.unwritable)

theorem outcome_raised {target : String} {e : Event} {r : Reply} (h : r.Expected) :
    (outcome target e r).raised = none := by
  cases r with
  | status code =>
    unfold outcome
    dsimp only
    split <;> rfl
  | failed f =>
    obtain ⟨name, message, rfl⟩ := h
    rfl

theorem unwritten_raised {target : String} {u : Unwritable} (h : u.Expected) :
    (unwritten target u.shown u.fault).raised = none := by
  obtain ⟨message, h⟩ := h
  rw [h]
  rfl

/-- The posts of one send. -/
def Effects.postsOf (e : Effects) (id : Nat) : List Post := (e.posts.filter (·.1 == id)).map (·.2)

@[simp] theorem Effects.postsOf_append (a b : Effects) (id : Nat) :
    (a.append b).postsOf id = a.postsOf id ++ b.postsOf id := by
  simp [postsOf, append]

@[simp] theorem Effects.append_empty (e : Effects) : e.append {} = e := by
  simp [append]

theorem Effects.append_assoc (a b c : Effects) : (a.append b).append c = a.append (b.append c) := by
  simp [append]

/-! ### One send -/

namespace Send

variable {x y z : Send} {made : List Post}

/-- A send that has come no less far: over it stays as it is, and asked to stop it stays asked. -/
structure Later (x y : Send) : Prop where
  order : y.order = x.order
  ended : x.isOpen = false → y = x
  cancelling : x.cancelling = true → y.cancelling = true

theorem Later.refl (x : Send) : Later x x := ⟨rfl, fun _ => rfl, id⟩

theorem Later.trans (h : Later x y) (h' : Later y z) : Later x z where
  order := h'.order.trans h.order
  ended hx := by rw [h'.ended (by rw [h.ended hx, hx]), h.ended hx]
  cancelling hx := h'.cancelling (h.cancelling hx)

/-- The posts that a send has made are those of its stage. -/
def Fits (x : Send) (made : List Post) : Prop :=
  (∀ u ∈ x.unwritable, u.Expected) ∧
    match x.stage with
    | .scheduled => made = []
    | .written => made = [] ∧ x.unwritable = none
    | .waiting reply => made = [Report.post x.target x.event] ∧ x.unwritable = none ∧ reply.Expected
    | .ended .answered => made = [Report.post x.target x.event] ∧ x.unwritable = none
    | .ended .unwritten => made = [] ∧ x.unwritable.isSome = true
    | .ended .stopped => x.cancelling = true ∧
        (made = [] ∨ made = [Report.post x.target x.event] ∧ x.unwritable = none)
    | .ended (.raised _) => False

/-- What one step of a send may do: it makes no posts of other sends, and its own as its stage has it. -/
structure Step (id : Nat) (x : Send) (r : Send × Effects) : Prop where
  later : x.Later r.1
  fits : ∀ made, x.Fits made → r.1.Fits (made ++ r.2.postsOf id)
  alone : ∀ j, j ≠ id → r.2.postsOf j = []

theorem step_stay (id : Nat) (x : Send) : Step id x (x, {}) where
  later := .refl x
  fits made h := by simpa [Effects.postsOf] using h
  alone _ _ := rfl

/-- A step of an open send that makes no post. -/
theorem step_quiet {r : Send × Effects} (id : Nat) (hx : x.isOpen = true) (hposts : r.2.posts = [])
    (hr : ∃ stage, r.1 = { x with stage }) (h : ∀ made, x.Fits made → r.1.Fits made) : Step id x r where
  later := by
    obtain ⟨stage, hr⟩ := hr
    refine ⟨by rw [hr]; rfl, fun hover => ?_, fun hc => by rw [hr, hc]⟩
    exact absurd (hover.symm.trans hx) Bool.false_ne_true
  fits made hfits := by simpa [Effects.postsOf, hposts] using h made hfits
  alone _ _ := by simp [Effects.postsOf, hposts]

theorem finish_eq {o : Outcome} (h : o.raised = none) (x : Send) (ending : Ending) :
    x.finish ending o = ({ x with stage := .ended ending }, { records := o.records }) := by
  rw [finish, h]
  rfl

theorem write_step (id : Nat) (x : Send) : Step id x x.write := by
  unfold write
  split
  · next hs _ hu =>
    refine step_quiet id (by rw [isOpen, hs]) rfl ⟨_, rfl⟩ fun made h => ?_
    rw [Fits, hs] at h
    exact ⟨h.1, h.2, hu⟩
  · next u hs _ hu =>
    refine step_quiet id (by rw [isOpen, hs]) rfl ⟨_, rfl⟩ fun made h => ?_
    rw [finish_eq (unwritten_raised (h.1 u hu))]
    rw [Fits, hs] at h
    exact ⟨h.1, h.2, by rw [hu]; rfl⟩
  · exact step_stay id x

theorem answer_step (id : Nat) (x : Send) : Step id x x.answer := by
  unfold answer
  split
  · next reply hs =>
    refine step_quiet id (by rw [isOpen, hs]) rfl ⟨_, rfl⟩ fun made h => ?_
    rw [Fits, hs] at h
    obtain ⟨hu, hmade, hnone, hreply⟩ := h
    rw [finish_eq (outcome_raised hreply)]
    exact ⟨hu, hmade, hnone⟩
  · exact step_stay id x

theorem stop_step (id : Nat) (x : Send) : Step id x x.stop := by
  unfold stop
  split
  · next h =>
    obtain ⟨hopen, hc⟩ := Bool.and_eq_true_iff.1 h
    refine step_quiet id hopen rfl ⟨_, rfl⟩ fun made hfits => ⟨hfits.1, hc, ?_⟩
    cases hs : x.stage with
    | scheduled =>
      rw [Fits, hs] at hfits
      exact .inl hfits.2
    | written =>
      rw [Fits, hs] at hfits
      exact .inl hfits.2.1
    | waiting reply =>
      rw [Fits, hs] at hfits
      exact .inr ⟨hfits.2.1, hfits.2.2.1⟩
    | ended ending =>
      rw [isOpen, hs] at hopen
      cases hopen
  · exact step_stay id x

theorem post_step {reply : Reply} (hreply : reply.Expected) (id : Nat) (x : Send) :
    Step id x (x.post id reply) := by
  unfold post
  split
  · next hs _ =>
    refine ⟨⟨rfl, fun hover => ?_, fun hc => hc⟩, fun made h => ?_, fun j hj => ?_⟩
    · rw [isOpen, hs] at hover
      cases hover
    · rw [Fits, hs] at h
      obtain ⟨hu, rfl, hnone⟩ := h
      exact ⟨hu, by simp [Effects.postsOf], hnone, hreply⟩
    · simp [Effects.postsOf, Ne.symm hj]
  · exact step_stay id x

theorem Fits.cancel (h : x.Fits made) : x.cancel.Fits made := by
  obtain ⟨target, event, unwritable, stage, cancelling⟩ := x
  cases stage with
  | ended ending =>
    cases ending with
    | stopped => exact ⟨h.1, rfl, h.2.2⟩
    | _ => exact h
  | _ => exact h

/-- A post takes the event of a send to its target. -/
structure Carries (x : Send) (sent : Post) : Prop where
  target : sent.target = x.target
  content : sent.content = x.event.wire
  contentType : sent.contentType = "application/json"

theorem carries_post (x : Send) : x.Carries (Report.post x.target x.event) := ⟨rfl, rfl, rfl⟩

/-- What is known of a send and of the posts that it has made. -/
structure Accounted (x : Send) (made : List Post) : Prop where
  /-- It makes one post, of its event, or none. -/
  once : made = [] ∨ ∃ sent, made = [sent] ∧ x.Carries sent
  unwritten : x.unwritable.isSome = true → made = []
  /-- It ends without a post only if it cannot be written or is stopped before. -/
  posted : x.isOpen = false → made = [] → x.unwritable.isSome = true ∨ x.stage = .ended .stopped
  stopped : x.stage = .ended .stopped → x.cancelling = true
  expected : ∀ f, x.stage ≠ .ended (.raised f)

theorem Fits.accounted (h : x.Fits made) : x.Accounted made := by
  obtain ⟨target, event, unwritable, stage, cancelling⟩ := x
  obtain ⟨-, h⟩ := h
  have hwritable (hnone : unwritable = none) {P : Prop} : unwritable.isSome = true → P := fun hu => by
    rw [hnone] at hu
    cases hu
  cases stage with
  | scheduled => exact ⟨.inl h, fun _ => h, nofun, nofun, nofun⟩
  | written => exact ⟨.inl h.1, fun _ => h.1, nofun, nofun, nofun⟩
  | waiting reply => exact ⟨.inr ⟨_, h.1, carries_post _⟩, hwritable h.2.1, nofun, nofun, nofun⟩
  | ended ending =>
    cases ending with
    | answered =>
      refine ⟨.inr ⟨_, h.1, carries_post _⟩, hwritable h.2, fun _ hnone => ?_, nofun, nofun⟩
      exact absurd (h.1.symm.trans hnone) (List.cons_ne_nil _ _)
    | unwritten => exact ⟨.inl h.1, fun _ => h.1, fun _ _ => .inl h.2, nofun, nofun⟩
    | stopped =>
      obtain ⟨hc, hmade⟩ := h
      refine ⟨hmade.imp_right fun hsent => ⟨_, hsent.1, carries_post _⟩, fun hu => ?_, fun _ _ => .inr rfl,
        fun _ => hc, nofun⟩
      exact hmade.resolve_right fun hsent => hwritable hsent.2 hu
    | raised f => exact h.elim

theorem answered_of_steps {id : Nat} {reply : Reply} (h : x.Fits made) (hopen : x.isOpen = true)
    (hu : x.unwritable = none) (hc : x.cancelling = false) (hreply : reply.Expected) :
    (x.write.1.post id reply).1.answer.1.stage = .ended .answered := by
  obtain ⟨target, event, unwritable, stage, cancelling⟩ := x
  obtain rfl : unwritable = none := hu
  obtain rfl : cancelling = false := hc
  cases stage with
  | scheduled => simp [write, post, answer, finish_eq (outcome_raised hreply)]
  | written => simp [write, post, answer, finish_eq (outcome_raised hreply)]
  | waiting r =>
    have hr : r.Expected := h.2.2.2
    simp [write, post, answer, finish_eq (outcome_raised hr)]
  | ended ending => cases hopen

theorem later_cancel (hx : x.isOpen = true) : x.Later x.cancel :=
  ⟨rfl, fun hover => absurd (hover.symm.trans hx) Bool.false_ne_true, fun _ => rfl⟩

end Send

/-! ### All sends -/

namespace Pending

variable {p q r : Pending} {e : Effects} {id : Nat} {x : Send}

theorem isOpen_iff : p.isOpen id = true ↔ ∃ x, p.sends[id]? = some x ∧ x.isOpen = true := by
  rw [isOpen]
  cases p.sends[id]? <;> simp

/-- A send is over or, if the time is limited, asked to stop. -/
def Settled (p : Pending) (limited : Bool) (id : Nat) : Prop :=
  ∃ x, p.sends[id]? = some x ∧ (x.isOpen = false ∨ limited = true ∧ x.cancelling = true)

/-- A state that has come no less far: its sends have, and its waits wait for the same sends. -/
structure Later (p q : Pending) : Prop where
  sends : ∀ (id : Nat) (x : Send), p.sends[id]? = some x → ∃ y, q.sends[id]? = some y ∧ x.Later y
  waits : ∀ (n : Nat) (w : Wait), p.waits[n]? = some w →
    ∃ w', q.waits[n]? = some w' ∧ w'.waited = w.waited ∧ w'.limited = w.limited

theorem Later.refl (p : Pending) : Later p p :=
  ⟨fun _ x h => ⟨x, h, .refl x⟩, fun _ w h => ⟨w, h, rfl, rfl⟩⟩

theorem Later.trans (h : Later p q) (h' : Later q r) : Later p r where
  sends id x hx := by
    obtain ⟨y, hy, hxy⟩ := h.sends id x hx
    obtain ⟨z, hz, hyz⟩ := h'.sends id y hy
    exact ⟨z, hz, hxy.trans hyz⟩
  waits n w hw := by
    obtain ⟨w', hw', hwaited, hlimited⟩ := h.waits n w hw
    obtain ⟨w'', hw'', hwaited', hlimited'⟩ := h'.waits n w' hw'
    exact ⟨w'', hw'', hwaited'.trans hwaited, hlimited'.trans hlimited⟩

theorem Settled.later {limited : Bool} (h : p.Settled limited id) (hl : Later p q) : q.Settled limited id := by
  obtain ⟨x, hx, hsettled⟩ := h
  obtain ⟨y, hy, hxy⟩ := hl.sends id x hx
  refine ⟨y, hy, ?_⟩
  rcases hsettled with hover | ⟨hlimited, hc⟩
  · exact .inl (by rw [hxy.ended hover, hover])
  · exact .inr ⟨hlimited, hxy.cancelling hc⟩

/-- What holds whatever the acts: the sends fit the posts made, the open ones are held, and a wait that is over
has settled what it waits for. -/
structure Sound (p : Pending) (e : Effects) : Prop where
  fits : ∀ (id : Nat) (x : Send), p.sends[id]? = some x → x.Fits (e.postsOf id)
  unmade : ∀ id, p.sends.length ≤ id → e.postsOf id = []
  holds : ∀ id, p.isOpen id = true → id ∈ p.held
  numbered : ∀ id ∈ p.held, id < p.sends.length
  settles : ∀ w ∈ p.waits, ∀ id ∈ w.waited,
    id < p.sends.length ∧ (w.left = true → p.Settled w.limited id)

theorem sound_empty : Sound {} {} where
  fits _ _ := nofun
  unmade _ _ := rfl
  holds _ := nofun
  numbered _ := nofun
  settles _ := nofun

theorem isOpen_of_later (hl : Later p q) (hid : id < p.sends.length) (h : q.isOpen id = true) :
    p.isOpen id = true := by
  obtain ⟨y, hy, hxy⟩ := hl.sends id _ (List.getElem?_eq_getElem hid)
  obtain ⟨y', hy', hopen⟩ := isOpen_iff.1 h
  obtain rfl := Option.some.inj (hy.symm.trans hy')
  refine isOpen_iff.2 ⟨_, List.getElem?_eq_getElem hid, ?_⟩
  exact Bool.of_not_eq_false fun hover => Bool.false_ne_true (hover.symm.trans (hxy.ended hover ▸ hopen))

/-- The sends come further, each as its posts have it. -/
theorem Sound.replace {e' : Effects} {sends : List Send} (h : p.Sound e)
    (hlen : sends.length = p.sends.length)
    (hsends : ∀ (id : Nat) (x : Send), p.sends[id]? = some x →
      ∃ y, sends[id]? = some y ∧ x.Later y ∧ y.Fits (e.postsOf id ++ e'.postsOf id))
    (hunmade : ∀ id, p.sends.length ≤ id → e'.postsOf id = []) :
    Sound { p with sends } (e.append e') ∧ Later p { p with sends } := by
  have hlater : Later p { p with sends } := by
    refine ⟨fun id x hx => ?_, fun n w hw => ⟨w, hw, rfl, rfl⟩⟩
    obtain ⟨y, hy, hxy, -⟩ := hsends id x hx
    exact ⟨y, hy, hxy⟩
  refine ⟨⟨fun id y hy => ?_, fun id hid => ?_, fun id hopen => ?_, fun id hid => ?_,
    fun w hw id hid => ?_⟩, hlater⟩
  · have hid : id < p.sends.length := hlen ▸ (List.getElem?_eq_some_iff.1 hy).1
    obtain ⟨y', hy', -, hfits⟩ := hsends id _ (List.getElem?_eq_getElem hid)
    obtain rfl := Option.some.inj (hy.symm.trans hy')
    rwa [Effects.postsOf_append]
  · rw [hlen] at hid
    rw [Effects.postsOf_append, h.unmade id hid, hunmade id hid]
    rfl
  · obtain ⟨y, hy, -⟩ := isOpen_iff.1 hopen
    have hid : id < p.sends.length := hlen ▸ (List.getElem?_eq_some_iff.1 hy).1
    exact h.holds id (isOpen_of_later hlater hid hopen)
  · exact hlen ▸ h.numbered id hid
  · obtain ⟨hnumbered, hsettled⟩ := h.settles w hw id hid
    exact ⟨hlen ▸ hnumbered, fun hleft => (hsettled hleft).later hlater⟩

theorem Sound.update {step : Send → Send × Effects} (h : p.Sound e) (hstep : ∀ x, Send.Step id x (step x)) :
    (p.update id step).1.Sound (e.append (p.update id step).2) ∧ p.Later (p.update id step).1 := by
  unfold Pending.update
  cases hx : p.sends[id]? with
  | none =>
    refine h.replace rfl (fun j y hy => ⟨y, hy, .refl y, ?_⟩) fun _ _ => rfl
    simpa [Effects.postsOf] using h.fits j y hy
  | some x =>
    obtain ⟨hlt, -⟩ := List.getElem?_eq_some_iff.1 hx
    refine h.replace (List.length_set) (fun j y hy => ?_) fun j hj => (hstep x).alone j (by omega)
    by_cases hj : id = j
    · subst hj
      obtain rfl := Option.some.inj (hx.symm.trans hy)
      exact ⟨_, List.getElem?_set_self hlt, (hstep x).later, (hstep x).fits _ (h.fits id x hx)⟩
    · refine ⟨y, by rw [List.getElem?_set_ne hj, hy], .refl y, ?_⟩
      rw [(hstep x).alone j (Ne.symm hj), List.append_nil]
      exact h.fits j y hy

theorem Sound.cancel {ids : List Nat} (h : p.Sound e) (hids : ∀ id ∈ ids, p.isOpen id = true)
    (e' : Effects) (he' : e'.posts = []) :
    (p.cancel ids).Sound (e.append e') ∧ p.Later (p.cancel ids) := by
  have hposts : ∀ id, e'.postsOf id = [] := fun id => by simp [Effects.postsOf, he']
  refine h.replace List.length_mapIdx (fun id x hx => ?_) fun id _ => hposts id
  have hget : (p.cancel ids).sends[id]? = some (if id ∈ ids then x.cancel else x) := by
    rw [Pending.cancel, List.getElem?_mapIdx, hx]
    rfl
  refine ⟨_, hget, ?_⟩
  rw [hposts, List.append_nil]
  split
  · next hid =>
    obtain ⟨x', hx', hopen⟩ := isOpen_iff.1 (hids id hid)
    obtain rfl := Option.some.inj (hx.symm.trans hx')
    exact ⟨Send.later_cancel hopen, (h.fits id x hx).cancel⟩
  · exact ⟨.refl x, h.fits id x hx⟩

theorem Sound.hold (h : p.Sound e) (hx : x.Fits []) : (p.hold x).Sound e ∧ p.Later (p.hold x) := by
  have hlater : p.Later (p.hold x) := by
    refine ⟨fun id y hy => ⟨y, ?_, .refl y⟩, fun n w hw => ⟨w, hw, rfl, rfl⟩⟩
    exact (List.getElem?_append_left (List.getElem?_eq_some_iff.1 hy).1).trans hy
  have hlen : (p.sends ++ [x]).length = p.sends.length + 1 := List.length_append
  refine ⟨⟨fun id y hy => ?_, fun id hid => ?_, fun id hopen => ?_, fun id hid => ?_,
    fun w hw id hid => ?_⟩, hlater⟩
  · rcases Nat.lt_trichotomy id p.sends.length with hlt | rfl | hgt
    · exact h.fits id y ((List.getElem?_append_left hlt).symm.trans hy)
    · obtain rfl := Option.some.inj (List.getElem?_concat_length.symm.trans hy)
      rwa [h.unmade _ (Nat.le_refl _)]
    · have hlt : id < (p.sends ++ [x]).length := (List.getElem?_eq_some_iff.1 hy).1
      omega
  · have hle : (p.sends ++ [x]).length ≤ id := hid
    exact h.unmade id (by omega)
  · obtain ⟨y, hy, -⟩ := isOpen_iff.1 hopen
    have hlt : id < (p.sends ++ [x]).length := (List.getElem?_eq_some_iff.1 hy).1
    by_cases hid : id < p.sends.length
    · exact List.mem_append_left _ (h.holds id (isOpen_of_later hlater hid hopen))
    · exact List.mem_append_right _ (List.mem_singleton.2 (by omega))
  · rcases List.mem_append.1 hid with hid | hid
    · exact hlen ▸ Nat.lt_succ_of_lt (h.numbered id hid)
    · exact hlen ▸ List.mem_singleton.1 hid ▸ Nat.lt_succ_self _
  · obtain ⟨hnumbered, hsettled⟩ := h.settles w hw id hid
    exact ⟨hlen ▸ Nat.lt_succ_of_lt hnumbered, fun hleft => (hsettled hleft).later hlater⟩

theorem Sound.forget (h : p.Sound e) (id : Nat) :
    Sound { p with held := p.held.filter fun i => i != id || p.isOpen i } e where
  fits := h.fits
  unmade := h.unmade
  -- open sends are not forgotten
  holds i hopen := List.mem_filter.2 ⟨h.holds i hopen, Bool.or_eq_true_iff.2 (.inr hopen)⟩
  numbered i hi := h.numbered i (List.mem_filter.1 hi).1
  settles := h.settles

theorem Sound.waits {waits : List Wait} (h : p.Sound e) (hwaits : ∀ w ∈ waits, ∀ id ∈ w.waited,
    id < p.sends.length ∧ (w.left = true → p.Settled w.limited id)) : Sound { p with waits } e :=
  ⟨h.fits, h.unmade, h.holds, h.numbered, hwaits⟩

theorem Sound.wait (h : p.Sound e) (limited : Bool) :
    Sound { p with waits := p.waits ++ [{ waited := p.held, limited, left := p.held.isEmpty }] } e := by
  refine h.waits fun w hw id hid => ?_
  rcases List.mem_append.1 hw with hw | hw
  · exact h.settles w hw id hid
  · obtain rfl := List.mem_singleton.1 hw
    exact ⟨h.numbered id hid, fun hleft => absurd (List.isEmpty_iff.1 hleft) (List.ne_nil_of_mem hid)⟩

theorem Sound.setLeft {n : Nat} {w : Wait} (h : p.Sound e) (hw : w ∈ p.waits)
    (hsettled : ∀ id ∈ w.waited, p.Settled w.limited id) :
    Sound { p with waits := p.waits.set n { w with left := true } } e := by
  refine h.waits fun w' hw' id hid => ?_
  rcases List.mem_or_eq_of_mem_set hw' with hw' | rfl
  · exact h.settles w' hw' id hid
  · exact ⟨(h.settles w hw id hid).1, fun _ => hsettled id hid⟩

theorem later_setLeft {n : Nat} {w : Wait} (hw : p.waits[n]? = some w) :
    Later p { p with waits := p.waits.set n { w with left := true } } := by
  refine ⟨fun id x hx => ⟨x, hx, .refl x⟩, fun m v hv => ?_⟩
  by_cases hm : n = m
  · subst hm
    obtain rfl := Option.some.inj (hw.symm.trans hv)
    exact ⟨_, List.getElem?_set_self (List.getElem?_eq_some_iff.1 hw).1, rfl, rfl⟩
  · exact ⟨v, (List.getElem?_set_ne hm).trans hv, rfl, rfl⟩

theorem Sound.leave {n : Nat} {w : Wait} (h : p.Sound e) (hw : p.waits[n]? = some w) :
    (p.leave n w).1.Sound (e.append (p.leave n w).2) ∧ p.Later (p.leave n w).1 := by
  have hmem : w ∈ p.waits := List.mem_of_getElem? hw
  -- what is not late is over, and settled with or without a limit
  have hover : ∀ id ∈ w.waited, id ∉ w.waited.filter p.isOpen → p.Settled w.limited id := by
    intro id hid hlate
    have hx := List.getElem?_eq_getElem (h.settles w hmem id hid).1
    refine ⟨_, hx, .inl (Bool.of_not_eq_true fun hopen => hlate (List.mem_filter.2 ⟨hid, ?_⟩))⟩
    exact isOpen_iff.2 ⟨_, hx, hopen⟩
  unfold Pending.leave
  dsimp only
  split
  · next hnone =>
    rw [List.isEmpty_iff] at hnone
    rw [Effects.append_empty]
    exact ⟨h.setLeft hmem fun id hid => hover id hid (by simp [hnone]), later_setLeft hw⟩
  split
  · next hlimited =>
    have hopen : ∀ id ∈ w.waited.filter p.isOpen, p.isOpen id = true := fun id hid => (List.mem_filter.1 hid).2
    obtain ⟨hsound, hlater⟩ := h.cancel hopen
      { records := [timedOut (w.waited.filter p.isOpen).length] } rfl
    have hw' : (p.cancel (w.waited.filter p.isOpen)).waits[n]? = some w := hw
    refine ⟨hsound.setLeft hmem fun id hid => ?_, hlater.trans (later_setLeft hw')⟩
    by_cases hlate : id ∈ w.waited.filter p.isOpen
    · obtain ⟨x, hx, -⟩ := isOpen_iff.1 (List.mem_filter.1 hlate).2
      refine ⟨x.cancel, ?_, .inr ⟨hlimited, rfl⟩⟩
      rw [Pending.cancel, List.getElem?_mapIdx, hx, Option.map_some, if_pos hlate]
    · exact (hover id hid hlate).later hlater
  · rw [Effects.append_empty]
    exact ⟨h, .refl p⟩

theorem Sound.act {a : Act} (h : p.Sound e) (ha : a.Expected) :
    (p.act a).1.Sound (e.append (p.act a).2) ∧ p.Later (p.act a).1 := by
  cases a with
  | schedule target event unwritable =>
    have hfits : Send.Fits { target, event, unwritable } [] := ⟨ha, rfl⟩
    simpa only [Pending.act, Effects.append_empty] using h.hold hfits
  | write id => exact h.update (Send.write_step id)
  | post id reply => exact h.update (Send.post_step ha id)
  | answer id => exact h.update (Send.answer_step id)
  | stop id => exact h.update (Send.stop_step id)
  | forget id =>
    rw [Pending.act, Effects.append_empty]
    exact ⟨h.forget id, (Later.refl p).sends, (Later.refl p).waits⟩
  | wait limited =>
    rw [Pending.act, Effects.append_empty]
    refine ⟨h.wait limited, (Later.refl p).sends, fun n w hw => ⟨w, ?_, rfl, rfl⟩⟩
    exact (List.getElem?_append_left (List.getElem?_eq_some_iff.1 hw).1).trans hw
  | leave n =>
    rw [Pending.act]
    split
    · next w hw =>
      split
      · rw [Effects.append_empty]
        exact ⟨h, .refl p⟩
      · exact h.leave hw
    · rw [Effects.append_empty]
      exact ⟨h, .refl p⟩

theorem Sound.perform {acts : List Act} (h : p.Sound e) (ha : ∀ a ∈ acts, a.Expected) :
    (p.perform acts).1.Sound (e.append (p.perform acts).2) ∧ p.Later (p.perform acts).1 := by
  -- the effects so far vary with the state
  induction acts generalizing p e with
  | nil => exact ⟨(Effects.append_empty e).symm ▸ h, .refl p⟩
  | cons a acts ih =>
    obtain ⟨hact, hlater⟩ := h.act (ha a List.mem_cons_self)
    obtain ⟨hrest, hlater'⟩ := ih hact fun b hb => ha b (List.mem_cons_of_mem a hb)
    rw [Effects.append_assoc] at hrest
    exact ⟨hrest, hlater.trans hlater'⟩

/-! ### What is scheduled -/

theorem length_update (id : Nat) (step : Send → Send × Effects) :
    (p.update id step).1.sends.length = p.sends.length := by
  unfold update
  split
  · exact List.length_set
  · rfl

theorem length_leave (n : Nat) (w : Wait) : (p.leave n w).1.sends.length = p.sends.length := by
  unfold leave
  dsimp only
  split
  · rfl
  split
  · exact List.length_mapIdx
  · rfl

theorem length_act (a : Act) : (p.act a).1.sends.length = p.sends.length + a.orders.length := by
  cases a with
  | schedule target event unwritable => exact List.length_append
  | write id => exact length_update _ _
  | post id reply => exact length_update _ _
  | answer id => exact length_update _ _
  | stop id => exact length_update _ _
  | forget id => rfl
  | wait limited => rfl
  | leave n =>
    rw [act]
    split
    · split
      · rfl
      · exact length_leave _ _
    · rfl

theorem orders_of_later (hl : Later p q) (hlen : q.sends.length = p.sends.length) :
    q.sends.map Send.order = p.sends.map Send.order := by
  refine List.ext_getElem (by simpa using hlen) fun id hq hp => ?_
  rw [List.length_map] at hp hq
  obtain ⟨y, hy, hxy⟩ := hl.sends id _ (List.getElem?_eq_getElem hp)
  rw [List.getElem?_eq_getElem hq] at hy
  rw [List.getElem_map, List.getElem_map, Option.some.inj hy, hxy.order]

theorem Sound.orders_act {a : Act} (h : p.Sound e) (ha : a.Expected) :
    (p.act a).1.sends.map Send.order = p.sends.map Send.order ++ a.orders := by
  by_cases hnone : a.orders = []
  · have hlen := length_act (p := p) a
    rw [hnone] at hlen ⊢
    rw [List.append_nil]
    exact orders_of_later (h.act ha).2 hlen
  · cases a with
    | schedule target event unwritable => exact List.map_append
    | _ => exact absurd rfl hnone

theorem Sound.orders_perform {acts : List Act} (h : p.Sound e) (ha : ∀ a ∈ acts, a.Expected) :
    (p.perform acts).1.sends.map Send.order = p.sends.map Send.order ++ acts.flatMap Act.orders := by
  induction acts generalizing p e with
  | nil => exact (List.append_nil _).symm
  | cons a acts ih =>
    have hfirst := ha a List.mem_cons_self
    rw [List.flatMap_cons, ← List.append_assoc, ← h.orders_act hfirst]
    exact ih (h.act hfirst).1 fun b hb => ha b (List.mem_cons_of_mem a hb)

/-! ### What is held -/

theorem held_perform_forget (ids : List Nat) : (p.perform (ids.map .forget)).1.held =
    p.held.filter fun i => !ids.contains i || p.isOpen i := by
  induction ids generalizing p with
  | nil => exact (List.filter_eq_self.2 fun _ _ => rfl).symm
  | cons id ids ih =>
    -- what is open does not depend on what is held
    have hopen : (p.act (.forget id)).1.isOpen = p.isOpen := rfl
    have hheld : (p.act (.forget id)).1.held = p.held.filter fun i => i != id || p.isOpen i := rfl
    refine (ih (p := (p.act (.forget id)).1)).trans ?_
    rw [hopen, hheld, List.filter_filter]
    refine List.filter_congr fun i _ => ?_
    rw [List.contains_cons, bne]
    cases i == id <;> cases ids.contains i <;> cases p.isOpen i <;> rfl

theorem Sound.mem_held_iff (h : p.Sound e) :
    id ∈ (p.perform (p.held.map .forget)).1.held ↔ p.isOpen id = true := by
  rw [held_perform_forget, List.mem_filter]
  constructor
  · rintro ⟨hheld, hkept⟩
    simpa [hheld] using hkept
  · intro hopen
    exact ⟨h.holds id hopen, by rw [hopen, Bool.or_true]⟩

/-- What is waited for is settled when the wait is over, whatever has happened meanwhile. -/
theorem Sound.settled_of_left {acts : List Act} (h : p.Sound e) (ha : ∀ a ∈ acts, a.Expected) (limited : Bool) :
    ∃ w, (p.perform (.wait limited :: acts)).1.waits[p.waits.length]? = some w ∧
      (w.left = true → ∀ id ∈ p.held, (p.perform (.wait limited :: acts)).1.Settled limited id) := by
  have hbegun : (p.act (.wait limited)).1.waits[p.waits.length]? =
      some { waited := p.held, limited, left := p.held.isEmpty } := List.getElem?_concat_length
  obtain ⟨hrest, hlater⟩ := (h.act (a := .wait limited) trivial).1.perform ha
  obtain ⟨w, hw, hwaited, hlimited⟩ := hlater.waits _ _ hbegun
  refine ⟨w, hw, fun hleft id hid => ?_⟩
  have hmem : id ∈ w.waited := hwaited ▸ hid
  have hsettled := (hrest.settles w (List.mem_of_getElem? hw) id hmem).2 hleft
  rw [show w.limited = limited from hlimited] at hsettled
  exact hsettled

theorem getElem?_update {step : Send → Send × Effects} (hx : p.sends[id]? = some x) :
    (p.update id step).1.sends[id]? = some (step x).1 := by
  rw [update, hx]
  exact List.getElem?_set_self (List.getElem?_eq_some_iff.1 hx).1

/-- A send that nothing keeps from it is over, and has made its post, once it has gone on. -/
theorem Sound.goesOn {reply : Reply} (h : p.Sound e) (hx : p.sends[id]? = some x) (hopen : x.isOpen = true)
    (hu : x.unwritable = none) (hc : x.cancelling = false) (hreply : reply.Expected) :
    (p.perform [.write id, .post id reply, .answer id]).1.isOpen id = false ∧
      ∃ sent, (e.append (p.perform [.write id, .post id reply, .answer id]).2).postsOf id = [sent] ∧
        x.Carries sent := by
  have ha : ∀ a ∈ [Act.write id, .post id reply, .answer id], a.Expected := by
    simp only [List.forall_mem_cons]
    exact ⟨trivial, hreply, trivial, List.forall_mem_nil _⟩
  obtain ⟨hsound, hlater⟩ := h.perform ha
  have hy : (p.perform [.write id, .post id reply, .answer id]).1.sends[id]? =
      some (x.write.1.post id reply).1.answer.1 := getElem?_update (getElem?_update (getElem?_update hx))
  have hstage : (x.write.1.post id reply).1.answer.1.stage = .ended .answered :=
    Send.answered_of_steps (h.fits id x hx) hopen hu hc hreply
  obtain ⟨y, hy', hxy⟩ := hlater.sends id x hx
  obtain rfl := Option.some.inj (hy.symm.trans hy')
  obtain ⟨htarget, hevent, -⟩ : _ ∧ _ ∧ _ := by simpa only [Send.order, Prod.mk.injEq] using hxy.order
  have hfits := (hsound.fits id _ hy).2
  rw [hstage] at hfits
  refine ⟨?_, _, hfits.1, htarget, congrArg Event.wire hevent, rfl⟩
  rw [isOpen, hy, Option.any_some, Send.isOpen, hstage]

end Pending

/-- What an offer has led to. -/
structure Offered (s : Settings) (p : Pending) (a : Snapshot) (latency : Duration) (isRobot : Bool)
    (status : Int) (r : Bool × Pending × Effects) : Prop where
  reported : r.1 = true ↔ isReported a.path.toList = true
  held : r.1 = true → r.2.1 =
    p.hold { target := s.collectorUrl, event := .ofSnapshot s a latency isRobot status }
  unheld : r.1 = false → r.2.1 = p

theorem offer_cases (s : Settings) (p : Pending) (a : Snapshot) (latency : Duration) (isRobot : Bool)
    (status : Int) : Offered s p a latency isRobot status (offer s p a latency isRobot status) := by
  unfold offer event?
  cases hpath : isReported a.path.toList with
  | true => exact ⟨iff_of_true rfl hpath, fun _ => rfl, nofun⟩
  | false => exact ⟨iff_of_false Bool.false_ne_true (Bool.eq_false_iff.1 hpath), nofun, fun _ => rfl⟩

namespace Pending

/-- What acts have led to, and what is to come of it. -/
structure Delivers (acts : List Act) (p : Pending) (e : Effects) : Prop where
  /-- Every event scheduled has one send. -/
  orders : p.sends.map Send.order = acts.flatMap Act.orders
  holds : ∀ id, p.isOpen id = true → id ∈ p.held
  /-- Only what is open is held once the rest has been forgotten. -/
  forgets : ∀ id, id ∈ (p.perform (p.held.map .forget)).1.held ↔ p.isOpen id = true
  accounted : ∀ id x, p.sends[id]? = some x → Send.Accounted x (e.postsOf id)
  unmade : ∀ id, p.sends.length ≤ id → e.postsOf id = []
  /-- A send that is open, can be written and has not been asked to stop is over, with its post made, once it
  has gone on. -/
  goesOn : ∀ id x reply, p.sends[id]? = some x → Send.isOpen x = true → x.unwritable = none →
    x.cancelling = false → Reply.Expected reply →
    (p.perform [.write id, .post id reply, .answer id]).1.isOpen id = false ∧
      ∃ sent, (e.append (p.perform [.write id, .post id reply, .answer id]).2).postsOf id = [sent] ∧
        x.Carries sent
  offers : ∀ s a latency isRobot status,
    Offered s p a latency isRobot status (offer s p a latency isRobot status)
  /-- When a wait is over, what was held at its beginning is over too or, if the time was limited, asked to
  stop. -/
  settles : ∀ limited later, (∀ a ∈ later, Act.Expected a) →
    ∃ w, (p.perform (.wait limited :: later)).1.waits[p.waits.length]? = some w ∧
      (w.left = true → ∀ id ∈ p.held, (p.perform (.wait limited :: later)).1.Settled limited id)

/-- Whatever the order of acts, every event has one send, each send is accounted for with the posts that it has
made, and those that are open are held. -/
theorem perform_delivers {acts : List Act} {p : Pending} {e : Effects} (ha : ∀ a ∈ acts, a.Expected)
    (hp : ({} : Pending).perform acts = (p, e)) : Delivers acts p e := by
  have hsound : p.Sound e := by
    have hrun := (sound_empty.perform ha).1
    rw [hp] at hrun
    exact hrun
  have horders := sound_empty.orders_perform ha
  rw [hp] at horders
  exact {
    orders := horders
    holds := hsound.holds
    forgets := fun _ => hsound.mem_held_iff
    accounted := fun id x hx => (hsound.fits id x hx).accounted
    unmade := hsound.unmade
    goesOn := fun _ _ _ hx hopen hu hc hreply => hsound.goesOn hx hopen hu hc hreply
    offers := fun s a latency isRobot status => offer_cases s p a latency isRobot status
    settles := fun limited _ hlater => hsound.settled_of_left hlater limited }

/-- An event of a page view. -/
def view : Event :=
  { host := "godoc.org", path := "/a", status := 200, url := "https://godoc.org/a", headers := [],
    latency := ⟨0⟩, isRobot := false, redirected := false }

/-- Two sends, waited for without a limit and then with one: the first is refused by the collector, the second
is stopped before its post. A third that is scheduled meanwhile, and one that cannot be written, are not waited
for. -/
def crossed : List Act :=
  [.schedule "https://collector" view none, .schedule "https://collector" view none, .wait false, .write 0,
    .post 0 (.status 503), .wait true, .answer 0, .schedule "https://collector" view none,
    .schedule "https://collector" view (some ⟨"event", .content "no text"⟩), .leave 0, .leave 1, .write 1,
    .stop 1, .write 3, .leave 0]

theorem perform_delivers_crossed :
    (∀ a ∈ crossed, a.Expected) ∧
      (({} : Pending).perform crossed).1.held = [0, 1, 2, 3] ∧
      (({} : Pending).perform crossed).1.sends.map Send.isOpen = [false, false, true, false] ∧
      (({} : Pending).perform crossed).1.waits.map (·.left) = [true, true] ∧
      (({} : Pending).perform crossed).2.posts.map (·.1) = [0] ∧
      ∀ id, id ∈ ((({} : Pending).perform crossed).1.perform
        ((({} : Pending).perform crossed).1.held.map .forget)).1.held ↔
          (({} : Pending).perform crossed).1.isOpen id = true := by
  have ha : ∀ a ∈ crossed, a.Expected := by
    simp only [crossed, List.forall_mem_cons]
    exact ⟨nofun, nofun, trivial, trivial, trivial, trivial, trivial, nofun,
      fun _ hu => ⟨_, congrArg _ (Option.some.inj hu).symm⟩, trivial, trivial, trivial, trivial, trivial,
      trivial, nofun⟩
  have hp : ({} : Pending).perform crossed =
      ((({} : Pending).perform crossed).1, (({} : Pending).perform crossed).2) := rfl
  exact ⟨ha, rfl, rfl, rfl, rfl, (perform_delivers ha hp).forgets⟩

end Pending

end Changeover.Report
