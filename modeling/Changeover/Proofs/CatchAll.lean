import Changeover.Proofs.Consistency

/-!
# What the last page takes

Of what begins with a slash the last page takes all but the paths with a line feed before their end
(`takesPath_legacy_iff`). These are not found, unless slashes are all that follows their first line feed:
then they are redirected to the path without those. A path with a line feed at its end meets what it would
meet without it, so the two health pages are met at two paths each (`Meets`, `find_eq_iff_meets`). Whatever
is let through to a page is handled by it (`catchAll_iff`).
-/

namespace Changeover

open Text

namespace Gateway

theorem exists_last (s : List Char) : s = [] ∨ ∃ t c, s = t ++ [c] := by
  simpa using s.eq_nil_or_concat

namespace Route

variable {path : List Char} {p : Route} {text method : String}

theorem dropLineFeed_concat (s : List Char) : dropLineFeed (s ++ ['\n']) = s := by
  simp [dropLineFeed]

theorem dropLineFeed_concat_of_ne {c : Char} (h : c ≠ '\n') (s : List Char) :
    dropLineFeed (s ++ [c]) = s ++ [c] := by
  simp [dropLineFeed, h]

theorem mem_dropLineFeed (s : List Char) : '\n' ∈ dropLineFeed s ↔ '\n' ∈ s.dropLast := by
  rcases exists_last s with rfl | ⟨t, c, rfl⟩
  · rfl
  by_cases hc : c = '\n'
  · simp [hc, dropLineFeed_concat]
  · simp [dropLineFeed_concat_of_ne hc, Ne.symm hc]

theorem takesPath_legacy_iff :
    legacy.takesPath path = true ↔ path.head? = some '/' ∧ '\n' ∉ path.dropLast := by
  match path with
  | [] => simp [takesPath, path?]
  | [c] => by_cases hc : c = '/' <;> simp [takesPath, path?, hc, dropLineFeed]
  | c :: d :: rest =>
    have hmem := mem_dropLineFeed (d :: rest)
    by_cases hc : c = '/'
    · subst hc
      simp [takesPath, path?, hmem]
    · simp [takesPath, path?, hc]

theorem takesPath_iff_of_path? (hp : p.path? = some text) :
    p.takesPath path = true ↔ path = text.toList ∨ path = text.toList ++ ['\n'] := by
  simp only [takesPath, hp, Bool.or_eq_true, beq_iff_eq]
  exact or_congr eq_comm eq_comm

theorem takesPath_of_path? (hp : p.path? = some text) (ht : text.toList.getLast? ≠ some '\n') :
    p.takesPath path = (dropLineFeed path == text.toList) := by
  rw [Bool.eq_iff_iff, takesPath_iff_of_path? hp, beq_iff_eq]
  constructor
  · rintro (rfl | rfl)
    · simp [dropLineFeed, ht]
    · exact dropLineFeed_concat _
  · intro h
    rcases exists_last path with rfl | ⟨t, c, rfl⟩
    · exact .inl h
    by_cases hc : c = '\n'
    · subst hc
      rw [dropLineFeed_concat] at h
      exact .inr (by rw [h])
    · rw [dropLineFeed_concat_of_ne hc] at h
      exact .inl h

/-- The page that is meant for a path. -/
def meant (method : String) (path : List Char) : Route :=
  if method = "GET" ∧ path = "/_ah/health".toList then .health
  else if method = "GET" ∧ path = "/-/bot".toList then .bot
  else .legacy

end Route

/-- What a request meets at a path that begins with a slash. -/
inductive Meets (method : String) (path : List Char) : Match → Prop
  | page : '\n' ∉ path.dropLast → Meets method path (.page (.meant method (Route.dropLineFeed path)))
  | slash {stem : List Char} {n : Nat} : '\n' ∉ stem → path = stem ++ '\n' :: List.replicate (n + 1) '/' →
      Meets method path (.slash (stem ++ ['\n']))
  | nothing : '\n' ∈ path.dropLast →
      (∀ stem n, '\n' ∉ stem → path ≠ stem ++ '\n' :: List.replicate (n + 1) '/') →
      Meets method path .nothing

section Paths

variable {path : List Char} {method : String} {m : Match}

theorem otherSlash_append {core : List Char} (h : core.getLast? ≠ some '/') (n : Nat) :
    otherSlash (core ++ List.replicate (n + 1) '/') = core := by
  have hlast : (core ++ List.replicate (n + 1) '/').getLast? = some '/' := by
    simp [List.getLast?_replicate]
  have hstop : core.reverse.dropWhile (· == '/') = core.reverse := by
    rcases exists_last core with rfl | ⟨t, c, rfl⟩
    · rfl
    · rw [List.reverse_append]
      exact List.dropWhile_cons_of_neg (by simpa using h)
  rw [otherSlash, hlast]
  simp [List.reverse_replicate, hstop]

theorem exists_slashes (s : List Char) :
    ∃ core n, core.getLast? ≠ some '/' ∧ s = core ++ List.replicate n '/' := by
  induction hs : s.length generalizing s with
  | zero => exact ⟨[], 0, by simp, by simpa using hs⟩
  | succ k ih =>
    rcases exists_last s with rfl | ⟨t, c, rfl⟩
    · cases hs
    by_cases hc : c = '/'
    · obtain ⟨core, n, hcore, rfl⟩ := ih t (by simpa using hs)
      exact ⟨core, n + 1, hcore, by simp [hc, List.replicate_succ']⟩
    · exact ⟨t ++ [c], 0, by simp [hc], by simp⟩

theorem find_of_page (hs : path.head? = some '/') (hm : method ∈ ["GET", "HEAD", "POST"])
    (h : '\n' ∉ path.dropLast) :
    Match.find false path method = .page (.meant method (Route.dropLineFeed path)) := by
  have hlegacy : Route.legacy.takes path method = true := by
    rw [Route.takes, Route.takesPath_legacy_iff.2 ⟨hs, h⟩]
    simpa [Route.methods] using hm
  have hpaged {p : Route} {text : String} (hp : p.path? = some text) (hget : p.methods = ["GET"])
      (ht : text.toList.getLast? ≠ some '\n') : p.takes path method =
        decide (method = "GET" ∧ Route.dropLineFeed path = text.toList) := by
    rw [Route.takes, Route.takesPath_of_path? hp ht, hget]
    rw [Bool.eq_iff_iff, Bool.and_eq_true, beq_iff_eq, decide_eq_true_iff, and_comm]
    exact and_congr_left' (by simp)
  have hhealth := hpaged (p := .health) rfl rfl (by decide)
  have hbot := hpaged (p := .bot) rfl rfl (by decide)
  simp only [Match.find, Route.table, Bool.false_eq_true, if_false, List.nil_append, List.find?_cons,
    hhealth, hbot, hlegacy, Route.meant]
  by_cases h₁ : method = "GET" ∧ Route.dropLineFeed path = "/_ah/health".toList
  · rw [decide_eq_true h₁, if_pos h₁]
  rw [decide_eq_false h₁, if_neg h₁]
  by_cases h₂ : method = "GET" ∧ Route.dropLineFeed path = "/-/bot".toList
  · rw [decide_eq_true h₂, if_pos h₂]
  · rw [decide_eq_false h₂, if_neg h₂]

theorem legacy_takesPath {p : Route} (hp : p ∈ Route.table false) (h : p.takesPath path = true) :
    Route.legacy.takesPath path = true := by
  have hcases : p = .health ∨ p = .bot ∨ p = .legacy := by simpa [Route.table] using hp
  rcases hcases with rfl | rfl | rfl
  · rcases (Route.takesPath_iff_of_path? rfl).1 h with rfl | rfl <;> decide
  · rcases (Route.takesPath_iff_of_path? rfl).1 h with rfl | rfl <;> decide
  · exact h

/-- A path with a line feed inside is taken by no page, but it may be with the other ending. -/
theorem find_of_lineFed (h : '\n' ∈ path.dropLast) :
    Match.find false path method =
      if Route.legacy.takesPath (otherSlash path) then .slash (otherSlash path) else .nothing := by
  have hnone : ∀ p ∈ Route.table false, ¬ p.takesPath path = true := fun p hp ht =>
    (Route.takesPath_legacy_iff.1 (legacy_takesPath hp ht)).2 h
  have htakes : ∀ p ∈ Route.table false, ¬ p.takes path method = true := fun p hp => by
    simp [Route.takes, hnone p hp]
  have hother : (Route.table false).any (·.takesPath (otherSlash path)) =
      Route.legacy.takesPath (otherSlash path) := by
    rw [Bool.eq_iff_iff, List.any_eq_true]
    exact ⟨fun ⟨p, hp, ht⟩ => legacy_takesPath hp ht, fun ht => ⟨.legacy, by decide, ht⟩⟩
  have hne : path ≠ ['/'] := fun he => by simp [he] at h
  rw [Match.find, List.find?_eq_none.2 htakes, List.find?_eq_none.2 hnone]
  simp [hne, hother]

theorem dropLast_slashes (core : List Char) (n : Nat) :
    (core ++ List.replicate (n + 1) '/').dropLast = core ++ List.replicate n '/' := by
  rw [List.replicate_succ', ← List.append_assoc, List.dropLast_concat]

/-- A path with a line feed inside is taken with the other ending only if slashes are all that follows its
first line feed. -/
theorem exists_stem (h : '\n' ∈ path.dropLast)
    (ht : Route.legacy.takesPath (otherSlash path) = true) :
    ∃ stem n, '\n' ∉ stem ∧ path = stem ++ '\n' :: List.replicate (n + 1) '/' := by
  obtain ⟨-, hinner⟩ := Route.takesPath_legacy_iff.1 ht
  obtain ⟨core, n, hcore, rfl⟩ := exists_slashes path
  cases n with
  | zero =>
    -- a slash is added, and the line feed stands before it
    have hother : otherSlash core = core ++ ['/'] := by simp [otherSlash, hcore]
    simp only [List.replicate_zero, List.append_nil] at h hinner
    rw [hother, List.dropLast_concat] at hinner
    exact absurd ((List.dropLast_sublist _).subset h) hinner
  | succ n =>
    -- the slashes are taken off, and only the last character of what is left can be a line feed
    rw [otherSlash_append hcore] at hinner
    rw [dropLast_slashes] at h
    rcases exists_last core with rfl | ⟨stem, c, rfl⟩
    · simp [List.mem_replicate] at h
    have hstem : '\n' ∉ stem := by simpa using hinner
    have hc : c = '\n' := by simpa [hstem, List.mem_replicate, eq_comm] using h
    exact ⟨stem, n, hstem, by simp [hc]⟩

theorem find_of_meets (hs : path.head? = some '/') (hm : method ∈ ["GET", "HEAD", "POST"])
    (h : Meets method path m) : Match.find false path method = m := by
  cases h with
  | page h => exact find_of_page hs hm h
  | @slash stem n hstem hpath =>
    have hcore : path = (stem ++ ['\n']) ++ List.replicate (n + 1) '/' := by simp [hpath]
    have hfirst : (stem ++ ['\n']).head? = some '/' := by
      cases stem with
      | nil => simp [hpath] at hs
      | cons c stem => simpa [hpath] using hs
    have hmem : '\n' ∈ path.dropLast := by
      rw [hcore, dropLast_slashes]
      simp
    have hother : otherSlash path = stem ++ ['\n'] := by
      rw [hcore, otherSlash_append (by simp)]
    have htaken : Route.legacy.takesPath (stem ++ ['\n']) = true :=
      Route.takesPath_legacy_iff.2 ⟨hfirst, by simpa using hstem⟩
    rw [find_of_lineFed hmem, hother, htaken]
    rfl
  | nothing hmem hno =>
    have hother : Route.legacy.takesPath (otherSlash path) = false := by
      refine Bool.eq_false_iff.2 fun ht => ?_
      obtain ⟨stem, n, hstem, hpath⟩ := exists_stem hmem ht
      exact hno stem n hstem hpath
    rw [find_of_lineFed hmem, hother]
    rfl

theorem exists_meets (method : String) (path : List Char) : ∃ m, Meets method path m := by
  by_cases hmem : '\n' ∈ path.dropLast
  · by_cases hstem : ∃ stem n, '\n' ∉ stem ∧ path = stem ++ '\n' :: List.replicate (n + 1) '/'
    · obtain ⟨stem, n, hstem, hpath⟩ := hstem
      exact ⟨_, .slash hstem hpath⟩
    · exact ⟨_, .nothing hmem fun stem n hs hp => hstem ⟨stem, n, hs, hp⟩⟩
  · exact ⟨_, .page hmem⟩

theorem find_eq_iff_meets (hs : path.head? = some '/') (hm : method ∈ ["GET", "HEAD", "POST"]) :
    Match.find false path method = m ↔ Meets method path m := by
  refine ⟨?_, find_of_meets hs hm⟩
  rintro rfl
  obtain ⟨m, h⟩ := exists_meets method path
  rwa [find_of_meets hs hm h]

theorem meant_eq_legacy_iff : Route.meant method path = .legacy ↔
    ¬ (method = "GET" ∧ (path = "/_ah/health".toList ∨ path = "/-/bot".toList)) := by
  unfold Route.meant
  split
  · next h => exact iff_of_false nofun fun hn => hn ⟨h.1, .inl h.2⟩
  · next h₁ =>
    split
    · next h => exact iff_of_false nofun fun hn => hn ⟨h.1, .inr h.2⟩
    · next h₂ =>
      refine iff_of_true rfl ?_
      rintro ⟨hm, hp | hp⟩
      · exact h₁ ⟨hm, hp⟩
      · exact h₂ ⟨hm, hp⟩

/-- A request for a health page with a line feed after its path. -/
def HealthLineFed (method : String) (path : List Char) : Prop :=
  method = "GET" ∧ (path = "/_ah/health".toList ++ ['\n'] ∨ path = "/-/bot".toList ++ ['\n'])

theorem meant_dropLineFeed_iff :
    Route.meant method (Route.dropLineFeed path) = Route.meant method path ↔
      ¬ HealthLineFed method path := by
  by_cases hlast : path.getLast? = some '\n'
  · obtain ⟨t, rfl⟩ := List.getLast?_eq_some_iff.1 hlast
    -- what ends in a line feed is meant for the last page
    have hfed : Route.meant method (t ++ ['\n']) = .legacy := by
      refine meant_eq_legacy_iff.2 fun ⟨_, hp⟩ => ?_
      rcases hp with hp | hp <;> exact absurd (congrArg List.getLast? hp) (by simp)
    rw [Route.dropLineFeed_concat, hfed, meant_eq_legacy_iff, HealthLineFed, List.append_left_inj,
      List.append_left_inj]
  · have hself : Route.dropLineFeed path = path := by simp [Route.dropLineFeed, hlast]
    rw [hself]
    refine iff_of_true rfl fun ⟨_, hp⟩ => hlast ?_
    rcases hp with rfl | rfl <;> simp

end Paths

section Runs

variable {s : Settings} {r : Request} {x : Surroundings} {a : Snapshot} {fields : List RawHeader}

/-- The redirect layer passes the request on, and adds fields to what is sent. -/
def LetThrough (s : Settings) (r : Request) (fields : List RawHeader) : Prop :=
  ∀ inner, let outer := redirectLayer s isExempt (fun a => some (Decision.resolve s a)) (.http r) inner
    outer.messages = inner.messages.map (Message.withFields fields) ∧ outer.forwarded = inner.forwarded

theorem withFields_nil : Message.withFields [] = id := by
  funext m
  cases m <;> simp [Message.withFields]

theorem letThrough_exempt (h : isExempt r.path.toList = true) : LetThrough s r [] := by
  intro inner
  simp only [redirectLayer_exempt inner h, withFields_nil, List.map_id, and_self]

theorem letThrough_decided (h : isExempt r.path.toList = false) (ha : Snapshot.ofRequest r = .ok a)
    (hc : SetCookie.ofUpdate s (Decision.resolve s a).cookie = .ok fields)
    (hd : (Decision.resolve s a).destination = none) : LetThrough s r fields := by
  intro inner
  refine ⟨messages_redirectLayer_pass inner hc h ha rfl hd, ?_⟩
  show (redirectLayer s isExempt _ (.http r) inner).forwarded = _
  rw [redirectLayer_decided inner h ha rfl, carryOut, hc, hd]
  exact (repeats_withHeaders inner fields).forwarded

theorem forwarded_surrounded (s : Settings) (r : Request) (x : Surroundings) :
    (surrounded s r x).forwarded = (route s.debug r x.body x.legacy).forwarded := by
  have hpage := pageRun_route s.debug r x.body x.legacy
  rw [surrounded]
  generalize route s.debug r x.body x.legacy = run at hpage
  split
  · cases hpage with
    | answered response hq =>
      rw [reportLayer_answered hq, Run.forwarded_after, Run.forwarded_after,
        forwarded_answeredRun x.counted response]
      rfl
    | broken f hq => rw [reportLayer_broken hq]
  · rfl

/-- A page handles the request: it forwards what is forwarded and, but for added fields, sends what is
sent. -/
structure HandledBy (p : Route) (s : Settings) (r : Request) (x : Surroundings)
    (fields : List RawHeader) : Prop where
  messages : (layered s r x).messages =
    (p.run r x.body x.legacy).messages.map (Message.withFields fields)
  forwarded : (layered s r x).forwarded = (p.run r x.body x.legacy).forwarded

theorem LetThrough.handledBy {p : Route} (h : LetThrough s r fields)
    (hp : Match.find s.debug r.path.toList r.method = .page p) (x : Surroundings) :
    HandledBy p s r x fields := by
  have hroute : route s.debug r x.body x.legacy = p.run r x.body x.legacy := by
    simp only [route, hp]
  obtain ⟨hmessages, hforwarded⟩ := h (surrounded s r x)
  rw [messages_surrounded, hroute] at hmessages
  rw [forwarded_surrounded, hroute] at hforwarded
  exact ⟨hmessages, hforwarded⟩

/-- Of the requests with a method of the last page and a path that begins with a slash, all meet the page
that is meant for them, unless a line feed stands before the end of the path, or at the end of that of a
health page. A request that is let through is handled by the page that it meets. -/
theorem catchAll_iff (hd : s.debug = false) (hs : r.path.toList.head? = some '/')
    (hm : r.method ∈ ["GET", "HEAD", "POST"]) :
    (Match.find s.debug r.path.toList r.method = .page (.meant r.method r.path.toList) ↔
        '\n' ∉ r.path.toList.dropLast ∧ ¬ HealthLineFed r.method r.path.toList) ∧
      (∀ m, Match.find s.debug r.path.toList r.method = m ↔ Meets r.method r.path.toList m) ∧
      ∀ p fields, Meets r.method r.path.toList (.page p) → LetThrough s r fields →
        ∀ x, HandledBy p s r x fields := by
  have hfind (m : Match) : Match.find s.debug r.path.toList r.method = m ↔
      Meets r.method r.path.toList m := by
    rw [hd]
    exact find_eq_iff_meets hs hm
  refine ⟨?_, hfind, fun p fields hp hl x => hl.handledBy ((hfind _).2 hp) x⟩
  rw [hfind, ← meant_dropLineFeed_iff]
  constructor
  · intro h
    generalize hmeant : Route.meant r.method r.path.toList = p at h
    cases h with
    | page h => exact ⟨h, rfl⟩
  · rintro ⟨h, hsame⟩
    rw [← hsame]
    exact .page h

/-- A request for the head of a health page. -/
def healthHead : Request := .ofTarget "HEAD" (Utf8.encode "/_ah/health".toList) []

theorem catchAll_iff_healthHead :
    healthHead.path.toList.head? = some '/' ∧ healthHead.method ∈ ["GET", "HEAD", "POST"] ∧
      LetThrough {} healthHead [] ∧ HandledBy .legacy {} healthHead answering [] := by
  have hs : healthHead.path.toList.head? = some '/' := by decide +kernel
  have hm : healthHead.method ∈ ["GET", "HEAD", "POST"] := by decide
  have hl : LetThrough {} healthHead [] := letThrough_exempt (by decide +kernel)
  have hmeant : Route.meant healthHead.method healthHead.path.toList = .legacy := by decide +kernel
  obtain ⟨hfound, hmeets, hhandled⟩ := catchAll_iff (s := {}) rfl hs hm
  have hlegacy := hfound.2 ⟨by decide +kernel, fun h => absurd h.1 (by decide)⟩
  rw [hmeant] at hlegacy
  exact ⟨hs, hm, hl, hhandled _ _ ((hmeets _).1 hlegacy) hl answering⟩

/-- A request for a path with a line feed inside. -/
def lineFeedInside : Request := .ofTarget "GET" (Utf8.encode "/a%0Ab".toList) []

/-- It is let through, but no page takes it. -/
theorem lineFeedInside_notFound :
    lineFeedInside.path.toList.head? = some '/' ∧ LetThrough {} lineFeedInside [] ∧
      (layered {} lineFeedInside answering).messages = (detailResponse 404 [] "Not Found").messages ∧
      (layered {} lineFeedInside answering).forwarded = [] := by
  have hs : lineFeedInside.path.toList.head? = some '/' := by decide +kernel
  have hdestination : (Decision.resolve {} lineFeedInside.plain).destination = none := by
    decide +kernel
  have hupdate : (Decision.resolve {} lineFeedInside.plain).cookie = .keep := by decide +kernel
  have hcookie : SetCookie.ofUpdate {} (Decision.resolve {} lineFeedInside.plain).cookie = .ok [] := by
    rw [hupdate]
    rfl
  have hl : LetThrough {} lineFeedInside [] := letThrough_decided (by decide +kernel)
    (Snapshot.ofRequest_of_slash hs) hcookie hdestination
  have hfind : Match.find false lineFeedInside.path.toList lineFeedInside.method = .nothing := by
    have hlast : lineFeedInside.path.toList.getLast? = some 'b' := by decide +kernel
    refine find_of_meets hs (by decide) (.nothing (by decide +kernel) fun stem n _ hpath => ?_)
    rw [hpath] at hlast
    simp [List.replicate_succ', List.getLast?_cons] at hlast
  have hroute : route false lineFeedInside answering.body answering.legacy =
      (detailResponse 404 [] "Not Found").run := by
    simp only [route, hfind]
  obtain ⟨hm, hf⟩ := hl (surrounded {} lineFeedInside answering)
  rw [messages_surrounded, hroute] at hm
  rw [forwarded_surrounded, hroute] at hf
  rw [withFields_nil, List.map_id] at hm
  exact ⟨hs, hl, hm, hf⟩

end Runs

end Gateway

end Changeover
