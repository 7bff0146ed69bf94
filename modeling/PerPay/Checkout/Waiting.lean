/-
  **The request that the page waits for.**

  `abort` and a new request both move the generation on, and `active` names the request of the current generation until it
  settles (`Tracked`).  So a request that has not been aborted is the active one; a request of an earlier generation can
  only leave the list (`Tracked.finish_superseded`).

  Around it stands what the handlers keep of the page (`Sound`): it is alive while it listens and is not NOT_FOUND, it
  waits and is busy only while it is visible, and a deadline of a manual check is counted while it is busy.  Most of
  what the controller does leaves all of this alone (`Quiet`).
-/
import Mathlib.Tactic.Linarith
import PerPay.Checkout.Controller

namespace PerPay.Checkout

namespace CheckoutController

/-! ## Generations -/

structure Tracked (c : CheckoutController) : Prop where
  fresh : ∀ r ∈ c.requests, r.id ≤ c.generation
  nodup : (c.requests.map (·.id)).Nodup
  waited : ∀ r ∈ c.requests, r.id = c.generation → c.active = some r.id
  active : ∀ id, c.active = some id → id = c.generation ∧ ∃ r ∈ c.requests, r.id = id
  unaborted : ∀ r ∈ c.requests, r.aborted = false → r.id = c.generation
  timed : ∀ r ∈ c.requests, r.id = c.generation → r.aborted = true → r.timedOut = true
  late : ∀ r ∈ c.requests, r.timedOut = true → r.aborted = true

variable {c c' : CheckoutController} {initial : CheckoutInitial} {clock : Clock} {sent : Request}

theorem Tracked.congr (h : Tracked c) (hgeneration : c'.generation = c.generation) (hactive : c'.active = c.active)
    (hrequests : c'.requests = c.requests) : Tracked c' := by
  obtain ⟨hfresh, hnodup, hwaited, hact, hunaborted, htimed, hlate⟩ := h
  constructor
  all_goals rw [hrequests]
  · rw [hgeneration]
    exact hfresh
  · exact hnodup
  · rw [hgeneration, hactive]
    exact hwaited
  · rw [hgeneration, hactive]
    exact hact
  · rw [hgeneration]
    exact hunaborted
  · rw [hgeneration]
    exact htimed
  · exact hlate

theorem map_id {f : Request → Request} (hid : ∀ r, (f r).id = r.id) (requests : List Request) :
    (requests.map f).map (·.id) = requests.map (·.id) := by
  rw [List.map_map]
  exact List.map_congr_left fun r _ => hid r

/-- A change to the requests that leaves the numbers, and touches the flags as told. -/
theorem Tracked.map (h : Tracked c) {f : Request → Request} (hid : ∀ r, (f r).id = r.id)
    (haborted : ∀ r ∈ c.requests, (f r).aborted = false → r.aborted = false)
    (htimed : ∀ r ∈ c.requests, (f r).aborted = true → r.aborted = true ∧ (f r).timedOut = r.timedOut ∨ (f r).timedOut = true)
    (hlate : ∀ r ∈ c.requests, (f r).timedOut = true → r.timedOut = true ∧ (f r).aborted = r.aborted ∨ (f r).aborted = true) :
    Tracked { c with requests := c.requests.map f } := by
  constructor
  · intro _ hmem
    obtain ⟨r, hr, rfl⟩ := List.mem_map.mp hmem
    rw [hid]
    exact h.fresh r hr
  · show ((c.requests.map f).map (·.id)).Nodup
    rw [map_id hid]
    exact h.nodup
  · intro _ hmem heq
    obtain ⟨r, hr, rfl⟩ := List.mem_map.mp hmem
    rw [hid] at heq ⊢
    exact h.waited r hr heq
  · intro id hactive
    obtain ⟨hgeneration, r, hr, hr'⟩ := h.active id hactive
    exact ⟨hgeneration, f r, List.mem_map_of_mem hr, (hid r).trans hr'⟩
  · intro _ hmem hnot
    obtain ⟨r, hr, rfl⟩ := List.mem_map.mp hmem
    rw [hid]
    exact h.unaborted r hr (haborted r hr hnot)
  · intro _ hmem heq habort
    obtain ⟨r, hr, rfl⟩ := List.mem_map.mp hmem
    rw [hid] at heq
    rcases htimed r hr habort with ⟨hold, hsame⟩ | hnew
    · rw [hsame]
      exact h.timed r hr heq hold
    · exact hnew
  · intro _ hmem hout
    obtain ⟨r, hr, rfl⟩ := List.mem_map.mp hmem
    rcases hlate r hr hout with ⟨hold, hsame⟩ | hnew
    · rw [hsame]
      exact h.late r hr hold
    · exact hnew

/-- `abort`, as far as the requests go. -/
theorem Tracked.abort (h : Tracked c) : Tracked c.abort := by
  have habandoned : ∀ r' ∈ abandon c.requests c.active, ∃ r ∈ c.requests, r'.id = r.id ∧ r'.aborted = true := by
    intro r' hmem
    obtain ⟨r, hr, rfl⟩ := List.mem_map.mp hmem
    refine ⟨r, hr, ?_⟩
    split
    · exact ⟨rfl, rfl⟩
    · next hother =>
      refine ⟨rfl, ?_⟩
      by_contra hnot
      exact hother (h.waited r hr (h.unaborted r hr (Bool.eq_false_iff.mpr hnot))).symm
  have hbefore : ∀ r' ∈ abandon c.requests c.active, r'.id ≠ c.generation + 1 := by
    intro r' hmem
    obtain ⟨r, hr, hid, -⟩ := habandoned r' hmem
    have hle := h.fresh r hr
    omega
  constructor
  · intro r' hmem
    obtain ⟨r, hr, hid, -⟩ := habandoned r' hmem
    show r'.id ≤ c.generation + 1
    have hle := h.fresh r hr
    omega
  · show ((abandon c.requests c.active).map (·.id)).Nodup
    unfold abandon
    rw [map_id]
    · exact h.nodup
    · intro r
      split <;> rfl
  · exact fun r' hmem heq => absurd heq (hbefore r' hmem)
  · exact fun id hid => nomatch hid
  · intro r' hmem hnot
    obtain ⟨-, -, -, habort⟩ := habandoned r' hmem
    exact absurd (hnot.symm.trans habort) Bool.false_ne_true
  · exact fun r' hmem heq => absurd heq (hbefore r' hmem)
  · intro r' hmem _
    obtain ⟨-, -, -, habort⟩ := habandoned r' hmem
    exact habort

/-- A new request, when none is active. -/
theorem Tracked.send (h : Tracked c) (hnone : c.active = none) (manual : Bool) : Tracked (c.send initial clock manual) := by
  have hold : ∀ r ∈ c.requests, r.id ≠ c.generation := by
    intro r hr heq
    exact nomatch hnone.symm.trans (h.waited r hr heq)
  constructor
  · intro r hmem
    rcases List.mem_cons.mp hmem with rfl | hr
    · exact Nat.le_refl _
    · exact Nat.le_succ_of_le (h.fresh r hr)
  · show (_ :: c.requests.map (·.id)).Nodup
    refine List.nodup_cons.mpr ⟨fun hmem => ?_, h.nodup⟩
    obtain ⟨r, hr, hid⟩ := List.mem_map.mp hmem
    have hle := h.fresh r hr
    have hid' : r.id = c.generation + 1 := hid
    omega
  · intro r hmem heq
    rcases List.mem_cons.mp hmem with rfl | hr
    · rfl
    · have hle := h.fresh r hr
      have heq' : r.id = c.generation + 1 := heq
      omega
  · intro id hid
    obtain rfl := Option.some.inj hid
    exact ⟨rfl, _, List.mem_cons_self, rfl⟩
  · intro r hmem hnot
    rcases List.mem_cons.mp hmem with rfl | hr
    · rfl
    · exact absurd (h.unaborted r hr hnot) (hold r hr)
  · intro r hmem heq habort
    rcases List.mem_cons.mp hmem with rfl | hr
    · exact nomatch habort
    · have hle := h.fresh r hr
      have heq' : r.id = c.generation + 1 := heq
      omega
  · intro r hmem hout
    rcases List.mem_cons.mp hmem with rfl | hr
    · exact nomatch hout
    · exact h.late r hr hout

theorem finish_requests : (c.finish sent).requests = c.requests.filter (·.id ≠ sent.id) := by
  unfold finish
  split
  · split <;> rfl
  · rfl

theorem finish_generation : (c.finish sent).generation = c.generation := by
  unfold finish
  split
  · split <;> rfl
  · rfl

theorem finish_active : (c.finish sent).active = if c.active = some sent.id then none else c.active := by
  unfold finish
  split
  · split <;> rfl
  · rfl

theorem Tracked.finish (h : Tracked c) : Tracked (c.finish sent) := by
  have hmem : ∀ r ∈ (c.finish sent).requests, r ∈ c.requests ∧ r.id ≠ sent.id := by
    intro r hr
    rw [finish_requests] at hr
    obtain ⟨hr, hne⟩ := List.mem_filter.mp hr
    exact ⟨hr, of_decide_eq_true hne⟩
  constructor
  all_goals try rw [finish_generation]
  · exact fun r hr => h.fresh r (hmem r hr).1
  · rw [finish_requests]
    exact h.nodup.sublist (List.filter_sublist.map _)
  · intro r hr heq
    have hactive := h.waited r (hmem r hr).1 heq
    rw [finish_active, if_neg, hactive]
    rw [hactive]
    exact fun heq => (hmem r hr).2 (Option.some.inj heq)
  · intro id hid
    rw [finish_active] at hid
    split at hid
    · exact nomatch hid
    · next hother =>
      obtain ⟨hgeneration, r, hr, rfl⟩ := h.active id hid
      refine ⟨hgeneration, r, ?_, rfl⟩
      rw [finish_requests]
      refine List.mem_filter.mpr ⟨hr, decide_eq_true ?_⟩
      exact fun heq => hother (hid.trans (congrArg some heq))
  · exact fun r hr => h.unaborted r (hmem r hr).1
  · exact fun r hr => h.timed r (hmem r hr).1
  · exact fun r hr => h.late r (hmem r hr).1

/-- A request of an earlier generation only leaves the list. -/
theorem Tracked.finish_superseded (h : Tracked c) (hother : sent.id ≠ c.generation) :
    c.finish sent = { c with requests := c.requests.filter (·.id ≠ sent.id) } := by
  unfold CheckoutController.finish
  rw [if_neg]
  exact fun hactive => hother (h.active _ hactive).1

/-- Two requests that have not been aborted are one. -/
theorem Tracked.unaborted_unique (h : Tracked c) {r q : Request} (hr : r ∈ c.requests) (hq : q ∈ c.requests)
    (hr' : r.aborted = false) (hq' : q.aborted = false) : r = q :=
  List.inj_on_of_nodup_map h.nodup hr hq ((h.unaborted r hr hr').trans (h.unaborted q hq hq').symm)

/-! ## Steps that change nothing of this -/

structure Quiet (c c' : CheckoutController) : Prop where
  alive : c'.alive = c.alive
  listening : c'.listening = c.listening
  generation : c'.generation = c.generation
  active : c'.active = c.active
  requests : c'.requests = c.requests
  ticking : c'.ticking = c.ticking
  hidden : c'.hidden = c.hidden
  onLine : c'.onLine = c.onLine
  pending : c'.pending = c.pending
  busy : c'.state.busy = true → c.state.busy = true ∧ c'.manualDeadline = c.manualDeadline
  visual : c.state.visual ≠ .NOT_FOUND → c'.state.visual ≠ .NOT_FOUND

theorem Quiet.refl (c : CheckoutController) : Quiet c c :=
  ⟨rfl, rfl, rfl, rfl, rfl, rfl, rfl, rfl, rfl, fun h => ⟨h, rfl⟩, id⟩

theorem Quiet.trans {d : CheckoutController} (h : Quiet c c') (h' : Quiet c' d) : Quiet c d where
  alive := h'.alive.trans h.alive
  listening := h'.listening.trans h.listening
  generation := h'.generation.trans h.generation
  active := h'.active.trans h.active
  requests := h'.requests.trans h.requests
  ticking := h'.ticking.trans h.ticking
  hidden := h'.hidden.trans h.hidden
  onLine := h'.onLine.trans h.onLine
  pending := h'.pending.trans h.pending
  busy hbusy :=
    have hmiddle := h'.busy hbusy
    have hfirst := h.busy hmiddle.1
    ⟨hfirst.1, hmiddle.2.trans hfirst.2⟩
  visual hvisual := h'.visual (h.visual hvisual)

theorem quiet_schedule (delay : Option Rat) : Quiet c (c.schedule clock delay) := by
  unfold schedule
  split
  · split
    · exact ⟨rfl, rfl, rfl, rfl, rfl, rfl, rfl, rfl, rfl, fun h => ⟨h, rfl⟩, id⟩
    · exact ⟨rfl, rfl, rfl, rfl, rfl, rfl, rfl, rfl, rfl, fun h => ⟨h, rfl⟩, id⟩
  · exact ⟨rfl, rfl, rfl, rfl, rfl, rfl, rfl, rfl, rfl, fun h => ⟨h, rfl⟩, id⟩

theorem quiet_updateClock : Quiet c (c.updateClock clock) := by
  have hpass : Quiet c (c.passDeadline clock) := by
    unfold passDeadline
    split
    · exact ⟨rfl, rfl, rfl, rfl, rfl, rfl, rfl, rfl, rfl, nofun, id⟩
    · exact .refl c
  exact hpass.trans ⟨rfl, rfl, rfl, rfl, rfl, rfl, rfl, rfl, rfl, fun h => ⟨h, rfl⟩, id⟩

theorem quiet_endCheck (feedback : String) : Quiet c (c.endCheck feedback) := by
  unfold endCheck
  split
  · exact ⟨rfl, rfl, rfl, rfl, rfl, rfl, rfl, rfl, rfl, nofun, id⟩
  · exact .refl c

theorem quiet_fail (request : Request) : Quiet c (c.fail clock request) := by
  have hfailures : Quiet c { c with failures := c.failures + 1 } :=
    ⟨rfl, rfl, rfl, rfl, rfl, rfl, rfl, rfl, rfl, fun h => ⟨h, rfl⟩, id⟩
  have hsay (d : CheckoutController) (message : String) : Quiet d (d.say message) :=
    ⟨rfl, rfl, rfl, rfl, rfl, rfl, rfl, rfl, rfl, fun h => ⟨h, rfl⟩, id⟩
  unfold fail
  split
  · exact .refl c
  · exact ((hfailures.trans (quiet_endCheck _)).trans (hsay _ _)).trans (quiet_schedule _)

theorem quiet_rateLimited (response : Response) : Quiet c (c.rateLimited clock response) := by
  unfold rateLimited
  refine Quiet.trans ?_ (quiet_schedule _)
  refine ⟨rfl, rfl, rfl, rfl, rfl, rfl, rfl, rfl, rfl, fun h => ⟨h, rfl⟩, ?_⟩
  intro hvisual
  dsimp only
  split
  · decide
  · exact hvisual

theorem quiet_backOff (response : Response) (delay : Rat) : Quiet c (c.backOff clock response delay) := by
  unfold backOff
  refine Quiet.trans ?_ (quiet_schedule _)
  refine ⟨rfl, rfl, rfl, rfl, rfl, rfl, rfl, rfl, rfl, fun h => ⟨h, rfl⟩, ?_⟩
  intro hvisual
  dsimp only
  split
  · decide
  · exact hvisual

theorem checkoutState_ne (order : CheckoutViewOrder) : checkoutState order ≠ .NOT_FOUND := by
  unfold checkoutState
  split
  · decide
  · decide
  · split <;> decide

theorem quiet_receive (start : Rat) (date : Option Rat) (order : CheckoutViewOrder) :
    Quiet c (c.receive initial clock start date order) := by
  have hsynchronize : Quiet c (c.synchronize clock start date) := by
    unfold synchronize
    split
    · exact ⟨rfl, rfl, rfl, rfl, rfl, rfl, rfl, rfl, rfl, fun h => ⟨h, rfl⟩, id⟩
    · exact .refl c
  have hshow (d : CheckoutController) : Quiet d (d.showOrder initial order) :=
    ⟨rfl, rfl, rfl, rfl, rfl, rfl, rfl, rfl, rfl, fun h => ⟨h, rfl⟩, fun _ => checkoutState_ne order⟩
  have htrack (d : CheckoutController) : Quiet d (d.track order) := by
    unfold track
    split
    · exact quiet_endCheck _
    · split
      · split
        · exact ⟨rfl, rfl, rfl, rfl, rfl, rfl, rfl, rfl, rfl, fun h => ⟨h, rfl⟩, id⟩
        · exact .refl d
      · exact quiet_endCheck _
  exact ((hsynchronize.trans (hshow _)).trans (htrack _)).trans quiet_updateClock

/-! ## The page -/

/-- What holds while the page looks at its visibility anew. -/
structure Awake (initial : CheckoutInitial) (c : CheckoutController) : Prop where
  tracked : Tracked c
  alive : c.alive = true → c.listening = true ∧ c.state.visual ≠ .NOT_FOUND
  listening : c.listening = true → initial.apiUrl ≠ ""
  active : c.active.isSome = true → c.alive = true
  busy : c.state.busy = true → 0 < c.manualDeadline ∧ c.alive = true
  pending : ∀ online, c.pending.getLast? = some online → online = c.onLine

structure Sound (initial : CheckoutInitial) (c : CheckoutController) : Prop extends Awake initial c where
  active_visible : c.active.isSome = true → c.hidden = false
  busy_visible : c.state.busy = true → c.hidden = false
  ticking : c.alive = true → c.hidden = false → c.ticking = true

theorem sound_create (hidden onLine : Bool) : Sound initial (createCheckoutController initial hidden onLine) where
  tracked := ⟨nofun, List.nodup_nil, nofun, nofun, nofun, nofun, nofun⟩
  alive := nofun
  listening := nofun
  active := nofun
  busy := nofun
  pending := nofun
  active_visible := nofun
  busy_visible := nofun
  ticking := nofun

theorem Awake.quiet (h : Awake initial c) (hquiet : Quiet c c') : Awake initial c' where
  tracked := h.tracked.congr hquiet.generation hquiet.active hquiet.requests
  alive halive := by
    rw [hquiet.alive] at halive
    obtain ⟨hlistening, hvisual⟩ := h.alive halive
    exact ⟨hquiet.listening.trans hlistening, hquiet.visual hvisual⟩
  listening hlistening := h.listening (hquiet.listening.symm.trans hlistening)
  active hactive := by
    rw [hquiet.active] at hactive
    rw [hquiet.alive]
    exact h.active hactive
  busy hbusy := by
    obtain ⟨hbusy, hdeadline⟩ := hquiet.busy hbusy
    rw [hquiet.alive, hdeadline]
    exact h.busy hbusy
  pending := by
    rw [hquiet.pending, hquiet.onLine]
    exact h.pending

theorem Sound.quiet (h : Sound initial c) (hquiet : Quiet c c') : Sound initial c' where
  toAwake := h.toAwake.quiet hquiet
  active_visible hactive := by
    rw [hquiet.active] at hactive
    rw [hquiet.hidden]
    exact h.active_visible hactive
  busy_visible hbusy := by
    rw [hquiet.hidden]
    exact h.busy_visible (hquiet.busy hbusy).1
  ticking := by
    rw [hquiet.alive, hquiet.hidden, hquiet.ticking]
    exact h.ticking

theorem Awake.abort (h : Awake initial c) : Awake initial c.abort :=
  ⟨h.tracked.abort, h.alive, h.listening, nofun, nofun, h.pending⟩

theorem Sound.abort (h : Sound initial c) : Sound initial c.abort :=
  ⟨h.toAwake.abort, nofun, nofun, h.ticking⟩

theorem Sound.send (h : Sound initial c) (hnone : c.active = none) (halive : c.alive = true) (hhidden : c.hidden = false)
    (manual : Bool) : Sound initial (c.send initial clock manual) where
  tracked := h.tracked.send hnone manual
  alive := by
    intro _
    obtain ⟨hlistening, hvisual⟩ := h.alive halive
    refine ⟨hlistening, ?_⟩
    show CheckoutSnapshot.visual (if manual then _ else _) ≠ _
    split <;> exact hvisual
  listening := h.listening
  active _ := halive
  busy := by
    intro hbusy
    refine ⟨?_, halive⟩
    show 0 < if manual then clock.mono + 30000 else c.manualDeadline
    split
    · have hmono := clock.mono_nonneg
      linarith
    · next hmanual =>
      have hbusy' : CheckoutSnapshot.busy (if manual then _ else c.state) = true := hbusy
      rw [if_neg hmanual] at hbusy'
      exact (h.busy hbusy').1
  pending := h.pending
  active_visible _ := hhidden
  busy_visible _ := hhidden
  ticking := h.ticking

theorem Sound.finish (h : Sound initial c) : Sound initial (c.finish sent) := by
  have htracked : Tracked (c.finish sent) := h.tracked.finish
  unfold CheckoutController.finish at htracked ⊢
  split
  · rw [if_pos ‹_›] at htracked
    split
    · rw [if_pos ‹_›] at htracked
      exact ⟨⟨htracked, h.alive, h.listening, nofun, nofun, h.pending⟩, nofun, nofun, h.ticking⟩
    · rw [if_neg ‹_›] at htracked
      exact ⟨⟨htracked, h.alive, h.listening, nofun, h.busy, h.pending⟩, nofun, h.busy_visible, h.ticking⟩
  · rw [if_neg ‹_›] at htracked
    exact ⟨⟨htracked, h.alive, h.listening, h.active, h.busy, h.pending⟩, h.active_visible, h.busy_visible, h.ticking⟩

/-- A change to the requests alone. -/
theorem Sound.requests (h : Sound initial c) {requests : List Request} (htracked : Tracked { c with requests }) :
    Sound initial { c with requests } :=
  ⟨⟨htracked, h.alive, h.listening, h.active, h.busy, h.pending⟩, h.active_visible, h.busy_visible, h.ticking⟩

theorem Sound.replaceRead (h : Sound initial c) (manual : Bool) : Sound initial (c.replaceRead manual) := by
  unfold CheckoutController.replaceRead
  split
  · exact h.abort
  · exact h

theorem Sound.request (h : Sound initial c) (manual : Bool) : Sound initial (c.request initial clock manual) := by
  unfold CheckoutController.request
  split
  · exact h
  · next hgo =>
    simp only [Bool.or_eq_true, Bool.not_eq_true', decide_eq_true_eq, not_or, Bool.not_eq_false, Bool.not_eq_true,
      Option.isSome_eq_false_iff, Option.isNone_iff_eq_none] at hgo
    obtain ⟨⟨⟨⟨⟨halive, hnone⟩, hhidden⟩, -⟩, -⟩, -⟩ := hgo
    split
    · exact h.quiet (quiet_schedule _)
    · split
      · exact h
      · exact h.send hnone halive hhidden manual

theorem Sound.refresh (h : Sound initial c) (manual : Bool) : Sound initial (c.refresh initial clock manual) :=
  (h.replaceRead manual).request manual

theorem Sound.refreshShown (h : Sound initial c) : Sound initial (c.refreshShown initial clock) := by
  unfold CheckoutController.refreshShown
  split
  · exact h.refresh false
  · exact h

/-! ## Handlers -/

/-- A page that is not alive waits for nothing, and is not busy. -/
theorem Awake.hide (h : Awake initial c) : Sound initial c.hide :=
  ⟨⟨h.tracked.abort.congr rfl rfl rfl, nofun, h.listening, nofun, nofun, h.pending⟩, nofun, nofun, nofun⟩

theorem Sound.cleanup (h : Sound initial c) : Sound initial c.cleanup :=
  ⟨⟨h.tracked.abort.congr rfl rfl rfl, nofun, nofun, nofun, nofun, h.pending⟩, nofun, nofun, nofun⟩

theorem Awake.notFound (h : Awake initial c) : Sound initial c.notFound :=
  ⟨⟨h.tracked.abort.congr rfl rfl rfl, nofun, nofun, nofun, nofun, h.pending⟩, nofun, nofun, nofun⟩

theorem Sound.refuse (h : Sound initial c) (response : Response) : Sound initial (c.refuse clock response) := by
  unfold CheckoutController.refuse
  split
  · exact (h.quiet (quiet_endCheck _)).notFound
  · split
    · exact h.quiet ((quiet_endCheck _).trans (quiet_rateLimited _))
    · exact h.quiet ((quiet_endCheck _).trans (quiet_backOff _ _))

theorem Awake.sound_of_not_alive (h : Awake initial c) (hdead : c.alive = false) : Sound initial c where
  toAwake := h
  active_visible hactive := absurd (hdead.symm.trans (h.active hactive)) Bool.false_ne_true
  busy_visible hbusy := absurd (hdead.symm.trans (h.busy hbusy).2) Bool.false_ne_true
  ticking halive := absurd (hdead.symm.trans halive) Bool.false_ne_true

/-- A page that has become visible, before it asks. -/
theorem Awake.shown (h : Awake initial c) (hhidden : c.hidden = false) :
    Sound initial { c.updateClock clock with ticking := true } := by
  have hupdated : Awake initial (c.updateClock clock) := h.quiet quiet_updateClock
  have hshown : (c.updateClock clock).hidden = false := quiet_updateClock.hidden.trans hhidden
  refine ⟨⟨hupdated.tracked.congr rfl rfl rfl, ?_, ?_, ?_, ?_, ?_⟩, fun _ => hshown, fun _ => hshown, fun _ _ => rfl⟩
  · exact hupdated.alive
  · exact hupdated.listening
  · exact hupdated.active
  · exact hupdated.busy
  · exact hupdated.pending

theorem Awake.visibility (h : Awake initial c) : Sound initial (c.visibility initial clock) := by
  unfold CheckoutController.visibility
  split
  · next hdead => exact h.sound_of_not_alive (by simpa using hdead)
  · split
    · next hhidden =>
      have hnot : c.hidden = false → False := fun hshown => Bool.false_ne_true (hshown.symm.trans hhidden)
      exact ⟨⟨h.tracked.abort.congr rfl rfl rfl, h.alive, h.listening, nofun, nofun, h.pending⟩, nofun, nofun,
        fun _ hshown => (hnot hshown).elim⟩
    · next hshown => exact (h.shown (Bool.eq_false_iff.mpr hshown)).refreshShown

theorem Sound.online (h : Sound initial c) : Sound initial (c.online initial clock) := by
  unfold CheckoutController.online
  split
  · exact h
  · refine Sound.refreshShown (h.quiet ?_)
    exact ⟨rfl, rfl, rfl, rfl, rfl, rfl, rfl, rfl, rfl, fun hbusy => ⟨hbusy, rfl⟩, id⟩

theorem Sound.offline (h : Sound initial c) : Sound initial c.offline := by
  unfold CheckoutController.offline
  split
  · exact h
  · refine h.abort.quiet ?_
    exact ⟨rfl, rfl, rfl, rfl, rfl, rfl, rfl, rfl, rfl, fun hbusy => ⟨hbusy, rfl⟩, id⟩

theorem quiet_publish : Quiet c c.publish :=
  ⟨rfl, rfl, rfl, rfl, rfl, rfl, rfl, rfl, rfl, fun hbusy => ⟨hbusy, rfl⟩, id⟩

theorem quiet_resume : Quiet c (c.resume clock) :=
  ⟨rfl, rfl, rfl, rfl, rfl, rfl, rfl, rfl, rfl, fun hbusy => ⟨hbusy, rfl⟩, id⟩

/-- The page comes back from the cache, before it looks at its visibility. -/
theorem Sound.awake (h : Sound initial c) (hlistening : c.listening = true) (hvisual : c.state.visual ≠ .NOT_FOUND) :
    Awake initial ((({ c with alive := true }).updateClock clock).resume clock) := by
  have hawake : Awake initial { c with alive := true } :=
    ⟨h.tracked.congr rfl rfl rfl, fun _ => ⟨hlistening, hvisual⟩, h.listening, fun _ => rfl,
      fun hbusy => ⟨(h.busy hbusy).1, rfl⟩, h.pending⟩
  exact hawake.quiet (quiet_updateClock.trans quiet_resume)

theorem Sound.show (h : Sound initial c) (hlistening : c.listening = true) (persisted : Bool) :
    Sound initial (c.show initial clock persisted) := by
  unfold CheckoutController.show
  split
  · next hshown =>
    have hvisual : c.state.visual ≠ .NOT_FOUND := by simpa using (Bool.and_eq_true_iff.mp hshown).2
    exact (h.awake hlistening hvisual).visibility.quiet quiet_publish
  · exact h

theorem Sound.start (h : Sound initial c) (responseStart : Rat) : Sound initial (c.start initial clock responseStart) := by
  unfold CheckoutController.start
  split
  · exact h
  · next hgo =>
    simp only [Bool.or_eq_true, decide_eq_true_eq, not_or] at hgo
    obtain ⟨hvisual, hurl⟩ := hgo
    have hquiet : Quiet (c.prepare initial clock responseStart) ((c.prepare initial clock responseStart).updateClock clock) :=
      quiet_updateClock
    refine Sound.quiet (Sound.quiet (c := { (c.prepare initial clock responseStart).updateClock clock with
      ticking := true, listening := true }) ?_ (quiet_schedule _)) quiet_publish
    refine ⟨⟨h.tracked.congr hquiet.generation hquiet.active hquiet.requests, fun _ => ⟨rfl, hquiet.visual hvisual⟩, fun _ => hurl,
      fun _ => hquiet.alive, ?_, ?_⟩, ?_, ?_, fun _ _ => rfl⟩
    · intro hbusy
      obtain ⟨hbusy, hdeadline⟩ := hquiet.busy hbusy
      refine ⟨?_, hquiet.alive⟩
      show 0 < CheckoutController.manualDeadline (updateClock clock _)
      rw [hdeadline]
      exact (h.busy hbusy).1
    · intro online hlast
      have hlast' : c.pending.getLast? = some online := (congrArg List.getLast? hquiet.pending).symm.trans hlast
      exact (h.pending online hlast').trans hquiet.onLine.symm
    · intro hactive
      have hactive' : c.active.isSome = true := (congrArg Option.isSome hquiet.active).symm.trans hactive
      exact hquiet.hidden.trans (h.active_visible hactive')
    · intro hbusy
      exact hquiet.hidden.trans (h.busy_visible (hquiet.busy hbusy).1)

/-! ## What arrives -/

theorem fetching_mem {id : Nat} (h : c.fetching id = some sent) : sent ∈ c.requests ∧ sent.id = id := by
  have hmem := List.mem_of_find?_eq_some h
  have hfound := List.find?_some h
  simp only [Bool.and_eq_true, decide_eq_true_eq] at hfound
  exact ⟨hmem, hfound.1⟩

theorem reading_mem {id : Nat} {date : Option Rat} (h : c.reading id = some (sent, date)) :
    sent ∈ c.requests ∧ sent.id = id := by
  obtain ⟨found, hmem, hfound⟩ := List.exists_of_findSome?_eq_some h
  split at hfound
  · split at hfound
    · next hid =>
      obtain ⟨rfl, -⟩ := Prod.mk.inj (Option.some.inj hfound)
      exact ⟨hmem, hid⟩
    · exact nomatch hfound
  · exact nomatch hfound

theorem Sound.timeout (h : Sound initial c) (id : Nat) : Sound initial (c.timeout id) := by
  refine h.requests (h.tracked.map ?_ ?_ ?_ ?_)
  · intro r
    split <;> rfl
  · intro r _ hnot
    split at hnot
    · exact nomatch hnot
    · exact hnot
  · intro r _ habort
    by_cases hid : r.id = id
    · rw [if_pos hid]
      exact .inr rfl
    · rw [if_neg hid] at habort ⊢
      exact .inl ⟨habort, rfl⟩
  · intro r _ hout
    by_cases hid : r.id = id
    · rw [if_pos hid]
      exact .inr rfl
    · rw [if_neg hid] at hout ⊢
      exact .inl ⟨hout, rfl⟩

/-- The response of a request has come, its body has not. -/
theorem Sound.reads (h : Sound initial c) (id : Nat) (stage : RequestStage) :
    Sound initial { c with requests := c.requests.map fun r => if r.id = id then { r with stage } else r } := by
  refine h.requests (h.tracked.map ?_ ?_ ?_ ?_)
  · intro r
    split <;> rfl
  · intro r _ hnot
    split at hnot <;> exact hnot
  · intro r _ habort
    by_cases hid : r.id = id
    · rw [if_pos hid] at habort ⊢
      exact .inl ⟨habort, rfl⟩
    · rw [if_neg hid] at habort ⊢
      exact .inl ⟨habort, rfl⟩
  · intro r _ hout
    by_cases hid : r.id = id
    · rw [if_pos hid] at hout ⊢
      exact .inl ⟨hout, rfl⟩
    · rw [if_neg hid] at hout ⊢
      exact .inl ⟨hout, rfl⟩

theorem Sound.fetched (h : Sound initial c) (settled : Fetched) : Sound initial (c.fetched clock sent settled) := by
  cases settled with
  | rejected => exact (h.quiet (quiet_fail sent)).finish
  | resolved response =>
    show Sound initial (if !c.current sent then _ else if !response.ok then _ else _)
    split
    · exact h.finish
    · split
      · exact (h.refuse response).finish
      · exact h.reads sent.id _

theorem Sound.read (h : Sound initial c) (date : Option Rat) (settled : Body) :
    Sound initial (c.read initial clock sent date settled) := by
  cases settled with
  | rejected => exact (h.quiet (quiet_fail sent)).finish
  | resolved payload =>
    show Sound initial (if !c.current sent then _ else _)
    split
    · exact h.finish
    · cases payload with
      | some order => exact (h.quiet ((quiet_receive _ _ _).trans (quiet_schedule _))).finish
      | none => exact (h.quiet (quiet_fail sent)).finish

/-- The oldest event that waits is delivered. -/
theorem Sound.popped (h : Sound initial c) {online : Bool} {pending : List Bool} (hpending : c.pending = online :: pending) :
    Sound initial { c with pending } := by
  refine ⟨⟨h.tracked.congr rfl rfl rfl, h.alive, h.listening, h.active, h.busy, ?_⟩, h.active_visible, h.busy_visible,
    h.ticking⟩
  intro last hlast
  refine h.pending last ?_
  rw [hpending, List.getLast?_cons, show pending.getLast? = some last from hlast]
  rfl

theorem Sound.step (h : Sound initial c) (task : Clock × Task) : Sound initial (c.step initial task) := by
  obtain ⟨clock, task⟩ := task
  cases task with
  | start responseStart => exact h.start responseStart
  | cleanup => exact h.cleanup
  | visibility hidden =>
    have hawake : Awake initial { c with hidden } :=
      ⟨h.tracked.congr rfl rfl rfl, h.alive, h.listening, h.active, h.busy, h.pending⟩
    show Sound initial (if c.listening then _ else _)
    split
    · exact hawake.visibility
    · next hdeaf =>
      refine hawake.sound_of_not_alive (Bool.eq_false_iff.mpr fun halive => hdeaf (h.alive halive).1)
  | network onLine =>
    show Sound initial (if c.onLine = onLine then c else _)
    split
    · exact h
    · refine ⟨⟨h.tracked.congr rfl rfl rfl, h.alive, h.listening, h.active, h.busy, ?_⟩, h.active_visible, h.busy_visible,
        h.ticking⟩
      intro online hlast
      rw [List.getLast?_concat] at hlast
      exact (Option.some.inj hlast).symm
  | connectivity =>
    unfold CheckoutController.step
    dsimp only
    split
    · exact h
    · next pending hpending =>
      have hpopped := h.popped hpending
      unfold heard
      split
      · exact hpopped.online
      · exact hpopped
    · next pending hpending =>
      have hpopped := h.popped hpending
      unfold heard
      split
      · exact hpopped.offline
      · exact hpopped
  | pagehide =>
    show Sound initial (if c.listening then _ else _)
    split
    · exact h.hide
    · exact h
  | pageshow persisted =>
    show Sound initial (if c.listening then _ else _)
    split
    · exact h.show ‹_› persisted
    · exact h
  | timerFires =>
    have hstopped : Quiet c c.stopTimer :=
      ⟨rfl, rfl, rfl, rfl, rfl, rfl, rfl, rfl, rfl, fun hbusy => ⟨hbusy, rfl⟩, id⟩
    show Sound initial (if c.timer.isSome then _ else _)
    split
    · exact (h.quiet hstopped).refresh false
    · exact h
  | tick => exact h.quiet quiet_updateClock
  | refresh manual => exact h.refresh manual
  | timeout id => exact h.timeout id
  | fetched id settled =>
    unfold CheckoutController.step
    dsimp only
    split
    · exact h.fetched settled
    · exact h
  | read id settled =>
    unfold CheckoutController.step
    dsimp only
    split
    · exact h.read _ settled
    · exact h

end CheckoutController

theorem reachable_sound {c : CheckoutController} {initial : CheckoutInitial} (h : Runs.Reachable (system initial) c) :
    c.Sound initial := by
  refine h.invariant (I := CheckoutController.Sound initial) ?_ ?_
  · rintro _ ⟨hidden, onLine, rfl⟩
    exact CheckoutController.sound_create hidden onLine
  · rintro c task _ hsound rfl
    exact hsound.step task

end PerPay.Checkout
