/-
  **The checkout page keeps polling**, unless an answer comes too late.

  A page that is alive, visible and online waits for a request or has its refresh timer armed (`KeepsPolling`): whatever
  ends a wait either arms the timer or takes the page out of one of the three.  One task does neither.  When the ten
  seconds of a request are over, the request is aborted and stays the active one until it settles; if it settles by
  resolving, `if (!current()) return;` leaves without a timer (`Overdue`).  A run polls to the end exactly when no
  task of it is of this kind (`checkout_polling`).

  Requests are sent when they are due (`step_sends`), answers of earlier generations are dropped (`superseded_step`),
  and nothing is sent once the order is not found (`Lost.step`).
-/
import PerPay.Checkout.Waiting

namespace PerPay.Checkout

namespace CheckoutController

variable {c c' : CheckoutController} {initial : CheckoutInitial} {clock : Clock} {sent : Request}

/-! ## Requests that are sent -/

/-- A request is there that was not. -/
def Sends (c c' : CheckoutController) : Prop := ∃ r ∈ c'.requests, ∀ q ∈ c.requests, q.id ≠ r.id

/-- The requests of the second are requests of the first. -/
def Within (c c' : CheckoutController) : Prop := ∀ r ∈ c'.requests, ∃ q ∈ c.requests, q.id = r.id

theorem Within.not_sends (h : Within c c') : ¬ Sends c c' := by
  rintro ⟨r, hr, hnew⟩
  obtain ⟨q, hq, hid⟩ := h r hr
  exact hnew q hq hid

theorem Within.of_eq (h : c'.requests = c.requests) : Within c c' := by
  intro r hr
  exact ⟨r, h ▸ hr, rfl⟩

theorem Within.of_map {f : Request → Request} (hid : ∀ r, (f r).id = r.id) (h : c'.requests = c.requests.map f) :
    Within c c' := by
  intro _ hmem
  rw [h] at hmem
  obtain ⟨r, hr, rfl⟩ := List.mem_map.mp hmem
  exact ⟨r, hr, (hid r).symm⟩

theorem Within.trans {d : CheckoutController} (h : Within c c') (h' : Within c' d) : Within c d := by
  intro r hr
  obtain ⟨q, hq, hid⟩ := h' r hr
  obtain ⟨p, hp, hid'⟩ := h q hq
  exact ⟨p, hp, hid'.trans hid⟩

theorem within_abort : Within c c.abort := by
  refine .of_map (f := fun r => if some r.id = c.active then { r with aborted := true } else r) (fun r => ?_) rfl
  split <;> rfl

theorem within_finish : Within c (c.finish sent) := by
  intro r hr
  rw [finish_requests] at hr
  exact ⟨r, (List.mem_filter.mp hr).1, rfl⟩

theorem within_notFound : Within c c.notFound :=
  within_abort.trans (.of_eq rfl)

theorem within_refuse (response : Response) : Within c (c.refuse clock response) := by
  unfold refuse
  split
  · exact Within.trans (.of_eq (quiet_endCheck _).requests) within_notFound
  · split
    · exact .of_eq ((quiet_endCheck _).trans (quiet_rateLimited _)).requests
    · exact .of_eq ((quiet_endCheck _).trans (quiet_backOff _ _)).requests

theorem within_fetched (settled : Fetched) : Within c (c.fetched clock sent settled) := by
  cases settled with
  | rejected => exact Within.trans (.of_eq (quiet_fail sent).requests) within_finish
  | resolved response =>
    show Within c (if !c.current sent then _ else if !response.ok then _ else _)
    split
    · exact within_finish
    · split
      · exact (within_refuse response).trans within_finish
      · refine .of_map (f := fun r => if r.id = sent.id then { r with stage := .reading response.date } else r) (fun r => ?_) rfl
        split <;> rfl

theorem within_read (date : Option Rat) (settled : Body) : Within c (c.read initial clock sent date settled) := by
  cases settled with
  | rejected => exact Within.trans (.of_eq (quiet_fail sent).requests) within_finish
  | resolved payload =>
    show Within c (if !c.current sent then _ else _)
    split
    · exact within_finish
    · cases payload with
      | some order => exact Within.trans (.of_eq ((quiet_receive _ _ _).trans (quiet_schedule _)).requests) within_finish
      | none => exact Within.trans (.of_eq (quiet_fail sent).requests) within_finish

/-! ## Requests that are due -/

/-- Nothing is sent, or what is sent is due and the order is there. -/
def Due (clock : Clock) (c c' : CheckoutController) : Prop :=
  Within c c' ∨ (c.state.retryAt ≤ clock.now ∧ c.state.visual ≠ .NOT_FOUND)

theorem Due.before {d : CheckoutController} (h : Due clock c' d) (hwithin : Within c c')
    (hretry : c'.state.retryAt = c.state.retryAt) (hvisual : c'.state.visual = c.state.visual) : Due clock c d := by
  rcases h with h | ⟨h, h'⟩
  · exact .inl (hwithin.trans h)
  · exact .inr ⟨hretry ▸ h, hvisual ▸ h'⟩

theorem due_request (manual : Bool) : Due clock c (c.request initial clock manual) := by
  unfold request
  split
  · exact .inl (.of_eq rfl)
  · next hgo =>
    split
    · exact .inl (.of_eq (quiet_schedule _).requests)
    · next hdue =>
      split
      · exact .inl (.of_eq rfl)
      · refine .inr ⟨not_lt.mp hdue, ?_⟩
        intro hvisual
        exact hgo (by simp [hvisual])

theorem due_refresh (manual : Bool) : Due clock c (c.refresh initial clock manual) := by
  unfold refresh replaceRead
  split
  · exact (due_request manual).before within_abort rfl rfl
  · exact due_request manual

theorem due_refreshShown : Due clock c (c.refreshShown initial clock) := by
  unfold refreshShown
  split
  · exact due_refresh false
  · exact .inl (.of_eq rfl)

theorem updateClock_retryAt : (c.updateClock clock).state.retryAt = c.state.retryAt := by
  show (c.passDeadline clock).state.retryAt = _
  unfold passDeadline
  split <;> rfl

theorem updateClock_visual : (c.updateClock clock).state.visual = c.state.visual := by
  show (c.passDeadline clock).state.visual = _
  unfold passDeadline
  split <;> rfl

theorem due_visibility : Due clock c (c.visibility initial clock) := by
  unfold visibility
  split
  · exact .inl (.of_eq rfl)
  · split
    · exact .inl (within_abort.trans (.of_eq rfl))
    · refine due_refreshShown.before (.of_eq ?_) ?_ ?_
      · exact quiet_updateClock.requests
      · exact updateClock_retryAt
      · exact updateClock_visual

theorem due_show (persisted : Bool) : Due clock c (c.show initial clock persisted) := by
  unfold CheckoutController.show
  split
  · refine due_visibility.before (.of_eq ?_) ?_ ?_
    · exact quiet_updateClock.requests
    · exact updateClock_retryAt (c := { c with alive := true })
    · exact updateClock_visual (c := { c with alive := true })
  · exact .inl (.of_eq rfl)

theorem due_online : Due clock c (c.online initial clock) := by
  unfold online
  split
  · exact .inl (.of_eq rfl)
  · exact due_refreshShown.before (.of_eq rfl) rfl rfl

theorem within_offline : Within c c.offline := by
  unfold offline
  split
  · exact .of_eq rfl
  · exact within_abort.trans (.of_eq rfl)

theorem within_hide : Within c c.hide :=
  within_abort.trans (.of_eq rfl)

theorem Due.heard {f : CheckoutController → CheckoutController} (h : Due clock c (f c)) : Due clock c (c.heard f) := by
  unfold CheckoutController.heard
  split
  · exact h
  · exact .inl (.of_eq rfl)

/-- **A task sends only what is due.** -/
theorem step_due (task : Clock × Task) : Due task.1 c (c.step initial task) := by
  obtain ⟨clock, task⟩ := task
  cases task with
  | start responseStart =>
    refine .inl (.of_eq ?_)
    show (c.start initial clock responseStart).requests = _
    unfold start
    split
    · rfl
    · exact (quiet_schedule _).requests.trans quiet_updateClock.requests
  | cleanup => exact .inl (within_hide.trans (.of_eq rfl))
  | visibility hidden => exact (Due.heard due_visibility).before (.of_eq rfl) rfl rfl
  | network onLine =>
    show Due clock c (if c.onLine = onLine then c else _)
    split <;> exact .inl (.of_eq rfl)
  | connectivity =>
    unfold step
    dsimp only
    split
    · exact .inl (.of_eq rfl)
    · exact (Due.heard due_online).before (.of_eq rfl) rfl rfl
    · exact (Due.heard (.inl within_offline)).before (.of_eq rfl) rfl rfl
  | pagehide => exact Due.heard (.inl within_hide)
  | pageshow persisted => exact Due.heard (due_show persisted)
  | timerFires =>
    show Due clock c (if c.timer.isSome then _ else _)
    split
    · exact (due_refresh false).before (.of_eq rfl) rfl rfl
    · exact .inl (.of_eq rfl)
  | tick => exact .inl (.of_eq quiet_updateClock.requests)
  | refresh manual => exact due_refresh manual
  | timeout id =>
    refine .inl (.of_map (f := fun r => if r.id = id then { r with timedOut := true, aborted := true } else r) (fun r => ?_) rfl)
    split <;> rfl
  | fetched id settled =>
    unfold step
    dsimp only
    split
    · exact .inl (within_fetched settled)
    · exact .inl (.of_eq rfl)
  | read id settled =>
    unfold step
    dsimp only
    split
    · exact .inl (within_read _ settled)
    · exact .inl (.of_eq rfl)

theorem step_sends {task : Clock × Task} (h : Sends c (c.step initial task)) : c.state.retryAt ≤ task.1.now := by
  rcases step_due task with hwithin | ⟨hdue, -⟩
  · exact absurd h hwithin.not_sends
  · exact hdue

/-! ## A page whose order is not found -/

structure Lost (c : CheckoutController) : Prop where
  visual : c.state.visual = .NOT_FOUND
  alive : c.alive = false

theorem Lost.hide (h : Lost c) : Lost c.hide := ⟨h.visual, rfl⟩

theorem Lost.abort (h : Lost c) : Lost c.abort := ⟨h.visual, h.alive⟩

theorem Lost.finish (h : Lost c) : Lost (c.finish sent) := by
  unfold CheckoutController.finish
  split
  · split <;> exact ⟨h.visual, h.alive⟩
  · exact ⟨h.visual, h.alive⟩

theorem Lost.refresh (h : Lost c) (manual : Bool) : c.refresh initial clock manual = c.replaceRead manual := by
  have hlost : Lost (c.replaceRead manual) := by
    unfold CheckoutController.replaceRead
    split
    · exact h.abort
    · exact h
  unfold CheckoutController.refresh request
  rw [if_pos]
  rw [hlost.alive]
  rfl

theorem Lost.updateClock (h : Lost c) : Lost (c.updateClock clock) := by
  refine ⟨?_, quiet_updateClock.alive.trans h.alive⟩
  show (c.passDeadline clock).state.visual = _
  unfold passDeadline
  split <;> exact h.visual

theorem Lost.fail (h : Lost c) : c.fail clock sent = c := by
  unfold CheckoutController.fail
  rw [if_pos]
  rw [h.alive]
  rfl

theorem Lost.not_current (h : Lost c) : c.current sent = false := by
  unfold current
  rw [h.alive]
  rfl

theorem Lost.fetched (h : Lost c) (settled : Fetched) : c.fetched clock sent settled = c.finish sent := by
  cases settled with
  | rejected =>
    show (c.fail clock sent).finish sent = _
    rw [h.fail]
  | resolved response =>
    show (if !c.current sent then _ else _) = _
    rw [h.not_current]
    rfl

theorem Lost.read (h : Lost c) (date : Option Rat) (settled : Body) :
    c.read initial clock sent date settled = c.finish sent := by
  cases settled with
  | rejected =>
    show (c.fail clock sent).finish sent = _
    rw [h.fail]
  | resolved payload =>
    show (if !c.current sent then _ else _) = _
    rw [h.not_current]
    rfl

theorem lost_heard {f : CheckoutController → CheckoutController} (h : Lost c) (hf : Lost (f c)) : Lost (c.heard f) := by
  unfold heard
  split
  · exact hf
  · exact h

/-- What is lost stays lost. -/
theorem Lost.step (h : Lost c) (task : Clock × Task) : Lost (c.step initial task) := by
  obtain ⟨clock, task⟩ := task
  cases task with
  | start responseStart =>
    show Lost (c.start initial clock responseStart)
    unfold CheckoutController.start
    rw [if_pos]
    · exact h
    · rw [h.visual]
      rfl
  | cleanup => exact ⟨h.visual, rfl⟩
  | visibility hidden =>
    have hlost : Lost { c with hidden } := ⟨h.visual, h.alive⟩
    refine lost_heard hlost ?_
    unfold CheckoutController.visibility
    rw [if_pos]
    · exact hlost
    · rw [h.alive]
      rfl
  | network onLine =>
    show Lost (if c.onLine = onLine then c else _)
    split <;> exact ⟨h.visual, h.alive⟩
  | connectivity =>
    unfold CheckoutController.step
    dsimp only
    split
    · exact h
    · next pending _ =>
      have hlost : Lost { c with pending } := ⟨h.visual, h.alive⟩
      refine lost_heard hlost ?_
      unfold CheckoutController.online
      rw [if_pos]
      · exact hlost
      · rw [h.alive]
        rfl
    · next pending _ =>
      have hlost : Lost { c with pending } := ⟨h.visual, h.alive⟩
      refine lost_heard hlost ?_
      unfold CheckoutController.offline
      rw [if_pos]
      · exact hlost
      · rw [h.alive]
        rfl
  | pagehide => exact lost_heard h h.hide
  | pageshow persisted =>
    refine lost_heard h ?_
    rw [if_neg]
    · exact h
    · rw [h.visual]
      simp
  | timerFires =>
    have hlost : Lost c.stopTimer := ⟨h.visual, h.alive⟩
    show Lost (if c.timer.isSome then _ else _)
    split
    · rw [hlost.refresh]
      exact hlost
    · exact h
  | tick => exact h.updateClock
  | refresh manual =>
    show Lost (c.refresh initial clock manual)
    rw [h.refresh]
    unfold replaceRead
    split
    · exact h.abort
    · exact h
  | timeout id => exact ⟨h.visual, h.alive⟩
  | fetched id settled =>
    unfold CheckoutController.step
    dsimp only
    split
    · rw [h.fetched]
      exact h.finish
    · exact h
  | read id settled =>
    unfold CheckoutController.step
    dsimp only
    split
    · rw [h.read]
      exact h.finish
    · exact h

/-- Nothing is sent from there. -/
theorem Lost.not_sends (h : Lost c) (task : Clock × Task) : ¬ Sends c (c.step initial task) := by
  rcases step_due task with hwithin | ⟨-, hvisual⟩
  · exact hwithin.not_sends
  · exact absurd h.visual hvisual

theorem Lost.path {tasks : List (Clock × Task)} (hp : Runs.Path (system initial) c tasks c') (h : Lost c) : Lost c' := by
  refine (hp.relates (I := Lost) (R := fun _ _ => True) (fun _ => trivial) (fun _ _ => trivial) ?_ h).1
  rintro c task _ hlost rfl
  exact ⟨hlost.step task, trivial⟩

/-- A response with status 404, for the request the page waits for. -/
theorem lost_of_notFound {id : Nat} {response : Response} (hsent : c.fetching id = some sent) (hcurrent : c.current sent = true)
    (hstatus : response.status = 404) : Lost (c.step initial (clock, .fetched id (.resolved response))) := by
  have hok : response.ok = false := by
    unfold Response.ok
    rw [hstatus]
    rfl
  unfold CheckoutController.step
  dsimp only
  rw [hsent]
  show Lost (if !c.current sent then _ else if !response.ok then _ else _)
  rw [hcurrent, hok]
  refine Lost.finish ?_
  unfold refuse
  rw [if_pos hstatus]
  exact ⟨rfl, rfl⟩

/-! ## Answers of earlier generations -/

/-- **A superseded request changes nothing**, except that it has settled. -/
theorem superseded_step {id : Nat} (hsound : Sound initial c) (hother : id ≠ c.generation) {task : Task}
    (htask : (∃ settled, task = .fetched id settled) ∨ ∃ settled, task = .read id settled) :
    ∃ requests, c.step initial (clock, task) = { c with requests } := by
  have hfail (r : Request) (hr : r.id = id) : c.fail clock r = c := by
    unfold fail
    rw [if_pos]
    simp [hr, hother]
  have hcurrent (r : Request) (hr : r.id = id) : c.current r = false := by
    unfold current
    simp [hr, Ne.symm hother]
  have hfinish (r : Request) (hr : r.id = id) : ∃ requests, c.finish r = { c with requests } :=
    ⟨_, hsound.tracked.finish_superseded (hr ▸ hother)⟩
  rcases htask with ⟨settled, rfl⟩ | ⟨settled, rfl⟩
  · unfold step
    dsimp only
    split
    · next r hsent =>
      have hr := (fetching_mem hsent).2
      cases settled with
      | rejected =>
        show ∃ requests, (c.fail clock r).finish r = _
        rw [hfail r hr]
        exact hfinish r hr
      | resolved response =>
        show ∃ requests, (if !c.current r then _ else _) = _
        rw [hcurrent r hr]
        exact hfinish r hr
    · exact ⟨c.requests, rfl⟩
  · unfold step
    dsimp only
    split
    · next r date hsent =>
      have hr := (reading_mem hsent).2
      cases settled with
      | rejected =>
        show ∃ requests, (c.fail clock r).finish r = _
        rw [hfail r hr]
        exact hfinish r hr
      | resolved payload =>
        show ∃ requests, (if !c.current r then _ else _) = _
        rw [hcurrent r hr]
        exact hfinish r hr
    · exact ⟨c.requests, rfl⟩

/-! ## Polling -/

/-- The page waits for a request, or will send one. -/
def Waits (c : CheckoutController) : Prop := c.active.isSome = true ∨ c.timer.isSome = true

/-- The page is online, and has been told so. -/
def isOnline (c : CheckoutController) : Bool := c.onLine && c.pending.isEmpty

def KeepsPolling (c : CheckoutController) : Prop :=
  c.alive = true → c.hidden = false → c.isOnline = true → c.state.visual ≠ .NOT_FOUND → Waits c

/-- Polling, or about to hear that the page is online. -/
def Polls (c : CheckoutController) : Prop :=
  c.alive = true → c.hidden = false → c.onLine = true → Waits c ∨ true ∈ c.pending

theorem Polls.keeps (h : Polls c) : KeepsPolling c := by
  intro halive hhidden honline _
  obtain ⟨honLine, hpending⟩ := Bool.and_eq_true_iff.mp honline
  rcases h halive hhidden honLine with hwaits | htold
  · exact hwaits
  · rw [List.isEmpty_iff.mp hpending] at htold
    exact nomatch htold

theorem polls_of_not_alive (h : c.alive = false) : Polls c :=
  fun halive => absurd (h.symm.trans halive) Bool.false_ne_true

theorem waits_schedule {delay : Option Rat} (hdelay : delay.isSome = true) (halive : c.alive = true)
    (hvisual : c.state.visual ≠ .NOT_FOUND) (hhidden : c.hidden = false) (honLine : c.onLine = true) :
    (c.schedule clock delay).timer.isSome = true := by
  obtain ⟨delay, rfl⟩ := Option.isSome_iff_exists.mp hdelay
  show (if _ then _ else _ : CheckoutController).timer.isSome = true
  rw [if_pos]
  · rfl
  · simp [halive, hvisual, hhidden, honLine]

/-- `schedule` at the end of a callback that leaves the page as it is. -/
theorem polls_schedule {delay : Option Rat} (hdelay : delay.isSome = true)
    (hvisual : c.alive = true → c.state.visual ≠ .NOT_FOUND) : Polls (c.schedule clock delay) := by
  have hquiet : Quiet c (c.schedule clock delay) := quiet_schedule delay
  intro halive hhidden honLine
  rw [hquiet.alive] at halive
  rw [hquiet.hidden] at hhidden
  rw [hquiet.onLine] at honLine
  exact .inl (.inr (waits_schedule hdelay halive (hvisual halive) hhidden honLine))

theorem interval_isSome {visual : CheckoutViewState} (h : visual ≠ .NOT_FOUND) : (interval visual).isSome = true := by
  cases visual with
  | NOT_FOUND => exact absurd rfl h
  | _ => rfl

theorem polls_request (hsound : Sound initial c) (manual : Bool) : Polls (c.request initial clock manual) := by
  unfold request
  split
  · next hstay =>
    intro halive hhidden honLine
    refine .inl (.inl ?_)
    obtain ⟨hlistening, hvisual⟩ := hsound.alive halive
    have hurl := hsound.listening hlistening
    simpa [halive, hhidden, honLine, hurl, hvisual] using hstay
  · next hgo =>
    split
    · exact polls_schedule rfl fun halive => (hsound.alive halive).2
    · split
      · next hforeign =>
        intro halive
        have hurl := hsound.listening (hsound.alive halive).1
        exact absurd (initial.path hurl) (by simpa using hforeign)
      · exact fun _ _ _ => .inl (.inl rfl)

theorem polls_refresh (hsound : Sound initial c) (manual : Bool) : Polls (c.refresh initial clock manual) :=
  polls_request (hsound.replaceRead manual) manual

theorem polls_refreshShown (hsound : Sound initial c) : Polls (c.refreshShown initial clock) := by
  unfold refreshShown
  split
  · exact polls_refresh hsound false
  · next hnone =>
    intro halive
    exact absurd (interval_isSome (hsound.alive halive).2) hnone

/-- The part of a page that polling is about. -/
theorem Polls.congr (h : Polls c) (halive : c'.alive = c.alive) (hhidden : c'.hidden = c.hidden) (honLine : c'.onLine = c.onLine)
    (hactive : c'.active = c.active) (htimer : c'.timer = c.timer) (hpending : c'.pending = c.pending) : Polls c' := by
  unfold Polls Waits
  rw [halive, hhidden, honLine, hactive, htimer, hpending]
  exact h

theorem polls_visibility (hawake : Awake initial c) : Polls (c.visibility initial clock) := by
  unfold visibility
  split
  · next hdead => exact polls_of_not_alive (by simpa using hdead)
  · split
    · next hhidden =>
      intro _ hshown
      exact absurd (hshown.symm.trans hhidden) Bool.false_ne_true
    · next hshown => exact polls_refreshShown (hawake.shown (Bool.eq_false_iff.mpr hshown))

theorem polls_online (hsound : Sound initial c) : Polls (c.online initial clock) := by
  unfold online
  split
  · next hdead => exact polls_of_not_alive (by simpa using hdead)
  · refine polls_refreshShown (hsound.quiet ?_)
    exact ⟨rfl, rfl, rfl, rfl, rfl, rfl, rfl, rfl, rfl, fun hbusy => ⟨hbusy, rfl⟩, id⟩

theorem polls_start (hpolls : Polls c) (responseStart : Rat) : Polls (c.start initial clock responseStart) := by
  unfold start
  split
  · exact hpolls
  · next hgo =>
    simp only [Bool.or_eq_true, decide_eq_true_eq, not_or] at hgo
    have hdelay : (firstDelay initial c.state.visual).isSome = true := by
      unfold firstDelay
      split
      · rfl
      · split
        · rfl
        · exact interval_isSome hgo.1
    have hquiet : Quiet (c.prepare initial clock responseStart) ((c.prepare initial clock responseStart).updateClock clock) :=
      quiet_updateClock
    have harmed : Polls (schedule clock { (c.prepare initial clock responseStart).updateClock clock with
        ticking := true, listening := true } (firstDelay initial c.state.visual)) :=
      polls_schedule hdelay fun _ => hquiet.visual hgo.1
    exact harmed.congr rfl rfl rfl rfl rfl rfl

/-- A timer is armed, if the page is there to use it. -/
def Armed (c : CheckoutController) : Prop :=
  c.alive = true → c.hidden = false → c.onLine = true → c.timer.isSome = true

theorem armed_schedule {delay : Option Rat} (hdelay : delay.isSome = true)
    (hvisual : c.alive = true → c.state.visual ≠ .NOT_FOUND) : Armed (c.schedule clock delay) := by
  have hquiet : Quiet c (c.schedule clock delay) := quiet_schedule delay
  intro halive hhidden honLine
  rw [hquiet.alive] at halive
  rw [hquiet.hidden] at hhidden
  rw [hquiet.onLine] at honLine
  exact waits_schedule hdelay halive (hvisual halive) hhidden honLine

/-- What `finish` leaves alone. -/
theorem finish_frame : ∃ requests active manualDeadline state,
    c.finish sent = { c with requests, active, manualDeadline, state } := by
  unfold finish
  split
  · split <;> exact ⟨_, _, _, _, rfl⟩
  · exact ⟨_, _, _, _, rfl⟩

theorem Armed.finish (h : Armed c) : Polls (c.finish sent) := by
  obtain ⟨requests, active, manualDeadline, state, heq⟩ := @finish_frame c sent
  rw [heq]
  exact fun halive hhidden honLine => .inl (.inr (h halive hhidden honLine))

theorem polls_finish_superseded (hsound : Sound initial c) (hpolls : Polls c) (hother : sent.id ≠ c.generation) :
    Polls (c.finish sent) := by
  rw [hsound.tracked.finish_superseded hother]
  exact hpolls.congr rfl rfl rfl rfl rfl rfl

/-- A request that fails leaves the timer armed, or is not waited for. -/
theorem polls_fail (hsound : Sound initial c) (hpolls : Polls c) (hsent : sent ∈ c.requests) :
    Polls ((c.fail clock sent).finish sent) := by
  by_cases hid : sent.id = c.generation
  · refine Armed.finish ?_
    unfold fail
    split
    · next hreturn =>
      intro halive
      simp only [halive, hid, Bool.not_true, ne_eq, not_true_eq_false, decide_false, Bool.or_self, Bool.false_or,
        Bool.and_eq_true, Bool.not_eq_true'] at hreturn
      exact absurd (hsound.tracked.timed sent hsent hid hreturn.1) (by rw [hreturn.2]; exact Bool.false_ne_true)
    · refine armed_schedule rfl ?_
      intro halive
      have hquiet : Quiet { c with failures := c.failures + 1 }
          (({ c with failures := c.failures + 1 }).endCheck "核实结果暂时无法获取，页面会继续自动更新。") := quiet_endCheck _
      exact hquiet.visual (hsound.alive (hquiet.alive.symm.trans halive)).2
  · have hreturn : c.fail clock sent = c := by
      unfold fail
      rw [if_pos]
      simp [hid]
    rw [hreturn]
    exact polls_finish_superseded hsound hpolls hid

/-- The page waits for this request, and for nothing else, although its ten seconds are over. -/
structure Overdue (c : CheckoutController) (request : Request) : Prop where
  active : c.active = some request.id
  timedOut : request.timedOut = true
  online : c.isOnline = true
  timer : c.timer = none

/-- A request that is not current any more, when something comes of it. -/
theorem polls_not_current (hsound : Sound initial c) (hpolls : Polls c) (hsent : sent ∈ c.requests)
    (hcurrent : c.current sent = false) (htimely : ¬ Overdue c sent) : Polls (c.finish sent) := by
  by_cases hid : sent.id = c.generation
  · have hactive := hsound.tracked.waited sent hsent hid
    have halive : c.alive = true := hsound.active (by rw [hactive]; rfl)
    have haborted : sent.aborted = true := by
      unfold current at hcurrent
      simpa [halive, hid] using hcurrent
    have htimedOut := hsound.tracked.timed sent hsent hid haborted
    obtain ⟨requests, active, manualDeadline, state, heq⟩ := @finish_frame c sent
    rw [heq]
    intro _ _ honLine
    cases htimer : c.timer with
    | some delay => exact .inl (.inr rfl)
    | none =>
      -- the page hears again that it is online
      refine .inr ?_
      have hpending : c.pending ≠ [] := by
        intro hnil
        refine htimely ⟨hactive, htimedOut, ?_, htimer⟩
        unfold isOnline
        rw [hnil, show c.onLine = true from honLine]
        rfl
      have hlast := hsound.pending _ (List.getLast?_eq_some_getLast hpending)
      have hmem := List.getLast_mem hpending
      rw [hlast, show c.onLine = true from honLine] at hmem
      exact hmem
  · exact polls_finish_superseded hsound hpolls hid

/-- **No answer comes too late**: no response and no body for a request that the page waits for although the ten seconds
    of the request are over. -/
def Timely (c : CheckoutController) : Clock × Task → Prop
  | (_, .fetched id (.resolved _)) => ∀ request, c.fetching id = some request → ¬ Overdue c request
  | (_, .read id (.resolved _)) => ∀ request date, c.reading id = some (request, date) → ¬ Overdue c request
  | _ => True

theorem polls_fetched (hsound : Sound initial c) (hpolls : Polls c) (hsent : sent ∈ c.requests) (settled : Fetched)
    (htimely : ∀ response, settled = .resolved response → ¬ Overdue c sent) : Polls (c.fetched clock sent settled) := by
  cases settled with
  | rejected => exact polls_fail hsound hpolls hsent
  | resolved response =>
    show Polls (if !c.current sent then _ else if !response.ok then _ else _)
    split
    · next hold => exact polls_not_current hsound hpolls hsent (by simpa using hold) (htimely response rfl)
    · split
      · refine Armed.finish ?_
        unfold refuse
        split
        · exact nofun
        · split
          · have hquiet : Quiet c (c.endCheck "本次核实未完成，页面会继续自动更新。") := quiet_endCheck _
            unfold rateLimited
            refine armed_schedule rfl fun halive => ?_
            show (if _ then _ else _ : CheckoutViewState) ≠ _
            split
            · decide
            · exact hquiet.visual (hsound.alive (hquiet.alive.symm.trans halive)).2
          · have hquiet : Quiet c (c.endCheck "本次核实未完成，页面会继续自动更新。") := quiet_endCheck _
            unfold backOff
            refine armed_schedule rfl fun halive => ?_
            show (if _ then _ else _ : CheckoutViewState) ≠ _
            split
            · decide
            · exact hquiet.visual (hsound.alive (hquiet.alive.symm.trans halive)).2
      · exact hpolls.congr rfl rfl rfl rfl rfl rfl

theorem polls_read (hsound : Sound initial c) (hpolls : Polls c) (hsent : sent ∈ c.requests) (date : Option Rat) (settled : Body)
    (htimely : ∀ payload, settled = .resolved payload → ¬ Overdue c sent) :
    Polls (c.read initial clock sent date settled) := by
  cases settled with
  | rejected => exact polls_fail hsound hpolls hsent
  | resolved payload =>
    show Polls (if !c.current sent then _ else _)
    split
    · next hold => exact polls_not_current hsound hpolls hsent (by simpa using hold) (htimely payload rfl)
    · cases payload with
      | some order =>
        have hquiet : Quiet c (c.receive initial clock sent.start date order) := quiet_receive _ _ _
        have hvisual (halive : (c.receive initial clock sent.start date order).alive = true) :=
          hquiet.visual (hsound.alive (hquiet.alive.symm.trans halive)).2
        refine Armed.finish ?_
        unfold scheduleInterval
        by_cases halive : (c.receive initial clock sent.start date order).alive = true
        · exact armed_schedule (interval_isSome (hvisual halive)) hvisual
        · intro halive'
          exact absurd ((quiet_schedule _).alive.symm.trans halive') halive
      | none => exact polls_fail hsound hpolls hsent

/-- **The step.** -/
theorem Polls.step (hpolls : Polls c) (hsound : Sound initial c) {task : Clock × Task} (htimely : Timely c task) :
    Polls (c.step initial task) := by
  obtain ⟨clock, task⟩ := task
  cases task with
  | start responseStart => exact polls_start hpolls responseStart
  | cleanup => exact polls_of_not_alive rfl
  | visibility hidden =>
    have hawake : Awake initial { c with hidden } :=
      ⟨hsound.tracked.congr rfl rfl rfl, hsound.alive, hsound.listening, hsound.active, hsound.busy, hsound.pending⟩
    show Polls (if c.listening then _ else _)
    split
    · exact polls_visibility hawake
    · next hdeaf => exact polls_of_not_alive (Bool.eq_false_iff.mpr fun halive => hdeaf (hsound.alive halive).1)
  | network onLine =>
    show Polls (if c.onLine = onLine then c else _)
    split
    · exact hpolls
    · intro _ _ honLine
      obtain rfl : onLine = true := honLine
      exact .inr (List.mem_append_right _ List.mem_cons_self)
  | connectivity =>
    have hdeaf (pending : List Bool) (h : ¬ c.listening = true) : Polls { c with pending } :=
      polls_of_not_alive (Bool.eq_false_iff.mpr fun halive => h (hsound.alive halive).1)
    unfold CheckoutController.step
    dsimp only
    split
    · exact hpolls
    · next pending hpending =>
      unfold heard
      split
      · exact polls_online (hsound.popped hpending)
      · exact hdeaf pending ‹_›
    · next pending hpending =>
      unfold heard
      split
      · show Polls (offline { c with pending })
        unfold offline
        split
        · next hdead => exact polls_of_not_alive (by simpa using hdead)
        · -- the last event that waits tells of the network as it is
          intro _ _ honLine
          have hlast := hsound.pending _ (by rw [hpending]; exact List.getLast?_eq_some_getLast (List.cons_ne_nil _ _))
          cases pending with
          | nil => exact absurd (hlast.trans honLine) Bool.false_ne_true
          | cons online rest =>
            refine .inr ?_
            show true ∈ online :: rest
            rw [List.getLast_cons (List.cons_ne_nil online rest), show c.onLine = true from honLine] at hlast
            rw [← hlast]
            exact List.getLast_mem _
      · exact hdeaf pending ‹_›
  | pagehide =>
    show Polls (if c.listening then _ else _)
    split
    · exact polls_of_not_alive rfl
    · exact hpolls
  | pageshow persisted =>
    show Polls (if c.listening then _ else _)
    split
    · show Polls (if _ then _ else _)
      split
      · next hlistening hshown =>
        have hvisual : c.state.visual ≠ .NOT_FOUND := by simpa using (Bool.and_eq_true_iff.mp hshown).2
        have hvisible : Polls ((({ c with alive := true }.updateClock clock).resume clock).visibility initial clock) :=
          polls_visibility (hsound.awake hlistening hvisual)
        exact hvisible.congr rfl rfl rfl rfl rfl rfl
      · exact hpolls
    · exact hpolls
  | timerFires =>
    show Polls (if c.timer.isSome then _ else _)
    split
    · refine polls_refresh (hsound.quiet ?_) false
      exact ⟨rfl, rfl, rfl, rfl, rfl, rfl, rfl, rfl, rfl, fun hbusy => ⟨hbusy, rfl⟩, id⟩
    · exact hpolls
  | tick =>
    have hquiet : Quiet c (c.updateClock clock) := quiet_updateClock
    refine hpolls.congr hquiet.alive hquiet.hidden hquiet.onLine hquiet.active ?_ hquiet.pending
    show (c.passDeadline clock).timer = c.timer
    unfold passDeadline
    split <;> rfl
  | refresh manual => exact polls_refresh hsound manual
  | timeout id => exact hpolls.congr rfl rfl rfl rfl rfl rfl
  | fetched id settled =>
    unfold CheckoutController.step
    dsimp only
    split
    · next sent hsent =>
      refine polls_fetched hsound hpolls (fetching_mem hsent).1 settled ?_
      rintro response rfl
      exact htimely sent hsent
    · exact hpolls
  | read id settled =>
    unfold CheckoutController.step
    dsimp only
    split
    · next sent date hsent =>
      refine polls_read hsound hpolls (reading_mem hsent).1 date settled ?_
      rintro payload rfl
      exact htimely sent date hsent
    · exact hpolls

/-! ## The answer that comes too late -/

/-- The page waits for nothing any more. -/
theorem not_keeps_of_overdue (hsound : Sound initial c) (h : Overdue c sent) : ¬ KeepsPolling (c.finish sent) := by
  intro hkeeps
  have hactive : c.active.isSome = true := by
    rw [h.active]
    rfl
  have halive := hsound.active hactive
  have hframe : (c.finish sent).alive = c.alive ∧ (c.finish sent).hidden = c.hidden ∧
      (c.finish sent).isOnline = c.isOnline ∧ (c.finish sent).timer = c.timer := by
    obtain ⟨requests, active, manualDeadline, state, heq⟩ := @finish_frame c sent
    rw [heq]
    exact ⟨rfl, rfl, rfl, rfl⟩
  have hvisual : (c.finish sent).state.visual ≠ .NOT_FOUND := (hsound.finish.alive (hframe.1.trans halive)).2
  rcases hkeeps (hframe.1.trans halive) (hframe.2.1.trans (hsound.active_visible hactive)) (hframe.2.2.1.trans h.online) hvisual
    with hwaits | harmed
  · rw [finish_active, if_pos h.active] at hwaits
    exact absurd hwaits Bool.false_ne_true
  · rw [hframe.2.2.2, h.timer] at harmed
    exact absurd harmed Bool.false_ne_true

theorem not_current_of_overdue (hsound : Sound initial c) (hsent : sent ∈ c.requests) (h : Overdue c sent) :
    c.current sent = false := by
  unfold current
  rw [hsound.tracked.late sent hsent h.timedOut]
  exact Bool.and_false _

/-- **The exact condition**: after a task that is not timely the page has stopped. -/
theorem not_keeps_of_late (hsound : Sound initial c) {task : Clock × Task} (hlate : ¬ Timely c task) :
    ¬ KeepsPolling (c.step initial task) := by
  obtain ⟨clock, task⟩ := task
  cases task with
  | fetched id settled =>
    cases settled with
    | rejected => exact absurd trivial hlate
    | resolved response =>
      obtain ⟨sent, hlate⟩ := not_forall.mp hlate
      obtain ⟨hsent, hlate⟩ := Classical.not_imp.mp hlate
      have hoverdue := not_not.mp hlate
      have hold := not_current_of_overdue hsound (fetching_mem hsent).1 hoverdue
      unfold CheckoutController.step
      dsimp only
      rw [hsent]
      show ¬ KeepsPolling (if !c.current sent then _ else _)
      rw [hold]
      exact not_keeps_of_overdue hsound hoverdue
  | read id settled =>
    cases settled with
    | rejected => exact absurd trivial hlate
    | resolved payload =>
      obtain ⟨sent, hlate⟩ := not_forall.mp hlate
      obtain ⟨date, hlate⟩ := not_forall.mp hlate
      obtain ⟨hsent, hlate⟩ := Classical.not_imp.mp hlate
      have hoverdue := not_not.mp hlate
      have hold := not_current_of_overdue hsound (reading_mem hsent).1 hoverdue
      unfold CheckoutController.step
      dsimp only
      rw [hsent]
      show ¬ KeepsPolling (if !c.current sent then _ else _)
      rw [hold]
      exact not_keeps_of_overdue hsound hoverdue
  | _ => exact absurd trivial hlate

/-! ## The controller -/

/-- What holds of the requests and of the spinner, in whatever order the tasks run. -/
structure Disciplined (initial : CheckoutInitial) (c : CheckoutController) : Prop where
  one : ∀ r ∈ c.requests, ∀ q ∈ c.requests, r.aborted = false → q.aborted = false → r = q
  due : ∀ task, Sends c (c.step initial task) → c.state.retryAt ≤ task.1.now
  superseded : ∀ (clock : Clock) (id : Nat) (task : Task),
    ((∃ settled, task = .fetched id settled) ∨ ∃ settled, task = .read id settled) → id ≠ c.generation →
      ∃ requests, c.step initial (clock, task) = { c with requests }
  notFound : ∀ (clock : Clock) (id : Nat) (request : Request) (response : Response), c.fetching id = some request →
    c.current request = true → response.status = 404 →
      (c.step initial (clock, .fetched id (.resolved response))).state.visual = .NOT_FOUND
  silent : c.state.visual = .NOT_FOUND →
    ∀ tasks c', Runs.Path (system initial) c tasks c' → ∀ task, ¬ Sends c' (c'.step initial task)
  busy : c.state.busy = true → c.active.isSome = true ∨ (0 < c.manualDeadline ∧ c.ticking = true)

theorem Sound.disciplined (h : Sound initial c) : Disciplined initial c where
  one _ hr _ hq hr' hq' := h.tracked.unaborted_unique hr hq hr' hq'
  due _ hsends := step_sends hsends
  superseded _ _ _ htask hother := superseded_step h hother htask
  notFound _ _ _ _ hsent hcurrent hstatus := (lost_of_notFound hsent hcurrent hstatus).visual
  silent := by
    intro hvisual tasks c' hpath task
    have halive : c.alive = false := Bool.eq_false_iff.mpr fun halive => (h.alive halive).2 hvisual
    exact (Lost.path hpath ⟨hvisual, halive⟩).not_sends task
  busy hbusy := .inr ⟨(h.busy hbusy).1, h.ticking (h.busy hbusy).2 (h.busy_visible hbusy)⟩

end CheckoutController

open CheckoutController

/-- **Checkout polling.**  Every reachable page is disciplined; in a run without an answer that comes too late the page
    keeps polling, and after such an answer it does not. -/
theorem checkout_polling (initial : CheckoutInitial) :
    (∀ c, Runs.Reachable (system initial) c → Disciplined initial c) ∧
      (∀ c, Runs.Reachable ((system initial).restrict Timely) c → KeepsPolling c) ∧
      ∀ c, Runs.Reachable (system initial) c → ∀ task, ¬ Timely c task → ¬ KeepsPolling (c.step initial task) := by
  refine ⟨fun c hc => (reachable_sound hc).disciplined, fun c hc => ?_, fun c hc task => not_keeps_of_late (reachable_sound hc)⟩
  have hpolls : Sound initial c ∧ Polls c := by
    refine hc.invariant (I := fun c => Sound initial c ∧ Polls c) ?_ ?_
    · rintro _ ⟨hidden, onLine, rfl⟩
      exact ⟨sound_create hidden onLine, polls_of_not_alive rfl⟩
    · rintro c task _ ⟨hsound, hpolls⟩ ⟨htimely, rfl⟩
      exact ⟨hsound.step task, hpolls.step hsound htimely⟩
  exact hpolls.2.keeps

/-! ## A page that stops

The first refresh is sent after a second and a half; its response is there when its ten seconds are over, but not before. -/

def sampleInitial : CheckoutInitial where
  demoMode := false
  checkout := some ⟨none, .OPEN, some 60000, .UNPAID⟩
  initialError := none
  apiUrl := "/api/public/v1/checkouts/pct1_test"
  sameOrigin := true
  qrUrl := "/api/public/v1/checkouts/pct1_test/qr.svg"
  qrAvailable := true
  serverTime := 0
  path _ := rfl

def sampleClock (milliseconds : Nat) : Clock := ⟨milliseconds, milliseconds, Nat.cast_nonneg milliseconds⟩

def samplePage (tasks : List (Clock × Task)) : CheckoutController :=
  tasks.foldl (CheckoutController.step sampleInitial) (createCheckoutController sampleInitial false true)

theorem samplePage_reachable (tasks : List (Clock × Task)) : Runs.Reachable (system sampleInitial) (samplePage tasks) :=
  Runs.Reachable.foldl (fun _ _ => rfl) tasks ⟨[], .start ⟨false, true, rfl⟩⟩

/-- The page waits for its first request. -/
def sampleAsked : List (Clock × Task) := [(sampleClock 0, .start 0), (sampleClock 1500, .timerFires)]

def sampleStopped : List (Clock × Task) :=
  sampleAsked ++ [(sampleClock 11500, .timeout 1), (sampleClock 12000, .fetched 1 (.resolved ⟨200, none, none⟩))]

theorem checkout_polling_sample : Disciplined sampleInitial (samplePage sampleAsked) ∧ KeepsPolling (samplePage sampleAsked) := by
  have hcreated : Runs.Run ((system sampleInitial).restrict Timely) [] (samplePage []) := .start ⟨false, true, rfl⟩
  have hstarted : Runs.Run ((system sampleInitial).restrict Timely) [(sampleClock 0, .start 0)]
      (samplePage [(sampleClock 0, .start 0)]) := hcreated.next (by exact ⟨trivial, rfl⟩)
  have hasked : Runs.Reachable ((system sampleInitial).restrict Timely) (samplePage sampleAsked) :=
    ⟨_, hstarted.next (l := (sampleClock 1500, .timerFires)) (by exact ⟨trivial, rfl⟩)⟩
  exact ⟨(checkout_polling sampleInitial).1 _ (samplePage_reachable sampleAsked), (checkout_polling sampleInitial).2.1 _ hasked⟩

/-- No request is there, no timer is armed, and the page is alive, visible and online. -/
theorem checkout_stops :
    ∃ c, Runs.Reachable (system sampleInitial) c ∧ c.alive = true ∧ c.hidden = false ∧ c.isOnline = true ∧
      c.state.visual = .UNPAID ∧ c.requests = [] ∧ c.active = none ∧ c.timer = none :=
  ⟨samplePage sampleStopped, samplePage_reachable sampleStopped, by decide +kernel⟩

end PerPay.Checkout
