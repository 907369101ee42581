import Scrim.Proofs.Answer
import Scrim.Proofs.Rounds

/-!
# The time of the wallpaper

An ambient wallpaper has a while in the always-on display, and then the alarm goes off. Nothing but
two tasks touches the alarm, one that arms it and one that disarms it. These *orders* are posted to
be run at once, but transitions and gestures may come before they are.

The *lease* of a world is what this is about: the state, whether the wallpaper has had its time, the
alarm, and the queued orders. `Lease.Evolves` lists what a step makes of it. Orders are run in the
order in which they were posted, so the last one decides whether the alarm is armed in the end
(`Lease.arms`), and running one never changes that. In the end it is armed only in a low-power state
(`Lease.Kept`). A round of the event loop runs all orders before it asks for the alarm, which
therefore goes off only there (`Simulation.wallpaper_alarm_dozes`).
-/

namespace Scrim

theorem Alarm.isScheduled_schedule (alarm : Alarm) (now delay : Nat) (mode : ArmMode) :
    (alarm.schedule now delay mode).1.isScheduled = true := by
  unfold schedule
  split
  · next hKept => exact (Bool.and_eq_true_iff.mp hKept).2
  · rfl

theorem Alarm.isScheduled_of_isDue {alarm : Alarm} {now : Nat} (h : alarm.isDue now = true) :
    alarm.isScheduled = true := by
  unfold isDue at h
  split at h
  · next hDeadline => rw [isScheduled, hDeadline, Option.isSome_some]
  · cases h

/-! ## Orders -/

namespace Scheduler

/-- The queued tasks that arm or disarm the alarm, in the order of posting, with the times at
which they are due. -/
def orders (scheduler : Scheduler) : List (Nat × Task) :=
  (scheduler.queue.filter (!·.task.blanks)).map Posted.entry

/-- Another scheduler holds the same orders at the same instant. -/
structure Spares (scheduler after : Scheduler) : Prop where
  now : after.now = scheduler.now
  orders : after.orders = scheduler.orders

variable {scheduler after : Scheduler} {task : Task}

theorem Spares.refl (scheduler : Scheduler) : scheduler.Spares scheduler where
  now := rfl
  orders := rfl

theorem Spares.trans {last : Scheduler} (h : scheduler.Spares after) (h' : after.Spares last) :
    scheduler.Spares last where
  now := h'.now.trans h.now
  orders := h'.orders.trans h.orders

theorem spares_postDelayed (h : task.blanks = true) (delay : Nat) :
    scheduler.Spares (scheduler.postDelayed task delay) where
  now := rfl
  orders := by
    unfold orders postDelayed
    rw [List.filter_append, List.filter_cons_of_neg (by simp [h]), List.filter_nil,
      List.append_nil]

theorem spares_cancel (h : task.blanks = true) : scheduler.Spares (scheduler.cancel task) where
  now := rfl
  orders := by
    unfold orders cancel
    dsimp only
    rw [List.filter_filter]
    refine congrArg (List.map Posted.entry) (List.filter_congr fun posted _ => ?_)
    -- what is cancelled is no order
    by_cases hTask : posted.task = task
    · simp [hTask, h]
    · simp [hTask]

theorem orders_post (scheduler : Scheduler) (h : task.blanks = false) :
    (scheduler.post task).orders = scheduler.orders ++ [(scheduler.now, task)] := by
  unfold orders post postDelayed
  rw [List.filter_append, List.map_append, List.filter_cons_of_pos (by simp [h])]
  rfl

theorem spares_of_popDue (h : scheduler.popDue = some (task, after)) (hTask : task.blanks = true) :
    scheduler.Spares after := by
  obtain ⟨before, posted, later, hQueue, rfl, rfl, -⟩ := popDue_eq_some h
  refine ⟨rfl, ?_⟩
  unfold orders
  rw [hQueue, List.filter_append, List.filter_append, List.filter_cons_of_neg (by simp [hTask])]

/-- Orders that were posted as they come due are in order. -/
theorem Filed.pairwise_orders (h : scheduler.Filed)
    (hSorted : scheduler.orders.Pairwise (·.1 ≤ ·.1)) :
    (scheduler.queue.filter (!·.task.blanks)).Pairwise (·.precedes ·) := by
  have hNumbers := h.ascending.filter (!·.task.blanks)
  refine ((List.pairwise_map.mp hSorted).and hNumbers).imp ?_
  rintro order other ⟨hDue, hNumber⟩
  rw [Posted.precedes_iff]
  simp only [Posted.entry] at hDue
  omega

/-- An order that is taken was the first. -/
theorem Filed.orders_of_popDue (hFiled : scheduler.Filed)
    (hSorted : scheduler.orders.Pairwise (·.1 ≤ ·.1))
    (h : scheduler.popDue = some (task, after)) (hTask : task.blanks = false) :
    ∃ due, scheduler.orders = (due, task) :: after.orders := by
  have hPairwise := hFiled.pairwise_orders hSorted
  obtain ⟨before, posted, later, hQueue, rfl, rfl, -, hFirst⟩ := popDue_eq_some h
  have hKept : (posted :: later).filter (!·.task.blanks) =
      posted :: later.filter (!·.task.blanks) := List.filter_cons_of_pos (by simp [hTask])
  -- an order posted before it would have been taken instead
  have hBefore : before.filter (!·.task.blanks) = [] := by
    rw [List.eq_nil_iff_forall_not_mem]
    intro order hOrder
    rw [hQueue, List.filter_append, hKept] at hPairwise
    have hPrecedes := (List.pairwise_append.mp hPairwise).2.2 order hOrder posted
      List.mem_cons_self
    have hNot := hFirst order (by simp [hQueue, List.mem_of_mem_filter hOrder])
    exact Bool.false_ne_true (hNot.symm.trans hPrecedes)
  refine ⟨posted.due, ?_⟩
  unfold orders
  rw [hQueue, List.filter_append, List.filter_append, hKept, hBefore]
  rfl

/-- The orders are delivered as they were posted. -/
theorem Filed.filter_sorted (h : scheduler.Filed)
    (hSorted : scheduler.orders.Pairwise (·.1 ≤ ·.1)) :
    scheduler.sorted.filter (!·.task.blanks) = scheduler.queue.filter (!·.task.blanks) :=
  Posted.eq_of_perm (scheduler.sorted_perm.filter _) (h.pairwise_sorted.filter _)
    (h.pairwise_orders hSorted)

end Scheduler

namespace Agenda

variable {agenda after : Agenda}

theorem Updated.spares (update : agenda.Updated after) :
    agenda.scheduler.Spares after.scheduler := by
  cases update with
  | held pending => exact .refl _
  | blanked idle blank => exact Scheduler.spares_postDelayed rfl _
  | moving idle clear holders attached moves => exact ⟨rfl, rfl⟩
  | settled idle clear => exact .refl _

theorem Framed.spares (framed : agenda.Framed after) :
    agenda.scheduler.Spares after.scheduler := by
  cases framed with
  | still still => exact .refl _
  | moving kept moves => exact ⟨rfl, rfl⟩
  | settled ended carried => exact .refl _

end Agenda

/-! ## Leases -/

/-- What there is to know of the time of the wallpaper. -/
structure Lease where
  state : State
  /-- The wallpaper has had its time. -/
  timedOut : Bool
  alarm : Alarm
  now : Nat
  /-- The queued tasks that arm or disarm the alarm. -/
  orders : List (Nat × Task)

namespace Lease

/-- Whether the alarm is armed once the queued orders are run: the last one decides. -/
def arms (lease : Lease) : Bool :=
  match lease.orders.getLast? with
  | none => lease.alarm.isScheduled
  | some (_, task) => task = .scheduleWallpaperTimeout

def restart (lease : Lease) (task : Task) : Lease :=
  { lease with timedOut := false, orders := lease.orders ++ [(lease.now, task)] }

/-- The wallpaper has had its time, if it is dozing. -/
def expire (lease : Lease) : Lease :=
  { lease with timedOut := lease.timedOut || lease.state.isLowPower }

inductive Evolves (lease : Lease) : Lease → Prop where
  | kept : Evolves lease lease
  | clock (time : Nat) : Evolves lease { lease with now := max lease.now time }
  /-- Another state is entered. Only a low-power state may have the alarm armed. -/
  | entered {state : State} {task : Task}
      (arms : task = .scheduleWallpaperTimeout → state.isLowPower = true) :
      Evolves lease ({ lease with state }.restart task)
  /-- A gesture brings back a wallpaper that has had its time. -/
  | restored (timedOut : lease.timedOut = true) :
      Evolves lease (lease.restart .scheduleWallpaperTimeout)
  /-- The first order is run, and the alarm armed or disarmed. -/
  | obeyed {due : Nat} {task : Task} {rest : List (Nat × Task)} {alarm : Alarm}
      (run : alarm.isScheduled = decide (task = .scheduleWallpaperTimeout))
      (first : lease.orders = (due, task) :: rest) :
      Evolves lease { lease with alarm, orders := rest }
  /-- The alarm goes off. -/
  | rang : Evolves lease { lease with alarm := lease.alarm.cancel }.expire
  /-- The wallpaper is asked to go. -/
  | expired : Evolves lease lease.expire

/-- All orders are due and were posted as they come due, and only in a low-power state has the
wallpaper had its time or is the alarm armed in the end. -/
structure Kept (lease : Lease) : Prop where
  due : ∀ order ∈ lease.orders, order.1 ≤ lease.now
  sorted : lease.orders.Pairwise (·.1 ≤ ·.1)
  timedOut : lease.timedOut = true → lease.state.isLowPower = true
  arms : lease.arms = true → lease.state.isLowPower = true

variable {lease after : Lease}

theorem arms_restart (lease : Lease) (task : Task) :
    (lease.restart task).arms = decide (task = .scheduleWallpaperTimeout) := by
  simp [arms, restart]

/-- An order that is run has its effect, and the ones after it decide as before. -/
theorem arms_of_first {due : Nat} {task : Task} {rest : List (Nat × Task)} {alarm : Alarm}
    (run : alarm.isScheduled = decide (task = .scheduleWallpaperTimeout))
    (first : lease.orders = (due, task) :: rest) :
    arms { lease with alarm, orders := rest } = lease.arms := by
  unfold arms
  rw [first, run, List.getLast?_cons]
  cases rest.getLast? with
  | none => rfl
  | some last => rfl

theorem arms_of_cancel (h : arms { lease with alarm := lease.alarm.cancel } = true) :
    lease.arms = true := by
  unfold arms at h ⊢
  cases hLast : lease.orders.getLast? with
  | none =>
      rw [hLast] at h
      cases h
  | some last =>
      rw [hLast] at h
      exact h

theorem kept_restart {task : Task} (due : ∀ order ∈ lease.orders, order.1 ≤ lease.now)
    (sorted : lease.orders.Pairwise (·.1 ≤ ·.1))
    (arms : task = .scheduleWallpaperTimeout → lease.state.isLowPower = true) :
    (lease.restart task).Kept where
  due := List.forall_mem_append.mpr ⟨due, List.forall_mem_singleton.mpr (Nat.le_refl lease.now)⟩
  sorted := by
    refine List.pairwise_append.mpr ⟨sorted, List.pairwise_singleton _ _, fun order hMem => ?_⟩
    exact List.forall_mem_singleton.mpr (due order hMem)
  timedOut := nofun
  arms hArms := by
    rw [arms_restart] at hArms
    exact arms (of_decide_eq_true hArms)

theorem Kept.obey {due : Nat} {task : Task} {rest : List (Nat × Task)} {alarm : Alarm}
    (h : lease.Kept) (run : alarm.isScheduled = decide (task = .scheduleWallpaperTimeout))
    (first : lease.orders = (due, task) :: rest) : Kept { lease with alarm, orders := rest } where
  due order hMem := h.due order (first ▸ List.mem_cons_of_mem _ hMem)
  sorted := (List.pairwise_cons.mp (first ▸ h.sorted)).2
  timedOut := h.timedOut
  arms hArms := h.arms ((arms_of_first run first).symm.trans hArms)

theorem Kept.expire (h : lease.Kept) : lease.expire.Kept where
  due := h.due
  sorted := h.sorted
  timedOut hOut := (Bool.or_eq_true_iff.mp hOut).elim h.timedOut id
  arms := h.arms

theorem Kept.evolves (h : lease.Kept) (evolves : lease.Evolves after) : after.Kept := by
  cases evolves with
  | kept => exact h
  | clock time =>
      exact ⟨fun order hMem => Nat.le_trans (h.due order hMem) (Nat.le_max_left _ _),
        h.sorted, h.timedOut, h.arms⟩
  | entered arms => exact kept_restart h.due h.sorted arms
  | restored timedOut => exact kept_restart h.due h.sorted fun _ => h.timedOut timedOut
  | obeyed run first => exact h.obey run first
  | rang =>
      exact Kept.expire ⟨h.due, h.sorted, h.timedOut, fun hArms => h.arms (arms_of_cancel hArms)⟩
  | expired => exact h.expire

end Lease

namespace World

def lease (world : World) : Lease where
  state := world.controller.state
  timedOut := world.controller.wallpaperTimedOut
  alarm := world.host.alarm
  now := world.now
  orders := world.host.scheduler.orders

variable {world after : World}

theorem lease_of_silent (h : after.silent = world.silent) : after.lease = world.lease := by
  show after.silent.lease = world.silent.lease
  rw [h]

/-- All but the orders is among what drawing leaves standing. -/
theorem lease_of_standing (h : after.standing.lease = world.standing.lease)
    (spares : world.agenda.scheduler.Spares after.agenda.scheduler) :
    after.lease = world.lease := by
  have hNow : after.host.scheduler.now = world.host.scheduler.now := spares.now
  have hOrders : after.host.scheduler.orders = world.host.scheduler.orders := spares.orders
  show Lease.mk after.standing.lease.state after.standing.lease.timedOut after.standing.lease.alarm
    after.host.scheduler.now after.host.scheduler.orders = world.lease
  rw [h, hNow, hOrders]
  rfl

theorem lease_prepare (world : World) : world.prepare.lease = world.lease := by
  obtain ⟨stale, alpha, surfaces, hPrepare⟩ := world.prepare_eq
  rw [hPrepare]
  rfl

/-! ## Updates and frames -/

theorem lease_update (hAttached : world.agenda.Attached) : world.update.lease = world.lease := by
  refine lease_of_standing ?_ (updated_update rfl hAttached).spares
  rw [standing_update, lease_prepare]

theorem lease_preDraw (hAttached : world.agenda.Attached) :
    world.preDraw.lease = world.lease := by
  refine lease_of_standing ?_ (updated_preDraw hAttached).spares
  rw [standing_preDraw, lease_prepare]
  rfl

theorem lease_reveal (hAttached : world.agenda.Attached) : world.reveal.lease = world.lease := by
  by_cases hPhase : world.agenda.blanking = .awaitingReveal
  · refine lease_of_standing ?_ (updated_reveal rfl hAttached hPhase).spares
    rw [standing_reveal, apply_ite lease, lease_prepare, ite_self]
  · rw [reveal_of_ne hPhase]

theorem lease_scheduleUpdate (world : World) : world.scheduleUpdate.lease = world.lease := by
  unfold scheduleUpdate
  split
  · rfl
  · rfl

theorem lease_frameCommitted (world : World) : world.frameCommitted.lease = world.lease := by
  refine lease_of_standing (congrArg lease (standing_frameCommitted world)) ?_
  rcases agenda_frameCommitted world with ⟨hSame, -⟩ | ⟨-, hCommitted⟩
  · rw [hSame]
    exact .refl _
  · rw [hCommitted]
    exact Scheduler.spares_postDelayed rfl _

theorem lease_animationFrame (h : world.agenda.Steady) :
    world.animationFrame.lease = world.lease :=
  lease_of_standing (congrArg lease (standing_animationFrame world))
    (framed_animationFrame rfl h.covered).spares

theorem lease_hideWallpaper (world : World) : world.hideWallpaper.lease = world.lease.expire := by
  have hExpire : world.lease.expire = { world.lease with
      timedOut := world.controller.wallpaperTimedOut || world.controller.state.isLowPower } := rfl
  rw [hExpire]
  unfold hideWallpaper
  split
  · next hDozes =>
    rw [hDozes, Bool.or_true]
    exact lease_scheduleUpdate _
  · next hWakes =>
    rw [Bool.of_not_eq_true hWakes, Bool.or_false]
    rfl

theorem lease_runTask (hAttached : world.agenda.Attached) {task : Task}
    (h : task.blanks = true) : (world.runTask task).lease = world.lease := by
  cases task with
  | pendingFrame => exact lease_frameCommitted world
  | blankingTransition => exact lease_reveal hAttached
  | scheduleWallpaperTimeout => cases h
  | cancelWallpaperTimeout => cases h

theorem evolves_runTask {task : Task} {scheduler : Scheduler} (hAttached : world.agenda.Attached)
    (hFiled : world.host.scheduler.Filed) (hSorted : world.lease.orders.Pairwise (·.1 ≤ ·.1))
    (due : world.host.scheduler.popDue = some (task, scheduler)) :
    world.lease.Evolves ({ world with host.scheduler := scheduler }.runTask task).lease := by
  cases hBlanks : task.blanks with
  | true =>
      have hTaken : { world with host.scheduler := scheduler }.lease = world.lease :=
        lease_of_standing rfl (Scheduler.spares_of_popDue due hBlanks)
      have hAgenda : { world with host.scheduler := scheduler }.agenda.Attached := hAttached
      rw [lease_runTask hAgenda hBlanks, hTaken]
      exact .kept
  | false =>
      obtain ⟨time, hOrders⟩ := hFiled.orders_of_popDue hSorted due hBlanks
      obtain ⟨before, posted, later, -, rfl, -⟩ := Scheduler.popDue_eq_some due
      cases task with
      | pendingFrame => cases hBlanks
      | blankingTransition => cases hBlanks
      | scheduleWallpaperTimeout =>
          have hArmed := world.host.alarm.isScheduled_schedule world.now
            world.controller.catalog.doze.wallpaperAodDuration .keep
          exact .obeyed (hArmed.trans (decide_eq_true rfl).symm) hOrders
      | cancelWallpaperTimeout => exact .obeyed rfl hOrders

/-! ## Gestures -/

theorem lease_followTarget (world : World) (layer : Layer) :
    (world.followTarget layer).lease = world.lease := by
  refine lease_of_standing (congrArg lease (standing_followTarget world layer)) ?_
  rw [agenda_followTarget]
  exact .refl _

theorem evolves_restoreWallpaper (world : World) :
    world.lease.Evolves world.restoreWallpaper.lease := by
  unfold restoreWallpaper
  split
  · next hOut =>
    have hPosted : (world.host.scheduler.post .scheduleWallpaperTimeout).orders = _ :=
      world.host.scheduler.orders_post rfl
    show world.lease.Evolves (Lease.mk _ false _ _ (world.host.scheduler.post _).orders)
    rw [hPosted]
    exact .restored hOut
  · exact .kept

theorem evolves_followGesture (world : World) :
    world.lease.Evolves world.followGesture.lease := by
  unfold followGesture
  simp only [List.foldl_cons, List.foldl_nil]
  generalize hMoved : (((world.followTarget .behind).followTarget .notifications).followTarget
    .front).followTarget .auxiliary = moved
  have hLease : moved.lease = world.lease := by
    rw [← hMoved]
    simp only [lease_followTarget]
  rw [← hLease]
  exact evolves_restoreWallpaper (moved.dispatchState moved.host.surfaces.behind.alpha)

theorem evolves_applyGesture (world : World) :
    world.lease.Evolves world.applyGesture.world.lease := by
  have hLease : world.overlayGesture.world.lease = world.lease := rfl
  rw [← hLease]
  unfold applyGesture
  split
  · next hOverlay =>
    rw [hOverlay]
    exact .kept
  · next hOverlay =>
    rw [hOverlay]
    dsimp only
    split
    · exact .kept
    · exact evolves_followGesture _

theorem evolves_setPanelExpansion (world : World) (fraction : Float32) :
    world.lease.Evolves (world.setPanelExpansion fraction).world.lease := by
  unfold setPanelExpansion
  split
  · exact .kept
  · exact .kept
  · next expansion _ =>
    dsimp only
    split
    · exact evolves_applyGesture { world with controller.expansion := expansion }
    · exact .kept

theorem evolves_setQuickSettings (world : World) (fraction : Float32) (panelBottom : Int) :
    world.lease.Evolves (world.setQuickSettings fraction panelBottom).world.lease := by
  have hLease : (world.followNotifications fraction panelBottom).lease = world.lease := by
    unfold followNotifications
    dsimp only
    split
    · rfl
    · rfl
  unfold setQuickSettings
  dsimp only
  generalize world.followNotifications fraction panelBottom = followed at hLease ⊢
  rw [← hLease]
  split
  · rw [hLease]
    exact .kept
  · split
    · exact .kept
    · next expansion _ =>
      split
      · exact evolves_applyGesture { followed with controller.expansion := expansion }
      · exact .kept

/-! ## Requests -/

theorem lease_of_factless {changed : World} (facts : changed.factless = world.factless) :
    changed.lease = world.lease := by
  show changed.factless.lease = world.factless.lease
  rw [facts]

theorem lease_expedite (world : World) : lease { world with
    host.scheduler := world.host.scheduler.cancel .blankingTransition } = world.lease :=
  lease_of_standing rfl (Scheduler.spares_cancel rfl)

theorem Answered.evolves (answered : world.Answered after) (hAttached : world.agenda.Attached) :
    world.lease.Evolves after.lease := by
  have same {after : World} (hLease : after.lease = world.lease) :
      world.lease.Evolves after.lease := by
    rw [hLease]
    exact .kept
  have attached {changed : World} (facts : changed.factless = world.factless) :
      changed.agenda.Attached := by
    have hFactless : world.factless.agenda.Attached := hAttached
    rw [← facts] at hFactless
    exact hFactless
  cases answered with
  | noted facts => exact same (lease_of_factless facts)
  | updated facts => exact same ((lease_update (attached facts)).trans (lease_of_factless facts))
  | scheduled facts => exact same ((lease_scheduleUpdate _).trans (lease_of_factless facts))
  | @revealed changed facts =>
      have hAttached := attached facts
      refine same (Eq.trans (lease_reveal hAttached) ?_)
      exact (lease_expedite changed).trans (lease_of_factless facts)
  | hidden =>
      rw [lease_hideWallpaper]
      exact .expired

/-! ## Transitions -/

theorem lease_enter (world : World) (state : State) (callback : Option Callback) :
    (world.enter state callback).lease = { world.lease with state } :=
  lease_of_silent (silent_replaceCallback
    { world.debug s!"State changed to: {state.name}" with controller.state := state } callback)

theorem lease_restartWallpaper (world : World) :
    world.restartWallpaper.lease = world.lease.restart
      (if world.fadesWallpaper then .scheduleWallpaperTimeout else .cancelWallpaperTimeout) := by
  have hOrder : (if world.fadesWallpaper then Task.scheduleWallpaperTimeout
      else .cancelWallpaperTimeout).blanks = false := by
    split
    · rfl
    · rfl
  unfold restartWallpaper Lease.restart
  show Lease.mk _ false _ _ (world.host.scheduler.post _).orders = _
  rw [world.host.scheduler.orders_post hOrder]
  rfl

theorem lease_applyTransition (hAttached : world.agenda.Attached) (previous : State) :
    (world.applyTransition previous).lease = world.lease := by
  unfold applyTransition
  split
  · exact lease_scheduleUpdate _
  · split
    · exact lease_preDraw hAttached
    · exact lease_scheduleUpdate world

/-- A transition starts the time of the wallpaper over in the always-on display only. -/
theorem lease_completeTransition (hAttached : world.agenda.Attached) (previous : State) :
    ∃ task : Task, (task = .scheduleWallpaperTimeout → world.controller.state.isLowPower = true) ∧
      (world.completeTransition previous).lease = world.lease.restart task := by
  unfold completeTransition
  extract_lets abandoned state controller marked awake applied
  have hAbandoned : abandoned.lease = world.lease :=
    lease_of_standing rfl ((Scheduler.spares_cancel rfl).trans (Scheduler.spares_cancel rfl))
  have hAwake : awake.lease = world.lease ∧ awake.restartWallpaper.agenda.Attached := by
    dsimp only [awake]
    split
    · exact ⟨hAbandoned, hAttached⟩
    · exact ⟨hAbandoned, hAttached⟩
  obtain ⟨hLease, hAttached⟩ := hAwake
  refine ⟨if awake.fadesWallpaper then .scheduleWallpaperTimeout else .cancelWallpaperTimeout,
    fun hFades => ?_, ?_⟩
  · have hState : awake.controller.state = world.controller.state := congrArg Lease.state hLease
    have hAod : awake.controller.state = .aod := by
      by_contra hOther
      simp [fadesWallpaper, hOther] at hFades
    rw [← hState, hAod]
    rfl
  · show applied.lease = world.lease.restart _
    rw [← hLease, ← lease_restartWallpaper awake]
    exact lease_applyTransition hAttached previous

theorem evolves_transition {state : State} {callback : Option Callback}
    (hAttached : world.agenda.Attached)
    (accepted : (world.transition state callback).error = none) :
    world.lease.Evolves (world.transition state callback).world.lease := by
  by_cases hActive : state = world.controller.state
  · rw [transition_of_active hActive accepted, lease_of_silent (silent_confirm world callback)]
    exact .kept
  · obtain ⟨-, -, -, hTransition⟩ := transition_eq hActive accepted
    obtain ⟨registration, blank, hEnter⟩ := agenda_enter world state callback
    have hLease : (world.enter state callback).overlayGesture.world.lease =
        { world.lease with state } := lease_enter world state callback
    have hAgenda : (world.enter state callback).overlayGesture.world.agenda =
        { world.agenda with callback := registration, blankScreen := blank } := hEnter
    rw [hTransition]
    generalize (world.enter state callback).overlayGesture.world = overlaid at hLease hAgenda ⊢
    have hOverlaid : overlaid.agenda.Attached := by
      rw [hAgenda]
      exact hAttached
    have hState : overlaid.controller.state = state := congrArg Lease.state hLease
    obtain ⟨task, hDozes, hCompleted⟩ :=
      lease_completeTransition hOverlaid world.controller.state
    rw [hCompleted, hLease]
    rw [hState] at hDozes
    exact .entered hDozes

/-! ## Steps -/

theorem evolves_run {operation : Operation} (hAttached : world.agenda.Attached)
    (accepted : (operation.run world).error = none) :
    world.lease.Evolves (operation.run world).world.lease := by
  cases operation with
  | transition state callback => exact evolves_transition hAttached accepted
  | panelExpansion fraction => exact evolves_setPanelExpansion world fraction
  | quickSettings fraction panelBottom => exact evolves_setQuickSettings world fraction panelBottom
  | expansionAffectsAlpha affects =>
      cases affects with
      | true => exact evolves_applyGesture { world with controller.expansion.affectsAlpha := true }
      | false => exact .kept
  | _ => exact (answered_run rfl world).evolves hAttached

structure Leased (world : World) : Prop where
  steady : world.agenda.Steady
  filed : world.host.scheduler.Filed
  lease : world.lease.Kept

theorem Step.evolves {event : Event} (step : Step world event after) (h : world.Leased) :
    world.lease.Evolves after.lease := by
  have hAttached := h.steady.attached
  cases step with
  | request accepted => exact evolves_run hAttached accepted
  | clock time => exact .clock time
  | alarm due =>
      rw [lease_hideWallpaper]
      exact .rang
  | task due => exact evolves_runTask hAttached h.filed h.lease.sorted due
  | animationFrame requested =>
      rw [lease_animationFrame]
      · exact .kept
      · exact h.steady.onScheduler _
  | preDraw listening =>
      rw [lease_preDraw hAttached]
      exact .kept

theorem Step.leased {event : Event} (step : Step world event after) (h : world.Leased) :
    after.Leased :=
  ⟨step.steady h.steady, step.filed h.steady h.filed, h.lease.evolves (step.evolves h)⟩

theorem Leads.leased {start last : World} (leads : Leads start last) (h : start.Leased) :
    last.Leased := by
  obtain ⟨moments, run⟩ := leads
  exact run.invariant Leased (fun _ _ _ h step => step.leased h) h

/-- In a fresh simulation the alarm is off, and nothing is queued for it. -/
theorem leased_create {settings : Settings} {options : SimulationOptions}
    {simulation : Simulation} (h : Simulation.create settings options = .ok simulation) :
    simulation.world.Leased := by
  have hFiled : simulation.world.host.scheduler.Filed :=
    (updated_create h).edited.filed ⟨.nil, nofun⟩
  have hUpdated : (fresh settings options).update.lease = (fresh settings options).lease :=
    lease_update fun _ => rfl
  have hLease : simulation.world.lease = ⟨.uninitialized, false, {}, 0, []⟩ := by
    obtain ⟨message, screenOn, hWorld⟩ := create_eq h
    have hTold (w : World) :
        lease { w.debug message with controller.screenOn := screenOn } = w.lease := rfl
    rw [hWorld, hTold, hUpdated]
    rfl
  refine ⟨(driven_create h).steady, hFiled, ?_⟩
  rw [hLease]
  exact ⟨nofun, .nil, nofun, nofun⟩

theorem Reachable.leased {settings : Settings} {options : SimulationOptions}
    (h : Reachable settings options world) : world.Leased :=
  h.invariant Leased (fun _ => leased_create) fun _ _ _ h step => step.leased h

/-- No order is left once nothing is due. -/
theorem Leased.orders_eq_nil (h : world.Leased) (hDone : world.host.scheduler.dueCount = 0) :
    world.lease.orders = [] := by
  refine List.eq_nil_iff_forall_not_mem.mpr fun order hMem => ?_
  have hDue := h.lease.due order hMem
  obtain ⟨posted, hPosted, rfl⟩ := List.mem_map.mp hMem
  have hLater := Scheduler.dueCount_eq_zero_iff.mp hDone posted (List.mem_of_mem_filter hPosted)
  exact Nat.not_le_of_lt hLater hDue

end World

namespace Scheduler

/-- An order to disarm the alarm is queued behind every order to arm it. -/
def CancelsLast (scheduler : Scheduler) : Prop :=
  ∃ earlier later, scheduler.pendingTasks = earlier ++ .cancelWallpaperTimeout :: later ∧
    .scheduleWallpaperTimeout ∉ later

/-- Where there are no orders, there is none to arm the alarm. -/
theorem not_mem_of_filter_nil {queue : List Posted} (h : queue.filter (!·.task.blanks) = []) :
    Task.scheduleWallpaperTimeout ∉ queue.map (·.task) := by
  intro hMem
  obtain ⟨order, hOrder, hTask⟩ := List.mem_map.mp hMem
  have hNone := List.filter_eq_nil_iff.mp h order hOrder
  rw [hTask] at hNone
  exact hNone rfl

theorem Filed.not_mem_pendingTasks {scheduler : Scheduler} (h : scheduler.Filed)
    (hNone : scheduler.orders = []) :
    Task.scheduleWallpaperTimeout ∉ scheduler.pendingTasks := by
  refine not_mem_of_filter_nil ?_
  rw [h.filter_sorted (by simp [hNone])]
  exact List.map_eq_nil_iff.mp hNone

theorem Filed.cancelsLast {scheduler : Scheduler} (h : scheduler.Filed)
    (hSorted : scheduler.orders.Pairwise (·.1 ≤ ·.1)) {earlier : List (Nat × Task)} {due : Nat}
    (hOrders : scheduler.orders = earlier ++ [(due, .cancelWallpaperTimeout)]) :
    scheduler.CancelsLast := by
  unfold orders at hOrders
  rw [← h.filter_sorted hSorted] at hOrders
  obtain ⟨before, last, hFilter, -, hLast⟩ := List.map_eq_append_iff.mp hOrders
  obtain ⟨order, rest, rfl, hEntry, hRest⟩ := List.map_eq_cons_iff.mp hLast
  obtain rfl := List.map_eq_nil_iff.mp hRest
  have hTask : order.task = .cancelWallpaperTimeout := congrArg Prod.snd hEntry
  obtain ⟨front, back, hQueue, -, hBack⟩ := List.filter_eq_append_iff.mp hFilter
  obtain ⟨middle, later, rfl, -, -, hLater⟩ := List.filter_eq_cons_iff.mp hBack
  refine ⟨(front ++ middle).map (·.task), later.map (·.task), ?_, not_mem_of_filter_nil hLater⟩
  simp [pendingTasks, hQueue, hTask]

end Scheduler

/-- If the alarm is armed or is to be armed, but not in the end, then it is disarmed last. -/
theorem World.Leased.cancelsLast {world : World} (h : world.Leased)
    (hArms : world.lease.arms = false)
    (armed : world.host.alarm.isScheduled = true ∨
      .scheduleWallpaperTimeout ∈ world.host.scheduler.pendingTasks) :
    world.host.scheduler.CancelsLast := by
  have hLast : world.lease.arms = match world.host.scheduler.orders.getLast? with
      | none => world.host.alarm.isScheduled
      | some (_, task) => decide (task = .scheduleWallpaperTimeout) := rfl
  rcases List.eq_nil_or_concat' world.host.scheduler.orders with hNil | ⟨earlier, last, hOrders⟩
  · -- nothing is queued, so the alarm is as it will be
    rw [hLast, hNil] at hArms
    rcases armed with hArmed | hQueued
    · exact absurd (hArms.symm.trans hArmed) Bool.false_ne_true
    · exact absurd hQueued (h.filed.not_mem_pendingTasks hNil)
  · obtain ⟨due, task⟩ := last
    rw [hLast, hOrders, List.getLast?_concat] at hArms
    have hOrder : (due, task) ∈ world.host.scheduler.orders := by simp [hOrders]
    obtain ⟨posted, hPosted, hEntry⟩ := List.mem_map.mp hOrder
    obtain ⟨rfl, rfl⟩ := Prod.mk.inj hEntry
    have hBlanks := (List.mem_filter.mp hPosted).2
    cases hTask : posted.task with
    | cancelWallpaperTimeout =>
        rw [hTask] at hOrders
        exact h.filed.cancelsLast h.lease.sorted hOrders
    | scheduleWallpaperTimeout => simp [hTask] at hArms
    | pendingFrame => simp [hTask, Task.blanks] at hBlanks
    | blankingTransition => simp [hTask, Task.blanks] at hBlanks

namespace Simulation

open World

variable {settings : Settings} {options : SimulationOptions} {simulation : Simulation}

/-- Whether the alarm goes off as all that is due is handled. -/
def rings (simulation : Simulation) : Bool :=
  let world := runDueTasks simulation.world
  (world.host.alarm.fireIfDue world.now).2

/-- The tasks come before the alarm, so it is only asked for once no order is left. -/
theorem dozes_of_rings (h : simulation.world.Leased) (hRings : simulation.rings = true) :
    (runDueTasks simulation.world).controller.state.isLowPower = true := by
  have hDone : (runDueTasks simulation.world).host.scheduler.dueCount = 0 :=
    dueCount_runTasks _ h.steady List.countP_le_length
  have hLeased : (runDueTasks simulation.world).Leased := (handed_runTasks _ _).leads.leased h
  have hDue : (runDueTasks simulation.world).host.alarm.isDue
      (runDueTasks simulation.world).now = true := by
    by_contra hLater
    simp [rings, Alarm.fireIfDue, hLater] at hRings
  refine hLeased.lease.arms ?_
  unfold Lease.arms
  rw [hLeased.orders_eq_nil hDone]
  exact Alarm.isScheduled_of_isDue hDue

/-- The alarm belongs to the low-power states, at every boundary of a run and inside the event loop.
Outside of them it may be armed or have an order queued to arm it, but then an order to disarm it is
queued last; the wallpaper has not had its time; and whenever the event loop goes on from here, the
alarm does not go off. -/
theorem wallpaper_alarm_dozes (h : Reachable settings options simulation.world) :
    (simulation.world.host.alarm.isScheduled = true ∨
        .scheduleWallpaperTimeout ∈ simulation.world.host.scheduler.pendingTasks →
      simulation.world.controller.state.isLowPower = true ∨
        simulation.world.host.scheduler.CancelsLast) ∧
    (simulation.world.controller.wallpaperTimedOut = true →
      simulation.world.controller.state.isLowPower = true) ∧
    ∀ time, (simulation.moveClock time).rings = true →
      (runDueTasks (simulation.moveClock time).world).controller.state.isLowPower = true := by
  have hLeased := h.leased
  refine ⟨fun hArmed => ?_, hLeased.lease.timedOut, fun time => ?_⟩
  · cases hArms : simulation.world.lease.arms with
    | true => exact Or.inl (hLeased.lease.arms hArms)
    | false => exact Or.inr (hLeased.cancelsLast hArms hArmed)
  · exact dozes_of_rings ((leads_moveClock simulation time).leased hLeased)

/-- The always-on display with an ambient wallpaper is left again before the alarm is armed. -/
def glanced : Option Simulation :=
  play { doze := { alwaysOn := true } } {}
    [.perform (.panelExpansion 0), .perform (.ambientWallpaper true),
      .perform (.transition .aod none), .perform (.transition .bouncerScrimmed none)]

set_option maxRecDepth 100000 in
/-- The order to arm the alarm is queued, and behind it the one to disarm it. -/
theorem wallpaper_alarm_dozes_of_glanced : ∃ simulation, glanced = some simulation ∧
    simulation.world.host.scheduler.pendingTasks =
      [.scheduleWallpaperTimeout, .cancelWallpaperTimeout] ∧
    simulation.world.controller.state = .bouncerScrimmed ∧
    simulation.world.host.scheduler.CancelsLast ∧
    simulation.world.controller.wallpaperTimedOut = false ∧
    ∀ time, (simulation.moveClock time).rings = true →
      (runDueTasks (simulation.moveClock time).world).controller.state.isLowPower = true := by
  have hPlayed : glanced.any (fun simulation =>
      (simulation.world.host.scheduler.queue =
        [⟨0, 1, .scheduleWallpaperTimeout⟩, ⟨0, 2, .cancelWallpaperTimeout⟩]) &&
      (simulation.world.controller.state = .bouncerScrimmed)) = true := by
    decide +kernel
  obtain ⟨simulation, hSimulation, hFacts⟩ := (Option.any_eq_true _ _).mp hPlayed
  simp only [Bool.and_eq_true, decide_eq_true_eq] at hFacts
  obtain ⟨hQueue, hState⟩ := hFacts
  have hReachable := (reached_play hSimulation).reachable
  obtain ⟨hArmed, hTimedOut, hRings⟩ := wallpaper_alarm_dozes hReachable
  have hTasks : simulation.world.host.scheduler.pendingTasks =
      [.scheduleWallpaperTimeout, .cancelWallpaperTimeout] := by
    rw [Scheduler.pendingTasks, hReachable.leased.filed.sorted_eq (.refl _), hQueue]
    · rfl
    · rw [hQueue]
      decide
  have hWakes : simulation.world.controller.state.isLowPower = false := by
    rw [hState]
    rfl
  refine ⟨simulation, hSimulation, hTasks, hState, ?_, ?_, hRings⟩
  · refine (hArmed (Or.inr ?_)).resolve_left ?_
    · simp [hTasks]
    · simp [hWakes]
  · exact Bool.of_not_eq_true fun hOut => by simp [hTimedOut hOut] at hWakes

end Simulation

end Scrim
