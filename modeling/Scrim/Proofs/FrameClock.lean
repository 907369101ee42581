import Scrim.Simulation.EventLoop

/-!
# The frame clock

Frames are told by a clock of 64 bits. It finds the first multiple of the interval from an instant
on, cut off to what fits (`Simulation.alignUp_eq_mod`). On an instant that is itself past the range
it therefore names a time long ago, so that a frame is due at once.

Two facts are all that the event loop needs of this, on whatever instant the clock stands. A frame
that is waited for is due when its time has come (`Simulation.Regular.frameTime_moveClock_le`), and
until then the clock does not move it, if the interval fits the frame clock
(`Simulation.Regular.frameTime_moveClock`).
-/

namespace Scrim.Simulation

/-! ## Multiples -/

/-- How many nanoseconds the frame clock tells apart. -/
def clockRange : Nat := UInt64.size

/-- Of two multiples, one that is less than a step beyond the other is not beyond it. -/
theorem le_of_dvd_of_lt_add {step a b : Nat} (ha : step ∣ a) (hb : step ∣ b) (h : a < b + step) :
    a ≤ b := by
  refine Nat.le_of_not_lt fun hBeyond => ?_
  have hStep := Nat.le_of_dvd (by omega) (Nat.dvd_sub ha hb)
  omega

variable {step : UInt64}

theorem toNat_pos (h : step ≠ 0) : 0 < step.toNat :=
  Nat.pos_of_ne_zero fun hZero => h (UInt64.toNat_inj.mp hZero)

/-- The quotient that is rounded up does not overflow: it counts the steps to the first multiple. -/
theorem toNat_divCeil (h : step ≠ 0) (time : UInt64) :
    time.toNat ≤ (divCeil time step).toNat * step.toNat ∧
      (divCeil time step).toNat * step.toNat < time.toNat + step.toNat := by
  have hStep := toNat_pos h
  have hTime := time.toNat_lt
  have hSplit := Nat.div_add_mod time.toNat step.toNat
  have hRest := Nat.mod_lt time.toNat hStep
  have hQuotient := Nat.div_le_self time.toNat step.toNat
  unfold divCeil
  split
  · next hSome =>
    have hPositive : 0 < time.toNat % step.toNat := by
      simpa [UInt64.lt_iff_toNat_lt] using hSome
    have hOne : 1 < step.toNat := by omega
    have hHalf : time.toNat / step.toNat * 2 ≤ time.toNat := by
      calc time.toNat / step.toNat * 2 ≤ time.toNat / step.toNat * step.toNat :=
            Nat.mul_le_mul_left _ hOne
        _ ≤ time.toNat := Nat.div_mul_le_self _ _
    have hSum : (time / step + 1).toNat = time.toNat / step.toNat + 1 := by
      rw [UInt64.toNat_add, UInt64.toNat_div]
      exact Nat.mod_eq_of_lt (by simp; omega)
    rw [hSum, Nat.add_mul, Nat.mul_comm]
    omega
  · next hNone =>
    have hZero : time.toNat % step.toNat = 0 := by
      simpa [UInt64.lt_iff_toNat_lt] using hNone
    rw [UInt64.toNat_div, Nat.mul_comm]
    omega

/-- The first multiple from an instant on, cut off to 64 bits. -/
theorem alignUp_eq_mod (h : step ≠ 0) (time : Nat) : ∃ slot, step.toNat ∣ slot ∧
    time % clockRange ≤ slot ∧ slot < time % clockRange + step.toNat ∧
    alignUp time step = slot % clockRange := by
  obtain ⟨hLe, hLt⟩ := toNat_divCeil h time.toUInt64
  rw [Nat.toUInt64_eq, UInt64.toNat_ofNat'] at hLe hLt
  refine ⟨_, Nat.dvd_mul_left _ _, hLe, hLt, ?_⟩
  rw [alignUp, UInt64.toNat_mul]
  rfl

theorem alignUp_lt (time : Nat) (step : UInt64) : alignUp time step < clockRange :=
  UInt64.toNat_lt _

theorem toNat_lt_clockRange (step : UInt64) : step.toNat < clockRange :=
  step.toNat_lt

/-- A multiple that fits is its own first multiple. -/
theorem alignUp_of_dvd (h : step ≠ 0) {time slot : Nat} (hSlot : step.toNat ∣ slot)
    (hRange : slot < clockRange) (hTime : time ≤ slot) (hFirst : slot < time + step.toNat) :
    alignUp time step = slot := by
  obtain ⟨other, hOther, hLe, hLt, hAlign⟩ := alignUp_eq_mod h time
  rw [Nat.mod_eq_of_lt (Nat.lt_of_le_of_lt hTime hRange)] at hLe hLt
  have hUp := le_of_dvd_of_lt_add hOther hSlot (by omega)
  have hDown := le_of_dvd_of_lt_add hSlot hOther (by omega)
  rw [hAlign, Nat.le_antisymm hUp hDown, Nat.mod_eq_of_lt hRange]

/-- Where the frame clock does not overflow, it finds the first multiple. -/
theorem alignUp_spec (h : step ≠ 0) {time : Nat} (noOverflow : time + step.toNat ≤ clockRange) :
    step.toNat ∣ alignUp time step ∧ time ≤ alignUp time step ∧
      alignUp time step < time + step.toNat := by
  have hStep := toNat_pos h
  obtain ⟨slot, hSlot, hLe, hLt, hAlign⟩ := alignUp_eq_mod h time
  rw [Nat.mod_eq_of_lt (by omega)] at hLe hLt
  rw [Nat.mod_eq_of_lt (by omega)] at hAlign
  rw [hAlign]
  exact ⟨hSlot, hLe, hLt⟩

/-- What the frame clock puts off is a multiple that fits. -/
theorem dvd_alignUp_of_lt (h : step ≠ 0) {time : Nat} (hLater : time < alignUp time step) :
    step.toNat ∣ alignUp time step ∧ alignUp time step < time + step.toNat := by
  obtain ⟨slot, hSlot, hLe, hLt, hAlign⟩ := alignUp_eq_mod h time
  have hTime := Nat.mod_le time clockRange
  have hStep := toNat_lt_clockRange step
  have hRange : slot < clockRange := by
    refine Nat.lt_of_not_le fun hBeyond => ?_
    have hMod := Nat.mod_lt time (show 0 < clockRange by decide)
    have hCut : slot % clockRange = slot - clockRange := by
      rw [Nat.mod_eq_sub_mod (by omega), Nat.mod_eq_of_lt (by omega)]
    omega
  rw [hAlign, Nat.mod_eq_of_lt hRange] at hLater ⊢
  exact ⟨hSlot, by omega⟩

theorem alignUp_alignUp (h : step ≠ 0) {time : Nat} (hLater : time < alignUp time step) :
    alignUp (alignUp time step) step = alignUp time step := by
  have hStep := toNat_pos h
  obtain ⟨hSlot, -⟩ := dvd_alignUp_of_lt h hLater
  exact alignUp_of_dvd h hSlot (alignUp_lt time step) (Nat.le_refl _) (by omega)

/-- No multiple that fits comes within a step after an instant that the frame clock does not put
off. -/
theorem add_le_of_dvd (h : step ≠ 0) {last slot : Nat} (hLast : alignUp last step ≤ last)
    (hSlot : step.toNat ∣ slot) (hRange : slot < clockRange) (hLater : last < slot) :
    last + step.toNat ≤ slot := by
  refine Nat.le_of_not_lt fun hWithin => ?_
  rw [alignUp_of_dvd h hSlot hRange (Nat.le_of_lt hLater) hWithin] at hLast
  omega

/-! ## Intervals -/

theorem toNat_ticks {interval : Nat} (h : 0 < interval) :
    (ticks interval).toNat = interval % clockRange := by
  rw [ticks, Nat.max_eq_left h, Nat.toUInt64_eq, UInt64.toNat_ofNat']
  rfl

theorem toNat_ticks_of_lt {interval : Nat} (h : 0 < interval) (hRange : interval < clockRange) :
    (ticks interval).toNat = interval := by
  rw [toNat_ticks h, Nat.mod_eq_of_lt hRange]

/-- An interval that fits the frame clock is something to go by. -/
theorem ticks_ne_zero {interval : Nat} (hRange : interval < clockRange) : ticks interval ≠ 0 := by
  intro hZero
  have hNone : (ticks interval).toNat = 0 := congrArg UInt64.toNat hZero
  rw [ticks, Nat.toUInt64_eq, UInt64.toNat_ofNat'] at hNone
  change max interval 1 % clockRange = 0 at hNone
  rw [Nat.mod_eq_of_lt (Nat.max_lt.mpr ⟨hRange, by decide⟩)] at hNone
  omega

/-- Of an interval beyond the range the frame clock keeps what is left over: nothing, or 16 ms. -/
example : ticks (2 ^ 64) = 0 ∧ (ticks (2 ^ 64 + Time.ofMillis 16)).toNat = Time.ofMillis 16 := by
  decide +kernel

/-! ## Frames -/

/-- Frames are some time apart, on the frame clock as well, and the last one is past and was not
put off. -/
structure Regular (simulation : Simulation) : Prop where
  interval : 0 < simulation.frameInterval
  ticks : ticks simulation.frameInterval ≠ 0
  settled : ∀ last, simulation.lastFrame = some last →
    alignUp last (Simulation.ticks simulation.frameInterval) ≤ last
  past : ∀ last, simulation.lastFrame = some last → last ≤ simulation.now

variable {simulation : Simulation}

theorem nextFrameTime_eq (h : ticks simulation.frameInterval ≠ 0) :
    simulation.nextFrameTime = some simulation.frameTime :=
  if_neg h

theorem eq_frameTime {frame : Nat} (h : simulation.nextFrameTime = some frame) :
    frame = simulation.frameTime := by
  unfold nextFrameTime at h
  split at h
  · cases h
  · exact (Option.some.inj h).symm

/-- The next frame is the first multiple from now on, or one interval after the last frame where
that multiple does not come later than it. -/
theorem frameTime_cases (simulation : Simulation) :
    (simulation.frameTime = alignUp simulation.now (ticks simulation.frameInterval) ∧
      ∀ last, simulation.lastFrame = some last → last < simulation.frameTime) ∨
    ∃ last, simulation.lastFrame = some last ∧
      alignUp simulation.now (ticks simulation.frameInterval) ≤ last ∧
      simulation.frameTime = last + simulation.frameInterval := by
  unfold frameTime
  cases hLast : simulation.lastFrame with
  | none => exact Or.inl ⟨rfl, nofun⟩
  | some last =>
      dsimp only
      split
      · next hBefore => exact Or.inr ⟨last, rfl, hBefore, rfl⟩
      · next hAfter =>
        refine Or.inl ⟨rfl, fun other hOther => ?_⟩
        obtain rfl := Option.some.inj hOther
        exact Nat.lt_of_not_le hAfter

theorem frameTime_congr {other : Simulation} (hNow : other.now = simulation.now)
    (hInterval : other.frameInterval = simulation.frameInterval)
    (hLast : other.lastFrame = simulation.lastFrame) : other.frameTime = simulation.frameTime := by
  unfold frameTime
  rw [hNow, hInterval, hLast]

/-- A frame comes after the last one. -/
theorem lt_frameTime (hInterval : 0 < simulation.frameInterval) {last : Nat}
    (hLast : simulation.lastFrame = some last) : last < simulation.frameTime := by
  rcases simulation.frameTime_cases with ⟨-, hLater⟩ | ⟨other, hOther, -, hTime⟩
  · exact hLater last hLast
  · obtain rfl := Option.some.inj (hLast.symm.trans hOther)
    omega

/-- A frame that is due is not put off by the frame clock. -/
theorem alignUp_le_of_due (h : simulation.frameTime ≤ simulation.now) :
    alignUp simulation.now (ticks simulation.frameInterval) ≤ simulation.now := by
  rcases simulation.frameTime_cases with ⟨hTime, -⟩ | ⟨last, -, hBefore, hTime⟩
  · omega
  · omega

namespace Regular

theorem moveClock (h : simulation.Regular) (time : Nat) :
    (simulation.moveClock time).Regular where
  interval := h.interval
  ticks := h.ticks
  settled := h.settled
  past last hLast := Nat.le_trans (h.past last hLast) (Nat.le_max_left _ _)

/-- Where the frame clock does not overflow, the next frame falls on the first multiple of the
interval from now on that comes after the last frame. -/
theorem frameTime_least (h : simulation.Regular)
    (noOverflow : simulation.now + simulation.frameInterval < clockRange) :
    simulation.frameInterval ∣ simulation.frameTime ∧ simulation.now ≤ simulation.frameTime ∧
      ∀ time, simulation.frameInterval ∣ time → simulation.now ≤ time →
        (∀ last, simulation.lastFrame = some last → last < time) → simulation.frameTime ≤ time := by
  have hStep := toNat_ticks_of_lt h.interval (by omega)
  obtain ⟨hSlot, hLe, hLt⟩ := alignUp_spec h.ticks
    (show simulation.now + (Simulation.ticks simulation.frameInterval).toNat ≤ clockRange by omega)
  rw [hStep] at hSlot hLt
  rcases simulation.frameTime_cases with ⟨hTime, -⟩ | ⟨last, hLast, hBefore, hTime⟩
  · rw [hTime]
    exact ⟨hSlot, hLe, fun time hAligned hNow _ => le_of_dvd_of_lt_add hSlot hAligned (by omega)⟩
  · -- the last frame was drawn just now
    have hPast := h.past last hLast
    have hNow : alignUp simulation.now (Simulation.ticks simulation.frameInterval) = last := by
      omega
    rw [hNow] at hSlot
    have hNext := Nat.dvd_add hSlot (Nat.dvd_refl simulation.frameInterval)
    rw [hTime]
    refine ⟨hNext, by omega, fun time hAligned _ hAfter => ?_⟩
    have hLater := hAfter last hLast
    exact le_of_dvd_of_lt_add hNext hAligned (by omega)

/-- An interval after the last frame is not put off either. -/
theorem alignUp_add_le (h : simulation.Regular) {last : Nat}
    (hLast : simulation.lastFrame = some last) :
    alignUp (last + simulation.frameInterval) (Simulation.ticks simulation.frameInterval) ≤
      last + simulation.frameInterval := by
  refine Nat.le_of_not_lt fun hLater => ?_
  obtain ⟨hSlot, hFirst⟩ := dvd_alignUp_of_lt h.ticks hLater
  have hRange := alignUp_lt (last + simulation.frameInterval)
    (Simulation.ticks simulation.frameInterval)
  have hStep := toNat_ticks_of_lt h.interval (by omega)
  -- the multiple before it comes after the last frame as well, and too early
  have hBefore := Nat.dvd_sub hSlot (Nat.dvd_refl _)
  have hNear := add_le_of_dvd h.ticks (h.settled last hLast) hBefore (by omega) (by omega)
  omega

/-- A frame that is waited for is due when its time has come. -/
theorem frameTime_moveClock_le (h : simulation.Regular) :
    (simulation.moveClock simulation.frameTime).frameTime ≤
      (simulation.moveClock simulation.frameTime).now := by
  have hClock : (simulation.moveClock simulation.frameTime).now =
      max simulation.now simulation.frameTime := rfl
  by_cases hDue : simulation.frameTime ≤ simulation.now
  · rw [Nat.max_eq_left hDue] at hClock
    rw [frameTime_congr hClock rfl rfl, hClock]
    exact hDue
  · rw [Nat.max_eq_right (Nat.le_of_not_le hDue)] at hClock
    have hMoved := (simulation.moveClock simulation.frameTime).frameTime_cases
    rw [hClock] at hMoved ⊢
    rcases simulation.frameTime_cases with ⟨hFirst, hLater⟩ | ⟨last, hLast, -, hNext⟩
    · -- a multiple that is waited for is its own first multiple
      have hSame : alignUp simulation.frameTime (Simulation.ticks simulation.frameInterval) =
          simulation.frameTime := by
        rw [hFirst] at hDue ⊢
        exact alignUp_alignUp h.ticks (Nat.lt_of_not_le hDue)
      rcases hMoved with ⟨hTime, -⟩ | ⟨last, hLast, hBefore, -⟩
      · exact Nat.le_of_eq (hTime.trans hSame)
      · have hAfter := hLater last hLast
        have hBack : simulation.frameTime ≤ last := hSame ▸ hBefore
        omega
    · have hKept := h.alignUp_add_le hLast
      rw [← hNext] at hKept
      rcases hMoved with ⟨hTime, -⟩ | ⟨other, hOther, -, hTime⟩
      · exact Nat.le_trans (Nat.le_of_eq hTime) hKept
      · obtain rfl := Option.some.inj (hLast.symm.trans hOther)
        exact Nat.le_of_eq (hTime.trans hNext.symm)

end Regular

/-- What the frame clock finds by the next interval, after a frame that it does not put off, is
the end of that interval. -/
theorem alignUp_eq_add (h : step ≠ 0) {last time : Nat} (hLast : alignUp last step ≤ last)
    (hTime : time ≤ last + step.toNat) (hLater : last < alignUp time step) :
    alignUp time step = last + step.toNat := by
  have hStep := toNat_lt_clockRange step
  by_cases hAhead : time < alignUp time step
  · obtain ⟨hSlot, hFirst⟩ := dvd_alignUp_of_lt h hAhead
    have hRange := alignUp_lt time step
    have hFar := add_le_of_dvd h hLast hSlot hRange hLater
    -- the multiple before it does not come after the last frame
    refine Nat.le_antisymm (Nat.le_of_not_lt fun hBeyond => ?_) hFar
    have hBefore := Nat.dvd_sub hSlot (Nat.dvd_refl step.toNat)
    have hNear := add_le_of_dvd h hLast hBefore (by omega) (by omega)
    omega
  · obtain ⟨slot, hSlot, hLe, hLt, hAlign⟩ := alignUp_eq_mod h time
    by_cases hRange : slot < clockRange
    · rw [Nat.mod_eq_of_lt hRange] at hAlign
      have hFar := add_le_of_dvd h hLast (hAlign ▸ hSlot) (by omega) hLater
      omega
    · -- the multiple is cut off to less than a step: no frame was drawn but at instant 0
      have hMod := Nat.mod_lt time (show 0 < clockRange by decide)
      have hCut : slot % clockRange = slot - clockRange := by
        rw [Nat.mod_eq_sub_mod (by omega), Nat.mod_eq_of_lt (by omega)]
      have hFar := add_le_of_dvd h hLast (Nat.dvd_refl _) hStep (by omega)
      rw [Nat.mod_eq_of_lt (by omega)] at hLt
      have hBack := le_of_dvd_of_lt_add hSlot (Nat.dvd_refl step.toNat) (by omega)
      omega

/-- Until the next frame is due the clock does not move it, if the interval fits the frame
clock. -/
theorem Regular.frameTime_moveClock (h : simulation.Regular)
    (hRange : simulation.frameInterval < clockRange) {time : Nat} (hNow : simulation.now ≤ time)
    (hTime : time ≤ simulation.frameTime) :
    (simulation.moveClock time).frameTime = simulation.frameTime := by
  have hClock : (simulation.moveClock time).now = time := Nat.max_eq_right hNow
  have hMoved := (simulation.moveClock time).frameTime_cases
  rw [hClock] at hMoved
  rcases simulation.frameTime_cases with ⟨hFirst, hLater⟩ | ⟨last, hLast, -, hNext⟩
  · by_cases hDue : simulation.frameTime ≤ simulation.now
    · exact frameTime_congr (hClock.trans (by omega)) rfl rfl
    · -- the first multiple from now on is the first one from then on
      rw [hFirst] at hDue hTime
      obtain ⟨hSlot, hNear⟩ := dvd_alignUp_of_lt h.ticks (Nat.lt_of_not_le hDue)
      have hSame : alignUp time (Simulation.ticks simulation.frameInterval) =
          simulation.frameTime := by
        rw [hFirst]
        exact alignUp_of_dvd h.ticks hSlot (alignUp_lt _ _) hTime (by omega)
      rcases hMoved with ⟨hMoved, -⟩ | ⟨last, hLast, hBefore, -⟩
      · exact hMoved.trans hSame
      · have hAfter := hLater last hLast
        have hBack : simulation.frameTime ≤ last := hSame ▸ hBefore
        omega
  · have hStep := toNat_ticks_of_lt h.interval hRange
    rcases hMoved with ⟨hMoved, hLater⟩ | ⟨other, hOther, -, hMoved⟩
    · have hAfter := hLater last hLast
      rw [hMoved] at hAfter
      have hEnd := alignUp_eq_add h.ticks (h.settled last hLast) (by omega) hAfter
      exact hMoved.trans (hEnd.trans (by omega))
    · obtain rfl := Option.some.inj (hLast.symm.trans hOther)
      exact hMoved.trans hNext.symm

end Scrim.Simulation
