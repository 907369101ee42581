import Scrim.Animation
import Scrim.Proofs.Number

/-!
# The last frame of an animation

An animation is over once its progress has reached one, and the look that its last frame gives
is then its sample at one: the tint is that of its end, and the opacity is what single precision
makes of it (`Animation.look_of_isOver`). Of the arithmetic only the value of the curve at one,
the blend at ratio one and the order of numbers are needed.
-/

namespace Scrim

/-! ## The blend at its end -/

namespace Color

theorem ofChannels_self (color : Color) :
    ofChannels color.alpha color.red color.green color.blue = color := by
  rcases color with ⟨argb⟩
  simp only [ofChannels, alpha, red, green, blue, Color.mk.injEq]
  apply UInt32.toBitVec_inj.mp
  apply BitVec.eq_of_getLsbD_eq
  intro i hi
  simp only [UInt32.toBitVec_or, UInt32.toBitVec_shiftLeft, UInt8.toBitVec_toUInt32,
    UInt32.toBitVec_toUInt8, UInt32.toBitVec_shiftRight, BitVec.getLsbD_or]
  simp
  -- each bit comes from the byte that it lies in
  grind

theorem channel_mul_zero (channel : UInt8) : channel.toFloat32 * (1 - 1) = 0 := by
  have h : ∀ n : Fin 256, (UInt8.ofFin n).toFloat32 * (1 - 1) = 0 := by decide +kernel
  exact h channel.toFin

theorem channel_mul_one (channel : UInt8) :
    (0 + channel.toFloat32 * 1 : Float32).toUInt8 = channel := by
  have h : ∀ n : Fin 256,
      (0 + (UInt8.ofFin n).toFloat32 * 1 : Float32).toUInt8 = UInt8.ofFin n := by decide +kernel
  exact h channel.toFin

theorem blend_one (a b : Color) : a.blend b 1 = b := by
  simp only [blend, mixChannel, channel_mul_zero, channel_mul_one, ofChannels_self]

end Color

/-! ## The end of an animation -/

theorem Curve.decelerate_one : Curve.decelerate 1 = 1 := by
  decide +kernel

namespace Animation

variable {animation : Animation} {now : Nat}

theorem progress_of_isOver (h : animation.isOver now = true) : animation.progress now = 1 := by
  have hEnd : 1 ≤ animation.progress now := of_decide_eq_true (Bool.and_eq_true_iff.mp h).2
  unfold progress at hEnd ⊢
  split
  · rfl
  · next hMoves =>
    rw [if_neg hMoves] at hEnd
    extract_lets at hEnd ⊢
    split
    · next hShare =>
      rw [if_pos hShare] at hEnd
      exact absurd hEnd (not_le_of_lt hShare)
    · rfl

/-- The last frame shows the sample at one, which has the tint of the end. -/
theorem look_of_isOver (h : animation.isOver now = true) :
    animation.look now = ⟨(animation.sample 1).alpha, animation.stop.tint⟩ := by
  have hTint : (animation.sample 1).tint = animation.stop.tint := by
    simp only [sample, Curve.decelerate_one, Color.blend_one]
  rw [look, progress_of_isOver h, ← hTint]

theorem constrain_sample (progress : Float32) :
    Curve.constrain (animation.sample progress).alpha 0 1 = (animation.sample progress).alpha :=
  Curve.constrain_constrain _

end Animation

end Scrim
