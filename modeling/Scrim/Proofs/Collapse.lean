import Mathlib.Data.List.Destutter
import Scrim.Proofs.Number
import Scrim.Trace

/-!
# Collapsed traces

A trace is collapsed by comparing every frame with the one kept last. The frames that are left
are told without it: they are those that render something else than the frame right before them
in the whole trace (`TraceFrame.collapse_keeps_changes`).

What carries this is that rendering the same is symmetric and transitive, so a dropped frame and
the one kept before it differ from the same frames (`TraceFrame.sameOutput_congr`). It is not
reflexive, since an opacity that is no number differs from itself.
-/

namespace Scrim

/-! ## Rendering the same -/

instance instPartialEquivBEqFloat32 : PartialEquivBEq Float32 where
  symm := beq_symm
  trans hFirst hSecond := (beq_congr hFirst _).trans hSecond

/-- Lists are compared place by place. -/
instance instPartialEquivBEqList {α : Type} [BEq α] [PartialEquivBEq α] :
    PartialEquivBEq (List α) where
  symm {xs ys} h := by
    induction xs generalizing ys with
    | nil =>
        cases ys with
        | nil => rfl
        | cons y ys => cases h
    | cons x xs ih =>
        cases ys with
        | nil => cases h
        | cons y ys =>
            rw [List.cons_beq_cons, Bool.and_eq_true] at h ⊢
            exact ⟨BEq.symm h.1, ih h.2⟩
  trans {xs ys zs} hFirst hSecond := by
    induction xs generalizing ys zs with
    | nil =>
        cases ys with
        | nil => exact hSecond
        | cons y ys => cases hFirst
    | cons x xs ih =>
        cases ys with
        | nil => cases hFirst
        | cons y ys =>
            cases zs with
            | nil => cases hSecond
            | cons z zs =>
                rw [List.cons_beq_cons, Bool.and_eq_true] at hFirst hSecond ⊢
                exact ⟨BEq.trans hFirst.1 hSecond.1, ih hFirst.2 hSecond.2⟩

theorem LayerSample.beq_iff {a b : LayerSample} :
    (a == b) = true ↔ a.layer = b.layer ∧ (a.alpha == b.alpha) = true ∧ a.tint = b.tint := by
  show (a.layer == b.layer && (a.alpha == b.alpha && a.tint == b.tint)) = true ↔ _
  simp

instance : PartialEquivBEq LayerSample where
  symm h := by
    rw [LayerSample.beq_iff] at h ⊢
    exact ⟨h.1.symm, BEq.symm h.2.1, h.2.2.symm⟩
  trans hFirst hSecond := by
    rw [LayerSample.beq_iff] at hFirst hSecond ⊢
    exact ⟨hFirst.1.trans hSecond.1, BEq.trans hFirst.2.1 hSecond.2.1,
      hFirst.2.2.trans hSecond.2.2⟩

namespace TraceFrame

variable {a b : TraceFrame}

theorem sameOutput_iff : a.sameOutput b = true ↔
    a.state = b.state ∧ (a.layers == b.layers) = true ∧ a.visibility = b.visibility ∧
      a.wakeLockHeld = b.wakeLockHeld := by
  simp [sameOutput, and_assoc]

/-- Frames that render the same differ from the same frames. -/
theorem sameOutput_congr (h : a.sameOutput b = true) (c : TraceFrame) :
    a.sameOutput c = b.sameOutput c := by
  obtain ⟨hState, hLayers, hVisibility, hHeld⟩ := sameOutput_iff.mp h
  unfold sameOutput
  rw [hState, BEq.congr_left hLayers, hVisibility, hHeld]

/-! ## What is left -/

/-- Those frames that render something else than the frame right before them, which is `before`
for the first one. -/
def changesAfter (before : Option TraceFrame) (frames : List TraceFrame) : List TraceFrame :=
  (((before :: frames.map some).zip frames).filter fun (before, frame) =>
    before.all (!·.sameOutput frame)).map Prod.snd

/-- The frames that come first or render something else than the frame right before them. -/
def changes (frames : List TraceFrame) : List TraceFrame :=
  changesAfter none frames

theorem changesAfter_cons (before : Option TraceFrame) (frame : TraceFrame)
    (rest : List TraceFrame) : changesAfter before (frame :: rest) =
      if before.all (!·.sameOutput frame) then frame :: changesAfter (some frame) rest
      else changesAfter (some frame) rest := by
  unfold changesAfter
  rw [List.map_cons, List.zip_cons_cons, List.filter_cons, apply_ite (List.map Prod.snd)]
  rfl

/-- The frame right before need not be the one kept last: after dropped frames it is another one,
which differs from the same frames. -/
theorem collapseAfter_eq_changesAfter {kept before : TraceFrame} {frames : List TraceFrame}
    (h : ∀ frame, kept.sameOutput frame = before.sameOutput frame) :
    collapseAfter kept frames = changesAfter (some before) frames := by
  induction frames generalizing kept before with
  | nil => rfl
  | cons frame rest ih =>
      rw [collapseAfter, changesAfter_cons, Option.all_some, ← h]
      cases hSame : kept.sameOutput frame with
      | true => exact ih (sameOutput_congr hSame)
      | false => exact congrArg (frame :: ·) (ih fun _ => rfl)

theorem collapse_eq_changes (frames : List TraceFrame) : collapse frames = changes frames := by
  cases frames with
  | nil => rfl
  | cons first rest =>
      rw [changes, changesAfter_cons]
      exact congrArg (first :: ·) (collapseAfter_eq_changesAfter fun _ => rfl)

/-- What is kept after a frame, together with it, is what is left of the stutter after it. -/
theorem cons_collapseAfter (kept : TraceFrame) (frames : List TraceFrame) :
    kept :: collapseAfter kept frames =
      frames.destutter' (fun a b => a.sameOutput b = false) kept := by
  induction frames generalizing kept with
  | nil => rfl
  | cons frame rest ih =>
      rw [collapseAfter, List.destutter'_cons]
      cases hSame : kept.sameOutput frame with
      | true => exact ih kept
      | false => exact congrArg (kept :: ·) (ih frame)

theorem collapse_eq_destutter (frames : List TraceFrame) :
    collapse frames = frames.destutter fun a b => a.sameOutput b = false := by
  cases frames with
  | nil => rfl
  | cons first rest => exact cons_collapseAfter first rest

/-- A collapsed trace consists of the frames that come first or render something else than the
frame right before them in the trace, whatever was dropped in between. No two frames of it that
follow each other render the same, and it cannot be collapsed further. -/
theorem collapse_keeps_changes (frames : List TraceFrame) :
    collapse frames = changes frames ∧
    (collapse frames).IsChain (fun a b => a.sameOutput b = false) ∧
    collapse (collapse frames) = collapse frames := by
  refine ⟨collapse_eq_changes frames, ?_, ?_⟩
  · rw [collapse_eq_destutter]
    exact List.isChain_destutter _ frames
  · simp only [collapse_eq_destutter]
    exact List.destutter_idem frames _

/-- The two zeros render the same, and what is no number never does. -/
example : (collapse (([0, -0, 0 / 0, 0 / 0] : List Float32).map fun alpha =>
    ⟨0, .unlocked, [⟨.front, alpha, Color.black⟩], none, false⟩)).length = 3 := by
  decide

end TraceFrame

end Scrim
