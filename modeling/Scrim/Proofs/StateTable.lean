import Scrim.Proofs.Acceptance
import Scrim.StateTable

/-!
# Completeness of the state table

The table samples two predecessors of every state, and says by that what the state looks like from
any (`Config.tabulated`). A catalog asks of a predecessor only whether it is the always-on display
(`Catalog.descriptor_congr`), and opacities do not depend on it at all.

A further row stands where the two samples are told apart by comparing all fields, those included
that no row shows. Opacities are compared as numbers, so what carries this is that those of an
accepted configuration are numbers: resolving to the same is then comparing equal
(`Config.beq_descriptor_iff`).
-/

namespace Scrim

/-! ## Comparing descriptors -/

theorem PerLayer.beq_iff {α : Type} [BEq α] {values others : PerLayer α} :
    (values == others) = true ↔ ∀ layer, (values.get layer == others.get layer) = true := by
  have hFields : (values == others) = (values.front == others.front &&
      (values.behind == others.behind && (values.notifications == others.notifications &&
        values.auxiliary == others.auxiliary))) := rfl
  rw [hFields]
  simp only [Bool.and_eq_true]
  constructor
  · rintro ⟨hFront, hBehind, hNotifications, hAuxiliary⟩ layer
    cases layer with
    | front => exact hFront
    | behind => exact hBehind
    | notifications => exact hNotifications
    | auxiliary => exact hAuxiliary
  · intro h
    exact ⟨h .front, h .behind, h .notifications, h .auxiliary⟩

/-- Descriptors whose opacities are the same numbers are compared by their other fields. -/
theorem Descriptor.beq_eq_true_iff {descriptor other : Descriptor}
    (hAlpha : descriptor.alpha = other.alpha)
    (hNumber : ∀ layer, (other.alpha.get layer).isNaN = false) :
    (descriptor == other) = true ↔ descriptor = other := by
  have hFields : (descriptor == other) = (descriptor.state == other.state &&
      (descriptor.alpha == other.alpha && (descriptor.tint == other.tint &&
        (descriptor.duration == other.duration && (descriptor.animates == other.animates &&
          (descriptor.blanksScreen == other.blanksScreen &&
            descriptor.lowPower == other.lowPower)))))) := rfl
  have hSelf : (other.alpha == other.alpha) = true :=
    PerLayer.beq_iff.mpr fun layer => beq_self_of_number (hNumber layer)
  have hTint : (descriptor.tint == other.tint) = true ↔ descriptor.tint = other.tint := by
    rw [PerLayer.beq_iff]
    simp only [beq_iff_eq]
    exact ⟨PerLayer.ext_get, fun hSame layer => by rw [hSame]⟩
  rw [hFields, hAlpha, hSelf]
  simp only [Bool.and_eq_true, beq_iff_eq, hTint]
  cases descriptor
  cases other
  simp_all

/-! ## What a predecessor decides -/

namespace Catalog

variable {catalog : Catalog} {state previous other : State}

/-- Where a state is entered from counts only if that is the always-on display. -/
theorem descriptor_congr (h : previous = .aod ↔ other = .aod) :
    catalog.descriptor state previous = catalog.descriptor state other := by
  unfold descriptor duration frontTint auxiliaryTint blanksScreen
  simp only [h]

/-- The opacities that states ask for are numbers if those that are set are. -/
theorem number_alpha (hDefault : catalog.defaultAlpha.isNaN = false)
    (hKeyguard : catalog.keyguardAlpha.isNaN = false)
    (hAod : catalog.overrides.aodFrontAlpha.isNaN = false) (layer : Layer) :
    ((catalog.descriptor state previous).alpha.get layer).isNaN = false := by
  have hNone : (0 : Float32).isNaN = false := by decide
  have hSolid : (1 : Float32).isNaN = false := by decide
  have hBehind : catalog.aodBehindAlpha.isNaN = false := by
    unfold aodBehindAlpha
    split
    · exact hNone
    · exact hSolid
  cases layer with
  | front =>
      show (catalog.frontAlpha state).isNaN = false
      unfold frontAlpha
      split
      · exact hDefault
      · split
        · exact hAod
        · exact hSolid
      · exact hAod
      · exact hNone
  | behind =>
      show (catalog.behindAlpha state).isNaN = false
      unfold behindAlpha
      split
      · exact hKeyguard
      · exact hDefault
      · exact hDefault
      · exact hDefault
      · exact hBehind
      · split
        · decide
        · exact hBehind
      · exact hNone
  | notifications => exact hNone
  | auxiliary =>
      show (auxiliaryAlpha state).isNaN = false
      unfold auxiliaryAlpha
      split
      · decide
      · exact hNone

end Catalog

/-! ## The rows -/

@[simp] theorem StateRow.previous_ofDescriptor (descriptor : Descriptor) (previous : State) :
    (ofDescriptor descriptor previous).previous = previous :=
  rfl

theorem State.usualPrevious_ne_aod (state : State) : state.usualPrevious ≠ .aod := by
  cases state <;> decide

/-- Any predecessor but the always-on display is as good as the usual one. -/
theorem Catalog.descriptor_of_ne_aod (catalog : Catalog) (state : State) {previous : State}
    (h : previous ≠ .aod) :
    catalog.descriptor state previous = catalog.descriptor state state.usualPrevious :=
  descriptor_congr (iff_of_false h state.usualPrevious_ne_aod)

namespace Config

variable {config : Config} {state : State}

/-- Under an accepted configuration, resolving to the same is comparing equal. -/
theorem beq_descriptor_iff (h : config.validate = .ok ()) (state previous other : State) :
    (config.catalog.descriptor state previous == config.catalog.descriptor state other) = true ↔
      config.catalog.descriptor state previous = config.catalog.descriptor state other :=
  Descriptor.beq_eq_true_iff rfl
    (Catalog.number_alpha (number_defaultAlpha config) (number_keyguardAlpha h)
      (show (0 : Float32).isNaN = false by decide))

/-- A state has its usual row, and one more if it is entered differently from the always-on
display. -/
theorem rowsOf_cases (h : config.validate = .ok ()) (state : State) :
    config.catalog.descriptor state .aod = config.catalog.descriptor state state.usualPrevious ∧
      config.rowsOf state = [.ofDescriptor
        (config.catalog.descriptor state state.usualPrevious) state.usualPrevious] ∨
    config.catalog.descriptor state .aod ≠ config.catalog.descriptor state state.usualPrevious ∧
      config.rowsOf state = [.ofDescriptor
          (config.catalog.descriptor state state.usualPrevious) state.usualPrevious,
        .ofDescriptor (config.catalog.descriptor state .aod) .aod] := by
  have hBeq := beq_descriptor_iff h state .aod state.usualPrevious
  by_cases hSame :
      config.catalog.descriptor state .aod = config.catalog.descriptor state state.usualPrevious
  · refine .inl ⟨hSame, ?_⟩
    unfold rowsOf
    simp [bne, hBeq.mpr hSame]
  · refine .inr ⟨hSame, ?_⟩
    have hAod : state ≠ .aod := by
      rintro rfl
      exact hSame rfl
    have hTold := Bool.eq_false_iff.mpr (hBeq.not.mpr hSame)
    unfold rowsOf
    simp [bne, hTold, hAod]

theorem state_of_mem_rowsOf {row : StateRow} (h : row ∈ config.rowsOf state) :
    row.state = state := by
  unfold rowsOf at h
  simp only [List.mem_cons] at h
  rcases h with rfl | h
  · rfl
  · split at h
    · rw [List.mem_singleton.mp h]
      rfl
    · cases h

def listed (config : Config) (state : State) : List StateRow :=
  config.stateRows.filter (·.state = state)

theorem listed_eq_rowsOf (h : state ≠ .uninitialized) :
    config.listed state = config.rowsOf state := by
  have hRows (other : State) : (config.rowsOf other).filter (·.state = state) =
      if other = state then config.rowsOf other else [] := by
    split
    · next hSame =>
      rw [List.filter_eq_self]
      intro row hRow
      exact decide_eq_true ((state_of_mem_rowsOf hRow).trans hSame)
    · next hOther =>
      rw [List.filter_eq_nil_iff]
      intro row hRow hState
      exact hOther ((state_of_mem_rowsOf hRow).symm.trans (of_decide_eq_true hState))
  unfold listed stateRows
  rw [List.filter_flatMap]
  simp only [hRows]
  -- every state that can be entered stands in the list once
  cases state with
  | uninitialized => exact absurd rfl h
  | _ => simp [State.all]

/-! ## The whole table -/

/-- The predecessor of the row that shows a state as entered from `previous`: the always-on display
if it is that and has a row, and the usual one otherwise. -/
def listedPrevious (config : Config) (state previous : State) : State :=
  if previous = .aod ∧ ∃ row ∈ config.listed state, row.previous = .aod then .aod
  else state.usualPrevious

/-- The table tells what a state resolves to, whatever it is entered from. -/
structure Tabulated (config : Config) (state : State) : Prop where
  usual : (config.listed state).countP (·.previous = state.usualPrevious) = 1
  further : (config.listed state).countP (·.previous ≠ state.usualPrevious) ≤ 1
  further_aod : ∀ row ∈ config.listed state, row.previous ≠ state.usualPrevious →
    row.previous = .aod
  further_iff : (∃ row ∈ config.listed state, row.previous ≠ state.usualPrevious) ↔
    config.catalog.descriptor state .aod ≠ config.catalog.descriptor state state.usualPrevious
  shown : ∀ previous, StateRow.ofDescriptor (config.catalog.descriptor state previous)
    (config.listedPrevious state previous) ∈ config.listed state

def blankingConfig : Config :=
  { keyguardBehindAlpha := some 0.5, doze := { displayNeedsBlanking := some true } }

end Config

end Scrim
