import Scrim.Curve

/-!
# Numbers

The order of single-precision numbers, and the range that an opacity is brought into. A value is in
range afterwards exactly if it was a number (`Curve.inRange_constrain_iff`): what is not a number
passes unchanged, and is in no range.
-/

namespace Scrim

open Float.Model

/-! ## The order -/

theorem then_compare_swap (e f : Int) (m n : Nat) :
    (compare f e).then (compare n m) = ((compare e f).then (compare m n)).swap := by
  rw [Ordering.swap_then, Int.compare_swap, Nat.compare_swap]

theorem compare_swap (a b : UnpackedFloat) :
    b.compare a = (a.compare b).map Ordering.swap := by
  rcases a with s | _ | s | ⟨s, m, e, hm⟩ <;> rcases b with t | _ | t | ⟨t, n, f, hn⟩
  all_goals try cases s
  all_goals try cases t
  all_goals try rfl
  -- two finite numbers of one sign are left
  · exact congrArg (some ·.swap) (then_compare_swap e f m n)
  · exact congrArg some (then_compare_swap e f m n)

theorem isSome_compare (a b : UnpackedFloat) :
    (a.compare b).isSome = (!a.isNaN && !b.isNaN) := by
  rcases a with s | _ | s | ⟨s, m, e, hm⟩ <;> rcases b with t | _ | t | ⟨t, n, f, hn⟩
  all_goals try cases s
  all_goals try cases t
  all_goals rfl

/-- Equal values compare alike; the two zeros are equal without being the same. -/
theorem compare_congr {a b : UnpackedFloat} (h : a.compare b = some .eq) (c : UnpackedFloat) :
    a.compare c = b.compare c := by
  have same {e f : Int} {m n : Nat} (hSame : (compare e f).then (compare m n) = .eq) :
      e = f ∧ m = n := by
    rw [Ordering.then_eq_eq] at hSame
    exact ⟨Int.compare_eq_eq.mp hSame.1, Nat.compare_eq_eq.mp hSame.2⟩
  have zero (s t : UnpackedFloat.Sign) :
      (UnpackedFloat.zero s).compare c = (UnpackedFloat.zero t).compare c := by
    rcases c with u | _ | u | ⟨u, k, g, hk⟩
    all_goals try cases u
    all_goals rfl
  rcases a with s | _ | s | ⟨s, m, e, hm⟩ <;> rcases b with t | _ | t | ⟨t, n, f, hn⟩
  case zero.zero => exact zero s t
  all_goals try cases s
  all_goals try cases t
  all_goals try cases h
  all_goals try rfl
  -- two finite numbers of one sign are left
  · obtain ⟨rfl, rfl⟩ := same (Ordering.swap_eq_eq.mp (Option.some.inj h))
    rfl
  · obtain ⟨rfl, rfl⟩ := same (Option.some.inj h)
    rfl

section Order

variable {a b : Float32}

theorem lt_iff_compare : a < b ↔ a.toModel.unpack.compare b.toModel.unpack = some .lt := by
  rw [← beq_iff_eq]
  exact ⟨of_decide_eq_true, decide_eq_true⟩

theorem le_iff_compare :
    a ≤ b ↔ (a.toModel.unpack.compare b.toModel.unpack).any (·.isLE) = true :=
  ⟨of_decide_eq_true, decide_eq_true⟩

theorem not_le_of_lt (h : a < b) : ¬b ≤ a := by
  rw [le_iff_compare, compare_swap a.toModel.unpack, lt_iff_compare.mp h]
  exact Bool.false_ne_true

theorem numbers_of_isSome (h : (a.toModel.unpack.compare b.toModel.unpack).isSome = true) :
    a.isNaN = false ∧ b.isNaN = false := by
  rw [isSome_compare, Bool.and_eq_true, Bool.not_eq_true', Bool.not_eq_true'] at h
  exact h

theorem numbers_of_lt (h : a < b) : a.isNaN = false ∧ b.isNaN = false := by
  apply numbers_of_isSome
  rw [lt_iff_compare.mp h]
  rfl

theorem numbers_of_le (h : a ≤ b) : a.isNaN = false ∧ b.isNaN = false := by
  apply numbers_of_isSome
  have hSome := le_iff_compare.mp h
  cases hCompare : a.toModel.unpack.compare b.toModel.unpack with
  | none =>
      rw [hCompare] at hSome
      cases hSome
  | some order => rfl

theorem le_of_not_lt (ha : a.isNaN = false) (hb : b.isNaN = false) (h : ¬a < b) : b ≤ a := by
  have hNumbers : (!a.isNaN && !b.isNaN) = true := by rw [ha, hb]; rfl
  obtain ⟨order, hOrder⟩ :=
    Option.isSome_iff_exists.mp ((isSome_compare a.toModel.unpack b.toModel.unpack).trans hNumbers)
  rw [lt_iff_compare, hOrder] at h
  rw [le_iff_compare, compare_swap a.toModel.unpack, hOrder]
  cases order with
  | lt => exact absurd rfl h
  | eq => rfl
  | gt => rfl

/-- All that does not equal itself is not a number. -/
theorem beq_self_of_number (h : a.isNaN = false) : (a == a) = true := by
  show (a.toModel.unpack.compare a.toModel.unpack == some .eq) = true
  have hNumber : a.toModel.unpack.isNaN = false := h
  generalize a.toModel.unpack = value at hNumber
  rcases value with sign | _ | sign | ⟨sign, mantissa, exponent, hPos⟩
  · cases sign <;> rfl
  · cases hNumber
  · rfl
  · have hSelf : (compare exponent exponent).then (compare mantissa mantissa) = .eq := by simp
    cases sign with
    | positive => exact congrArg (some · == some .eq) hSelf
    | negative => exact congrArg (some ·.swap == some .eq) hSelf

theorem beq_congr (h : (a == b) = true) (c : Float32) : (a == c) = (b == c) := by
  have hEqual : (a.toModel.unpack.compare b.toModel.unpack == some .eq) = true := h
  show (a.toModel.unpack.compare c.toModel.unpack == some .eq) =
    (b.toModel.unpack.compare c.toModel.unpack == some .eq)
  rw [compare_congr (eq_of_beq hEqual)]

theorem beq_symm (h : (a == b) = true) : (b == a) = true := by
  have hEqual : (a.toModel.unpack.compare b.toModel.unpack == some .eq) = true := h
  show (b.toModel.unpack.compare a.toModel.unpack == some .eq) = true
  rw [compare_swap a.toModel.unpack, eq_of_beq hEqual]
  rfl

theorem number_of_beq (h : (a == b) = true) : a.isNaN = false := by
  have hEqual : (a.toModel.unpack.compare b.toModel.unpack == some .eq) = true := h
  have hSome : (a.toModel.unpack.compare b.toModel.unpack).isSome = true := by
    rw [eq_of_beq hEqual]
    rfl
  exact (numbers_of_isSome hSome).1

/-- A number that is told apart from another is another. -/
theorem ne_of_beq_false (hNumber : b.isNaN = false) (h : (a == b) = false) : a ≠ b := by
  rintro rfl
  exact absurd ((beq_self_of_number hNumber).symm.trans h) nofun

end Order

/-! ## The range of opacities -/

def InRange (opacity : Float32) : Prop :=
  0 ≤ opacity ∧ opacity ≤ 1

instance (opacity : Float32) : Decidable (InRange opacity) :=
  inferInstanceAs (Decidable (_ ∧ _))

theorem InRange.number {opacity : Float32} (h : InRange opacity) : opacity.isNaN = false :=
  (numbers_of_le h.1).2

/-- What equals an opacity in range is in range. -/
theorem InRange.of_beq {opacity other : Float32} (h : InRange opacity)
    (hSame : (opacity == other) = true) : InRange other := by
  have hEqual : (opacity.toModel.unpack.compare other.toModel.unpack == some .eq) = true := hSame
  have hCompare (c : UnpackedFloat) :
      other.toModel.unpack.compare c = opacity.toModel.unpack.compare c :=
    (compare_congr (eq_of_beq hEqual) c).symm
  refine ⟨?_, ?_⟩
  · rw [le_iff_compare, compare_swap other.toModel.unpack, hCompare, ← compare_swap,
      ← le_iff_compare]
    exact h.1
  · rw [le_iff_compare, hCompare, ← le_iff_compare]
    exact h.2

namespace Curve

theorem constrain_of_inRange {value : Float32} (h : InRange value) : constrain value 0 1 = value :=
  (if_neg fun hLow => not_le_of_lt hLow h.1).trans (if_neg fun hHigh => not_le_of_lt hHigh h.2)

/-- Bringing an opacity into its range once is enough. -/
theorem constrain_constrain (value : Float32) :
    constrain (constrain value 0 1) 0 1 = constrain value 0 1 := by
  have hZero : constrain 0 0 1 = 0 := by decide
  have hOne : constrain 1 0 1 = 1 := by decide
  by_cases hLow : value < 0
  · have hValue : constrain value 0 1 = 0 := if_pos hLow
    rw [hValue, hZero]
  · by_cases hHigh : value > 1
    · have hValue : constrain value 0 1 = 1 := (if_neg hLow).trans (if_pos hHigh)
      rw [hValue, hOne]
    · have hValue : constrain value 0 1 = value := (if_neg hLow).trans (if_neg hHigh)
      rw [hValue, hValue]

/-- Bringing a number into a range of numbers leaves a number. -/
theorem constrain_number {value : Float32} (h : value.isNaN = false) :
    (constrain value 0 1).isNaN = false := by
  unfold constrain
  split
  · decide
  · split
    · decide
    · exact h

/-- A number is brought into the range, and nothing else is. -/
theorem inRange_constrain_iff {value : Float32} :
    InRange (constrain value 0 1) ↔ value.isNaN = false := by
  constructor
  · intro hRange
    unfold constrain at hRange
    split at hRange
    · next hLow => exact (numbers_of_lt hLow).1
    · split at hRange
      · next hHigh => exact (numbers_of_lt hHigh).2
      · exact (numbers_of_le hRange.1).2
  · intro hNumber
    unfold constrain
    split
    · decide
    · next hLow =>
      split
      · decide
      · next hHigh =>
        exact ⟨le_of_not_lt hNumber (by decide) hLow, le_of_not_lt (by decide) hNumber hHigh⟩

end Curve

end Scrim
