import Inquiry.Number.Decimal.Basic

/-!
# Decimals with the fewest places

Two decimals denote one number if they agree after each is brought to the places
of the other. `Decimal.normalize` picks one decimal for every number: it drops
places as long as they are zeros, and the sign of zero. That it picks the same
one, however a number is given, comes down to coefficients: one with the fewest
places cannot have more places than any other for the number, for then its last
digit would be zero. Two of them have therefore the same places, and so the same
coefficient.
-/

namespace Inquiry

open Number (tenTo tenTo_succ tenTo_add tenTo_pos)

namespace Decimal

theorem signed_mul (d : Decimal) (n : Nat) :
    d.signed * n = if d.negative then -((d.coefficient * n : Nat) : Int)
      else ((d.coefficient * n : Nat) : Int) := by
  rw [signed, Int.natCast_mul]
  split
  · rw [Int.neg_mul]
  · rfl

theorem same_iff (a b : Decimal) :
    a.same b = true ↔ a.signed * tenTo b.scale = b.signed * tenTo a.scale := by
  rw [same, order, beq_iff_eq, Std.compare_eq_iff_eq]

theorem same_symm {a b : Decimal} (h : a.same b = true) : b.same a = true :=
  (same_iff b a).mpr ((same_iff a b).mp h).symm

theorem same_trans {a b c : Decimal} (hab : a.same b = true) (hbc : b.same c = true) :
    a.same c = true := by
  rw [same_iff] at *
  have hpos : (tenTo b.scale : Int) ≠ 0 := by
    have := tenTo_pos b.scale
    omega
  refine Int.eq_of_mul_eq_mul_right hpos ?_
  calc a.signed * tenTo c.scale * tenTo b.scale
      = a.signed * tenTo b.scale * tenTo c.scale := Int.mul_right_comm _ _ _
    _ = b.signed * tenTo c.scale * tenTo a.scale := by rw [hab, Int.mul_right_comm]
    _ = c.signed * tenTo a.scale * tenTo b.scale := by rw [hbc, Int.mul_right_comm]

/-! ## Stripping zeros -/

/-- A coefficient whose places are all needed. -/
def Stripped (coefficient scale : Nat) : Prop := scale = 0 ∨ coefficient % 10 ≠ 0

theorem stripZeros_stripped (coefficient scale : Nat) :
    Stripped (stripZeros coefficient scale).1 (stripZeros coefficient scale).2 := by
  induction scale generalizing coefficient with
  | zero => exact .inl rfl
  | succ scale ih =>
      rw [stripZeros]
      split
      · exact ih (coefficient / 10)
      · next hdigit => exact .inr hdigit

theorem stripZeros_eq (coefficient scale : Nat) :
    coefficient * tenTo (stripZeros coefficient scale).2
      = (stripZeros coefficient scale).1 * tenTo scale := by
  induction scale generalizing coefficient with
  | zero => rfl
  | succ scale ih =>
      rw [stripZeros]
      split
      · next hdigit =>
          have hten : coefficient = coefficient / 10 * 10 := by omega
          calc coefficient * tenTo (stripZeros (coefficient / 10) scale).2
              = coefficient / 10 * tenTo (stripZeros (coefficient / 10) scale).2 * 10 := by
                rw [Nat.mul_right_comm, ← hten]
            _ = (stripZeros (coefficient / 10) scale).1 * tenTo (scale + 1) := by
                rw [ih, tenTo_succ, Nat.mul_assoc]
      · rfl

/-- The places of a stripped coefficient are the fewest. -/
theorem Stripped.scale_le {c s c' s' : Nat} (h : Stripped c s)
    (heq : c * tenTo s' = c' * tenTo s) : s ≤ s' := by
  refine Nat.le_of_not_lt fun hlt => ?_
  obtain ⟨k, rfl⟩ : ∃ k, s = k + 1 + s' := ⟨s - s' - 1, by omega⟩
  -- the places beyond those of the other coefficient can only be zeros
  have hcancel : c = c' * tenTo k * 10 := by
    refine Nat.eq_of_mul_eq_mul_right (tenTo_pos s') ?_
    rw [heq, tenTo_add, tenTo_succ, Nat.mul_assoc, Nat.mul_assoc, Nat.mul_assoc]
  rcases h with h | h
  · omega
  · omega

theorem Stripped.eq {c s c' s' : Nat} (h : Stripped c s) (h' : Stripped c' s')
    (heq : c * tenTo s' = c' * tenTo s) : c = c' ∧ s = s' := by
  have hs : s = s' := Nat.le_antisymm (h.scale_le heq) (h'.scale_le heq.symm)
  subst hs
  exact ⟨Nat.eq_of_mul_eq_mul_right (tenTo_pos s) heq, rfl⟩

/-- Coefficients that agree also agree when they are stripped. -/
theorem stripZeros_agree {c s c' s' : Nat} (h : c * tenTo s' = c' * tenTo s) :
    (stripZeros c s).1 * tenTo (stripZeros c' s').2
      = (stripZeros c' s').1 * tenTo (stripZeros c s).2 := by
  have hpos : 0 < tenTo s * tenTo s' := Nat.mul_pos (tenTo_pos s) (tenTo_pos s')
  have heq := stripZeros_eq c s
  have heq' := stripZeros_eq c' s'
  refine Nat.eq_of_mul_eq_mul_right hpos ?_
  calc (stripZeros c s).1 * tenTo (stripZeros c' s').2 * (tenTo s * tenTo s')
      = (stripZeros c s).1 * tenTo s * (tenTo (stripZeros c' s').2 * tenTo s') :=
        Nat.mul_mul_mul_comm _ _ _ _
    _ = c * tenTo s' * (tenTo (stripZeros c s).2 * tenTo (stripZeros c' s').2) := by
        rw [← heq]
        ac_rfl
    _ = c' * tenTo (stripZeros c' s').2 * (tenTo (stripZeros c s).2 * tenTo s) := by
        rw [h]
        ac_rfl
    _ = (stripZeros c' s').1 * tenTo (stripZeros c s).2 * (tenTo s * tenTo s') := by
        rw [heq']
        ac_rfl

/-! ## Normal forms -/

theorem signed_of_zero {d : Decimal} (h : d.coefficient = 0) : d.signed = 0 := by
  rw [signed, h]
  split <;> rfl

theorem normalize_of_zero {d : Decimal} (h : d.coefficient = 0) : d.normalize = zero := if_pos h

theorem normalize_same (d : Decimal) : d.same d.normalize = true := by
  rw [same_iff]
  by_cases h : d.coefficient = 0
  · rw [normalize_of_zero h, signed_of_zero h, signed_of_zero (d := zero) rfl]
    omega
  · rw [normalize, if_neg h, signed_mul, signed_mul, stripZeros_eq]

/-- Decimals for one number, other than zero, have one sign, and agree without it. -/
theorem parts_of_same {a b : Decimal} (ha : a.coefficient ≠ 0) (h : a.same b = true) :
    a.negative = b.negative ∧ a.coefficient * tenTo b.scale = b.coefficient * tenTo a.scale := by
  rw [same_iff, signed_mul, signed_mul] at h
  have hpos : 0 < a.coefficient * tenTo b.scale :=
    Nat.mul_pos (Nat.pos_of_ne_zero ha) (tenTo_pos b.scale)
  generalize a.coefficient * tenTo b.scale = x at h hpos ⊢
  generalize b.coefficient * tenTo a.scale = y at h ⊢
  cases hsign : a.negative <;> cases hsign' : b.negative <;>
    simp only [hsign, hsign', Bool.false_eq_true, if_true, if_false] at h
  · exact ⟨rfl, by omega⟩
  · omega
  · omega
  · exact ⟨rfl, by omega⟩

theorem coefficient_of_same {a b : Decimal} (ha : a.coefficient = 0) (h : a.same b = true) :
    b.coefficient = 0 := by
  refine Decidable.byContradiction fun hb => ?_
  have hparts := (parts_of_same hb (same_symm h)).2
  rw [ha, Nat.zero_mul] at hparts
  rcases Nat.mul_eq_zero.mp hparts with hzero | hzero
  · exact hb hzero
  · have := tenTo_pos a.scale
    omega

/-- Decimals denote the same number if and only if they have the same normal form. -/
theorem same_iff_normalize (a b : Decimal) : a.same b = true ↔ a.normalize = b.normalize := by
  constructor
  · intro h
    by_cases ha : a.coefficient = 0
    · rw [normalize_of_zero ha, normalize_of_zero (coefficient_of_same ha h)]
    · have hb : b.coefficient ≠ 0 := fun hb => ha (coefficient_of_same hb (same_symm h))
      obtain ⟨hsign, hparts⟩ := parts_of_same ha h
      obtain ⟨hcoefficient, hscale⟩ := (stripZeros_stripped a.coefficient a.scale).eq
        (stripZeros_stripped b.coefficient b.scale) (stripZeros_agree hparts)
      simp only [normalize, if_neg ha, if_neg hb, hsign, hcoefficient, hscale]
  · intro h
    have ha := normalize_same a
    rw [h] at ha
    exact same_trans ha (same_symm (normalize_same b))

theorem normalize_normalize (d : Decimal) : d.normalize.normalize = d.normalize :=
  ((same_iff_normalize d d.normalize).mp (normalize_same d)).symm

end Decimal

end Inquiry
