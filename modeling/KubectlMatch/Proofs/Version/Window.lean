import Mathlib.Algebra.Order.Group.Abs
import Mathlib.Algebra.Order.Group.Int
import KubectlMatch.Proofs.Version.Order
/-!
# The skew window

A client is in the window of a target if the major versions are the same and the minor versions at most one apart, as
whole numbers that never wrap around.  A newer target moves the window up and takes no version back in that it has left
out, so of two choices for two targets that stand in the wrong order each is open to the other (`inSkewOf_exchange`).
-/
namespace KubectlMatch

namespace Version

variable {v w target target' : Version}

/-- **In the skew window**, in exact numbers. -/
structure InWindow (v target : Version) : Prop where
  major : v.major = target.major
  minor : |(v.minor.toNat : ℤ) - target.minor.toNat| ≤ 1

theorem inSkewOf_iff : v.inSkewOf target = true ↔ v.major = target.major ∧ distance v.minor target.minor ≤ 1 := by
  rw [inSkewOf, Bool.and_eq_true, beq_iff_eq, decide_eq_true_eq]
  rfl

theorem distance_le_one_iff {a b : UInt64} : distance a b ≤ 1 ↔ a.toNat ≤ b.toNat + 1 ∧ b.toNat ≤ a.toNat + 1 := by
  unfold distance
  omega

theorem inSkewOf_iff_toNat : v.inSkewOf target = true ↔ v.major.toNat = target.major.toNat ∧
    v.minor.toNat ≤ target.minor.toNat + 1 ∧ target.minor.toNat ≤ v.minor.toNat + 1 := by
  rw [inSkewOf_iff, UInt64.toNat_inj, distance_le_one_iff]

theorem inSkewOf_iff_inWindow : v.inSkewOf target = true ↔ v.InWindow target := by
  have hminor : |(v.minor.toNat : ℤ) - target.minor.toNat| ≤ 1 ↔
      v.minor.toNat ≤ target.minor.toNat + 1 ∧ target.minor.toNat ≤ v.minor.toNat + 1 := by
    rw [abs_sub_le_iff]
    omega
  rw [inSkewOf_iff_toNat, ← hminor, UInt64.toNat_inj]
  exact ⟨fun ⟨hmajor, hminor⟩ => ⟨hmajor, hminor⟩, fun h => ⟨h.major, h.minor⟩⟩

/-- The two ends of the range are far apart. -/
example : (ofNumbers 1 0 0).inSkewOf (ofNumbers 1 18446744073709551615 0) = false := by decide

theorem inSkewOf_eq_false_iff : v.inSkewOf target = false ↔ ¬ v.InWindow target := by
  rw [← inSkewOf_iff_inWindow, Bool.not_eq_true]

/-! ## A moving target -/

theorem numbers_of_le (h : v ≤ w) : v.major.toNat < w.major.toNat ∨
    v.major.toNat = w.major.toNat ∧ v.minor.toNat ≤ w.minor.toNat := by
  have hle : (order v w).isLE = true := Std.isLE_compare.2 h
  simp only [order, Ordering.isLE_then_iff_or, Std.compare_eq_lt, Std.compare_eq_iff_eq] at hle
  rcases hle with hmajor | ⟨hmajor, hminor | ⟨hminor, -⟩⟩
  · exact Or.inl (UInt64.lt_iff_toNat_lt.1 hmajor)
  · exact Or.inr ⟨UInt64.toNat_inj.2 hmajor, Nat.le_of_lt (UInt64.lt_iff_toNat_lt.1 hminor)⟩
  · exact Or.inr ⟨UInt64.toNat_inj.2 hmajor, Nat.le_of_eq (UInt64.toNat_inj.2 hminor)⟩

/-- **The window slides.**  Of a version in the window of a target and one, no newer, in that of a newer target, each is
in the window of the other's target as well. -/
theorem inSkewOf_exchange (ht : target ≤ target') (hv : v.inSkewOf target = true) (hw : w.inSkewOf target' = true)
    (hwv : w ≤ v) : v.inSkewOf target' = true ∧ w.inSkewOf target = true := by
  have htargets := numbers_of_le ht
  have hversions := numbers_of_le hwv
  rw [inSkewOf_iff_toNat] at hv hw ⊢
  rw [inSkewOf_iff_toNat]
  omega

end Version

end KubectlMatch
