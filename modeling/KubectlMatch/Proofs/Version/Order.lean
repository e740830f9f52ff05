import Mathlib.Algebra.Group.Nat.Defs
import Mathlib.Order.Std
import KubectlMatch.Version.Basic
/-!
# The order of versions is linear

Every choice between binaries rests on `Version.order`.  Its parts are compared one after the other, so the order is
linear as soon as each part's order is: the numbers', the prerelease's and the build metadata's.  Two versions compare
as equal only if they are the same, build metadata included.
-/
namespace KubectlMatch

open Std (OrientedCmp TransCmp LawfulEqCmp OrientedOrd TransOrd LawfulEqOrd)

/-! ## Labels -/

theorem ofDigitChars_cons_zero (c : Char) (s : List Char) :
    Nat.ofDigitChars 10 (c :: s) 0 = 10 ^ s.length * (c.toNat - '0'.toNat) + Nat.ofDigitChars 10 s 0 := by
  rw [Nat.ofDigitChars_cons, Nat.ofDigitChars_eq_ofDigitChars_zero, Nat.mul_zero, Nat.zero_add]

theorem digit_bounds {c : Char} (h : c.isDigit = true) : '0'.toNat ≤ c.toNat ∧ c.toNat ≤ '9'.toNat := by
  simpa [Char.isDigit, UInt32.le_iff_toNat_le] using h

theorem ofDigitChars_lt : ∀ {s : List Char}, s.all Char.isDigit = true → Nat.ofDigitChars 10 s 0 < 10 ^ s.length
  | [], _ => by rw [Nat.ofDigitChars_nil]; exact Nat.one_pos
  | c :: s, h => by
    rw [List.all_cons, Bool.and_eq_true] at h
    have hs := ofDigitChars_lt h.2
    have hc := digit_bounds h.1
    have hd : c.toNat - '0'.toNat ≤ 9 := by
      have : '0'.toNat = 48 ∧ '9'.toNat = 57 := ⟨rfl, rfl⟩
      omega
    rw [ofDigitChars_cons_zero, List.length_cons, Nat.pow_succ]
    calc 10 ^ s.length * (c.toNat - '0'.toNat) + Nat.ofDigitChars 10 s 0
        < 10 ^ s.length * 9 + 10 ^ s.length := Nat.add_lt_add_of_le_of_lt (Nat.mul_le_mul_left _ hd) hs
      _ = 10 ^ s.length * 10 := by omega

/-- **Digits of one length and one value are the same digits.** -/
theorem ofDigitChars_injective : ∀ {s t : List Char}, s.all Char.isDigit = true → t.all Char.isDigit = true →
    s.length = t.length → Nat.ofDigitChars 10 s 0 = Nat.ofDigitChars 10 t 0 → s = t
  | [], [], _, _, _, _ => rfl
  | [], _ :: _, _, _, hl, _ => by cases hl
  | _ :: _, [], _, _, hl, _ => by cases hl
  | c :: s, d :: t, hs, ht, hl, hv => by
    rw [List.all_cons, Bool.and_eq_true] at hs ht
    rw [List.length_cons, List.length_cons, Nat.add_right_cancel_iff] at hl
    rw [ofDigitChars_cons_zero, ofDigitChars_cons_zero, hl] at hv
    have hsl := ofDigitChars_lt hs.2
    have htl := ofDigitChars_lt ht.2
    rw [hl] at hsl
    have hpos : 0 < 10 ^ t.length := Nat.pos_of_ne_zero (Nat.ne_zero_of_lt htl)
    have hhead : c.toNat - '0'.toNat = d.toNat - '0'.toNat := by
      have h1 : (10 ^ t.length * (c.toNat - '0'.toNat) + Nat.ofDigitChars 10 s 0) / 10 ^ t.length
          = c.toNat - '0'.toNat := by
        rw [Nat.mul_add_div hpos, Nat.div_eq_of_lt hsl, Nat.add_zero]
      have h2 : (10 ^ t.length * (d.toNat - '0'.toNat) + Nat.ofDigitChars 10 t 0) / 10 ^ t.length
          = d.toNat - '0'.toNat := by
        rw [Nat.mul_add_div hpos, Nat.div_eq_of_lt htl, Nat.add_zero]
      rw [← h1, hv, h2]
    have hc := digit_bounds hs.1
    have hd := digit_bounds ht.1
    have hcd : c = d := Char.toNat_inj.1 (by omega)
    rw [hhead] at hv
    rw [hcd, ofDigitChars_injective hs.2 ht.2 hl (Nat.add_left_cancel hv)]

namespace Label

/-- The order of two labels of digits: by value, and of one value the shorter first. -/
def byValue : Label → Label → Ordering := compareLex (compareOn value) (compareOn fun l => l.chars.length)

instance : TransCmp byValue := inferInstanceAs (TransCmp (compareLex _ _))

/-- The order of two labels that are words. -/
def byChars : Label → Label → Ordering := compareOn chars

instance : TransCmp byChars := inferInstanceAs (TransCmp (compareOn _))

theorem order_eq (a b : Label) : order a b =
    match a.isDigits, b.isDigits with
    | true, false => .lt
    | false, true => .gt
    | true, true => byValue a b
    | false, false => byChars a b := rfl

theorem order_swap (a b : Label) : order a b = (order b a).swap := by
  rw [order_eq, order_eq]
  cases a.isDigits <;> cases b.isDigits
  · show byChars a b = (byChars b a).swap
    exact OrientedCmp.eq_swap
  · rfl
  · rfl
  · show byValue a b = (byValue b a).swap
    exact OrientedCmp.eq_swap

/-- Digits come before words, so of three labels in order the words are the last. -/
theorem order_trans {a b c : Label} (hab : (order a b).isLE) (hbc : (order b c).isLE) : (order a c).isLE := by
  rw [order_eq] at *
  cases ha : a.isDigits <;> cases hb : b.isDigits <;> cases hc : c.isDigits <;> rw [ha, hb] at hab <;>
    rw [hb, hc] at hbc
  · change (byChars a b).isLE at hab
    change (byChars b c).isLE at hbc
    show (byChars a c).isLE
    exact TransCmp.isLE_trans hab hbc
  · cases hbc
  · cases hab
  · cases hab
  · rfl
  · cases hbc
  · rfl
  · change (byValue a b).isLE at hab
    change (byValue b c).isLE at hbc
    show (byValue a c).isLE
    exact TransCmp.isLE_trans hab hbc

theorem eq_of_order {a b : Label} (h : order a b = .eq) : a = b := by
  rw [order_eq] at h
  cases ha : a.isDigits <;> cases hb : b.isDigits <;> rw [ha, hb] at h
  · exact ext_chars (LawfulEqOrd.eq_of_compare h)
  · cases h
  · cases h
  · have h : compare a.value b.value = .eq ∧ compare a.chars.length b.chars.length = .eq := by
      simpa only [byValue, compareLex, compareOn, Ordering.then_eq_eq] using h
    exact ext_chars (ofDigitChars_injective ha hb (LawfulEqOrd.eq_of_compare h.2) (LawfulEqOrd.eq_of_compare h.1))

theorem order_self (a : Label) : order a a = .eq := by
  rw [order_eq]
  cases a.isDigits
  · show byChars a a = .eq
    exact Std.ReflCmp.compare_self
  · show byValue a a = .eq
    exact Std.ReflCmp.compare_self

instance : TransOrd Label where
  eq_swap := order_swap _ _
  isLE_trans := order_trans

instance : LawfulEqOrd Label where
  compare_self := order_self _
  eq_of_compare := eq_of_order

end Label

/-! ## Fields of a prerelease -/

namespace Identifier

theorem order_swap (a b : Identifier) : order a b = (order b a).swap := by
  cases a <;> cases b
  · exact OrientedOrd.eq_swap
  · rfl
  · rfl
  · exact OrientedOrd.eq_swap

/-- Numbers come before words, so of three fields in order the words are the last. -/
theorem order_trans {a b c : Identifier} (hab : (order a b).isLE) (hbc : (order b c).isLE) : (order a c).isLE := by
  cases a <;> cases b <;> cases c
  · exact TransOrd.isLE_trans (α := Nat) hab hbc
  · rfl
  · cases hbc
  · rfl
  · cases hab
  · cases hab
  · cases hbc
  · exact TransOrd.isLE_trans (α := List Char) hab hbc

theorem eq_of_order {a b : Identifier} (h : order a b = .eq) : a = b := by
  cases a <;> cases b
  · rw [LawfulEqOrd.eq_of_compare h]
  · cases h
  · cases h
  · rename_i k _ l _
    have hkl : k = l := Label.ext_chars (LawfulEqOrd.eq_of_compare h)
    subst hkl
    rfl

instance : TransOrd Identifier where
  eq_swap := order_swap _ _
  isLE_trans := order_trans

instance : LawfulEqOrd Identifier where
  compare_self {a} := by
    cases a
    · exact Std.ReflOrd.compare_self
    · exact Std.ReflOrd.compare_self
  eq_of_compare := eq_of_order

end Identifier

namespace Version

/-! ## Versions -/

theorem orderPrerelease_swap (a b : List Identifier) : orderPrerelease a b = (orderPrerelease b a).swap := by
  cases a <;> cases b
  · rfl
  · rfl
  · rfl
  · exact OrientedOrd.eq_swap

/-- No prerelease is last, after every one that is there. -/
theorem orderPrerelease_trans {a b c : List Identifier} (hab : (orderPrerelease a b).isLE)
    (hbc : (orderPrerelease b c).isLE) : (orderPrerelease a c).isLE := by
  cases a <;> cases b <;> cases c
  · rfl
  · cases hbc
  · cases hab
  · cases hab
  · rfl
  · cases hbc
  · rfl
  · exact TransOrd.isLE_trans (α := List Identifier) hab hbc

instance : LawfulEqCmp orderPrerelease where
  compare_self {a} := by
    cases a
    · rfl
    · exact Std.ReflOrd.compare_self
  eq_of_compare {a b} h := by
    cases a <;> cases b
    · rfl
    · cases h
    · cases h
    · exact LawfulEqOrd.eq_of_compare h

/-- The order of the prereleases of two versions. -/
def byPrerelease (a b : Version) : Ordering := orderPrerelease a.prerelease b.prerelease

instance : TransCmp byPrerelease where
  eq_swap := orderPrerelease_swap _ _
  isLE_trans := orderPrerelease_trans

theorem order_eq_compareLex : order =
    compareLex (compareOn major) (compareLex (compareOn minor) (compareLex (compareOn patch)
      (compareLex byPrerelease (compareOn build)))) := rfl

instance : TransOrd Version := by
  show TransCmp order
  rw [order_eq_compareLex]
  infer_instance

theorem eq_of_order {a b : Version} (h : order a b = .eq) : a = b := by
  simp only [order, Ordering.then_eq_eq, LawfulEqOrd.compare_eq_iff_eq] at h
  obtain ⟨h1, h2, h3, h4, h5⟩ := h
  have h4 : a.prerelease = b.prerelease := LawfulEqCmp.eq_of_compare h4
  cases a
  cases b
  cases h1
  cases h2
  cases h3
  cases h4
  cases h5
  rfl

instance : LawfulEqOrd Version where
  compare_self {a} := by
    show order a a = .eq
    simp only [order, Ordering.then_eq_eq, Std.ReflOrd.compare_self, true_and, and_true]
    exact Std.ReflCmp.compare_self
  eq_of_compare := eq_of_order

instance : Std.LawfulOrderOrd Version where
  isLE_compare a b := by
    show (compare a b).isLE = true ↔ compare a b ≠ .gt
    cases compare a b <;> decide
  isGE_compare a b := by
    show (compare a b).isGE = true ↔ compare b a ≠ .gt
    rw [OrientedOrd.eq_swap (a := b) (b := a)]
    cases compare a b <;> decide

instance : Std.LawfulOrderLT Version where
  lt_iff a b := by
    show compare a b = .lt ↔ compare a b ≠ .gt ∧ ¬ compare b a ≠ .gt
    rw [OrientedOrd.eq_swap (a := b) (b := a)]
    cases compare a b <;> decide

/-- **Versions are linearly ordered**, by the order that every choice is made with. -/
instance : LinearOrder Version := .ofStd Version

end Version

end KubectlMatch
