import Mathlib.Data.List.Lex
import Mathlib.Data.Prod.Lex
import KubectlMatch.Proofs.Version.Order
import KubectlMatch.Proofs.Version.Spelling
/-!
# The rules of precedence

`Version.order` computes which of two versions comes first.  `Version.Precedes` says it by rules, one for each thing
that can decide: the three numbers, then the prerelease, and the build metadata only where all else is the same.
Lists of fields go by `List.Lex`, that is by the first place at which they differ, and where one list runs out first
it comes first.  The order computes exactly these rules (`compare_eq_lt_iff`), and it is linear.
-/
namespace KubectlMatch

open Std (LawfulEqOrd)

/-- Two lists compare by the order of their fields at the first place where they differ. -/
theorem compare_list_eq_lt_iff {α : Type} [Ord α] [LawfulEqOrd α] {r : α → α → Prop}
    (hr : ∀ a b, compare a b = .lt ↔ r a b) : ∀ {as bs : List α}, compare as bs = .lt ↔ List.Lex r as bs
  | [], [] => by simp
  | [], b :: bs => by simp
  | a :: as, [] => by simp
  | a :: as, b :: bs => by
    have ih : compare as bs = .lt ↔ List.Lex r as bs := compare_list_eq_lt_iff hr
    rw [List.compare_cons_cons, Ordering.then_eq_lt, List.cons_lex_cons_iff, hr, LawfulEqOrd.compare_eq_iff_eq, ih]

theorem compare_chars_eq_lt_iff {s t : List Char} : compare s t = .lt ↔ s < t := by
  have hchar : ∀ c d : Char, compare c d = .lt ↔ c < d := fun c d => compareOfLessAndEq_eq_lt
  rw [compare_list_eq_lt_iff hchar, List.lex_lt]

/-! ## Fields -/

/-- The rules for two fields of a prerelease. -/
inductive Identifier.Precedes : Identifier → Identifier → Prop
  | byValue {m n : Nat} (h : m < n) : Precedes (.number m) (.number n)
  | numberFirst {n : Nat} {l : Label} {hl : l.isDigits = false} : Precedes (.number n) (.word l hl)
  | byChars {k l : Label} {hk : k.isDigits = false} {hl : l.isDigits = false} (h : k.chars < l.chars) :
      Precedes (.word k hk) (.word l hl)

theorem Identifier.compare_eq_lt_iff (a b : Identifier) : compare a b = .lt ↔ a.Precedes b := by
  constructor
  · intro h
    cases a with
    | number m =>
      cases b with
      | number n => exact .byValue (Nat.compare_eq_lt.1 h)
      | word l hl => exact .numberFirst
    | word k hk =>
      cases b with
      | number n => cases h
      | word l hl => exact .byChars (compare_chars_eq_lt_iff.1 h)
  · rintro (h | _ | h)
    · exact Nat.compare_eq_lt.2 h
    · rfl
    · exact compare_chars_eq_lt_iff.2 h

/-- The rules for two fields of build metadata, which may have zeros in front. -/
inductive Label.Precedes (a b : Label) : Prop
  | digitsFirst (ha : a.isDigits = true) (hb : b.isDigits = false)
  | byValue (ha : a.isDigits = true) (hb : b.isDigits = true) (h : a.value < b.value)
  | byLength (ha : a.isDigits = true) (hb : b.isDigits = true) (hv : a.value = b.value)
      (h : a.chars.length < b.chars.length)
  | byChars (ha : a.isDigits = false) (hb : b.isDigits = false) (h : a.chars < b.chars)

theorem Label.compare_eq_lt_iff (a b : Label) : compare a b = .lt ↔ a.Precedes b := by
  have hdigits : byValue a b = .lt ↔ a.value < b.value ∨ a.value = b.value ∧ a.chars.length < b.chars.length := by
    simp [byValue, compareLex, compareOn, Ordering.then_eq_lt, Nat.compare_eq_lt]
  show order a b = .lt ↔ _
  rw [order_eq]
  constructor
  · intro h
    cases ha : a.isDigits <;> cases hb : b.isDigits <;> rw [ha, hb] at h
    · exact .byChars ha hb (compare_chars_eq_lt_iff.1 h)
    · cases h
    · exact .digitsFirst ha hb
    · rcases hdigits.1 h with hv | ⟨hv, hl⟩
      · exact .byValue ha hb hv
      · exact .byLength ha hb hv hl
  · rintro (⟨ha, hb⟩ | ⟨ha, hb, hv⟩ | ⟨ha, hb, hv, hl⟩ | ⟨ha, hb, h⟩) <;> rw [ha, hb]
    · exact hdigits.2 (Or.inl hv)
    · exact hdigits.2 (Or.inr ⟨hv, hl⟩)
    · exact compare_chars_eq_lt_iff.2 h

namespace Version

variable {a b c v : Version}

/-! ## Versions -/

/-- The three numbers, the first that differs deciding between two of them. -/
def numbers (v : Version) : ℕ ×ₗ ℕ ×ₗ ℕ := toLex (v.major.toNat, toLex (v.minor.toNat, v.patch.toNat))

theorem numbers_eq_iff : a.numbers = b.numbers ↔ a.major = b.major ∧ a.minor = b.minor ∧ a.patch = b.patch := by
  simp [numbers, UInt64.toNat_inj]

theorem numbers_lt_iff : a.numbers < b.numbers ↔ a.major < b.major ∨
    a.major = b.major ∧ (a.minor < b.minor ∨ a.minor = b.minor ∧ a.patch < b.patch) := by
  simp [numbers, Prod.Lex.toLex_lt_toLex, UInt64.lt_iff_toNat_lt, UInt64.toNat_inj]

/-- A prerelease comes before the release, and before another prerelease by the first field that differs. -/
def PrereleasePrecedes (a b : List Identifier) : Prop := a ≠ [] ∧ (b = [] ∨ List.Lex Identifier.Precedes a b)

theorem orderPrerelease_eq_lt_iff {a b : List Identifier} :
    orderPrerelease a b = .lt ↔ PrereleasePrecedes a b := by
  have hlex : compare a b = .lt ↔ List.Lex Identifier.Precedes a b :=
    compare_list_eq_lt_iff Identifier.compare_eq_lt_iff
  unfold PrereleasePrecedes
  cases a <;> cases b
  · simp [orderPrerelease]
  · simp [orderPrerelease]
  · simp [orderPrerelease]
  · simpa [orderPrerelease] using hlex

/-- **Precedence**: what can put a version before another, each rule only where the ones before it do not decide. -/
inductive Precedes (a b : Version) : Prop
  | byNumbers (h : a.numbers < b.numbers)
  | byPrerelease (hn : a.numbers = b.numbers) (h : PrereleasePrecedes a.prerelease b.prerelease)
  | byBuild (hn : a.numbers = b.numbers) (hp : a.prerelease = b.prerelease)
      (h : List.Lex Label.Precedes a.build b.build)

/-- **The order computes precedence.** -/
theorem compare_eq_lt_iff : compare a b = .lt ↔ a.Precedes b := by
  have hbuild : compare a.build b.build = .lt ↔ List.Lex Label.Precedes a.build b.build :=
    compare_list_eq_lt_iff Label.compare_eq_lt_iff
  have hpre : orderPrerelease a.prerelease b.prerelease = .eq ↔ a.prerelease = b.prerelease :=
    Std.LawfulEqCmp.compare_eq_iff_eq
  show order a b = .lt ↔ _
  simp only [order, Ordering.then_eq_lt, Std.compare_eq_lt, LawfulEqOrd.compare_eq_iff_eq, hpre, hbuild,
    orderPrerelease_eq_lt_iff]
  constructor
  · rintro (h | ⟨h1, h | ⟨h2, h | ⟨h3, h | ⟨hp, h⟩⟩⟩⟩)
    · exact .byNumbers (numbers_lt_iff.2 (Or.inl h))
    · exact .byNumbers (numbers_lt_iff.2 (Or.inr ⟨h1, Or.inl h⟩))
    · exact .byNumbers (numbers_lt_iff.2 (Or.inr ⟨h1, Or.inr ⟨h2, h⟩⟩))
    · exact .byPrerelease (numbers_eq_iff.2 ⟨h1, h2, h3⟩) h
    · exact .byBuild (numbers_eq_iff.2 ⟨h1, h2, h3⟩) hp h
  · rintro (h | ⟨hn, h⟩ | ⟨hn, hp, h⟩)
    · rcases numbers_lt_iff.1 h with h | ⟨h1, h | ⟨h2, h⟩⟩
      · exact Or.inl h
      · exact Or.inr ⟨h1, Or.inl h⟩
      · exact Or.inr ⟨h1, Or.inr ⟨h2, Or.inl h⟩⟩
    · obtain ⟨h1, h2, h3⟩ := numbers_eq_iff.1 hn
      exact Or.inr ⟨h1, Or.inr ⟨h2, Or.inr ⟨h3, Or.inl h⟩⟩⟩
    · obtain ⟨h1, h2, h3⟩ := numbers_eq_iff.1 hn
      exact Or.inr ⟨h1, Or.inr ⟨h2, Or.inr ⟨h3, Or.inr ⟨hp, h⟩⟩⟩⟩

theorem lt_iff_precedes : a < b ↔ a.Precedes b := compare_eq_lt_iff

/-- The text behind the numbers tells apart what the numbers do not. -/
theorem eq_of_chars (hn : a.numbers = b.numbers) (hp : a.prereleaseChars = b.prereleaseChars)
    (hb : a.buildChars = b.buildChars) : a = b := by
  obtain ⟨h1, h2, h3⟩ := numbers_eq_iff.1 hn
  have hcore : a.coreChars = b.coreChars := by unfold coreChars; rw [h1, h2, h3]
  have hchars : a.chars = b.chars := by rw [chars_eq, chars_eq, hcore, hp, hb]
  exact chars_injective hchars

theorem numbers_release (v : Version) : v.release.numbers = v.numbers := rfl

theorem isPrerelease_iff : v.isPrerelease = true ↔ v.prerelease ≠ [] := by
  simp [isPrerelease]

theorem lt_of_isPrerelease (hn : a.numbers = b.numbers) (ha : a.isPrerelease = true) (hb : b.isPrerelease = false) :
    a < b := by
  have hnil : b.prerelease = [] := by simpa [isPrerelease] using hb
  exact lt_iff_precedes.2 (.byPrerelease hn ⟨isPrerelease_iff.1 ha, Or.inl hnil⟩)

theorem lt_of_prerelease_append {ids : List Identifier} (hn : a.numbers = b.numbers) (ha : a.isPrerelease = true)
    (hids : ids ≠ []) (hb : b.prerelease = a.prerelease ++ ids) : a < b := by
  have hlex : List.Lex Identifier.Precedes (a.prerelease ++ []) (a.prerelease ++ ids) := by
    obtain ⟨i, is, rfl⟩ := List.exists_cons_of_ne_nil hids
    exact List.Lex.append_left _ .nil a.prerelease
  rw [List.append_nil, ← hb] at hlex
  exact lt_iff_precedes.2 (.byPrerelease hn ⟨isPrerelease_iff.1 ha, Or.inr hlex⟩)

/-- Build metadata is not looked at where anything before it differs. -/
theorem lt_withBuild_iff (build build' : List Label) (h : ¬(a.numbers = b.numbers ∧ a.prerelease = b.prerelease)) :
    { a with build := build : Version } < { b with build := build' } ↔ a < b := by
  rw [lt_iff_precedes, lt_iff_precedes]
  constructor
  · rintro (hn | ⟨hn, hp⟩ | ⟨hn, hp, -⟩)
    · exact .byNumbers hn
    · exact .byPrerelease hn hp
    · exact absurd ⟨hn, hp⟩ h
  · rintro (hn | ⟨hn, hp⟩ | ⟨hn, hp, -⟩)
    · exact .byNumbers hn
    · exact .byPrerelease hn hp
    · exact absurd ⟨hn, hp⟩ h

theorem lt_release_iff : v < v.release ↔ v.isPrerelease = true := by
  constructor
  · intro h
    rcases lt_iff_precedes.1 h with hn | ⟨-, hp, -⟩ | ⟨-, -, hb⟩
    · rw [numbers_release] at hn
      exact absurd hn (lt_irrefl _)
    · exact isPrerelease_iff.2 hp
    · exact absurd hb List.not_lex_nil
  · intro h
    exact lt_of_isPrerelease (numbers_release v).symm h rfl

/-- **The order of versions is linear, and it is precedence**, for all versions.  Exactly one of two versions comes
before the other, unless they are the same in their numbers and in the text of their prerelease and build metadata.
Smaller numbers come first whatever follows them; with the same numbers a prerelease comes before the release and
before every prerelease that goes on after it, and build metadata is looked at only where all else is the same.  So a
version comes before its release exactly if it is a prerelease, and otherwise it is not before it. -/
theorem order_follows_precedence :
    (∀ a b : Version,
      (a < b ∧ a ≠ b ∧ ¬ b < a ∨ ¬ a < b ∧ a = b ∧ ¬ b < a ∨ ¬ a < b ∧ a ≠ b ∧ b < a) ∧
      (compare a b = .lt ↔ a < b) ∧ (compare a b = .eq ↔ a = b) ∧ (compare a b = .gt ↔ b < a) ∧
      (a = b ↔ a.numbers = b.numbers ∧ a.prereleaseChars = b.prereleaseChars ∧ a.buildChars = b.buildChars) ∧
      (a < b ↔ a.Precedes b)) ∧
    (∀ a b c : Version, a < b → b < c → a < c) ∧
    (∀ a b : Version, a.numbers < b.numbers → a < b) ∧
    (∀ a b : Version, a.numbers = b.numbers → a.isPrerelease = true →
      (b.isPrerelease = false → a < b) ∧ ∀ ids, ids ≠ [] → b.prerelease = a.prerelease ++ ids → a < b) ∧
    (∀ (a b : Version) (build build' : List Label), ¬(a.numbers = b.numbers ∧ a.prerelease = b.prerelease) →
      ({ a with build := build : Version } < { b with build := build' } ↔ a < b)) ∧
    ∀ v : Version, (v < v.release ↔ v.isPrerelease = true) ∧ (v.isPrerelease = false → v.release ≤ v) := by
  refine ⟨fun a b => ⟨?_, Std.compare_eq_lt, Std.compare_eq_iff_eq, Std.compare_eq_gt, ?_, lt_iff_precedes⟩,
    fun a b c => lt_trans, fun a b h => lt_iff_precedes.2 (.byNumbers h), fun a b hn ha => ⟨?_, ?_⟩,
    fun a b build build' => lt_withBuild_iff build build', fun v => ⟨lt_release_iff, fun hv => ?_⟩⟩
  · rcases lt_trichotomy a b with h | h | h
    · exact Or.inl ⟨h, ne_of_lt h, lt_asymm h⟩
    · exact Or.inr (Or.inl ⟨fun hlt => ne_of_lt hlt h, h, fun hlt => ne_of_gt hlt h⟩)
    · exact Or.inr (Or.inr ⟨lt_asymm h, ne_of_gt h, h⟩)
  · constructor
    · rintro rfl
      exact ⟨rfl, rfl, rfl⟩
    · rintro ⟨hn, hp, hb⟩
      exact eq_of_chars hn hp hb
  · exact lt_of_isPrerelease hn ha
  · exact fun ids hids => lt_of_prerelease_append hn ha hids
  · refine not_lt.1 fun h => ?_
    rw [lt_release_iff.1 h] at hv
    cases hv

end Version

end KubectlMatch
