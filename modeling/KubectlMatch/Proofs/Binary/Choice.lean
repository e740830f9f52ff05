import KubectlMatch.Proofs.Binary.Preference
import KubectlMatch.Proofs.Version.Window
/-!
# What the choices between binaries choose

Both rules go by two preferences, the second of which is asked only where the first chooses nothing: releases before all
binaries (`mostRecent?_eq`), and in the skew window the newest not above the request before the oldest above it
(`compatible?_eq`).  `mostRecent?_eq_some_iff` and `compatible?_eq_some_iff` say which binary that is.  Both rules are
steady, as the preferences are.
-/
namespace KubectlMatch

namespace Preference

def newestOf (counts : Version → Bool) : Preference Version := ⟨counts, id, Function.injective_id⟩

def oldestOf (counts : Version → Bool) : Preference Versionᵒᵈ :=
  ⟨counts, OrderDual.toDual, OrderDual.toDual.injective⟩

variable {counts : Version → Bool} {b : Binary} {bs : List Binary}

theorem newest?_filter : Binary.newest? (bs.filter fun b => counts b.version) = (newestOf counts).best? bs := by
  unfold best? newestOf
  cases bs.filter fun b => counts b.version <;> rfl

theorem oldest?_filter : Binary.oldest? (bs.filter fun b => counts b.version) = (oldestOf counts).best? bs := by
  unfold best? oldestOf
  cases bs.filter fun b => counts b.version <;> rfl

end Preference

namespace Binary

open Preference (newestOf oldestOf newest?_filter oldest?_filter best?_eq_some_iff best?_eq_none_iff)

variable {b : Binary} {bs : List Binary}

/-! ## The newest release -/

theorem mostRecent?_eq (bs : List Binary) : mostRecent? bs =
    ((newestOf fun v => !v.isPrerelease).best? bs).or ((newestOf fun _ => true).best? bs) := by
  unfold mostRecent?
  rw [Option.orElse_eq_orElse, Option.orElse_eq_or, ← newest?_filter, ← newest?_filter,
    List.filter_eq_self.2 fun _ _ => rfl]

theorem steady_mostRecent? : Steady mostRecent? := by
  rw [funext mostRecent?_eq]
  exact (Preference.steady_best? _).or (Preference.steady_best? _)

/-- **The most recent binary** is the newest release, or the newest prerelease where there is no release at all; of
several the first. -/
theorem mostRecent?_eq_some_iff : mostRecent? bs = some b ↔ IsFirst b bs ∧
    ((b.version.isPrerelease = false ∧ ∀ x ∈ bs, x.version.isPrerelease = false → x.version ≤ b.version) ∨
      ∀ x ∈ bs, x.version.isPrerelease = true ∧ x.version ≤ b.version) := by
  rw [mostRecent?_eq, Option.or_eq_some_iff]
  simp only [best?_eq_some_iff, best?_eq_none_iff, newestOf, id, Bool.not_eq_true', Bool.not_eq_false', forall_const,
    true_and]
  constructor
  · rintro (⟨hfirst, hrelease, hmax⟩ | ⟨hpre, hfirst, hmax⟩)
    · exact ⟨hfirst, Or.inl ⟨hrelease, hmax⟩⟩
    · exact ⟨hfirst, Or.inr fun x hx => ⟨hpre x hx, hmax x hx⟩⟩
  · rintro ⟨hfirst, ⟨hrelease, hmax⟩ | hall⟩
    · exact Or.inl ⟨hfirst, hrelease, hmax⟩
    · exact Or.inr ⟨fun x hx => (hall x hx).1, hfirst, fun x hx => (hall x hx).2⟩

theorem mostRecent?_eq_none_iff : mostRecent? bs = none ↔ bs = [] := by
  rw [mostRecent?_eq, Option.or_eq_none_iff]
  simp only [best?_eq_none_iff, newestOf]
  constructor
  · rintro ⟨-, hall⟩
    exact List.eq_nil_iff_forall_not_mem.2 fun x hx => nomatch hall x hx
  · rintro rfl
    exact ⟨nofun, nofun⟩

theorem isPrerelease_of_mostRecent? (h : mostRecent? bs = some b)
    (hrelease : ∃ x ∈ bs, x.version.isPrerelease = false) :
    b.version.isPrerelease = false := by
  obtain ⟨x, hx, hxr⟩ := hrelease
  obtain ⟨-, ⟨hbr, -⟩ | hall⟩ := mostRecent?_eq_some_iff.1 h
  · exact hbr
  · rw [(hall x hx).1] at hxr
    cases hxr

/-- **Releases are preferred**, for every list.  The rule chooses nothing only from the empty list.  Its choice is the
first of its version; it is the newest of the releases if there are any, and else the newest of all, which then is a
prerelease.  So a prerelease, however new, that comes into a list with a release does not change the choice.  What makes
a version a prerelease is its prerelease part alone, whatever its build metadata. -/
theorem mostRecent_prefers_releases (bs : List Binary) :
    (mostRecent? bs = none ↔ bs = []) ∧
    (∀ b, mostRecent? bs = some b ↔
      (∃ before after, bs = before ++ b :: after ∧ ∀ x ∈ before, x.version ≠ b.version) ∧
      ((∃ x ∈ bs, x.version.isPrerelease = false) →
        b.version.isPrerelease = false ∧ ∀ x ∈ bs, x.version.isPrerelease = false → x.version ≤ b.version) ∧
      ((∀ x ∈ bs, x.version.isPrerelease = true) →
        b.version.isPrerelease = true ∧ ∀ x ∈ bs, x.version ≤ b.version)) ∧
    (∀ before x after, bs = before ++ after → x.version.isPrerelease = true →
      (∃ y ∈ bs, y.version.isPrerelease = false) → mostRecent? (before ++ x :: after) = mostRecent? bs) ∧
    ∀ v : Version, (v.isPrerelease = true ↔ v.prerelease ≠ []) ∧
      ∀ build, { v with build := build : Version }.isPrerelease = v.isPrerelease := by
  refine ⟨mostRecent?_eq_none_iff, fun b => ?_, fun before x after hbs hx hrelease => ?_, fun v => ⟨?_, fun _ => rfl⟩⟩
  · rw [mostRecent?_eq_some_iff, ← IsFirst.iff_split]
    refine and_congr_right fun hfirst => ?_
    constructor
    · rintro (⟨hbr, hmax⟩ | hall)
      · refine ⟨fun _ => ⟨hbr, hmax⟩, fun hpre => ?_⟩
        rw [hpre b hfirst.mem] at hbr
        cases hbr
      · refine ⟨fun ⟨x, hx, hxr⟩ => ?_, fun _ => ⟨(hall b hfirst.mem).1, fun x hx => (hall x hx).2⟩⟩
        rw [(hall x hx).1] at hxr
        cases hxr
    · rintro ⟨hreleases, hpre⟩
      by_cases h : ∃ x ∈ bs, x.version.isPrerelease = false
      · exact Or.inl (hreleases h)
      · have hall : ∀ x ∈ bs, x.version.isPrerelease = true := fun x hx =>
          Bool.eq_true_of_not_eq_false fun hxr => h ⟨x, hx, hxr⟩
        exact Or.inr fun x hx => ⟨hall x hx, (hpre hall).2 x hx⟩
  · subst hbs
    refine (steady_mostRecent?.removed before x after (Or.inl fun hchosen => ?_)).symm
    obtain ⟨y, hy, hyr⟩ := hrelease
    rw [isPrerelease_of_mostRecent? hchosen ⟨y, subset_added before x after hy, hyr⟩] at hx
    cases hx
  · simp [Version.isPrerelease]

/-! ## The skew window -/

theorem inSkewOf_self (v : Version) : v.inSkewOf v = true := by
  simp [Version.inSkewOf, Version.distance]

/-- What the window rule asks of its choice, the first of its version apart: the newest in the window that does not
exceed the request, or else the oldest in the window. -/
def IsClosest (requested v : Version) (bs : List Binary) : Prop :=
  (v ≤ requested ∧ ∀ x ∈ bs, x.version.inSkewOf requested = true → x.version ≤ requested → x.version ≤ v) ∨
    ∀ x ∈ bs, x.version.inSkewOf requested = true → requested < x.version ∧ v ≤ x.version

variable {requested : Version}

theorem compatible?_eq (requested : Version) (bs : List Binary) : compatible? requested bs =
    ((newestOf fun v => decide (v ≤ requested) && v.inSkewOf requested).best? bs).or
      ((oldestOf fun v => !decide (v ≤ requested) && v.inSkewOf requested).best? bs) := by
  unfold compatible?
  simp only [List.filter_filter]
  rw [Option.orElse_eq_orElse, Option.orElse_eq_or, ← newest?_filter, ← oldest?_filter]

theorem steady_compatible? (requested : Version) : Steady (compatible? requested) := by
  rw [funext (compatible?_eq requested)]
  exact (Preference.steady_best? _).or (Preference.steady_best? _)

/-- **The window rule**: the binary it chooses is in the window, the first of its version, and closest. -/
theorem compatible?_eq_some_iff : compatible? requested bs = some b ↔
    IsFirst b bs ∧ b.version.inSkewOf requested = true ∧ IsClosest requested b.version bs := by
  rw [compatible?_eq, Option.or_eq_some_iff]
  simp only [best?_eq_some_iff, best?_eq_none_iff, newestOf, oldestOf, id, OrderDual.toDual_le_toDual, Bool.and_eq_true,
    Bool.and_eq_false_iff, Bool.not_eq_true', decide_eq_true_eq, decide_eq_false_iff_not, not_le, and_imp]
  constructor
  · rintro (⟨hfirst, ⟨hle, hskew⟩, hmax⟩ | ⟨hnone, hfirst, ⟨-, hskew⟩, hmin⟩)
    · exact ⟨hfirst, hskew, Or.inl ⟨hle, fun x hx hxs hxr => hmax x hx hxr hxs⟩⟩
    · refine ⟨hfirst, hskew, Or.inr fun x hx hxs => ?_⟩
      have hxr : requested < x.version := (hnone x hx).resolve_right (by rw [hxs]; exact nofun)
      exact ⟨hxr, hmin x hx hxr hxs⟩
  · rintro ⟨hfirst, hskew, ⟨hle, hmax⟩ | hall⟩
    · exact Or.inl ⟨hfirst, ⟨hle, hskew⟩, fun x hx hxr hxs => hmax x hx hxs hxr⟩
    · refine Or.inr ⟨fun x hx => ?_, hfirst, ⟨(hall b hfirst.mem hskew).1, hskew⟩, fun x hx _ hxs => (hall x hx hxs).2⟩
      cases hxs : x.version.inSkewOf requested with
      | false => exact Or.inr rfl
      | true => exact Or.inl (hall x hx hxs).1

/-- **The window rule chooses nothing only where the window is empty.** -/
theorem compatible?_eq_none_iff : compatible? requested bs = none ↔
    ∀ x ∈ bs, x.version.inSkewOf requested = false := by
  rw [compatible?_eq, Option.or_eq_none_iff]
  simp only [best?_eq_none_iff, newestOf, oldestOf, ← forall₂_and]
  refine forall₂_congr fun x _ => ?_
  cases decide (x.version ≤ requested) <;> simp

/-- **The window rule, in exact numbers**, for every list and request.  It chooses nothing only where no binary is in
the window.  Its choice is in the window and the first of its version; if any in the window do not exceed the request,
it is the newest of those, and else the oldest in the window. -/
theorem choice_follows_window (requested : Version) (bs : List Binary) :
    (compatible? requested bs = none ↔ ∀ x ∈ bs, ¬ x.version.InWindow requested) ∧
    ∀ b, compatible? requested bs = some b ↔
      (∃ before after, bs = before ++ b :: after ∧ ∀ x ∈ before, x.version ≠ b.version) ∧
      b.version.InWindow requested ∧
      ((∃ x ∈ bs, x.version.InWindow requested ∧ x.version ≤ requested) →
        b.version ≤ requested ∧
          ∀ x ∈ bs, x.version.InWindow requested → x.version ≤ requested → x.version ≤ b.version) ∧
      ((∀ x ∈ bs, x.version.InWindow requested → requested < x.version) →
        ∀ x ∈ bs, x.version.InWindow requested → b.version ≤ x.version) := by
  refine ⟨?_, fun b => ?_⟩
  · simp only [compatible?_eq_none_iff, Version.inSkewOf_eq_false_iff]
  rw [compatible?_eq_some_iff, ← IsFirst.iff_split]
  simp only [IsClosest, Version.inSkewOf_iff_inWindow]
  refine and_congr_right fun hfirst => and_congr_right fun hwindow => ?_
  constructor
  · rintro (⟨hle, hmax⟩ | hall)
    · exact ⟨fun _ => ⟨hle, hmax⟩, fun habove => absurd hle (not_le.2 (habove b hfirst.mem hwindow))⟩
    · refine ⟨fun ⟨x, hx, hxw, hxr⟩ => absurd hxr (not_le.2 (hall x hx hxw).1), fun _ x hx hxw => ?_⟩
      exact (hall x hx hxw).2
  · rintro ⟨hbelow, habove⟩
    by_cases h : ∃ x ∈ bs, x.version.InWindow requested ∧ x.version ≤ requested
    · exact Or.inl (hbelow h)
    · have hall : ∀ x ∈ bs, x.version.InWindow requested → requested < x.version := fun x hx hxw =>
        not_le.1 fun hxr => h ⟨x, hx, hxw, hxr⟩
      exact Or.inr fun x hx hxw => ⟨hall x hx hxw, habove hall x hx hxw⟩

/-- **A newer cluster never gets an older client.**  The window slides with the request, and the choice may pass from
the oldest above a request to the newest at or below the next; but of two choices in the wrong order each would be in
the window of the other's request, and there the rule does not prefer the one it takes. -/
theorem choice_rises_with_request {r r' : Version} {b b' : Binary} (hr : r ≤ r') (h : compatible? r bs = some b)
    (h' : compatible? r' bs = some b') : b.version ≤ b'.version := by
  obtain ⟨hfirst, hskew, hclosest⟩ := compatible?_eq_some_iff.1 h
  obtain ⟨hfirst', hskew', hclosest'⟩ := compatible?_eq_some_iff.1 h'
  by_contra hle
  have hlt : b'.version < b.version := not_le.1 hle
  -- Each choice is open to the other request as well, so each rule has passed the other's choice over.
  obtain ⟨hopen, hopen'⟩ := Version.inSkewOf_exchange hr hskew hskew' (le_of_lt hlt)
  rcases hclosest with ⟨hbr, -⟩ | habove
  · have hbr' : b.version ≤ r' := le_trans hbr hr
    rcases hclosest' with ⟨-, hmax'⟩ | habove'
    · exact hle (hmax' b hfirst.mem hopen hbr')
    · exact absurd hbr' (not_le.2 (habove' b hfirst.mem hopen).1)
  · exact hle (habove b' hfirst'.mem hopen').2

theorem choice_rises_past_prerelease :
    let r : Version := .ofNumbers 1 20 3
    let r' : Version := .ofNumbers 1 21 7
    let b : Binary := ⟨"rc", ⟨1, 21, 0, [.number 1], []⟩⟩
    let b' : Binary := ⟨"kubectl", .ofNumbers 1 21 5⟩
    let bs : List Binary := [⟨"new", .ofNumbers 1 22 0⟩, b', b, ⟨"old", .ofNumbers 1 18 0⟩]
    r ≤ r' ∧ compatible? r bs = some b ∧ compatible? r' bs = some b' ∧ b.version ≤ b'.version := by
  intro r r' b b' bs
  have hr : r ≤ r' := by decide
  have h : compatible? r bs = some b := by decide
  have h' : compatible? r' bs = some b' := by decide
  exact ⟨hr, h, h', choice_rises_with_request hr h h'⟩

/-- **Sorting first changes no choice by the window rule.** -/
theorem compatible?_sorted (newestFirst : Bool) (requested : Version) (bs : List Binary) :
    compatible? requested (sorted newestFirst bs) = compatible? requested bs :=
  (steady_compatible? requested).sorted newestFirst bs

/-- **Sorting first does not change which binary is the most recent.** -/
theorem mostRecent?_sorted (newestFirst : Bool) (bs : List Binary) :
    mostRecent? (sorted newestFirst bs) = mostRecent? bs :=
  steady_mostRecent?.sorted newestFirst bs

/-- Asked for the version of a binary, the window rule chooses the first binary of that version. -/
theorem IsFirst.compatible?_version (h : IsFirst b bs) : compatible? b.version bs = some b :=
  compatible?_eq_some_iff.2 ⟨h, inSkewOf_self _, Or.inl ⟨le_refl _, fun _ _ _ hx => hx⟩⟩

/-- **The two rules agree on the most recent binary**: asked for its version, the window rule chooses that very
binary.  A prerelease is newest only among prereleases, and the rule never looks above the version it is asked for
while there is one at or below. -/
theorem compatible?_of_mostRecent? (h : mostRecent? bs = some b) : compatible? b.version bs = some b :=
  (mostRecent?_eq_some_iff.1 h).1.compatible?_version

end Binary

end KubectlMatch
