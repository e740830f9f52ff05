import Mathlib.Order.Lattice
import KubectlMatch.Binary.Selection
import KubectlMatch.Proofs.Version.Order
/-!
# Choosing by preference

A preference says of versions which of them count and how high each of those ranks.  Its choice from a list is the
first of the highest-ranking binaries that count (`best?_eq_some_iff`).  Of the list's order such a choice reads only
which of equal versions is first, and a stable sort keeps that (`isFirst_sorted`).  So the choice is steady
(`steady_best?`): it is the same after a sort, has the same version after any permutation, and stays when another
binary is left out or comes in without being chosen itself.  A steady choice with another to fall back on is steady
again (`Steady.or`).
-/
namespace KubectlMatch

namespace Binary

/-- **The first of its version** in a list. -/
def IsFirst (b : Binary) (bs : List Binary) : Prop := bs.find? (fun x => x.version = b.version) = some b

namespace IsFirst

variable {b c x : Binary} {bs before after : List Binary}

theorem mem (h : IsFirst b bs) : b ∈ bs := List.mem_of_find?_eq_some h

theorem unique (hb : IsFirst b bs) (hc : IsFirst c bs) (h : b.version = c.version) : b = c := by
  unfold IsFirst at hb hc
  rw [h, hc] at hb
  exact (Option.some.inj hb).symm

theorem head (b : Binary) (bs : List Binary) : IsFirst b (b :: bs) := by
  unfold IsFirst
  rw [List.find?_cons_of_pos (by simp)]

theorem cons_of_ne (h : c.version ≠ b.version) : IsFirst b (c :: bs) ↔ IsFirst b bs := by
  unfold IsFirst
  rw [List.find?_cons_of_neg (by simpa using h)]

theorem eq_of_version_eq (h : IsFirst b (c :: bs)) (hcb : c.version = b.version) : b = c :=
  (unique (head c bs) h hcb).symm

theorem iff_split : IsFirst b bs ↔
    ∃ before after, bs = before ++ b :: after ∧ ∀ x ∈ before, x.version ≠ b.version := by
  unfold IsFirst
  rw [List.find?_eq_some_iff_append]
  simp

theorem exists_of_mem (h : x ∈ bs) : ∃ b, IsFirst b bs ∧ b.version = x.version := by
  have hfound : (bs.find? (fun y => y.version = x.version)).isSome = true :=
    List.find?_isSome.2 ⟨x, h, decide_eq_true rfl⟩
  obtain ⟨b, hb⟩ := Option.isSome_iff_exists.1 hfound
  have hbx : b.version = x.version := by simpa using List.find?_some hb
  refine ⟨b, ?_, hbx⟩
  unfold IsFirst
  rw [hbx, hb]

theorem append_iff : IsFirst b (before ++ after) ↔
    IsFirst b before ∨ (∀ x ∈ before, x.version ≠ b.version) ∧ IsFirst b after := by
  unfold IsFirst
  rw [List.find?_append, Option.or_eq_some_iff, List.find?_eq_none]
  simp

theorem removed (h : IsFirst b (before ++ x :: after)) (hx : b ≠ x ∨ x ∈ before) : IsFirst b (before ++ after) := by
  rw [append_iff] at h ⊢
  rcases h with h | ⟨hbefore, h⟩
  · exact Or.inl h
  · by_cases hxb : x.version = b.version
    · rcases hx with hx | hx
      · exact absurd (h.eq_of_version_eq hxb) hx
      · exact absurd hxb (hbefore x hx)
    · exact Or.inr ⟨hbefore, (cons_of_ne hxb).1 h⟩

theorem filter_iff (p : Version → Bool) :
    IsFirst b (bs.filter fun x => p x.version) ↔ p b.version = true ∧ IsFirst b bs := by
  have hkept : p b.version = true → (bs.filter fun x => p x.version).find? (fun x => x.version = b.version)
      = bs.find? (fun x => x.version = b.version) := by
    intro hp
    rw [List.find?_filter]
    congr 1
    funext x
    by_cases hx : x.version = b.version
    · simp [hx, hp]
    · simp [hx]
  unfold IsFirst
  constructor
  · intro h
    have hp : p b.version = true := by simpa using (List.mem_filter.1 (List.mem_of_find?_eq_some h)).2
    rw [hkept hp] at h
    exact ⟨hp, h⟩
  · rintro ⟨hp, h⟩
    rw [hkept hp]
    exact h

end IsFirst

variable {b : Binary} {bs : List Binary}

theorem subset_added (before : List Binary) (x : Binary) (after : List Binary) :
    before ++ after ⊆ before ++ x :: after :=
  (List.Sublist.append_left (List.sublist_cons_self x after) before).subset

/-! ## Sorting -/

/-- Whether a sort leaves a binary before another. -/
def inOrder (newestFirst : Bool) (a b : Binary) : Bool :=
  if newestFirst then decide (b.version ≤ a.version) else decide (a.version ≤ b.version)

theorem sorted_eq (newestFirst : Bool) (bs : List Binary) :
    sorted newestFirst bs = bs.mergeSort (inOrder newestFirst) := rfl

theorem inOrder_trans (newestFirst : Bool) (a b c : Binary) (hab : inOrder newestFirst a b = true)
    (hbc : inOrder newestFirst b c = true) : inOrder newestFirst a c = true := by
  cases newestFirst
  · exact decide_eq_true (le_trans (of_decide_eq_true hab) (of_decide_eq_true hbc))
  · exact decide_eq_true (le_trans (of_decide_eq_true hbc) (of_decide_eq_true hab))

theorem inOrder_total (newestFirst : Bool) (a b : Binary) :
    (inOrder newestFirst a b || inOrder newestFirst b a) = true := by
  rw [Bool.or_eq_true]
  cases newestFirst
  · exact (le_total a.version b.version).imp decide_eq_true decide_eq_true
  · exact (le_total b.version a.version).imp decide_eq_true decide_eq_true

theorem inOrder_of_version_eq (newestFirst : Bool) {a b : Binary} (h : a.version = b.version) :
    inOrder newestFirst a b = true := by
  cases newestFirst
  · exact decide_eq_true (le_of_eq h)
  · exact decide_eq_true (le_of_eq h.symm)

/-- **The sort is stable**: the binaries of one version keep their order. -/
theorem filter_version_sorted (newestFirst : Bool) (v : Version) (bs : List Binary) :
    (sorted newestFirst bs).filter (fun x => x.version = v) = bs.filter (fun x => x.version = v) := by
  have hsame : (bs.filter (fun x => x.version = v)).Pairwise (fun a b => inOrder newestFirst a b) := by
    refine List.pairwise_of_forall_mem_list (fun a ha b hb => inOrder_of_version_eq newestFirst ?_)
    have ha : a.version = v := by simpa using (List.mem_filter.1 ha).2
    have hb : b.version = v := by simpa using (List.mem_filter.1 hb).2
    rw [ha, hb]
  have hsub := List.sublist_mergeSort (inOrder_trans newestFirst) (inOrder_total newestFirst) hsame
    List.filter_sublist
  have hsub := hsub.filter (fun x => x.version = v)
  rw [List.filter_filter, ← sorted_eq] at hsub
  simp only [Bool.and_self] at hsub
  refine (hsub.eq_of_length ?_).symm
  exact ((sorted_perm newestFirst bs).filter _).length_eq.symm

theorem mem_sorted {newestFirst : Bool} : b ∈ sorted newestFirst bs ↔ b ∈ bs := (sorted_perm newestFirst bs).mem_iff

theorem isFirst_sorted {newestFirst : Bool} : IsFirst b (sorted newestFirst bs) ↔ IsFirst b bs := by
  unfold IsFirst
  rw [← List.head?_filter, ← List.head?_filter, filter_version_sorted]

/-! ## Folding -/

section Fold

variable {κ : Type} [LinearOrder κ] (key : Version → κ)

/-- Of two binaries the one with the greater key; the first one of equals. -/
def greater (a b : Binary) : Binary := if key a.version < key b.version then b else a

/-- **A fold by keys ends at the first binary with the greatest key.**  The induction is on the list; the binary that
the fold carries stands before it, and a step puts one of the first two binaries in front. -/
theorem foldl_greater (hkey : Function.Injective key) : ∀ (bs : List Binary) (b : Binary),
    (∀ x ∈ b :: bs, key x.version ≤ key (bs.foldl (greater key) b).version) ∧
      IsFirst (bs.foldl (greater key) b) (b :: bs)
  | [], b => ⟨fun x hx => by rw [List.mem_singleton.1 hx]; exact le_refl _, IsFirst.head b []⟩
  | c :: bs, b => by
    rw [List.foldl_cons]
    obtain ⟨hmax, hfirst⟩ := foldl_greater hkey bs (greater key b c)
    generalize hm : bs.foldl (greater key) (greater key b c) = m at hmax hfirst ⊢
    by_cases hbc : key b.version < key c.version
    · have hg : greater key b c = c := if_pos hbc
      rw [hg] at hmax hfirst
      have hbm : key b.version < key m.version := lt_of_lt_of_le hbc (hmax c List.mem_cons_self)
      refine ⟨fun x hx => ?_, ?_⟩
      · rcases List.mem_cons.1 hx with rfl | hx
        · exact le_of_lt hbm
        · exact hmax x hx
      · have hne : b.version ≠ m.version := fun h => by rw [h] at hbm; exact lt_irrefl _ hbm
        exact (IsFirst.cons_of_ne hne).2 hfirst
    · have hg : greater key b c = b := if_neg hbc
      rw [hg] at hmax hfirst
      have hcb : key c.version ≤ key b.version := not_lt.1 hbc
      have hbm : key b.version ≤ key m.version := hmax b List.mem_cons_self
      refine ⟨fun x hx => ?_, ?_⟩
      · rcases List.mem_cons.1 hx with rfl | hx
        · exact hbm
        · rcases List.mem_cons.1 hx with rfl | hx
          · exact le_trans hcb hbm
          · exact hmax x (List.mem_cons_of_mem _ hx)
      · by_cases hbv : b.version = m.version
        · rw [hfirst.eq_of_version_eq hbv]
          exact IsFirst.head b (c :: bs)
        · have hcv : c.version ≠ m.version := fun h => by
            rw [h] at hcb
            exact hbv (hkey (le_antisymm hbm hcb))
          rw [IsFirst.cons_of_ne hbv, IsFirst.cons_of_ne hcv]
          exact (IsFirst.cons_of_ne hbv).1 hfirst

/-- The first of the binaries with the greatest key. -/
def greatest? : List Binary → Option Binary
  | [] => none
  | b :: bs => some (bs.foldl (greater key) b)

theorem greatest?_eq_none_iff : greatest? key bs = none ↔ bs = [] := by
  cases bs <;> simp [greatest?]

theorem greatest?_eq_some_iff (hkey : Function.Injective key) : greatest? key bs = some b ↔
    IsFirst b bs ∧ ∀ x ∈ bs, key x.version ≤ key b.version := by
  cases bs with
  | nil => simp [greatest?, IsFirst]
  | cons a bs =>
    obtain ⟨hmax, hfirst⟩ := foldl_greater key hkey bs a
    simp only [greatest?, Option.some.injEq]
    constructor
    · rintro rfl
      exact ⟨hfirst, hmax⟩
    · rintro ⟨hbf, hb⟩
      exact hfirst.unique hbf (hkey (le_antisymm (hb _ hfirst.mem) (hmax b hbf.mem)))

end Fold

end Binary

/-! ## Preferences -/

/-- **A preference among versions**: which of them count, and how high each ranks.  No two rank alike. -/
structure Preference (κ : Type) where
  counts : Version → Bool
  rank : Version → κ
  injective : Function.Injective rank

namespace Preference

open Binary (IsFirst greatest?)

variable {κ : Type} [LinearOrder κ] (p : Preference κ) {b x : Binary} {bs cs before after : List Binary}

/-- The first of the highest-ranking binaries that count. -/
def best? (bs : List Binary) : Option Binary := greatest? p.rank (bs.filter fun b => p.counts b.version)

variable {p}

theorem best?_eq_some_iff : p.best? bs = some b ↔ IsFirst b bs ∧ p.counts b.version = true ∧
    ∀ x ∈ bs, p.counts x.version = true → p.rank x.version ≤ p.rank b.version := by
  unfold best?
  rw [Binary.greatest?_eq_some_iff p.rank p.injective, IsFirst.filter_iff p.counts]
  constructor
  · rintro ⟨⟨hcounts, hfirst⟩, hmax⟩
    exact ⟨hfirst, hcounts, fun x hx hxc => hmax x (List.mem_filter.2 ⟨hx, hxc⟩)⟩
  · rintro ⟨hfirst, hcounts, hmax⟩
    refine ⟨⟨hcounts, hfirst⟩, fun x hx => ?_⟩
    obtain ⟨hx, hxc⟩ := List.mem_filter.1 hx
    exact hmax x hx hxc

theorem best?_eq_none_iff : p.best? bs = none ↔ ∀ x ∈ bs, p.counts x.version = false := by
  unfold best?
  rw [Binary.greatest?_eq_none_iff, List.filter_eq_nil_iff]
  simp only [Bool.not_eq_true]

theorem best?_sorted (newestFirst : Bool) (bs : List Binary) : p.best? (Binary.sorted newestFirst bs) = p.best? bs := by
  ext b
  rw [best?_eq_some_iff, best?_eq_some_iff, Binary.isFirst_sorted]
  simp only [Binary.mem_sorted]

theorem version_best?_of_perm (h : bs.Perm cs) :
    (p.best? bs).map Binary.version = (p.best? cs).map Binary.version := by
  cases hb : p.best? bs with
  | none =>
    have hcs : p.best? cs = none := best?_eq_none_iff.2 fun x hx => best?_eq_none_iff.1 hb x (h.mem_iff.2 hx)
    rw [hcs]
  | some b =>
    obtain ⟨hfirst, hcounts, hmax⟩ := best?_eq_some_iff.1 hb
    obtain ⟨c, hc, hcb⟩ := IsFirst.exists_of_mem (h.mem_iff.1 hfirst.mem)
    have hcs : p.best? cs = some c := by
      refine best?_eq_some_iff.2 ⟨hc, ?_, fun x hx hxc => ?_⟩
      · rw [hcb]
        exact hcounts
      · rw [hcb]
        exact hmax x (h.mem_iff.2 hx) hxc
    rw [hcs, Option.map_some, Option.map_some, hcb]

theorem best?_removed (hx : p.best? (before ++ x :: after) ≠ some x ∨ x ∈ before) :
    p.best? (before ++ after) = p.best? (before ++ x :: after) := by
  have hmem := Binary.subset_added before x after
  cases hb : p.best? (before ++ x :: after) with
  | none => exact best?_eq_none_iff.2 fun y hy => best?_eq_none_iff.1 hb y (hmem hy)
  | some b =>
    obtain ⟨hfirst, hcounts, hmax⟩ := best?_eq_some_iff.1 hb
    have hbx : b ≠ x ∨ x ∈ before := hx.imp_left fun hx h => hx (by rw [hb, h])
    exact best?_eq_some_iff.2 ⟨hfirst.removed hbx, hcounts, fun y hy => hmax y (hmem hy)⟩

end Preference

/-! ## Steady choices -/

namespace Binary

/-- **A choice that does not depend on how its list is presented**, nor on the binaries that it does not choose. -/
structure Steady (choose : List Binary → Option Binary) : Prop where
  /-- Sorting first, oldest or newest first, does not change the choice. -/
  sorted : ∀ newestFirst bs, choose (Binary.sorted newestFirst bs) = choose bs
  /-- No permutation changes the version that is chosen. -/
  permuted : ∀ bs cs : List Binary, bs.Perm cs → (choose bs).map version = (choose cs).map version
  /-- Leaving out any other place than that of the choice does not change it.  The choice is the first of its version,
  so a copy of it is at another place if there is one before it. -/
  removed : ∀ before x after, choose (before ++ x :: after) ≠ some x ∨ x ∈ before →
    choose (before ++ after) = choose (before ++ x :: after)
  /-- A binary that is added, at any place, is the choice or does not change it. -/
  added : ∀ before x after,
    choose (before ++ x :: after) = choose (before ++ after) ∨ choose (before ++ x :: after) = some x
  /-- An added binary takes no choice away. -/
  isSome_added : ∀ before x after, (choose (before ++ after)).isSome → (choose (before ++ x :: after)).isSome

namespace Steady

variable {choose choose₁ choose₂ : List Binary → Option Binary}

/-- What is added can be removed again, so the last two laws follow from that of removal. -/
theorem of_removed (hsorted : ∀ newestFirst bs, choose (Binary.sorted newestFirst bs) = choose bs)
    (hpermuted : ∀ bs cs : List Binary, bs.Perm cs → (choose bs).map version = (choose cs).map version)
    (hremoved : ∀ before x after, choose (before ++ x :: after) ≠ some x ∨ x ∈ before →
      choose (before ++ after) = choose (before ++ x :: after)) : Steady choose := by
  have hadded : ∀ before x after,
      choose (before ++ x :: after) = choose (before ++ after) ∨ choose (before ++ x :: after) = some x := by
    intro before x after
    by_cases hx : choose (before ++ x :: after) = some x
    · exact Or.inr hx
    · exact Or.inl (hremoved before x after (Or.inl hx)).symm
  refine ⟨hsorted, hpermuted, hremoved, hadded, fun before x after hsome => ?_⟩
  rcases hadded before x after with h | h
  · rw [h]
    exact hsome
  · rw [h]
    rfl

/-- **One steady choice with another to fall back on is steady.** -/
protected theorem or (h₁ : Steady choose₁) (h₂ : Steady choose₂) :
    Steady fun bs => (choose₁ bs).or (choose₂ bs) := by
  refine of_removed (fun newestFirst bs => ?_) (fun bs cs hperm => ?_) (fun before x after hx => ?_)
  · rw [h₁.sorted, h₂.sorted]
  · rw [Option.map_or, Option.map_or, h₁.permuted bs cs hperm, h₂.permuted bs cs hperm]
  · cases hc : choose₁ (before ++ x :: after) with
    | some b =>
      rw [hc] at hx
      rw [h₁.removed before x after (by rw [hc]; exact hx), hc]
      rfl
    | none =>
      rw [hc] at hx
      rw [h₁.removed before x after (Or.inl (by rw [hc]; exact nofun)), hc, h₂.removed before x after hx]

end Steady

end Binary

/-- **What a preference chooses is steady.** -/
theorem Preference.steady_best? {κ : Type} [LinearOrder κ] (p : Preference κ) : Binary.Steady p.best? :=
  .of_removed best?_sorted (fun _ _ => version_best?_of_perm) (fun _ _ _ => best?_removed)

end KubectlMatch
