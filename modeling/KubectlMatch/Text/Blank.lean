/-!
# Blank characters

The characters with Unicode's `White_Space` property, and what the rest of the library does
with them: `trim` takes them off both ends of a text, `firstWord` is what stands before the
first of them.  Texts are lists of characters here; callers convert at their own boundary.
-/
namespace KubectlMatch.Text

/-- The characters with Unicode's `White_Space` property. -/
def isBlank (c : Char) : Bool :=
  let n := c.toNat
  (0x09 ≤ n && n ≤ 0x0D) || n == 0x20 || n == 0x85 || n == 0xA0 || n == 0x1680 ||
    (0x2000 ≤ n && n ≤ 0x200A) || n == 0x2028 || n == 0x2029 || n == 0x202F || n == 0x205F ||
    n == 0x3000

def trimStart (s : List Char) : List Char := s.dropWhile isBlank

def trimEnd (s : List Char) : List Char := (s.reverse.dropWhile isBlank).reverse

def trim (s : List Char) : List Char := trimEnd (trimStart s)

/-- A text of blanks only, the empty one included. -/
def isAllBlank (s : List Char) : Bool := s.all isBlank

/-- The first run of characters without a blank; empty if there is none. -/
def firstWord (s : List Char) : List Char := (trimStart s).takeWhile (fun c => !isBlank c)

def dropTrailing (c : Char) (s : List Char) : List Char :=
  (s.reverse.dropWhile (· == c)).reverse

/-! ## Characters at the end -/

section Trailing

variable {c : Char} {s t : List Char}

theorem dropTrailing_append_replicate (n : Nat) :
    dropTrailing c (t ++ List.replicate n c) = dropTrailing c t := by
  unfold dropTrailing
  rw [List.reverse_append, List.reverse_replicate, List.dropWhile_append_of_pos]
  intro x hx
  exact beq_iff_eq.2 (List.eq_of_mem_replicate hx)

theorem dropTrailing_eq_self (h : t.getLast? ≠ some c) : dropTrailing c t = t := by
  unfold dropTrailing
  rw [← List.head?_reverse] at h
  cases hrev : t.reverse with
  | nil =>
    rw [List.reverse_eq_nil_iff.1 hrev]
    rfl
  | cons x rest =>
    rw [hrev, List.head?_cons] at h
    have hx : ¬ (x == c) = true := fun hx => h (congrArg some (beq_iff_eq.1 hx))
    rw [List.dropWhile_cons_of_neg (p := (· == c)) hx, ← hrev, List.reverse_reverse]

/-- What is left without a character at the end is what that character follows, and does not end
in it. -/
theorem dropTrailing_eq_iff :
    dropTrailing c s = t ↔ (∃ n, s = t ++ List.replicate n c) ∧ t.getLast? ≠ some c := by
  constructor
  · rintro rfl
    unfold dropTrailing
    refine ⟨⟨(s.reverse.takeWhile (· == c)).length, ?_⟩, ?_⟩
    · have hall : s.reverse.takeWhile (· == c) =
          List.replicate (s.reverse.takeWhile (· == c)).length c :=
        List.eq_replicate_iff.2
          ⟨rfl, fun x hx => beq_iff_eq.1 (List.all_eq_true.1 List.all_takeWhile x hx)⟩
      rw [← List.reverse_replicate, ← hall, ← List.reverse_append, List.takeWhile_append_dropWhile,
        List.reverse_reverse]
    · intro h
      rw [List.getLast?_reverse] at h
      have hnot := List.head?_dropWhile_not (· == c) s.reverse
      rw [h] at hnot
      simp at hnot
  · rintro ⟨⟨n, rfl⟩, h⟩
    rw [dropTrailing_append_replicate, dropTrailing_eq_self h]

end Trailing

end KubectlMatch.Text
