import Mathlib.Data.List.Forall2
import Mathlib.Data.List.Induction
import KubectlMatch.Text.Table
/-!
# Straight tables

A text stands in a line between bars, and blanks fill it up to its column (`Aligned`).  The columns of a table hold all
its cells, so its rows are made of such lines, and no line of the frame is longer than another
(`width_of_mem_tableLines`).
-/
namespace KubectlMatch.Text

variable {widths : List Nat} {texts head cells row : List (List Char)} {rows : List (List (List Char))}
  {cell line : List Char}

/-! ## Lines -/

/-- A line with a text in every column, between bars and filled up with blanks. -/
inductive Aligned : List Nat → List (List Char) → List Char → Prop
  | done : Aligned [] [] ['│']
  | next {columns blanks : Nat} {text rest : List Char} {widths : List Nat} {texts : List (List Char)} :
      width text + blanks = columns → Aligned widths texts rest →
      Aligned (columns :: widths) (text :: texts) ('│' :: ' ' :: text ++ List.replicate blanks ' ' ++ ' ' :: rest)

abbrev Fit (texts : List (List Char)) (widths : List Nat) : Prop :=
  List.Forall₂ (fun text n => width text ≤ n) texts widths

theorem rowLine_cons {text : List Char} {n : Nat} (hne : texts ≠ []) (h : Fit texts widths) :
    rowLine (n :: widths) (text :: texts) = '│' :: field n text ++ rowLine widths texts := by
  cases h with
  | nil => exact absurd rfl hne
  | cons => simp [rowLine, List.intercalate]

theorem aligned_rowLine (hne : texts ≠ []) (h : Fit texts widths) : Aligned widths texts (rowLine widths texts) := by
  induction h with
  | nil => exact absurd rfl hne
  | @cons text n texts widths hwidth hfit ih =>
    have hfill : width text + (n - width text) = n := Nat.add_sub_cancel' hwidth
    rcases eq_or_ne texts [] with rfl | htexts
    · obtain rfl : widths = [] := List.forall₂_nil_left_iff.1 hfit
      simpa [rowLine, field, List.intercalate] using Aligned.next hfill .done
    · rw [rowLine_cons htexts hfit]
      simpa [field] using Aligned.next hfill (ih htexts)

theorem width_replicate (n : Nat) (c : Char) : width (List.replicate n c) = n * charWidth c := by
  induction n with
  | zero => rw [List.replicate_zero, width_nil, Nat.zero_mul]
  | succ n ih => rw [List.replicate_succ, width_cons, ih, Nat.succ_mul, Nat.add_comm]

/-- How wide a frame around these columns is: to each belong a bar and two blanks, and a bar closes the frame. -/
def frameWidth : List Nat → Nat
  | [] => 1
  | n :: widths => n + 3 + frameWidth widths

theorem Aligned.width_eq (h : Aligned widths texts line) : width line = frameWidth widths := by
  induction h with
  | done => decide +kernel
  | next hfill _ ih =>
    have hbar : charWidth '│' = 1 := by decide +kernel
    have hblank : charWidth ' ' = 1 := by decide +kernel
    simp only [List.cons_append, width_cons, width_append, width_replicate, hbar, hblank, ih, frameWidth]
    omega

theorem width_segments {crossing : Char} (hcrossing : charWidth crossing = 1) : ∀ {widths : List Nat}, widths ≠ [] →
    width ([crossing].intercalate (widths.map fun n => List.replicate (n + 2) '─')) + 2 = frameWidth widths
  | [], h => absurd rfl h
  | [n], _ => by
    have hdash : charWidth '─' = 1 := by decide +kernel
    simp [List.intercalate, width_replicate, hdash, frameWidth]
  | n :: m :: widths, _ => by
    have hdash : charWidth '─' = 1 := by decide +kernel
    have hrest := width_segments hcrossing (List.cons_ne_nil m widths)
    simp only [List.map_cons, List.intercalate_cons_cons, width_append, width_cons, width_nil, width_replicate,
      hcrossing, hdash, frameWidth] at hrest ⊢
    omega

theorem width_rule {left crossing right : Char} (hne : widths ≠ []) (hleft : charWidth left = 1)
    (hcrossing : charWidth crossing = 1) (hright : charWidth right = 1) :
    width (rule left crossing right widths) = frameWidth widths := by
  rw [← width_segments hcrossing hne]
  simp only [rule, List.cons_append, width_cons, width_append, width_nil, hleft, hright]
  omega

/-! ## Columns -/

theorem le_foldl_max {xs : List Nat} {n : Nat} (h : n ∈ xs) : n ≤ xs.foldl max 0 :=
  (List.max?_eq_some_iff.1 (List.max?_cons' : (0 :: xs).max? = some (xs.foldl max 0))).2 n (List.mem_cons_of_mem 0 h)

theorem width_le_cellWidth (h : line ∈ cellLines cell) : width line ≤ cellWidth cell :=
  le_foldl_max (List.mem_map_of_mem h)

abbrev Hold (widths : List Nat) (cells : List (List Char)) : Prop :=
  List.Forall₂ (fun cell n => cellWidth cell ≤ n) cells widths

theorem columnWidths_concat (head : List (List Char)) (rows : List (List (List Char))) (row : List (List Char)) :
    columnWidths head (rows ++ [row]) = List.zipWith max (columnWidths head rows) (row.map cellWidth) := by
  unfold columnWidths
  rw [List.foldl_concat]

theorem Hold.max_left (h : Hold widths cells) : ∀ {row : List (List Char)}, row.length = cells.length →
    Hold (List.zipWith max widths (row.map cellWidth)) cells := by
  induction h with
  | nil => exact fun _ => .nil
  | cons hcell _ ih =>
    intro row hrow
    cases row with
    | nil => cases hrow
    | cons other row => exact .cons (Nat.le_trans hcell (Nat.le_max_left ..)) (ih (Nat.succ.inj hrow))

theorem hold_max_right : ∀ {row : List (List Char)} {widths : List Nat}, row.length = widths.length →
    Hold (List.zipWith max widths (row.map cellWidth)) row
  | [], [], _ => .nil
  | _ :: _, _ :: _, h => .cons (Nat.le_max_right ..) (hold_max_right (Nat.succ.inj h))

theorem length_columnWidths (hrows : ∀ row ∈ rows, row.length = head.length) :
    (columnWidths head rows).length = head.length := by
  induction rows using List.reverseRecOn with
  | nil => exact List.length_map cellWidth
  | append_singleton rows row ih =>
    have hwidths := ih fun r hr => hrows r (List.mem_append_left _ hr)
    have hrow := hrows row (List.mem_append_right _ List.mem_cons_self)
    rw [columnWidths_concat, List.length_zipWith, List.length_map, hwidths, hrow, Nat.min_self]

/-- **The columns of a table hold all of its cells.** -/
theorem hold_columnWidths (hrows : ∀ row ∈ rows, row.length = head.length) (hrow : row ∈ head :: rows) :
    Hold (columnWidths head rows) row := by
  induction rows using List.reverseRecOn generalizing row with
  | nil =>
    obtain rfl := List.mem_singleton.1 hrow
    exact List.forall₂_map_right_iff.2 (List.forall₂_same.2 fun _ _ => Nat.le_refl _)
  | append_singleton rows last ih =>
    have hbefore : ∀ r ∈ rows, r.length = head.length := fun r hr => hrows r (List.mem_append_left _ hr)
    have hlast : last.length = head.length := hrows last (List.mem_append_right _ List.mem_cons_self)
    rw [columnWidths_concat]
    rw [← List.cons_append, List.mem_append, List.mem_singleton] at hrow
    rcases hrow with hrow | rfl
    · have hlength : row.length = head.length := by
        rcases List.mem_cons.1 hrow with rfl | hrow
        · rfl
        · exact hbefore row hrow
      exact (ih hbefore hrow).max_left (hlast.trans hlength.symm)
    · exact hold_max_right (hlast.trans (length_columnWidths hbefore).symm)

/-! ## Rows -/

theorem Hold.fit (h : Hold widths cells) (i : Nat) :
    Fit (cells.map fun cell => (cellLines cell).getD i []) widths := by
  refine List.forall₂_map_left_iff.2 (h.imp fun cell n hcell => ?_)
  rw [List.getD_eq_getElem?_getD]
  cases hline : (cellLines cell)[i]? with
  | none => exact Nat.zero_le n
  | some line => exact Nat.le_trans (width_le_cellWidth (List.mem_of_getElem? hline)) hcell

/-- A row is made of lines, in each of them the cells' lines that stand at one height. -/
theorem aligned_of_mem_rowLines (hne : cells ≠ []) (h : Hold widths cells) (hline : line ∈ rowLines widths cells) :
    ∃ i, Aligned widths (cells.map fun cell => (cellLines cell).getD i []) line := by
  unfold rowLines at hline
  obtain ⟨i, -, rfl⟩ := List.mem_map.1 hline
  rw [List.map_map]
  exact ⟨i, aligned_rowLine (by simpa using hne) (h.fit i)⟩

/-- **All lines of a table are equally wide**, the rules and the lines of the rows. -/
theorem width_of_mem_tableLines (hhead : head ≠ []) (hrows : ∀ row ∈ rows, row.length = head.length)
    (hline : line ∈ tableLines head rows) : width line = frameWidth (columnWidths head rows) := by
  have hlength := length_columnWidths hrows
  have hne : columnWidths head rows ≠ [] :=
    fun h => hhead (List.length_eq_zero_iff.1 (hlength ▸ congrArg List.length h))
  have hrow : ∀ row ∈ head :: rows, ∀ line ∈ rowLines (columnWidths head rows) row,
      width line = frameWidth (columnWidths head rows) := by
    intro row hrow line hline
    have hcells : row ≠ [] := by
      rintro rfl
      exact hne (List.forall₂_nil_left_iff.1 (hold_columnWidths hrows hrow))
    obtain ⟨i, haligned⟩ := aligned_of_mem_rowLines hcells (hold_columnWidths hrows hrow) hline
    exact haligned.width_eq
  simp only [tableLines, List.cons_append, List.mem_cons, List.mem_append, List.mem_flatMap, List.not_mem_nil,
    or_false] at hline
  rcases hline with rfl | (hline | rfl | ⟨row, hmem, hline⟩) | rfl
  · exact width_rule hne (by decide +kernel) (by decide +kernel) (by decide +kernel)
  · exact hrow head List.mem_cons_self line hline
  · exact width_rule hne (by decide +kernel) (by decide +kernel) (by decide +kernel)
  · exact hrow row (List.mem_cons_of_mem head hmem) line hline
  · exact width_rule hne (by decide +kernel) (by decide +kernel) (by decide +kernel)

end KubectlMatch.Text
