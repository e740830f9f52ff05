import KubectlMatch.Cli.Run
import KubectlMatch.Proofs.Binary.Sorting
import KubectlMatch.Proofs.Text.Table
import KubectlMatch.Proofs.Version.Spelling
/-!
# What a listing tells

A listing has a section for each source, and a section tells one of three things: why the source could not be searched,
that it has no binaries, or all its binaries in a table (`Tells`).  In the table they stand by version, those of one
version in the order of the source, and each under its number with its own version and path (`Numbered`).
-/
namespace KubectlMatch.Listing

open Text

variable {b : Binary} {bs : List Binary} {n : Nat} {widths : List Nat}

/-! ## Rows -/

/-- Lines that show binaries one after the other, numbered from `n`.  The number, the version and the path of a binary
stand in one line; a path of several lines goes on below its first. -/
inductive Numbered (widths : List Nat) : Nat → List Binary → List (List Char) → Prop
  | done (n : Nat) : Numbered widths n [] []
  | next {n : Nat} {b : Binary} {bs : List Binary} {first line : List Char} {more below lines : List (List Char)} :
      b.path.shown.toList.splitOn '\n' = first :: more →
      Aligned widths [Nat.toDigits 10 n, b.version.chars, first] line →
      List.Forall₂ (fun text line => Aligned widths [[], [], text] line) more below →
      Numbered widths (n + 1) bs lines →
      Numbered widths n (b :: bs) (line :: below ++ lines)

theorem cellLines_digits (n : Nat) : cellLines (Nat.toDigits 10 n) = [Nat.toDigits 10 n] :=
  List.splitOn_eq_singleton fun h => by cases isDigit_of_mem_decimal h

theorem cellLines_version (v : Version) : cellLines v.chars = [v.chars] :=
  List.splitOn_eq_singleton fun h => absurd (Version.bounds_of_mem_chars h).1 (by decide)

/-- A row is as high as its path, which alone goes on below the first line. -/
theorem rowLines_row {first : List Char} {more : List (List Char)}
    (hpath : b.path.shown.toList.splitOn '\n' = first :: more) :
    rowLines widths (row n b) = rowLine widths [Nat.toDigits 10 n, b.version.chars, first] ::
      more.map fun text => rowLine widths [[], [], text] := by
  have hcells : (row n b).map cellLines = [[Nat.toDigits 10 n], [b.version.chars], first :: more] := by
    show [cellLines _, cellLines _, b.path.shown.toList.splitOn '\n'] = _
    rw [cellLines_digits, cellLines_version, hpath]
  have hheight : ([[Nat.toDigits 10 n], [b.version.chars], first :: more].map List.length).foldl max 0 =
      more.length + 1 := by simp
  unfold rowLines
  rw [hcells]
  dsimp only
  rw [hheight, List.range_succ_eq_map, List.map_cons, List.map_map]
  refine congrArg₂ List.cons rfl (List.ext_getElem (by simp) fun i hi hi' => ?_)
  rw [List.length_map] at hi'
  simp [List.getD_eq_getElem?_getD, hi']

theorem fit_row {text : List Char} (h : Hold widths (row n b)) (htext : text ∈ cellLines b.path.shown.toList) :
    Fit [Nat.toDigits 10 n, b.version.chars, text] widths ∧ Fit [[], [], text] widths := by
  have hdigits : Nat.toDigits 10 n ∈ cellLines (Nat.toDigits 10 n) := by rw [cellLines_digits]; exact List.mem_cons_self
  have hchars : b.version.chars ∈ cellLines b.version.chars := by rw [cellLines_version]; exact List.mem_cons_self
  obtain ⟨w₁, widths₁, hnumber, h₁, rfl⟩ := List.forall₂_cons_left_iff.1 h
  obtain ⟨w₂, widths₂, hversion, h₂, rfl⟩ := List.forall₂_cons_left_iff.1 h₁
  obtain ⟨w₃, widths₃, hpath, h₃, rfl⟩ := List.forall₂_cons_left_iff.1 h₂
  obtain rfl := List.forall₂_nil_left_iff.1 h₃
  have hlast : Fit [text] [w₃] := .cons (Nat.le_trans (width_le_cellWidth htext) hpath) .nil
  refine ⟨.cons ?_ (.cons ?_ hlast), .cons (Nat.zero_le w₁) (.cons (Nat.zero_le w₂) hlast)⟩
  · exact Nat.le_trans (width_le_cellWidth hdigits) hnumber
  · exact Nat.le_trans (width_le_cellWidth hchars) hversion

/-- The lines of a binary's row show it under its number, if its cells fit. -/
theorem Numbered.cons {lines : List (List Char)} (h : Hold widths (row n b))
    (hlines : Numbered widths (n + 1) bs lines) : Numbered widths n (b :: bs) (rowLines widths (row n b) ++ lines) := by
  obtain ⟨first, more, hpath⟩ := List.exists_cons_of_ne_nil (List.splitOn_ne_nil '\n' b.path.shown.toList)
  have hfit : ∀ text ∈ first :: more,
      Fit [Nat.toDigits 10 n, b.version.chars, text] widths ∧ Fit [[], [], text] widths :=
    fun text htext => fit_row h (by rw [cellLines, hpath]; exact htext)
  rw [rowLines_row hpath]
  refine .next hpath (aligned_rowLine (by simp) (hfit first List.mem_cons_self).1) ?_ hlines
  refine List.forall₂_map_right_iff.2 (List.forall₂_same.2 fun text htext => ?_)
  exact aligned_rowLine (by simp) (hfit text (List.mem_cons_of_mem first htext)).2

theorem mapIdx_row_cons : ((b :: bs).mapIdx fun i b => row (i + n) b) =
    row n b :: bs.mapIdx fun i b => row (i + (n + 1)) b := by
  simp only [List.mapIdx_cons, Nat.zero_add, Nat.add_assoc, Nat.add_comm 1 n]

theorem numbered_rows : ∀ {bs : List Binary} {n : Nat}, (∀ r ∈ bs.mapIdx (fun i b => row (i + n) b), Hold widths r) →
    Numbered widths n bs ((bs.mapIdx fun i b => row (i + n) b).flatMap (rowLines widths))
  | [], n, _ => .done n
  | b :: bs, n, h => by
    rw [mapIdx_row_cons] at h ⊢
    rw [List.flatMap_cons]
    exact .cons (h _ List.mem_cons_self) (numbered_rows fun r hr => h r (List.mem_cons_of_mem _ hr))

/-! ## Sections -/

def ended (lines : List (List Char)) : List Char := lines.flatMap fun line => line ++ ['\n']

theorem ended_nil : ended [] = [] := rfl

theorem ended_cons (line : List Char) (lines : List (List Char)) :
    ended (line :: lines) = line ++ '\n' :: ended lines := by simp [ended]

theorem intercalate_append_eq_ended {lines : List (List Char)} (hne : lines ≠ []) :
    ['\n'].intercalate lines ++ ['\n'] = ended lines := by
  induction lines with
  | nil => exact absurd rfl hne
  | cons line lines ih =>
    rw [ended_cons]
    rcases eq_or_ne lines [] with rfl | hlines
    · simp [ended]
    · rw [← ih hlines, List.intercalate_cons_of_ne_nil hlines, List.append_assoc, List.append_assoc,
        List.singleton_append]

/-- The same binaries by version, those of one version in the order in which they were. -/
structure ByVersion (bs cs : List Binary) : Prop where
  perm : cs.Perm bs
  ordered : cs.Pairwise fun a b => a.version ≤ b.version
  stable : ∀ v, cs.filter (fun b => b.version = v) = bs.filter (fun b => b.version = v)

theorem byVersion_sorted (bs : List Binary) : ByVersion bs (Binary.sorted false bs) where
  perm := Binary.sorted_perm false bs
  ordered := (Binary.pairwise_sorted false bs).imp of_decide_eq_true
  stable := fun v => Binary.filter_version_sorted false v bs

/-- What a section says of what its source has answered, line by line. -/
inductive Tells (title : String) : Except FinderError (List Binary) → List (List Char) → Prop
  | failed (e : FinderError) :
      Tells title (.error e) [title.toList, "Error retrieving binaries: ".toList ++ e.message.toList]
  | nothing : Tells title (.ok []) [title.toList, "No binaries found.".toList]
  | listed {bs cs : List Binary} {widths : List Nat} {names : List Char} {lines : List (List Char)} :
      bs ≠ [] → ByVersion bs cs → Aligned widths ["#".toList, "Version".toList, "Binary".toList] names →
      Numbered widths 1 cs lines →
      Tells title (.ok bs) (title.toList :: rule '┌' '┬' '┐' widths :: names :: rule '├' '┼' '┤' widths :: lines ++
        [rule '└' '┴' '┘' widths])

/-- A source that has binaries gets the table of all of them. -/
theorem tells_table (title : String) (hne : bs ≠ []) :
    Tells title (.ok bs) (title.toList :: tableLines head (rows bs)) := by
  have hlengths : ∀ r ∈ rows bs, r.length = head.length := by
    intro r hr
    obtain ⟨i, hi, rfl⟩ := List.mem_mapIdx.1 hr
    rfl
  have hhead : Fit ["#".toList, "Version".toList, "Binary".toList] (columnWidths head (rows bs)) :=
    (hold_columnWidths hlengths List.mem_cons_self).fit 0
  have hrows : ∀ r ∈ rows bs, Hold (columnWidths head (rows bs)) r := fun r hr =>
    hold_columnWidths hlengths (List.mem_cons_of_mem head hr)
  exact .listed hne (byVersion_sorted bs) (aligned_rowLine (by simp) hhead) (numbered_rows hrows)

theorem titled_eq (title : String) (answer : Except FinderError (List Binary)) :
    titled title answer = ended [title.toList, body answer] := by
  unfold titled
  rw [ended_cons, ended_cons, ended_nil, List.append_assoc, List.cons_append]

theorem exists_tells (title : String) (answer : Except FinderError (List Binary)) :
    ∃ lines, Tells title answer lines ∧ titled title answer = ended lines := by
  rcases answer with e | _ | ⟨b, bs⟩
  · exact ⟨_, .failed e, titled_eq title _⟩
  · exact ⟨_, .nothing, titled_eq title _⟩
  · refine ⟨_, tells_table title (List.cons_ne_nil b bs), ?_⟩
    rw [titled_eq, ended_cons, ended_cons, ended_nil, ended_cons, ← intercalate_append_eq_ended (by simp [tableLines])]
    rfl

/-- **A listing tells of either source what it has answered, and of neither anything else**, for all pairs of answers.

The text has a section for the search path, two line ends and a section for the cache.  Each section is made from its
own source's answer, so it reads the same whatever the other source has answered.  A failure is given with its error,
an answer without binaries in words.  Of all others there is a table: its rows are numbered from one without a gap and
show each binary once with its own version and path, the versions never decreasing and those of one version in the
order of the answer. -/
theorem render_tells_each_source : ∃ system cached : Except FinderError (List Binary) → List (List Char),
    (∀ answer, Tells "system-wide kubectl binaries" answer (system answer)) ∧
    (∀ answer, Tells "local kubectl binaries" answer (cached answer)) ∧
    ∀ a b, render a b = String.ofList (ended (system a) ++ "\n\n".toList ++ ended (cached b)) := by
  choose system hsystem htitled using exists_tells "system-wide kubectl binaries"
  choose cached hcached htitled' using exists_tells "local kubectl binaries"
  refine ⟨system, cached, hsystem, hcached, fun a b => ?_⟩
  unfold render
  rw [htitled, htitled']
  simp

end KubectlMatch.Listing
