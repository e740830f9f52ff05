import Mathlib.Data.List.TakeWhile
import KubectlMatch.Proofs.Files.Walks
/-!
# Spellings of paths

What `join` and `parent?` do to the names of a path.  A directory's path and one more name have the directory's names
and that one, and the path above them has the directory's names again, up to idle parts at their end.  Every path above
another has the first of its names.
-/
namespace KubectlMatch

namespace Path

variable {p q dir name : Path} {s : List UInt8} {xs ys : List (List UInt8)}

/-! ## The parts between the slashes -/

theorem not_mem_of_mem_splitOn {b : UInt8} : ∀ {bytes s : List UInt8}, s ∈ bytes.splitOn b → b ∉ s
  | [], s, hs => by
    rw [List.splitOn_nil, List.mem_singleton] at hs
    rw [hs]
    exact List.not_mem_nil
  | a :: rest, s, hs => by
    rw [List.splitOn_cons_eq_if_modifyHead] at hs
    split at hs
    · rcases List.mem_cons.1 hs with rfl | hs
      · exact List.not_mem_nil
      · exact not_mem_of_mem_splitOn hs
    · rename_i hb
      obtain ⟨first, more, hfirst⟩ := List.exists_cons_of_ne_nil (List.splitOn_ne_nil b rest)
      rw [hfirst, List.modifyHead_cons] at hs
      rcases List.mem_cons.1 hs with rfl | hs
      · intro hmem
        rcases List.mem_cons.1 hmem with rfl | hmem
        · exact hb (beq_self_eq_true b)
        · exact not_mem_of_mem_splitOn (hfirst ▸ List.mem_cons_self) hmem
      · exact not_mem_of_mem_splitOn (hfirst ▸ List.mem_cons_of_mem first hs)

theorem not_mem_slash_of_mem (h : s ∈ p.segments) : slash ∉ s := not_mem_of_mem_splitOn h

theorem segments_ne_nil (p : Path) : p.segments ≠ [] := List.splitOn_ne_nil slash p.bytes

theorem ofSegments_segments (p : Path) : ofSegments p.segments = p :=
  congrArg HostText.mk (List.intercalate_splitOn slash)

theorem segments_ofSegments (hne : xs ≠ []) (h : ∀ s ∈ xs, slash ∉ s) : (ofSegments xs).segments = xs :=
  List.splitOn_intercalate slash h hne

/-- The names among some parts. -/
def namesOf (xs : List (List UInt8)) : List FileName := (xs.filter fun s => !s.isEmpty).map HostText.mk

theorem namesOf_append : namesOf (xs ++ ys) = namesOf xs ++ namesOf ys := by
  unfold namesOf
  rw [List.filter_append, List.map_append]

theorem namesOf_idle (h : ∀ s ∈ xs, isIdle s = true) : ∃ n, namesOf xs = List.replicate n dot := by
  refine ⟨(namesOf xs).length, List.eq_replicate_iff.2 ⟨rfl, fun name hname => ?_⟩⟩
  obtain ⟨s, hs, rfl⟩ := List.mem_map.1 hname
  obtain ⟨hs, hne⟩ := List.mem_filter.1 hs
  have hidle := h s hs
  simp only [isIdle, Bool.or_eq_true, beq_iff_eq] at hidle
  rcases hidle with hempty | rfl
  · rw [hempty] at hne
    cases hne
  · rfl

theorem exists_idle_of_dropIdle (xs : List (List UInt8)) :
    ∃ idle, xs = dropIdle xs ++ idle ∧ ∀ s ∈ idle, isIdle s = true := by
  refine ⟨(xs.reverse.takeWhile isIdle).reverse, ?_, fun s hs => ?_⟩
  · unfold dropIdle
    rw [← List.reverse_append, List.takeWhile_append_dropWhile, List.reverse_reverse]
  · exact List.all_eq_true.1 List.all_takeWhile s (List.mem_reverse.1 hs)

theorem dropIdle_eq_nil_iff : dropIdle xs = [] ↔ ∀ s ∈ xs, isIdle s = true := by
  simp [dropIdle, List.dropWhile_eq_nil_iff]

theorem dropIdle_concat (h : isIdle s = false) : dropIdle (xs ++ [s]) = xs ++ [s] := by
  simp [dropIdle, h]

theorem dropIdle_cons (h : isIdle s = false) : dropIdle (s :: xs) = s :: dropIdle xs := by
  unfold dropIdle
  rw [List.reverse_cons, List.dropWhile_append]
  split
  · rename_i hempty
    rw [List.isEmpty_iff.1 hempty]
    simp [h]
  · simp

theorem isAbsolute_ofSegments (h : slash ∉ s) : (ofSegments (s :: xs)).isAbsolute = (s.isEmpty && !xs.isEmpty) := by
  unfold isAbsolute ofSegments
  cases s with
  | cons b rest =>
    have hb : b ≠ slash := fun heq => h (heq ▸ List.mem_cons_self)
    cases xs with
    | nil => simp [List.intercalate_singleton, hb]
    | cons x xs => simp [List.intercalate_cons_cons, hb]
  | nil =>
    cases xs with
    | nil => simp
    | cons x xs => simp [List.intercalate_cons_cons]

theorem prefix_ofSegments : ∀ {s : List UInt8} {xs : List (List UInt8)} (ys : List (List UInt8)),
    (ofSegments (s :: xs)).bytes <+: (ofSegments (s :: (xs ++ ys))).bytes
  | s, [], [] => List.prefix_refl _
  | s, [], y :: ys => by
    unfold ofSegments
    rw [List.intercalate_singleton, List.nil_append, List.intercalate_cons_cons, List.append_assoc]
    exact List.prefix_append s _
  | s, x :: xs, ys => by
    unfold ofSegments
    rw [List.cons_append, List.intercalate_cons_cons, List.intercalate_cons_cons]
    exact (List.prefix_append_right_inj _).2 (prefix_ofSegments ys)

theorem not_isIdle_getLast_dropIdle (h : dropIdle xs ≠ []) : isIdle ((dropIdle xs).getLast h) = false :=
  (congrArg isIdle (List.getLast_reverse h)).trans (List.head_dropWhile_not isIdle _)

/-- Without its last part that is not idle, a path is shorter by this part and idle ones. -/
theorem exists_dropped (h : dropIdle xs ≠ []) :
    ∃ ys, xs = dropIdle (dropIdle xs).dropLast ++ ys ∧ ∃ s ∈ ys, isIdle s = false := by
  obtain ⟨idle, hidle, -⟩ := exists_idle_of_dropIdle xs
  obtain ⟨idle', hidle', -⟩ := exists_idle_of_dropIdle (dropIdle xs).dropLast
  refine ⟨idle' ++ (dropIdle xs).getLast h :: idle, ?_, _, List.mem_append_right idle' List.mem_cons_self,
    not_isIdle_getLast_dropIdle h⟩
  rw [← List.append_assoc, ← hidle', List.append_cons, List.dropLast_concat_getLast, ← hidle]

/-! ## The path above another -/

/-- What the path above another is spelled as: nothing, the root, or the first parts of the path, of which one at least
is left that is not idle. -/
theorem parent?_cases (h : p.parent? = some q) : q.bytes = [] ∨
    ∃ s xs ys, p.segments = s :: (xs ++ ys) ∧ (∃ y ∈ ys, isIdle y = false) ∧
      ((q = ⟨[slash]⟩ ∧ xs = [] ∧ s = []) ∨ q = ofSegments (s :: xs) ∧ (s = [] → xs ≠ [])) := by
  obtain ⟨first, rest, hsegs⟩ := List.exists_cons_of_ne_nil p.segments_ne_nil
  unfold parent? at h
  rw [hsegs] at h
  dsimp only at h
  split at h
  · split at h
    · split at h
      · cases h
      · cases h
        exact Or.inl rfl
    · rename_i hbody
      obtain ⟨ys, hys, hproper⟩ := exists_dropped hbody
      right
      split at h
      · rename_i habove
        rw [habove] at hys
        split at h
        · rename_i hempty
          cases h
          exact ⟨first, [], ys, by rw [hsegs, hys], hproper, Or.inl ⟨rfl, rfl, List.isEmpty_iff.1 hempty⟩⟩
        · rename_i hne
          cases h
          refine ⟨first, [], ys, by rw [hsegs, hys], hproper, Or.inr ⟨?_, fun hnil => absurd (by rw [hnil]; rfl) hne⟩⟩
          rw [ofSegments, List.intercalate_singleton]
      · rename_i habove
        cases h
        exact ⟨first, _, ys, by rw [hsegs, ← hys], hproper, Or.inr ⟨rfl, fun _ hnil => habove hnil⟩⟩
  · rename_i hidle
    have hnot : isIdle first = false := by
      unfold isIdle
      rw [not_or] at hidle
      simpa using hidle
    cases h
    have hbody : dropIdle (first :: rest) ≠ [] := by
      rw [dropIdle_cons hnot]
      exact List.cons_ne_nil _ _
    obtain ⟨ys, hys, hproper⟩ := exists_dropped hbody
    cases hcut : dropIdle (dropIdle (first :: rest)).dropLast with
    | nil => exact Or.inl (by rw [ofSegments, List.intercalate_nil])
    | cons s xs =>
      rw [hcut] at hys
      obtain ⟨rfl, htail⟩ := List.cons.inj hys
      refine Or.inr ⟨first, xs, ys, by rw [hsegs, htail]; rfl, hproper, Or.inr ⟨rfl, fun hnil => ?_⟩⟩
      rw [hnil] at hnot
      cases hnot

/-- Only what leads nowhere from the root, and the empty path, has no path above it. -/
theorem segments_of_parent?_eq_none (h : p.parent? = none) : ∃ rest, p.segments = [] :: rest ∧ dropIdle rest = [] := by
  obtain ⟨first, rest, hsegs⟩ := List.exists_cons_of_ne_nil p.segments_ne_nil
  unfold parent? at h
  rw [hsegs] at h
  dsimp only at h
  split at h
  · split at h
    · rename_i hrest
      split at h
      · rename_i hempty
        exact ⟨rest, by rw [hsegs, List.isEmpty_iff.1 hempty], hrest⟩
      · cases h
    · split at h <;> cases h
  · cases h

/-- **The path above another has the first of its names**, one at least is missing that is not the dot, and both start
at the same place, unless it is empty. -/
theorem names_of_parent? (h : p.parent? = some q) : q.bytes = [] ∨
    q.isAbsolute = p.isAbsolute ∧ ∃ rest, p.names = q.names ++ rest ∧ ∃ name ∈ rest, name ≠ dot := by
  refine (parent?_cases h).imp_right ?_
  rintro ⟨s, xs, ys, hsegs, ⟨y, hy, hproper⟩, hq⟩
  have hslash : ∀ x ∈ s :: (xs ++ ys), slash ∉ x := fun x hx => not_mem_slash_of_mem (by rw [hsegs]; exact hx)
  have hfirst : slash ∉ s := hslash s List.mem_cons_self
  have hne : xs ++ ys ≠ [] := List.append_ne_nil_of_right_ne_nil xs (List.ne_nil_of_mem hy)
  have hrest : ∃ name ∈ namesOf ys, name ≠ dot := by
    obtain ⟨hempty, hdot⟩ := Bool.or_eq_false_iff.1 hproper
    refine ⟨⟨y⟩, List.mem_map.2 ⟨y, List.mem_filter.2 ⟨hy, by rw [hempty]; rfl⟩, rfl⟩, fun heq => ?_⟩
    rw [show y = dot.bytes from congrArg HostText.bytes heq, beq_self_eq_true] at hdot
    cases hdot
  have habs : p.isAbsolute = s.isEmpty := by
    rw [← ofSegments_segments p, hsegs, isAbsolute_ofSegments hfirst, List.isEmpty_eq_false_iff.2 hne]
    exact Bool.and_true _
  have hnames : p.names = namesOf (s :: xs) ++ namesOf ys := by
    show namesOf p.segments = _
    rw [hsegs, ← List.cons_append, namesOf_append]
  rcases hq with ⟨rfl, rfl, rfl⟩ | ⟨rfl, hs⟩
  · exact ⟨habs.symm, namesOf ys, hnames, hrest⟩
  · refine ⟨?_, namesOf ys, ?_, hrest⟩
    · rw [habs, isAbsolute_ofSegments hfirst]
      cases s with
      | nil => rw [List.isEmpty_eq_false_iff.2 (hs rfl)]; rfl
      | cons b bytes => rfl
    · show _ = namesOf (ofSegments (s :: xs)).segments ++ _
      rw [hnames, segments_ofSegments (List.cons_ne_nil _ _) fun x hx =>
        hslash x (by rw [← List.cons_append]; exact List.mem_append_left ys hx)]

/-! ## A directory's path and one more name -/

/-- A name that leads to an entry of its own. -/
structure IsPlain (name : FileName) : Prop where
  ne_nil : name.bytes ≠ []
  no_slash : slash ∉ name.bytes
  ne_dot : name ≠ dot
  ne_dotDot : name ≠ dotDot

theorem IsPlain.isAbsolute (h : IsPlain name) : name.isAbsolute = false := by
  obtain ⟨b, rest, hb⟩ := List.exists_cons_of_ne_nil h.ne_nil
  have hne : b ≠ slash := fun heq => h.no_slash (by rw [hb, heq]; exact List.mem_cons_self)
  simp [Path.isAbsolute, hb, hne]

theorem IsPlain.isIdle (h : IsPlain name) : isIdle name.bytes = false := by
  have hdot : name.bytes ≠ dot.bytes := fun heq => h.ne_dot (congrArg HostText.mk heq)
  simp [Path.isIdle, h.ne_nil, hdot]

theorem join_injective {d other : Path} (h : name.isAbsolute = false) (hother : other.isAbsolute = false)
    (hjoin : d.join name = d.join other) : name = other := by
  unfold join at hjoin
  rw [h, hother, if_neg Bool.false_ne_true, if_neg Bool.false_ne_true] at hjoin
  have hbytes := congrArg HostText.bytes hjoin
  split at hbytes
  · exact congrArg HostText.mk (List.append_cancel_left hbytes)
  · exact congrArg HostText.mk (List.cons.inj (List.append_cancel_left hbytes)).2

theorem slash_mem_join {d : Path} (n : Path) (h : d.bytes ≠ []) : slash ∈ (d.join n).bytes := by
  unfold join
  split
  · rename_i habsolute
    exact List.mem_of_head? (by simpa [isAbsolute] using habsolute)
  · split
    · rename_i hends
      have hlast : d.bytes.getLast? = some slash := by simpa [HostText.isEmpty, endsInSlash, h] using hends
      exact List.mem_append_left _ (List.mem_of_getLast? hlast)
    · simp

theorem bytes_join_ne_nil {d n : Path} (h : n.bytes ≠ []) : (d.join n).bytes ≠ [] := by
  unfold join
  split
  · exact h
  · split
    · simp [h]
    · simp

/-- A slash at the end of the directory's path is as good as none. -/
theorem exists_join_bytes (h : name.isAbsolute = false) (hdir : dir.bytes ≠ []) :
    ∃ d, (dir.join name).bytes = d ++ slash :: name.bytes ∧
      ((dir.bytes = d ∧ dir.endsInSlash = false) ∨ (dir.bytes = d ++ [slash] ∧ dir.endsInSlash = true)) := by
  unfold join
  rw [h, if_neg Bool.false_ne_true, HostText.isEmpty, List.isEmpty_eq_false_iff.2 hdir, Bool.false_or]
  cases hends : dir.endsInSlash with
  | false => exact ⟨dir.bytes, rfl, Or.inl ⟨rfl, rfl⟩⟩
  | true =>
    obtain ⟨d, hd⟩ := List.getLast?_eq_some_iff.1 (beq_iff_eq.1 hends)
    refine ⟨d, ?_, Or.inr ⟨hd, rfl⟩⟩
    rw [if_pos rfl, hd, List.append_assoc]
    rfl

theorem segments_join (h : IsPlain name) (hdir : dir.bytes ≠ []) : ∃ first rest,
    (dir.join name).segments = first :: (rest ++ [name.bytes]) ∧ (ofSegments (first :: rest)).bytes <+: dir.bytes ∧
    (dir.segments = first :: rest ∨ dir.segments = first :: (rest ++ [[]])) := by
  obtain ⟨d, hjoin, hd⟩ := exists_join_bytes h.isAbsolute hdir
  obtain ⟨first, rest, hfirst⟩ := List.exists_cons_of_ne_nil (List.splitOn_ne_nil slash d)
  have hspell : (ofSegments (first :: rest)).bytes = d := by
    rw [← hfirst]
    exact List.intercalate_splitOn slash
  have hsegs : (dir.join name).segments = first :: (rest ++ [name.bytes]) := by
    unfold segments
    rw [hjoin, List.splitOn_append_cons_self, List.splitOn_eq_singleton h.no_slash, hfirst]
    rfl
  rcases hd with ⟨hd, -⟩ | ⟨hd, -⟩
  · refine ⟨first, rest, hsegs, ?_, Or.inl ?_⟩
    · simp only [hspell, hd, List.prefix_refl]
    · unfold segments
      rw [hd, hfirst]
  · refine ⟨first, rest, hsegs, ?_, Or.inr ?_⟩
    · rw [hspell, hd]
      exact List.prefix_append d [slash]
    · unfold segments
      rw [hd, List.splitOn_append_cons_self, List.splitOn_nil, hfirst]
      rfl

/-- **Below a directory are its names and then those of the relative path.** -/
theorem names_join_of_relative (h : name.isAbsolute = false) (dir : Path) :
    (dir.join name).names = dir.names ++ name.names := by
  by_cases hdir : dir.bytes = []
  · have hjoin : dir.join name = name := by
      unfold join
      rw [h, if_neg Bool.false_ne_true, HostText.isEmpty, hdir]
      rfl
    obtain ⟨bytes⟩ := dir
    cases hdir
    rw [hjoin]
    rfl
  · obtain ⟨d, hjoin, hd⟩ := exists_join_bytes h hdir
    show namesOf ((dir.join name).bytes.splitOn slash) = namesOf (dir.bytes.splitOn slash) ++
      namesOf (name.bytes.splitOn slash)
    rw [hjoin, List.splitOn_append_cons_self, namesOf_append]
    rcases hd with ⟨hd, -⟩ | ⟨hd, -⟩
    · rw [hd]
    · rw [hd, List.splitOn_append_cons_self, List.splitOn_nil, namesOf_append]
      exact congrArg (· ++ _) (List.append_nil _).symm

theorem names_of_isPlain (h : IsPlain name) : name.names = [name] := by
  show namesOf (name.bytes.splitOn slash) = [name]
  rw [List.splitOn_eq_singleton h.no_slash, namesOf, List.filter_cons_of_pos (by
    rw [List.isEmpty_eq_false_iff.2 h.ne_nil]
    rfl)]
  rfl

theorem names_join (h : IsPlain name) (dir : Path) : (dir.join name).names = dir.names ++ [name] := by
  rw [names_join_of_relative h.isAbsolute, names_of_isPlain h]

theorem parent?_join_eq (h : IsPlain name) {first : List UInt8} {rest : List (List UInt8)}
    (hsegs : (dir.join name).segments = first :: (rest ++ [name.bytes])) : (dir.join name).parent? =
      some (if first = [] ∧ dropIdle rest = [] then ⟨[slash]⟩ else ofSegments (first :: dropIdle rest)) := by
  unfold parent?
  rw [hsegs]
  dsimp only
  split
  · rename_i hidle
    obtain ⟨b, body, hbody⟩ :=
      List.exists_cons_of_ne_nil (List.append_ne_nil_of_right_ne_nil rest (List.cons_ne_nil name.bytes []))
    rw [dropIdle_concat h.isIdle, hbody]
    dsimp only
    rw [← hbody, List.dropLast_concat]
    cases dropIdle rest with
    | nil =>
      cases first with
      | nil => rfl
      | cons c first => simp [ofSegments]
    | cons s xs => simp
  · rename_i hidle
    obtain ⟨hempty, hdot⟩ := not_or.1 hidle
    have hnot : isIdle first = false := by simp [isIdle, hempty, hdot]
    have hne : first ≠ [] := fun hnil => hempty (by rw [hnil]; rfl)
    rw [← List.cons_append, dropIdle_concat h.isIdle, List.dropLast_concat, dropIdle_cons hnot,
      if_neg fun hroot => hne hroot.1]

theorem parent?_of_isPlain (h : IsPlain name) : name.parent? = some ⟨[]⟩ := by
  have hsegs : name.segments = [name.bytes] := List.splitOn_eq_singleton h.no_slash
  have hdrop : dropIdle [name.bytes] = [name.bytes] := by
    rw [← List.nil_append [name.bytes], dropIdle_concat h.isIdle]
  have hfirst : ¬ (name.bytes.isEmpty = true ∨ name.bytes = dot.bytes) := by
    have hnot := h.isIdle
    simpa [isIdle] using hnot
  unfold parent?
  rw [hsegs]
  dsimp only
  rw [if_neg hfirst, hdrop]
  rfl

theorem join_of_bytes_eq_nil (h : IsPlain name) (hdir : dir.bytes = []) : dir.join name = name := by
  unfold join
  rw [h.isAbsolute, if_neg Bool.false_ne_true, HostText.isEmpty, hdir]
  rfl

/-- Where there is no path above the directory, the one above its entries is the root or nothing. -/
theorem parent?_join_of_none (h : IsPlain name) (hparent : dir.parent? = none) :
    (dir.join name).parent? = some (if dir.bytes = [] then ⟨[]⟩ else ⟨[slash]⟩) := by
  by_cases hdir : dir.bytes = []
  · rw [join_of_bytes_eq_nil h hdir, parent?_of_isPlain h, if_pos hdir]
  · obtain ⟨first, rest, hsegs, -, hdsegs⟩ := segments_join h hdir
    obtain ⟨tail, htail, hidle⟩ := segments_of_parent?_eq_none hparent
    have hroot : first = [] ∧ dropIdle rest = [] := by
      rw [htail] at hdsegs
      rw [dropIdle_eq_nil_iff] at hidle ⊢
      rcases hdsegs with heq | heq
      · cases heq
        exact ⟨rfl, hidle⟩
      · cases heq
        exact ⟨rfl, fun s hs => hidle s (List.mem_append_left _ hs)⟩
    rw [parent?_join_eq h hsegs, if_pos hroot, if_neg hdir]

theorem isAbsolute_of_prefix (h : q.bytes <+: p.bytes) (hne : q.bytes ≠ []) : q.isAbsolute = p.isAbsolute := by
  obtain ⟨b, rest, hb⟩ := List.exists_cons_of_ne_nil hne
  obtain ⟨more, hmore⟩ := h
  unfold isAbsolute
  rw [← hmore, hb]
  rfl

/-- **The path above a directory's entry is the directory's**, up to idle parts at its end. -/
theorem parent?_join (h : IsPlain name) (hdir : dir.bytes ≠ []) : ∃ above n, (dir.join name).parent? = some above ∧
    above.bytes <+: dir.bytes ∧ above.bytes ≠ [] ∧ dir.names = above.names ++ List.replicate n dot := by
  obtain ⟨first, rest, hsegs, hspell, hdsegs⟩ := segments_join h hdir
  obtain ⟨tail, htail, hnames⟩ : ∃ tail, dir.segments = first :: tail ∧ dir.names = namesOf (first :: rest) := by
    rcases hdsegs with hdsegs | hdsegs
    · exact ⟨rest, hdsegs, by rw [← hdsegs]; rfl⟩
    · refine ⟨rest ++ [[]], hdsegs, ?_⟩
      show namesOf dir.segments = _
      rw [hdsegs, ← List.cons_append, namesOf_append]
      exact List.append_nil _
  obtain ⟨idle, hidle, hall⟩ := exists_idle_of_dropIdle rest
  obtain ⟨n, hn⟩ := namesOf_idle hall
  refine ⟨_, n, parent?_join_eq h hsegs, ?_⟩
  split
  · rename_i hroot
    obtain ⟨rfl, hcut⟩ := hroot
    refine ⟨?_, List.cons_ne_nil _ _, ?_⟩
    · rw [← ofSegments_segments dir, htail] at hdir ⊢
      cases tail with
      | nil => exact absurd rfl hdir
      | cons s tail =>
        unfold ofSegments
        rw [List.intercalate_cons_cons]
        exact List.prefix_append [slash] _
    · rw [hcut, List.nil_append] at hidle
      rw [hnames, hidle]
      exact hn
  · rename_i hroot
    refine ⟨?_, ?_, ?_⟩
    · refine List.IsPrefix.trans ?_ hspell
      conv => rhs; rw [hidle]
      exact prefix_ofSegments idle
    · intro hnil
      unfold ofSegments at hnil
      cases hcut : dropIdle rest with
      | nil =>
        rw [hcut, List.intercalate_singleton] at hnil
        exact hroot ⟨hnil, hcut⟩
      | cons s xs =>
        rw [hcut, List.intercalate_cons_cons] at hnil
        simp at hnil
    · have hslash : ∀ s ∈ first :: dropIdle rest, slash ∉ s := fun s hs => by
        refine not_mem_slash_of_mem (p := dir.join name) ?_
        rw [hsegs, hidle, ← List.cons_append, ← List.cons_append, List.append_assoc]
        exact List.mem_append_left _ hs
      show _ = namesOf (ofSegments (first :: dropIdle rest)).segments ++ _
      rw [segments_ofSegments (List.cons_ne_nil _ _) hslash, hnames, ← hn, ← namesOf_append, List.cons_append, ← hidle]

theorem endsInSlash_join (h : IsPlain name) (hdir : dir.bytes ≠ []) : (dir.join name).endsInSlash = false := by
  obtain ⟨d, hjoin, -⟩ := exists_join_bytes h.isAbsolute hdir
  have hlast : (dir.join name).bytes.getLast? = name.bytes.getLast? := by
    rw [hjoin, List.getLast?_append, List.getLast?_cons]
    obtain ⟨b, hb⟩ := Option.ne_none_iff_exists'.1 (mt List.getLast?_eq_none_iff.1 h.ne_nil)
    rw [hb]
    rfl
  unfold endsInSlash
  rw [hlast, beq_eq_false_iff_ne]
  exact fun hslash => h.no_slash (List.mem_of_getLast? hslash)

theorem steps_join (h : IsPlain name) (hdir : dir.bytes ≠ []) : (dir.join name).steps = dir.names ++ [name] := by
  rw [steps_eq, names_join h, endsInSlash_join h hdir]
  exact List.append_nil _

theorem getLast?_intercalate_of_idle : ∀ {segments : List (List UInt8)}, (∀ s ∈ segments, s = []) →
    [slash].intercalate segments ≠ [] → ([slash].intercalate segments).getLast? = some slash
  | [], _, hne => absurd List.intercalate_nil hne
  | [s], hs, hne => absurd (by rw [List.intercalate_singleton, hs s List.mem_cons_self]) hne
  | s :: t :: rest, hs, _ => by
    have ih := getLast?_intercalate_of_idle fun u hu => hs u (List.mem_cons_of_mem s hu)
    rw [List.intercalate_cons_cons, hs s List.mem_cons_self, List.nil_append, List.singleton_append, List.getLast?_cons]
    by_cases hrest : [slash].intercalate (t :: rest) = []
    · rw [hrest]
      rfl
    · rw [ih hrest]
      rfl

/-- Every path that is not empty has a step, be it only the one for its slash. -/
theorem steps_ne_nil (h : p.bytes ≠ []) : p.steps ≠ [] := by
  intro hsteps
  rw [steps_eq, List.append_eq_nil_iff] at hsteps
  obtain ⟨hnames, hends⟩ := hsteps
  have hidle : ∀ s ∈ p.segments, s = [] := by
    simpa [names] using hnames
  have hp : [slash].intercalate p.segments = p.bytes := congrArg HostText.bytes (ofSegments_segments p)
  have hlast := getLast?_intercalate_of_idle hidle (by rwa [hp])
  rw [hp] at hlast
  have hslash : p.endsInSlash = true := by
    unfold endsInSlash
    rw [hlast]
    rfl
  rw [hslash] at hends
  cases hends

theorem isAbsolute_join (h : IsPlain name) (hdir : dir.bytes ≠ []) : (dir.join name).isAbsolute = dir.isAbsolute := by
  obtain ⟨d, hjoin, hd⟩ := exists_join_bytes h.isAbsolute hdir
  unfold isAbsolute
  cases d with
  | nil =>
    rcases hd with ⟨hd, -⟩ | ⟨hd, -⟩
    · exact absurd hd hdir
    · rw [hjoin, hd]
      rfl
  | cons b d => rcases hd with ⟨hd, -⟩ | ⟨hd, -⟩ <;> rw [hjoin, hd] <;> rfl

end Path

end KubectlMatch
