import KubectlMatch.Proofs.Files.Places
/-!
# What the operations leave

One statement for each operation that changes the files: where it found its place, what it needed there, and what it
put.  Making a directory with all that are missing above it is the only one that changes several locations; `GrownBy`
says what of the rest is kept.
-/
namespace KubectlMatch

namespace FileSystem

variable {fs fs' fs'' : FileSystem} {loc l : Location} {p : Path} {ps qs : List Path} {node : Node} {mode : Nat}
  {content bytes : Bytes}

/-- A file where there was none, or another file, touches neither directories nor links. -/
theorem keepsTree_put (hne : loc ≠ []) (h : ∀ node, fs.nodeAt? loc = some node → node.isFile = true) :
    fs.KeepsTree (fs.put loc node) := by
  refine ⟨rfl, fun l kept hl hkind => ?_⟩
  rw [nodeAt?_put_of_ne hne]
  · exact hl
  · rintro rfl
    rw [h kept hl] at hkind
    cases hkind

theorem keepsTree_put_free (h : fs.nodeAt? loc = none) : fs.KeepsTree (fs.put loc node) :=
  keepsTree_put (ne_nil_of_nodeAt?_eq_none h) fun _ hnode => by rw [h] at hnode; cases hnode

/-- Nor does taking the file away again. -/
theorem keepsTree_of_put (hne : loc ≠ []) : (fs.put loc (.file mode content)).KeepsTree fs := by
  refine ⟨rfl, fun l node hnode hkind => ?_⟩
  by_cases hl : l = loc
  · rw [hl, nodeAt?_put_self hne] at hnode
    cases hnode
    cases hkind
  · rw [nodeAt?_put_of_ne hne hl] at hnode
    exact hnode

/-- A file in place of anything leads no way astray that is there without it. -/
theorem keepsTree_put_of_remove (hne : loc ≠ []) : (fs.remove loc).KeepsTree (fs.put loc (.file mode content)) := by
  refine ⟨rfl, fun l node hnode _ => ?_⟩
  by_cases hl : l = loc
  · rw [hl, nodeAt?_remove_self hne] at hnode
    cases hnode
  · rw [nodeAt?_remove_of_ne hl] at hnode
    rw [nodeAt?_put_of_ne hne hl, hnode]

/-! ## Making directories -/

theorem makeDir_ok (h : fs.makeDir p = .ok fs') : ∃ target, fs.place p = .ok (some target) ∧
    fs.nodeAt? target.location = none ∧ fs' = fs.put target.location .directory := by
  obtain ⟨target?, hplace, h⟩ := bind_eq_ok_iff.1 h
  cases target? with
  | none => cases h
  | some target =>
    refine ⟨target, hplace, ?_⟩
    dsimp only at h
    cases hnode : fs.nodeAt? target.location with
    | some node =>
      rw [hnode] at h
      cases h
    | none =>
      rw [hnode, Option.isSome_none, if_neg Bool.false_ne_true] at h
      obtain ⟨-, -, h⟩ := bind_eq_ok_iff.1 h
      cases h
      exact ⟨rfl, rfl⟩

/-- The second file system is the first with directories made at some of the paths, where there was nothing. -/
structure GrownBy (ps : List Path) (fs fs' : FileSystem) : Prop where
  workingDirectory : fs'.workingDirectory = fs.workingDirectory
  refusal? : fs'.refusal? = fs.refusal?
  nodeAt? : ∀ loc, fs'.nodeAt? loc = fs.nodeAt? loc ∨
    (fs.nodeAt? loc = none ∧ fs'.nodeAt? loc = some .directory ∧ ∃ p ∈ ps, fs'.locate p = .ok loc)

namespace GrownBy

theorem refl (ps : List Path) (fs : FileSystem) : GrownBy ps fs fs := ⟨rfl, rfl, fun _ => Or.inl rfl⟩

theorem mono (h : GrownBy ps fs fs') (hsub : ∀ p ∈ ps, p ∈ qs) : GrownBy qs fs fs' := by
  refine ⟨h.workingDirectory, h.refusal?, fun loc => ?_⟩
  rcases h.nodeAt? loc with hsame | ⟨hfree, hdir, p, hp, hloc⟩
  · exact Or.inl hsame
  · exact Or.inr ⟨hfree, hdir, p, hsub p hp, hloc⟩

theorem kept (h : GrownBy ps fs fs') (hnode : fs.nodeAt? loc = some node) : fs'.nodeAt? loc = some node := by
  rcases h.nodeAt? loc with hsame | ⟨hfree, -⟩
  · rw [hsame, hnode]
  · rw [hfree] at hnode
    cases hnode

theorem locate (h : GrownBy ps fs fs') (hloc : fs.locate p = .ok loc) : fs'.locate p = .ok loc := by
  obtain ⟨hc, hleads⟩ := locate_eq_ok_iff.1 hloc
  refine locate_eq_ok_iff.2 ⟨hc, ?_⟩
  rw [h.workingDirectory]
  exact hleads.of_kept fun _ _ hnode _ => h.kept hnode

theorem trans (h : GrownBy ps fs fs') (h' : GrownBy ps fs' fs'') : GrownBy ps fs fs'' := by
  refine ⟨h'.workingDirectory.trans h.workingDirectory, h'.refusal?.trans h.refusal?, fun loc => ?_⟩
  rcases h.nodeAt? loc with hsame | ⟨hfree, hdir, p, hp, hloc⟩
  · rw [← hsame]
    exact h'.nodeAt? loc
  · exact Or.inr ⟨hfree, h'.kept hdir, p, hp, h'.locate hloc⟩

end GrownBy

def HasDirectory (fs : FileSystem) (p : Path) : Prop := ∃ loc, fs.locate p = .ok loc ∧ fs.isDirectoryAt loc = true

theorem stat_eq_ok_iff : fs.stat p = .ok node ↔
    ∃ loc, fs.locate p = .ok loc ∧ fs.permit .inspect loc = .ok () ∧ fs.nodeAt? loc = some node := by
  unfold stat
  simp only [bind_eq_ok_iff]
  refine exists_congr fun loc => and_congr_right fun _ => ?_
  constructor
  · rintro ⟨⟨⟩, hpermit, h⟩
    refine ⟨hpermit, ?_⟩
    cases hnode : fs.nodeAt? loc with
    | none =>
      rw [hnode] at h
      cases h
    | some found =>
      rw [hnode] at h
      cases h
      rfl
  · rintro ⟨hpermit, hnode⟩
    refine ⟨(), hpermit, ?_⟩
    rw [hnode]
    rfl

theorem stat_ok (h : fs.stat p = .ok node) : ∃ loc, fs.locate p = .ok loc ∧ fs.nodeAt? loc = some node := by
  obtain ⟨loc, hloc, -, hnode⟩ := stat_eq_ok_iff.1 h
  exact ⟨loc, hloc, hnode⟩

theorem hasDirectory_of_isDirectory (h : fs.isDirectory p = true) : fs.HasDirectory p := by
  unfold isDirectory at h
  split at h
  · rename_i hstat
    obtain ⟨loc, hloc, hnode⟩ := stat_ok hstat
    exact ⟨loc, hloc, isDirectoryAt_iff.2 hnode⟩
  · cases h

theorem makeDir_makes (h : fs.makeDir p = .ok fs') : fs.GrownBy [p] fs' ∧ fs'.HasDirectory p := by
  obtain ⟨target, hplace, hfree, rfl⟩ := makeDir_ok h
  have hne := ne_nil_of_nodeAt?_eq_none hfree
  have hnode : (fs.put target.location .directory).nodeAt? target.location = some .directory := nodeAt?_put_self hne
  have hloc := locate_of_place ((keepsTree_put_free hfree).place hplace) hnode nofun fun _ => rfl
  refine ⟨⟨rfl, rfl, fun loc => ?_⟩, target.location, hloc, isDirectoryAt_iff.2 hnode⟩
  by_cases hl : loc = target.location
  · subst hl
    exact Or.inr ⟨hfree, hnode, p, List.mem_singleton_self p, hloc⟩
  · exact Or.inl (nodeAt?_put_of_ne hne hl)

/-- Makes a directory in one that is there, unless it is there itself. -/
def ensureDir (p : Path) (fs : FileSystem) : Except IoError Unit × FileSystem :=
  match fs.makeDir p with
  | .ok fs => (.ok (), fs)
  | .error e => if e == .system .alreadyExists && fs.isDirectory p then (.ok (), fs) else (.error e, fs)

theorem ensureDir_of_error {e : IoError} (h : fs.makeDir p = .error e) : (ensureDir p fs).2 = fs := by
  unfold ensureDir
  rw [h]
  dsimp only
  split
  · rfl
  · rfl

/-- What making the directories comes to: making the first, after the others if it was for them that it failed. -/
theorem makeLineage_cases (p : Path) (above : List Path) (fs : FileSystem) :
    makeLineage (p :: above) fs = ensureDir p fs ∨
    (∃ e, fs.makeDir p = .error e ∧ e.isMissing = true) ∧
      ((∃ e fs₁, makeLineage above fs = (.error e, fs₁) ∧ makeLineage (p :: above) fs = (.error e, fs₁)) ∨
        ∃ fs₁, makeLineage above fs = (.ok (), fs₁) ∧ makeLineage (p :: above) fs = ensureDir p fs₁) := by
  rw [makeLineage]
  cases hmake : fs.makeDir p with
  | ok fs₁ =>
    left
    rw [ensureDir, hmake]
  | error e =>
    by_cases hmissing : e.isMissing = true
    · right
      refine ⟨⟨e, rfl, hmissing⟩, ?_⟩
      dsimp only
      rw [if_pos hmissing]
      rcases makeLineage above fs with ⟨_ | ⟨⟩, fs₁⟩
      · exact Or.inl ⟨_, fs₁, rfl, rfl⟩
      · exact Or.inr ⟨fs₁, rfl, rfl⟩
    · left
      dsimp only
      rw [if_neg hmissing, ensureDir, hmake]

theorem grownBy_ensureDir (p : Path) (fs : FileSystem) : fs.GrownBy [p] (ensureDir p fs).2 := by
  unfold ensureDir
  cases hmake : fs.makeDir p with
  | ok fs₁ => exact (makeDir_makes hmake).1
  | error e =>
    dsimp only
    split
    · exact .refl _ fs
    · exact .refl _ fs

theorem hasDirectory_ensureDir (h : (ensureDir p fs).1 = .ok ()) : (ensureDir p fs).2.HasDirectory p := by
  unfold ensureDir at h ⊢
  cases hmake : fs.makeDir p with
  | ok fs₁ => exact (makeDir_makes hmake).2
  | error e =>
    rw [hmake] at h
    dsimp only at h ⊢
    split at h
    · rename_i hthere
      rw [if_pos hthere]
      exact hasDirectory_of_isDirectory (Bool.and_eq_true_iff.1 hthere).2
    · cases h

/-- **Making a directory and those above it** changes nothing else, whether it succeeds or not. -/
theorem grownBy_makeLineage : ∀ ps (fs : FileSystem), fs.GrownBy ps (makeLineage ps fs).2
  | [], fs => .refl [] fs
  | p :: above, fs => by
    -- Whatever the paths above have grown is there still when the first path is made.
    have hhead : ∀ q ∈ [p], q ∈ p :: above := fun q hq => List.mem_cons.2 (Or.inl (List.mem_singleton.1 hq))
    have habove := (grownBy_makeLineage above fs).mono fun q hq => List.mem_cons_of_mem p hq
    rcases makeLineage_cases p above fs with h | ⟨-, ⟨e, fs₁, hrest, h⟩ | ⟨fs₁, hrest, h⟩⟩
    · rw [h]
      exact (grownBy_ensureDir p fs).mono hhead
    · rw [hrest] at habove
      rw [h]
      exact habove
    · rw [hrest] at habove
      rw [h]
      exact habove.trans ((grownBy_ensureDir p fs₁).mono hhead)

theorem hasDirectory_makeLineage (h : (makeLineage (p :: ps) fs).1 = .ok ()) :
    (makeLineage (p :: ps) fs).2.HasDirectory p := by
  rcases makeLineage_cases p ps fs with heq | ⟨-, ⟨e, fs₁, -, heq⟩ | ⟨fs₁, -, heq⟩⟩
  · rw [heq] at h ⊢
    exact hasDirectory_ensureDir h
  · rw [heq] at h
    cases h
  · rw [heq] at h ⊢
    exact hasDirectory_ensureDir h

theorem makeDir_of_locate (h : fs.locate p = .ok loc) : fs.makeDir p = .error (.system .alreadyExists) := by
  rcases place_of_locate h with hplace | ⟨target, hplace, hsome⟩
  · rw [makeDir, hplace]
    rfl
  · rw [makeDir, hplace]
    show (if (fs.nodeAt? target.location).isSome then _ else _) = _
    rw [if_pos hsome]
    rfl

/-- The paths that making a directory may make. -/
def ancestry (p : Path) : List Path := lineage (p.bytes.length + 1) p

theorem grownBy_makeDirs (fs : FileSystem) (p : Path) : fs.GrownBy (ancestry p) (fs.makeDirs p).2 :=
  grownBy_makeLineage (ancestry p) fs

theorem ancestry_of_parent? {above : Path} (h : p.parent? = some above) :
    ancestry p = p :: lineage p.bytes.length above := by
  rw [ancestry, lineage, h]

/-- **The directory is there** where making it succeeded, the root and the working directory apart, which are never
made. -/
theorem hasDirectory_makeDirs (hparent : p.parent? ≠ none) (h : (fs.makeDirs p).1 = .ok ()) :
    (fs.makeDirs p).2.HasDirectory p := by
  obtain ⟨above, habove⟩ := Option.ne_none_iff_exists'.1 hparent
  rw [makeDirs, ← ancestry, ancestry_of_parent? habove] at h ⊢
  exact hasDirectory_makeLineage h

/-- **Nothing is made where something is already.** -/
theorem makeDirs_of_locate (h : fs.locate p = .ok loc) : (fs.makeDirs p).2 = fs := by
  cases hparent : p.parent? with
  | none =>
    rw [makeDirs, lineage, hparent]
    rfl
  | some above =>
    rw [makeDirs, ← ancestry, ancestry_of_parent? hparent]
    have hmake := makeDir_of_locate h
    rcases makeLineage_cases p (lineage p.bytes.length above) fs with heq | ⟨⟨e, he, hmissing⟩, -⟩
    · rw [heq, ensureDir_of_error hmake]
    · rw [hmake] at he
      cases he
      cases hmissing

theorem makeDirs_dot (fs : FileSystem) : (fs.makeDirs Path.dot).2 = fs := by
  obtain ⟨e, he⟩ : ∃ e, fs.makeDir Path.dot = .error e := by
    cases hmake : fs.makeDir Path.dot with
    | error e => exact ⟨e, rfl⟩
    | ok fs' =>
      obtain ⟨target, hplace, -⟩ := makeDir_ok hmake
      have hnamed := place_eq_some_iff.1 hplace
      obtain ⟨above, hnames, -⟩ := hnamed.leads
      have hlast : some Path.dot = some target.name :=
        (congrArg List.getLast? hnames).trans List.getLast?_concat
      exact absurd (Option.some.inj hlast).symm hnamed.ne_dot
  show (makeLineage [Path.dot] fs).2 = fs
  rcases makeLineage_cases Path.dot [] fs with heq | ⟨-, ⟨_, _, hrest, -⟩ | ⟨_, hrest, heq⟩⟩
  · rw [heq, ensureDir_of_error he]
  · cases hrest
  · cases hrest
    rw [heq, ensureDir_of_error he]

/-! ## Making, changing and moving files -/

theorem createTemporary_ok {dir : Path} {start : String} (h : fs.createTemporary dir start = .ok (loc, fs')) :
    ∃ here, fs.locate dir = .ok here ∧ fs.isDirectoryAt here = true ∧ (∃ n, loc = numberedName start n :: here) ∧
      fs.nodeAt? loc = none ∧ fs' = fs.put loc (.file 0o600 []) := by
  obtain ⟨here, hlocate, h⟩ := bind_eq_ok_iff.1 h
  refine ⟨here, hlocate, ?_⟩
  dsimp only at h
  split at h
  · cases h
  · rename_i hdir
    refine ⟨by simpa using hdir, ?_⟩
    split at h
    · cases h
    · rename_i name hfind
      obtain ⟨-, -, h⟩ := bind_eq_ok_iff.1 h
      cases h
      have hfree := List.find?_some hfind
      obtain ⟨n, -, rfl⟩ := List.mem_map.1 (List.mem_of_find?_eq_some hfind)
      exact ⟨⟨n, rfl⟩, Option.isNone_iff_eq_none.1 hfree, rfl⟩

theorem append_ok (hnode : fs.nodeAt? loc = some (.file mode content)) (h : fs.append loc bytes = .ok fs') :
    fs' = fs.put loc (.file mode (content ++ bytes)) := by
  rw [append, hnode] at h
  obtain ⟨-, -, h⟩ := bind_eq_ok_iff.1 h
  cases h
  rfl

theorem setMode_ok {mode' : Nat} (hnode : fs.nodeAt? loc = some (.file mode content))
    (h : fs.setMode loc mode' = .ok fs') : fs' = fs.put loc (.file mode' content) := by
  rw [setMode, hnode] at h
  obtain ⟨-, -, h⟩ := bind_eq_ok_iff.1 h
  cases h
  rfl

/-- Letting go of a file changes no other, whether the system lets go of it or not. -/
theorem nodeAt?_discard_of_ne (h : l ≠ loc) : (fs.discard loc).nodeAt? l = fs.nodeAt? l := by
  unfold discard
  split
  · rfl
  · exact nodeAt?_remove_of_ne h

theorem rename_ok (hnode : fs.nodeAt? loc = some (.file mode content)) (h : fs.rename loc p = .ok fs') :
    ∃ target, fs.place p = .ok (some target) ∧ target.asDirectory = false ∧
      fs.isDirectoryAt target.location = false ∧
      fs' = if target.location = loc then fs else (fs.put target.location (.file mode content)).remove loc := by
  obtain ⟨target?, hplace, h⟩ := bind_eq_ok_iff.1 h
  cases target? with
  | none => cases h
  | some target =>
    refine ⟨target, hplace, ?_⟩
    dsimp only at h
    rw [hnode] at h
    dsimp only at h
    split at h
    · cases h
    · rename_i hslash
      split at h
      · cases h
      · rename_i hdir
        obtain ⟨-, -, h⟩ := bind_eq_ok_iff.1 h
        refine ⟨Bool.eq_false_iff.2 hslash, Bool.eq_false_iff.2 hdir, ?_⟩
        split at h
        · rename_i hself
          cases h
          rw [if_pos hself]
        · rename_i hself
          cases h
          rw [if_neg hself]

end FileSystem

end KubectlMatch
