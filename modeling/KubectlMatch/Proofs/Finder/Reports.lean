import KubectlMatch.Finder.Basic
import KubectlMatch.Proofs.Binary.Choice
import KubectlMatch.Proofs.Cache.Entries
import KubectlMatch.Proofs.Success
/-!
# What the finder reports

A binary of the search path has passed every test of the scan; an entry of the cache has passed none but that of its
name.  What the finder chooses is among these, so a property of all that it reports is one of both sources.  The running
program is kept out of the first only.  In which order they are found, and that they are sorted before the choice, does
not matter to it, except that of one version the binary on the search path comes first.
-/
namespace KubectlMatch

namespace Finder

variable {finder : Finder} {fs : FileSystem} {b : Binary} {p : Path} {self : Location}

theorem isSelf_iff : finder.isSelf fs p = true ↔ ∃ self, finder.self? = some self ∧ fs.canonical? p = some self := by
  unfold isSelf
  cases hself : finder.self? with
  | none => simp
  | some self =>
    cases hp : fs.canonical? p with
    | none => simp
    | some loc =>
      simp only [beq_iff_eq, Option.some.injEq, exists_eq_left']
      exact eq_comm

theorem isExecutableFile_iff : isExecutableFile fs p = true ↔
    ∃ mode content, fs.stat p = .ok (.file mode content) ∧ mode &&& 0o111 ≠ 0 := by
  unfold isExecutableFile
  cases hstat : fs.stat p with
  | error e => simp
  | ok node => cases node <;> simp [Node.isExecutable]

/-- What a binary of the search path has passed. -/
structure IsInstalled (finder : Finder) (fs : FileSystem) (b : Binary) : Prop where
  isExecutableFile : isExecutableFile fs b.path = true
  isSelf : finder.isSelf fs b.path = false
  query : finder.query fs b.path = .ok b.version

theorem asks_eq_true_iff {dir : Path} {name : FileName} : finder.asks fs dir name = true ↔
    finder.acceptsName name = true ∧ isExecutableFile fs (dir.join name) = true ∧
      finder.isSelf fs (dir.join name) = false := by
  simp only [asks, Bool.and_eq_true, Bool.not_eq_true', and_assoc]

theorem binary?_eq_some_iff {dir : Path} {name : FileName} : finder.binary? fs dir name = some b ↔
    b.path = dir.join name ∧ finder.acceptsName name = true ∧ finder.IsInstalled fs b := by
  unfold binary?
  dsimp only
  split
  · rename_i hpass
    obtain ⟨hname, hexec, hself⟩ := asks_eq_true_iff.1 hpass
    cases hquery : finder.query fs (dir.join name) with
    | error e =>
      refine ⟨nofun, fun ⟨hpath, _, h⟩ => ?_⟩
      have := h.query
      rw [hpath, hquery] at this
      cases this
    | ok version =>
      simp only [Option.some.injEq]
      constructor
      · rintro rfl
        exact ⟨rfl, hname, hexec, hself, hquery⟩
      · rintro ⟨hpath, -, h⟩
        have hversion := h.query
        rw [hpath, hquery, Except.ok.injEq] at hversion
        rw [← hpath, hversion]
  · rename_i hfail
    refine ⟨nofun, fun ⟨hpath, hname, h⟩ => absurd ?_ hfail⟩
    rw [asks_eq_true_iff, ← hpath]
    exact ⟨hname, h.isExecutableFile, h.isSelf⟩

theorem mem_systemBinaries_iff : b ∈ finder.systemBinaries fs ↔ ∃ dir ∈ finder.searchPath, ∃ names,
    fs.readDir dir = .ok names ∧ ∃ name ∈ names, b.path = dir.join name ∧ finder.acceptsName name = true ∧
      finder.IsInstalled fs b := by
  unfold systemBinaries
  rw [List.mem_flatMap]
  refine exists_congr fun dir => and_congr_right fun _ => ?_
  unfold scan
  cases hread : fs.readDir dir with
  | error e => simp
  | ok names => simp only [List.mem_filterMap, binary?_eq_some_iff, Except.ok.injEq, exists_eq_left']

theorem isInstalled_of_mem (h : b ∈ finder.systemBinaries fs) : finder.IsInstalled fs b := by
  obtain ⟨_, _, _, _, _, _, _, _, h⟩ := mem_systemBinaries_iff.1 h
  exact h

theorem localBinaries_eq_ok_iff {bs : List Binary} : finder.localBinaries fs = .ok bs ↔
    finder.cache.entries fs = .ok bs :=
  mapError_eq_ok_iff

/-- The cache vouches for its entries by their names alone. -/
theorem mem_localBinaries_iff : (∃ es, finder.localBinaries fs = .ok es ∧ b ∈ es) ↔
    ∃ names, fs.readDir finder.cache.dir = .ok names ∧ ∃ name ∈ names, finder.cache.entry? name = some b := by
  simp only [localBinaries_eq_ok_iff]
  constructor
  · rintro ⟨es, hes, hb⟩
    obtain ⟨names, hread, rfl⟩ := LocalCache.readDir_of_entries hes (List.ne_nil_of_mem hb)
    exact ⟨names, hread, List.mem_filterMap.1 hb⟩
  · rintro ⟨names, hread, hb⟩
    exact ⟨_, LocalCache.entries_of_readDir hread, List.mem_filterMap.2 hb⟩

theorem mem_scanned_iff : b ∈ finder.scanned fs ↔
    b ∈ finder.systemBinaries fs ∨ ∃ es, finder.localBinaries fs = .ok es ∧ b ∈ es := by
  rw [scanned, List.mem_append]
  refine or_congr_right ?_
  cases finder.localBinaries fs with
  | error e => simp [Except.toOption]
  | ok es => simp [Except.toOption]

theorem mem_allBinaries_iff {newestFirst : Bool} : b ∈ finder.allBinaries newestFirst fs ↔ b ∈ finder.scanned fs :=
  Binary.mem_sorted

/-- The finder sorts before it chooses, but its choice is the one from the unsorted scan. -/
theorem findCompatible_eq (requested : Version) : finder.findCompatible requested fs =
    (Binary.compatible? requested (finder.scanned fs)).elim (.error (.noneCompatible requested)) .ok := by
  rw [findCompatible, allBinaries, Binary.compatible?_sorted]
  cases Binary.compatible? requested (finder.scanned fs) <;> rfl

theorem mostRecentAvailable_eq : finder.mostRecentAvailable fs =
    (Binary.mostRecent? (finder.scanned fs)).elim (.error .noneFound) .ok := by
  rw [mostRecentAvailable, allBinaries, Binary.mostRecent?_sorted]
  cases Binary.mostRecent? (finder.scanned fs) <;> rfl

theorem findCompatible_eq_ok_iff {requested : Version} : finder.findCompatible requested fs = .ok b ↔
    Binary.compatible? requested (finder.scanned fs) = some b := by
  rw [findCompatible_eq]
  cases Binary.compatible? requested (finder.scanned fs) with
  | none => simp
  | some c => simp

theorem findCompatible_of_none {requested : Version} (h : Binary.compatible? requested (finder.scanned fs) = none) :
    finder.findCompatible requested fs = .error (.noneCompatible requested) := by
  rw [findCompatible_eq, h]
  rfl

theorem mostRecentAvailable_eq_ok_iff : finder.mostRecentAvailable fs = .ok b ↔
    Binary.mostRecent? (finder.scanned fs) = some b := by
  rw [mostRecentAvailable_eq]
  cases Binary.mostRecent? (finder.scanned fs) with
  | none => simp
  | some c => simp

/-! ## The order of the scan -/

/-- What is first of its version in the whole scan is first on the search path, if its version is found there. -/
theorem isFirst_systemBinaries (h : Binary.IsFirst b (finder.scanned fs))
    (hs : ∃ s ∈ finder.systemBinaries fs, s.version = b.version) : Binary.IsFirst b (finder.systemBinaries fs) := by
  obtain ⟨s, hs, hsb⟩ := hs
  rcases Binary.IsFirst.append_iff.1 h with h | ⟨hnone, -⟩
  · exact h
  · exact absurd hsb (hnone s hs)

/-- **The choice depends on nothing but the binaries it is between**, for all files and requests.  Both rules are
steady: no sort changes the binary that is chosen and no permutation its version, and it stays the same when any other
binary is left out or one comes in that is not chosen itself.  So the finder, which sorts, chooses as from the
unsorted scan, and of the search path and the cache it takes the one from the search path if both have the version. -/
theorem choice_ignores_presentation (finder : Finder) (fs : FileSystem) (requested : Version) :
    let scan := finder.systemBinaries fs ++ (finder.localBinaries fs).toOption.getD []
    Binary.Steady (Binary.compatible? requested) ∧ Binary.Steady Binary.mostRecent? ∧
    finder.findCompatible requested fs =
      (Binary.compatible? requested scan).elim (.error (.noneCompatible requested)) .ok ∧
    finder.mostRecentAvailable fs = (Binary.mostRecent? scan).elim (.error .noneFound) .ok ∧
    ∀ b, finder.findCompatible requested fs = .ok b ∨ finder.mostRecentAvailable fs = .ok b →
      (∃ s ∈ finder.systemBinaries fs, s.version = b.version) → Binary.IsFirst b (finder.systemBinaries fs) := by
  intro scan
  refine ⟨Binary.steady_compatible? requested, Binary.steady_mostRecent?, findCompatible_eq requested,
    mostRecentAvailable_eq, fun b hb hs => ?_⟩
  have hfirst : Binary.IsFirst b (finder.scanned fs) := by
    rcases hb with hb | hb
    · exact (Binary.compatible?_eq_some_iff.1 (findCompatible_eq_ok_iff.1 hb)).1
    · exact (Binary.mostRecent?_eq_some_iff.1 (mostRecentAvailable_eq_ok_iff.1 hb)).1
  exact isFirst_systemBinaries hfirst hs

/-! ## The running program -/

/-- Nothing that leads to the location is reported by any operation of the finder. -/
structure NeverReports (finder : Finder) (fs : FileSystem) (loc : Location) : Prop where
  systemBinaries : ∀ b ∈ finder.systemBinaries fs, fs.canonical? b.path ≠ some loc
  localBinaries : ∀ es, finder.localBinaries fs = .ok es → ∀ b ∈ es, fs.canonical? b.path ≠ some loc
  allBinaries : ∀ newestFirst, ∀ b ∈ finder.allBinaries newestFirst fs, fs.canonical? b.path ≠ some loc
  findCompatible : ∀ requested b, finder.findCompatible requested fs = .ok b → fs.canonical? b.path ≠ some loc
  mostRecentAvailable : ∀ b, finder.mostRecentAvailable fs = .ok b → fs.canonical? b.path ≠ some loc

theorem neverReports_iff {loc : Location} :
    finder.NeverReports fs loc ↔ ∀ b ∈ finder.scanned fs, fs.canonical? b.path ≠ some loc := by
  constructor
  · intro h b hb
    exact h.allBinaries true b (mem_allBinaries_iff.2 hb)
  · intro h
    refine ⟨fun b hb => ?_, fun es hes b hb => ?_, fun order b hb => ?_, fun requested b hb => ?_, fun b hb => ?_⟩
    · exact h b (mem_scanned_iff.2 (Or.inl hb))
    · exact h b (mem_scanned_iff.2 (Or.inr ⟨es, hes, hb⟩))
    · exact h b (mem_allBinaries_iff.1 hb)
    · obtain ⟨hfirst, -⟩ := Binary.compatible?_eq_some_iff.1 (findCompatible_eq_ok_iff.1 hb)
      exact h b hfirst.mem
    · obtain ⟨hfirst, -⟩ := Binary.mostRecent?_eq_some_iff.1 (mostRecentAvailable_eq_ok_iff.1 hb)
      exact h b hfirst.mem

theorem canonical?_ne_self (hself : finder.self? = some self) (h : b ∈ finder.systemBinaries fs) :
    fs.canonical? b.path ≠ some self := by
  intro hpath
  have hsame := isSelf_iff.2 ⟨self, hself, hpath⟩
  rw [(isInstalled_of_mem h).isSelf] at hsame
  cases hsame

/-- **The running program is never reported from the search path**, whatever links lead to it, and so it is reported by
no operation at all exactly if no name in the cache directory that reads as an entry's leads to it.  Such an entry is
the choice for its own version, unless another binary of that version is found before it. -/
theorem neverReports_self_iff (finder : Finder) (fs : FileSystem) (self : Location) (hself : finder.self? = some self) :
    (∀ b ∈ finder.systemBinaries fs, fs.canonical? b.path ≠ some self) ∧
    (finder.NeverReports fs self ↔ ∀ names, fs.readDir finder.cache.dir = .ok names → ∀ name ∈ names,
      ∀ b, finder.cache.entry? name = some b → fs.canonical? b.path ≠ some self) ∧
    ∀ b, Binary.IsFirst b (finder.scanned fs) → fs.canonical? b.path = some self →
      finder.findCompatible b.version fs = .ok b ∧ ∃ es, finder.localBinaries fs = .ok es ∧ b ∈ es := by
  have hsystem : ∀ b ∈ finder.systemBinaries fs, fs.canonical? b.path ≠ some self := fun b => canonical?_ne_self hself
  refine ⟨hsystem, ?_, fun b hfirst hpath => ⟨?_, ?_⟩⟩
  · rw [neverReports_iff]
    constructor
    · intro h names hread name hname b hentry
      exact h b (mem_scanned_iff.2 (Or.inr (mem_localBinaries_iff.2 ⟨names, hread, name, hname, hentry⟩)))
    · intro h b hb
      rcases mem_scanned_iff.1 hb with hb | hb
      · exact hsystem b hb
      · obtain ⟨names, hread, name, hname, hentry⟩ := mem_localBinaries_iff.1 hb
        exact h names hread name hname b hentry
  · exact findCompatible_eq_ok_iff.2 hfirst.compatible?_version
  · rcases mem_scanned_iff.1 hfirst.mem with hb | hb
    · exact absurd hpath (hsystem b hb)
    · exact hb

/-- It may be installed as the only kubectl, and is hidden there. -/
theorem neverReports_self_as_kubectl :
    let finder : Finder := ⟨["/bin"], ⟨"cache", .current⟩, fun _ _ => .ok (Version.ofNumbers 1 20 0),
      some ["kubectl", "bin"]⟩
    let fs := (FileSystem.empty.put ["bin"] .directory).put ["kubectl", "bin"] (.file 0o755 [])
    finder.NeverReports fs ["kubectl", "bin"] := by
  intro finder fs
  have hread : fs.readDir finder.cache.dir = .error (.system .noEntry) := by decide +kernel
  refine (neverReports_self_iff finder fs ["kubectl", "bin"] rfl).2.1.2 fun names hnames => ?_
  rw [hread] at hnames
  cases hnames

/-- A link in the cache makes the running program the kubectl of the version that the link is named for. -/
theorem reports_self_from_cache :
    let v := Version.ofNumbers 1 20 0
    let finder : Finder := ⟨[], ⟨"cache", .current⟩, fun _ _ => .ok v, some ["exe"]⟩
    let fs := ((FileSystem.empty.put ["exe"] (.file 0o755 [])).put ["cache"] .directory).put ["kubectl1.20.0", "cache"]
      (.link "../exe")
    ¬finder.NeverReports fs ["exe"] ∧ finder.findCompatible v fs = .ok ⟨"cache/kubectl1.20.0", v⟩ ∧
      fs.canonical? "cache/kubectl1.20.0" = finder.self? := by
  intro v finder fs
  have hchoice : finder.findCompatible v fs = .ok ⟨"cache/kubectl1.20.0", v⟩ := by decide +kernel
  have hpath : fs.canonical? "cache/kubectl1.20.0" = finder.self? := by decide +kernel
  exact ⟨fun h => h.findCompatible v _ hchoice hpath, hchoice, hpath⟩

end Finder

end KubectlMatch
