import KubectlMatch.Mirror.Fetch
import KubectlMatch.Proofs.Cache.Spellings
import KubectlMatch.Proofs.Finder.Scanning
/-!
# Which names are recognised

Two readers look at the names in a directory.  A scan of the search path asks whether a name may be a binary's, and
the cache reads the version in it.  Both look at what the name has behind the program's name (`Continues`) and want
different things there: the scan nothing or a digit first (`isKubectlName_iff`), the cache a version with a digit
first (`ofEntryName?_eq_some_iff_continues`).  So the scan takes every name that the cache takes, and what is foreign
to the scan is foreign to the cache: plugins, and files that a download has not finished (`IsForeign`).
-/
namespace KubectlMatch

namespace Platform

variable {p : Platform} {name rest rest' : List Char} {c : Char}

/-! ## Behind the program's name -/

/-- The rest is what the name has behind the program's name, less one ending of executables where there is one. -/
inductive Continues (p : Platform) (rest : List Char) : List Char → Prop
  | withEnding : Continues p rest (programName ++ (rest ++ p.exeSuffixChars))
  | withoutEnding (hend : ¬ p.exeSuffixChars <:+ rest) : Continues p rest (programName ++ rest)

theorem eq_dot_of_mem_head? (h : c ∈ p.exeSuffixChars.head?) : c = '.' := by
  unfold exeSuffixChars exeSuffix at h
  split at h
  · exact (Option.some.inj h).symm
  · cases h

/-- The program's name has no dot, so no ending of executables starts in it. -/
theorem exeSuffixChars_suffix_iff : p.exeSuffixChars <:+ programName ++ rest ↔ p.exeSuffixChars <:+ rest := by
  constructor
  · intro h
    rcases List.suffix_or_suffix_of_suffix h (List.suffix_append programName rest) with hrest | ⟨overlap, hoverlap⟩
    · exact hrest
    · -- an ending that is longer than the rest starts in the program's name, with its dot
      cases overlap with
      | nil =>
        rw [← hoverlap]
        exact List.suffix_refl rest
      | cons c tail =>
        obtain ⟨stem, hstem⟩ := h
        have hdot : c = '.' := eq_dot_of_mem_head? (by rw [← hoverlap]; rfl)
        have hname : stem ++ c :: tail = programName := by
          rw [← hoverlap, ← List.append_assoc] at hstem
          exact List.append_cancel_right hstem
        have hmem : '.' ∈ programName := by
          rw [← hname, hdot]
          exact List.mem_append_right stem List.mem_cons_self
        exact absurd hmem (by decide)
  · exact fun h => h.trans (List.suffix_append programName rest)

/-- **It does not matter which is taken off first**, the program's name or the ending. -/
theorem continues_iff : p.Continues rest name ↔ p.afterProgramName? name = some rest := by
  rw [Version.afterProgramName?_eq_some_iff]
  constructor
  · rintro (_ | hend)
    · rw [← List.append_assoc, dropEnding_append]
    · rw [Version.dropEnding_of_not_suffix fun h => hend (exeSuffixChars_suffix_iff.1 h)]
  · intro hstem
    rcases Version.dropEnding_cases p.exeSuffixChars name with hname | ⟨hend, hname⟩
    · rw [hname, hstem, List.append_assoc]
      exact .withEnding
    · rw [← hname, hstem] at hend ⊢
      exact .withoutEnding fun h => hend (exeSuffixChars_suffix_iff.2 h)

theorem Continues.unique (h : p.Continues rest name) (h' : p.Continues rest' name) : rest = rest' := by
  rw [continues_iff] at h h'
  exact Option.some.inj (h.symm.trans h')

/-! ## The scan's reader -/

/-- **What the scan takes for a binary's name**: behind the program's name is nothing, or a digit comes first. -/
theorem isKubectlName_iff : p.isKubectlName name = true ↔
    ∃ rest, p.Continues rest name ∧ ∀ c ∈ rest.head?, c.isDigit = true := by
  simp only [continues_iff]
  unfold isKubectlName
  cases p.afterProgramName? name with
  | none => simp
  | some rest => cases rest <;> simp

/-- The ending counts only where executables have it. -/
example : Platform.isKubectlName ⟨"windows", "amd64"⟩ "kubectl.exe".toList = true ∧
    Platform.isKubectlName ⟨"linux", "amd64"⟩ "kubectl.exe".toList = false := by decide +kernel

/-- Names that are no binary's, though they stand among those: of a download that is not finished, and of a plugin,
which has something else than a digit behind the program's name. -/
inductive IsForeign (p : Platform) : List Char → Prop
  | unfinished (number : List Char) : IsForeign p (Mirror.unfinishedStart.toList ++ number)
  | plugin {name rest : List Char} {c : Char} (h : p.Continues (c :: rest) name) (hc : c.isDigit = false) :
      IsForeign p name

theorem IsForeign.isKubectlName_eq_false (h : p.IsForeign name) : p.isKubectlName name = false := by
  rw [Bool.eq_false_iff]
  intro hname
  cases h with
  | unfinished number =>
    obtain ⟨rest, hrest⟩ := Version.programName_isPrefix_of_isKubectlName hname
    have hdot : Mirror.unfinishedStart.toList.head? = some '.' := by decide
    have hhead := congrArg List.head? hrest
    rw [List.head?_append, List.head?_append, hdot] at hhead
    cases hhead
  | plugin h hc =>
    obtain ⟨rest, hrest, hdigit⟩ := isKubectlName_iff.1 hname
    rw [← h.unique hrest] at hdigit
    rw [hdigit _ rfl] at hc
    cases hc

end Platform

/-! ## The cache's reader -/

namespace Version

variable {p : Platform} {name : List Char} {v : Version}

theorem parse_ofList_eq_ok_iff {s : List Char} : parse (String.ofList s) = .ok v ↔ parseChars s = .ok v := by
  unfold parse
  rw [String.toList_ofList]
  cases parseChars s with
  | ok w => simp
  | error reason => simp

/-- **What the cache takes for an entry's name**: behind the program's name is a version, and a digit comes first. -/
theorem ofEntryName?_eq_some_iff_continues : ofEntryName? p name = some v ↔
    ∃ c rest, p.Continues (c :: rest) name ∧ c.isDigit = true ∧ parseChars (c :: rest) = .ok v := by
  simp only [Platform.continues_iff]
  unfold ofEntryName?
  cases p.afterProgramName? name with
  | none => simp
  | some rest =>
    cases rest with
    | nil => simp
    | cons c rest =>
      cases hparse : parseChars (c :: rest) with
      | error reason => simp [hparse, Except.toOption]
      | ok w => simp [hparse, Except.toOption]

/-- **The cache takes of the scan's names those with a version** behind the program's name. -/
theorem ofEntryName?_eq_some_iff_isKubectlName : ofEntryName? p name = some v ↔ p.isKubectlName name = true ∧
    ∃ rest, p.Continues rest name ∧ rest ≠ [] ∧ parse (String.ofList rest) = .ok v := by
  simp only [parse_ofList_eq_ok_iff]
  rw [ofEntryName?_eq_some_iff_continues]
  constructor
  · rintro ⟨c, rest, hrest, hc, hparse⟩
    refine ⟨Platform.isKubectlName_iff.2 ⟨c :: rest, hrest, fun d hd => ?_⟩, c :: rest, hrest, List.cons_ne_nil c rest,
      hparse⟩
    cases hd
    exact hc
  · rintro ⟨hname, rest, hrest, hne, hparse⟩
    obtain ⟨rest', hrest', hdigit⟩ := Platform.isKubectlName_iff.1 hname
    cases hrest'.unique hrest
    obtain ⟨c, tail, rfl⟩ := List.exists_cons_of_ne_nil hne
    exact ⟨c, tail, hrest, hdigit c rfl, hparse⟩

theorem isKubectlName_of_ofEntryName? (h : ofEntryName? p name = some v) : p.isKubectlName name = true :=
  (ofEntryName?_eq_some_iff_isKubectlName.1 h).1

theorem ofEntryName?_of_isForeign (h : p.IsForeign name) : ofEntryName? p name = none := by
  cases hread : ofEntryName? p name with
  | none => rfl
  | some v =>
    have hname := isKubectlName_of_ofEntryName? hread
    rw [h.isKubectlName_eq_false] at hname
    cases hname

end Version

/-! ## In a directory -/

namespace Finder

variable {finder : Finder} {fs : FileSystem} {name : FileName} {b : Binary}

theorem acceptsName_of_entry? (h : finder.cache.entry? name = some b) : finder.acceptsName name = true := by
  obtain ⟨text, htext, hread, -⟩ := LocalCache.entry?_eq_some_iff.1 h
  exact acceptsName_iff.2 ⟨text, htext, Version.isKubectlName_of_ofEntryName? hread⟩

/-- Whatever is reported stands in a listed directory under a name that passes the scan's test of names, be the
directory on the search path or the cache. -/
theorem acceptsName_of_mem_scanned (h : b ∈ finder.scanned fs) : ∃ dir ∈ finder.cache.dir :: finder.searchPath, ∃ names,
    fs.readDir dir = .ok names ∧ ∃ name ∈ names, b.path = dir.join name ∧ finder.acceptsName name = true := by
  rcases mem_scanned_iff.1 h with h | h
  · obtain ⟨dir, hdir, names, hread, name, hname, hpath, haccepts, -⟩ := mem_systemBinaries_iff.1 h
    exact ⟨dir, List.mem_cons_of_mem _ hdir, names, hread, name, hname, hpath, haccepts⟩
  · obtain ⟨names, hread, name, hname, hentry⟩ := mem_localBinaries_iff.1 h
    exact ⟨_, List.mem_cons_self, names, hread, name, hname, (LocalCache.entry?_eq_some hentry).1,
      acceptsName_of_entry? hentry⟩

/-- **The scan and the cache recognise names alike**, on every platform.  A name is read as a version's entry exactly
if it passes the scan's test of names and what is behind the program's name is not empty and is read as this version;
so the name of every entry passes it.  Neither takes the name of an unfinished file or of a plugin.

Therefore the finder reports nothing under such a name, wherever it looks.  And a name that the cache takes never
hides a binary from the search path: it is found there if it passes the other tests. -/
theorem names_are_recognised_alike (finder : Finder) (fs : FileSystem) :
    (∀ (p : Platform) (name : List Char) (v : Version), Version.ofEntryName? p name = some v ↔
      p.isKubectlName name = true ∧
        ∃ rest, p.Continues rest name ∧ rest ≠ [] ∧ Version.parse (String.ofList rest) = .ok v) ∧
    (∀ (p : Platform) (v : Version), p.isKubectlName (v.entryName p) = true) ∧
    (∀ (p : Platform) (name : List Char), p.IsForeign name →
      p.isKubectlName name = false ∧ Version.ofEntryName? p name = none) ∧
    (∀ b ∈ finder.scanned fs, ∃ dir ∈ finder.cache.dir :: finder.searchPath, ∃ names, fs.readDir dir = .ok names ∧
      ∃ name ∈ names, b.path = dir.join name ∧
        ∃ text, name.text? = some text ∧ ¬ finder.cache.platform.IsForeign text.toList) ∧
    ∀ dir ∈ finder.searchPath, ∀ names, fs.readDir dir = .ok names → ∀ name ∈ names, (finder.cache.entry? name).isSome →
      ∀ v, finder.IsInstalled fs ⟨dir.join name, v⟩ → ⟨dir.join name, v⟩ ∈ finder.systemBinaries fs := by
  refine ⟨fun p name v => Version.ofEntryName?_eq_some_iff_isKubectlName, fun p v => ?_, fun p name hforeign => ?_,
    fun b hb => ?_, fun dir hdir names hread name hname hentry v hinstalled => ?_⟩
  · exact Version.isKubectlName_of_ofEntryName? (Version.ofEntryName?_entryName v p)
  · exact ⟨hforeign.isKubectlName_eq_false, Version.ofEntryName?_of_isForeign hforeign⟩
  · obtain ⟨dir, hdir, names, hread, name, hname, hpath, haccepts⟩ := acceptsName_of_mem_scanned hb
    obtain ⟨text, htext, hkubectl⟩ := acceptsName_iff.1 haccepts
    refine ⟨dir, hdir, names, hread, name, hname, hpath, text, htext, fun hforeign => ?_⟩
    rw [hforeign.isKubectlName_eq_false] at hkubectl
    cases hkubectl
  · obtain ⟨entry, hentry⟩ := Option.isSome_iff_exists.1 hentry
    exact mem_systemBinaries_iff.2
      ⟨dir, hdir, names, hread, name, hname, rfl, acceptsName_of_entry? hentry, hinstalled⟩

/-- A plugin in the cache's directory, which is on the search path too, beside an entry. -/
theorem names_are_recognised_beside_plugin :
    let v := Version.ofNumbers 1 20 0
    let windows : Platform := ⟨"windows", "amd64"⟩
    let finder : Finder := ⟨["c"], ⟨"c", windows⟩, fun _ _ => .ok v, none⟩
    let fs := ((FileSystem.empty.put ["c"] .directory).put ["kubectl-convert.exe", "c"] (.file 0o755 [])).put
      ["kubectl1.20.exe", "c"] (.file 0o755 [])
    (windows.IsForeign "kubectl-convert.exe".toList ∧ windows.isKubectlName "kubectl-convert.exe".toList = false ∧
      Version.ofEntryName? windows "kubectl-convert.exe".toList = none) ∧
    (finder.cache.entry? "kubectl1.20.exe" = some ⟨"c/kubectl1.20.exe", v⟩ ∧
      ⟨"c/kubectl1.20.exe", v⟩ ∈ finder.systemBinaries fs) := by
  intro v windows finder fs
  obtain ⟨-, -, hforeign, -, hfound⟩ := names_are_recognised_alike finder fs
  have hplugin : windows.IsForeign "kubectl-convert.exe".toList :=
    .plugin (Platform.continues_iff.2 (show _ = some ('-' :: "convert".toList) by decide +kernel)) (by decide)
  have hentry : finder.cache.entry? "kubectl1.20.exe" = some ⟨"c/kubectl1.20.exe", v⟩ := by decide +kernel
  have hread : fs.readDir "c" = .ok ["kubectl-convert.exe", "kubectl1.20.exe"] := by decide +kernel
  refine ⟨⟨hplugin, hforeign _ _ hplugin⟩, hentry, ?_⟩
  refine hfound "c" (by decide) _ hread "kubectl1.20.exe" (by decide) (by rw [hentry]; rfl) v ?_
  exact ⟨by decide +kernel, by decide +kernel, rfl⟩

end Finder

end KubectlMatch
