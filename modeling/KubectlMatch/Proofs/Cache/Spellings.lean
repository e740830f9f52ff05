import KubectlMatch.Proofs.Cache.Entries
import KubectlMatch.Proofs.Version.Grammar
/-!
# The spellings of an entry's name

A version has one entry, under one name.  The reader of names lets more of them pass, since it reads the version in a
name as it reads any other: numbers may be left out or have zeros in front, blanks may follow, and the ending of
executables may be missing.  `Spells` has all these names (`ofEntryName?_eq_some_iff`); the name of the entry is the
only exact one among them (`eq_entryName_iff`).  So what the cache reports is right as long as the names that are
listed are exact, and then no version is reported twice.
-/
namespace KubectlMatch

theorem Text.exists_trimEnd_append (s : List Char) :
    ∃ blanks, (∀ c ∈ blanks, isBlank c = true) ∧ s = trimEnd s ++ blanks := by
  refine ⟨(s.reverse.takeWhile isBlank).reverse, fun c hc => List.mem_takeWhile_imp (List.mem_reverse.1 hc), ?_⟩
  rw [trimEnd, ← List.reverse_append, List.takeWhile_append_dropWhile, List.reverse_reverse]

/-! ## Exact versions -/

namespace Version

/-- The three numbers of a version, each as it is written. -/
def decimals (v : Version) : List (List Char) :=
  [Nat.toDigits 10 v.major.toNat, Nat.toDigits 10 v.minor.toNat, Nat.toDigits 10 v.patch.toNat]

theorem intercalate_decimals (v : Version) : ['.'].intercalate v.decimals = v.coreChars := by
  simp [decimals, coreChars, List.intercalate_cons_cons]

theorem eq_decimal_of_mem {v : Version} {digits : List Char} (h : digits ∈ v.decimals) :
    ∃ n, digits = Nat.toDigits 10 n := by
  simp only [decimals, List.mem_cons, List.not_mem_nil, or_false] at h
  rcases h with rfl | rfl | rfl
  · exact ⟨_, rfl⟩
  · exact ⟨_, rfl⟩
  · exact ⟨_, rfl⟩

theorem decimal_eq_zero {n : Nat} (h : (Nat.toDigits 10 n).head? = some '0') : Nat.toDigits 10 n = ['0'] := by
  rcases Nat.eq_zero_or_pos n with rfl | hn
  · rfl
  · exact absurd h (head?_decimal n hn)

namespace Written

variable {w : Written} {v : Version}

/-- All three numbers are written, and none with a zero in front of another digit. -/
structure IsExact (w : Written) : Prop where
  length_numbers : w.numbers.length = 3
  eq_zero : ∀ digits ∈ w.numbers, digits.head? = some '0' → digits = ['0']

theorem IsExact.numbers_eq (h : w.IsExact) (hv : w.Means v) : w.numbers = v.decimals := by
  obtain ⟨a, b, c, habc⟩ := List.length_eq_three.1 h.length_numbers
  have hdecimal : ∀ digits ∈ w.numbers, Nat.toDigits 10 (Nat.ofDigitChars 10 digits 0) = digits :=
    fun digits hmem => toDigits_ofDigitChars (w.isNumber digits hmem).ne_nil (w.isNumber digits hmem).isDigit
      (h.eq_zero digits hmem)
  have hmajor := hv.major
  have hminor := hv.minor
  have hpatch := hv.patch
  unfold number at hmajor hminor hpatch
  rw [habc] at hdecimal hmajor hminor hpatch
  rw [habc, decimals, hmajor, hminor, hpatch]
  simp only [List.mem_cons, List.not_mem_nil, or_false, forall_eq_or_imp, forall_eq] at hdecimal
  obtain ⟨ha, hb, hc⟩ := hdecimal
  simp [ha, hb, hc]

/-- **Of all that spells a version, only the exact text is how it is written.** -/
theorem Means.chars_eq_iff (hv : w.Means v) : w.chars = v.chars ↔ w.IsExact := by
  rw [chars, hv.suffix_eq, chars_eq, List.append_cancel_right_eq, core, ← intercalate_decimals]
  constructor
  · intro h
    have hnumbers : w.numbers = v.decimals := by
      -- no decimal has a dot in it, so the text falls into the same parts again
      rw [← splitOn_core, core, h]
      refine List.splitOn_intercalate _ (fun digits hdigits hdot => ?_) (List.cons_ne_nil _ _)
      obtain ⟨n, rfl⟩ := eq_decimal_of_mem hdigits
      cases isDigit_of_mem_decimal hdot
    refine ⟨by rw [hnumbers]; rfl, fun digits hdigits hzero => ?_⟩
    rw [hnumbers] at hdigits
    obtain ⟨n, rfl⟩ := eq_decimal_of_mem hdigits
    exact decimal_eq_zero hzero
  · intro h
    rw [h.numbers_eq hv]

theorem chars_eq_cons (w : Written) : ∃ c rest, w.chars = c :: rest ∧ c.isDigit = true := by
  obtain ⟨digits, more, hnumbers⟩ := List.exists_cons_of_ne_nil w.numbers_ne_nil
  have hnumber := w.isNumber digits (by rw [hnumbers]; exact List.mem_cons_self)
  obtain ⟨c, rest, hdigits⟩ := List.exists_cons_of_ne_nil hnumber.ne_nil
  have hc : c.isDigit = true := hnumber.isDigit c (by rw [hdigits]; exact List.mem_cons_self)
  obtain ⟨tail, hcore⟩ : ∃ tail, w.core = c :: tail := by
    rw [core, hnumbers, hdigits]
    cases more with
    | nil => exact ⟨rest, List.intercalate_singleton ..⟩
    | cons next more => exact ⟨rest ++ ['.'] ++ ['.'].intercalate (next :: more), List.intercalate_cons_cons⟩
  rw [chars, hcore]
  exact ⟨c, tail ++ w.suffix, rfl, hc⟩

theorem Means.isBlank_eq_false (hv : w.Means v) {c : Char} (h : c ∈ w.chars) : Text.isBlank c = false := by
  rw [chars, hv.suffix_eq, List.mem_append] at h
  rcases h with h | h
  · have hlabel : isLabelChar c = true → Text.isBlank c = false := fun hc =>
      not_isBlank_of_bounds (by have := isLabelChar_bounds hc; omega) (isLabelChar_bounds hc).2.1
    rcases mem_intercalate_dot h with rfl | ⟨digits, hdigits, hc⟩
    · rfl
    · exact hlabel (isLabelChar_of_isDigit ((w.isNumber digits hdigits).isDigit c hc))
  · have hbounds := bounds_of_mem_chars (v := v) (c := c) (by rw [chars_eq]; exact List.mem_append_right _ h)
    exact not_isBlank_of_bounds hbounds.1 hbounds.2.1

end Written

/-- Where a digit is first, a version is read from its spellings with blanks behind them. -/
theorem parseChars_eq_ok_iff {c : Char} {rest : List Char} {v : Version} (hc : c.isDigit = true) :
    parseChars (c :: rest) = .ok v ↔ ∃ (w : Written) (blanks : List Char), w.Means v ∧
      (∀ b ∈ blanks, Text.isBlank b = true) ∧ c :: rest = w.chars ++ blanks := by
  have hvisible : Text.isBlank c = false := by
    have := isLabelChar_bounds (isLabelChar_of_isDigit hc)
    exact not_isBlank_of_bounds (by omega) this.2.1
  rw [parseChars, Text.trim_cons hvisible, dropV_of_isDigit hc, parseBare_eq_ok_iff]
  constructor
  · rintro ⟨w, hw, hv⟩
    obtain ⟨blanks, hblank, hrest⟩ := Text.exists_trimEnd_append rest
    exact ⟨w, blanks, hv, hblank, by rw [← hw, List.cons_append, ← hrest]⟩
  · rintro ⟨w, blanks, hv, hblank, hw⟩
    refine ⟨w, ?_, hv⟩
    rw [← Text.trim_cons hvisible, hw, Text.trim_append_right hblank, Text.trim_eq_self fun c => hv.isBlank_eq_false]

/-! ## Names -/

variable {p : Platform} {v : Version} {name : List Char}

/-- The names that are read as the entry of a version: any spelling of the version is behind the program's name, and
blanks behind that.  The ending of executables is dropped where it is. -/
inductive Spells (p : Platform) (v : Version) : List Char → Prop
  | withEnding {w : Written} {blanks : List Char} (hv : w.Means v) (hblank : ∀ c ∈ blanks, Text.isBlank c = true) :
      Spells p v (programName ++ (w.chars ++ blanks) ++ p.exeSuffixChars)
  | withoutEnding {w : Written} {blanks : List Char} (hv : w.Means v) (hblank : ∀ c ∈ blanks, Text.isBlank c = true)
      (hend : ¬ p.exeSuffixChars <:+ programName ++ (w.chars ++ blanks)) :
        Spells p v (programName ++ (w.chars ++ blanks))

/-- A name of the form that entries are given: an exact version between the program's name and the ending. -/
def IsEntryName (p : Platform) (name : List Char) : Prop :=
  ∃ w : Written, w.IsExact ∧ name = programName ++ w.chars ++ p.exeSuffixChars

theorem dropEnding_cases (ending name : List Char) :
    name = dropEnding ending name ++ ending ∨ (¬ ending <:+ name ∧ dropEnding ending name = name) := by
  unfold dropEnding
  split
  · rename_i h
    obtain ⟨stem, rfl⟩ := List.isSuffixOf_iff_suffix.1 h
    left
    rw [List.length_append, Nat.add_sub_cancel, List.take_left]
  · rename_i h
    exact Or.inr ⟨fun hsuffix => h (List.isSuffixOf_iff_suffix.2 hsuffix), rfl⟩

theorem dropEnding_of_not_suffix {ending : List Char} (h : ¬ ending <:+ name) : dropEnding ending name = name := by
  unfold dropEnding
  rw [if_neg fun hsuffix => h (List.isSuffixOf_iff_suffix.1 hsuffix)]

theorem afterProgramName?_eq_some_iff {rest : List Char} :
    p.afterProgramName? name = some rest ↔ dropEnding p.exeSuffixChars name = programName ++ rest := by
  unfold Platform.afterProgramName?
  rw [List.isPrefixOf?_eq_some_iff_append_eq]
  exact eq_comm

theorem ofEntryName?_eq_some_iff_stem : ofEntryName? p name = some v ↔ ∃ (w : Written) (blanks : List Char), w.Means v ∧
    (∀ c ∈ blanks, Text.isBlank c = true) ∧ dropEnding p.exeSuffixChars name = programName ++ (w.chars ++ blanks) := by
  constructor
  · intro h
    unfold ofEntryName? at h
    split at h
    · rename_i c rest hafter
      split at h
      · rename_i hc
        cases hparse : parseChars (c :: rest) with
        | error reason =>
          rw [hparse] at h
          cases h
        | ok version =>
          rw [hparse] at h
          cases h
          obtain ⟨w, blanks, hv, hblank, hw⟩ := (parseChars_eq_ok_iff hc).1 hparse
          exact ⟨w, blanks, hv, hblank, by rw [← hw, afterProgramName?_eq_some_iff.1 hafter]⟩
      · cases h
    · cases h
  · rintro ⟨w, blanks, hv, hblank, hstem⟩
    obtain ⟨c, rest, hw, hc⟩ := w.chars_eq_cons
    rw [hw, List.cons_append] at hstem
    unfold ofEntryName?
    rw [afterProgramName?_eq_some_iff.2 hstem]
    dsimp only
    rw [if_pos hc, (parseChars_eq_ok_iff hc).2 ⟨w, blanks, hv, hblank, by rw [hw, List.cons_append]⟩]
    rfl

/-- **What the reader of names lets pass** is what the spellings say, no more and no less. -/
theorem ofEntryName?_eq_some_iff : ofEntryName? p name = some v ↔ Spells p v name := by
  rw [ofEntryName?_eq_some_iff_stem]
  constructor
  · rintro ⟨w, blanks, hv, hblank, hstem⟩
    rcases dropEnding_cases p.exeSuffixChars name with hname | ⟨hend, hname⟩
    · rw [hname, hstem]
      exact .withEnding hv hblank
    · rw [← hname, hstem] at hend ⊢
      exact .withoutEnding hv hblank hend
  · rintro (⟨hv, hblank⟩ | ⟨hv, hblank, hend⟩)
    · exact ⟨_, _, hv, hblank, dropEnding_append _ _⟩
    · exact ⟨_, _, hv, hblank, dropEnding_of_not_suffix hend⟩

/-- **The entry's name is the exact one** of the names that are read as a version. -/
theorem eq_entryName_iff : name = v.entryName p ↔ ofEntryName? p name = some v ∧ IsEntryName p name := by
  constructor
  · rintro rfl
    refine ⟨ofEntryName?_entryName v p, ?_⟩
    obtain ⟨w, hw, hv⟩ := parseBare_eq_ok_iff.1 (parseBare_chars v)
    exact ⟨w, hv.chars_eq_iff.1 hw.symm, by rw [entryName, hw]⟩
  · rintro ⟨hread, w, hexact, rfl⟩
    obtain ⟨v', hv'⟩ := w.exists_means
    have hname : v'.entryName p = programName ++ w.chars ++ p.exeSuffixChars := by
      rw [entryName, hv'.chars_eq_iff.2 hexact]
    rw [← hname, ofEntryName?_entryName] at hread
    rw [← hname, Option.some.inj hread]

end Version

/-! ## What the cache reports -/

namespace LocalCache

variable {cache : LocalCache} {fs : FileSystem} {name : FileName} {names : List FileName} {es : List Binary}
  {b : Binary}

/-- The names among these that the cache reports are all exact. -/
def ExactNames (cache : LocalCache) (names : List FileName) : Prop :=
  ∀ name ∈ names, ∀ text, name.text? = some text → (Version.ofEntryName? cache.platform text.toList).isSome = true →
    Version.IsEntryName cache.platform text.toList

theorem entry?_eq_some_iff : cache.entry? name = some b ↔ ∃ text, name.text? = some text ∧
    Version.ofEntryName? cache.platform text.toList = some b.version ∧ b.path = cache.dir.join name := by
  constructor
  · intro h
    obtain ⟨text, htext, h⟩ := Option.bind_eq_some_iff.1 h
    obtain ⟨version, hversion, h⟩ := Option.bind_eq_some_iff.1 h
    cases h
    exact ⟨text, htext, hversion, rfl⟩
  · rintro ⟨text, htext, hversion, hpath⟩
    unfold entry?
    rw [htext]
    show (Version.ofEntryName? cache.platform text.toList >>= fun version => some _) = _
    rw [hversion, ← hpath]
    rfl

theorem path_eq_entryPath_iff (h : cache.entry? name = some b) :
    b.path = cache.entryPath b.version ↔ name = cache.entryFile b.version := by
  rw [(entry?_eq_some h).1, entryPath_eq]
  refine ⟨Path.join_injective (isAbsolute_eq_false h) (isPlain_entryFile cache b.version).isAbsolute, fun hname => ?_⟩
  rw [hname]

theorem name_eq_entryFile_iff (h : cache.entry? name = some b) :
    name = cache.entryFile b.version ↔ ∃ text, name.text? = some text ∧
      Version.IsEntryName cache.platform text.toList := by
  obtain ⟨text, htext, hversion, -⟩ := entry?_eq_some_iff.1 h
  have hname : name = cache.entryFile b.version ↔ text.toList = b.version.entryName cache.platform := by
    rw [← HostText.ofString_of_text? htext, entryFile]
    refine ⟨fun heq => ?_, fun heq => by rw [← heq, String.ofList_toList]⟩
    rw [HostText.ofString_injective heq, String.toList_ofList]
  rw [hname, Version.eq_entryName_iff]
  constructor
  · exact fun hexact => ⟨text, htext, hexact.2⟩
  · rintro ⟨text', htext', hexact⟩
    rw [htext] at htext'
    cases htext'
    exact ⟨hversion, hexact⟩

/-- The paths are right exactly if the names are exact. -/
theorem paths_filterMap_iff : (∀ b ∈ names.filterMap cache.entry?, b.path = cache.entryPath b.version) ↔
    cache.ExactNames names := by
  constructor
  · intro hpaths name hname text htext hread
    obtain ⟨v, hv⟩ := Option.isSome_iff_exists.1 hread
    have hentry : cache.entry? name = some ⟨cache.dir.join name, v⟩ := entry?_eq_some_iff.2 ⟨text, htext, hv, rfl⟩
    have hpath := hpaths _ (List.mem_filterMap.2 ⟨name, hname, hentry⟩)
    obtain ⟨text', htext', hexact⟩ := (name_eq_entryFile_iff hentry).1 ((path_eq_entryPath_iff hentry).1 hpath)
    rw [htext] at htext'
    cases htext'
    exact hexact
  · intro hexact b hb
    obtain ⟨name, hname, hentry⟩ := List.mem_filterMap.1 hb
    obtain ⟨text, htext, hversion, -⟩ := entry?_eq_some_iff.1 hentry
    rw [path_eq_entryPath_iff hentry, name_eq_entryFile_iff hentry]
    exact ⟨text, htext, hexact name hname text htext (by rw [hversion]; rfl)⟩

theorem nodup_versions (h : cache.entries fs = .ok es) (hpaths : ∀ b ∈ es, b.path = cache.entryPath b.version) :
    (es.map (·.version)).Nodup := by
  refine List.Nodup.map_on (fun a ha b hb hab => ?_) (nodup_entries h)
  have hpath : a.path = b.path := by rw [hpaths a ha, hpaths b hb, hab]
  cases a
  cases b
  cases hab
  cases hpath
  rfl

/-- **The cache takes more names for entries than it gives**: those that are read as a version are the spellings of
that version, for every name and platform, and only the exact one among them is the name of its entry.  What the cache
reports is at the path of its version, everything in it, exactly if all names in the directory that are read are
exact; then no version is reported twice. -/
theorem entry_names_are_spellings (cache : LocalCache) (fs : FileSystem) :
    (∀ (p : Platform) (name : List Char) (v : Version),
      (Version.ofEntryName? p name = some v ↔ Version.Spells p v name) ∧
      (name = v.entryName p ↔ Version.ofEntryName? p name = some v ∧ Version.IsEntryName p name)) ∧
    (∀ names, fs.readDir cache.dir = .ok names → ∃ es, cache.entries fs = .ok es ∧
      ((∀ b ∈ es, b.path = cache.entryPath b.version) ↔ cache.ExactNames names)) ∧
    ∀ es, cache.entries fs = .ok es → (∀ b ∈ es, b.path = cache.entryPath b.version) → (es.map (·.version)).Nodup := by
  refine ⟨fun p name v => ⟨Version.ofEntryName?_eq_some_iff, Version.eq_entryName_iff⟩, fun names hread => ?_,
    fun es => nodup_versions⟩
  exact ⟨_, entries_of_readDir hread, paths_filterMap_iff⟩

/-- A name without a patch is read as the version with patch zero, and so is the name of that version's entry without
the ending of executables where there is one.  In one directory, both names are reported, for one version. -/
theorem loose_names_are_read :
    let v := Version.ofNumbers 1 20 0
    let windows : Platform := ⟨"windows", "amd64"⟩
    let cache : LocalCache := ⟨"c", .current⟩
    let fs := ((FileSystem.empty.put ["c"] .directory).put ["kubectl1.20", "c"] (.file 0o755 [])).put
      ["kubectl1.20.0", "c"] (.file 0o755 [])
    (Version.ofEntryName? .current "kubectl1.20".toList = some v ∧ "kubectl1.20".toList ≠ v.entryName .current) ∧
    (Version.ofEntryName? windows "kubectl1.20.0".toList = some v ∧ "kubectl1.20.0".toList ≠ v.entryName windows) ∧
    cache.entries fs = .ok [⟨"c/kubectl1.20", v⟩, ⟨"c/kubectl1.20.0", v⟩] ∧ cache.entryPath v = "c/kubectl1.20.0" := by
  decide +kernel

end LocalCache

end KubectlMatch
