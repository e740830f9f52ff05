import Mathlib.Data.List.Nodup
import KubectlMatch.Cache.Store
import KubectlMatch.Proofs.Files.Directories
import KubectlMatch.Proofs.Version.Spelling
/-!
# The names in the cache

The name of a version's entry reads back as that version, whatever the version and the platform are, so one version has
one entry and one entry is of one version.  All names that the cache takes for entries start with the program's name,
and none of them leads anywhere but to the entry.
-/
namespace KubectlMatch

open KubectlMatch.Path (IsPlain)

/-! ## Names as characters -/

theorem dropEnding_append (name ending : List Char) : dropEnding ending (name ++ ending) = name := by
  unfold dropEnding
  rw [if_pos (List.isSuffixOf_iff_suffix.2 (List.suffix_append name ending)), List.length_append, Nat.add_sub_cancel,
    List.take_left]

theorem dropEnding_isPrefix (ending name : List Char) : dropEnding ending name <+: name := by
  unfold dropEnding
  split
  · exact List.take_prefix _ _
  · exact List.prefix_refl name

namespace Version

variable {p : Platform} {v w : Version} {name : List Char}

/-- **A version's entry is named for that version**: nothing of it is lost in the name, on any platform. -/
theorem ofEntryName?_entryName (v : Version) (p : Platform) : ofEntryName? p (v.entryName p) = some v := by
  obtain ⟨c, rest, hv, hc⟩ := v.chars_eq_cons
  have hafter : p.afterProgramName? (v.entryName p) = some (c :: rest) := by
    unfold Platform.afterProgramName? entryName
    rw [dropEnding_append, hv, List.isPrefixOf?_eq_some_iff_append_eq]
  unfold ofEntryName?
  rw [hafter]
  dsimp only
  rw [if_pos hc, ← hv, parseChars_chars]
  rfl

theorem entryName_injective (h : v.entryName p = w.entryName p) : v = w := by
  have hv := ofEntryName?_entryName v p
  rw [h, ofEntryName?_entryName] at hv
  exact (Option.some.inj hv).symm

theorem programName_isPrefix_of_afterProgramName? {rest : List Char} (h : p.afterProgramName? name = some rest) :
    programName <+: name := by
  unfold Platform.afterProgramName? at h
  have hstem := List.append_eq_of_isPrefixOf?_eq_some h
  exact List.IsPrefix.trans ⟨rest, hstem⟩ (dropEnding_isPrefix _ _)

theorem programName_isPrefix_of_isKubectlName (h : p.isKubectlName name = true) : programName <+: name := by
  unfold Platform.isKubectlName at h
  cases hafter : p.afterProgramName? name with
  | none =>
    rw [hafter] at h
    cases h
  | some rest => exact programName_isPrefix_of_afterProgramName? hafter

theorem programName_isPrefix_of_ofEntryName? (h : ofEntryName? p name = some v) : programName <+: name := by
  unfold ofEntryName? at h
  split at h
  · rename_i hafter
    exact programName_isPrefix_of_afterProgramName? hafter
  · cases h

theorem bounds_of_mem_entryName {c : Char} (h : c ∈ v.entryName p) : c.toNat < 128 ∧ c.toNat ≠ 47 := by
  unfold entryName at h
  rw [List.mem_append, List.mem_append] at h
  rcases h with (h | h) | h
  · have hall : ∀ c ∈ programName, c.toNat < 128 ∧ c.toNat ≠ 47 := by simp [programName]
    exact hall c h
  · have := bounds_of_mem_chars h
    omega
  · have hall : ∀ c ∈ ".exe".toList ++ "".toList, c.toNat < 128 ∧ c.toNat ≠ 47 := by simp
    refine hall c (List.mem_append.2 ?_)
    unfold Platform.exeSuffixChars Platform.exeSuffix at h
    split at h
    · exact Or.inl h
    · exact Or.inr h

end Version

/-! ## Names as bytes -/

theorem utf8_ofList (s : List Char) : Text.utf8 (String.ofList s) = s.flatMap String.utf8EncodeChar := by
  unfold Text.utf8
  rw [String.toUTF8_eq_toByteArray, String.toByteArray_ofList, List.utf8Encode]
  simp

theorem not_mem_slash_utf8 {s : List Char} (h : ∀ c ∈ s, c.toNat < 128 ∧ c.toNat ≠ 47) :
    Path.slash ∉ Text.utf8 (String.ofList s) := by
  rw [utf8_ofList]
  intro hmem
  obtain ⟨c, hc, hmem⟩ := List.mem_flatMap.1 hmem
  obtain ⟨hlt, hne⟩ := h c hc
  have hsize : c.val.toNat ≤ 127 := Nat.le_of_lt_succ hlt
  unfold String.utf8EncodeChar at hmem
  dsimp only at hmem
  rw [if_pos hsize, List.mem_singleton] at hmem
  have hval := congrArg UInt8.toNat hmem
  rw [UInt8.toNat_ofNat_of_lt' (show c.val.toNat < 256 by omega)] at hval
  exact hne hval.symm

theorem bytes_programName (rest : List Char) : (HostText.ofString (String.ofList (programName ++ rest))).bytes =
    107 :: (programName.tail ++ rest).flatMap String.utf8EncodeChar :=
  utf8_ofList (programName ++ rest)

theorem eq_of_programName_isPrefix {name : FileName} {text : String} (htext : name.text? = some text)
    (h : programName <+: text.toList) : ∃ rest, name = HostText.ofString (String.ofList (programName ++ rest)) := by
  obtain ⟨rest, hrest⟩ := h
  refine ⟨rest, ?_⟩
  rw [hrest, String.ofList_toList]
  exact (HostText.ofString_of_text? htext).symm

/-- A name that starts with the program's is no dots. -/
theorem isPlain_programName {rest : List Char}
    (h : Path.slash ∉ (HostText.ofString (String.ofList (programName ++ rest))).bytes) :
    IsPlain (HostText.ofString (String.ofList (programName ++ rest))) := by
  have hhead : ∀ other : FileName, other.bytes.head? ≠ some 107 →
      HostText.ofString (String.ofList (programName ++ rest)) ≠ other := by
    rintro _ hother rfl
    rw [bytes_programName] at hother
    exact hother rfl
  refine ⟨fun hnil => ?_, h, hhead _ (by decide), hhead _ (by decide)⟩
  rw [bytes_programName] at hnil
  cases hnil

namespace LocalCache

variable {cache : LocalCache} {v w : Version} {name : FileName} {b : Binary} {fs : FileSystem}

/-- The name of a version's entry in the directory. -/
def entryFile (cache : LocalCache) (v : Version) : FileName :=
  HostText.ofString (String.ofList (v.entryName cache.platform))

theorem entryPath_eq (cache : LocalCache) (v : Version) : cache.entryPath v = cache.dir.join (cache.entryFile v) := rfl

theorem entryFile_injective (h : cache.entryFile v = cache.entryFile w) : v = w :=
  Version.entryName_injective (String.ofList_injective (HostText.ofString_injective h))

theorem entry?_entryFile (cache : LocalCache) (v : Version) :
    cache.entry? (cache.entryFile v) = some ⟨cache.entryPath v, v⟩ := by
  unfold entry? entryFile
  rw [HostText.text?_ofString]
  show (Version.ofEntryName? cache.platform (String.ofList _).toList >>= fun version => some _) = _
  rw [String.toList_ofList, Version.ofEntryName?_entryName]
  rfl

theorem entry?_eq_some (h : cache.entry? name = some b) : b.path = cache.dir.join name ∧
    ∃ rest, name = HostText.ofString (String.ofList (programName ++ rest)) := by
  obtain ⟨text, htext, h⟩ := Option.bind_eq_some_iff.1 h
  obtain ⟨version, hversion, h⟩ := Option.bind_eq_some_iff.1 h
  cases h
  exact ⟨rfl, eq_of_programName_isPrefix htext (Version.programName_isPrefix_of_ofEntryName? hversion)⟩

theorem isAbsolute_eq_false (h : cache.entry? name = some b) : Path.isAbsolute name = false := by
  obtain ⟨-, rest, hname⟩ := entry?_eq_some h
  unfold Path.isAbsolute
  rw [hname, bytes_programName]
  rfl

theorem entry?_numberedName {start : String} (h : start.toList.head? = some '.') (n : Nat) :
    cache.entry? (FileSystem.numberedName start n) = none := by
  cases hentry : cache.entry? (FileSystem.numberedName start n) with
  | none => rfl
  | some b =>
    obtain ⟨-, rest, hname⟩ := entry?_eq_some hentry
    have hchars := congrArg String.toList (HostText.ofString_injective hname)
    rw [String.toList_append, String.toList_ofList, String.toList_ofList] at hchars
    have hhead := congrArg List.head? hchars
    rw [List.head?_append, h] at hhead
    cases hhead

theorem isPlain_entryFile (cache : LocalCache) (v : Version) : IsPlain (cache.entryFile v) := by
  have hname : v.entryName cache.platform = programName ++ (v.chars ++ cache.platform.exeSuffixChars) :=
    List.append_assoc ..
  have hslash : Path.slash ∉ (cache.entryFile v).bytes :=
    not_mem_slash_utf8 fun c hc => Version.bounds_of_mem_entryName hc
  unfold entryFile at hslash ⊢
  rw [hname] at hslash ⊢
  exact isPlain_programName hslash

/-- **One version, one path.** -/
theorem entryPath_injective (h : cache.entryPath v = cache.entryPath w) : v = w := by
  have hnames := congrArg Path.names h
  rw [entryPath_eq, entryPath_eq, Path.names_join (isPlain_entryFile cache v),
    Path.names_join (isPlain_entryFile cache w)] at hnames
  exact entryFile_injective (List.singleton_inj.1 (List.append_cancel_left hnames))

/-! ## What the cache reports -/

theorem entries_of_readDir {names : List FileName} (h : fs.readDir cache.dir = .ok names) :
    cache.entries fs = .ok (names.filterMap cache.entry?) := by
  unfold entries
  rw [h]

/-- **An entry that is listed is reported** as the version that it is named for. -/
theorem mem_entries_of_readDir {names : List FileName} (h : fs.readDir cache.dir = .ok names)
    (hmem : cache.entryFile v ∈ names) : ∃ es, cache.entries fs = .ok es ∧ ⟨cache.entryPath v, v⟩ ∈ es :=
  ⟨_, entries_of_readDir h, List.mem_filterMap.2 ⟨_, hmem, entry?_entryFile cache v⟩⟩

theorem readDir_of_entries {es : List Binary} (h : cache.entries fs = .ok es) (hne : es ≠ []) :
    ∃ names, fs.readDir cache.dir = .ok names ∧ es = names.filterMap cache.entry? := by
  unfold entries at h
  cases hread : fs.readDir cache.dir with
  | ok names =>
    rw [hread] at h
    cases h
    exact ⟨names, rfl, rfl⟩
  | error e =>
    rw [hread] at h
    dsimp only at h
    split at h
    · cases h
      exact absurd rfl hne
    · cases h

theorem nodup_entries {es : List Binary} (h : cache.entries fs = .ok es) : es.Nodup := by
  by_cases hne : es = []
  · rw [hne]
    exact List.nodup_nil
  obtain ⟨names, hread, rfl⟩ := readDir_of_entries h hne
  obtain ⟨d, -, -, -, rfl⟩ := FileSystem.readDir_eq_ok_iff.1 hread
  refine List.Nodup.filterMap (fun name other b hname hother => ?_) (fs.nodup_namesIn d)
  refine Path.join_injective (isAbsolute_eq_false hname) (isAbsolute_eq_false hother) (d := cache.dir) ?_
  rw [← (entry?_eq_some hname).1, ← (entry?_eq_some hother).1]

theorem of_mem_entries {es : List Binary} {b : Binary} (h : cache.entries fs = .ok es) (hb : b ∈ es) :
    ∃ d name, fs.locate cache.dir = .ok d ∧ fs.isDirectoryAt d = true ∧ cache.entry? name = some b ∧
      (fs.nodeAt? (name :: d)).isSome := by
  obtain ⟨names, hread, rfl⟩ := readDir_of_entries h (List.ne_nil_of_mem hb)
  obtain ⟨d, hd, hdir, -, rfl⟩ := FileSystem.readDir_eq_ok_iff.1 hread
  obtain ⟨name, hname, hentry⟩ := List.mem_filterMap.1 hb
  exact ⟨d, name, hd, hdir, hentry, FileSystem.mem_namesIn_iff.1 hname⟩

/-- The place of an entry's path bears the entry's name, in whatever directory. -/
theorem name_of_place {target : FileSystem.Place} (h : fs.place (cache.entryPath v) = .ok (some target)) :
    target.name = cache.entryFile v := by
  obtain ⟨above, hnames, -⟩ := (FileSystem.place_eq_some_iff.1 h).leads
  rw [entryPath_eq, Path.names_join (isPlain_entryFile cache v)] at hnames
  exact (List.singleton_inj.1 (List.append_inj' hnames rfl).2).symm

theorem location_of_place {d : Location} {target : FileSystem.Place} (hloc : fs.locate cache.dir = .ok d)
    (h : fs.place (cache.entryPath v) = .ok (some target)) : target.location = cache.entryFile v :: d := by
  obtain ⟨hthere, hname⟩ := FileSystem.locate_of_place_join (isPlain_entryFile cache v)
    (FileSystem.bytes_ne_nil_of_locate hloc) h
  rw [hloc, Except.ok.injEq] at hthere
  rw [FileSystem.Place.location, hname, hthere]

/-- What is at an entry's path, through whatever links, is listed in the directory. -/
theorem entryFile_mem_of_locate {loc : Location} {names : List FileName} (h : fs.readDir cache.dir = .ok names)
    (hloc : fs.locate (cache.entryPath v) = .ok loc) : cache.entryFile v ∈ names := by
  obtain ⟨d, hd, -, -, rfl⟩ := FileSystem.readDir_eq_ok_iff.1 h
  obtain ⟨d', hd', -, hsome⟩ := FileSystem.locate_dir_of_locate_join (isPlain_entryFile cache v)
    (FileSystem.bytes_ne_nil_of_locate hd) hloc
  rw [hd] at hd'
  cases hd'
  exact FileSystem.mem_namesIn_iff.2 hsome

/-- **The names of the cache's entries decode to what was encoded**, for every version and platform: the text of a
version reads back as the version, and so does the name of its entry.  Therefore different versions have different names
and different paths, which never have one place, and something at the place of a version's path, in a directory that may
be listed, is reported under that path and as that version. -/
theorem entry_names_decode (cache : LocalCache) (fs : FileSystem) (v : Version) :
    Version.parse v.text = .ok v ∧
    (∀ p : Platform, Version.ofEntryName? p (v.entryName p) = some v) ∧
    (∀ p : Platform, ∀ w : Version, v.entryName p = w.entryName p → v = w) ∧
    (∀ w, cache.entryPath v = cache.entryPath w → v = w) ∧
    (∀ target, fs.place (cache.entryPath v) = .ok (some target) →
      (∀ w, fs.place (cache.entryPath w) = .ok (some target) → v = w) ∧
      (cache.dir.bytes ≠ [] → (fs.nodeAt? target.location).isSome → fs.permit .list target.dir = .ok () →
        ∃ es, cache.entries fs = .ok es ∧ ⟨cache.entryPath v, v⟩ ∈ es)) := by
  refine ⟨Version.parse_text v, Version.ofEntryName?_entryName v, fun p w => Version.entryName_injective,
    fun w => entryPath_injective, fun target htarget => ⟨fun w hw => ?_, fun hne hsome hlist => ?_⟩⟩
  · exact entryFile_injective ((name_of_place htarget).symm.trans (name_of_place hw))
  · obtain ⟨hdir, hname⟩ := FileSystem.locate_of_place_join (isPlain_entryFile cache v) hne htarget
    have hread : fs.readDir cache.dir = .ok (fs.namesIn target.dir) :=
      FileSystem.readDir_eq_ok_iff.2
        ⟨target.dir, hdir, (FileSystem.place_eq_some_iff.1 htarget).isDirectoryAt, hlist, rfl⟩
    refine mem_entries_of_readDir hread (FileSystem.mem_namesIn_iff.2 ?_)
    rw [← hname]
    exact hsome

/-- Nothing is reported of an empty path, which stands for no directory, though its entries are in the working
directory; and nothing of a directory that may not be listed. -/
theorem unreported_entries :
    let v := Version.ofNumbers 1 20 0
    let here : LocalCache := ⟨"", .current⟩
    let inC : LocalCache := ⟨"c", .current⟩
    let fs := ((FileSystem.empty.put ["kubectl1.20.0"] (.file 0o755 [])).put ["c"] .directory).put
      ["kubectl1.20.0", "c"]
      (.file 0o755 [])
    let unlisted : FileSystem := { fs with refusal? := fun action _ => if action = .list then some ⟨13⟩ else none }
    (fs.locate (here.entryPath v) = .ok ["kubectl1.20.0"] ∧ fs.nodeAt? ["kubectl1.20.0"] = some (.file 0o755 []) ∧
      here.entries fs = .ok []) ∧
    (unlisted.locate (inC.entryPath v) = .ok ["kubectl1.20.0", "c"] ∧
      unlisted.nodeAt? ["kubectl1.20.0", "c"] = some (.file 0o755 []) ∧
        inC.entries unlisted = .error (.system ⟨13⟩)) := by
  decide +kernel

end LocalCache

end KubectlMatch
