import KubectlMatch.Proofs.Files.Removals
import KubectlMatch.Proofs.Finder.Reports
/-!
# What a scan finds

`Searches` says by rules what a search path yields, and the scan computes just that (`searches_iff`).  Every rule
looks at one directory or at one name, so what adds nothing of its own takes nothing away from the others: a directory
that cannot be listed, and an entry that fails a test.  An entry can still be a step on the way to something else.
Without it everything is found as it was if no link and no directory of the finder needs it (`Unnoticed`).
-/
namespace KubectlMatch

namespace Finder

open KubectlMatch.Path (IsPlain)

variable {finder finder' : Finder} {fs fs' : FileSystem} {dir : Path} {name other : FileName} {names : List FileName}
  {dirs : List Path} {b : Binary} {bs : List Binary} {d l : Location}

/-! ## The tests -/

/-- The entry of that name in the directory passes every test, and is reported as the binary. -/
structure Finds (finder : Finder) (fs : FileSystem) (dir : Path) (name : FileName) (b : Binary) : Prop where
  path : b.path = dir.join name
  named : ∃ text, name.text? = some text ∧ finder.cache.platform.isKubectlName text.toList = true
  executable : ∃ mode content, fs.stat b.path = .ok (.file mode content) ∧ mode &&& 0o111 ≠ 0
  notSelf : ∀ self, finder.self? = some self → fs.canonical? b.path ≠ some self
  answer : finder.query fs b.path = .ok b.version

theorem acceptsName_iff : finder.acceptsName name = true ↔
    ∃ text, name.text? = some text ∧ finder.cache.platform.isKubectlName text.toList = true := by
  unfold acceptsName
  cases name.text? <;> simp

theorem isSelf_eq_false_iff {p : Path} : finder.isSelf fs p = false ↔
    ∀ self, finder.self? = some self → fs.canonical? p ≠ some self := by
  rw [← Bool.not_eq_true, isSelf_iff]
  simp

theorem finds_iff : finder.Finds fs dir name b ↔ finder.binary? fs dir name = some b := by
  rw [binary?_eq_some_iff]
  constructor
  · intro h
    exact ⟨h.path, acceptsName_iff.2 h.named, isExecutableFile_iff.2 h.executable, isSelf_eq_false_iff.2 h.notSelf,
      h.answer⟩
  · rintro ⟨hpath, hname, hexec, hself, hquery⟩
    exact ⟨hpath, acceptsName_iff.1 hname, isExecutableFile_iff.1 hexec, isSelf_eq_false_iff.1 hself, hquery⟩

theorem Finds.exists_location (h : finder.Finds fs dir name b) : ∃ loc, fs.locate (dir.join name) = .ok loc := by
  obtain ⟨mode, content, hfile, -⟩ := h.executable
  obtain ⟨loc, hloc, -⟩ := FileSystem.stat_ok hfile
  rw [h.path] at hloc
  exact ⟨loc, hloc⟩

theorem binary?_eq_none_iff : finder.binary? fs dir name = none ↔ ∀ b, ¬finder.Finds fs dir name b := by
  simp only [Option.eq_none_iff_forall_ne_some, finds_iff, ne_eq]

/-! ## The search -/

/-- What the names of a directory yield, in their order. -/
inductive Picks (finder : Finder) (fs : FileSystem) (dir : Path) : List FileName → List Binary → Prop
  | done : Picks finder fs dir [] []
  | found {name : FileName} {names : List FileName} {b : Binary} {bs : List Binary} (h : finder.Finds fs dir name b)
      (hrest : Picks finder fs dir names bs) : Picks finder fs dir (name :: names) (b :: bs)
  | passed {name : FileName} {names : List FileName} {bs : List Binary} (h : ∀ b, ¬finder.Finds fs dir name b)
      (hrest : Picks finder fs dir names bs) : Picks finder fs dir (name :: names) bs

/-- What the directories yield, in their order. -/
inductive Searches (finder : Finder) (fs : FileSystem) : List Path → List Binary → Prop
  | done : Searches finder fs [] []
  | listed {dir : Path} {dirs : List Path} {d : Location} {bs found : List Binary} (h : fs.Lists dir d)
      (hpicks : finder.Picks fs dir (fs.namesIn d) found) (hrest : Searches finder fs dirs bs) :
      Searches finder fs (dir :: dirs) (found ++ bs)
  | unlisted {dir : Path} {dirs : List Path} {bs : List Binary} (h : ∀ d, ¬fs.Lists dir d)
      (hrest : Searches finder fs dirs bs) : Searches finder fs (dir :: dirs) bs

theorem picks_filterMap : ∀ names, finder.Picks fs dir names (names.filterMap (finder.binary? fs dir))
  | [] => .done
  | name :: names => by
    have hrest : finder.Picks fs dir names (names.filterMap (finder.binary? fs dir)) := picks_filterMap names
    cases hname : finder.binary? fs dir name with
    | some b =>
      rw [List.filterMap_cons_some hname]
      exact .found (finds_iff.2 hname) hrest
    | none =>
      rw [List.filterMap_cons_none hname]
      exact .passed (binary?_eq_none_iff.1 hname) hrest

theorem picks_iff : finder.Picks fs dir names bs ↔ bs = names.filterMap (finder.binary? fs dir) := by
  constructor
  · intro h
    induction h with
    | done => rfl
    | found h _ ih => rw [List.filterMap_cons_some (finds_iff.1 h), ih]
    | passed h _ ih => rw [List.filterMap_cons_none (binary?_eq_none_iff.2 h), ih]
  · rintro rfl
    exact picks_filterMap names

theorem scan_of_lists (h : fs.Lists dir d) : finder.scan fs dir = (fs.namesIn d).filterMap (finder.binary? fs dir) := by
  rw [scan, h.readDir]

theorem scan_of_not_lists (h : ∀ d, ¬fs.Lists dir d) : finder.scan fs dir = [] := by
  obtain ⟨e, hread⟩ := FileSystem.readDir_of_not_lists h
  rw [scan, hread]

theorem searches_flatMap : ∀ dirs, finder.Searches fs dirs (dirs.flatMap (finder.scan fs))
  | [] => .done
  | dir :: dirs => by
    have hrest : finder.Searches fs dirs (dirs.flatMap (finder.scan fs)) := searches_flatMap dirs
    rw [List.flatMap_cons]
    by_cases hlists : ∃ d, fs.Lists dir d
    · obtain ⟨d, hd⟩ := hlists
      rw [scan_of_lists hd]
      exact .listed hd (picks_filterMap (fs.namesIn d)) hrest
    · have hnone : ∀ d, ¬fs.Lists dir d := not_exists.1 hlists
      rw [scan_of_not_lists hnone]
      exact .unlisted hnone hrest

/-- **The scan yields what the rules yield**, and nothing else does. -/
theorem searches_iff : finder.Searches fs dirs bs ↔ bs = dirs.flatMap (finder.scan fs) := by
  constructor
  · intro h
    induction h with
    | done => rfl
    | listed h hpicks _ ih => rw [List.flatMap_cons, scan_of_lists h, ← picks_iff.1 hpicks, ih]
    | unlisted h _ ih => rw [List.flatMap_cons, scan_of_not_lists h, ih, List.nil_append]
  · rintro rfl
    exact searches_flatMap dirs

/-! ## Two searches that agree -/

/-- The finder with another search path. -/
def searching (finder : Finder) (dirs : List Path) : Finder := { finder with searchPath := dirs }

/-- Two finders that give the same binaries and make the same choices, each with its own files. -/
structure Agree (finder : Finder) (fs : FileSystem) (finder' : Finder) (fs' : FileSystem) : Prop where
  systemBinaries : finder'.systemBinaries fs' = finder.systemBinaries fs
  allBinaries : ∀ newestFirst, finder'.allBinaries newestFirst fs' = finder.allBinaries newestFirst fs
  findCompatible : ∀ requested, finder'.findCompatible requested fs' = finder.findCompatible requested fs
  mostRecentAvailable : finder'.mostRecentAvailable fs' = finder.mostRecentAvailable fs

theorem agree_of_sources (hsystem : finder'.systemBinaries fs' = finder.systemBinaries fs)
    (hcache : (finder'.localBinaries fs').toOption.getD [] = (finder.localBinaries fs).toOption.getD []) :
    finder.Agree fs finder' fs' := by
  have hscanned : finder'.scanned fs' = finder.scanned fs := by
    rw [scanned, scanned, hsystem, hcache]
  have hall : ∀ newestFirst, finder'.allBinaries newestFirst fs' = finder.allBinaries newestFirst fs := by
    intro newestFirst
    rw [allBinaries, allBinaries, hscanned]
  refine ⟨hsystem, hall, fun requested => ?_, ?_⟩
  · rw [findCompatible, findCompatible, hall]
  · rw [mostRecentAvailable, mostRecentAvailable, hall]

theorem systemBinaries_searching_append (xs ys : List Path) : (finder.searching (xs ++ ys)).systemBinaries fs =
    (finder.searching xs).systemBinaries fs ++ (finder.searching ys).systemBinaries fs :=
  List.flatMap_append

theorem systemBinaries_searching_cons (dir : Path) (dirs : List Path) :
    (finder.searching (dir :: dirs)).systemBinaries fs =
    finder.scan fs dir ++ (finder.searching dirs).systemBinaries fs :=
  List.flatMap_cons

theorem agree_of_not_lists (xs ys : List Path) (h : ∀ d, ¬fs.Lists dir d) :
    (finder.searching (xs ++ ys)).Agree fs (finder.searching (xs ++ dir :: ys)) fs := by
  refine agree_of_sources ?_ rfl
  rw [systemBinaries_searching_append, systemBinaries_searching_append, systemBinaries_searching_cons,
    scan_of_not_lists h, List.nil_append]

/-! ## With and without an entry -/

/-- The entry of that name in the directory fails a test wherever it is met, and nothing else needs it: the directory is
not the cache, no directory of the finder is found through the entry, no link either leads to it or through it, and
whatever is there without it gives the same answer. -/
structure Unnoticed (finder : Finder) (fs : FileSystem) (name : FileName) (d : Location) : Prop where
  fails : ∀ dir ∈ finder.searchPath, fs.locate dir = .ok d → ∀ b, ¬finder.Finds fs dir name b
  cache : fs.locate finder.cache.dir ≠ .ok d
  dirs : ∀ dir ∈ finder.cache.dir :: finder.searchPath, ∀ l, fs.Lists dir l → (fs.removeTree (name :: d)).Lists dir l
  links : fs.LinksAvoid (name :: d)
  query : ∀ p loc, (fs.removeTree (name :: d)).locate p = .ok loc →
    finder.query fs p = finder.query (fs.removeTree (name :: d)) p

theorem isPlain_of_acceptsName (h : finder.acceptsName name = true) (hslash : Path.slash ∉ name.bytes) :
    IsPlain name := by
  obtain ⟨text, htext, hkubectl⟩ := acceptsName_iff.1 h
  obtain ⟨rest, hname⟩ := eq_of_programName_isPrefix htext (Version.programName_isPrefix_of_isKubectlName hkubectl)
  rw [hname] at hslash ⊢
  exact isPlain_programName hslash

theorem finds_of_same (h : finder.Finds fs dir name b)
    (hlocate : ∀ loc, fs'.locate (dir.join name) = .ok loc → fs.locate (dir.join name) = .ok loc)
    (hstat : ∀ node, fs.stat (dir.join name) = .ok node → fs'.stat (dir.join name) = .ok node)
    (hquery : finder.query fs' (dir.join name) = finder.query fs (dir.join name)) : finder.Finds fs' dir name b := by
  obtain ⟨hpath, hnamed, ⟨mode, content, hfile, hmode⟩, hself, hanswer⟩ := h
  rw [hpath] at hfile hself hanswer
  refine ⟨hpath, hnamed, ⟨mode, content, ?_, hmode⟩, fun self hthis hsame => hself self hthis ?_, ?_⟩
  · rw [hpath]
    exact hstat _ hfile
  · rw [hpath] at hsame
    exact FileSystem.canonical?_eq_some_iff.2 (hlocate _ (FileSystem.canonical?_eq_some_iff.1 hsame))
  · rw [hpath, hquery, hanswer]

/-- What is there without the entry passes the same tests with it. -/
theorem binary?_removeTree (hnames : fs.WellNamed) (h : finder.Unnoticed fs name d)
    (hl : (fs.removeTree (name :: d)).locate dir = .ok l)
    (hsome : ((fs.removeTree (name :: d)).nodeAt? (other :: l)).isSome) :
    finder.binary? (fs.removeTree (name :: d)) dir other = finder.binary? fs dir other := by
  have htop : name :: d ≠ [] := List.cons_ne_nil name d
  by_cases hname : finder.acceptsName other = true
  · have hthere : (fs.nodeAt? (other :: l)).isSome := by
      rw [← FileSystem.nodeAt?_removeTree_of_not_below htop (FileSystem.not_below_of_nodeAt?_removeTree htop hsome)]
      exact hsome
    have hplain := isPlain_of_acceptsName hname (hnames other l hthere)
    have hsame : ∀ loc, fs.locate (dir.join other) = .ok loc →
        (fs.removeTree (name :: d)).locate (dir.join other) = .ok loc := by
      intro loc hloc
      exact FileSystem.locate_join_removeTree htop hplain h.links hl hsome hloc
    have hstat : ∀ node, (fs.removeTree (name :: d)).stat (dir.join other) = .ok node ↔
        fs.stat (dir.join other) = .ok node := fun node => FileSystem.stat_removeTree htop hsame
    ext b
    simp only [← finds_iff]
    constructor
    · intro hb
      obtain ⟨loc, hloc⟩ := hb.exists_location
      exact finds_of_same hb hsame (fun node => (hstat node).1) (h.query _ loc hloc)
    · intro hb
      obtain ⟨loc, hloc⟩ := hb.exists_location
      exact finds_of_same hb (fun _ => FileSystem.locate_of_removeTree htop) (fun node => (hstat node).2)
        (h.query _ loc (hsame loc hloc)).symm
  · have hnone : ∀ fs, finder.binary? fs dir other = none := by
      intro fs
      rw [binary?_eq_none_iff]
      exact fun b hb => hname (acceptsName_iff.2 hb.named)
    rw [hnone, hnone]

theorem scan_removeTree (hnames : fs.WellNamed) (h : finder.Unnoticed fs name d) (hdir : dir ∈ finder.searchPath) :
    finder.scan (fs.removeTree (name :: d)) dir = finder.scan fs dir := by
  have htop : name :: d ≠ [] := List.cons_ne_nil name d
  by_cases hlists : ∃ l, fs.Lists dir l
  · obtain ⟨l, hl⟩ := hlists
    have hl' := h.dirs dir (List.mem_cons_of_mem _ hdir) l hl
    have hbelow := FileSystem.not_below_of_locate_removeTree htop hl'.locate
    rw [scan_of_lists hl, scan_of_lists hl', FileSystem.namesIn_removeTree, List.filterMap_filter]
    refine List.filterMap_congr fun other hother => ?_
    by_cases hentry : name :: d <:+ other :: l
    · obtain ⟨rfl, rfl⟩ := (FileSystem.below_cons_iff hbelow).1 hentry
      rw [if_neg (by simp), binary?_eq_none_iff.2 (h.fails dir hdir hl.locate)]
    · have hsome : ((fs.removeTree (name :: d)).nodeAt? (other :: l)).isSome := by
        rw [FileSystem.nodeAt?_removeTree_of_not_below htop hentry]
        exact FileSystem.mem_namesIn_iff.1 hother
      rw [if_pos (FileSystem.kept_iff.2 hentry), binary?_removeTree hnames h hl'.locate hsome]
  · have hnone : ∀ l, ¬fs.Lists dir l := not_exists.1 hlists
    rw [scan_of_not_lists hnone, scan_of_not_lists fun l hl => hnone l (hl.of_removeTree htop)]

theorem localBinaries_of_lists (h : fs.Lists finder.cache.dir d) :
    finder.localBinaries fs = .ok ((fs.namesIn d).filterMap finder.cache.entry?) :=
  localBinaries_eq_ok_iff.2 (LocalCache.entries_of_readDir h.readDir)

theorem cached_of_not_lists (h : ∀ d, ¬fs.Lists finder.cache.dir d) :
    (finder.localBinaries fs).toOption.getD [] = [] := by
  obtain ⟨e, hread⟩ := FileSystem.readDir_of_not_lists h
  unfold localBinaries LocalCache.entries
  rw [hread]
  dsimp only
  split
  · rfl
  · rfl

theorem cached_removeTree (h : finder.Unnoticed fs name d) :
    (finder.localBinaries (fs.removeTree (name :: d))).toOption.getD [] =
    (finder.localBinaries fs).toOption.getD [] := by
  have htop : name :: d ≠ [] := List.cons_ne_nil name d
  by_cases hlists : ∃ l, fs.Lists finder.cache.dir l
  · obtain ⟨l, hl⟩ := hlists
    have hl' := h.dirs _ List.mem_cons_self l hl
    have hbelow := FileSystem.not_below_of_locate_removeTree htop hl'.locate
    have hne : l ≠ d := fun heq => h.cache (heq ▸ hl.locate)
    rw [localBinaries_of_lists hl, localBinaries_of_lists hl',
      FileSystem.namesIn_removeTree_of_ne hbelow hne]
  · have hnone : ∀ l, ¬fs.Lists finder.cache.dir l := not_exists.1 hlists
    rw [cached_of_not_lists hnone, cached_of_not_lists fun l hl => hnone l (hl.of_removeTree htop)]

theorem agree_removeTree (hnames : fs.WellNamed) (h : finder.Unnoticed fs name d) :
    finder.Agree (fs.removeTree (name :: d)) finder fs := by
  refine agree_of_sources ?_ (cached_removeTree h).symm
  unfold systemBinaries
  rw [List.flatMap_def, List.flatMap_def]
  congr 1
  exact List.map_congr_left fun dir hdir => (scan_removeTree hnames h hdir).symm

/-- **The scan reports just what passes the tests, and nothing hides its neighbours**, for all files, finders and
queries. The search path yields what the rules yield, directory by directory and name by name.  A directory that is
missing, is none or cannot be listed changes nothing wherever it stands in the search path, and one that stands there
twice counts twice.  An entry changes nothing either, be it a file, a link or a directory with all below it, if it
fails a test and nothing else needs it. -/
theorem scan_is_exact_and_isolated (finder : Finder) (fs : FileSystem) :
    (∀ bs, finder.Searches fs finder.searchPath bs ↔ bs = finder.systemBinaries fs) ∧
    (∀ xs dir ys, (∀ d, ¬fs.Lists dir d) →
      (finder.searching (xs ++ ys)).Agree fs (finder.searching (xs ++ dir :: ys)) fs) ∧
    (∀ xs dir ys zs,
      let found (dirs : List Path) := (finder.searching dirs).systemBinaries fs
      found (xs ++ dir :: ys ++ dir :: zs) = found xs ++ found [dir] ++ found ys ++ found [dir] ++ found zs) ∧
    ∀ name d, fs.WellNamed → finder.Unnoticed fs name d → finder.Agree (fs.removeTree (name :: d)) finder fs := by
  refine ⟨fun bs => searches_iff, fun xs dir ys => agree_of_not_lists xs ys, fun xs dir ys zs => ?_,
    fun name d => agree_removeTree⟩
  intro found
  have happend : ∀ as bs, found (as ++ bs) = found as ++ found bs := systemBinaries_searching_append
  have hsplit : xs ++ dir :: ys ++ dir :: zs = xs ++ [dir] ++ ys ++ [dir] ++ zs := by simp
  rw [hsplit, happend, happend, happend, happend]

/-- A link to nothing beside a binary. -/
theorem scan_past_dangling_link :
    let v := Version.ofNumbers 1 20 0
    let finder : Finder := ⟨["/bin"], ⟨"/cache", .current⟩, fun _ _ => .ok v, none⟩
    let before :=
      ((FileSystem.empty.put ["bin"] .directory).put ["kubectl", "bin"] (.file 0o755 [])).put ["cache"] .directory
    let after := before.put ["kubectl1.21.0", "bin"] (.link "gone")
    finder.Agree before finder after ∧ finder.systemBinaries after = [⟨"/bin/kubectl", v⟩] := by
  intro v finder before after
  have hbefore : after.removeTree ["kubectl1.21.0", "bin"] = before :=
    FileSystem.removeTree_put_self (by decide +kernel)
  have hnames : after.WellNamed :=
    (((FileSystem.wellNamed_empty.put (by decide +kernel)).put (by decide +kernel)).put (by decide +kernel)).put
      (by decide +kernel)
  have hlinkless : before.Linkless :=
    ((FileSystem.linkless_empty.put (by nofun)).put (by nofun)).put (by nofun)
  have hbin : after.locate "/bin" = .ok ["bin"] := by decide +kernel
  have hcache : after.locate "/cache" = .ok ["cache"] := by decide +kernel
  have hunnoticed : finder.Unnoticed after "kubectl1.21.0" ["bin"] := by
    refine ⟨fun dir hdir _ b hb => ?_, ?_, ?_, ?_, fun _ _ _ => rfl⟩
    · obtain ⟨_, _, hstat, -⟩ := hb.executable
      have hgone : after.stat "/bin/kubectl1.21.0" = .error (.system .noEntry) := by decide +kernel
      rw [hb.path, List.mem_singleton.1 hdir] at hstat
      cases hgone.symm.trans hstat
    · rw [hcache]
      decide +kernel
    · rw [hbefore]
      intro dir hdir l hl
      rcases List.mem_cons.1 hdir with rfl | hdir
      · cases hcache.symm.trans hl.locate
        exact ⟨by decide +kernel, by decide +kernel, rfl⟩
      · rw [List.mem_singleton.1 hdir] at hl ⊢
        cases hbin.symm.trans hl.locate
        exact ⟨by decide +kernel, by decide +kernel, rfl⟩
    · exact hlinkless.linksAvoid_put (List.cons_ne_nil _ _)
  have hagree := (scan_is_exact_and_isolated finder after).2.2.2 "kubectl1.21.0" ["bin"] hnames hunnoticed
  rw [hbefore] at hagree
  exact ⟨hagree, by decide +kernel⟩

/-- An entry that is a step on the search path adds what is found behind it, though it fails every test itself, no link
was there before and the cache is elsewhere. -/
theorem entry_on_the_search_path :
    let v := Version.ofNumbers 1 20 0
    let finder : Finder := ⟨["bin", "bin/sub"], ⟨"cache", .current⟩, fun _ _ => .ok v, none⟩
    let before := ((FileSystem.empty.put ["bin"] .directory).put ["other"] .directory).put ["kubectl", "other"]
      (.file 0o755 [])
    let after := before.put ["sub", "bin"] (.link "../other")
    after.removeTree ["sub", "bin"] = before ∧ after.locate "bin" = .ok ["bin"] ∧
      (∀ dir b, ¬finder.Finds after dir "sub" b) ∧ before.Linkless ∧ after.locate finder.cache.dir ≠ .ok ["bin"] ∧
      (∀ p, finder.query after p = finder.query before p) ∧
      finder.systemBinaries before = [] ∧ finder.systemBinaries after = [⟨"bin/sub/kubectl", v⟩] := by
  intro v finder before after
  have hname : finder.acceptsName "sub" = false := by decide +kernel
  refine ⟨FileSystem.removeTree_put_self (by decide +kernel), by decide +kernel, fun dir b hb => ?_,
    ((FileSystem.linkless_empty.put (by nofun)).put (by nofun)).put (by nofun), by decide +kernel, fun _ => rfl,
    by decide +kernel, by decide +kernel⟩
  rw [acceptsName_iff.2 hb.named] at hname
  cases hname

end Finder

end KubectlMatch
