import KubectlMatch.Proofs.Cache.Histories
/-!
# What is in the cache

A cache that starts empty holds verified binaries, whatever the calls and the mirrors were: each file is named for one
version, is executable, and has the checksum that was published for that version in the call that fetched it.  What else
can be in it are unfinished files that the system did not let go of, and a directory that the cache's own path goes
through, as `c/x/..` does, which is made with it.  `dotDot_mem_of_made` shows that only going up can do that.
-/
namespace KubectlMatch

namespace Visit

variable {cache : LocalCache} {visit : Visit cache} {visits : List (Visit cache)} {world : World} {v : Version}
  {loc d : Location} {name : FileName} {node : Node} {body : Bytes} {b : Binary} {es : List Binary} {fs : FileSystem}

/-! ## What never comes -/

theorem Left.name_eq (h : Left visits world loc) :
    ∃ n here, loc = FileSystem.numberedName Mirror.unfinishedStart n :: here := by
  obtain ⟨_, _, _, -, hleaves⟩ := h
  exact hleaves.name

theorem unfinished_runAll {n mode : Nat} {here : Location} {content : Bytes}
    (h : (runAll visits world).files.nodeAt? (FileSystem.numberedName Mirror.unfinishedStart n :: here) =
      some (.file mode content)) :
    world.files.nodeAt? (FileSystem.numberedName Mirror.unfinishedStart n :: here) = some (.file mode content) ∨
      Left visits world (FileSystem.numberedName Mirror.unfinishedStart n :: here) := by
  rcases nodeAt?_runAll h with hold | ⟨hdir, -⟩ | ⟨-, hleft⟩ | ⟨v, there, body, hname, -⟩
  · exact Or.inl hold
  · cases hdir
  · exact Or.inr hleft
  · have hentry := cache.entry?_entryFile v
    rw [← (List.cons.inj hname).1, LocalCache.entry?_numberedName (by decide)] at hentry
    cases hentry

theorem link_runAll {aim : Path} (h : (runAll visits world).files.nodeAt? loc = some (.link aim)) :
    world.files.nodeAt? loc = some (.link aim) := by
  rcases nodeAt?_runAll h with hold | ⟨hdir, -⟩ | ⟨hfile, -⟩ | ⟨_, _, _, -, hfile, -⟩
  · exact hold
  · cases hdir
  · cases hfile
  · cases hfile

theorem link_made {aim : Path} (h : (visit.made (runAll visits world)).nodeAt? loc = some (.link aim)) :
    world.files.nodeAt? loc = some (.link aim) := by
  rcases (grownBy_made visit (runAll visits world)).nodeAt? loc with hsame | ⟨-, hdir, -⟩
  · exact link_runAll (hsame.symm.trans h)
  · rw [hdir] at h
    cases h

/-- Below a location that was free at first, nothing is a link as long as no link has come. -/
theorem not_link_of_free (htree : world.files.IsTree) (hfree : world.files.nodeAt? loc = none)
    (hold : ∀ {l aim}, fs.nodeAt? l = some (.link aim) → world.files.nodeAt? l = some (.link aim)) :
    ∀ l aim, loc <:+ l → fs.nodeAt? l ≠ some (.link aim) := by
  rintro l aim ⟨below, rfl⟩ hlink
  have hthere := hold hlink
  rw [htree.nodeAt?_eq_none hfree] at hthere
  cases hthere

/-! ## Directories of the cache's path -/

/-- A cache that is there stays where it is, if it is empty at first, and nothing is made for it. -/
theorem locate_runAll (hnothing : ∀ name, world.files.nodeAt? (name :: d) = none)
    (hloc : world.files.locate cache.dir = .ok d) : (runAll visits world).files.locate cache.dir = .ok d := by
  induction visits using List.reverseRecOn with
  | nil => exact hloc
  | append_singleton visits visit ih =>
    have hmeets := locate_meets visit ih
    have hmade : visit.made (runAll visits world) = (visit.meets (runAll visits world)).files :=
      FileSystem.makeDirs_of_locate hmeets
    rw [runAll_concat]
    rcases files_run visit (runAll visits world) with hfiles | hfiles | ⟨v, l, mode, content, hstays, hfiles⟩ |
      ⟨v, body, -, target, hplace, -, hdir, hfiles⟩
    · rw [hfiles]
      exact hmeets
    · rw [hfiles, hmade]
      exact hmeets
    · rw [hmade] at hstays hfiles
      obtain ⟨-, hfree, -⟩ := hstays
      rw [hfiles]
      exact FileSystem.locate_put_free hfree hmeets
    · rw [hmade] at hplace hdir hfiles
      have hthere := LocalCache.location_of_place hmeets hplace
      rw [hfiles]
      refine FileSystem.locate_put hmeets (FileSystem.ne_nil_of_isDirectoryAt_eq_false hdir) ?_ fun node hnode => ?_
      · rw [hthere]
        exact fun h => List.cons_ne_self _ _ h
      · rcases nodeAt?_runAll (show (runAll visits world).files.nodeAt? _ = _ from hnode) with
          hold | ⟨rfl, -⟩ | ⟨hfile, -⟩ | ⟨_, _, _, -, rfl, -⟩
        · rw [hthere, hnothing] at hold
          cases hold
        · rw [FileSystem.isDirectoryAt_iff.2 hnode] at hdir
          cases hdir
        · exact hfile
        · rfl

theorem not_made_of_locate (hnothing : ∀ name, world.files.nodeAt? (name :: d) = none)
    (hloc : world.files.locate cache.dir = .ok d) : ¬ Made visits world loc := by
  rintro ⟨done, maker, later, -, hmakes⟩
  have hmade : maker.made (runAll done world) = (maker.meets (runAll done world)).files :=
    FileSystem.makeDirs_of_locate (locate_meets maker (locate_runAll hnothing hloc))
  have hdir := hmakes.made
  rw [hmade] at hdir
  cases hmakes.free.symm.trans hdir

/-- The first names of the cache's path lead to the location. -/
def PassesBy (cache : LocalCache) (names : List FileName) (loc : Location) (fs : FileSystem) : Prop :=
  fs.Leads FileSystem.linkLimit names (FileSystem.start cache.dir fs.workingDirectory) loc

variable {names rest : List FileName}

/-- From a directory that was not there at first, a path that does not go up leads down. -/
theorem suffix_of_passesBy (hnames : cache.dir.names = names ++ rest) (hup : Path.dotDot ∉ cache.dir.names)
    (hlinks : ∀ l aim, loc <:+ l → fs.nodeAt? l ≠ some (.link aim)) (hpass : PassesBy cache names loc fs)
    (hloc : fs.locate cache.dir = .ok d) : loc <:+ d := by
  have hleads := FileSystem.leads_of_locate hloc
  rw [hnames] at hleads
  obtain ⟨mid, hfirst, hrest⟩ := hleads.split names rest rfl
  cases hpass.unique hfirst
  obtain ⟨hdown, -⟩ := hrest.goes_down (fun hmem => hup (by rw [hnames]; exact List.mem_append_right names hmem))
    (List.suffix_refl loc) hlinks
  rw [hdown]
  exact List.suffix_append _ _

/-- A call keeps the way that the cache's path takes through a directory that was not there at first, if it does
anything to the files. -/
theorem PassesBy.run (htree : world.files.IsTree) (hfree : world.files.nodeAt? loc = none)
    (hnames : cache.dir.names = names ++ rest) (hup : Path.dotDot ∉ cache.dir.names) (hne : cache.dir.bytes ≠ [])
    (hpass : PassesBy cache names loc (visit.made (runAll visits world))) :
    (visit.run (runAll visits world)).2.files = (visit.meets (runAll visits world)).files ∨
      PassesBy cache names loc (visit.run (runAll visits world)).2.files := by
  have hlinks : ∀ l aim, loc <:+ l → (visit.made (runAll visits world)).nodeAt? l ≠ some (.link aim) :=
    not_link_of_free htree hfree link_made
  rcases files_run visit (runAll visits world) with hsame | hmade | ⟨v, l, mode, content, hstays, hput⟩ |
    ⟨v, body, -, target, hplace, -, hdir, hput⟩
  · exact Or.inl hsame
  · rw [hmade]
    exact Or.inr hpass
  · obtain ⟨-, hfree', -⟩ := hstays
    rw [hput]
    refine Or.inr (hpass.of_kept fun l' node hnode _ => ?_)
    rw [FileSystem.nodeAt?_put_of_ne (FileSystem.ne_nil_of_nodeAt?_eq_none hfree')]
    · exact hnode
    · rintro rfl
      cases hfree'.symm.trans hnode
  · obtain ⟨hthere, -⟩ := FileSystem.locate_of_place_join (cache.isPlain_entryFile v) hne hplace
    have hbelow := suffix_of_passesBy hnames hup hlinks hpass hthere
    have hlen := hbelow.length_le
    rw [hput]
    refine Or.inr (hpass.of_kept fun l node hnode hkept => ?_)
    rw [FileSystem.nodeAt?_put_of_ne (FileSystem.ne_nil_of_isDirectoryAt_eq_false hdir)]
    · exact hnode
    · rintro rfl
      rcases hkept with hkept | hend
      · cases node with
        | directory =>
          rw [FileSystem.isDirectoryAt_iff.2 hnode] at hdir
          cases hdir
        | file mode content => cases hkept
        | link aim => exact hlinks _ aim (hbelow.trans (List.suffix_cons _ _)) hnode
      · have hlocation : (target.name :: target.dir).length = loc.length := congrArg List.length hend
        rw [List.length_cons] at hlocation
        omega

/-- From the call that made the directory on, every call keeps the way. -/
theorem passesBy_runAll (htree : world.files.IsTree) (hfree : world.files.nodeAt? loc = none)
    (hnames : cache.dir.names = names ++ rest) (hup : Path.dotDot ∉ cache.dir.names) (hne : cache.dir.bytes ≠ [])
    (hmakes : visit.Makes (runAll visits world) loc)
    (hpass : PassesBy cache names loc (visit.made (runAll visits world)))
    (more : List (Visit cache)) : PassesBy cache names loc (runAll (visits ++ visit :: more) world).files := by
  induction more using List.reverseRecOn with
  | nil =>
    rw [runAll_concat]
    refine (hpass.run htree hfree hnames hup hne).resolve_left fun hsame => ?_
    have hdir := hmakes.directory
    rw [hsame] at hdir
    cases hmakes.free.symm.trans hdir
  | append_singleton more last ih =>
    rw [← List.cons_append, ← List.append_assoc, runAll_concat]
    have hmeets : PassesBy cache names loc (last.meets (runAll (visits ++ visit :: more) world)).files := by
      refine FileSystem.Leads.of_kept ?_ ih
      exact fun _ _ hnode _ => hnode
    have hgrown := grownBy_made last (runAll (visits ++ visit :: more) world)
    have hmade : PassesBy cache names loc (last.made (runAll (visits ++ visit :: more) world)) := by
      unfold PassesBy
      rw [hgrown.workingDirectory]
      exact hmeets.of_kept fun _ _ hnode _ => hgrown.kept hnode
    rcases hmade.run htree hfree hnames hup hne with hsame | hkept
    · rw [hsame]
      exact hmeets
    · exact hkept

/-- **Only a path that goes up can make a directory in its own cache**, in a tree. -/
theorem dotDot_mem_of_made (htree : world.files.IsTree) (hmade : Made visits world (name :: d))
    (hloc : (runAll visits world).files.locate cache.dir = .ok d) : Path.dotDot ∈ cache.dir.names := by
  by_contra hup
  obtain ⟨done, maker, later, rfl, hmakes⟩ := hmade
  obtain ⟨p, hp, hlead⟩ := hmakes.leads
  have hne := FileSystem.bytes_ne_nil_of_locate hloc
  have hfree : world.files.nodeAt? (name :: d) = none := by
    cases hnode : world.files.nodeAt? (name :: d) with
    | none => rfl
    | some node =>
      have hsome : ((runAll done world).files.nodeAt? (name :: d)).isSome :=
        isSome_nodeAt?_runAll (by rw [hnode]; rfl)
      rw [hmakes.free] at hsome
      cases hsome
  obtain ⟨⟨rest, hnames⟩, habs⟩ := FileSystem.names_of_mem_lineage hp
  have hpass : PassesBy cache p.names (name :: d) (maker.made (runAll done world)) := by
    have hleads := FileSystem.leads_of_locate hlead
    rw [FileSystem.start_of_isAbsolute habs] at hleads
    exact hleads
  have hkept := passesBy_runAll htree hfree hnames.symm hup hne hmakes hpass later
  have hbelow := suffix_of_passesBy hnames.symm hup (not_link_of_free htree hfree link_runAll) hkept hloc
  have hlen := hbelow.length_le
  rw [List.length_cons] at hlen
  omega

/-! ## The contents -/

theorem contents (hnothing : world.files.nodeAt? (name :: d) = none)
    (h : (runAll visits world).files.nodeAt? (name :: d) = some node) :
    (node = .directory ∧ Made visits world (name :: d)) ∨ (node.isFile = true ∧ Left visits world (name :: d)) ∨
      ∃ v body, (∀ w, name = cache.entryFile w ↔ w = v) ∧ node = .file 0o755 body ∧
        Fetched visits world (name :: d) v body := by
  rcases nodeAt?_runAll h with hold | hmade | hleft | ⟨v, here, body, hname, hfile, hfetched⟩
  · rw [hnothing] at hold
    cases hold
  · exact Or.inl hmade
  · exact Or.inr (Or.inl hleft)
  · obtain ⟨rfl, rfl⟩ := List.cons.inj hname
    refine Or.inr (Or.inr ⟨v, body, fun w => ⟨fun h => (LocalCache.entryFile_injective h).symm, fun h => by rw [h]⟩,
      hfile,
      hfetched⟩)

theorem path_of_mem_entries (hnothing : ∀ name, world.files.nodeAt? (name :: d) = none)
    (hloc : (runAll visits world).files.locate cache.dir = .ok d)
    (h : cache.entries (runAll visits world).files = .ok es)
    (hb : b ∈ es) : b.path = cache.entryPath b.version ∨
      ∃ name, b.path = cache.dir.join name ∧ Made visits world (name :: d) := by
  obtain ⟨d', name, hd', -, hentry, hsome⟩ := LocalCache.of_mem_entries h hb
  rw [hloc, Except.ok.injEq] at hd'
  rw [← hd'] at hsome
  obtain ⟨node, hnode⟩ := Option.isSome_iff_exists.1 hsome
  rcases contents (hnothing name) hnode with ⟨-, hmade⟩ | ⟨-, hleft⟩ | ⟨v, body, hv, -, -⟩
  · exact Or.inr ⟨name, (LocalCache.entry?_eq_some hentry).1, hmade⟩
  · obtain ⟨n, here, hname⟩ := hleft.name_eq
    rw [(List.cons.inj hname).1, LocalCache.entry?_numberedName (by decide)] at hentry
    cases hentry
  · rw [(hv v).2 rfl, LocalCache.entry?_entryFile, Option.some.injEq] at hentry
    rw [← hentry]
    exact Or.inl rfl

/-- **A cache that starts empty holds verified binaries**, after any calls and whatever the mirrors did and the system
refused.

Whatever is in it then is an executable file named for exactly one version, which one of the calls has fetched and
none has touched since, with the checksum that the mirror published in that call, if this has not lost the last piece;
or it is a directory that one of the calls has made because the cache's own path goes through it; or an unfinished
file that the system did not let go of.  Every other report is of a version under its entry's path, and comes once.
There are no such directories if the cache was there at first, and, in a tree, if its path does not go up.  No
unfinished file is left anywhere that the system let go of. -/
theorem cache_holds_verified_binaries (cache : LocalCache) (visits : List (Visit cache)) (world : World) :
    let after := (runAll visits world).files
    (∀ d, after.locate cache.dir = .ok d → (∀ name, world.files.nodeAt? (name :: d) = none) →
      (∀ name node, after.nodeAt? (name :: d) = some node → (node = .directory ∧ Made visits world (name :: d)) ∨
        (node.isFile = true ∧ Left visits world (name :: d)) ∨
        ∃ v body, (∀ w, name = cache.entryFile w ↔ w = v) ∧ node = .file 0o755 body ∧
          Fetched visits world (name :: d) v body) ∧
      (∀ es, cache.entries after = .ok es →
        (∀ b ∈ es, b.path = cache.entryPath b.version ∨
          ∃ name, b.path = cache.dir.join name ∧ Made visits world (name :: d)) ∧
        ∀ v, es.count ⟨cache.entryPath v, v⟩ ≤ 1) ∧
      (world.files.locate cache.dir = .ok d ∨ (world.files.IsTree ∧ Path.dotDot ∉ cache.dir.names) →
        ∀ name, ¬ Made visits world (name :: d))) ∧
    ∀ n here mode content,
      after.nodeAt? (FileSystem.numberedName Mirror.unfinishedStart n :: here) = some (.file mode content) →
        world.files.nodeAt? (FileSystem.numberedName Mirror.unfinishedStart n :: here) = some (.file mode content) ∨
          Left visits world (FileSystem.numberedName Mirror.unfinishedStart n :: here) := by
  intro after
  refine ⟨fun d hloc hnothing => ⟨fun name node hnode => contents (hnothing name) hnode, fun es hes => ⟨fun b hb => ?_,
    fun v => ?_⟩, fun hplain name hmade => ?_⟩, fun n here mode content => unfinished_runAll⟩
  · exact path_of_mem_entries hnothing hloc hes hb
  · exact List.nodup_iff_count_le_one.1 (LocalCache.nodup_entries hes) _
  · rcases hplain with hthere | ⟨htree, hup⟩
    · exact not_made_of_locate hnothing hthere hmade
    · exact hup (dotDot_mem_of_made htree hmade hloc)

/-- A binary, here of nothing, is there as soon as the mirror publishes its checksum and delivers it. -/
example :
    let cache : LocalCache := ⟨"c", .current⟩
    let sum := Text.utf8 "e3b0c44298fc1c149afbf4c8996fb92427ae41e4649b934ca495991b7852b855"
    let visit : Visit cache := ⟨.getBin "1.20", ⟨[], cache, fun _ p => .error (.timedOut p ⟨0⟩), none⟩, rfl,
      fun limit => pure (.error (.timedOut limit)), pure (.ok (.ofNumbers 1 20 0)), fun attempts _ =>
        ⟨⟨0⟩, .response ⟨⟨200⟩, none, ⟨if attempts.isEmpty then [sum] else [], none, ⟨0⟩⟩⟩⟩,
          ⟨"http://mirror", .current⟩,
      fun _ _ => none⟩
    (runAll [visit] (.ofFiles .empty)).files.nodeAt? ["kubectl1.20.0", "c"] = some (.file 0o755 []) := by
  decide +kernel

/-- The path `c/x/..` makes a directory in its own cache, here by a call that fails for the mirror's sake.  And where
the system does not let go of it, the unfinished file of such a call stays in the cache. -/
theorem directory_in_cache :
    let sum := Text.utf8 "e3b0c44298fc1c149afbf4c8996fb92427ae41e4649b934ca495991b7852b855"
    let net : Http.Network := fun attempts _ =>
      if attempts.isEmpty then ⟨⟨0⟩, .response ⟨⟨200⟩, none, ⟨[sum], none, ⟨0⟩⟩⟩⟩ else ⟨⟨0⟩, .lost .closed⟩
    let visit (dir : Path) (refusal? : FileAction → Location → Option Errno) : Visit ⟨dir, .current⟩ :=
      ⟨.getBin "1.20.0", ⟨[], ⟨dir, .current⟩, fun _ p => .error (.timedOut p ⟨0⟩), none⟩, rfl,
        fun limit => pure (.error (.timedOut limit)), pure (.ok (.ofNumbers 1 20 0)), net, ⟨"http://mirror", .current⟩,
        refusal?⟩
    let through : Path := "c/x/.."
    let after := (runAll [visit through fun _ _ => none] (.ofFiles .empty)).files
    let holding : FileAction → Location → Option Errno := fun action _ => if action = .remove then some ⟨1⟩ else none
    let left := (runAll [visit "c" holding] (.ofFiles .empty)).files
    (FileSystem.empty.locate through = .error (.system .noEntry) ∧ after.locate through = .ok ["c"] ∧
      (∀ name, FileSystem.empty.nodeAt? [name, "c"] = none) ∧
      ¬ ∀ name node, after.nodeAt? [name, "c"] = some node → node.isFile = true) ∧
    left.nodeAt? [".kubectl-download000000", "c"] = some (.file 0o600 []) := by
  intro sum net visit through after holding left
  have hdir : after.nodeAt? ["x", "c"] = some .directory := by decide +kernel
  refine ⟨⟨by decide +kernel, by decide +kernel, fun name => rfl, fun h => ?_⟩, by decide +kernel⟩
  cases h "x" .directory hdir

end Visit

end KubectlMatch
