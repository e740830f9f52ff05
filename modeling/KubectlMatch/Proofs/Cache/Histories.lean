import Mathlib.Data.List.Induction
import KubectlMatch.Proofs.Mirror.Fetching
import KubectlMatch.Proofs.Resolution.Provision
/-!
# What calls leave in the cache

Any number of calls, one after the other, each with a mirror that does what it likes and a system that refuses what it
likes.  The files at a location are then what they were, or a directory on the way to the cache, or a binary that a call
has fetched, or an unfinished file that the system did not let go of.
-/
namespace KubectlMatch

open KubectlMatch.Path (IsPlain)

/-! ## Directories for entries -/

namespace Mirror

variable {fs : FileSystem} {dir name : Path}

/-- **Where a directory has been made, nothing more is made for its entries.** -/
theorem makeDirs_directoryOf_join (h : IsPlain name) (hmade : (fs.makeDirs dir).1 = .ok ()) :
    ((fs.makeDirs dir).2.makeDirs (directoryOf (dir.join name))).2 = (fs.makeDirs dir).2 := by
  cases hparent : dir.parent? with
  | none =>
    unfold directoryOf
    rw [Path.parent?_join_of_none h hparent]
    by_cases hdir : dir.bytes = []
    · rw [if_pos hdir]
      exact FileSystem.makeDirs_dot _
    · rw [if_neg hdir]
      rfl
  | some above =>
    have hne : dir.bytes ≠ [] := by
      intro hnil
      obtain ⟨bytes⟩ := dir
      cases hnil
      cases hparent
    obtain ⟨d, hloc, hdir⟩ := FileSystem.hasDirectory_makeDirs (by rw [hparent]; exact Option.some_ne_none above) hmade
    obtain ⟨above', habove, hne', hloc'⟩ := FileSystem.locate_parent_of_join h hne hloc hdir
    unfold directoryOf
    rw [habove]
    dsimp only
    rw [HostText.isEmpty, List.isEmpty_eq_false_iff.2 hne', if_neg Bool.false_ne_true]
    exact FileSystem.makeDirs_of_locate hloc'

/-- What a fetch leaves: the files as they were or with its directory made, if it fails, and an unfinished file that
stays; and otherwise a body with the checksum that was published, unless its last piece was lost. -/
theorem fetch_files (net : Http.Network) (m : Mirror) (v : Version) (destination : Path) (world : World) :
    let made := (world.files.makeDirs (directoryOf destination)).2
    let out := (fetch net m v destination).run world
    ((∃ e, out.1 = .error e) ∧ (out.2.files = world.files ∨ out.2.files = made ∨
        ∃ loc mode content, Stays destination made loc ∧ out.2.files = made.put loc (.file mode content))) ∨
      (out.1 = .ok () ∧ ∃ content, Transfer.Installed made destination content out.2.files ∧
        (¬ LastLost net (m.artifactUrl v) destination world →
          ((publishedChecksum net (m.artifactUrl v)).run world.attempts).1 = .ok (Checksum.ofBytes content))) := by
  intro made out
  cases hpublished : ((publishedChecksum net (m.artifactUrl v)).run world.attempts).1 with
  | error e =>
    have hout : out = _ := run_fetch_error m v hpublished
    rw [hout]
    exact Or.inl ⟨⟨e, rfl⟩, Or.inl rfl⟩
  | ok expected =>
    have hout : out = _ := run_fetch_ok m v hpublished
    obtain ⟨hall, hok, hnothing, -⟩ := store_all_or_nothing net (m.artifactUrl v) expected destination
      ⟨world.files, asked net (checksumUrl (m.artifactUrl v)) world.attempts⟩
    rw [← hout] at hall hok hnothing
    dsimp only at hall hok hnothing
    cases hresult : out.1 with
    | error e => exact Or.inl ⟨⟨e, rfl⟩, Or.inr (hnothing e hresult)⟩
    | ok u =>
      obtain ⟨⟨content, hinstalled⟩, pieces, hdelivered, hsum, hmade, hstored | hlost⟩ := hok hresult
      · obtain ⟨-, hwhole⟩ := hall pieces _ hdelivered hsum hmade hstored
        exact Or.inr ⟨rfl, pieces.flatten, hwhole, fun _ => by rw [hsum]⟩
      · have hlast : LastLost net (m.artifactUrl v) destination world := ⟨pieces, hdelivered, hlost⟩
        exact Or.inr ⟨rfl, content, hinstalled, fun hnot => absurd hlast hnot⟩

end Mirror

/-! ## Calls -/

inductive Request where
  | getBin (text : String)
  | ensureAvailable (v : Version) (allow : Bool)

/-- A call with a cache, and what it meets: the binaries on the search path, a mirror that does what it likes, and a
system that refuses what it likes. -/
structure Visit (cache : LocalCache) where
  request : Request
  finder : Finder
  sameCache : finder.cache = cache
  probe : Duration → StateM World (Except ProbeError Version)
  stable : StateM World (Except DownloadError Version)
  network : Http.Network
  mirror : Mirror
  refusal? : FileAction → Location → Option Errno

namespace Visit

variable {cache : LocalCache} {visit : Visit cache} {visits done later : List (Visit cache)} {world : World}
  {v : Version} {loc : Location} {node : Node} {body : Bytes}

def parties (visit : Visit cache) : Collaborators (StateM World) :=
  visit.finder.collaborators visit.probe visit.stable (Mirror.fetch visit.network visit.mirror)

def meets (visit : Visit cache) (world : World) : World :=
  { world with files := { world.files with refusal? := visit.refusal? } }

theorem locate_meets {p : Path} (visit : Visit cache) (h : world.files.locate p = .ok loc) :
    (visit.meets world).files.locate p = .ok loc :=
  FileSystem.locate_of_same (show _ = world.files.workingDirectory from rfl) (fun _ => rfl) h

/-- The path that a call gives, if it gives any, the calls to the parties, and the world it leaves. -/
def run (visit : Visit cache) (world : World) : (Option Path × List Call) × World :=
  match visit.request with
  | .getBin text =>
    let out := ((visit.parties.traced.getBin cache.dir text).run []).run (visit.meets world)
    ((out.1.1.toOption, out.1.2), out.2)
  | .ensureAvailable v allow =>
    let out := ((visit.parties.traced.ensureAvailable v allow).run []).run (visit.meets world)
    ((out.1.1.toOption, out.1.2), out.2)

def runAll (visits : List (Visit cache)) (world : World) : World :=
  visits.foldl (fun world visit => (visit.run world).2) world

theorem runAll_concat : runAll (visits ++ [visit]) world = (visit.run (runAll visits world)).2 := by
  unfold runAll
  rw [List.foldl_append]
  rfl

/-- The checksum that the mirror publishes for a version when a call asks for it. -/
def published (visit : Visit cache) (v : Version) (world : World) : Except DownloadError Checksum :=
  ((Mirror.publishedChecksum visit.network (visit.mirror.artifactUrl v)).run world.attempts).1

/-- A call changes the world by a fetch into the cache or not at all. -/
theorem run_cases (visit : Visit cache) (world : World) : (visit.run world).2 = visit.meets world ∨
    ∃ v calls, let fetched := ((visit.parties.traced.fetchToCache v).run calls).run (visit.meets world)
      (visit.run world).2 = fetched.2 ∧ (visit.run world).1.2 = fetched.1.2 ∧
        ∀ path, fetched.1.1 = .ok path → (visit.run world).1.1 = some path := by
  cases hrequest : visit.request with
  | getBin text =>
    have hrun : visit.run world =
        (let out := ((visit.parties.traced.getBin cache.dir text).run []).run (visit.meets world)
        ((out.1.1.toOption, out.1.2), out.2)) := by
      rw [run, hrequest]
    rw [hrun]
    cases hparse : Version.parse text with
    | error e =>
      left
      rw [Collaborators.run_getBin_refused _ [] _ hparse]
    | ok v =>
      right
      obtain ⟨hpath, hcalls, hworld⟩ :=
        Collaborators.run_getBin visit.parties [] cache.dir (s := visit.meets world) hparse
      refine ⟨v, [], hworld, hcalls, fun path hok => ?_⟩
      dsimp only
      rw [(hpath path).2 hok]
      rfl
  | ensureAvailable v allow =>
    have hrun : visit.run world =
        (let out := ((visit.parties.traced.ensureAvailable v allow).run []).run (visit.meets world)
        ((out.1.1.toOption, out.1.2), out.2)) := by
      rw [run, hrequest]
    rw [hrun]
    rcases hfound : (visit.parties.compatible v).run (visit.meets world) with ⟨e | b, after⟩
    · obtain rfl : visit.meets world = after := congrArg Prod.snd hfound
      cases allow with
      | false =>
        left
        rw [Collaborators.run_ensureAvailable_false _ [] hfound]
      | true =>
        right
        rw [Collaborators.run_ensureAvailable_true _ [] hfound]
        refine ⟨v, [.compatible v], rfl, rfl, fun path hok => ?_⟩
        dsimp only
        rw [List.nil_append, hok]
        rfl
    · obtain rfl : visit.meets world = after := congrArg Prod.snd hfound
      left
      rw [Collaborators.run_ensureAvailable_ok _ [] hfound]

/-- The files with the directories that a call makes for the cache. -/
def made (visit : Visit cache) (world : World) : FileSystem := ((visit.meets world).files.makeDirs cache.dir).2

theorem grownBy_made (visit : Visit cache) (world : World) :
    (visit.meets world).files.GrownBy (FileSystem.ancestry cache.dir) (visit.made world) :=
  FileSystem.grownBy_makeDirs _ _

theorem entryPath_parties (visit : Visit cache) (v : Version) : visit.parties.entryPath v = cache.entryPath v :=
  congrArg (fun cache => LocalCache.entryPath cache v) visit.sameCache

theorem run_ensureCache (visit : Visit cache) (world : World) : visit.parties.ensureCache.run (visit.meets world) =
    (((visit.meets world).files.makeDirs cache.dir).1, { world with files := visit.made world }) := by
  show (World.onFiles visit.finder.cache.ensure).run (visit.meets world) = _
  rw [visit.sameCache]
  rfl

/-- A fetch into the cache that comes to the mirror. -/
theorem run_fetchToCache (visit : Visit cache) (calls : List Call)
    (hmade : ((visit.meets world).files.makeDirs cache.dir).1 = .ok ()) :
    ((visit.parties.traced.fetchToCache v).run calls).run (visit.meets world) =
      let fetched := (Mirror.fetch visit.network visit.mirror v (cache.entryPath v)).run
        { world with files := visit.made world }
      ((fetched.1.map fun _ => cache.entryPath v, calls ++ [.fetch v (cache.entryPath v)]), fetched.2) := by
  have hensure := run_ensureCache visit world
  rw [hmade] at hensure
  rw [Collaborators.run_fetchToCache_ok _ calls hensure, entryPath_parties]
  rfl

/-- The last piece of the version's binary, and no other, cannot be written when a call fetches it. -/
def Loses (visit : Visit cache) (world : World) (v : Version) : Prop :=
  Mirror.LastLost visit.network (visit.mirror.artifactUrl v) (cache.entryPath v)
    { world with files := visit.made world }

/-- A call that has fetched the body of a version, with the checksum that the mirror published for it, if it has not
lost the last piece. -/
structure Fetches (visit : Visit cache) (world : World) (v : Version) (body : Bytes) : Prop where
  published : ¬ visit.Loses world v → visit.published v world = .ok (Checksum.ofBytes body)
  path : (visit.run world).1.1 = some (cache.entryPath v)
  asked : Call.fetch v (cache.entryPath v) ∈ (visit.run world).1.2

/-- **What one call leaves**: the files as it met them, or with the cache directory made, or an unfinished file that
stays as well, or the binary of one version. -/
theorem files_run (visit : Visit cache) (world : World) :
    (visit.run world).2.files = (visit.meets world).files ∨ (visit.run world).2.files = visit.made world ∨
      (∃ v loc mode content, Mirror.Stays (cache.entryPath v) (visit.made world) loc ∧
        (visit.run world).2.files = (visit.made world).put loc (.file mode content)) ∨
      ∃ v body, visit.Fetches world v body ∧
        Transfer.Installed (visit.made world) (cache.entryPath v) body (visit.run world).2.files := by
  rcases run_cases visit world with hsame | ⟨v, calls, hworld, hcalls, hpath⟩
  · exact Or.inl (congrArg World.files hsame)
  cases hmade : ((visit.meets world).files.makeDirs cache.dir).1 with
  | error e =>
    have hensure := run_ensureCache visit world
    rw [hmade] at hensure
    rw [Collaborators.run_fetchToCache_error _ calls hensure] at hworld
    exact Or.inr (Or.inl (congrArg World.files hworld))
  | ok u =>
    rw [run_fetchToCache visit calls hmade] at hworld hcalls hpath
    have hsame : ((visit.made world).makeDirs (Mirror.directoryOf (cache.entryPath v))).2 = visit.made world :=
      Mirror.makeDirs_directoryOf_join (cache.isPlain_entryFile v) hmade
    have hfetch := Mirror.fetch_files visit.network visit.mirror v (cache.entryPath v)
      ⟨visit.made world, world.attempts⟩
    dsimp only at hworld hcalls hpath hfetch
    rw [hsame] at hfetch
    rw [hworld]
    rcases hfetch with ⟨-, hfiles | hfiles | ⟨loc, mode, content, hstays, hfiles⟩⟩ | ⟨hok, body, hinstalled, hpublished⟩
    · exact Or.inr (Or.inl hfiles)
    · exact Or.inr (Or.inl hfiles)
    · exact Or.inr (Or.inr (Or.inl ⟨v, loc, mode, content, hstays, hfiles⟩))
    · refine Or.inr (Or.inr (Or.inr ⟨v, body, ⟨hpublished, hpath _ ?_, ?_⟩, hinstalled⟩))
      · rw [hok]
        rfl
      · rw [hcalls]
        exact List.mem_append_right calls (List.mem_singleton_self _)

/-! ## One location -/

/-- A call that has made a directory, which the path of the cache led to when it was made. -/
structure Makes (visit : Visit cache) (world : World) (loc : Location) : Prop where
  free : world.files.nodeAt? loc = none
  made : (visit.made world).nodeAt? loc = some .directory
  directory : (visit.run world).2.files.nodeAt? loc = some .directory
  leads : ∃ p ∈ FileSystem.ancestry cache.dir, (visit.made world).locate p = .ok loc

/-- A call that has left an unfinished file, since the system did not let go of it. -/
structure Leaves (visit : Visit cache) (world : World) (loc : Location) : Prop where
  name : ∃ n here, loc = FileSystem.numberedName Mirror.unfinishedStart n :: here
  free : world.files.nodeAt? loc = none
  refused : (visit.refusal? .remove loc).isSome
  file : ∃ mode content, (visit.run world).2.files.nodeAt? loc = some (.file mode content)

/-- What one call does at one location. -/
theorem nodeAt?_run (visit : Visit cache) (world : World) (loc : Location) :
    (visit.run world).2.files.nodeAt? loc = world.files.nodeAt? loc ∨ visit.Makes world loc ∨ visit.Leaves world loc ∨
      ∃ v here body, loc = cache.entryFile v :: here ∧ visit.Fetches world v body ∧
        (visit.run world).2.files.nodeAt? loc = some (.file 0o755 body) := by
  have hmade : ∀ after : FileSystem, after.nodeAt? loc = (visit.made world).nodeAt? loc →
      (visit.run world).2.files = after → (visit.run world).2.files.nodeAt? loc = world.files.nodeAt? loc ∨
        visit.Makes world loc := by
    rintro after hafter hfiles
    rcases (grownBy_made visit world).nodeAt? loc with hsame | ⟨hfree, hdir, hleads⟩
    · rw [hfiles, hafter]
      exact Or.inl hsame
    · exact Or.inr ⟨hfree, hdir, by rw [hfiles, hafter]; exact hdir, hleads⟩
  rcases files_run visit world with hfiles | hfiles | ⟨v, l, mode, content, hstays, hfiles⟩ |
    ⟨v, body, hfetches, hinstalled⟩
  · rw [hfiles]
    exact Or.inl rfl
  · exact (hmade _ rfl hfiles).imp_right Or.inl
  · obtain ⟨⟨n, here, hname, -⟩, hfree, hrefused⟩ := hstays
    have hne := FileSystem.ne_nil_of_nodeAt?_eq_none hfree
    by_cases hloc : loc = l
    · refine Or.inr (Or.inr (Or.inl ⟨⟨n, here, hloc.trans hname⟩, ?_, ?_, mode, content, ?_⟩))
      · cases hnode : world.files.nodeAt? loc with
        | none => rfl
        | some node =>
          rw [hloc] at hnode
          cases hfree.symm.trans ((grownBy_made visit world).kept hnode)
      · rw [hloc, ← show (visit.made world).refusal? = visit.refusal? from (grownBy_made visit world).refusal?]
        exact hrefused
      · rw [hfiles, hloc]
        exact FileSystem.nodeAt?_put_self hne
    · exact (hmade _ (FileSystem.nodeAt?_put_of_ne hne hloc) hfiles).imp_right Or.inl
  · obtain ⟨target, hplace, -, hdir, hfiles⟩ := hinstalled
    have hne := FileSystem.ne_nil_of_isDirectoryAt_eq_false hdir
    by_cases hloc : loc = target.location
    · refine Or.inr (Or.inr (Or.inr ⟨v, target.dir, body, ?_, hfetches, ?_⟩))
      · rw [hloc, FileSystem.Place.location, LocalCache.name_of_place hplace]
      · rw [hfiles, hloc]
        exact FileSystem.nodeAt?_put_self hne
    · exact (hmade _ (FileSystem.nodeAt?_put_of_ne hne hloc) hfiles).imp_right Or.inl

/-- One of the calls has made the directory at a location on the way to the cache. -/
def Made (visits : List (Visit cache)) (world : World) (loc : Location) : Prop :=
  ∃ done visit later, visits = done ++ visit :: later ∧ visit.Makes (runAll done world) loc

/-- One of the calls has left the unfinished file at a location. -/
def Left (visits : List (Visit cache)) (world : World) (loc : Location) : Prop :=
  ∃ done visit later, visits = done ++ visit :: later ∧ visit.Leaves (runAll done world) loc

/-- One of the calls has fetched the file at a location, and none has touched it since. -/
def Fetched (visits : List (Visit cache)) (world : World) (loc : Location) (v : Version) (body : Bytes) : Prop :=
  ∃ done visit later, visits = done ++ visit :: later ∧ visit.Fetches (runAll done world) v body ∧
    ∀ more, more <+: later → (runAll (done ++ visit :: more) world).files.nodeAt? loc = some (.file 0o755 body)

theorem Made.concat (h : Made visits world loc) : Made (visits ++ [visit]) world loc := by
  obtain ⟨done, maker, later, rfl, hmakes⟩ := h
  exact ⟨done, maker, later ++ [visit], List.append_assoc .., hmakes⟩

theorem Left.concat (h : Left visits world loc) : Left (visits ++ [visit]) world loc := by
  obtain ⟨done, leaver, later, rfl, hleaves⟩ := h
  exact ⟨done, leaver, later ++ [visit], List.append_assoc .., hleaves⟩

theorem Fetched.concat (h : Fetched visits world loc v body)
    (hnode : (runAll (visits ++ [visit]) world).files.nodeAt? loc = some (.file 0o755 body)) :
    Fetched (visits ++ [visit]) world loc v body := by
  obtain ⟨done, fetcher, later, rfl, hfetches, hsince⟩ := h
  refine ⟨done, fetcher, later ++ [visit], List.append_assoc .., hfetches, fun more hmore => ?_⟩
  rcases List.prefix_concat_iff.1 hmore with rfl | hmore
  · rw [List.append_assoc] at hnode
    exact hnode
  · exact hsince more hmore

/-- **What is at a location after any calls** was there before them, or is a directory on the way to the cache, or an
unfinished file that one of them has left, or a binary that one of them has fetched.  The induction is on the calls, the
last one being the step. -/
theorem nodeAt?_runAll (h : (runAll visits world).files.nodeAt? loc = some node) :
    world.files.nodeAt? loc = some node ∨ (node = .directory ∧ Made visits world loc) ∨
      (node.isFile = true ∧ Left visits world loc) ∨
      ∃ v here body, loc = cache.entryFile v :: here ∧ node = .file 0o755 body ∧ Fetched visits world loc v body := by
  induction visits using List.reverseRecOn generalizing node with
  | nil => exact Or.inl h
  | append_singleton visits visit ih =>
    have hafter := h
    rw [runAll_concat] at h
    rcases nodeAt?_run visit (runAll visits world) loc with hsame | hmakes | hleaves |
      ⟨v, here, body, hloc, hfetches, hfile⟩
    · rw [hsame] at h
      rcases ih h with hold | ⟨hdir, hmade⟩ | ⟨hfile, hleft⟩ | ⟨v, here, body, hloc, rfl, hfetched⟩
      · exact Or.inl hold
      · exact Or.inr (Or.inl ⟨hdir, hmade.concat⟩)
      · exact Or.inr (Or.inr (Or.inl ⟨hfile, hleft.concat⟩))
      · exact Or.inr (Or.inr (Or.inr ⟨v, here, body, hloc, rfl, hfetched.concat hafter⟩))
    · rw [hmakes.directory, Option.some.injEq] at h
      exact Or.inr (Or.inl ⟨h.symm, visits, visit, [], rfl, hmakes⟩)
    · obtain ⟨mode, content, hfile⟩ := hleaves.file
      rw [hfile, Option.some.injEq] at h
      rw [← h]
      exact Or.inr (Or.inr (Or.inl ⟨rfl, visits, visit, [], rfl, hleaves⟩))
    · rw [hfile, Option.some.injEq] at h
      refine Or.inr (Or.inr (Or.inr ⟨v, here, body, hloc, h.symm, visits, visit, [], rfl, hfetches,
        fun more hmore => ?_⟩))
      rw [List.prefix_nil.1 hmore, runAll_concat]
      exact hfile

theorem isSome_nodeAt?_runAll (h : (world.files.nodeAt? loc).isSome) :
    ((runAll visits world).files.nodeAt? loc).isSome := by
  induction visits using List.reverseRecOn with
  | nil => exact h
  | append_singleton visits visit ih =>
    rw [runAll_concat]
    rcases nodeAt?_run visit (runAll visits world) loc with hsame | hmakes | hleaves | ⟨v, here, body, -, -, hfile⟩
    · rw [hsame]
      exact ih
    · rw [hmakes.directory]
      rfl
    · obtain ⟨mode, content, hfile⟩ := hleaves.file
      rw [hfile]
      rfl
    · rw [hfile]
      rfl

end Visit

end KubectlMatch
