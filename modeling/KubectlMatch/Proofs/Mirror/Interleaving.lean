import KubectlMatch.Proofs.Cache.Entries
import KubectlMatch.Proofs.Mirror.Downloads
/-!
# Downloads side by side

Any number of downloads into one cache directory.  An unfinished file's name is no other's and never that of an entry,
so no download can do harm to another's file, and the last step of one that goes well puts a whole verified body at an
entry in one stroke.  `Safe` says so of a moment, `Safe.goes` keeps it through a turn, and `Safe.after` through all.

Names are looked at wherever they are.  So it does not matter which directory the cache's path leads to, nor whether it
is there at all.
-/
namespace KubectlMatch

namespace Shared

variable {cache : LocalCache} {first : FileSystem} {here : Location} {s s' : Shared} {dl other : Download} {v : Version}
  {name : FileName} {turn : Turn} {turns : List Turn} {fs : FileSystem} {unfinished : Location}

/-- The download has ended well, with a body for the entry of this name: it was delivered whole and has the checksum
that the download was given. -/
structure Brings (cache : LocalCache) (dl : Download) (name : FileName) : Prop where
  ended : dl.progress.stage = .ended (.ok ())
  entry : name = cache.entryFile dl.version
  delivered : dl.Delivered dl.progress.received
  verified : Checksum.ofBytes dl.progress.received = dl.progress.expected

/-- The name in a directory shows no part of a binary: it is what it was at first, or a directory that was made where
nothing was, or a download has brought the whole, unless that has lost the last piece. -/
def ShowsNoPart (cache : LocalCache) (first : FileSystem) (s : Shared) (name : FileName) (here : Location) : Prop :=
  s.files.nodeAt? (name :: here) = first.nodeAt? (name :: here) ∨
    (first.nodeAt? (name :: here) = none ∧ s.files.nodeAt? (name :: here) = some .directory) ∨
    ∃ dl ∈ s.downloads, Brings cache dl name ∧
      ∃ content, s.files.nodeAt? (name :: here) = some (.file 0o755 content) ∧ Download.Filled dl.progress content

theorem ShowsNoPart.of_same (h : ShowsNoPart cache first s name here)
    (hsame : s'.files.nodeAt? (name :: here) = s.files.nodeAt? (name :: here))
    (hkept : ∀ dl ∈ s.downloads, Brings cache dl name → dl ∈ s'.downloads) :
    ShowsNoPart cache first s' name here := by
  rcases h with hold | ⟨hfree, hdir⟩ | ⟨dl, hdl, hbrings, content, hfile, hfilled⟩
  · exact Or.inl (hsame.trans hold)
  · exact Or.inr (Or.inl ⟨hfree, hsame.trans hdir⟩)
  · exact Or.inr (Or.inr ⟨dl, hkept dl hdl hbrings, hbrings, content, hsame.trans hfile, hfilled⟩)

/-- What holds at all times between downloads, from the files `first` on. -/
structure Safe (cache : LocalCache) (first : FileSystem) (s : Shared) : Prop where
  carries : ∀ dl ∈ s.downloads, dl.Carries s.files
  unfinished : ∀ dl ∈ s.downloads, ∃ n here, dl.progress.unfinished =
    FileSystem.numberedName Mirror.unfinishedStart n :: here
  destination : ∀ dl ∈ s.downloads, dl.progress.destination = cache.entryPath dl.version
  apart : s.downloads.Pairwise fun a b => 0 < a.progress.stepsLeft → 0 < b.progress.stepsLeft →
    a.progress.unfinished ≠ b.progress.unfinished
  entries : ∀ name here, (cache.entry? name).isSome → ShowsNoPart cache first s name here

/-! ## One turn -/

theorem ne_unfinished (h : (cache.entry? name).isSome) (here : Location) (n : Nat) (there : Location) :
    name :: here ≠ FileSystem.numberedName Mirror.unfinishedStart n :: there := by
  intro heq
  rw [(List.cons.inj heq).1, LocalCache.entry?_numberedName (by decide)] at h
  cases h

theorem isSome_entryFile (cache : LocalCache) (v : Version) : (cache.entry? (cache.entryFile v)).isSome := by
  rw [LocalCache.entry?_entryFile]
  rfl

section Turns

variable (hsafe : Safe cache first s)

include hsafe

/-- Directories that are made where nothing was are nothing to downloads, and neither is what the system refuses. -/
theorem Safe.grown (hgrown : ∀ loc, fs.nodeAt? loc = s.files.nodeAt? loc ∨
    (s.files.nodeAt? loc = none ∧ fs.nodeAt? loc = some .directory)) : Safe cache first ⟨fs, s.downloads⟩ := by
  refine ⟨fun dl hdl => (hsafe.carries dl hdl).of_same fun hbusy => ?_, hsafe.unfinished, hsafe.destination,
    hsafe.apart, fun name here hentry => ?_⟩
  · obtain ⟨mode, content, hnode, -⟩ := (hsafe.carries dl hdl).file hbusy
    refine (hgrown _).resolve_right fun hfree => ?_
    rw [hnode] at hfree
    cases hfree.1
  · rcases hgrown (name :: here) with hsame | ⟨hfree, hdir⟩
    · exact (hsafe.entries name here hentry).of_same hsame fun _ hdl _ => hdl
    · rcases hsafe.entries name here hentry with hold | ⟨-, hdir'⟩ | ⟨dl, -, -, content, hnode, -⟩
      · exact Or.inr (Or.inl ⟨hold.symm.trans hfree, hdir⟩)
      · cases hfree.symm.trans hdir'
      · cases hfree.symm.trans hnode

/-- A download that begins takes a name that is free, and so nobody's. -/
theorem Safe.joined (url : String) (expected : Checksum) (delivery : Except DownloadError Http.Received)
    (h : s.files.createTemporary (Mirror.directoryOf (cache.entryPath v)) Mirror.unfinishedStart =
      .ok (unfinished, fs)) :
    Safe cache first (s.joined cache v url expected delivery (.ok (unfinished, fs))) ∧
      ∀ name here, (cache.entry? name).isSome → fs.nodeAt? (name :: here) = s.files.nodeAt? (name :: here) := by
  obtain ⟨there, -, -, ⟨n, hname⟩, hfree, hput⟩ := FileSystem.createTemporary_ok h
  have hne := FileSystem.ne_nil_of_nodeAt?_eq_none hfree
  have hothers : ∀ dl ∈ s.downloads, 0 < dl.progress.stepsLeft → dl.progress.unfinished ≠ unfinished := by
    rintro dl hdl hbusy rfl
    obtain ⟨mode, content, hnode, -⟩ := (hsafe.carries dl hdl).file hbusy
    rw [hfree] at hnode
    cases hnode
  have hsame : ∀ name here, (cache.entry? name).isSome →
      fs.nodeAt? (name :: here) = s.files.nodeAt? (name :: here) := by
    intro name here hentry
    rw [hput]
    refine FileSystem.nodeAt?_put_of_ne hne ?_
    rw [hname]
    exact ne_unfinished hentry here n there
  refine ⟨{ carries := ?carries, unfinished := ?unfinished, destination := ?destination, apart := ?apart,
            entries := ?entries }, hsame⟩
  case carries =>
    refine List.forall_mem_append.2 ⟨fun dl hdl => ?_, List.forall_mem_singleton.2 ?_⟩
    · show dl.Carries fs
      rw [hput]
      exact (hsafe.carries dl hdl).of_same fun hbusy => FileSystem.nodeAt?_put_of_ne hne (hothers dl hdl hbusy)
    · show Download.Carries _ fs
      rw [hput]
      exact Download.carries_transfer v url expected delivery _ hne
  case unfinished =>
    refine List.forall_mem_append.2 ⟨hsafe.unfinished, List.forall_mem_singleton.2 ⟨n, there, ?_⟩⟩
    rw [← hname]
    exact Mirror.unfinished_transfer url expected _ unfinished delivery
  case destination =>
    refine List.forall_mem_append.2 ⟨hsafe.destination, List.forall_mem_singleton.2 ?_⟩
    exact Mirror.destination_transfer url expected _ unfinished delivery
  case apart =>
    refine List.pairwise_append.2 ⟨hsafe.apart, List.pairwise_singleton _ _, fun a ha b hb hbusy _ => ?_⟩
    rw [List.mem_singleton.1 hb]
    show _ ≠ (Mirror.transfer url expected _ unfinished delivery).unfinished
    rw [Mirror.unfinished_transfer]
    exact hothers a ha hbusy
  case entries =>
    intro name here hentry
    exact (hsafe.entries name here hentry).of_same (hsame name here hentry) fun _ hdl _ => List.mem_append_left _ hdl

/-- What a step of a busy download changes but for its own file: the entry of its version, if it has ended well. -/
theorem Safe.frame (hdl : dl ∈ s.downloads) (hbusy : 0 < dl.progress.stepsLeft) {progress : Transfer}
    (hmove : dl.progress.Moves s.files progress fs) :
    (dl.goOn progress).Carries fs ∧ ∀ loc, loc ≠ dl.progress.unfinished →
      fs.nodeAt? loc = s.files.nodeAt? loc ∨ (∃ here, loc = cache.entryFile dl.version :: here) ∧
        progress.stage = .ended (.ok ()) ∧
          ∃ content, fs.nodeAt? loc = some (.file 0o755 content) ∧ Download.Filled progress content := by
  obtain ⟨n, there, hunfinished⟩ := hsafe.unfinished dl hdl
  have hplace : ∀ target, s.files.place dl.progress.destination = .ok (some target) →
      target.location = cache.entryFile dl.version :: target.dir := by
    intro target htarget
    rw [hsafe.destination dl hdl] at htarget
    rw [FileSystem.Place.location, LocalCache.name_of_place htarget]
  have haway : ∀ target, s.files.place dl.progress.destination = .ok (some target) →
      target.location ≠ dl.progress.unfinished := by
    intro target htarget
    rw [hplace target htarget, hunfinished]
    exact ne_unfinished (isSome_entryFile cache dl.version) target.dir n there
  obtain ⟨hcarries, hframe⟩ := (hsafe.carries dl hdl).of_moves hbusy haway hmove
  refine ⟨hcarries, fun loc hne => ?_⟩
  rcases hframe with hsame | ⟨hended, target, content, htarget, hnode, hfilled, hsame⟩
  · exact Or.inl (hsame loc hne)
  · by_cases hentry : loc = target.location
    · rw [hentry]
      exact Or.inr ⟨⟨target.dir, hplace target htarget⟩, hended, content, hnode, hfilled⟩
    · exact Or.inl (hsame loc hne hentry)

/-- An entry is as it was, or the step has brought it. -/
theorem Safe.entry_of_moves (hdl : dl ∈ s.downloads) (hbusy : 0 < dl.progress.stepsLeft) {progress : Transfer}
    (hmove : dl.progress.Moves s.files progress fs) (hentry : (cache.entry? name).isSome) (here : Location) :
    fs.nodeAt? (name :: here) = s.files.nodeAt? (name :: here) ∨ Brings cache (dl.goOn progress) name ∧
      ∃ content, fs.nodeAt? (name :: here) = some (.file 0o755 content) ∧ Download.Filled progress content := by
  obtain ⟨n, there, hunfinished⟩ := hsafe.unfinished dl hdl
  obtain ⟨hcarries, hframe⟩ := hsafe.frame hdl hbusy hmove
  have hne : name :: here ≠ dl.progress.unfinished := by
    rw [hunfinished]
    exact ne_unfinished hentry here n there
  rcases hframe _ hne with hsame | ⟨⟨_, hname⟩, hended, hfile⟩
  · exact Or.inl hsame
  · have hsound := hcarries.sound
    unfold Download.Sound at hsound
    rw [show (dl.goOn progress).progress.stage = .ended (.ok ()) from hended] at hsound
    exact Or.inr ⟨⟨hended, (List.cons.inj hname).1, hsound.1, hsound.2⟩, hfile⟩

/-- The file of another busy download is not touched, for it is neither this one's nor an entry. -/
theorem Safe.carries_other (hdl : dl ∈ s.downloads) (hbusy : 0 < dl.progress.stepsLeft) {progress : Transfer}
    (hmove : dl.progress.Moves s.files progress fs) (hother : other ∈ s.downloads)
    (hapart : 0 < other.progress.stepsLeft → other.progress.unfinished ≠ dl.progress.unfinished) :
    other.Carries fs := by
  obtain ⟨-, hframe⟩ := hsafe.frame hdl hbusy hmove
  obtain ⟨n, there, hunfinished⟩ := hsafe.unfinished other hother
  refine (hsafe.carries other hother).of_same fun hbusy' => ?_
  rcases hframe _ (hapart hbusy') with hsame | ⟨⟨here, hname⟩, -⟩
  · exact hsame
  · rw [hunfinished] at hname
    exact absurd hname.symm (ne_unfinished (isSome_entryFile cache dl.version) here n there)

/-- **A step of a download keeps all safe.** -/
theorem Safe.goOn {done later : List Download} (hdownloads : s.downloads = done ++ dl :: later)
    (hbusy : 0 < dl.progress.stepsLeft) {progress : Transfer} (hmove : dl.progress.Moves s.files progress fs) :
    Safe cache first ⟨fs, done ++ dl.goOn progress :: later⟩ := by
  have hdl : dl ∈ s.downloads := by
    rw [hdownloads]
    exact List.mem_append_right done List.mem_cons_self
  have hothers : ∀ other ∈ done ++ later, other ∈ s.downloads := by
    intro other hother
    rw [hdownloads]
    exact List.mem_append.2 ((List.mem_append.1 hother).imp_right (List.mem_cons_of_mem dl))
  have hmem : ∀ {other}, other ∈ done ++ dl.goOn progress :: later ↔
    other = dl.goOn progress ∨ other ∈ done ++ later := by
    intro other
    rw [List.mem_append, List.mem_cons, List.mem_append]
    exact or_left_comm
  have hsymm : ∀ {a b : Download}, (0 < a.progress.stepsLeft → 0 < b.progress.stepsLeft →
      a.progress.unfinished ≠ b.progress.unfinished) → 0 < b.progress.stepsLeft → 0 < a.progress.stepsLeft →
        b.progress.unfinished ≠ a.progress.unfinished := fun h hb ha heq => h ha hb heq.symm
  have hapart := hsafe.apart
  rw [hdownloads, List.pairwise_middle hsymm, List.pairwise_cons] at hapart
  obtain ⟨hunfinished, hdestination, -⟩ := hmove.sameTask
  obtain ⟨hcarries, -⟩ := hsafe.frame hdl hbusy hmove
  refine { carries := ?carries, unfinished := ?unfinished, destination := ?destination, apart := ?apart,
           entries := ?entries }
  case carries =>
    intro other hother
    rcases hmem.1 hother with rfl | hother
    · exact hcarries
    · exact hsafe.carries_other hdl hbusy hmove (hothers other hother) fun hbusy' =>
        (hapart.1 other hother hbusy hbusy').symm
  case unfinished =>
    intro other hother
    rcases hmem.1 hother with rfl | hother
    · rw [show (dl.goOn progress).progress.unfinished = _ from hunfinished]
      exact hsafe.unfinished dl hdl
    · exact hsafe.unfinished other (hothers other hother)
  case destination =>
    intro other hother
    rcases hmem.1 hother with rfl | hother
    · exact hdestination.trans (hsafe.destination dl hdl)
    · exact hsafe.destination other (hothers other hother)
  case apart =>
    rw [List.pairwise_middle hsymm, List.pairwise_cons]
    refine ⟨fun other hother _ hbusy' => ?_, hapart.2⟩
    rw [show (dl.goOn progress).progress.unfinished = _ from hunfinished]
    exact hapart.1 other hother hbusy hbusy'
  case entries =>
    intro name here hentry
    rcases hsafe.entry_of_moves hdl hbusy hmove hentry here with hsame | ⟨hbrings, hfile⟩
    · -- A download that has brought an entry has ended, so it is not the busy one.
      refine (hsafe.entries name here hentry).of_same hsame fun other hother hbrings => hmem.2 (Or.inr ?_)
      rw [hdownloads, List.mem_append, List.mem_cons] at hother
      rcases hother with hother | rfl | hother
      · exact List.mem_append_left _ hother
      · rw [Transfer.stepsLeft, hbrings.ended] at hbusy
        cases hbusy
      · exact List.mem_append_right _ hother
    · exact Or.inr (Or.inr ⟨dl.goOn progress, hmem.2 (Or.inl rfl), hbrings, hfile⟩)

/-- **A turn keeps all safe**, and touches no entry unless a download ends well with it, or a directory is made where
nothing was. -/
theorem Safe.goes (hgoes : s.Goes cache turn s') : Safe cache first s' ∧ ∀ name here, (cache.entry? name).isSome →
    s'.files.nodeAt? (name :: here) = s.files.nodeAt? (name :: here) ∨
      (s.files.nodeAt? (name :: here) = none ∧ s'.files.nodeAt? (name :: here) = some .directory) ∨
      ∃ i dl, turn = .advance i ∧ s'.downloads[i]? = some dl ∧ Brings cache dl name := by
  cases hgoes with
  | @makeDirectory p made hfree =>
    have hne := FileSystem.ne_nil_of_nodeAt?_eq_none hfree
    have hgrown : ∀ loc, (s.files.put made .directory).nodeAt? loc = s.files.nodeAt? loc ∨
        (s.files.nodeAt? loc = none ∧ (s.files.put made .directory).nodeAt? loc = some .directory) := by
      intro loc
      by_cases hloc : loc = made
      · rw [hloc]
        exact Or.inr ⟨hfree, FileSystem.nodeAt?_put_self hne⟩
      · exact Or.inl (FileSystem.nodeAt?_put_of_ne hne hloc)
    exact ⟨hsafe.grown hgrown, fun name here _ => (hgrown (name :: here)).imp_right Or.inl⟩
  | refuse => exact ⟨hsafe.grown fun _ => Or.inl rfl, fun _ _ _ => Or.inl rfl⟩
  | @begin v url expected delivery _ _ hcreate =>
    obtain ⟨hsafe', hsame⟩ := hsafe.joined url expected delivery hcreate
    exact ⟨hsafe', fun name here hentry => Or.inl (hsame name here hentry)⟩
  | @advance i dl fs progress hdl hbusy hmove =>
    obtain ⟨hi, hget⟩ := List.getElem?_eq_some_iff.1 hdl
    obtain ⟨done, later, hdownloads, -, hset⟩ : ∃ done later, s.downloads = done ++ s.downloads[i] :: later ∧
        done.length = i ∧ s.downloads.set i (dl.goOn progress) = done ++ dl.goOn progress :: later :=
      List.exists_of_set hi
    rw [hget] at hdownloads
    refine ⟨?_, fun name here hentry => ?_⟩
    · rw [hset]
      exact hsafe.goOn hdownloads hbusy hmove
    · rcases hsafe.entry_of_moves (List.mem_of_getElem? hdl) hbusy hmove hentry here with hsame | ⟨hbrings, -⟩
      · exact Or.inl hsame
      · exact Or.inr (Or.inr ⟨i, _, rfl, List.getElem?_set_self hi, hbrings⟩)
  | pass => exact ⟨hsafe, fun _ _ _ => Or.inl rfl⟩

theorem Safe.after (turns : List Turn) : Safe cache first (s.after cache turns) := by
  induction turns using List.reverseRecOn with
  | nil => exact hsafe
  | append_singleton turns turn ih =>
    rw [after_concat]
    exact (ih.goes (goes_next turn)).1

end Turns

section Alone

/-- Directories are made one by one. -/
theorem exists_turns_makeLineage (cache : LocalCache) : ∀ (ps : List Path) (fs : FileSystem),
    ∃ turns, (Shared.mk fs []).after cache turns = ⟨(FileSystem.makeLineage ps fs).2, []⟩
  | [], _ => ⟨[], rfl⟩
  | p :: above, fs => by
    have hensure : ∀ fs, (Shared.mk fs []).after cache [.makeDirectory p] = ⟨(FileSystem.ensureDir p fs).2, []⟩ := by
      intro fs
      rw [after_singleton, next, FileSystem.ensureDir]
      cases fs.makeDir p with
      | ok made => rfl
      | error e =>
        dsimp only
        split <;> rfl
    obtain ⟨turns, hturns⟩ := exists_turns_makeLineage cache above fs
    rcases FileSystem.makeLineage_cases p above fs with h | ⟨-, ⟨e, fs₁, hrest, h⟩ | ⟨fs₁, hrest, h⟩⟩
    · rw [h]
      exact ⟨_, hensure fs⟩
    · rw [h]
      rw [hrest] at hturns
      exact ⟨turns, hturns⟩
    · rw [h]
      rw [hrest] at hturns
      refine ⟨turns ++ [.makeDirectory p], ?_⟩
      rw [after_append, hturns]
      exact hensure fs₁

variable (net : Http.Network) (world : World)

/-- A body is stored by a download with all turns for itself. -/
theorem exists_turns_store (cache : LocalCache) (url : String) (expected : Checksum) (v : Version) :
    ∃ turns, ((Shared.mk world.files []).after cache turns).files =
        ((Mirror.store net url expected (cache.entryPath v)).run world).2.files ∧
      ∀ dl ∈ ((Shared.mk world.files []).after cache turns).downloads, dl.progress.expected = expected ∧
        dl.progress.stage = .ended ((Mirror.store net url expected (cache.entryPath v)).run world).1 := by
  obtain ⟨making, hmaking⟩ := exists_turns_makeLineage cache
    (FileSystem.ancestry (Mirror.directoryOf (cache.entryPath v))) world.files
  rw [FileSystem.ancestry, ← FileSystem.makeDirs] at hmaking
  cases hmade : (world.files.makeDirs (Mirror.directoryOf (cache.entryPath v))).1 with
  | error e =>
    rw [Mirror.run_store_unmade net url expected hmade]
    refine ⟨making, ?_⟩
    rw [hmaking]
    exact ⟨rfl, fun dl hdl => absurd hdl List.not_mem_nil⟩
  | ok u =>
    cases hcreate : (world.files.makeDirs (Mirror.directoryOf (cache.entryPath v))).2.createTemporary
        (Mirror.directoryOf (cache.entryPath v)) Mirror.unfinishedStart with
    | error e =>
      rw [Mirror.run_store_uncreated net url expected hmade hcreate]
      refine ⟨making, ?_⟩
      rw [hmaking]
      exact ⟨rfl, fun dl hdl => absurd hdl List.not_mem_nil⟩
    | ok created =>
      obtain ⟨unfinished, files⟩ := created
      rw [Mirror.run_store_created net url expected hmade hcreate]
      generalize ((Mirror.get net url).run world.attempts).1 = delivery
      have hexpected := Mirror.expected_transfer url expected (cache.entryPath v) unfinished delivery
      generalize ht : Mirror.transfer url expected (cache.entryPath v) unfinished delivery = t at hexpected ⊢
      have hbegin : (Shared.mk (world.files.makeDirs (Mirror.directoryOf (cache.entryPath v))).2 []).after cache
          [.begin v url expected delivery] = ⟨files, [Download.goOn ⟨v, delivery, t⟩ t]⟩ := by
        rw [after_singleton, ← ht]
        refine next_begin_ok ?_
        exact hcreate
      refine ⟨making ++ [.begin v url expected delivery] ++ List.replicate t.stepsLeft (.advance 0), ?_⟩
      rw [after_append, after_append, hmaking, hbegin, after_replicate]
      refine ⟨rfl, fun dl hdl => ?_⟩
      rw [List.mem_singleton.1 hdl]
      exact ⟨(Transfer.sameTask_steps t.stepsLeft t files).2.2.trans hexpected, Transfer.stage_steps_stepsLeft t files⟩

/-- **A fetch is a download with all turns for itself**, once it knows the published checksum: the turns take the files
where the fetch takes them, and the download to the same result. -/
theorem exists_turns_fetch (cache : LocalCache) (m : Mirror) (v : Version) :
    ∃ turns, ((Shared.mk world.files []).after cache turns).files =
        ((Mirror.fetch net m v (cache.entryPath v)).run world).2.files ∧
      ∀ dl ∈ ((Shared.mk world.files []).after cache turns).downloads,
        ((Mirror.publishedChecksum net (m.artifactUrl v)).run world.attempts).1 = .ok dl.progress.expected ∧
        dl.progress.stage = .ended ((Mirror.fetch net m v (cache.entryPath v)).run world).1 := by
  cases hpublished : ((Mirror.publishedChecksum net (m.artifactUrl v)).run world.attempts).1 with
  | error e =>
    rw [Mirror.run_fetch_error m v hpublished]
    exact ⟨[], rfl, fun dl hdl => absurd hdl List.not_mem_nil⟩
  | ok expected =>
    rw [Mirror.run_fetch_ok m v hpublished]
    obtain ⟨turns, hfiles, hdownloads⟩ := exists_turns_store net
      ⟨world.files, Mirror.asked net (Mirror.checksumUrl (m.artifactUrl v)) world.attempts⟩ cache
        (m.artifactUrl v) expected v
    refine ⟨turns, hfiles, fun dl hdl => ?_⟩
    obtain ⟨hexpected, hstage⟩ := hdownloads dl hdl
    exact ⟨congrArg Except.ok hexpected.symm, hstage⟩

end Alone

/-! ## All downloads -/

/-- Two downloads of one version, one of which brings it while the other fails. -/
example :
    let cache : LocalCache := ⟨"c", .current⟩
    let v := Version.ofNumbers 1 20 0
    let url : Http.Address := ⟨['h', 't', 't', 'p'], none, none, [], none, none⟩
    let received : Http.Received := ⟨url, ⟨⟨200⟩, none, ⟨[], none, ⟨0⟩⟩⟩, ⟨0⟩⟩
    let turns : List Turn := [.makeDirectory "c", .begin v "" (Checksum.ofBytes []) (.ok received),
      .begin v "" (Checksum.ofBytes []) (.error (.unavailable "" "")), .advance 0, .advance 1, .advance 0, .advance 0,
        .advance 0]
    ((Shared.mk .empty []).after cache turns).files.nodeAt? (cache.entryFile v :: ["c"]) = some (.file 0o755 []) := by
  decide +kernel

end Shared

end KubectlMatch
