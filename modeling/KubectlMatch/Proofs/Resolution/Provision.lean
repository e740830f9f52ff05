import KubectlMatch.Proofs.Cache.Entries
import KubectlMatch.Proofs.Resolution.Availability
/-!
# Found again

What has been fetched once is not fetched again by a search.  A fetch leaves a file under the name of its version, the
name reads back as that version, and so the next scan finds a binary that fits wherever this version does, as long as
the cache directory may be listed.  Where it was missing before, nothing else of the same version can have come in
between, and the same path is the answer.
-/
namespace KubectlMatch

/-! ## The names in the cache -/

namespace LocalCache

/-- The names in the directory, of which there are none where it cannot be listed. -/
def names (cache : LocalCache) (fs : FileSystem) : List FileName := (fs.readDir cache.dir).toOption.getD []

theorem entries_getD (cache : LocalCache) (fs : FileSystem) :
    (cache.entries fs).toOption.getD [] = (cache.names fs).filterMap cache.entry? := by
  rw [entries, names]
  cases fs.readDir cache.dir with
  | ok names => rfl
  | error e =>
    dsimp only
    split <;> rfl

end LocalCache

/-! ## The choice for the version itself -/

namespace Binary

variable {v : Version} {b : Binary} {bs : List Binary}

theorem version_of_compatible? (hfound : ∃ x ∈ bs, x.version = v) (h : compatible? v bs = some b) : b.version = v := by
  obtain ⟨x, hx, rfl⟩ := hfound
  obtain ⟨-, -, hclosest⟩ := compatible?_eq_some_iff.1 h
  rcases hclosest with ⟨hle, hnewest⟩ | habove
  · exact le_antisymm hle (hnewest x hx (inSkewOf_self _) (le_refl _))
  · exact absurd (habove x hx (inSkewOf_self _)).1 (lt_irrefl _)

end Binary

/-! ## The calls of a fetch -/

namespace Collaborators

variable {σ : Type} (c : Collaborators (StateM σ)) (calls : List Call) {v : Version} {path : Path} {s : σ}

/-- A fetch into the cache that succeeds is a call to the mirror, and its path is the entry's. -/
theorem run_fetchToCache_eq_ok (h : (((c.traced.fetchToCache v).run calls).run s).1.1 = .ok path) :
    path = c.entryPath v ∧
      (((c.traced.fetchToCache v).run calls).run s).1.2 = calls ++ [.fetch v (c.entryPath v)] := by
  rcases hmade : c.ensureCache.run s with ⟨_ | ⟨⟩, s₁⟩
  · rw [run_fetchToCache_error c calls hmade] at h
    cases h
  · rw [run_fetchToCache_ok c calls hmade] at h ⊢
    dsimp only at h ⊢
    cases hfetched : ((c.fetch v (c.entryPath v)).run s₁).1 with
    | error e =>
      rw [hfetched] at h
      cases h
    | ok u =>
      rw [hfetched] at h
      cases h
      exact ⟨rfl, rfl⟩

section Requested

variable (dir : Path) {text : String} {s₁ : σ}

/-- A text that is no version is refused before anything else. -/
theorem run_getBin_refused {e : VersionError} (h : Version.parse text = .error e) :
    ((c.traced.getBin dir text).run calls).run s = ((.error (.badVersion e), calls), s) := by
  rw [getBin, h]
  rfl

variable (h : Version.parse text = .ok v)

include h

theorem run_getBin_unmade {e : IoError} (hmade : c.ensureCache.run s = (.error e, s₁)) :
    ((c.traced.getBin dir text).run calls).run s = ((.error (.noDirectory dir e), calls), s₁) := by
  rw [getBin, h]
  dsimp only
  rw [run_traced_bind, run_traced_ensureCache, hmade]
  rfl

theorem run_getBin_made (hmade : c.ensureCache.run s = (.ok (), s₁)) :
    ((c.traced.getBin dir text).run calls).run s =
      let fetched := (c.fetch v (c.entryPath v)).run s₁
      (((fetched.1.mapError GetBinError.download).map fun _ => c.entryPath v, calls ++ [.fetch v (c.entryPath v)]),
        fetched.2) := by
  rw [getBin, h]
  dsimp only
  rw [run_traced_bind, run_traced_ensureCache, hmade]
  dsimp only
  rw [run_traced_bind, traced, run_noted]
  rcases (c.fetch v (c.entryPath v)).run s₁ with ⟨_ | ⟨⟩, s₂⟩
  · rfl
  · rfl

/-- **What is fetched on request is fetched into the cache** in the same way, with the same calls; only a failure is
told in other words. -/
theorem run_getBin :
    let got := ((c.traced.getBin dir text).run calls).run s
    let fetched := ((c.traced.fetchToCache v).run calls).run s
    (∀ path, got.1.1 = .ok path ↔ fetched.1.1 = .ok path) ∧ got.1.2 = fetched.1.2 ∧ got.2 = fetched.2 := by
  intro got fetched
  rcases hmade : c.ensureCache.run s with ⟨e | ⟨⟩, s₁⟩
  · have hgot : got = _ := run_getBin_unmade c calls dir h hmade
    have hfetched : fetched = _ := run_fetchToCache_error c calls hmade
    rw [hgot, hfetched]
    exact ⟨fun path => ⟨fun h => (by cases h), fun h => (by cases h)⟩, rfl, rfl⟩
  · have hgot : got = _ := run_getBin_made c calls dir h hmade
    have hfetched : fetched = _ := run_fetchToCache_ok c calls hmade
    rw [hgot, hfetched]
    rcases (c.fetch v (c.entryPath v)).run s₁ with ⟨_ | ⟨⟩, s₂⟩
    · exact ⟨fun path => ⟨fun h => (by cases h), fun h => (by cases h)⟩, rfl, rfl⟩
    · exact ⟨fun path => ⟨fun h => by cases h; rfl, fun h => by cases h; rfl⟩, rfl, rfl⟩

end Requested

end Collaborators

namespace Finder

open Collaborators

variable {finder : Finder} {v r : Version} {fs fs' : FileSystem} {b : Binary}

theorem scanned_eq (finder : Finder) (fs : FileSystem) :
    finder.scanned fs = finder.systemBinaries fs ++ (finder.cache.names fs).filterMap finder.cache.entry? := by
  rw [scanned, localBinaries, ← LocalCache.entries_getD]
  cases finder.cache.entries fs <;> rfl

/-- What the files must have become for a version to count as provisioned: a file is at the path of its entry, in a
directory that may be listed. -/
structure Provisioned (finder : Finder) (v : Version) (fs : FileSystem) : Prop where
  dir_ne_nil : finder.cache.dir.bytes ≠ []
  listable : ∃ names, fs.readDir finder.cache.dir = .ok names
  entry : ∃ mode content, fs.stat (finder.cache.entryPath v) = .ok (.file mode content)

/-- The next scan finds the entry. -/
theorem Provisioned.mem_scanned (h : finder.Provisioned v fs) : ⟨finder.cache.entryPath v, v⟩ ∈ finder.scanned fs := by
  obtain ⟨names, hread⟩ := h.listable
  obtain ⟨mode, content, hstat⟩ := h.entry
  obtain ⟨loc, hloc, -⟩ := FileSystem.stat_ok hstat
  have hname : finder.cache.entryFile v ∈ finder.cache.names fs := by
    rw [LocalCache.names, hread]
    exact LocalCache.entryFile_mem_of_locate hread hloc
  rw [scanned_eq, List.mem_append]
  exact Or.inr (List.mem_filterMap.2 ⟨_, hname, LocalCache.entry?_entryFile _ v⟩)

/-- Of one version nothing new comes to the finder but its entry.  The second files may show other names than the first
ones did, since the cache's path may lead somewhere now. -/
structure GainsOnly (finder : Finder) (v : Version) (before after : FileSystem) : Prop where
  systemBinaries : finder.systemBinaries after = finder.systemBinaries before
  names : ∀ name ∈ finder.cache.names after, ∀ b, finder.cache.entry? name = some b → b.version = v →
    name = finder.cache.entryFile v ∨ name ∈ finder.cache.names before

theorem GainsOnly.of_mem_scanned (h : finder.GainsOnly v fs fs') (hb : b ∈ finder.scanned fs') (hv : b.version = v) :
    b = ⟨finder.cache.entryPath v, v⟩ ∨ b ∈ finder.scanned fs := by
  rw [scanned_eq, List.mem_append] at hb ⊢
  rw [← h.systemBinaries]
  rcases hb with hsystem | hentry
  · exact Or.inr (Or.inl hsystem)
  · obtain ⟨name, hname, hentry⟩ := List.mem_filterMap.1 hentry
    rcases h.names name hname b hentry hv with rfl | hold
    · rw [LocalCache.entry?_entryFile] at hentry
      exact Or.inl (Option.some.inj hentry).symm
    · exact Or.inr (Or.inr (List.mem_filterMap.2 ⟨name, hold, hentry⟩))

/-- **A provisioned version is found again, and no search fetches it twice.**  After a fetch of a version, be it for a
search that found nothing or on request by any spelling, which left a file at the path of the entry in a directory
that may be listed: every search for a version that this one is in the window of succeeds, and nobody is asked but the
finder, whether downloads are allowed or not.  For the very version a binary of that version is chosen.  If it was a
search that made the fetch, repeating it gives the same path, unless something else of the version has come into
sight. -/
theorem provisioned_is_found_again (finder : Finder) (probe : Duration → StateM World (Except ProbeError Version))
    (stable : StateM World (Except DownloadError Version))
    (fetch : Version → Path → StateM World (Except DownloadError Unit)) (v : Version) (world after : World)
    (hprovisioned : finder.Provisioned v after.files) :
    let c := finder.collaborators probe stable fetch
    let entry := finder.cache.entryPath v
    let first := ((c.traced.ensureAvailable v true).run []).run world
    let got text := ((c.traced.getBin finder.cache.dir text).run []).run world
    let again r allow := ((c.traced.ensureAvailable r allow).run []).run after
    (∀ path, first.1 = (.ok path, [.compatible v, .fetch v entry]) → path = entry ∧
      (finder.GainsOnly v world.files after.files → ∀ allow, again v allow = ((.ok path, [.compatible v]), after))) ∧
    (∀ text path, Version.parse text = .ok v → (got text).1.1 = .ok path →
      path = entry ∧ (got text).1.2 = [.fetch v entry]) ∧
    ∀ r allow, v.inSkewOf r = true → ∃ b ∈ finder.scanned after.files,
      again r allow = ((.ok b.path, [.compatible r]), after) ∧ b.version.inSkewOf r = true ∧
        (r = v → b.version = v) := by
  intro c entry first got again
  have hagain : ∀ r allow, v.inSkewOf r = true → ∃ b, Binary.compatible? r (finder.scanned after.files) = some b ∧
      again r allow = ((.ok b.path, [.compatible r]), after) := by
    intro r allow hskew
    cases hchoice : Binary.compatible? r (finder.scanned after.files) with
    | none =>
      rw [Binary.compatible?_eq_none_iff.1 hchoice _ hprovisioned.mem_scanned] at hskew
      cases hskew
    | some b => exact ⟨b, rfl, run_ensureAvailable_found [] hchoice⟩
  refine ⟨fun path hfirst => ?_, fun text path htext hpath => ?_, fun r allow hskew => ?_⟩
  · -- Nothing of this version was there before, so the entry is the only binary of it now.
    have hnone : Binary.compatible? v (finder.scanned world.files) = none := by
      cases hchoice : Binary.compatible? v (finder.scanned world.files) with
      | none => rfl
      | some b =>
        have hfound : first = _ := run_ensureAvailable_found [] hchoice
        rw [hfound] at hfirst
        cases hfirst
    have hmiss : (c.compatible v).run world = (.error (.noneCompatible v), world) := run_compatible_none hnone
    have hok : (((c.traced.fetchToCache v).run [.compatible v]).run world).1.1 = .ok path := by
      have hrun : first = _ := run_ensureAvailable_true c [] hmiss
      rw [hrun] at hfirst
      exact mapError_eq_ok_iff.1 (congrArg Prod.fst hfirst)
    obtain ⟨rfl, -⟩ := run_fetchToCache_eq_ok c _ hok
    refine ⟨rfl, fun hgains allow => ?_⟩
    obtain ⟨b, hb, hrun⟩ := hagain v allow (Binary.inSkewOf_self v)
    have hversion := Binary.version_of_compatible? ⟨_, hprovisioned.mem_scanned, rfl⟩ hb
    have hmem := (Binary.compatible?_eq_some_iff.1 hb).1.mem
    rcases hgains.of_mem_scanned hmem hversion with rfl | hold
    · exact hrun
    · have hskew := Binary.compatible?_eq_none_iff.1 hnone b hold
      rw [hversion, Binary.inSkewOf_self] at hskew
      cases hskew
  · obtain ⟨hsame, hcalls, -⟩ := run_getBin c [] finder.cache.dir (s := world) htext
    obtain ⟨rfl, hfetch⟩ := run_fetchToCache_eq_ok c [] ((hsame path).1 hpath)
    exact ⟨rfl, hcalls.trans hfetch⟩
  · obtain ⟨b, hb, hrun⟩ := hagain r allow hskew
    obtain ⟨hfirst, hwindow, -⟩ := Binary.compatible?_eq_some_iff.1 hb
    refine ⟨b, hfirst.mem, hrun, hwindow, ?_⟩
    rintro rfl
    exact Binary.version_of_compatible? ⟨_, hprovisioned.mem_scanned, rfl⟩ hb

/-- So it is with a prerelease that the search has made the cache directory for. -/
theorem provisioned_is_found_again_prerelease :
    let rc : Version := ⟨1, 30, 0, [.number 1], []⟩
    let finder : Finder := ⟨[], ⟨"cache", .current⟩, fun _ _ => .ok rc, none⟩
    let fetch (v : Version) (_ : Path) : StateM World (Except DownloadError Unit) :=
      World.onFiles fun fs => (.ok (), fs.put [finder.cache.entryFile v, "cache"] (.file 0o755 [1]))
    let c := finder.collaborators (fun limit => pure (.error (.timedOut limit))) (pure (.ok rc)) fetch
    let world := World.ofFiles FileSystem.empty
    let first := ((c.traced.ensureAvailable rc true).run []).run world
    finder.Provisioned rc first.2.files ∧ finder.GainsOnly rc world.files first.2.files ∧
      first.1 = (.ok (finder.cache.entryPath rc), [.compatible rc, .fetch rc (finder.cache.entryPath rc)]) ∧
      ((c.traced.ensureAvailable rc false).run []).run first.2 =
        ((.ok (finder.cache.entryPath rc), [.compatible rc]), first.2) := by
  intro rc finder fetch c world first
  have hread : first.2.files.readDir finder.cache.dir = .ok [finder.cache.entryFile rc] := by decide +kernel
  have hprovisioned : finder.Provisioned rc first.2.files := ⟨by decide, ⟨_, hread⟩, 0o755, [1], by decide +kernel⟩
  have hgains : finder.GainsOnly rc world.files first.2.files := by
    refine ⟨rfl, fun name hname b _ _ => Or.inl ?_⟩
    rw [LocalCache.names, hread] at hname
    exact List.mem_singleton.1 hname
  have hfirst : first.1 = (.ok (finder.cache.entryPath rc),
    [.compatible rc, .fetch rc (finder.cache.entryPath rc)]) := by
    decide +kernel
  obtain ⟨hagain, -, -⟩ := provisioned_is_found_again finder (fun limit => pure (.error (.timedOut limit)))
    (pure (.ok rc)) fetch rc world first.2 hprovisioned
  exact ⟨hprovisioned, hgains, hfirst, (hagain _ hfirst).2 hgains false⟩

/-- Without leave to list the directory that a fetch has made, the version is fetched again, or not at all.  If the
cache's path goes through a directory whose name reads as the version, that is what the search gives when it is
repeated.  And on request a version is fetched again even where it is there. -/
theorem provisioned_is_fetched_again :
    let v := Version.ofNumbers 1 20 0
    let finder dir : Finder := ⟨[], ⟨dir, .current⟩, fun _ _ => .ok v, none⟩
    let fetch (loc : Location) (_ : Version) (_ : Path) : StateM World (Except DownloadError Unit) :=
      World.onFiles fun fs => (.ok (), fs.put loc (.file 0o755 [1]))
    let c dir loc := (finder dir).collaborators (fun t => pure (.error (.timedOut t))) (pure (.ok v)) (fetch loc)
    let search dir loc allow world := (((c dir loc).traced.ensureAvailable v allow).run []).run world
    let request dir loc world := (((c dir loc).traced.getBin dir "1.20").run []).run world
    let closed : FileSystem := { FileSystem.empty with
      refusal? := fun action _ => if action = .list then some .permissionDenied else none }
    let loc : Location := ["kubectl1.20.0", "c"]
    let there : World := .ofFiles ((FileSystem.empty.put ["c"] .directory).put loc (.file 0o755 [1]))
    let through : Path := "c/kubectl1.20/.."
    (search "c" loc true (.ofFiles closed)).1 =
        (.ok "c/kubectl1.20.0", [.compatible v, .fetch v "c/kubectl1.20.0"]) ∧
      (search "c" loc true (search "c" loc true (.ofFiles closed)).2).1 =
        (.ok "c/kubectl1.20.0", [.compatible v, .fetch v "c/kubectl1.20.0"]) ∧
      (search "c" loc false (search "c" loc true (.ofFiles closed)).2).1 = (.error .downloadDisabled, [.compatible v]) ∧
      (search through loc true (.ofFiles .empty)).1 =
        (.ok "c/kubectl1.20/../kubectl1.20.0", [.compatible v, .fetch v "c/kubectl1.20/../kubectl1.20.0"]) ∧
      (finder through).Provisioned v (search through loc true (.ofFiles .empty)).2.files ∧
      (search through loc true (search through loc true (.ofFiles .empty)).2).1 =
        (.ok "c/kubectl1.20/../kubectl1.20", [.compatible v]) ∧
      (finder "c").Provisioned v there.files ∧
      (request "c" loc there).1 = (.ok "c/kubectl1.20.0", [.fetch v "c/kubectl1.20.0"]) := by
  intro v finder fetch c search request closed loc there through
  refine ⟨by decide +kernel, by decide +kernel, by decide +kernel, by decide +kernel, ?_, ?_, ?_, by decide +kernel⟩
  · exact ⟨by decide, ⟨["kubectl1.20", "kubectl1.20.0"], by decide +kernel⟩, 0o755, [1], by decide +kernel⟩
  · have hb : Binary.compatible? v ((finder through).scanned (search through loc true (.ofFiles .empty)).2.files) =
        some ⟨"c/kubectl1.20/../kubectl1.20", v⟩ := by
      decide +kernel
    exact congrArg Prod.fst (run_ensureAvailable_found [] hb)
  · exact ⟨by decide, ⟨["kubectl1.20.0"], by decide +kernel⟩, 0o755, [1], by decide +kernel⟩

end Finder

end KubectlMatch
