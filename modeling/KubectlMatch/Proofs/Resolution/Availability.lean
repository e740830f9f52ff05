import KubectlMatch.Cli.Run
import KubectlMatch.Proofs.Files.Operations
import KubectlMatch.Proofs.Finder.Reports
import KubectlMatch.Proofs.Resolution.Fallback
/-!
# A binary that fits

With a real finder the search for a binary that fits a version is decided by what the scan finds: the window rule's
choice if there is one, and else the cache entry of that very version, if downloads are allowed.  After a decision that
had to do without the cluster the two decisions meet: the window rule chooses the binary whose version was decided on.
-/
namespace KubectlMatch

namespace Finder

/-- The parties of a decision with this finder and its cache, whatever the cluster and the mirror are. -/
def collaborators (finder : Finder) (probe : Duration → StateM World (Except ProbeError Version))
    (stable : StateM World (Except DownloadError Version))
    (fetch : Version → Path → StateM World (Except DownloadError Unit)) : Collaborators (StateM World) where
  probe := probe
  mostRecent := World.ofTheFiles finder.mostRecentAvailable
  compatible version := World.ofTheFiles (finder.findCompatible version)
  stable := stable
  fetch := fetch
  ensureCache := World.onFiles finder.cache.ensure
  entryPath := finder.cache.entryPath

end Finder

theorem Machine.parties_eq (m : Machine) (s : Settings) : m.parties s =
    (m.finder s).collaborators (m.parties s).probe (m.parties s).stable (m.parties s).fetch := rfl

/-! ## One search -/

namespace Collaborators

section Answer

variable {σ : Type} {c : Collaborators (StateM σ)} {v : Version} {allow : Bool} {path : Path} {s : σ}

theorem fetchToCache_eq_ok (h : ((c.fetchToCache v).run s).1 = .ok path) : path = c.entryPath v := by
  rw [fetchToCache, World.run_bind] at h
  cases hmade : (c.ensureCache.run s).1 with
  | error e =>
    rw [hmade] at h
    cases h
  | ok u =>
    rw [hmade] at h
    dsimp only at h
    rw [World.run_bind] at h
    cases hfetched : ((c.fetch v (c.entryPath v)).run (c.ensureCache.run s).2).1 with
    | error e =>
      rw [hfetched] at h
      cases h
    | ok u =>
      rw [hfetched] at h
      cases h
      rfl

theorem ensureAvailable_eq_ok (h : ((c.ensureAvailable v allow).run s).1 = .ok path) :
    (∃ b, ((c.compatible v).run s).1 = .ok b ∧ path = b.path) ∨ path = c.entryPath v := by
  rw [ensureAvailable, World.run_bind] at h
  cases hfound : ((c.compatible v).run s).1 with
  | ok b =>
    rw [hfound] at h
    cases h
    exact Or.inl ⟨b, rfl, rfl⟩
  | error e =>
    rw [hfound] at h
    cases allow with
    | false => cases h
    | true => exact Or.inr (fetchToCache_eq_ok (mapError_eq_ok_iff.1 h))

end Answer

section Traced

variable {σ : Type} (c : Collaborators (StateM σ)) (calls : List Call) {v : Version} {allow : Bool} {s s₁ : σ}

theorem run_ensureAvailable_ok {b : Binary} (h : (c.compatible v).run s = (.ok b, s₁)) :
    ((c.traced.ensureAvailable v allow).run calls).run s = ((.ok b.path, calls ++ [.compatible v]), s₁) := by
  rw [ensureAvailable, run_traced_bind, traced, run_noted, h]
  rfl

theorem run_ensureAvailable_false {f : FinderError} (h : (c.compatible v).run s = (.error f, s₁)) :
    ((c.traced.ensureAvailable v false).run calls).run s =
      ((.error .downloadDisabled, calls ++ [.compatible v]), s₁) := by
  rw [ensureAvailable, run_traced_bind, traced, run_noted, h]
  rfl

theorem run_ensureAvailable_true {f : FinderError} (h : (c.compatible v).run s = (.error f, s₁)) :
    ((c.traced.ensureAvailable v true).run calls).run s =
      let fetched := ((c.traced.fetchToCache v).run (calls ++ [.compatible v])).run s₁
      ((fetched.1.1.mapError .download, fetched.1.2), fetched.2) := by
  rw [ensureAvailable, run_traced_bind, traced, run_noted, h]
  rfl

theorem run_traced_ensureCache : (c.traced.ensureCache.run calls).run s =
    (((c.ensureCache.run s).1, calls), (c.ensureCache.run s).2) := rfl

theorem run_fetchToCache_error {e : IoError} (h : c.ensureCache.run s = (.error e, s₁)) :
    ((c.traced.fetchToCache v).run calls).run s = ((.error (.io e), calls), s₁) := by
  rw [fetchToCache, run_traced_bind, run_traced_ensureCache, h]
  rfl

theorem run_fetchToCache_ok (h : c.ensureCache.run s = (.ok (), s₁)) :
    ((c.traced.fetchToCache v).run calls).run s =
      let fetched := (c.fetch v (c.entryPath v)).run s₁
      ((fetched.1.map fun _ => c.entryPath v, calls ++ [.fetch v (c.entryPath v)]), fetched.2) := by
  rw [fetchToCache, run_traced_bind, run_traced_ensureCache, h]
  dsimp only
  rw [run_traced_bind, traced, run_noted]
  rcases (c.fetch v (c.entryPath v)).run s₁ with ⟨_ | ⟨⟩, s₂⟩
  · rfl
  · rfl

end Traced

end Collaborators

namespace Finder

open Collaborators

section Search

variable {finder : Finder} {probe : Duration → StateM World (Except ProbeError Version)}
  {stable : StateM World (Except DownloadError Version)}
  {fetch : Version → Path → StateM World (Except DownloadError Unit)} (calls : List Call) {v : Version} {allow : Bool}
  {world : World}

theorem run_ensureAvailable_found {b : Binary} (h : Binary.compatible? v (finder.scanned world.files) = some b) :
    (((finder.collaborators probe stable fetch).traced.ensureAvailable v allow).run calls).run world =
      ((.ok b.path, calls ++ [.compatible v]), world) :=
  run_ensureAvailable_ok _ calls (Prod.ext (findCompatible_eq_ok_iff.2 h) rfl)

variable (hnone : Binary.compatible? v (finder.scanned world.files) = none)

include hnone

theorem run_compatible_none : ((finder.collaborators probe stable fetch).compatible v).run world =
    (.error (.noneCompatible v), world) :=
  Prod.ext (findCompatible_of_none hnone) rfl

theorem run_ensureAvailable_disabled :
    (((finder.collaborators probe stable fetch).traced.ensureAvailable v false).run calls).run world =
      ((.error .downloadDisabled, calls ++ [.compatible v]), world) :=
  run_ensureAvailable_false _ calls (run_compatible_none hnone)

theorem run_ensureAvailable_unmade {e : IoError} (h : (finder.cache.ensure world.files).1 = .error e) :
    (((finder.collaborators probe stable fetch).traced.ensureAvailable v true).run calls).run world =
      ((.error (.download (.io e)), calls ++ [.compatible v]),
        { world with files := (finder.cache.ensure world.files).2 }) := by
  refine (run_ensureAvailable_true _ calls (run_compatible_none hnone)).trans ?_
  rw [run_fetchToCache_error (finder.collaborators probe stable fetch) _ (Prod.ext h rfl)]
  rfl

theorem run_ensureAvailable_fetched (h : (finder.cache.ensure world.files).1 = .ok ()) :
    let entry := finder.cache.entryPath v
    let fetched := (fetch v entry).run { world with files := (finder.cache.ensure world.files).2 }
    (((finder.collaborators probe stable fetch).traced.ensureAvailable v true).run calls).run world =
      (((fetched.1.map fun _ => entry).mapError .download, calls ++ [.compatible v] ++ [.fetch v entry]),
        fetched.2) := by
  refine (run_ensureAvailable_true _ calls (run_compatible_none hnone)).trans ?_
  rw [run_fetchToCache_ok (finder.collaborators probe stable fetch) _ (Prod.ext h rfl)]
  rfl

end Search

/-- **A search for a binary that fits a version**, for all files, all answers of the binaries and all mirrors.  If any
binary found is in the window, the window rule's choice among all found is the answer, the mirror is not asked and
nothing changes.  Otherwise, if downloads are not allowed, that is the answer, and nothing changes either.  Otherwise
the cache directory is made, and only where that succeeds the version is fetched, once and to its cache entry; a failure
is passed on as it is.  Whatever path is the answer, its binary's version is in the window. -/
theorem ensureAvailable_follows_scan (finder : Finder) (probe : Duration → StateM World (Except ProbeError Version))
    (stable : StateM World (Except DownloadError Version))
    (fetch : Version → Path → StateM World (Except DownloadError Unit)) (v : Version) (allow : Bool) (world : World) :
    let c := finder.collaborators probe stable fetch
    let found := finder.scanned world.files
    let entry := finder.cache.entryPath v
    let made := finder.cache.ensure world.files
    let fetched := (fetch v entry).run { world with files := made.2 }
    let out := ((c.traced.ensureAvailable v allow).run []).run world
    ((∃ b ∈ found, b.version.inSkewOf v = true) →
      ∃ b, Binary.compatible? v found = some b ∧ out = ((.ok b.path, [.compatible v]), world)) ∧
    ((∀ b ∈ found, b.version.inSkewOf v = false) →
      (allow = false → out = ((.error .downloadDisabled, [.compatible v]), world)) ∧
      (allow = true →
        world.files.GrownBy (FileSystem.ancestry finder.cache.dir) made.2 ∧
        (∀ e, made.1 = .error e →
          out = ((.error (.download (.io e)), [.compatible v]), { world with files := made.2 })) ∧
        (made.1 = .ok () →
          (finder.cache.dir.parent? ≠ none → made.2.HasDirectory finder.cache.dir) ∧
          (fetched.1 = .ok () → out = ((.ok entry, [.compatible v, .fetch v entry]), fetched.2)) ∧
          ∀ e, fetched.1 = .error e →
            out = ((.error (.download e), [.compatible v, .fetch v entry]), fetched.2)))) ∧
    ∀ path, out.1.1 = .ok path → ∃ w, ((⟨path, w⟩ : Binary) ∈ found ∨ path = entry ∧ w = v) ∧
      w.major = v.major ∧ Version.distance w.minor v.minor ≤ 1 := by
  intro c found entry made fetched out
  have hfound : ∀ b, Binary.compatible? v found = some b → out = ((.ok b.path, [.compatible v]), world) :=
    fun b hb => run_ensureAvailable_found [] hb
  have hdisabled : Binary.compatible? v found = none → allow = false →
      out = ((.error .downloadDisabled, [.compatible v]), world) := by
    rintro hn rfl
    exact run_ensureAvailable_disabled [] hn
  have hmakeFails : Binary.compatible? v found = none → allow = true → ∀ e, made.1 = .error e →
      out = ((.error (.download (.io e)), [.compatible v]), { world with files := made.2 }) := by
    rintro hn rfl e he
    exact run_ensureAvailable_unmade [] hn he
  have hfetched : Binary.compatible? v found = none → allow = true → made.1 = .ok () →
      out = (((fetched.1.map fun _ => entry).mapError .download, [.compatible v, .fetch v entry]), fetched.2) := by
    rintro hn rfl hok
    exact run_ensureAvailable_fetched [] hn hok
  refine ⟨fun ⟨b, hb, hskew⟩ => ?_, fun hempty => ?_, fun path hpath => ?_⟩
  · cases hc : Binary.compatible? v found with
    | none =>
      rw [Binary.compatible?_eq_none_iff.1 hc b hb] at hskew
      cases hskew
    | some b => exact ⟨b, rfl, hfound b hc⟩
  · have hn := Binary.compatible?_eq_none_iff.2 hempty
    refine ⟨hdisabled hn, fun hallow => ⟨FileSystem.grownBy_makeDirs _ _, hmakeFails hn hallow, fun hok => ?_⟩⟩
    refine ⟨fun hparent => FileSystem.hasDirectory_makeDirs hparent hok, fun hf => ?_, fun e hf => ?_⟩
    · rw [hfetched hn hallow hok, hf]
      rfl
    · rw [hfetched hn hallow hok, hf]
      rfl
  · cases hc : Binary.compatible? v found with
    | some b =>
      rw [hfound b hc] at hpath
      cases hpath
      obtain ⟨hfirst, hskew, -⟩ := Binary.compatible?_eq_some_iff.1 hc
      exact ⟨b.version, Or.inl hfirst.mem, Version.inSkewOf_iff.1 hskew⟩
    | none =>
      cases hallow : allow with
      | false =>
        rw [hdisabled hc hallow] at hpath
        cases hpath
      | true =>
        cases hm : made.1 with
        | error e =>
          rw [hmakeFails hc hallow e hm] at hpath
          cases hpath
        | ok u =>
          rw [hfetched hc hallow hm] at hpath
          cases hf : fetched.1 with
          | error e =>
            rw [hf] at hpath
            cases hpath
          | ok u =>
            rw [hf] at hpath
            cases hpath
            exact ⟨v, Or.inr ⟨rfl, rfl⟩, Version.inSkewOf_iff.1 (Binary.inSkewOf_self v)⟩

/-! ## Both decisions without the cluster -/

/-- **Without the cluster the two decisions agree.**  When the cluster does not answer and any binary at all is found,
the version decided on is that of the most recent one, and the search for a binary that fits it finds that very binary,
whatever the others are and whether downloads are allowed or not.  The mirror is not asked for anything. -/
theorem resolve_without_cluster (finder : Finder) (probe : Duration → StateM World (Except ProbeError Version))
    (stable : StateM World (Except DownloadError Version))
    (fetch : Version → Path → StateM World (Except DownloadError Unit)) (timeout : Duration) (allow : Bool)
    {world asked : World} {e : ProbeError} (hprobe : (probe timeout).run world = (.error e, asked))
    (hfiles : asked.files = world.files) (hfound : finder.scanned world.files ≠ []) :
    let c := finder.collaborators probe stable fetch
    ∃ b, finder.mostRecentAvailable world.files = .ok b ∧
      ((c.traced.versionToUse timeout).run []).run world =
        ((.ok b.version, [.probe timeout, .mostRecent]), asked) ∧
      ((c.traced.resolve timeout allow).run []).run world =
        ((.ok b.path, [.probe timeout, .mostRecent, .compatible b.version]), asked) := by
  intro c
  obtain ⟨b, hb⟩ := Option.ne_none_iff_exists'.1 (mt Binary.mostRecent?_eq_none_iff.1 hfound)
  have hrecent : c.mostRecent.run asked = (.ok b, asked) := by
    refine Prod.ext (mostRecentAvailable_eq_ok_iff.2 ?_) rfl
    rw [hfiles]
    exact hb
  have hcompatible : (c.compatible b.version).run asked = (.ok b, asked) := by
    refine Prod.ext (findCompatible_eq_ok_iff.2 ?_) rfl
    rw [hfiles]
    exact Binary.compatible?_of_mostRecent? hb
  have hversion : ((c.traced.versionToUse timeout).run []).run world =
      ((.ok b.version, [.probe timeout, .mostRecent]), asked) := by
    rw [run_versionToUse_error c [] hprobe, run_fallBack_ok c _ hrecent]
    rfl
  refine ⟨b, mostRecentAvailable_eq_ok_iff.2 hb, hversion, ?_⟩
  rw [resolve, run_traced_bind, hversion]
  exact run_ensureAvailable_ok c _ hcompatible

/-- So it is with a newer prerelease in the cache, and a release that is there twice. -/
theorem resolve_without_cluster_of_several :
    let release := Version.ofNumbers 1 20 0
    let finder : Finder := ⟨["/a", "/b"], ⟨"/c", .current⟩, fun _ _ => .ok release, none⟩
    let program := Node.file 0o755 []
    let fs := (((FileSystem.empty.put ["a"] .directory).put ["b"] .directory).put ["c"] .directory).put
      ["kubectl", "b"] program
    let world := World.ofFiles ((fs.put ["kubectl", "a"] program).put ["kubectl1.30.0-1", "c"] program)
    let c := finder.collaborators (fun limit => pure (.error (.timedOut limit))) (pure (.ok release)) fun _ _ =>
      pure (.ok ())
    finder.scanned world.files =
      [⟨"/a/kubectl", release⟩, ⟨"/b/kubectl", release⟩, ⟨"/c/kubectl1.30.0-1", ⟨1, 30, 0, [.number 1], []⟩⟩] ∧
    ((c.traced.versionToUse ⟨0⟩).run []).run world = ((.ok release, [.probe ⟨0⟩, .mostRecent]), world) ∧
    ((c.traced.resolve ⟨0⟩ false).run []).run world =
      ((.ok "/a/kubectl", [.probe ⟨0⟩, .mostRecent, .compatible release]), world) := by
  intro release finder program fs world c
  have hscanned : finder.scanned world.files =
      [⟨"/a/kubectl", release⟩, ⟨"/b/kubectl", release⟩, ⟨"/c/kubectl1.30.0-1", ⟨1, 30, 0, [.number 1], []⟩⟩] := by
    decide +kernel
  have hfound : finder.scanned world.files ≠ [] := by
    rw [hscanned]
    exact List.cons_ne_nil _ _
  have hprobe : (c.probe ⟨0⟩).run world = (.error (.timedOut ⟨0⟩), world) := rfl
  obtain ⟨b, hrecent, hversion, hresolved⟩ :=
    resolve_without_cluster finder _ (pure (.ok release)) (fun _ _ => pure (.ok ())) ⟨0⟩ false hprobe rfl hfound
  have hchosen : Binary.mostRecent? (finder.scanned world.files) = some ⟨"/a/kubectl", release⟩ := by
    rw [hscanned]
    decide +kernel
  obtain rfl : ⟨"/a/kubectl", release⟩ = b :=
    Option.some.inj (hchosen.symm.trans (mostRecentAvailable_eq_ok_iff.1 hrecent))
  exact ⟨hscanned, hversion, hresolved⟩

end Finder

end KubectlMatch
