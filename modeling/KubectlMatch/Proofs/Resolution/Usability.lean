import KubectlMatch.Launch.Replace
import KubectlMatch.Proofs.Resolution.Availability
/-!
# Whether a path that was found can be run

The scan of the search path has looked at the files it reports; for the cache a name is enough.  A search therefore
answers with a path that can be run, except where the window rule chooses an entry of the cache that is no executable
file.  Nothing is fetched in its place then, so it is the answer every time.
-/
namespace KubectlMatch

namespace Finder

variable {finder : Finder} {fs : FileSystem} {p : Path}

/-- What a handover asks of a binary is less than what the scan asks. -/
theorem checkBinary_of_isExecutableFile (h : isExecutableFile fs p = true) : Image.checkBinary fs p = .ok () := by
  obtain ⟨mode, content, hstat, -⟩ := isExecutableFile_iff.1 h
  unfold Image.checkBinary
  rw [hstat]
  rfl

/-- The end of a search: the answer, with the calls that were made for it, and the world that is left. -/
abbrev Searched := (Except ResolveError Path × List Call) × World

/-- A path that is the answer leads to an executable file, which no handover refuses, provided that what was fetched for
it, if anything, was stored as an executable file. -/
def Searched.IsUsable (out : Searched) : Prop :=
  ∀ path, out.1.1 = .ok path →
    (∀ v destination, Call.fetch v destination ∈ out.1.2 → isExecutableFile out.2.files destination = true) →
      isExecutableFile out.2.files path = true ∧ Image.checkBinary out.2.files path = .ok ()

namespace Searched

theorem isUsable_found {b : Binary} {v : Version} {world : World} :
    IsUsable ((.ok b.path, [.compatible v]), world) ↔ isExecutableFile world.files b.path = true := by
  constructor
  · intro h
    exact (h b.path rfl (by simp)).1
  · intro h path hpath _
    cases hpath
    exact ⟨h, checkBinary_of_isExecutableFile h⟩

theorem isUsable_error {e : ResolveError} {calls : List Call} {world : World} : IsUsable ((.error e, calls), world) :=
  fun _ hpath => nomatch hpath

theorem isUsable_fetched {r : Except DownloadError Unit} {destination : Path} {v : Version} {world : World} :
    IsUsable (((r.map fun _ => destination).mapError ResolveError.download,
      [.compatible v, .fetch v destination]), world) := by
  cases r with
  | error e => exact isUsable_error
  | ok u =>
    intro path hpath hstored
    cases hpath
    have h := hstored v destination (by simp)
    exact ⟨h, checkBinary_of_isExecutableFile h⟩

end Searched

/-- **A search answers with a path that can be run exactly if the window rule's choice can be run**, where it chooses at
all.  That is so of every binary on the search path.  An entry of the cache that cannot be run is the answer all the
same: nobody is asked to fetch the version, nothing changes, and so it is the next time. -/
theorem ensureAvailable_usable_iff (finder : Finder) (probe : Duration → StateM World (Except ProbeError Version))
    (stable : StateM World (Except DownloadError Version))
    (fetch : Version → Path → StateM World (Except DownloadError Unit)) (v : Version) (allow : Bool) (world : World) :
    let c := finder.collaborators probe stable fetch
    let choice := Binary.compatible? v (finder.scanned world.files)
    let out : Searched := ((c.traced.ensureAvailable v allow).run []).run world
    (out.IsUsable ↔ ∀ b, choice = some b → isExecutableFile world.files b.path = true) ∧
    (∀ b ∈ finder.systemBinaries world.files, isExecutableFile world.files b.path = true) ∧
    ∀ b, choice = some b → isExecutableFile world.files b.path = false →
      (∃ names, world.files.readDir finder.cache.dir = .ok names ∧ ∃ name ∈ names, finder.cache.entry? name = some b) ∧
      out = ((.ok b.path, [.compatible v]), world) := by
  intro c choice out
  have hfound : ∀ b, choice = some b → out = ((.ok b.path, [.compatible v]), world) := fun b hb =>
    run_ensureAvailable_found [] hb
  have hsystem : ∀ b ∈ finder.systemBinaries world.files, isExecutableFile world.files b.path = true := fun b hb =>
    (isInstalled_of_mem hb).isExecutableFile
  refine ⟨?_, hsystem, fun b hb hexec => ⟨?_, hfound b hb⟩⟩
  · cases hchoice : choice with
    | some b =>
      rw [hfound b hchoice, Searched.isUsable_found]
      simp
    | none =>
      refine ⟨fun _ => nofun, fun _ => ?_⟩
      cases allow with
      | false =>
        have hout : out = _ := run_ensureAvailable_disabled [] hchoice
        rw [hout]
        exact Searched.isUsable_error
      | true =>
        cases hmade : (finder.cache.ensure world.files).1 with
        | error e =>
          have hout : out = _ := run_ensureAvailable_unmade [] hchoice hmade
          rw [hout]
          exact Searched.isUsable_error
        | ok u =>
          have hout : out = _ := run_ensureAvailable_fetched [] hchoice hmade
          rw [hout]
          exact Searched.isUsable_fetched
  · obtain ⟨hfirst, -⟩ := Binary.compatible?_eq_some_iff.1 hb
    rcases mem_scanned_iff.1 hfirst.mem with hmem | hmem
    · rw [hsystem b hmem] at hexec
      cases hexec
    · exact mem_localBinaries_iff.1 hmem

/-- A directory under the name of an entry is the answer, and is refused by the handover. -/
theorem unusable_directory :
    let v := Version.ofNumbers 1 20 0
    let finder : Finder := ⟨[], ⟨"cache", .current⟩, fun _ _ => .ok v, none⟩
    let fetch (_ : Version) (_ : Path) : StateM World (Except DownloadError Unit) := pure (.ok ())
    let c := finder.collaborators (fun _ => pure (.ok v)) (pure (.ok v)) fetch
    let world := World.ofFiles
      ((FileSystem.empty.put ["cache"] .directory).put ["kubectl1.20.0", "cache"] .directory)
    let out : Searched := ((c.traced.ensureAvailable v true).run []).run world
    ¬out.IsUsable ∧ out = ((.ok "cache/kubectl1.20.0", [.compatible v]), world) ∧
      Image.checkBinary world.files "cache/kubectl1.20.0" = .error (.notFound "cache/kubectl1.20.0") := by
  intro v finder fetch c world out
  have hchoice : Binary.compatible? v (finder.scanned world.files) = some ⟨"cache/kubectl1.20.0", v⟩ := by
    decide +kernel
  have hout : out = ((.ok "cache/kubectl1.20.0", [.compatible v]), world) := run_ensureAvailable_found [] hchoice
  have hrefused : Image.checkBinary world.files "cache/kubectl1.20.0" = .error (.notFound "cache/kubectl1.20.0") := by
    decide +kernel
  refine ⟨fun h => ?_, hout, hrefused⟩
  rw [hout] at h
  have := (h "cache/kubectl1.20.0" rfl (by simp)).2
  rw [hrefused] at this
  cases this

end Finder

end KubectlMatch
