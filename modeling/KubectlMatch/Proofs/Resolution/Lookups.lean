import KubectlMatch.Proofs.Resolution.Availability
/-!
# What a lookup can fail with

Listing the cache can fail, and `localBinaries` says so.  The lookups built on it do not pass that on: a source that
cannot be listed is one without binaries, and then there is either a binary to choose or none.  So the fallback machine,
which gives up where the finder fails for another reason, is never at that point with a real finder.
-/
namespace KubectlMatch

namespace Finder

variable {finder : Finder} {fs : FileSystem} {newestFirst : Bool} {es : List Binary} {e : FinderError}
    {requested : Version}

theorem localBinaries_eq_error_iff : finder.localBinaries fs = .error e ↔
    ∃ cause, fs.readDir finder.cache.dir = .error cause ∧ cause.isMissing = false ∧
      e = .unlisted finder.cache.dir cause := by
  unfold localBinaries LocalCache.entries
  cases hread : fs.readDir finder.cache.dir with
  | ok names => exact ⟨nofun, fun ⟨_, h, _⟩ => nomatch h⟩
  | error cause =>
    dsimp only
    by_cases hmissing : cause.isMissing = true
    · rw [if_pos hmissing]
      refine ⟨nofun, fun ⟨cause', h, hfound, _⟩ => ?_⟩
      cases h
      rw [hmissing] at hfound
      cases hfound
    · rw [if_neg hmissing]
      constructor
      · intro h
        exact ⟨cause, rfl, by simpa using hmissing, (Except.error.inj h).symm⟩
      · rintro ⟨cause', h, -, rfl⟩
        cases h
        rfl

theorem perm_allBinaries_ok (h : finder.localBinaries fs = .ok es) :
    (finder.allBinaries newestFirst fs).Perm (finder.systemBinaries fs ++ es) := by
  have hscanned : finder.scanned fs = finder.systemBinaries fs ++ es := by
    rw [scanned, h]
    rfl
  rw [← hscanned]
  exact Binary.sorted_perm newestFirst _

theorem perm_allBinaries_error (h : finder.localBinaries fs = .error e) :
    (finder.allBinaries newestFirst fs).Perm (finder.systemBinaries fs) := by
  have hscanned : finder.scanned fs = finder.systemBinaries fs := by
    rw [scanned, h]
    exact List.append_nil _
  rw [← hscanned]
  exact Binary.sorted_perm newestFirst _

theorem allBinaries_eq_nil_iff : finder.allBinaries newestFirst fs = [] ↔ finder.scanned fs = [] := by
  have hperm : (finder.allBinaries newestFirst fs).Perm (finder.scanned fs) := Binary.sorted_perm newestFirst _
  constructor
  · intro h
    rw [h] at hperm
    exact hperm.symm.eq_nil
  · intro h
    rw [h] at hperm
    exact hperm.eq_nil

theorem findCompatible_cases (finder : Finder) (fs : FileSystem) (requested : Version) :
    (∃ b, finder.findCompatible requested fs = .ok b) ∨
      finder.findCompatible requested fs = .error (.noneCompatible requested) := by
  rw [findCompatible_eq]
  cases Binary.compatible? requested (finder.scanned fs) with
  | none => exact Or.inr rfl
  | some b => exact Or.inl ⟨b, rfl⟩

theorem mostRecentAvailable_cases (finder : Finder) (fs : FileSystem) :
    (∃ b, finder.mostRecentAvailable fs = .ok b) ∨ finder.mostRecentAvailable fs = .error .noneFound := by
  rw [mostRecentAvailable_eq]
  cases Binary.mostRecent? (finder.scanned fs) with
  | none => exact Or.inr rfl
  | some b => exact Or.inl ⟨b, rfl⟩

theorem mostRecentAvailable_eq_error_iff :
    finder.mostRecentAvailable fs = .error .noneFound ↔ finder.allBinaries newestFirst fs = [] := by
  rw [allBinaries_eq_nil_iff, mostRecentAvailable_eq, ← Binary.mostRecent?_eq_none_iff]
  cases Binary.mostRecent? (finder.scanned fs) with
  | none => simp
  | some b => simp

/-! ## The machine with a real finder -/

section Parties

variable {probe : Duration → StateM World (Except ProbeError Version)}
    {stable : StateM World (Except DownloadError Version)}
  {fetch : Version → Path → StateM World (Except DownloadError Unit)} {timeout : Duration} {world : World} {b : Binary}

theorem advance_askingFinder_ok (cause : ProbeError) (h : finder.mostRecentAvailable world.files = .ok b) :
    ((finder.collaborators probe stable fetch).advance timeout (.askingFinder cause)).run world =
      (.decided b.version, world) := by
  show (Collaborators.Stage.afterFinder cause (finder.mostRecentAvailable world.files), world) = _
  rw [h]
  rfl

theorem advance_askingFinder_noneFound (cause : ProbeError)
    (h : finder.mostRecentAvailable world.files = .error .noneFound) :
    ((finder.collaborators probe stable fetch).advance timeout (.askingFinder cause)).run world =
      (.askingMirror cause, world) := by
  show (Collaborators.Stage.afterFinder cause (finder.mostRecentAvailable world.files), world) = _
  rw [h]
  rfl

end Parties

/-- **The finder's lookups fail only for lack of binaries**, for all files, whatever is at the path of the cache.  All
binaries are those on the search path, and those in the cache where it can be listed; listing it fails for every reason
but that nothing is there.  A search for a binary that fits finds one or says that
none does, and a search for the newest finds one or says that there is none, which it says exactly if there are no
binaries at all.  So after the finder the fallback machine has decided or asks the mirror, and a decision without the
cluster is the version of an installed binary, or else it is left to the mirror, which is asked once. -/
theorem lookups_fail_only_for_lack (finder : Finder) (probe : Duration → StateM World (Except ProbeError Version))
    (stable : StateM World (Except DownloadError Version))
    (fetch : Version → Path → StateM World (Except DownloadError Unit)) (timeout : Duration) :
    let c := finder.collaborators probe stable fetch
    (∀ fs newestFirst,
      (∀ es, finder.localBinaries fs = .ok es →
        (finder.allBinaries newestFirst fs).Perm (finder.systemBinaries fs ++ es)) ∧
      (∀ e, finder.localBinaries fs = .error e → (finder.allBinaries newestFirst fs).Perm (finder.systemBinaries fs)) ∧
      (finder.mostRecentAvailable fs = .error .noneFound ↔ finder.allBinaries newestFirst fs = [])) ∧
    (∀ fs e, finder.localBinaries fs = .error e ↔ ∃ cause, fs.readDir finder.cache.dir = .error cause ∧
      cause.isMissing = false ∧ e = .unlisted finder.cache.dir cause) ∧
    (∀ fs requested, (∃ b, finder.findCompatible requested fs = .ok b) ∨
      finder.findCompatible requested fs = .error (.noneCompatible requested)) ∧
    (∀ fs, (∃ b, finder.mostRecentAvailable fs = .ok b) ∨ finder.mostRecentAvailable fs = .error .noneFound) ∧
    (∀ cause (world : World),
      (∃ b, finder.mostRecentAvailable world.files = .ok b ∧
        (c.advance timeout (.askingFinder cause)).run world = (.decided b.version, world)) ∨
      (finder.mostRecentAvailable world.files = .error .noneFound ∧
        (c.advance timeout (.askingFinder cause)).run world = (.askingMirror cause, world))) ∧
    ∀ (world asked : World) (e : ProbeError), (probe timeout).run world = (.error e, asked) →
      let out := ((c.traced.versionToUse timeout).run []).run world
      (∃ b ∈ finder.allBinaries true asked.files, finder.mostRecentAvailable asked.files = .ok b ∧
        out = ((.ok b.version, [.probe timeout, .mostRecent]), asked)) ∨
      (finder.allBinaries true asked.files = [] ∧
        out = (((stable.run asked).1.mapError fun _ => .probe e, [.probe timeout, .mostRecent, .stable]),
          (stable.run asked).2)) := by
  intro c
  refine ⟨fun fs newestFirst => ⟨fun es => perm_allBinaries_ok, fun e => perm_allBinaries_error,
    mostRecentAvailable_eq_error_iff⟩, fun fs e => localBinaries_eq_error_iff, findCompatible_cases finder,
    mostRecentAvailable_cases finder, fun cause world => ?_, fun world asked e hprobe => ?_⟩
  · rcases mostRecentAvailable_cases finder world.files with ⟨b, hb⟩ | hnone
    · exact Or.inl ⟨b, hb, advance_askingFinder_ok cause hb⟩
    · exact Or.inr ⟨hnone, advance_askingFinder_noneFound cause hnone⟩
  · intro out
    have hout : out = ((c.traced.fallBack e).run [.probe timeout]).run asked :=
      Collaborators.run_versionToUse_error c [] hprobe
    rcases mostRecentAvailable_cases finder asked.files with ⟨b, hb⟩ | hnone
    · have hmem : b ∈ finder.scanned asked.files :=
        (Binary.mostRecent?_eq_some_iff.1 (mostRecentAvailable_eq_ok_iff.1 hb)).1.mem
      refine Or.inl ⟨b, mem_allBinaries_iff.2 hmem, hb, ?_⟩
      rw [hout]
      exact Collaborators.run_fallBack_ok c _ (Prod.ext hb rfl)
    · refine Or.inr ⟨mostRecentAvailable_eq_error_iff.1 hnone, ?_⟩
      rw [hout]
      exact Collaborators.run_fallBack_noneFound c _ (Prod.ext hnone rfl)

end Finder

end KubectlMatch
