import KubectlMatch.Proofs.Resolution.Provision
/-!
# Where a version is fetched to

A version is fetched on request or for a search that has found nothing.  Both fetch it to the path of its cache entry
and make no other call to the mirror, so the path does not depend on how the version was spelled or on who wanted it,
and different versions never get one path.
-/
namespace KubectlMatch

namespace Collaborators

variable {σ : Type} (c : Collaborators (StateM σ)) (calls : List Call) {v w : Version} {s : σ} {allow : Bool}
  {destination dir : Path} {text : String}

/-! ## The calls that are made -/

theorem calls_fetchToCache : (((c.traced.fetchToCache v).run calls).run s).1.2 = calls ∨
    (((c.traced.fetchToCache v).run calls).run s).1.2 = calls ++ [.fetch v (c.entryPath v)] := by
  rcases hmade : c.ensureCache.run s with ⟨_ | ⟨⟩, s₁⟩
  · rw [run_fetchToCache_error c calls hmade]
    exact Or.inl rfl
  · rw [run_fetchToCache_ok c calls hmade]
    exact Or.inr rfl

variable {c}

/-- What is fetched on request is the version that the text spells, to its entry. -/
theorem of_fetch_mem_getBin
    (h : Call.fetch v destination ∈ (((c.traced.getBin dir text).run []).run s).1.2) :
    Version.parse text = .ok v ∧ destination = c.entryPath v := by
  cases hparse : Version.parse text with
  | error e =>
    rw [run_getBin_refused c [] dir hparse] at h
    cases h
  | ok w =>
    obtain ⟨-, hcalls, -⟩ := run_getBin c [] dir (s := s) hparse
    rw [hcalls] at h
    rcases calls_fetchToCache c [] (v := w) (s := s) with hnone | hone
    · rw [hnone] at h
      cases h
    · rw [hone, List.nil_append, List.mem_singleton] at h
      cases h
      exact ⟨rfl, rfl⟩

/-- What is fetched for a search is the version that was searched for, to its entry. -/
theorem of_fetch_mem_ensureAvailable
    (h : Call.fetch w destination ∈ (((c.traced.ensureAvailable v allow).run []).run s).1.2) :
    w = v ∧ destination = c.entryPath v := by
  have hfound : Call.fetch w destination ∉ ([] ++ [.compatible v] : List Call) := by simp
  rcases hsearch : (c.compatible v).run s with ⟨e | b, s₁⟩
  · cases allow with
    | false =>
      rw [run_ensureAvailable_false c [] hsearch] at h
      exact absurd h hfound
    | true =>
      rw [run_ensureAvailable_true c [] hsearch] at h
      dsimp only at h
      rcases calls_fetchToCache c ([] ++ [.compatible v]) (v := v) (s := s₁) with hnone | hone
      · rw [hnone] at h
        exact absurd h hfound
      · rw [hone] at h
        rcases List.mem_append.1 h with h | h
        · exact absurd h hfound
        · cases List.mem_singleton.1 h
          exact ⟨rfl, rfl⟩
  · rw [run_ensureAvailable_ok c [] hsearch] at h
    exact absurd h hfound

end Collaborators

namespace Finder

open Collaborators

/-- **A fetch on request reads the version before it acts and has one target for each version**, for all texts, all
files and all that the mirror can answer.

A text that is no version is refused: nothing is called and nothing changes.  Otherwise the cache directory is made; if
that fails, that is the answer and the mirror is not asked.  Otherwise the version that the text spells is fetched, once
and to the path of its entry, which is the answer if the fetch succeeds, and if not the mirror's failure is.

Two texts, at whatever time, have one destination exactly if they spell one version, and destinations of different
versions have different places in the file system.  A search that fetches the version has the same destination. -/
theorem getBin_targets_entry (finder : Finder) (probe : Duration → StateM World (Except ProbeError Version))
    (stable : StateM World (Except DownloadError Version))
    (fetch : Version → Path → StateM World (Except DownloadError Unit)) (text : String) (world : World) :
    let c := finder.collaborators probe stable fetch
    let made := finder.cache.ensure world.files
    let got text world := ((c.traced.getBin finder.cache.dir text).run []).run world
    let ensured v allow world := ((c.traced.ensureAvailable v allow).run []).run world
    (∀ e, Version.parse text = .error e → got text world = ((.error (.badVersion e), []), world)) ∧
    (∀ v, Version.parse text = .ok v →
      let entry := finder.cache.entryPath v
      let fetched := (fetch v entry).run { world with files := made.2 }
      (∀ e, made.1 = .error e →
        got text world = ((.error (.noDirectory finder.cache.dir e), []), { world with files := made.2 })) ∧
      (made.1 = .ok () →
        (fetched.1 = .ok () → got text world = ((.ok entry, [.fetch v entry]), fetched.2)) ∧
        ∀ e, fetched.1 = .error e → got text world = ((.error (.download e), [.fetch v entry]), fetched.2))) ∧
    ∀ v destination, Call.fetch v destination ∈ (got text world).1.2 →
      (∀ text' world' v' destination', Call.fetch v' destination' ∈ (got text' world').1.2 →
        (destination = destination' ↔ ∃ w, Version.parse text = .ok w ∧ Version.parse text' = .ok w) ∧
        ∀ (fs : FileSystem) (target : FileSystem.Place), fs.place destination = .ok (some target) →
          fs.place destination' = .ok (some target) → v = v') ∧
      ∀ allow world' w destination', Call.fetch w destination' ∈ (ensured v allow world').1.2 →
        w = v ∧ destination' = destination := by
  intro c made got ensured
  have hentry : c.entryPath = finder.cache.entryPath := rfl
  have hgot : ∀ {text world v destination}, Call.fetch v destination ∈ (got text world).1.2 →
      Version.parse text = .ok v ∧ destination = finder.cache.entryPath v := by
    intro text world v destination h
    rw [← hentry]
    exact of_fetch_mem_getBin h
  have hensured : ∀ {v allow world w destination}, Call.fetch w destination ∈ (ensured v allow world).1.2 →
      w = v ∧ destination = finder.cache.entryPath v := by
    intro v allow world w destination h
    rw [← hentry]
    exact of_fetch_mem_ensureAvailable h
  refine ⟨fun e he => run_getBin_refused c [] _ he, fun v hv => ?_, fun v destination hfetch => ?_⟩
  · intro entry fetched
    refine ⟨fun e he => run_getBin_unmade c [] _ hv (Prod.ext he rfl), fun hmade => ?_⟩
    have hrun : got text world = _ := run_getBin_made c [] _ hv (Prod.ext hmade rfl)
    have hends : got text world =
        (((fetched.1.mapError GetBinError.download).map fun _ => entry, [.fetch v entry]), fetched.2) := hrun
    refine ⟨fun hf => ?_, fun e hf => ?_⟩
    · rw [hends, hf]
      rfl
    · rw [hends, hf]
      rfl
  · obtain ⟨hv, rfl⟩ := hgot hfetch
    refine ⟨fun text' world' v' destination' hfetch' => ?_, fun allow world' w destination' h => hensured h⟩
    obtain ⟨hv', rfl⟩ := hgot hfetch'
    refine ⟨⟨fun hsame => ?_, ?_⟩, fun fs target htarget htarget' => ?_⟩
    · obtain rfl : v = v' := LocalCache.entryPath_injective hsame
      exact ⟨v, hv, hv'⟩
    · rintro ⟨w, hw, hw'⟩
      rw [hv] at hw
      rw [hv'] at hw'
      cases hw
      cases hw'
      rfl
    · exact LocalCache.entryFile_injective
        ((LocalCache.name_of_place htarget).symm.trans (LocalCache.name_of_place htarget'))

end Finder

end KubectlMatch
