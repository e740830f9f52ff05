import KubectlMatch.Proofs.Files.Directories
import KubectlMatch.Proofs.Files.Operations
import KubectlMatch.Proofs.Launch.Starting
/-!
# Names on the search path

A handover looks at the binary under its path, seen from the working directory, and then starts it by its name.  The two
are the same where the path has a slash.  A name without one is looked for along the search path, and the search stops
at the first candidate that it does not pass over (`StopsAt`), which may be another file, or at none.  So a handover
keeps to its binary if the search comes to that very file, and that says exactly when it does (`replace_keepsTo_iff`).
-/
namespace KubectlMatch

namespace Image

variable {fs : FileSystem} {p q : Path} {args : List HostText} {env : Environment} {image : Image}

/-! ## One search -/

section Search

variable {start : Path → Except IoError Image} {c c' : Path} {candidates : List Path}

/-- A candidate that cannot be started, for a cause that lets the search go on. -/
def IsPassed (start : Path → Except IoError Image) (p : Path) : Prop := ∃ e, start p = .error e ∧ isPassedOver e = true

/-- Where a search stops: at the first candidate that it does not pass over. -/
inductive StopsAt (start : Path → Except IoError Image) : List Path → Path → Prop
  | here {p : Path} {rest : List Path} (h : ¬IsPassed start p) : StopsAt start (p :: rest) p
  | next {p c : Path} {rest : List Path} (h : IsPassed start p) (hrest : StopsAt start rest c) :
      StopsAt start (p :: rest) c

theorem not_isPassed_of_ok (h : start p = .ok image) : ¬IsPassed start p := by
  rintro ⟨e, he, -⟩
  rw [h] at he
  cases he

/-- A search stops at one place. -/
theorem StopsAt.unique (h : StopsAt start candidates c) (h' : StopsAt start candidates c') : c = c' := by
  induction h with
  | here hp =>
    cases h' with
    | here => rfl
    | next hpassed => exact absurd hpassed hp
  | next hpassed _ ih =>
    cases h' with
    | here hp => exact absurd hpassed hp
    | next _ hrest => exact ih hrest

theorem stopsAt_singleton_iff : StopsAt start [p] c ↔ c = p ∧ ¬IsPassed start p := by
  constructor
  · intro h
    cases h with
    | here h => exact ⟨rfl, h⟩
    | next _ hrest => cases hrest
  · rintro ⟨rfl, h⟩
    exact .here h

/-- **What a search starts is what it stops at**, whatever it would tell if there were nothing to start. -/
theorem startFirst_eq_ok_iff : ∀ {candidates : List Path} {reason : IoError},
    startFirst start reason candidates = .ok image ↔ ∃ c, StopsAt start candidates c ∧ start c = .ok image
  | [], _ => ⟨nofun, fun ⟨_, h, _⟩ => nomatch h⟩
  | p :: rest, reason => by
    rw [startFirst]
    cases hp : start p with
    | ok found =>
      constructor
      · intro h
        exact ⟨p, .here (not_isPassed_of_ok hp), hp.trans h⟩
      · rintro ⟨c, hc, himage⟩
        cases hc with
        | here => exact hp.symm.trans himage
        | next hpassed => exact absurd hpassed (not_isPassed_of_ok hp)
    | error e =>
      dsimp only
      by_cases he : isPassedOver e = true
      · rw [if_pos he, startFirst_eq_ok_iff]
        refine exists_congr fun c => and_congr_left fun himage => ⟨.next ⟨e, hp, he⟩, fun hc => ?_⟩
        cases hc with
        | here hnot => exact absurd ⟨e, hp, he⟩ hnot
        | next _ hrest => exact hrest
      · rw [if_neg he]
        refine ⟨nofun, ?_⟩
        rintro ⟨c, hc, himage⟩
        cases hc with
        | here =>
          rw [hp] at himage
          cases himage
        | next hpassed =>
          obtain ⟨e', hp', he'⟩ := hpassed
          rw [hp] at hp'
          cases hp'
          exact absurd he' he

theorem candidates_of_slash (h : Path.slash ∈ p.bytes) : Image.candidates p env = [p] := by
  rw [Image.candidates, if_pos (List.contains_iff_mem.2 h)]

theorem startFrom_eq_ok_iff (hne : p.bytes ≠ []) : startFrom start p env = .ok image ↔
    ∃ c, StopsAt start (Image.candidates p env) c ∧ start c = .ok image := by
  have hempty : ¬p.isEmpty = true := by simpa [HostText.isEmpty] using hne
  rw [startFrom, if_neg hempty]
  by_cases hslash : Path.slash ∈ p.bytes
  · rw [if_pos (List.contains_iff_mem.2 hslash), candidates_of_slash hslash]
    simp only [stopsAt_singleton_iff]
    constructor
    · intro h
      exact ⟨p, ⟨rfl, not_isPassed_of_ok h⟩, h⟩
    · rintro ⟨c, ⟨rfl, -⟩, h⟩
      exact h
  · rw [if_neg (mt List.contains_iff_mem.1 hslash), startFirst_eq_ok_iff]

end Search

/-! ## Two paths of one file -/

theorem executable_congr (h : fs.locate p = fs.locate q) : executable fs p = executable fs q := by
  unfold executable
  rw [h]

theorem startable_congr (h : fs.locate p = fs.locate q) : ∀ limit, startable fs limit p = startable fs limit q
  | 0 => by
    unfold startable
    rw [executable_congr h]
  | limit + 1 => by
    unfold startable
    rw [executable_congr h]

/-- **Whether a file can be started does not depend on its path**, if only the path leads there. -/
theorem startOrRead_congr (h : fs.locate p = fs.locate q) : startOrRead fs args env p = startOrRead fs args env q := by
  unfold startOrRead startFile
  rw [startable_congr h, h]

/-! ## The handover -/

/-- Starts the file that a path leads to, and looks for no other. -/
def startItself (fs : FileSystem) (binary : Path) (args : List HostText) (env : Environment) :
    Except IoError Image := do
  checkTexts binary args env
  startOrRead fs args env binary

/-- A handover that ends as the binary or not at all. -/
structure KeepsTo (fs : FileSystem) (binary : Path) (args : List HostText) (env : Environment) : Prop where
  /-- It ends as no other file. -/
  only : ∀ image, replace fs binary args env = .ok image → fs.locate binary = .ok image.file
  /-- It does end as the binary where the system can start that. -/
  does : ∀ image, startItself fs binary args (lastOfEach env) = .ok image → replace fs binary args env = .ok image

theorem startItself_eq_ok_iff : startItself fs p args env = .ok image ↔
    checkTexts p args env = .ok () ∧ startOrRead fs args env p = .ok image := by
  rw [startItself, bind_eq_ok_iff]
  exact ⟨fun ⟨⟨⟩, htexts, hstart⟩ => ⟨htexts, hstart⟩, fun ⟨htexts, hstart⟩ => ⟨(), htexts, hstart⟩⟩

section Accepted

variable (h : checkBinary fs p = .ok ())

include h

theorem bytes_ne_nil_of_checkBinary : p.bytes ≠ [] := by
  unfold checkBinary at h
  split at h
  · rename_i node hstat
    obtain ⟨loc, hloc, -⟩ := FileSystem.stat_ok hstat
    exact FileSystem.bytes_ne_nil_of_locate hloc
  · split at h
    · cases h
    · cases h

/-- A binary that is accepted is started by its name. -/
theorem replace_eq_ok_iff : replace fs p args env = .ok image ↔ checkTexts p args (lastOfEach env) = .ok () ∧
    ∃ c, StopsAt (startOrRead fs args (lastOfEach env)) (candidates p (lastOfEach env)) c ∧
      startOrRead fs args (lastOfEach env) c = .ok image := by
  have hexec : replace fs p args env = .ok image ↔ exec fs p args (lastOfEach env) = .ok image := by
    rw [replace, h]
    exact mapError_eq_ok_iff
  rw [hexec, exec, bind_eq_ok_iff]
  constructor
  · rintro ⟨⟨⟩, htexts, hstart⟩
    exact ⟨htexts, (startFrom_eq_ok_iff (bytes_ne_nil_of_checkBinary h)).1 hstart⟩
  · rintro ⟨htexts, hstops⟩
    exact ⟨(), htexts, (startFrom_eq_ok_iff (bytes_ne_nil_of_checkBinary h)).2 hstops⟩

theorem keepsTo_of_stopsAt {c : Path}
    (hstops : StopsAt (startOrRead fs args (lastOfEach env)) (candidates p (lastOfEach env)) c)
    (hlocate : fs.locate c = fs.locate p) : KeepsTo fs p args env := by
  refine ⟨fun image himage => ?_, fun image himage => ?_⟩
  · obtain ⟨-, c', hstops', hc'⟩ := (replace_eq_ok_iff h).1 himage
    rw [← hlocate, hstops.unique hstops']
    exact (startOrRead_eq_ok hc').locate
  · obtain ⟨htexts, hstart⟩ := startItself_eq_ok_iff.1 himage
    exact (replace_eq_ok_iff h).2 ⟨htexts, c, hstops, (startOrRead_congr hlocate).trans hstart⟩

theorem keepsTo_of_nothing (hitself : ∀ image, startOrRead fs args (lastOfEach env) p ≠ .ok image)
    (hsearch : ∀ c image, StopsAt (startOrRead fs args (lastOfEach env)) (candidates p (lastOfEach env)) c →
      startOrRead fs args (lastOfEach env) c ≠ .ok image) : KeepsTo fs p args env := by
  refine ⟨fun image himage => ?_, fun image himage => absurd (startItself_eq_ok_iff.1 himage).2 (hitself image)⟩
  obtain ⟨-, c, hstops, hc⟩ := (replace_eq_ok_iff h).1 himage
  exact absurd hc (hsearch c image hstops)

/-- A path with a slash is where its search stops, unless it cannot be started. -/
theorem keepsTo_of_slash (hslash : Path.slash ∈ p.bytes) : KeepsTo fs p args env := by
  have honly : candidates p (lastOfEach env) = [p] := candidates_of_slash hslash
  by_cases hpassed : IsPassed (startOrRead fs args (lastOfEach env)) p
  · refine keepsTo_of_nothing h (fun image himage => not_isPassed_of_ok himage hpassed) fun c image hstops => ?_
    rw [honly, stopsAt_singleton_iff] at hstops
    exact absurd hpassed hstops.2
  · refine keepsTo_of_stopsAt h (c := p) ?_ rfl
    rw [honly]
    exact .here hpassed

/-- **A handover executes the file that it has checked exactly if the search leads there**, for every binary that is
accepted, all arguments and every environment.

What it ends as is what the search along the candidates for the name stops at.  A path with a slash is its own only
candidate, so there the handover ends as the binary or not at all, and it does so if the system can start the binary.
For a bare name the candidates are in the directories of the search path, wherever the binary is.  Then the handover
keeps to the binary only if the search stops at that very file, under whatever path; or if there is nothing to be
started, because a text cannot be handed over, or since neither the search nor the binary itself comes to anything. -/
theorem replace_keepsTo_iff :
    let start := startOrRead fs args (lastOfEach env)
    let stopsAt := StopsAt start (candidates p (lastOfEach env))
    (∀ image, replace fs p args env = .ok image ↔
      checkTexts p args (lastOfEach env) = .ok () ∧ ∃ c, stopsAt c ∧ start c = .ok image) ∧
    (Path.slash ∈ p.bytes → KeepsTo fs p args env) ∧
    (KeepsTo fs p args env ↔ (∃ c, stopsAt c ∧ fs.locate c = fs.locate p) ∨
      checkTexts p args (lastOfEach env) ≠ .ok () ∨
      (∀ image, start p ≠ .ok image) ∧ ∀ c image, stopsAt c → start c ≠ .ok image) := by
  intro start stopsAt
  refine ⟨fun image => replace_eq_ok_iff h, keepsTo_of_slash h, fun hkeeps => ?_, ?_⟩
  · by_cases htexts : checkTexts p args (lastOfEach env) = .ok ()
    · -- What the system can start decides: the binary by itself, another file by the search, or nothing at all.
      by_cases hitself : ∃ image, start p = .ok image
      · obtain ⟨image, himage⟩ := hitself
        have hdoes := hkeeps.does image (startItself_eq_ok_iff.2 ⟨htexts, himage⟩)
        obtain ⟨-, c, hstops, hc⟩ := (replace_eq_ok_iff h).1 hdoes
        exact Or.inl ⟨c, hstops, (startOrRead_eq_ok hc).locate.trans (startOrRead_eq_ok himage).locate.symm⟩
      · have hnone : ∀ image, start p ≠ .ok image := fun image himage => hitself ⟨image, himage⟩
        refine Or.inr (Or.inr ⟨hnone, fun c image hstops hc => ?_⟩)
        have honly := hkeeps.only image ((replace_eq_ok_iff h).2 ⟨htexts, c, hstops, hc⟩)
        have hsame : fs.locate p = fs.locate c := honly.trans (startOrRead_eq_ok hc).locate.symm
        exact hnone image ((startOrRead_congr hsame).trans hc)
    · exact Or.inr (Or.inl htexts)
  · rintro (⟨c, hstops, hlocate⟩ | htexts | ⟨hitself, hsearch⟩)
    · exact keepsTo_of_stopsAt h hstops hlocate
    · exact ⟨fun image himage => absurd ((replace_eq_ok_iff h).1 himage).1 htexts,
        fun image himage => absurd (startItself_eq_ok_iff.1 himage).1 htexts⟩
    · exact keepsTo_of_nothing h hitself hsearch

end Accepted

/-- So a search path with an empty field leads to the binary in the working directory, if the field before it leads to
no program of that name. -/
theorem replace_keepsTo_through_empty_field :
    let fs := FileSystem.empty.put ["kubectl"] (.file 0o755 machineMark)
    let env : Environment := [("PATH", "gone:")]
    checkBinary fs "kubectl" = .ok () ∧ KeepsTo fs "kubectl" [] env ∧
      replace fs "kubectl" [] env = .ok ⟨["kubectl"], false, [], env⟩ := by
  intro fs env
  have haccepted : checkBinary fs "kubectl" = .ok () := by decide +kernel
  have hstarts : startOrRead fs [] env "kubectl" = .ok ⟨["kubectl"], false, [], env⟩ := by decide +kernel
  have hstops : StopsAt (startOrRead fs [] env) (candidates "kubectl" env) "kubectl" :=
    .next ⟨.system .noEntry, by decide +kernel, rfl⟩ (.here (not_isPassed_of_ok hstarts))
  have hvalues : lastOfEach env = env := by decide +kernel
  obtain ⟨hends, -, hkeeps⟩ := @replace_keepsTo_iff fs "kubectl" [] env haccepted
  rw [hvalues] at hkeeps hends
  exact ⟨haccepted, hkeeps.2 (Or.inl ⟨_, hstops, rfl⟩), (hends _).2 ⟨by decide +kernel, _, hstops, hstarts⟩⟩

/-- A bare name is started from the search path, though it is the file in the working directory that was accepted; and
where the search path has none of that name, that file is not started at all. -/
theorem other_file_executed :
    let fs := ((FileSystem.empty.put ["kubectl"] (.file 0o755 machineMark)).put ["bin"] .directory).put
      ["kubectl", "bin"]
      (.file 0o755 machineMark)
    let elsewhere : Environment := [("PATH", "bin")]
    let nowhere : Environment := [("PATH", "gone")]
    checkBinary fs "kubectl" = .ok () ∧ fs.locate "kubectl" = .ok ["kubectl"] ∧
      replace fs "kubectl" [] elsewhere = .ok ⟨["kubectl", "bin"], false, [], elsewhere⟩ ∧
      startItself fs "kubectl" [] nowhere = .ok ⟨["kubectl"], false, [], nowhere⟩ ∧
      replace fs "kubectl" [] nowhere = .error (.failed "kubectl" (.system .noEntry)) := by
  decide +kernel

end Image

end KubectlMatch
