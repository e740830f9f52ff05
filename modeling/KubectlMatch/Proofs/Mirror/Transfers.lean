import KubectlMatch.Mirror.Transfer
import KubectlMatch.Proofs.Files.Operations
/-!
# What a transfer leaves

A transfer that started with an empty file at a free location has, at every later time, changed the files at that
location only (`Holds`), until it ends: with a file at the destination's place if it succeeded, and otherwise with
nothing changed, or with the unfinished file if the system did not let go of it.  Whether it succeeds is decided by its
operations in a row, the first failure being the result (`outcome`), but nobody hears of the last piece being lost.
-/
namespace KubectlMatch

namespace FileSystem

variable {base fs fs' : FileSystem} {loc : Location} {pieces : List Bytes} {mode : Nat} {content : Bytes}

/-- Writes pieces at the end of the file at a location, one after the other. -/
def appendAll (loc : Location) : List Bytes → FileSystem → Except IoError FileSystem
  | [], fs => .ok fs
  | chunk :: rest, fs => do appendAll loc rest (← fs.append loc chunk)

/-- Does so until a piece is to be written after one that was lost. -/
def writeAll (loc : Location) : Option IoError → List Bytes → FileSystem → Except IoError FileSystem
  | _, [], fs => .ok fs
  | some e, _ :: _, _ => .error e
  | none, chunk :: rest, fs =>
    match fs.append loc chunk with
    | .ok fs => writeAll loc none rest fs
    | .error e => writeAll loc (some e) rest fs

/-- All pieces can be written but the last one. -/
inductive LosesLast (loc : Location) : List Bytes → FileSystem → FileSystem → Prop
  | last {chunk : Bytes} {fs : FileSystem} {e : IoError} (happend : fs.append loc chunk = .error e) :
      LosesLast loc [chunk] fs fs
  | next {chunk : Bytes} {rest : List Bytes} {fs fs₁ fs' : FileSystem} (happend : fs.append loc chunk = .ok fs₁)
      (hrest : LosesLast loc rest fs₁ fs') : LosesLast loc (chunk :: rest) fs fs'

/-- **It passes for a success that the last piece is lost**, and only that. -/
theorem writeAll_eq_ok_iff : ∀ {pieces : List Bytes} {fs : FileSystem}, writeAll loc none pieces fs = .ok fs' ↔
    appendAll loc pieces fs = .ok fs' ∨ LosesLast loc pieces fs fs'
  | [], fs => ⟨Or.inl, fun h => h.resolve_right nofun⟩
  | chunk :: rest, fs => by
    cases happend : fs.append loc chunk with
    | ok fs₁ =>
      rw [writeAll, happend, appendAll, happend]
      refine writeAll_eq_ok_iff.trans (or_congr Iff.rfl ⟨.next happend, fun h => ?_⟩)
      cases h with
      | last hnot => cases happend.symm.trans hnot
      | next hfirst hrest =>
        cases happend.symm.trans hfirst
        exact hrest
    | error e =>
      rw [writeAll, happend, appendAll, happend]
      refine ⟨fun h => Or.inr ?_, fun h => ?_⟩
      · cases rest with
        | nil =>
          cases h
          exact .last happend
        | cons next rest => cases h
      · rcases h with hnone | ⟨hlast⟩ | ⟨hfirst, -⟩
        · cases hnone
        · rfl
        · cases happend.symm.trans hfirst

theorem appendAll_ok (hne : loc ≠ []) (h : appendAll loc pieces (base.put loc (.file mode content)) = .ok fs') :
    fs' = base.put loc (.file mode (content ++ pieces.flatten)) := by
  induction pieces generalizing content with
  | nil =>
    cases h
    rw [List.flatten_nil, List.append_nil]
  | cons chunk rest ih =>
    obtain ⟨fs₁, happend, hrest⟩ := bind_eq_ok_iff.1 h
    have hput := append_ok (nodeAt?_put_self hne) happend
    rw [put_put] at hput
    rw [hput] at hrest
    rw [ih hrest, List.flatten_cons, List.append_assoc]

end FileSystem

namespace Transfer

variable {base fs fs' : FileSystem} {content : Bytes} {unfinished : Location} {destination : Path} {t : Transfer}

/-! ## The result -/

/-- The last two operations. -/
def installed (t : Transfer) (fs : FileSystem) : Except IoError FileSystem := do
  let fs ← fs.setMode t.unfinished installedMode
  fs.rename t.unfinished t.destination

/-- What becomes of a complete body. -/
def judged (t : Transfer) (body : Bytes) (fs : FileSystem) : Except DownloadError FileSystem :=
  if Checksum.ofBytes body = t.expected then (t.installed fs).mapError .io
  else .error (.checksumMismatch t.url t.expected.text (Checksum.ofBytes body).text)

/-- What a transfer comes to from where it is, as a sequence that stops at the first failure. -/
def outcome (t : Transfer) (fs : FileSystem) : Except DownloadError FileSystem :=
  match t.stage with
  | .receiving rest => do
    let fs ← (fs.writeAll t.unfinished t.lost? rest).mapError .io
    t.ending.mapError .network
    (fs.permit .sync t.unfinished).mapError .io
    t.judged (t.received ++ rest.flatten) fs
  | .comparing => t.judged t.received fs
  | .makingExecutable => (t.installed fs).mapError .io
  | .installing => (fs.rename t.unfinished t.destination).mapError .io
  | .discarding cause => .error cause
  | .ended result => result.map fun _ => fs

/-! ## The steps -/

/-- What one step can do.  What goes wrong is what the transfer comes to, and leaves the files alone. -/
inductive Moves (t : Transfer) (fs : FileSystem) : Transfer → FileSystem → Prop
  | receive {chunk : Bytes} {rest : List Bytes} {fs' : FileSystem} (hstage : t.stage = .receiving (chunk :: rest))
      (hlost : t.lost? = none) (happend : fs.append t.unfinished chunk = .ok fs') :
      Moves t fs { t with received := t.received ++ chunk, stage := .receiving rest } fs'
  | lose {chunk : Bytes} {rest : List Bytes} {e : IoError} (hstage : t.stage = .receiving (chunk :: rest))
      (hlost : t.lost? = none) (happend : fs.append t.unfinished chunk = .error e) :
      Moves t fs { t with received := t.received ++ chunk, lost? := some e, stage := .receiving rest } fs
  | complete (hstage : t.stage = .receiving []) (hending : t.ending = .ok ())
      (hsync : fs.permit .sync t.unfinished = .ok ()) : Moves t fs { t with stage := .comparing } fs
  | accept (hstage : t.stage = .comparing) (hsum : Checksum.ofBytes t.received = t.expected) :
      Moves t fs { t with stage := .makingExecutable } fs
  | makeExecutable {fs' : FileSystem} (hstage : t.stage = .makingExecutable)
      (hmode : fs.setMode t.unfinished installedMode = .ok fs') : Moves t fs { t with stage := .installing } fs'
  | install {fs' : FileSystem} (hstage : t.stage = .installing)
      (hrename : fs.rename t.unfinished t.destination = .ok fs') : Moves t fs { t with stage := .ended (.ok ()) } fs'
  | fail {cause : DownloadError} (hbusy : 1 < t.stepsLeft) (hcause : t.outcome fs = .error cause) :
      Moves t fs { t with stage := .discarding cause } fs
  | discard {cause : DownloadError} (hstage : t.stage = .discarding cause) :
      Moves t fs { t with stage := .ended (.error cause) } (fs.discard t.unfinished)
  | stay {result : Except DownloadError Unit} (hstage : t.stage = .ended result) : Moves t fs t fs

theorem moves_step (t : Transfer) (fs : FileSystem) : t.Moves fs (t.step fs).1 (t.step fs).2 := by
  cases hstage : t.stage with
  | receiving rest =>
    have hbusy : 1 < t.stepsLeft := by simp [stepsLeft, hstage]
    cases rest with
    | nil =>
      cases hending : t.ending with
      | error e =>
        simp only [step, hstage, hending]
        refine .fail hbusy ?_
        rw [outcome, hstage]
        simp only [FileSystem.writeAll, hending]
        rfl
      | ok u =>
        cases hsync : fs.permit .sync t.unfinished with
        | error e =>
          simp only [step, hstage, hending, hsync]
          refine .fail hbusy ?_
          rw [outcome, hstage]
          simp only [FileSystem.writeAll, hending]
          show (fs.permit .sync t.unfinished).mapError DownloadError.io >>= _ = _
          rw [hsync]
          rfl
        | ok u =>
          simp only [step, hstage, hending, hsync]
          exact .complete hstage hending hsync
    | cons chunk rest =>
      cases hlost : t.lost? with
      | some e =>
        simp only [step, hstage, hlost]
        refine .fail hbusy ?_
        rw [outcome, hstage]
        simp only [hlost, FileSystem.writeAll]
        rfl
      | none =>
        cases happend : fs.append t.unfinished chunk with
        | error e =>
          simp only [step, hstage, hlost, happend]
          exact .lose hstage hlost happend
        | ok fs₁ =>
          simp only [step, hstage, hlost, happend]
          rw [← hlost]
          exact .receive hstage hlost happend
  | comparing =>
    by_cases hsum : Checksum.ofBytes t.received = t.expected
    · simp only [step, hstage, if_pos hsum]
      exact .accept hstage hsum
    · simp only [step, hstage, if_neg hsum]
      refine .fail (by simp [stepsLeft, hstage]) ?_
      rw [outcome, hstage]
      exact if_neg hsum
  | makingExecutable =>
    cases hmode : fs.setMode t.unfinished installedMode with
    | error e =>
      simp only [step, hstage, hmode]
      refine .fail (by simp [stepsLeft, hstage]) ?_
      rw [outcome, hstage]
      simp only [installed, hmode]
      rfl
    | ok fs₁ =>
      simp only [step, hstage, hmode]
      exact .makeExecutable hstage hmode
  | installing =>
    cases hrename : fs.rename t.unfinished t.destination with
    | error e =>
      simp only [step, hstage, hrename]
      refine .fail (by simp [stepsLeft, hstage]) ?_
      rw [outcome, hstage]
      simp only [hrename]
      rfl
    | ok fs₁ =>
      simp only [step, hstage, hrename]
      exact .install hstage hrename
  | discarding cause =>
    simp only [step, hstage]
    exact .discard hstage
  | ended result =>
    simp only [step, hstage]
    exact .stay hstage

/-! ## The result is what the operations come to -/

/-- A step does not change what a transfer comes to. -/
theorem Moves.outcome_eq {t' : Transfer} (h : t.Moves fs t' fs') : t'.outcome fs' = t.outcome fs := by
  cases h with
  | receive hstage hlost happend =>
    rw [outcome, outcome, hstage]
    simp only [FileSystem.writeAll, hlost, happend, List.flatten_cons, List.append_assoc]
    rfl
  | lose hstage hlost happend =>
    rw [outcome, outcome, hstage]
    simp only [FileSystem.writeAll, hlost, happend, List.flatten_cons, List.append_assoc]
    rfl
  | complete hstage hending hsync =>
    have hcome : t.outcome fs = t.judged (t.received ++ []) fs := by
      rw [outcome, hstage]
      simp only [FileSystem.writeAll, hending]
      show (fs.permit .sync t.unfinished).mapError DownloadError.io >>= _ = _
      rw [hsync]
      rfl
    rw [hcome, List.append_nil]
    rfl
  | accept hstage hsum =>
    have hcome : t.outcome fs = t.judged t.received fs := by rw [outcome, hstage]
    rw [hcome, judged, if_pos hsum]
    rfl
  | makeExecutable hstage hmode =>
    have hcome : t.outcome fs = (t.installed fs).mapError .io := by rw [outcome, hstage]
    rw [hcome, installed, hmode]
    rfl
  | install hstage hrename =>
    have hcome : t.outcome fs = (fs.rename t.unfinished t.destination).mapError .io := by rw [outcome, hstage]
    rw [hcome, hrename]
    rfl
  | fail _ hcause =>
    rw [hcause]
    rfl
  | @discard cause hstage =>
    have hcome : t.outcome fs = .error cause := by rw [outcome, hstage]
    rw [hcome]
    rfl
  | stay _ => rfl

theorem outcome_steps : ∀ n (t : Transfer) (fs : FileSystem), (steps n t fs).1.outcome (steps n t fs).2 = t.outcome fs
  | 0, _, _ => rfl
  | n + 1, t, fs => by
    rw [steps, outcome_steps n]
    exact (moves_step t fs).outcome_eq

/-! ## What is changed meanwhile -/

/-- A file is at the destination's place, and nothing else is changed. -/
def Installed (base : FileSystem) (destination : Path) (content : Bytes) (fs : FileSystem) : Prop :=
  ∃ target, base.place destination = .ok (some target) ∧ target.asDirectory = false ∧
    base.isDirectoryAt target.location = false ∧ fs = base.put target.location (.file installedMode content)

/-- Nothing is changed, but for the unfinished file if the system does not let go of it. -/
def Abandoned (base : FileSystem) (unfinished : Location) (fs : FileSystem) : Prop :=
  fs = base ∨ (base.refusal? .remove unfinished).isSome ∧ ∃ mode content, fs = base.put unfinished (.file mode content)

/-- What a transfer has made of the files that it started on, at every stage. -/
def Holds (base : FileSystem) (t : Transfer) (fs : FileSystem) : Prop :=
  match t.stage with
  | .receiving _ | .comparing | .makingExecutable | .discarding _ =>
    ∃ mode content, fs = base.put t.unfinished (.file mode content)
  | .installing => ∃ content, fs = base.put t.unfinished (.file installedMode content)
  | .ended (.error _) => Abandoned base t.unfinished fs
  | .ended (.ok ()) => ∃ content, Installed base t.destination content fs

/-- Until it ends, a transfer has changed one location only. -/
theorem Holds.exists_put (h : t.Holds base fs) (hbusy : 1 < t.stepsLeft) :
    ∃ mode content, fs = base.put t.unfinished (.file mode content) := by
  unfold Holds at h
  unfold stepsLeft at hbusy
  split at h
  · exact h
  · exact h
  · exact h
  · exact h
  · exact ⟨_, h⟩
  · rename_i hstage
    rw [hstage] at hbusy
    cases hbusy
  · rename_i hstage
    rw [hstage] at hbusy
    cases hbusy

/-- Moving the complete file to the destination leaves nothing at its first location. -/
theorem installed_of_rename (hfree : base.nodeAt? unfinished = none)
    (h : (base.put unfinished (.file installedMode content)).rename unfinished destination = .ok fs') :
    Installed base destination content fs' := by
  have hne := FileSystem.ne_nil_of_nodeAt?_eq_none hfree
  obtain ⟨target, hplace, hslash, hdir, rfl⟩ := FileSystem.rename_ok (FileSystem.nodeAt?_put_self hne) h
  refine ⟨target, (FileSystem.keepsTree_of_put hne).place hplace, hslash, ?_, ?_⟩
  · rw [Bool.eq_false_iff]
    intro hbase
    rw [(FileSystem.keepsTree_put_free hfree).isDirectoryAt hbase] at hdir
    cases hdir
  · by_cases hself : target.location = unfinished
    · rw [if_pos hself, hself]
    · rw [if_neg hself, FileSystem.remove_put_of_ne hself, FileSystem.remove_put hfree]

/-- What an installation shows: the file at the destination's place, and everything else as before.  The destination
leads there unless a link stood there through which the way to it goes. -/
theorem Installed.shows (h : Installed base destination content fs) :
    ∃ target, base.place destination = .ok (some target) ∧
      fs.nodeAt? target.location = some (.file installedMode content) ∧
      (∀ loc, loc ≠ target.location → fs.nodeAt? loc = base.nodeAt? loc) ∧
      ((∀ aim, base.nodeAt? target.location ≠ some (.link aim)) ∨
          (base.remove target.location).place destination = .ok (some target) →
        fs.locate destination = .ok target.location) := by
  obtain ⟨target, hplace, hslash, hdir, rfl⟩ := h
  have hne := FileSystem.ne_nil_of_isDirectoryAt_eq_false hdir
  have hnode : (base.put target.location (.file installedMode content)).nodeAt? target.location = _ :=
    FileSystem.nodeAt?_put_self hne
  refine ⟨target, hplace, hnode, fun loc hl => FileSystem.nodeAt?_put_of_ne hne hl, fun hway => ?_⟩
  have hafter : (base.put target.location (.file installedMode content)).place destination = .ok (some target) := by
    rcases hway with hlink | hremoved
    · refine (FileSystem.keepsTree_put hne fun node hold => ?_).place hplace
      cases node with
      | directory =>
        rw [FileSystem.isDirectoryAt_iff.2 hold] at hdir
        cases hdir
      | file mode content => rfl
      | link aim => exact absurd hold (hlink aim)
    · exact (FileSystem.keepsTree_put_of_remove hne).place hremoved
  refine FileSystem.locate_of_place hafter hnode nofun fun hends => ?_
  rw [← (FileSystem.place_eq_some_iff.1 hplace).asDirectory, hslash] at hends
  cases hends

/-- **A step keeps what holds.** -/
theorem Holds.of_moves {t' : Transfer} (hfree : base.nodeAt? t.unfinished = none) (h : t.Holds base fs)
    (hmove : t.Moves fs t' fs') : t'.Holds base fs' := by
  have hne := FileSystem.ne_nil_of_nodeAt?_eq_none hfree
  cases hmove with
  | receive hstage _ happend =>
    rw [Holds, hstage] at h
    obtain ⟨mode, content, rfl⟩ := h
    have hput := FileSystem.append_ok (FileSystem.nodeAt?_put_self hne) happend
    rw [FileSystem.put_put] at hput
    exact ⟨mode, _, hput⟩
  | lose hstage _ _ =>
    rw [Holds, hstage] at h
    exact h
  | complete hstage _ _ =>
    rw [Holds, hstage] at h
    exact h
  | accept hstage _ =>
    rw [Holds, hstage] at h
    exact h
  | makeExecutable hstage hmode =>
    rw [Holds, hstage] at h
    obtain ⟨mode, content, rfl⟩ := h
    have hput := FileSystem.setMode_ok (FileSystem.nodeAt?_put_self hne) hmode
    rw [FileSystem.put_put] at hput
    exact ⟨content, hput⟩
  | install hstage hrename =>
    rw [Holds, hstage] at h
    obtain ⟨content, rfl⟩ := h
    exact ⟨content, installed_of_rename hfree hrename⟩
  | fail hbusy _ => exact h.exists_put hbusy
  | discard hstage =>
    rw [Holds, hstage] at h
    obtain ⟨mode, content, rfl⟩ := h
    show Abandoned base t.unfinished (FileSystem.discard _ _)
    unfold FileSystem.discard
    split
    · rename_i hrefused
      exact Or.inr ⟨hrefused, mode, content, rfl⟩
    · exact Or.inl (FileSystem.remove_put hfree)
  | stay _ => exact h

/-- The same artifact, at the same location, for the same destination. -/
def SameTask (t t' : Transfer) : Prop :=
  t'.unfinished = t.unfinished ∧ t'.destination = t.destination ∧ t'.expected = t.expected

theorem Moves.sameTask {t' : Transfer} (h : t.Moves fs t' fs') : t.SameTask t' := by
  cases h <;> exact ⟨rfl, rfl, rfl⟩

theorem sameTask_steps : ∀ n (t : Transfer) (fs : FileSystem), t.SameTask (steps n t fs).1
  | 0, _, _ => ⟨rfl, rfl, rfl⟩
  | n + 1, t, fs => by
    obtain ⟨hunfinished, hdestination, hexpected⟩ := (moves_step t fs).sameTask
    rw [steps]
    obtain ⟨hu, hd, he⟩ := sameTask_steps n (t.step fs).1 (t.step fs).2
    exact ⟨hu.trans hunfinished, hd.trans hdestination, he.trans hexpected⟩

/-- **A whole run keeps what holds.** -/
theorem Holds.steps : ∀ n {t : Transfer} {fs : FileSystem}, base.nodeAt? t.unfinished = none → t.Holds base fs →
    (steps n t fs).1.Holds base (steps n t fs).2
  | 0, _, _, _, h => h
  | n + 1, t, fs, hfree, h => by
    have hmove := moves_step t fs
    have hfree' : base.nodeAt? (t.step fs).1.unfinished = none := by
      rw [hmove.sameTask.1]
      exact hfree
    rw [Transfer.steps]
    exact Holds.steps n hfree' (h.of_moves hfree hmove)

theorem stage_of_result? {result : Except DownloadError Unit} (h : t.result? = some result) :
    t.stage = .ended result := by
  unfold result? at h
  split at h
  · rename_i hstage
    rw [hstage, Option.some.inj h]
  · cases h

theorem step_of_ended (h : t.stepsLeft = 0) : t.step fs = (t, fs) := by
  obtain ⟨result, hresult⟩ := Option.isSome_iff_exists.1 (isSome_result? h)
  rw [step, stage_of_result? hresult]

/-- A run is at its end after the steps that it is given. -/
theorem stage_steps_stepsLeft (t : Transfer) (fs : FileSystem) :
    (steps t.stepsLeft t fs).1.stage = .ended (t.run fs).1 := by
  refine stage_of_result? ?_
  unfold run
  exact (Option.some_get _).symm

/-- **The result of a run** is what its operations come to. -/
theorem run_eq_ok_iff : t.run fs = (.ok (), fs') ↔ t.outcome fs = .ok fs' := by
  have hcome : (t.run fs).1.map (fun _ => (t.run fs).2) = t.outcome fs := by
    rw [← outcome_steps t.stepsLeft, outcome, stage_steps_stepsLeft]
    rfl
  rw [← hcome]
  rcases t.run fs with ⟨_ | ⟨⟩, after⟩
  · exact ⟨nofun, nofun⟩
  · exact ⟨fun h => by cases h; rfl, fun h => by cases h; rfl⟩

/-- A run that fails leaves the files that the unfinished file was put into, and that one only if it has to. -/
theorem run_error {cause : DownloadError} (hfree : base.nodeAt? t.unfinished = none) (h : t.Holds base fs)
    (hrun : (t.run fs).1 = .error cause) : Abandoned base t.unfinished (t.run fs).2 := by
  have hend := h.steps t.stepsLeft hfree
  rw [Holds, stage_steps_stepsLeft, hrun] at hend
  rw [← (sameTask_steps t.stepsLeft t fs).1]
  exact hend

/-- A run that succeeds leaves a file at the destination's place. -/
theorem run_ok (hfree : base.nodeAt? t.unfinished = none) (h : t.Holds base fs) (hrun : (t.run fs).1 = .ok ()) :
    ∃ content, Installed base t.destination content (t.run fs).2 := by
  have hend := h.steps t.stepsLeft hfree
  rw [Holds, stage_steps_stepsLeft, hrun] at hend
  rw [← (sameTask_steps t.stepsLeft t fs).2.1]
  exact hend

end Transfer

end KubectlMatch
