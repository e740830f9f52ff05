import Mathlib.Data.List.Induction
import KubectlMatch.Cache.Store
import KubectlMatch.Proofs.Mirror.Fetching
/-!
# Downloads that share their files

A download is a transfer that has made its unfinished file.  It has that file for itself as long as it is busy
(`Carries`), and only the last step of one that goes well touches anything else.  Downloads take their steps in any
order, and begin at any time (`Shared.next`); between their steps directories are made, and the system changes its mind
about what it refuses.
-/
namespace KubectlMatch

/-- A download of a version: what is delivered to it, and how far its transfer is. -/
structure Download where
  version : Version
  delivery : Except DownloadError Http.Received
  progress : Transfer

namespace Download

variable {dl : Download} {fs fs' : FileSystem} {t' : Transfer}

/-- The body is delivered whole. -/
def Delivered (dl : Download) (body : Bytes) : Prop :=
  ∃ received, dl.delivery = .ok received ∧ received.ending Mirror.limit = .ok () ∧ received.chunks.flatten = body

/-- What a download has made sure of, at every stage. -/
def Sound (dl : Download) : Prop :=
  match dl.progress.stage with
  | .receiving rest => ∃ received, dl.delivery = .ok received ∧ dl.progress.ending = received.ending Mirror.limit ∧
      dl.progress.received ++ rest.flatten = received.chunks.flatten
  | .comparing => dl.Delivered dl.progress.received
  | .makingExecutable | .installing | .ended (.ok ()) =>
    dl.Delivered dl.progress.received ∧ Checksum.ofBytes dl.progress.received = dl.progress.expected
  | .discarding _ | .ended (.error _) => True

/-- A file holds all that a download has received, if nothing of it was lost. -/
def Filled (progress : Transfer) (content : Bytes) : Prop := progress.lost? = none → content = progress.received

/-- The file of a download, at each stage. -/
def Fits (dl : Download) (mode : Nat) (content : Bytes) : Prop :=
  match dl.progress.stage with
  | .receiving _ | .comparing | .makingExecutable => Filled dl.progress content
  | .installing => Filled dl.progress content ∧ mode = Transfer.installedMode
  | .discarding _ | .ended _ => True

/-- A busy download has a file for itself, with all that it has received. -/
structure Carries (dl : Download) (fs : FileSystem) : Prop where
  sound : dl.Sound
  file : 0 < dl.progress.stepsLeft → ∃ mode content,
    fs.nodeAt? dl.progress.unfinished = some (.file mode content) ∧ dl.Fits mode content

/-- What others do elsewhere is nothing to a download. -/
theorem Carries.of_same (h : dl.Carries fs)
    (hsame : 0 < dl.progress.stepsLeft → fs'.nodeAt? dl.progress.unfinished = fs.nodeAt? dl.progress.unfinished) :
    dl.Carries fs' := by
  refine ⟨h.sound, fun hbusy => ?_⟩
  rw [hsame hbusy]
  exact h.file hbusy

/-- The download after a step. -/
def goOn (dl : Download) (progress : Transfer) : Download := { dl with progress }

/-- **A step changes a download's own file only**, unless it is the last step of one that goes well: that one puts the
file at the destination's place. -/
theorem Carries.of_moves (h : dl.Carries fs) (hbusy : 0 < dl.progress.stepsLeft)
    (haway : ∀ target, fs.place dl.progress.destination = .ok (some target) → target.location ≠ dl.progress.unfinished)
    (hmove : dl.progress.Moves fs t' fs') :
    (dl.goOn t').Carries fs' ∧
      ((∀ loc, loc ≠ dl.progress.unfinished → fs'.nodeAt? loc = fs.nodeAt? loc) ∨
        t'.stage = .ended (.ok ()) ∧ ∃ target content, fs.place dl.progress.destination = .ok (some target) ∧
          fs'.nodeAt? target.location = some (.file 0o755 content) ∧ Filled t' content ∧
          ∀ loc, loc ≠ dl.progress.unfinished → loc ≠ target.location → fs'.nodeAt? loc = fs.nodeAt? loc) := by
  obtain ⟨hsound, hfile⟩ := h
  obtain ⟨mode, content, hnode, hfits⟩ := hfile hbusy
  have hne : dl.progress.unfinished ≠ [] := by
    intro hnil
    rw [hnil] at hnode
    cases hnode
  cases hmove with
  | receive hstage hlost happend =>
    rw [Sound, hstage] at hsound
    rw [Fits, hstage] at hfits
    obtain ⟨received, hdelivery, hending, hbody⟩ := hsound
    have hput := FileSystem.append_ok hnode happend
    rw [hput]
    refine ⟨⟨⟨received, hdelivery, hending, ?_⟩, fun _ => ⟨mode, _, FileSystem.nodeAt?_put_self hne, fun _ => ?_⟩⟩,
      Or.inl fun loc hloc => FileSystem.nodeAt?_put_of_ne hne hloc⟩
    · rw [← hbody, List.flatten_cons]
      exact List.append_assoc ..
    · rw [hfits hlost]
      exact rfl
  | lose hstage _ _ =>
    rw [Sound, hstage] at hsound
    obtain ⟨received, hdelivery, hending, hbody⟩ := hsound
    refine ⟨⟨⟨received, hdelivery, hending, ?_⟩, fun _ => ⟨mode, content, hnode, nofun⟩⟩, Or.inl fun _ _ => rfl⟩
    rw [← hbody, List.flatten_cons]
    exact List.append_assoc ..
  | complete hstage hending _ =>
    rw [Sound, hstage] at hsound
    rw [Fits, hstage] at hfits
    obtain ⟨received, hdelivery, hsame, hbody⟩ := hsound
    rw [List.flatten_nil, List.append_nil] at hbody
    exact ⟨⟨⟨received, hdelivery, hsame.symm.trans hending, hbody.symm⟩, fun _ => ⟨mode, content, hnode, hfits⟩⟩,
      Or.inl fun _ _ => rfl⟩
  | accept hstage hsum =>
    rw [Sound, hstage] at hsound
    rw [Fits, hstage] at hfits
    exact ⟨⟨⟨hsound, hsum⟩, fun _ => ⟨mode, content, hnode, hfits⟩⟩, Or.inl fun _ _ => rfl⟩
  | makeExecutable hstage hmode =>
    rw [Sound, hstage] at hsound
    rw [Fits, hstage] at hfits
    have hput := FileSystem.setMode_ok hnode hmode
    rw [hput]
    exact ⟨⟨hsound, fun _ => ⟨_, content, FileSystem.nodeAt?_put_self hne, hfits, rfl⟩⟩,
      Or.inl fun loc hloc => FileSystem.nodeAt?_put_of_ne hne hloc⟩
  | install hstage hrename =>
    rw [Sound, hstage] at hsound
    rw [Fits, hstage] at hfits
    obtain ⟨target, hplace, -, hdir, hfs'⟩ := FileSystem.rename_ok hnode hrename
    have htarget := FileSystem.ne_nil_of_isDirectoryAt_eq_false hdir
    rw [if_neg (haway target hplace), hfits.2] at hfs'
    rw [hfs']
    refine ⟨⟨hsound, fun h => absurd h (Nat.lt_irrefl 0)⟩,
      Or.inr ⟨rfl, target, content, hplace, ?_, hfits.1, fun loc hloc hother => ?_⟩⟩
    · rw [FileSystem.nodeAt?_remove_of_ne (haway target hplace)]
      exact FileSystem.nodeAt?_put_self htarget
    · rw [FileSystem.nodeAt?_remove_of_ne hloc, FileSystem.nodeAt?_put_of_ne htarget hother]
  | fail _ _ =>
    exact ⟨⟨trivial, fun _ => ⟨mode, content, hnode, trivial⟩⟩, Or.inl fun _ _ => rfl⟩
  | discard hstage =>
    exact ⟨⟨trivial, fun h => absurd h (Nat.lt_irrefl 0)⟩, Or.inl fun loc hloc => FileSystem.nodeAt?_discard_of_ne hloc⟩
  | stay hstage =>
    rw [Transfer.stepsLeft, hstage] at hbusy
    cases hbusy

theorem carries_transfer (v : Version) (url : String) (expected : Checksum)
    (delivery : Except DownloadError Http.Received) (destination : Path) {unfinished : Location}
    (hne : unfinished ≠ []) :
    Carries ⟨v, delivery, Mirror.transfer url expected destination unfinished delivery⟩
      (fs.put unfinished (.file 0o600 [])) := by
  cases delivery with
  | error e => exact ⟨trivial, fun _ => ⟨_, _, FileSystem.nodeAt?_put_self hne, trivial⟩⟩
  | ok received =>
    refine ⟨⟨received, rfl, rfl, ?_⟩, fun _ => ⟨_, _, FileSystem.nodeAt?_put_self hne, fun _ => rfl⟩⟩
    rw [← Mirror.flatten_written received.chunks]
    exact List.nil_append _

end Download

/-- The files that downloads share, and the downloads that have begun. -/
structure Shared where
  files : FileSystem
  downloads : List Download

/-- What happens next: a directory is made, another download makes its unfinished file, one takes a step, or from now on
the system refuses other things than before. -/
inductive Turn where
  | makeDirectory (p : Path)
  | begin (v : Version) (url : String) (expected : Checksum) (delivery : Except DownloadError Http.Received)
  | advance (i : Nat)
  | refuse (refusal? : FileAction → Location → Option Errno)

namespace Shared

variable {cache : LocalCache} {first : FileSystem} {s s' : Shared} {dl : Download} {v : Version} {i : Nat} {turn : Turn}
  {turns : List Turn} {fs : FileSystem} {unfinished : Location} {url : String} {expected : Checksum}
  {delivery : Except DownloadError Http.Received}

/-- The downloads with another one, if its file could be made. -/
def joined (s : Shared) (cache : LocalCache) (v : Version) (url : String) (expected : Checksum)
    (delivery : Except DownloadError Http.Received) : Except IoError (Location × FileSystem) → Shared
  | .error _ => s
  | .ok (unfinished, files) =>
    ⟨files, s.downloads ++ [⟨v, delivery, Mirror.transfer url expected (cache.entryPath v) unfinished delivery⟩]⟩

/-- A step of a download. -/
def advance (s : Shared) (i : Nat) : Shared :=
  match s.downloads[i]? with
  | none => s
  | some dl => ⟨(dl.progress.step s.files).2, s.downloads.set i (dl.goOn (dl.progress.step s.files).1)⟩

/-- One turn. -/
def next (cache : LocalCache) (s : Shared) : Turn → Shared
  | .makeDirectory p => { s with files := (s.files.makeDir p).toOption.getD s.files }
  | .begin v url expected delivery => s.joined cache v url expected delivery
      (s.files.createTemporary (Mirror.directoryOf (cache.entryPath v)) Mirror.unfinishedStart)
  | .advance i => s.advance i
  | .refuse refusal? => { s with files := { s.files with refusal? } }

theorem next_begin_ok (h : s.files.createTemporary (Mirror.directoryOf (cache.entryPath v)) Mirror.unfinishedStart =
    .ok (unfinished, fs)) : s.next cache (.begin v url expected delivery) =
      s.joined cache v url expected delivery (.ok (unfinished, fs)) := by
  rw [next, h]

/-- What a turn can do. -/
inductive Goes (cache : LocalCache) (s : Shared) : Turn → Shared → Prop
  | makeDirectory {p : Path} {loc : Location} (hfree : s.files.nodeAt? loc = none) :
      Goes cache s (.makeDirectory p) ⟨s.files.put loc .directory, s.downloads⟩
  | begin {v : Version} {url : String} {expected : Checksum} {delivery : Except DownloadError Http.Received}
      {unfinished : Location} {fs : FileSystem} (hcreate : s.files.createTemporary
        (Mirror.directoryOf (cache.entryPath v)) Mirror.unfinishedStart = .ok (unfinished, fs)) :
      Goes cache s (.begin v url expected delivery) (s.joined cache v url expected delivery (.ok (unfinished, fs)))
  | advance {i : Nat} {dl : Download} {fs : FileSystem} {progress : Transfer} (hdl : s.downloads[i]? = some dl)
      (hbusy : 0 < dl.progress.stepsLeft) (hmove : dl.progress.Moves s.files progress fs) :
      Goes cache s (.advance i) ⟨fs, s.downloads.set i (dl.goOn progress)⟩
  | refuse {refusal? : FileAction → Location → Option Errno} :
      Goes cache s (.refuse refusal?) ⟨{ s.files with refusal? }, s.downloads⟩
  | pass {turn : Turn} : Goes cache s turn s

theorem goes_next (turn : Turn) : s.Goes cache turn (s.next cache turn) := by
  cases turn with
  | makeDirectory p =>
    rw [next]
    cases hmake : s.files.makeDir p with
    | error e => exact .pass
    | ok fs =>
      obtain ⟨target, -, hfree, rfl⟩ := FileSystem.makeDir_ok hmake
      exact .makeDirectory hfree
  | refuse refusal? => exact .refuse
  | begin v url expected delivery =>
    cases hcreate : s.files.createTemporary (Mirror.directoryOf (cache.entryPath v)) Mirror.unfinishedStart with
    | error e =>
      rw [next, hcreate, joined]
      exact .pass
    | ok created =>
      rw [next_begin_ok hcreate]
      exact .begin hcreate
  | advance i =>
    cases hdl : s.downloads[i]? with
    | none =>
      rw [next, advance, hdl]
      exact .pass
    | some dl =>
      rw [next, advance, hdl]
      by_cases hbusy : 0 < dl.progress.stepsLeft
      · exact .advance hdl hbusy (Transfer.moves_step dl.progress s.files)
      · -- A download that has ended stays as it is.
        obtain ⟨hi, hget⟩ := List.getElem?_eq_some_iff.1 hdl
        have hself : s.downloads.set i dl = s.downloads := by
          rw [← hget, List.set_getElem_self]
        dsimp only
        rw [Transfer.step_of_ended (Nat.eq_zero_of_not_pos hbusy), show dl.goOn dl.progress = dl from rfl, hself]
        exact .pass

/-- Any turns, one after the other. -/
def after (cache : LocalCache) (turns : List Turn) (s : Shared) : Shared := turns.foldl (next cache) s

theorem after_singleton : s.after cache [turn] = s.next cache turn := rfl

theorem after_append (later : List Turn) : s.after cache (turns ++ later) =
    (s.after cache turns).after cache later := by
  unfold after
  rw [List.foldl_append]

theorem after_concat : s.after cache (turns ++ [turn]) = (s.after cache turns).next cache turn := after_append [turn]

/-- A download that has all turns for itself goes the way of its transfer. -/
theorem after_replicate (dl : Download) : ∀ (n : Nat) (t : Transfer) (files : FileSystem),
    (Shared.mk files [dl.goOn t]).after cache (List.replicate n (.advance 0)) =
      ⟨(t.steps n files).2, [dl.goOn (t.steps n files).1]⟩
  | 0, _, _ => rfl
  | n + 1, t, files => by
    have hnext : (Shared.mk files [dl.goOn t]).next cache (.advance 0) =
      ⟨(t.step files).2, [dl.goOn (t.step files).1]⟩ := rfl
    rw [List.replicate_succ, ← List.singleton_append, after_append,
      show (Shared.mk files [dl.goOn t]).after cache [.advance 0] = _ from hnext, after_replicate dl n]
    rfl

end Shared

end KubectlMatch
