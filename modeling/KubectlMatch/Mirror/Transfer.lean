import KubectlMatch.Checksum.Sha256
import KubectlMatch.Files.Operations
import KubectlMatch.Resolution.Error
/-!
# Transfers

A binary arrives in pieces under a name that nobody looks for, is compared with its checksum, is
made executable, and only then takes its place, in a single step.  What goes wrong before that step
leads to the removal of the unfinished file and leaves the destination as it was.

Pieces are written behind the transfer's back: that one is lost comes out when the next is to be
written.  After the last piece nobody asks any more.

A transfer is written step by step, each step one operation of the file system at the most, so that
several transfers can be thought of as running side by side.
-/
namespace KubectlMatch

namespace Transfer

inductive Stage where
  /-- These pieces are still to come. -/
  | receiving (rest : List Bytes)
  | comparing
  | makingExecutable
  | installing
  | discarding (cause : DownloadError)
  | ended (result : Except DownloadError Unit)

end Transfer

structure Transfer where
  url : String
  expected : Checksum
  destination : Path
  /-- Where the pieces are collected. -/
  unfinished : Location
  /-- How the pieces come to their end. -/
  ending : Except Http.Error Unit
  /-- What has come so far. -/
  received : Bytes
  /-- Why the latest piece could not be written, if it could not. -/
  lost? : Option IoError
  stage : Transfer.Stage

namespace Transfer

def installedMode : Nat := 0o755

def goTo (t : Transfer) (stage : Stage) : Transfer := { t with stage }

/-- Goes on with the files after an operation, or to the removal of the unfinished file. -/
def after (t : Transfer) (fs : FileSystem) (next : Stage) :
    Except IoError FileSystem → Transfer × FileSystem
  | .ok fs => (t.goTo next, fs)
  | .error e => (t.goTo (.discarding (.io e)), fs)

def step (t : Transfer) (fs : FileSystem) : Transfer × FileSystem :=
  match t.stage with
  | .receiving (chunk :: rest) =>
    match t.lost? with
    | some e => (t.goTo (.discarding (.io e)), fs)
    | none =>
      let t := { t with received := t.received ++ chunk, stage := .receiving rest }
      match fs.append t.unfinished chunk with
      | .ok fs => (t, fs)
      | .error e => ({ t with lost? := some e }, fs)
  | .receiving [] =>
    match t.ending with
    | .error e => (t.goTo (.discarding (.network e)), fs)
    | .ok () => t.after fs .comparing ((fs.permit .sync t.unfinished).map fun _ => fs)
  | .comparing =>
    let actual := Checksum.ofBytes t.received
    if actual = t.expected then (t.goTo .makingExecutable, fs)
    else (t.goTo (.discarding (.checksumMismatch t.url t.expected.text actual.text)), fs)
  | .makingExecutable => t.after fs .installing (fs.setMode t.unfinished installedMode)
  | .installing => t.after fs (.ended (.ok ())) (fs.rename t.unfinished t.destination)
  | .discarding cause => (t.goTo (.ended (.error cause)), fs.discard t.unfinished)
  | .ended _ => (t, fs)

/-- No transfer takes more steps than this from where it is. -/
def stepsLeft (t : Transfer) : Nat :=
  match t.stage with
  | .receiving rest => rest.length + 5
  | .comparing => 4
  | .makingExecutable => 3
  | .installing => 2
  | .discarding _ => 1
  | .ended _ => 0

/-- Several steps, with nobody else at the files. -/
def steps : Nat → Transfer → FileSystem → Transfer × FileSystem
  | 0, t, fs => (t, fs)
  | n + 1, t, fs =>
    let (t, fs) := t.step fs
    steps n t fs

theorem stepsLeft_step (t : Transfer) (fs : FileSystem) :
    (t.step fs).1.stepsLeft ≤ t.stepsLeft - 1 := by
  obtain ⟨url, expected, destination, unfinished, ending, received, lost?, stage⟩ := t
  cases stage with
  | receiving rest =>
    cases rest with
    | nil =>
      cases ending with
      | error e => simp [step, goTo, stepsLeft]
      | ok u =>
        cases h : fs.permit .sync unfinished <;>
          simp [step, after, goTo, stepsLeft, h, Except.map]
    | cons chunk rest =>
      cases lost? with
      | some e => simp [step, goTo, stepsLeft]
      | none => cases h : fs.append unfinished chunk <;> simp [step, stepsLeft, h]
  | comparing =>
    by_cases h : Checksum.ofBytes received = expected <;> simp [step, goTo, stepsLeft, h]
  | makingExecutable =>
    cases h : fs.setMode unfinished installedMode <;> simp [step, after, goTo, stepsLeft, h]
  | installing =>
    cases h : fs.rename unfinished destination <;> simp [step, after, goTo, stepsLeft, h]
  | discarding cause => simp [step, goTo, stepsLeft]
  | ended result => simp [step, stepsLeft]

theorem stepsLeft_steps (n : Nat) (t : Transfer) (fs : FileSystem) :
    (steps n t fs).1.stepsLeft ≤ t.stepsLeft - n := by
  induction n generalizing t fs with
  | zero => simp [steps]
  | succ n ih =>
    have h := ih (t.step fs).1 (t.step fs).2
    have := stepsLeft_step t fs
    simp only [steps]
    omega

def result? (t : Transfer) : Option (Except DownloadError Unit) :=
  match t.stage with
  | .ended result => some result
  | _ => none

theorem isSome_result? {t : Transfer} (h : t.stepsLeft = 0) : t.result?.isSome := by
  unfold stepsLeft at h
  unfold result?
  split at h <;> simp_all

def run (t : Transfer) (fs : FileSystem) : Except DownloadError Unit × FileSystem :=
  let ended := steps t.stepsLeft t fs
  have h : ended.1.result?.isSome := isSome_result? (by
    have := stepsLeft_steps t.stepsLeft t fs
    simp only [ended]
    omega)
  (ended.1.result?.get h, ended.2)

end Transfer

end KubectlMatch
