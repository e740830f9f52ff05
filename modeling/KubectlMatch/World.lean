import KubectlMatch.Files.Operations
import KubectlMatch.Http.Client
/-!
# The world around a run

What a run of the program finds and leaves: the files, and the requests that have been made.
Everything that it does to the world is done through one of the two.  A `Course` of a run may also
never come to its end.
-/
namespace KubectlMatch

structure World where
  files : FileSystem
  attempts : List Http.Attempt

namespace World

variable {α : Type}

def ofFiles (files : FileSystem) : World := ⟨files, []⟩

def onFiles (action : FileSystem → α × FileSystem) : StateM World α := fun world =>
  let (a, files) := action world.files
  (a, { world with files })

def ofTheFiles (look : FileSystem → α) : StateM World α := fun world => (look world.files, world)

def online (action : StateM (List Http.Attempt) α) : StateM World α := fun world =>
  let (a, attempts) := action.run world.attempts
  (a, { world with attempts })

/-- A part of a run: what it does to the world, or nothing if it goes on for ever. -/
abbrev Course := StateT World Option

namespace Course

/-- A part that comes to its end. -/
def ofAction (action : StateM World α) : Course α := fun world => some (action.run world)

/-- A part that comes to its end with some files only. -/
def ofSearch (ends : FileSystem → Bool) (action : StateM World α) : Course α := fun world =>
  if ends world.files then some (action.run world) else none

end Course

namespace Course

variable {β : Type} {part : Course α} {action : StateM World α} {world : World} {f : α → Course β}
  {g : α → StateM World β}

/-- The part comes to its end in the world, as the action does. -/
def Follows (part : Course α) (action : StateM World α) (world : World) : Prop :=
  part.run world = some (action.run world)

theorem follows_pure (a : α) (world : World) : Follows (pure a) (pure a) world := rfl

theorem follows_ofAction (action : StateM World α) (world : World) :
    Follows (ofAction action) action world := rfl

theorem follows_ofSearch {ends : FileSystem → Bool} (h : ends world.files = true) :
    Follows (ofSearch ends action) action world := if_pos h

theorem run_ofSearch_eq_none {ends : FileSystem → Bool} (h : ends world.files ≠ true) :
    (ofSearch ends action).run world = none := if_neg h

/-- One after the other, two parts come to their end if each does. -/
theorem Follows.bind (h : Follows part action world)
    (hnext : Follows (f (action.run world).1) (g (action.run world).1) (action.run world).2) :
    Follows (part >>= f) (action >>= g) world := by
  unfold Follows at h ⊢
  rw [StateT.run_bind, h]
  exact hnext

theorem Follows.run_bind (h : Follows part action world) :
    (part >>= f).run world = (f (action.run world).1).run (action.run world).2 := by
  rw [StateT.run_bind, h]
  rfl

/-- What follows a part that never ends does not happen. -/
theorem run_bind_eq_none (h : part.run world = none) : (part >>= f).run world = none := by
  rw [StateT.run_bind, h]
  rfl

end Course

theorem run_bind {σ β : Type} (action : StateM σ α) (next : α → StateM σ β) (s : σ) :
    (action >>= next).run s = (next (action.run s).1).run (action.run s).2 := rfl

theorem run_pure {σ : Type} (a : α) (s : σ) : (pure a : StateM σ α).run s = (a, s) := rfl

theorem run_modify (change : World → World) (world : World) :
    (modify change : StateM World PUnit).run world = (⟨⟩, change world) := rfl

theorem run_onFiles (action : FileSystem → α × FileSystem) (world : World) :
    (onFiles action).run world = ((action world.files).1, { world with files := (action world.files).2 }) := rfl

theorem run_ofTheFiles (look : FileSystem → α) (world : World) :
    (ofTheFiles look).run world = (look world.files, world) := rfl

theorem run_online (action : StateM (List Http.Attempt) α) (world : World) :
    (online action).run world =
      ((action.run world.attempts).1, { world with attempts := (action.run world.attempts).2 }) := rfl

@[simp] theorem files_online (action : StateM (List Http.Attempt) α) (world : World) :
    ((online action).run world).2.files = world.files := rfl

end World

end KubectlMatch
