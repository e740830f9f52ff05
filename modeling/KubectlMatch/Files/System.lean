import KubectlMatch.Files.Error
import KubectlMatch.Files.Path
/-!
# The file system as a value

A file system is a table from locations to nodes.  A location is the list of names on the way
from the root, the last name first, so that a directory's location is the tail of its entries'.
The table is what an observer can see of a disk: `nodeAt?` reads it, `put` and `remove` change
one location of it and nothing else.

Beside the table stand the working directory and the refusals: actions that the system denies
although the table would allow them, such as writing to a full disk.
-/
namespace KubectlMatch

abbrev Bytes := List UInt8

/-- The names on the way from the root, the last one first. -/
abbrev Location := List FileName

inductive Node where
  | directory
  | file (mode : Nat) (content : Bytes)
  | link (target : Path)
deriving DecidableEq

namespace Node

/-- A regular file that somebody may execute. -/
def isExecutable : Node → Bool
  | file mode _ => mode &&& 0o111 != 0
  | _ => false

def isFile : Node → Bool
  | file _ _ => true
  | _ => false

end Node

/-- What a program asks of the system for one location. -/
inductive FileAction where
  | inspect
  | read
  | list
  | makeDirectory
  | create
  /-- Writing a file up to the given size. -/
  | write (size : Nat)
  | sync
  | setMode
  | rename
  | remove
deriving DecidableEq

structure FileSystem where
  entries : List (Location × Node)
  /-- No location is listed twice. -/
  distinct : (entries.map Prod.fst).Nodup
  workingDirectory : Location
  refusal? : FileAction → Location → Option Errno

namespace FileSystem

/-- Nothing but the root, where the program works, and nothing refused. -/
def empty : FileSystem := ⟨[], .nil, [], fun _ _ => none⟩

/-- What is at a location.  The root is always a directory. -/
def nodeAt? (fs : FileSystem) (loc : Location) : Option Node :=
  if loc.isEmpty then some .directory else fs.entries.lookup loc

def isDirectoryAt (fs : FileSystem) (loc : Location) : Bool :=
  fs.nodeAt? loc == some .directory

def permit (fs : FileSystem) (action : FileAction) (loc : Location) : Except IoError Unit :=
  match fs.refusal? action loc with
  | some errno => .error errno
  | none => .ok ()

/-- The entries with another node at one location; a new location comes last. -/
def putEntry (loc : Location) (node : Node) : List (Location × Node) → List (Location × Node)
  | [] => [(loc, node)]
  | e :: rest => if e.1 = loc then (loc, node) :: rest else e :: putEntry loc node rest

theorem mem_keys_putEntry {loc l : Location} {node : Node} {es : List (Location × Node)} :
    l ∈ (putEntry loc node es).map Prod.fst ↔ l = loc ∨ l ∈ es.map Prod.fst := by
  induction es with
  | nil => simp [putEntry]
  | cons e rest ih =>
    by_cases h : e.1 = loc <;> simp only [putEntry, h, if_true, if_false, List.map_cons,
      List.mem_cons, ih]
    · exact ⟨fun h => Or.inr h, fun h => h.elim Or.inl id⟩
    · exact or_left_comm

theorem putEntry_distinct {loc : Location} {node : Node} {es : List (Location × Node)}
    (h : (es.map Prod.fst).Nodup) : ((putEntry loc node es).map Prod.fst).Nodup := by
  induction es with
  | nil => simp [putEntry]
  | cons e rest ih =>
    by_cases he : e.1 = loc
    · simpa [putEntry, he] using h
    · simp only [List.map_cons, List.nodup_cons] at h
      simp only [putEntry, he, if_false, List.map_cons, List.nodup_cons, mem_keys_putEntry]
      exact ⟨fun hm => hm.elim (fun hm => hm.elim) h.1, ih h.2⟩

def put (fs : FileSystem) (loc : Location) (node : Node) : FileSystem :=
  { fs with
    entries := putEntry loc node fs.entries
    distinct := putEntry_distinct fs.distinct }

def keep (fs : FileSystem) (test : Location → Bool) : FileSystem :=
  { fs with
    entries := fs.entries.filter fun e => test e.1
    distinct := fs.distinct.sublist (List.filter_sublist.map Prod.fst) }

def remove (fs : FileSystem) (loc : Location) : FileSystem := fs.keep fun l => l != loc

/-- Takes away what is at a location and everything below it. -/
def removeTree (fs : FileSystem) (loc : Location) : FileSystem :=
  fs.keep fun l => !loc.isSuffixOf l

def namesIn (fs : FileSystem) (dir : Location) : List FileName :=
  fs.entries.filterMap fun
    | (name :: above, _) => if above = dir then some name else none
    | ([], _) => none

/-! ## What the changes do to the view -/

theorem lookup_putEntry {loc l : Location} {node : Node} {es : List (Location × Node)} :
    (putEntry loc node es).lookup l = if l = loc then some node else es.lookup l := by
  induction es with
  | nil => by_cases h : l = loc <;> simp [putEntry, List.lookup_cons, h, beq_eq_false_iff_ne.2]
  | cons e rest ih =>
    obtain ⟨el, en⟩ := e
    by_cases he : el = loc
    · subst he
      by_cases h : l = el
      · simp [putEntry, h]
      · simp [putEntry, List.lookup_cons, h, beq_eq_false_iff_ne.2 h]
    · by_cases h : l = el
      · subst h; simp [putEntry, he]
      · simp [putEntry, List.lookup_cons, he, beq_eq_false_iff_ne.2 h, ih]

/-- After a node is put at a location, that location holds it and all others hold what they
held before. -/
theorem nodeAt?_put {fs : FileSystem} {loc l : Location} {node : Node} (h : loc ≠ []) :
    (fs.put loc node).nodeAt? l = if l = loc then some node else fs.nodeAt? l := by
  by_cases hl : l = []
  · subst hl; simp [nodeAt?, Ne.symm h]
  · simp [nodeAt?, put, hl, lookup_putEntry]

end FileSystem

end KubectlMatch
