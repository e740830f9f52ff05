import KubectlMatch.Files.System
/-!
# Changes of a file system

How `put` and `remove` go together.  What is put at one location twice is there once, what is taken away again was as
good as never put, and changes of different locations can be made in either order.  These are equations of file systems
and not only of what an observer sees, so that whatever runs afterwards cannot tell the two sides apart.
-/
namespace KubectlMatch

namespace FileSystem

variable {fs : FileSystem} {loc other l : Location} {node a b : Node} {es : List (Location × Node)}

theorem eq_of_entries {fs fs' : FileSystem} (he : fs.entries = fs'.entries)
    (hw : fs.workingDirectory = fs'.workingDirectory) (hr : fs.refusal? = fs'.refusal?) : fs = fs' := by
  obtain ⟨entries, distinct, wd, refusal?⟩ := fs
  cases he
  cases hw
  cases hr
  rfl

/-! ## The entries -/

theorem putEntry_putEntry : putEntry loc b (putEntry loc a es) = putEntry loc b es := by
  induction es with
  | nil => simp [putEntry]
  | cons e rest ih => by_cases he : e.1 = loc <;> simp [putEntry, he, ih]

theorem filter_putEntry_of_false {test : Location → Bool} (h : test loc = false) :
    (putEntry loc node es).filter (fun e => test e.1) = es.filter (fun e => test e.1) := by
  induction es with
  | nil => simp [putEntry, h]
  | cons e rest ih =>
    by_cases he : e.1 = loc
    · simp [putEntry, he, h]
    · simp [putEntry, he, List.filter_cons, ih]

theorem filter_putEntry_of_ne (h : other ≠ loc) :
    (putEntry other node es).filter (fun e => e.1 != loc) = putEntry other node (es.filter (fun e => e.1 != loc)) := by
  induction es with
  | nil => simp [putEntry, h]
  | cons e rest ih =>
    by_cases he : e.1 = other
    · simp [putEntry, he, h]
    · by_cases hl : e.1 = loc <;> simp [putEntry, he, hl, ih, h.symm]

theorem not_mem_keys_of_lookup (h : es.lookup loc = none) : ∀ e ∈ es, e.1 ≠ loc := by
  intro e he heq
  exact bne_iff_ne.1 (List.lookup_eq_none_iff.1 h e he) heq.symm

/-! ## The file system -/

theorem ne_nil_of_nodeAt?_eq_none (h : fs.nodeAt? loc = none) : loc ≠ [] := by
  rintro rfl
  cases h

theorem ne_nil_of_isDirectoryAt_eq_false (h : fs.isDirectoryAt loc = false) : loc ≠ [] := by
  rintro rfl
  cases h

theorem isDirectoryAt_iff : fs.isDirectoryAt loc = true ↔ fs.nodeAt? loc = some .directory := beq_iff_eq

theorem nodeAt?_put_self (h : loc ≠ []) : (fs.put loc node).nodeAt? loc = some node := by
  rw [nodeAt?_put h, if_pos rfl]

theorem nodeAt?_put_of_ne (h : loc ≠ []) (hl : l ≠ loc) : (fs.put loc node).nodeAt? l = fs.nodeAt? l := by
  rw [nodeAt?_put h, if_neg hl]

theorem lookup_keep (test : Location → Bool) :
    (es.filter fun e => test e.1).lookup l = if test l then es.lookup l else none := by
  induction es with
  | nil => simp
  | cons e rest ih =>
    obtain ⟨el, en⟩ := e
    by_cases hl : l = el
    · subst hl
      cases ht : test l <;> simp [ih, ht]
    · have hne : (l == el) = false := beq_eq_false_iff_ne.2 hl
      cases ht : test el <;> simp [ih, ht, List.lookup_cons, hne]

/-- Of what is kept all is as it was, and the rest is gone.  The root is always kept. -/
theorem nodeAt?_keep (test : Location → Bool) (h : test [] = true) :
    (fs.keep test).nodeAt? l = if test l then fs.nodeAt? l else none := by
  unfold nodeAt?
  by_cases hroot : l.isEmpty = true
  · rw [if_pos hroot, if_pos hroot, List.isEmpty_iff.1 hroot, if_pos h]
  · rw [if_neg hroot, if_neg hroot]
    exact lookup_keep test

theorem nodeAt?_remove_of_ne (h : l ≠ loc) : (fs.remove loc).nodeAt? l = fs.nodeAt? l := by
  unfold nodeAt?
  split
  · rfl
  · refine (lookup_keep fun l => l != loc).trans ?_
    rw [if_pos (bne_iff_ne.2 h)]

theorem nodeAt?_remove_self (h : loc ≠ []) : (fs.remove loc).nodeAt? loc = none := by
  rw [nodeAt?, List.isEmpty_eq_false_iff.2 h, if_neg Bool.false_ne_true]
  refine (lookup_keep fun l => l != loc).trans ?_
  rw [if_neg (by simp)]

theorem put_put : (fs.put loc a).put loc b = fs.put loc b := eq_of_entries putEntry_putEntry rfl rfl

/-- What is put where nothing is kept makes no difference. -/
theorem keep_put {test : Location → Bool} (h : test loc = false) : (fs.put loc node).keep test = fs.keep test :=
  eq_of_entries (filter_putEntry_of_false h) rfl rfl

theorem keep_eq_self {test : Location → Bool} (h : ∀ e ∈ fs.entries, test e.1 = true) : fs.keep test = fs :=
  eq_of_entries (List.filter_eq_self.2 h) rfl rfl

theorem remove_put_of_ne (h : other ≠ loc) : (fs.put other node).remove loc = (fs.remove loc).put other node :=
  eq_of_entries (filter_putEntry_of_ne h) rfl rfl

theorem remove_of_free (h : fs.nodeAt? loc = none) : fs.remove loc = fs := by
  have hne := ne_nil_of_nodeAt?_eq_none h
  have hlookup : fs.entries.lookup loc = none := by
    rw [nodeAt?, List.isEmpty_eq_false_iff.2 hne] at h
    exact h
  exact keep_eq_self fun e he => bne_iff_ne.2 (not_mem_keys_of_lookup hlookup e he)

/-- **What was put at a free location and taken away has left nothing behind.** -/
theorem remove_put (h : fs.nodeAt? loc = none) : (fs.put loc node).remove loc = fs := by
  have hput : (fs.put loc node).remove loc = fs.remove loc := keep_put (by simp)
  rw [hput, remove_of_free h]

/-! ## What putting keeps -/

/-- No name holds a slash, as on every disk. -/
def WellNamed (fs : FileSystem) : Prop :=
  ∀ (name : FileName) (here : Location), (fs.nodeAt? (name :: here)).isSome → Path.slash ∉ name.bytes

theorem wellNamed_empty : empty.WellNamed := fun _ _ hsome => nomatch hsome

theorem WellNamed.put {name : FileName} {here : Location} (h : fs.WellNamed)
    (hname : Path.slash ∉ name.bytes) : (fs.put (name :: here) node).WellNamed := by
  intro other l hsome
  by_cases hl : other :: l = name :: here
  · rw [(List.cons.inj hl).1]
    exact hname
  · rw [nodeAt?_put_of_ne (List.cons_ne_nil name here) hl] at hsome
    exact h other l hsome

/-- There is no link. -/
def Linkless (fs : FileSystem) : Prop := ∀ l target, fs.nodeAt? l ≠ some (.link target)

theorem linkless_empty : empty.Linkless := by
  intro l target
  cases l with
  | nil => exact nofun
  | cons => exact nofun

theorem Linkless.put {name : FileName} {here : Location} (h : fs.Linkless)
    (hnode : ∀ target, node ≠ .link target) : (fs.put (name :: here) node).Linkless := by
  intro l target
  rw [nodeAt?_put (List.cons_ne_nil name here)]
  split
  · exact fun hlink => hnode target (Option.some.inj hlink)
  · exact h l target

end FileSystem

end KubectlMatch
