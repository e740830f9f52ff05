import KubectlMatch.Proofs.Files.Joins
import KubectlMatch.Proofs.Files.Operations
/-!
# Directories and their entries

An entry's path, which is the directory's path and one more name, leads through the directory and to nothing else of
it, and the path above it leads to the directory.  In a tree, making the directory does not make the entry.  What a
directory lists are the names at which something is.
-/
namespace KubectlMatch

namespace FileSystem

open KubectlMatch.Path (IsPlain)

variable {fs : FileSystem} {p q dir name : Path} {here loc d : Location} {target : Place} {n : Nat}

theorem check_eq_ok_iff : check p = .ok () ↔ 0 ∉ p.bytes ∧ p.bytes ≠ [] ∧ p.bytes.length < pathLimit := by
  unfold check
  constructor
  · intro h
    split at h
    · cases h
    · rename_i hnul
      split at h
      · cases h
      · rename_i hempty
        split at h
        · cases h
        · rename_i hlen
          exact ⟨by simpa using hnul, by simpa [HostText.isEmpty] using hempty, Nat.lt_of_not_ge hlen⟩
  · rintro ⟨hnul, hempty, hlen⟩
    rw [if_neg (by simpa using hnul), if_neg (by simpa [HostText.isEmpty] using hempty), if_neg (Nat.not_le.2 hlen)]

theorem bytes_ne_nil_of_locate (h : fs.locate p = .ok loc) : p.bytes ≠ [] :=
  (check_eq_ok_iff.1 (locate_eq_ok_iff.1 h).1).2.1

theorem check_of_start (h : q.bytes <+: p.bytes) (hne : q.bytes ≠ []) (hc : check p = .ok ()) : check q = .ok () := by
  obtain ⟨hnul, -, hlen⟩ := check_eq_ok_iff.1 hc
  have hle := h.length_le
  exact check_eq_ok_iff.2 ⟨fun hmem => hnul (h.subset hmem), hne, by omega⟩

theorem start_of_isAbsolute (h : q.isAbsolute = p.isAbsolute) : start q here = start p here := by
  unfold start
  rw [h]

/-! ## Walks along the names -/

theorem Leads.eq_of_dots : ∀ {k : Nat}, fs.Leads n (List.replicate k Path.dot) here loc → here = loc
  | 0, h => by
    cases h
    rfl
  | k + 1, h => by
    rw [List.replicate_succ] at h
    cases h with
    | dot _ hrest => exact hrest.eq_of_dots
    | entry _ hdot => exact absurd rfl hdot
    | link _ hdot => exact absurd rfl hdot

/-- The slash at the end of a path leads nowhere. -/
theorem Leads.names_of_steps (h : fs.Leads n p.steps here loc) : fs.Leads n p.names here loc := by
  rw [Path.steps_eq] at h
  obtain ⟨mid, hnames, hslash⟩ := h.split p.names _ rfl
  have hmid : mid = loc := by
    cases hends : p.endsInSlash with
    | true =>
      rw [hends] at hslash
      exact hslash.eq_of_dots (k := 1)
    | false =>
      rw [hends] at hslash
      exact hslash.eq_of_dots (k := 0)
  exact hmid ▸ hnames

theorem leads_of_locate (h : fs.locate p = .ok loc) : fs.Leads linkLimit p.names (start p fs.workingDirectory) loc :=
  (locate_eq_ok_iff.1 h).2.names_of_steps

theorem locate_of_leads (hc : check p = .ok ()) (h : fs.Leads linkLimit p.names (start p fs.workingDirectory) loc)
    (hdir : fs.isDirectoryAt loc = true) : fs.locate p = .ok loc := by
  refine locate_eq_ok_iff.2 ⟨hc, ?_⟩
  rw [Path.steps_eq]
  exact h.append (m := 0) (leads_slash fun _ => hdir)

/-! ## The entries of a directory -/

theorem check_dir_of_join (h : IsPlain name) (hne : dir.bytes ≠ []) (hc : check (dir.join name) = .ok ()) :
    check dir = .ok () := by
  obtain ⟨d, hjoin, ⟨hd, -⟩ | ⟨hd, -⟩⟩ := Path.exists_join_bytes h.isAbsolute hne
  · exact check_of_start (by rw [hjoin, hd]; exact List.prefix_append d _) hne hc
  · refine check_of_start ?_ hne hc
    rw [hjoin, hd, show d ++ Path.slash :: name.bytes = d ++ [Path.slash] ++ name.bytes by simp]
    exact List.prefix_append _ _

/-- **The place of an entry's path** is that entry in the directory. -/
theorem locate_of_place_join (h : IsPlain name) (hne : dir.bytes ≠ [])
    (hplace : fs.place (dir.join name) = .ok (some target)) : fs.locate dir = .ok target.dir ∧ target.name = name := by
  obtain ⟨hc, ⟨above, hnames, hleads⟩, hdir, -⟩ := place_eq_some_iff.1 hplace
  rw [Path.names_join h] at hnames
  obtain ⟨rfl, hname⟩ := List.append_inj' hnames rfl
  rw [start_of_isAbsolute (Path.isAbsolute_join h hne)] at hleads
  exact ⟨locate_of_leads (check_dir_of_join h hne hc) hleads hdir, (List.singleton_inj.1 hname).symm⟩

/-- A path to an entry that is there leads through the directory. -/
theorem locate_dir_of_locate_join (h : IsPlain name) (hne : dir.bytes ≠ [])
    (hloc : fs.locate (dir.join name) = .ok loc) :
    ∃ d, fs.locate dir = .ok d ∧ fs.isDirectoryAt d = true ∧ (fs.nodeAt? (name :: d)).isSome := by
  obtain ⟨hc, -⟩ := locate_eq_ok_iff.1 hloc
  rcases place_of_locate hloc with hnone | ⟨target, hplace, hsome⟩
  · rw [place_of_names hc (Path.names_join h dir)] at hnone
    obtain ⟨d, -, hd⟩ := bind_eq_ok_iff.1 hnone
    split at hd
    · cases hd
    · rw [if_neg (not_or.2 ⟨h.ne_dot, h.ne_dotDot⟩)] at hd
      split at hd
      · cases hd
      · cases hd
  · obtain ⟨hdir, hname⟩ := locate_of_place_join h hne hplace
    refine ⟨target.dir, hdir, (place_eq_some_iff.1 hplace).isDirectoryAt, ?_⟩
    rw [← hname]
    exact hsome

/-- **The path above an entry's path leads to the directory.** -/
theorem locate_parent_of_join (h : IsPlain name) (hne : dir.bytes ≠ []) (hloc : fs.locate dir = .ok d)
    (hdir : fs.isDirectoryAt d = true) :
    ∃ above, (dir.join name).parent? = some above ∧ above.bytes ≠ [] ∧ fs.locate above = .ok d := by
  obtain ⟨above, n, hparent, hprefix, habove, hnames⟩ := Path.parent?_join h hne
  have hleads := leads_of_locate hloc
  rw [hnames] at hleads
  obtain ⟨mid, hmid, hdots⟩ := hleads.split above.names _ rfl
  rw [hdots.eq_of_dots, ← start_of_isAbsolute (Path.isAbsolute_of_prefix hprefix habove)] at hmid
  exact ⟨above, hparent, habove,
    locate_of_leads (check_of_start hprefix habove (locate_eq_ok_iff.1 hloc).1) hmid hdir⟩

/-! ## Trees -/

/-- Everything is in a directory. -/
def IsTree (fs : FileSystem) : Prop := ∀ name here, (fs.nodeAt? (name :: here)).isSome → fs.isDirectoryAt here = true

theorem IsTree.nodeAt?_eq_none (h : fs.IsTree) (hfree : fs.nodeAt? here = none) :
    ∀ names, fs.nodeAt? (names ++ here) = none
  | [] => hfree
  | name :: names => by
    cases hnode : fs.nodeAt? (name :: (names ++ here)) with
    | none => exact hnode
    | some node =>
      have hdir := h name (names ++ here) (by rw [hnode]; rfl)
      rw [isDirectoryAt, h.nodeAt?_eq_none hfree names] at hdir
      cases hdir

/-- The paths above another name the first directories on its way. -/
theorem names_of_mem_lineage : ∀ {k : Nat} {q : Path}, p ∈ lineage k q →
    p.names <+: q.names ∧ p.isAbsolute = q.isAbsolute
  | 0, q, h => nomatch h
  | k + 1, q, h => by
    rw [lineage] at h
    cases hparent : q.parent? with
    | none =>
      rw [hparent] at h
      cases h
    | some above =>
      rw [hparent] at h
      rcases List.mem_cons.1 h with rfl | h
      · exact ⟨List.prefix_refl _, rfl⟩
      · obtain ⟨hnames, hsame⟩ := names_of_mem_lineage h
        rcases Path.names_of_parent? hparent with hempty | ⟨habs, rest, habove, -⟩
        · obtain ⟨bytes⟩ := above
          cases hempty
          cases k <;> cases h
        · exact ⟨hnames.trans ⟨rest, habove.symm⟩, hsame.trans habs⟩

theorem mem_keys_iff {es : List (Location × Node)} : loc ∈ es.map Prod.fst ↔ (es.lookup loc).isSome := by
  induction es with
  | nil => simp
  | cons e rest ih =>
    obtain ⟨l, node⟩ := e
    by_cases h : loc = l
    · simp [h]
    · rw [List.map_cons, List.mem_cons, List.lookup_cons, beq_eq_false_iff_ne.2 h, ih]
      exact ⟨fun hm => hm.elim (fun heq => absurd heq h) id, Or.inr⟩

theorem mem_namesIn_iff : name ∈ fs.namesIn d ↔ (fs.nodeAt? (name :: d)).isSome := by
  have hkeys : name ∈ fs.namesIn d ↔ name :: d ∈ fs.entries.map Prod.fst := by
    unfold namesIn
    simp only [List.mem_filterMap, List.mem_map]
    constructor
    · rintro ⟨⟨_ | ⟨n, above⟩, node⟩, he, hname⟩
      · cases hname
      · dsimp only at hname
        split at hname
        · rename_i habove
          cases hname
          exact ⟨_, he, by rw [habove]⟩
        · cases hname
    · rintro ⟨⟨l, node⟩, he, rfl⟩
      exact ⟨_, he, by simp⟩
  rw [hkeys, mem_keys_iff]
  rfl

theorem nodup_namesIn (fs : FileSystem) (d : Location) : (fs.namesIn d).Nodup := by
  have hdistinct := List.pairwise_map.1 fs.distinct
  unfold namesIn
  refine List.Pairwise.filterMap _ (fun e e' hne n hn n' hn' => ?_) hdistinct
  rcases e with ⟨_ | ⟨name, above⟩, node⟩
  · cases hn
  rcases e' with ⟨_ | ⟨name', above'⟩, node'⟩
  · cases hn'
  dsimp only at hn hn'
  split at hn
  · rename_i habove
    split at hn'
    · rename_i habove'
      cases hn
      cases hn'
      rintro rfl
      exact hne (by rw [habove, habove'])
    · cases hn'
  · cases hn

theorem readDir_eq_ok_iff {names : List FileName} : fs.readDir p = .ok names ↔ ∃ d, fs.locate p = .ok d ∧
    fs.isDirectoryAt d = true ∧ fs.permit .list d = .ok () ∧ names = fs.namesIn d := by
  constructor
  · intro h
    obtain ⟨d, hloc, h⟩ := bind_eq_ok_iff.1 h
    refine ⟨d, hloc, ?_⟩
    dsimp only at h
    split at h
    · cases h
    · rename_i hdir
      obtain ⟨⟨⟩, hpermit, h⟩ := bind_eq_ok_iff.1 h
      cases h
      exact ⟨by simpa using hdir, hpermit, rfl⟩
  · rintro ⟨d, hloc, hdir, hpermit, rfl⟩
    refine bind_eq_ok_iff.2 ⟨d, hloc, ?_⟩
    rw [hdir]
    exact bind_eq_ok_iff.2 ⟨(), hpermit, rfl⟩

/-- The path leads to a directory, and the system lets it be listed. -/
structure Lists (fs : FileSystem) (p : Path) (d : Location) : Prop where
  locate : fs.locate p = .ok d
  isDirectoryAt : fs.isDirectoryAt d = true
  permit : fs.permit .list d = .ok ()

theorem Lists.readDir (h : fs.Lists p d) : fs.readDir p = .ok (fs.namesIn d) :=
  readDir_eq_ok_iff.2 ⟨d, h.locate, h.isDirectoryAt, h.permit, rfl⟩

theorem readDir_of_not_lists (h : ∀ d, ¬fs.Lists p d) : ∃ e, fs.readDir p = .error e := by
  cases hread : fs.readDir p with
  | error e => exact ⟨e, rfl⟩
  | ok names =>
    obtain ⟨d, hloc, hdir, hpermit, -⟩ := readDir_eq_ok_iff.1 hread
    exact absurd ⟨hloc, hdir, hpermit⟩ (h d)

end FileSystem

end KubectlMatch
