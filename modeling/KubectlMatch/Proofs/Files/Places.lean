import KubectlMatch.Proofs.Files.Walks
import KubectlMatch.Proofs.Success
/-!
# Places and locations

`locate` follows a path to its end and `place` to the directory before its last name.  Both are walks, so both say the
same in every file system that keeps the directories and the links.
-/
namespace KubectlMatch

namespace FileSystem

variable {fs fs' fs'' : FileSystem} {n : Nat} {name : FileName} {names : List FileName} {here loc : Location}
  {p : Path} {target : Place} {node : Node}

theorem follow_eq_ok_iff {steps : List FileName} :
    fs.follow steps p = .ok loc ↔ fs.Leads linkLimit steps (start p fs.workingDirectory) loc := by
  rw [← walk_eq_ok_iff, follow, mapError_eq_ok_iff]

theorem locate_eq_ok_iff : fs.locate p = .ok loc ↔
    check p = .ok () ∧ fs.Leads linkLimit p.steps (start p fs.workingDirectory) loc := by
  rw [← follow_eq_ok_iff, locate]
  cases check p with
  | ok u => exact ⟨fun h => ⟨rfl, h⟩, fun h => h.2⟩
  | error e => exact ⟨nofun, fun h => nomatch h.1⟩

theorem canonical?_eq_some_iff : fs.canonical? p = some loc ↔ fs.locate p = .ok loc := by
  unfold canonical?
  cases fs.locate p <;> simp [Except.toOption]

/-- What makes a place the one that a path names. -/
structure NamesPlace (fs : FileSystem) (p : Path) (target : Place) : Prop where
  check : FileSystem.check p = .ok ()
  leads : ∃ above, p.names = above ++ [target.name] ∧
    fs.Leads linkLimit above (start p fs.workingDirectory) target.dir
  isDirectoryAt : fs.isDirectoryAt target.dir = true
  ne_dot : target.name ≠ Path.dot
  ne_dotDot : target.name ≠ Path.dotDot
  length_le : target.name.bytes.length ≤ nameLimit
  asDirectory : target.asDirectory = p.endsInSlash

theorem place_of_names_eq_nil (hc : check p = .ok ()) (hn : p.names = []) : fs.place p = .ok none := by
  rw [place, hc]
  dsimp only [bind, Except.bind]
  rw [Path.names_eq, hn]
  rfl

/-- The rest of `place`, once the directory is found. -/
theorem place_of_names {above : List FileName} (hc : check p = .ok ()) (hn : p.names = above ++ [name]) :
    fs.place p = (fs.follow above p).bind fun dir =>
      if !fs.isDirectoryAt dir then .error (.system .notDirectory)
      else if name = Path.dot ∨ name = Path.dotDot then .ok none
      else if name.bytes.length > nameLimit then .error (.system .nameTooLong)
      else .ok (some ⟨dir, name, p.endsInSlash⟩) := by
  rw [place, hc]
  dsimp only [bind, Except.bind]
  rw [Path.names_eq, hn, List.getLast?_concat, List.dropLast_concat]
  rfl

theorem check_of_place {r : Option Place} (h : fs.place p = .ok r) : check p = .ok () := by
  cases hc : check p with
  | ok u => rfl
  | error e =>
    rw [place, hc] at h
    cases h

theorem namesPlace_of_place (h : fs.place p = .ok (some target)) : fs.NamesPlace p target := by
  have hc := check_of_place h
  cases hlast : p.names.getLast? with
  | none =>
    rw [place_of_names_eq_nil hc (List.getLast?_eq_none_iff.1 hlast)] at h
    cases h
  | some name =>
    obtain ⟨above, hn⟩ := List.getLast?_eq_some_iff.1 hlast
    rw [place_of_names hc hn] at h
    cases hf : fs.follow above p with
    | error e =>
      rw [hf] at h
      cases h
    | ok dir =>
      rw [hf, Except.bind] at h
      split at h
      · cases h
      · rename_i hdir
        split at h
        · cases h
        · rename_i hdots
          split at h
          · cases h
          · rename_i hlen
            cases h
            exact ⟨hc, ⟨above, hn, follow_eq_ok_iff.1 hf⟩, by simpa using hdir, fun hd => hdots (Or.inl hd),
              fun hd => hdots (Or.inr hd), Nat.le_of_not_gt hlen, rfl⟩

theorem NamesPlace.place (h : fs.NamesPlace p target) : fs.place p = .ok (some target) := by
  obtain ⟨hc, ⟨above, hn, hleads⟩, hdir, hdot, hdots, hlen, hslash⟩ := h
  rw [place_of_names hc hn, follow_eq_ok_iff.2 hleads, Except.bind, if_neg (by simp [hdir]),
    if_neg (fun hd => hd.elim hdot hdots), if_neg (Nat.not_lt.2 hlen), ← hslash]

theorem place_eq_some_iff : fs.place p = .ok (some target) ↔ fs.NamesPlace p target :=
  ⟨namesPlace_of_place, NamesPlace.place⟩

/-! ## From a place to the location -/

theorem leads_slash (hdir : p.endsInSlash = true → fs.isDirectoryAt loc = true) :
    fs.Leads 0 (if p.endsInSlash then [Path.dot] else []) loc loc := by
  cases hp : p.endsInSlash with
  | true => exact .dot (hdir hp) .arrived
  | false => exact .arrived

/-- A path leads to its place, unless a link stands there, or a file where a directory was asked for. -/
theorem locate_of_place (h : fs.place p = .ok (some target)) (hnode : fs.nodeAt? target.location = some node)
    (hlink : ∀ aim, node ≠ .link aim) (hdir : p.endsInSlash = true → node = .directory) :
    fs.locate p = .ok target.location := by
  obtain ⟨hc, ⟨above, hn, hleads⟩, hisDir, hdot, hdots, hlen, -⟩ := place_eq_some_iff.1 h
  refine locate_eq_ok_iff.2 ⟨hc, ?_⟩
  rw [Path.steps_eq, hn, List.append_assoc]
  refine hleads.append (m := 0) (.entry hisDir hdot hdots hlen hnode hlink (leads_slash fun hp => ?_))
  rw [isDirectoryAt_iff, ← hdir hp]
  exact hnode

/-- A path that leads somewhere names no place, or one where something stands. -/
theorem place_of_locate (h : fs.locate p = .ok loc) :
    fs.place p = .ok none ∨ ∃ target, fs.place p = .ok (some target) ∧ (fs.nodeAt? target.location).isSome := by
  obtain ⟨hc, hleads⟩ := locate_eq_ok_iff.1 h
  cases hlast : p.names.getLast? with
  | none => exact Or.inl (place_of_names_eq_nil hc (List.getLast?_eq_none_iff.1 hlast))
  | some name =>
    obtain ⟨above, hn⟩ := List.getLast?_eq_some_iff.1 hlast
    rw [Path.steps_eq, hn, List.append_assoc] at hleads
    obtain ⟨dir, habove, hname⟩ := hleads.split above _ rfl
    have hdir := hname.isDirectoryAt_of_cons
    by_cases hdots : name = Path.dot ∨ name = Path.dotDot
    · left
      rw [place_of_names hc hn, follow_eq_ok_iff.2 habove, Except.bind, if_neg (by simp [hdir]), if_pos hdots]
    · obtain ⟨hdot, hdots⟩ := not_or.1 hdots
      obtain ⟨hlen, hsome⟩ := hname.of_cons hdot hdots
      exact Or.inr ⟨⟨dir, name, p.endsInSlash⟩,
        NamesPlace.place ⟨hc, ⟨above, hn, habove⟩, hdir, hdot, hdots, hlen, rfl⟩, hsome⟩

/-! ## File systems with the same tree -/

theorem Leads.start_cases (h : fs.Leads n names here loc) : here = loc ∨ fs.isDirectoryAt here = true := by
  cases h with
  | arrived => exact Or.inl rfl
  | _ => exact Or.inr (by assumption)

/-- **A walk meets only directories and links before its end**, and so it leads to the same end wherever these and the
end are kept. -/
theorem Leads.of_kept (hkept : ∀ l node, fs.nodeAt? l = some node → node.isFile = false ∨ l = loc →
    fs'.nodeAt? l = some node) (h : fs.Leads n names here loc) : fs'.Leads n names here loc := by
  have hdirs : ∀ {l}, fs.isDirectoryAt l = true → fs'.isDirectoryAt l = true := fun hdir =>
    isDirectoryAt_iff.2 (hkept _ _ (isDirectoryAt_iff.1 hdir) (Or.inl rfl))
  induction h with
  | arrived => exact .arrived
  | dot hdir _ ih => exact .dot (hdirs hdir) (ih hkept)
  | dotDot hdir _ ih => exact .dotDot (hdirs hdir) (ih hkept)
  | entry hdir hdot hdots hlen hnode hlink hrest ih =>
    refine .entry (hdirs hdir) hdot hdots hlen (hkept _ _ hnode ?_) hlink (ih hkept)
    rcases hrest.start_cases with hend | hhere
    · exact Or.inr hend
    · rw [isDirectoryAt_iff.1 hhere] at hnode
      cases hnode
      exact Or.inl rfl
  | link hdir hdot hdots hlen hnode _ ih =>
    exact .link (hdirs hdir) hdot hdots hlen (hkept _ _ hnode (Or.inl rfl)) (ih hkept)

/-- Where the same is at every location, every path leads to the same end. -/
theorem locate_of_same (hwhere : fs'.workingDirectory = fs.workingDirectory) (hsame : ∀ l, fs'.nodeAt? l = fs.nodeAt? l)
    (h : fs.locate p = .ok loc) : fs'.locate p = .ok loc := by
  obtain ⟨hc, hleads⟩ := locate_eq_ok_iff.1 h
  refine locate_eq_ok_iff.2 ⟨hc, ?_⟩
  rw [hwhere]
  exact hleads.of_kept fun l node hnode _ => (hsame l).trans hnode

theorem locate_put {l : Location} (h : fs.locate p = .ok loc) (hne : l ≠ []) (hl : l ≠ loc)
    (hfile : ∀ node, fs.nodeAt? l = some node → node.isFile = true) : (fs.put l node).locate p = .ok loc := by
  obtain ⟨hc, hleads⟩ := locate_eq_ok_iff.1 h
  refine locate_eq_ok_iff.2 ⟨hc, hleads.of_kept fun l' node' hnode' hkept => ?_⟩
  rw [nodeAt?_put_of_ne hne]
  · exact hnode'
  · rintro rfl
    rw [hfile node' hnode'] at hkept
    rcases hkept with hkept | hkept
    · cases hkept
    · exact hl hkept

/-- A path leads to the same end when something is put where nothing was. -/
theorem locate_put_free {l : Location} (hfree : fs.nodeAt? l = none) (h : fs.locate p = .ok loc) :
    (fs.put l node).locate p = .ok loc := by
  obtain ⟨hc, hleads⟩ := locate_eq_ok_iff.1 h
  refine locate_eq_ok_iff.2 ⟨hc, hleads.of_kept fun l' node' hnode' _ => ?_⟩
  rw [nodeAt?_put_of_ne (ne_nil_of_nodeAt?_eq_none hfree)]
  · exact hnode'
  · rintro rfl
    cases hfree.symm.trans hnode'

/-- The second file system has all directories and all links of the first, and works in the same one. -/
structure KeepsTree (fs fs' : FileSystem) : Prop where
  workingDirectory : fs'.workingDirectory = fs.workingDirectory
  nodeAt? : ∀ loc node, fs.nodeAt? loc = some node → node.isFile = false → fs'.nodeAt? loc = some node

namespace KeepsTree

theorem isDirectoryAt (h : fs.KeepsTree fs') (hdir : fs.isDirectoryAt loc = true) : fs'.isDirectoryAt loc = true :=
  isDirectoryAt_iff.2 (h.nodeAt? loc .directory (isDirectoryAt_iff.1 hdir) rfl)

/-- A path's place is the same one in the same tree. -/
theorem place (hkeep : fs.KeepsTree fs') (h : fs.place p = .ok (some target)) : fs'.place p = .ok (some target) := by
  obtain ⟨hc, ⟨above, hn, hleads⟩, hdir, hdot, hdots, hlen, hslash⟩ := place_eq_some_iff.1 h
  refine place_eq_some_iff.2 ⟨hc, ⟨above, hn, ?_⟩, hkeep.isDirectoryAt hdir, hdot, hdots, hlen, hslash⟩
  rw [hkeep.workingDirectory]
  refine hleads.of_kept fun l node hnode hl => hkeep.nodeAt? l node hnode ?_
  rcases hl with hkind | rfl
  · exact hkind
  · rw [isDirectoryAt_iff.1 hdir] at hnode
    cases hnode
    rfl

end KeepsTree

end FileSystem

end KubectlMatch
