import KubectlMatch.Files.Operations
import KubectlMatch.Proofs.Files.Changes
/-!
# Where paths lead

A walk that comes to an end is a derivation: `Leads` has one rule for each thing that the next name can be, and counts
the links that are passed.  Walks can be put together and taken apart, and a walk to a directory meets only directories
and links.  Therefore it is the same in every file system that keeps them (`KeepsTree`), whatever becomes of the files,
and so are the place of a path and the location of a directory.
-/
namespace KubectlMatch

namespace Path

/-- The names of a path, without the demand for a directory that a slash at the end makes. -/
def names (p : Path) : List FileName := (p.segments.filter fun segment => !segment.isEmpty).map HostText.mk

theorem steps_eq (p : Path) : p.steps = p.names ++ if p.endsInSlash then [dot] else [] := rfl

theorem names_eq (p : Path) : (if p.endsInSlash then p.steps.dropLast else p.steps) = p.names := by
  rw [steps_eq]
  cases p.endsInSlash with
  | true => exact List.dropLast_concat
  | false => exact List.append_nil _

end Path

namespace FileSystem

/-- The names lead from the first location to the second, through at most so many links. -/
inductive Leads (fs : FileSystem) : Nat → List FileName → Location → Location → Prop
  | arrived {n : Nat} {here : Location} : Leads fs n [] here here
  | dot {n : Nat} {rest : List FileName} {here loc : Location} (hdir : fs.isDirectoryAt here = true)
      (hrest : Leads fs n rest here loc) : Leads fs n (Path.dot :: rest) here loc
  | dotDot {n : Nat} {rest : List FileName} {here loc : Location} (hdir : fs.isDirectoryAt here = true)
      (hrest : Leads fs n rest here.tail loc) : Leads fs n (Path.dotDot :: rest) here loc
  | entry {n : Nat} {name : FileName} {rest : List FileName} {here loc : Location} {node : Node}
      (hdir : fs.isDirectoryAt here = true) (hdot : name ≠ Path.dot) (hdots : name ≠ Path.dotDot)
      (hlen : name.bytes.length ≤ nameLimit) (hnode : fs.nodeAt? (name :: here) = some node)
      (hlink : ∀ target, node ≠ .link target) (hrest : Leads fs n rest (name :: here) loc) :
      Leads fs n (name :: rest) here loc
  | link {n : Nat} {name : FileName} {rest : List FileName} {here loc : Location} {target : Path}
      (hdir : fs.isDirectoryAt here = true) (hdot : name ≠ Path.dot) (hdots : name ≠ Path.dotDot)
      (hlen : name.bytes.length ≤ nameLimit) (hnode : fs.nodeAt? (name :: here) = some (.link target))
      (hrest : Leads fs n (target.steps ++ rest) (start target here) loc) : Leads fs (n + 1) (name :: rest) here loc

variable {fs fs' fs'' : FileSystem} {n m : Nat} {name : FileName} {xs ys names rest : List FileName}
  {here mid loc : Location} {p : Path}

/-! ## Walks are derivations -/

/-- What a walk does at a link. -/
def passLink (fs : FileSystem) : Nat → Path → Location → List FileName → Except Errno Location
  | 0, _, _, _ => .error .tooManyLinks
  | n + 1, target, here, rest => fs.walk n (target.steps ++ rest) (start target here)

theorem walk_eq (fs : FileSystem) (n : Nat) : fs.walk n = fs.walkWith (fs.passLink n) := by
  cases n <;> rfl

/-- The recursion is on the names; what happens behind a link is known for walks through fewer links. -/
theorem leads_of_walkWith (hpass : ∀ target here rest, fs.passLink n target here rest = .ok loc →
    ∃ k, n = k + 1 ∧ fs.Leads k (target.steps ++ rest) (start target here) loc) :
    ∀ names here, fs.walkWith (fs.passLink n) names here = .ok loc → fs.Leads n names here loc
  | [], here, h => by
    rw [walkWith] at h
    cases h
    exact .arrived
  | name :: rest, here, h => by
    rw [walkWith] at h
    by_cases hdir : fs.isDirectoryAt here = true
    · rw [if_neg (by simp [hdir])] at h
      by_cases hdot : name = Path.dot
      · rw [if_pos hdot] at h
        rw [hdot]
        exact .dot hdir (leads_of_walkWith hpass rest here h)
      rw [if_neg hdot] at h
      by_cases hdots : name = Path.dotDot
      · rw [if_pos hdots] at h
        rw [hdots]
        exact .dotDot hdir (leads_of_walkWith hpass rest here.tail h)
      rw [if_neg hdots] at h
      by_cases hlen : name.bytes.length > nameLimit
      · rw [if_pos hlen] at h
        cases h
      rw [if_neg hlen] at h
      have hlen := Nat.le_of_not_gt hlen
      cases hnode : fs.nodeAt? (name :: here) with
      | none =>
        rw [hnode] at h
        cases h
      | some node =>
        rw [hnode] at h
        cases node with
        | link target =>
          obtain ⟨k, rfl, hk⟩ := hpass target here rest h
          exact .link hdir hdot hdots hlen hnode hk
        | directory => exact .entry hdir hdot hdots hlen hnode nofun (leads_of_walkWith hpass rest (name :: here) h)
        | file mode content =>
          exact .entry hdir hdot hdots hlen hnode nofun (leads_of_walkWith hpass rest (name :: here) h)
    · rw [if_pos (by simp [hdir])] at h
      cases h

theorem leads_of_walk : ∀ n names here, fs.walk n names here = .ok loc → fs.Leads n names here loc
  | 0, names, here, h => by
    rw [walk_eq] at h
    exact leads_of_walkWith (fun _ _ _ hpass => by rw [passLink] at hpass; cases hpass) names here h
  | n + 1, names, here, h => by
    rw [walk_eq] at h
    exact leads_of_walkWith (fun target here rest hpass => ⟨n, rfl, leads_of_walk n _ _ hpass⟩) names here h

theorem Leads.walk (h : fs.Leads n names here loc) : fs.walk n names here = .ok loc := by
  induction h with
  | arrived => rw [walk_eq, walkWith]
  | dot hdir _ ih =>
    rw [walk_eq] at ih ⊢
    rw [walkWith, if_neg (by simp [hdir]), if_pos rfl, ih]
  | dotDot hdir _ ih =>
    rw [walk_eq] at ih ⊢
    rw [walkWith, if_neg (by simp [hdir]), if_neg (by decide), if_pos rfl, ih]
  | @entry _ _ _ _ _ node hdir hdot hdots hlen hnode hlink _ ih =>
    rw [walk_eq] at ih ⊢
    rw [walkWith, if_neg (by simp [hdir]), if_neg hdot, if_neg hdots, if_neg (Nat.not_lt.2 hlen), hnode]
    cases node with
    | link target => exact absurd rfl (hlink target)
    | directory => exact ih
    | file mode content => exact ih
  | link hdir hdot hdots hlen hnode _ ih =>
    rw [walk_eq, walkWith, if_neg (by simp [hdir]), if_neg hdot, if_neg hdots, if_neg (Nat.not_lt.2 hlen), hnode]
    exact ih

/-- **A walk comes to an end exactly where the rules lead.** -/
theorem walk_eq_ok_iff : fs.walk n names here = .ok loc ↔ fs.Leads n names here loc :=
  ⟨leads_of_walk n names here, Leads.walk⟩

/-! ## Putting walks together and taking them apart -/

theorem Leads.mono (h : fs.Leads n names here loc) : ∀ m, n ≤ m → fs.Leads m names here loc := by
  induction h with
  | arrived => exact fun _ _ => .arrived
  | dot hdir _ ih => exact fun m hm => .dot hdir (ih m hm)
  | dotDot hdir _ ih => exact fun m hm => .dotDot hdir (ih m hm)
  | entry hdir hdot hdots hlen hnode hlink _ ih =>
    exact fun m hm => .entry hdir hdot hdots hlen hnode hlink (ih m hm)
  | link hdir hdot hdots hlen hnode _ ih =>
    intro m hm
    obtain ⟨k, rfl⟩ : ∃ k, m = k + 1 := ⟨m - 1, by omega⟩
    exact .link hdir hdot hdots hlen hnode (ih k (by omega))

theorem Leads.append (h : fs.Leads n xs here mid) (hys : fs.Leads m ys mid loc) :
    fs.Leads (n + m) (xs ++ ys) here loc := by
  induction h with
  | arrived => exact hys.mono _ (Nat.le_add_left ..)
  | dot hdir _ ih => exact .dot hdir (ih hys)
  | dotDot hdir _ ih => exact .dotDot hdir (ih hys)
  | entry hdir hdot hdots hlen hnode hlink _ ih => exact .entry hdir hdot hdots hlen hnode hlink (ih hys)
  | @link n _ _ _ _ _ hdir hdot hdots hlen hnode _ ih =>
    rw [Nat.succ_add]
    refine .link hdir hdot hdots hlen hnode ?_
    show fs.Leads _ (_ ++ (_ ++ ys)) _ _
    rw [← List.append_assoc]
    exact ih hys

/-- Every walk stops over behind any of its names, and each link is passed on one side. -/
theorem Leads.split_links : ∀ {n : Nat} {names : List FileName} {here loc : Location}, fs.Leads n names here loc →
    ∀ xs ys, names = xs ++ ys → ∃ k m mid, k + m = n ∧ fs.Leads k xs here mid ∧ fs.Leads m ys mid loc
  | n, _, here, _, h, [], ys, hsplit => ⟨0, n, here, Nat.zero_add n, .arrived, (show _ = ys from hsplit) ▸ h⟩
  | _, _, _, _, .arrived, x :: xs, ys, hsplit => nomatch hsplit
  | _, _, _, _, .dot hdir hrest, x :: xs, ys, hsplit => by
    obtain ⟨rfl, htail⟩ := List.cons.inj hsplit
    obtain ⟨k, m, mid, hn, hxs, hys⟩ := Leads.split_links hrest xs ys htail
    exact ⟨k, m, mid, hn, .dot hdir hxs, hys⟩
  | _, _, _, _, .dotDot hdir hrest, x :: xs, ys, hsplit => by
    obtain ⟨rfl, htail⟩ := List.cons.inj hsplit
    obtain ⟨k, m, mid, hn, hxs, hys⟩ := Leads.split_links hrest xs ys htail
    exact ⟨k, m, mid, hn, .dotDot hdir hxs, hys⟩
  | _, _, _, _, .entry hdir hdot hdots hlen hnode hlink hrest, x :: xs, ys, hsplit => by
    obtain ⟨rfl, htail⟩ := List.cons.inj hsplit
    obtain ⟨k, m, mid, hn, hxs, hys⟩ := Leads.split_links hrest xs ys htail
    exact ⟨k, m, mid, hn, .entry hdir hdot hdots hlen hnode hlink hxs, hys⟩
  | _, _, _, _, @Leads.link _ _ _ rest _ _ target hdir hdot hdots hlen hnode hrest, x :: xs, ys, hsplit => by
    obtain ⟨rfl, htail⟩ := List.cons.inj hsplit
    have hthrough : target.steps ++ rest = (target.steps ++ xs) ++ ys := by
      rw [htail]
      exact (List.append_assoc ..).symm
    obtain ⟨k, m, mid, hn, hxs, hys⟩ := Leads.split_links hrest (target.steps ++ xs) ys hthrough
    exact ⟨k + 1, m, mid, by omega, .link hdir hdot hdots hlen hnode hxs, hys⟩

theorem Leads.split (h : fs.Leads n names here loc) (xs ys : List FileName) (hsplit : names = xs ++ ys) :
    ∃ mid, fs.Leads n xs here mid ∧ fs.Leads n ys mid loc := by
  obtain ⟨k, m, mid, hn, hxs, hys⟩ := h.split_links xs ys hsplit
  exact ⟨mid, hxs.mono n (by omega), hys.mono n (by omega)⟩

/-- The walk through one name more is in a directory before it. -/
theorem Leads.isDirectoryAt_of_cons (h : fs.Leads n (name :: rest) here loc) : fs.isDirectoryAt here = true := by
  cases h <;> assumption

/-- What a name that is none of the two dots must be for a walk to pass it. -/
theorem Leads.of_cons (h : fs.Leads n (name :: rest) here loc) (hdot : name ≠ Path.dot) (hdots : name ≠ Path.dotDot) :
    name.bytes.length ≤ nameLimit ∧ (fs.nodeAt? (name :: here)).isSome := by
  cases h with
  | dot => exact absurd rfl hdot
  | dotDot => exact absurd rfl hdots
  | entry _ _ _ hlen hnode => exact ⟨hlen, by rw [hnode]; rfl⟩
  | link _ _ _ hlen hnode => exact ⟨hlen, by rw [hnode]; rfl⟩

theorem Leads.unique {loc' : Location} (h : fs.Leads n names here loc) (h' : fs.Leads m names here loc') :
    loc = loc' := by
  have hwalk := (h.mono (max n m) (Nat.le_max_left n m)).walk
  rw [(h'.mono (max n m) (Nat.le_max_right n m)).walk] at hwalk
  exact (Except.ok.inj hwalk).symm

/-- **Without steps up and without links a walk goes down**, along its names. -/
theorem Leads.goes_down {top : Location} (h : fs.Leads n names here loc) (hup : Path.dotDot ∉ names)
    (hhere : top <:+ here)
    (hlink : ∀ l aim, top <:+ l → fs.nodeAt? l ≠ some (.link aim)) :
    loc = (names.filter fun name => name ≠ Path.dot).reverse ++ here ∧
      ((fs.nodeAt? here).isSome → (fs.nodeAt? loc).isSome) := by
  have hrest : ∀ {name : FileName} {rest : List FileName}, Path.dotDot ∉ name :: rest → Path.dotDot ∉ rest :=
    fun hup hmem => hup (List.mem_cons_of_mem _ hmem)
  induction h with
  | arrived => exact ⟨rfl, id⟩
  | dot _ _ ih =>
    obtain ⟨hloc, hsome⟩ := ih (hrest hup) hhere
    rw [List.filter_cons_of_neg (by simp)]
    exact ⟨hloc, hsome⟩
  | dotDot => exact absurd List.mem_cons_self hup
  | entry _ hdot _ _ hnode _ _ ih =>
    obtain ⟨hloc, hsome⟩ := ih (hrest hup) (hhere.trans (List.suffix_cons _ _))
    rw [List.filter_cons_of_pos (by simpa using hdot), List.reverse_cons, List.append_assoc]
    exact ⟨hloc, fun _ => hsome (by rw [hnode]; rfl)⟩
  | link _ _ _ _ hnode _ _ => exact absurd hnode (hlink _ _ (hhere.trans (List.suffix_cons _ _)))

end FileSystem

end KubectlMatch
