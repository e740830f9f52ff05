import KubectlMatch.Proofs.Files.Directories
import KubectlMatch.Proofs.Files.Operations
/-!
# Files with and without an entry

`removeTree` takes away an entry and everything below it.  Whatever a path leads to without the entry, it leads to with
it as well.  The other way round a path can need the entry, but among the entries that are still there only those can
which are links, or have a directory that needs it.  What a directory lists is the same, but for the entry.
-/
namespace KubectlMatch

namespace FileSystem

open KubectlMatch.Path (IsPlain)

variable {fs : FileSystem} {top l here loc d : Location} {n m : Nat} {names : List FileName} {p dir : Path}
    {name : FileName}
  {node : Node}

theorem kept_iff : (!top.isSuffixOf l) = true ↔ ¬top <:+ l := by
  rw [Bool.not_eq_true', ← Bool.not_eq_true, List.isSuffixOf_iff_suffix]

theorem nodeAt?_removeTree (h : top ≠ []) :
    (fs.removeTree top).nodeAt? l = if top <:+ l then none else fs.nodeAt? l := by
  have hroot : (!top.isSuffixOf ([] : Location)) = true := kept_iff.2 fun hnil => h (List.suffix_nil.1 hnil)
  rw [removeTree, nodeAt?_keep (fun l => !top.isSuffixOf l) hroot]
  by_cases hl : top <:+ l
  · rw [if_pos hl, if_neg (by simpa using hl)]
  · rw [if_neg hl, if_pos (kept_iff.2 hl)]

theorem nodeAt?_removeTree_of_not_below (h : top ≠ []) (hl : ¬top <:+ l) :
    (fs.removeTree top).nodeAt? l = fs.nodeAt? l := by
  rw [nodeAt?_removeTree h, if_neg hl]

theorem not_below_of_nodeAt?_removeTree (h : top ≠ []) (hsome : ((fs.removeTree top).nodeAt? l).isSome) :
    ¬top <:+ l := by
  intro hl
  rw [nodeAt?_removeTree h, if_pos hl] at hsome
  cases hsome

theorem nodeAt?_of_removeTree (h : top ≠ []) (hnode : (fs.removeTree top).nodeAt? l = some node) :
    fs.nodeAt? l = some node := by
  have hl : ¬top <:+ l := not_below_of_nodeAt?_removeTree h (by rw [hnode]; rfl)
  rw [← nodeAt?_removeTree_of_not_below h hl, hnode]

theorem isDirectoryAt_removeTree (h : top ≠ []) (hl : ¬top <:+ l) :
    (fs.removeTree top).isDirectoryAt l = fs.isDirectoryAt l := by
  rw [isDirectoryAt, isDirectoryAt, nodeAt?_removeTree_of_not_below h hl]

theorem not_below_of_isDirectoryAt_removeTree (h : top ≠ []) (hdir : (fs.removeTree top).isDirectoryAt l = true) :
    ¬top <:+ l :=
  not_below_of_nodeAt?_removeTree h (by rw [isDirectoryAt_iff.1 hdir]; rfl)

theorem namesIn_removeTree (fs : FileSystem) (top d : Location) :
    (fs.removeTree top).namesIn d = (fs.namesIn d).filter fun name => !top.isSuffixOf (name :: d) := by
  unfold namesIn removeTree keep
  dsimp only
  rw [List.filterMap_filter, List.filter_filterMap]
  congr 1
  funext e
  obtain ⟨_ | ⟨name, above⟩, node⟩ := e
  · simp
  · by_cases habove : above = d
    · subst habove
      simp [Option.filter]
    · simp [habove]

theorem below_cons_iff {other : FileName} (hl : ¬name :: d <:+ l) : name :: d <:+ other :: l ↔
    other = name ∧ l = d := by
  rw [List.suffix_cons_iff]
  constructor
  · rintro (h | h)
    · exact ⟨(List.cons.inj h).1.symm, (List.cons.inj h).2.symm⟩
    · exact absurd h hl
  · rintro ⟨rfl, rfl⟩
    exact Or.inl rfl

theorem namesIn_removeTree_of_ne (hl : ¬name :: d <:+ l) (hne : l ≠ d) :
    (fs.removeTree (name :: d)).namesIn l = fs.namesIn l := by
  rw [namesIn_removeTree, List.filter_eq_self]
  intro other _
  exact kept_iff.2 fun hbelow => hne ((below_cons_iff hl).1 hbelow).2

/-- An entry that was put where nothing was can be taken away again. -/
theorem removeTree_put_self (hfree : ∀ e ∈ fs.entries, ¬top <:+ e.1) : (fs.put top node).removeTree top = fs := by
  have hput : (fs.put top node).removeTree top = fs.removeTree top := keep_put (by simp)
  have hkeep : fs.removeTree top = fs := keep_eq_self fun e he => kept_iff.2 (hfree e he)
  rw [hput, hkeep]

/-! ## Walks -/

theorem Leads.of_removeTree (h : top ≠ []) (hleads : (fs.removeTree top).Leads n names here loc) :
    fs.Leads n names here loc :=
  hleads.of_kept fun _ _ hnode _ => nodeAt?_of_removeTree h hnode

/-- Without the entry no walk gets to where it was. -/
theorem Leads.not_below (h : top ≠ []) (hleads : (fs.removeTree top).Leads n names here loc) (hhere : ¬top <:+ here) :
    ¬top <:+ loc := by
  induction hleads with
  | arrived => exact hhere
  | dot _ _ ih => exact ih hhere
  | dotDot _ _ ih => exact ih fun hbelow => hhere (hbelow.trans (List.tail_suffix _))
  | entry _ _ _ _ hnode _ _ ih => exact ih (not_below_of_nodeAt?_removeTree h (by rw [hnode]; rfl))
  | link _ _ _ _ _ _ ih =>
    refine ih ?_
    unfold start
    split
    · rw [List.suffix_nil]
      exact h
    · exact hhere

theorem locate_of_removeTree (h : top ≠ []) (hloc : (fs.removeTree top).locate p = .ok loc) :
    fs.locate p = .ok loc := by
  obtain ⟨hc, hleads⟩ := locate_eq_ok_iff.1 hloc
  exact locate_eq_ok_iff.2 ⟨hc, hleads.of_removeTree h⟩

theorem not_below_of_locate_removeTree (h : top ≠ []) (hloc : (fs.removeTree top).locate p = .ok loc) :
    ¬top <:+ loc := by
  obtain ⟨hc, hleads⟩ := locate_eq_ok_iff.1 hloc
  obtain ⟨name, rest, hsteps⟩ := List.exists_cons_of_ne_nil (Path.steps_ne_nil (check_eq_ok_iff.1 hc).2.1)
  rw [hsteps] at hleads
  exact hleads.not_below h (not_below_of_isDirectoryAt_removeTree h hleads.isDirectoryAt_of_cons)

/-- **A walk that comes to an end without the entry does not need it**: with the entry it passes the same links. -/
theorem Leads.removeTree (h : top ≠ []) (hwithout : (fs.removeTree top).Leads m names here d) :
    ∀ {n : Nat} {loc : Location}, fs.Leads n names here loc → (fs.removeTree top).Leads n names here loc := by
  induction hwithout with
  | arrived =>
    intro n loc hwith
    cases hwith
    exact .arrived
  | dot hdir _ ih =>
    intro n loc hwith
    cases hwith with
    | dot _ hrest => exact .dot hdir (ih hrest)
    | entry _ hdot => exact absurd rfl hdot
    | link _ hdot => exact absurd rfl hdot
  | dotDot hdir _ ih =>
    intro n loc hwith
    cases hwith with
    | dotDot _ hrest => exact .dotDot hdir (ih hrest)
    | entry _ _ hdots => exact absurd rfl hdots
    | link _ _ hdots => exact absurd rfl hdots
  | entry hdir hdot hdots hlen hnode hlink _ ih =>
    intro n loc hwith
    cases hwith with
    | dot => exact absurd rfl hdot
    | dotDot => exact absurd rfl hdots
    | entry _ _ _ _ _ _ hrest => exact .entry hdir hdot hdots hlen hnode hlink (ih hrest)
    | link _ _ _ _ haim _ =>
      rw [nodeAt?_of_removeTree h hnode, Option.some.injEq] at haim
      exact absurd haim (hlink _)
  | link hdir hdot hdots hlen hnode _ ih =>
    intro n loc hwith
    cases hwith with
    | dot => exact absurd rfl hdot
    | dotDot => exact absurd rfl hdots
    | entry _ _ _ _ hother hlink _ =>
      rw [nodeAt?_of_removeTree h hnode, Option.some.injEq] at hother
      exact absurd hother.symm (hlink _)
    | link _ _ _ _ haim hrest =>
      rw [nodeAt?_of_removeTree h hnode, Option.some.injEq, Node.link.injEq] at haim
      subst haim
      exact .link hdir hdot hdots hlen hnode (ih hrest)

/-- Every link that is still there leads where it led. -/
def LinksAvoid (fs : FileSystem) (top : Location) : Prop :=
  ∀ (name : FileName) (here : Location) (target : Path), ¬top <:+ name :: here →
    fs.nodeAt? (name :: here) = some (.link target) → ∀ n loc, fs.Leads n target.steps (start target here) loc →
    (fs.removeTree top).Leads n target.steps (start target here) loc

theorem Linkless.linksAvoid_put (h : fs.Linkless) (htop : top ≠ []) : (fs.put top node).LinksAvoid top := by
  intro name here target hbelow hlink
  have hne : name :: here ≠ top := fun heq => hbelow (heq ▸ List.suffix_refl _)
  rw [nodeAt?_put_of_ne htop hne] at hlink
  exact absurd hlink (h (name :: here) target)

/-- **An entry that is still there leads where it led**, if its directory's path and the links do. -/
theorem locate_join_removeTree (htop : top ≠ []) (hplain : IsPlain name) (hlinks : fs.LinksAvoid top)
    (hd : (fs.removeTree top).locate dir = .ok d) (hsome : ((fs.removeTree top).nodeAt? (name :: d)).isSome)
    (hloc : fs.locate (dir.join name) = .ok loc) : (fs.removeTree top).locate (dir.join name) = .ok loc := by
  have hne := bytes_ne_nil_of_locate hd
  have hbelow := not_below_of_nodeAt?_removeTree htop hsome
  obtain ⟨hc, hleads⟩ := locate_eq_ok_iff.1 hloc
  rw [Path.steps_join hplain hne, start_of_isAbsolute (Path.isAbsolute_join hplain hne)] at hleads
  obtain ⟨k, m, mid, hlinkLimit, hnames, hname⟩ := hleads.split_links dir.names [name] rfl
  -- The walk to the directory is the one that is there without the entry, so it ends in the same directory.
  have hmid : mid = d := hnames.unique ((leads_of_locate hd).of_removeTree htop)
  subst hmid
  have hdir := hname.isDirectoryAt_of_cons
  have hfirst : (fs.removeTree top).Leads k dir.names (start dir fs.workingDirectory) mid :=
    (leads_of_locate hd).removeTree htop hnames
  have hsecond : (fs.removeTree top).Leads m [name] mid loc := by
    have hdir' : (fs.removeTree top).isDirectoryAt mid = true := by
      rw [isDirectoryAt_removeTree htop (not_below_of_locate_removeTree htop hd)]
      exact hdir
    have hnode : (fs.removeTree top).nodeAt? (name :: mid) = fs.nodeAt? (name :: mid) :=
      nodeAt?_removeTree_of_not_below htop hbelow
    cases hname with
    | dot => exact absurd rfl hplain.ne_dot
    | dotDot => exact absurd rfl hplain.ne_dotDot
    | entry _ hdot hdots hlen hthere hlink hrest =>
      cases hrest
      exact .entry hdir' hdot hdots hlen (hnode.trans hthere) hlink .arrived
    | link _ hdot hdots hlen hthere hrest =>
      rw [List.append_nil] at hrest
      refine .link hdir' hdot hdots hlen (hnode.trans hthere) ?_
      rw [List.append_nil]
      exact hlinks _ _ _ hbelow hthere _ _ hrest
  refine locate_eq_ok_iff.2 ⟨hc, ?_⟩
  rw [Path.steps_join hplain hne, start_of_isAbsolute (Path.isAbsolute_join hplain hne), ← hlinkLimit]
  exact hfirst.append hsecond

/-! ## What a path shows -/

theorem stat_removeTree (h : top ≠ []) (hsame : ∀ loc, fs.locate p = .ok loc → (fs.removeTree top).locate p = .ok loc) :
    (fs.removeTree top).stat p = .ok node ↔ fs.stat p = .ok node := by
  rw [stat_eq_ok_iff, stat_eq_ok_iff]
  constructor
  · rintro ⟨loc, hloc, hpermit, hnode⟩
    rw [nodeAt?_removeTree_of_not_below h (not_below_of_locate_removeTree h hloc)] at hnode
    exact ⟨loc, locate_of_removeTree h hloc, hpermit, hnode⟩
  · rintro ⟨loc, hloc, hpermit, hnode⟩
    have hloc' := hsame loc hloc
    refine ⟨loc, hloc', hpermit, ?_⟩
    rw [nodeAt?_removeTree_of_not_below h (not_below_of_locate_removeTree h hloc'), hnode]

theorem Lists.of_removeTree (h : top ≠ []) (hlists : (fs.removeTree top).Lists p d) : fs.Lists p d := by
  have hd := not_below_of_locate_removeTree h hlists.locate
  exact ⟨locate_of_removeTree h hlists.locate, isDirectoryAt_removeTree h hd ▸ hlists.isDirectoryAt, hlists.permit⟩

end FileSystem

end KubectlMatch
