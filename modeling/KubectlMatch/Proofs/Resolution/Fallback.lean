import KubectlMatch.Resolution.Policy
/-!
# The fallback machine

The decision on a version is a machine of five stages.  Three of them ask somebody, carrying along why the cluster did
not answer, and two are ends.  `versionToUse` is this machine: it is at an end after three steps whatever the answers
are, and the answers alone say at which end it is and who was asked on the way.
-/
namespace KubectlMatch

namespace Collaborators

/-- Where the decision on a version stands. -/
inductive Stage where
  | askingCluster
  /-- The cluster did not answer, for the cause that is kept. -/
  | askingFinder (cause : ProbeError)
  /-- Nothing is installed either. -/
  | askingMirror (cause : ProbeError)
  | decided (version : Version)
  | failed (error : ResolveError)

namespace Stage

/-- The stage that a decision ends in. -/
def ofResult : Except ResolveError Version → Stage
  | .ok version => .decided version
  | .error e => .failed e

/-- How many more parties can be asked. -/
def questionsLeft : Stage → Nat
  | askingCluster => 3
  | askingFinder _ => 2
  | askingMirror _ => 1
  | decided _ => 0
  | failed _ => 0

/-- The stage after the cluster's answer. -/
def afterCluster : Except ProbeError Version → Stage
  | .ok version => .decided version
  | .error e => .askingFinder e

/-- The stage after the finder's answer.  Only the lack of any binary is a reason to ask the mirror. -/
def afterFinder (cause : ProbeError) : Except FinderError Binary → Stage
  | .ok binary => .decided binary.version
  | .error .noneFound => .askingMirror cause
  | .error _ => .failed (.probe cause)

/-- The stage after the mirror's answer. -/
def afterMirror (cause : ProbeError) : Except DownloadError Version → Stage
  | .ok version => .decided version
  | .error _ => .failed (.probe cause)

theorem questionsLeft_afterMirror (cause : ProbeError) (r : Except DownloadError Version) :
    (afterMirror cause r).questionsLeft = 0 := by
  cases r <;> rfl

end Stage

section Machine

variable {m : Type → Type} [Monad m]

/-- One step of the machine: asks who is next, or stays at an end. -/
def advance (c : Collaborators m) (timeout : Duration) : Stage → m Stage
  | .askingCluster => Stage.afterCluster <$> c.probe timeout
  | .askingFinder cause => Stage.afterFinder cause <$> c.mostRecent
  | .askingMirror cause => Stage.afterMirror cause <$> c.stable
  | .decided version => pure (.decided version)
  | .failed e => pure (.failed e)

/-- Several steps. -/
def advances (c : Collaborators m) (timeout : Duration) : Nat → Stage → m Stage
  | 0, stage => pure stage
  | n + 1, stage => c.advance timeout stage >>= c.advances timeout n

variable [LawfulMonad m] (c : Collaborators m) (timeout : Duration)

/-- At an end the machine stays. -/
theorem advances_of_ended {stage : Stage} (h : stage.questionsLeft = 0) :
    ∀ n, c.advances timeout n stage = pure stage
  | 0 => rfl
  | n + 1 => by
    have hstay : c.advance timeout stage = pure stage := by
      cases stage
      · cases h
      · cases h
      · cases h
      · rfl
      · rfl
    rw [advances, hstay, pure_bind, advances_of_ended h n]

theorem advances_askingMirror (cause : ProbeError) (n : Nat) :
    c.advances timeout (n + 1) (.askingMirror cause) = Stage.afterMirror cause <$> c.stable := by
  show (Stage.afterMirror cause <$> c.stable) >>= c.advances timeout n = _
  rw [bind_map_left, map_eq_pure_bind]
  refine bind_congr fun r => ?_
  exact c.advances_of_ended timeout (Stage.questionsLeft_afterMirror cause r) n

/-- **The decision is the machine**, in whatever way the parties answer: from the start it is at an end after three
steps, and after any more, and the end is what was decided. -/
theorem advances_askingCluster (n : Nat) :
    c.advances timeout (n + 3) .askingCluster = Stage.ofResult <$> c.versionToUse timeout := by
  have hend : ∀ r, (pure (Stage.ofResult r) : m Stage) = Stage.ofResult <$> pure r := fun r => (map_pure _ r).symm
  show (Stage.afterCluster <$> c.probe timeout) >>= c.advances timeout (n + 2) = _
  rw [bind_map_left, versionToUse, map_bind]
  refine bind_congr fun r => ?_
  cases r with
  | ok v =>
    rw [Stage.afterCluster, c.advances_of_ended timeout rfl]
    exact hend (.ok v)
  | error e =>
    show (Stage.afterFinder e <$> c.mostRecent) >>= c.advances timeout (n + 1) = _
    rw [bind_map_left, map_bind]
    refine bind_congr fun r => ?_
    match r with
    | .ok b =>
      rw [Stage.afterFinder, c.advances_of_ended timeout rfl]
      exact hend (.ok b.version)
    | .error (.noneCompatible _) =>
      rw [Stage.afterFinder, c.advances_of_ended timeout rfl]
      · exact hend (.error (.probe e))
      · exact nofun
    | .error (.unlisted _ _) =>
      rw [Stage.afterFinder, c.advances_of_ended timeout rfl]
      · exact hend (.error (.probe e))
      · exact nofun
    | .error .noneFound =>
      rw [Stage.afterFinder, advances_askingMirror, map_bind, map_eq_pure_bind]
      refine bind_congr fun r => ?_
      cases r with
      | error _ => exact hend (.error (.probe e))
      | ok v => exact hend (.ok v)

end Machine

/-! ## Who is asked -/

section Traced

variable {σ α β : Type} (c : Collaborators (StateM σ)) (timeout : Duration) (calls : List Call) (s : σ)

theorem run_noted (call : Call) (action : StateM σ α) : ((noted call action).run calls).run s =
    (((action.run s).1, calls ++ [call]), (action.run s).2) := rfl

theorem run_traced_bind (action : StateT (List Call) (StateM σ) α) (next : α → StateT (List Call) (StateM σ) β) :
    ((action >>= next).run calls).run s =
      ((next ((action.run calls).run s).1.1).run ((action.run calls).run s).1.2).run ((action.run calls).run s).2 := rfl

/-- The decision once the cluster has not answered. -/
def fallBack {m : Type → Type} [Monad m] (c : Collaborators m) (cause : ProbeError) :
    m (Except ResolveError Version) := do
  match ← c.mostRecent with
  | .ok binary => return .ok binary.version
  | .error .noneFound =>
    match ← c.stable with
    | .ok version => return .ok version
    | .error _ => return .error (.probe cause)
  | .error _ => return .error (.probe cause)

variable {timeout} {s} {s₁ s₂ s₃ : σ} {e : ProbeError}

theorem run_versionToUse_ok {v : Version} (hp : (c.probe timeout).run s = (.ok v, s₁)) :
    ((c.traced.versionToUse timeout).run calls).run s = ((.ok v, calls ++ [.probe timeout]), s₁) := by
  rw [versionToUse, run_traced_bind, traced, run_noted, hp]
  rfl

theorem run_versionToUse_error (hp : (c.probe timeout).run s = (.error e, s₁)) :
    ((c.traced.versionToUse timeout).run calls).run s =
      ((c.traced.fallBack e).run (calls ++ [.probe timeout])).run s₁ := by
  rw [versionToUse, run_traced_bind, traced, run_noted, hp]
  rfl

theorem run_fallBack_ok {b : Binary} (hf : c.mostRecent.run s = (.ok b, s₁)) :
    ((c.traced.fallBack e).run calls).run s = ((.ok b.version, calls ++ [.mostRecent]), s₁) := by
  rw [fallBack, run_traced_bind, traced, run_noted, hf]
  rfl

theorem run_fallBack_error {f : FinderError} (hne : f ≠ .noneFound) (hf : c.mostRecent.run s = (.error f, s₁)) :
    ((c.traced.fallBack e).run calls).run s = ((.error (.probe e), calls ++ [.mostRecent]), s₁) := by
  rw [fallBack, run_traced_bind, traced, run_noted, hf]
  cases f
  · rfl
  · exact absurd rfl hne
  · rfl

theorem run_fallBack_noneFound (hf : c.mostRecent.run s = (.error .noneFound, s₁)) :
    ((c.traced.fallBack e).run calls).run s =
      (((c.stable.run s₁).1.mapError fun _ => .probe e, calls ++ [.mostRecent] ++ [.stable]), (c.stable.run s₁).2) := by
  rw [fallBack, run_traced_bind, traced, run_noted, hf]
  dsimp only
  rw [run_traced_bind, run_noted]
  rcases c.stable.run s₁ with ⟨_ | v, s₂⟩
  · rfl
  · rfl

end Traced

/-- **The decision on a version is the fallback machine**, for all answers of the parties, which may change the state
that they share.  From its first stage the machine is at an end after three steps and stays there, and the end is what
is decided.  A version from the cluster is final.  Whatever the cluster's failure, the finder is asked next, and a
binary's version is final.  Only where nothing is installed is the mirror asked, and its version is final.  All other
ends are the cluster's own failure.  The calls are always the first one, two or three of the same list, and nothing is
ever fetched. -/
theorem versionToUse_follows_stages {σ : Type} (c : Collaborators (StateM σ)) (timeout : Duration) (s : σ) :
    let cluster := (c.probe timeout).run s
    let installed := c.mostRecent.run cluster.2
    let stable := c.stable.run installed.2
    let out := ((c.traced.versionToUse timeout).run []).run s
    (∀ n, ((c.traced.advances timeout (n + 3) .askingCluster).run []).run s = ((.ofResult out.1.1, out.1.2), out.2)) ∧
    (∀ v, cluster.1 = .ok v → out = ((.ok v, [.probe timeout]), cluster.2)) ∧
    (∀ e, cluster.1 = .error e →
      (∀ b, installed.1 = .ok b → out = ((.ok b.version, [.probe timeout, .mostRecent]), installed.2)) ∧
      (installed.1 = .error .noneFound →
        (∀ v, stable.1 = .ok v → out = ((.ok v, [.probe timeout, .mostRecent, .stable]), stable.2)) ∧
        (∀ d, stable.1 = .error d →
          out = ((.error (.probe e), [.probe timeout, .mostRecent, .stable]), stable.2))) ∧
      (∀ f, f ≠ .noneFound → installed.1 = .error f →
        out = ((.error (.probe e), [.probe timeout, .mostRecent]), installed.2))) ∧
    out.1.2 <+: [.probe timeout, .mostRecent, .stable] ∧ ∀ v destination, Call.fetch v destination ∉ out.1.2 := by
  intro cluster installed stable out
  have hmachine : ∀ n, ((c.traced.advances timeout (n + 3) .askingCluster).run []).run s
      = ((.ofResult out.1.1, out.1.2), out.2) := fun n => by
    rw [advances_askingCluster]
    rfl
  have hcluster : ∀ v, cluster.1 = .ok v → out = ((.ok v, [.probe timeout]), cluster.2) :=
    fun v hv => run_versionToUse_ok c [] (Prod.ext hv rfl)
  have hfallen : ∀ e, cluster.1 = .error e → out = ((c.traced.fallBack e).run [.probe timeout]).run cluster.2 :=
    fun e he => run_versionToUse_error c [] (Prod.ext he rfl)
  have hfound : ∀ e, cluster.1 = .error e → ∀ b, installed.1 = .ok b →
      out = ((.ok b.version, [.probe timeout, .mostRecent]), installed.2) := fun e he b hb => by
    rw [hfallen e he]
    exact run_fallBack_ok c [.probe timeout] (Prod.ext hb rfl)
  have hnone : ∀ e, cluster.1 = .error e → installed.1 = .error .noneFound →
      out = ((stable.1.mapError fun _ => .probe e, [.probe timeout, .mostRecent, .stable]), stable.2) :=
        fun e he hn => by
    rw [hfallen e he]
    exact run_fallBack_noneFound c [.probe timeout] (Prod.ext hn rfl)
  have hother : ∀ e, cluster.1 = .error e → ∀ f, f ≠ .noneFound → installed.1 = .error f →
      out = ((.error (.probe e), [.probe timeout, .mostRecent]), installed.2) := fun e he f hne hf => by
    rw [hfallen e he]
    exact run_fallBack_error c [.probe timeout] hne (Prod.ext hf rfl)
  have hcalls : out.1.2 <+: [.probe timeout, .mostRecent, .stable] := by
    cases hp : cluster.1 with
    | ok v => rw [hcluster v hp]; exact ⟨_, rfl⟩
    | error e =>
      cases hf : installed.1 with
      | ok b => rw [hfound e hp b hf]; exact ⟨_, rfl⟩
      | error f =>
        by_cases hn : f = .noneFound
        · exact ⟨[], congrArg (fun r => r.1.2 ++ []) (hnone e hp (hn ▸ hf))⟩
        · rw [hother e hp f hn hf]; exact ⟨_, rfl⟩
  refine ⟨hmachine, hcluster, fun e he => ⟨hfound e he, fun hn => ⟨fun v hv => ?_, fun d hd => ?_⟩, hother e he⟩,
    hcalls, fun v destination hmem => ?_⟩
  · rw [hnone e he hn, hv]
    rfl
  · rw [hnone e he hn, hd]
    rfl
  · have := hcalls.subset hmem
    simp at this

end Collaborators

end KubectlMatch
