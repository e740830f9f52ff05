import KubectlMatch.Launch.Replace
import KubectlMatch.Proofs.Success
/-!
# What is started

A program that is started is the file that its path leads to, whatever interpreters are started on the way, and it is
given what it was to be given.  Under a path with a slash in it no other file is looked for, so that a handover can end
only as the binary it was made for (`replace_eq_ok`).
-/
namespace KubectlMatch

namespace Image

variable {fs : FileSystem} {p : Path} {args : List HostText} {env : Environment} {image : Image} {loc : Location}

/-- What an image takes over from the call that makes it.  The shell reads the file only if the system cannot tell how
to start it. -/
structure Starts (image : Image) (fs : FileSystem) (p : Path) (args : List HostText) (env : Environment) : Prop where
  locate : fs.locate p = .ok image.file
  args : image.args = args
  env : image.env = env
  asScript : image.asScript = true ↔ startable fs interpreterLimit p = .error (.system .notExecutable)

theorem locate_of_executable {content : Bytes} (h : executable fs p = .ok (loc, content)) : fs.locate p = .ok loc := by
  obtain ⟨found, hfound, h⟩ := bind_eq_ok_iff.1 h
  split at h
  · split at h
    · cases h
      exact hfound
    · cases h
  · cases h

theorem startableAlone_eq_ok {content : Bytes} {found : Location} (h : startableAlone found content = .ok loc) :
    found = loc := by
  unfold startableAlone at h
  split at h
  · exact Except.ok.inj h
  · cases h

theorem locate_of_startable : ∀ {limit : Nat}, startable fs limit p = .ok loc → fs.locate p = .ok loc
  | 0, h => by
    obtain ⟨⟨found, content⟩, hfound, h⟩ := bind_eq_ok_iff.1 h
    dsimp only at h
    split at h
    · rw [← startableAlone_eq_ok h]
      exact locate_of_executable hfound
    · cases h
  | limit + 1, h => by
    obtain ⟨⟨found, content⟩, hfound, h⟩ := bind_eq_ok_iff.1 h
    dsimp only at h
    split at h
    · rw [← startableAlone_eq_ok h]
      exact locate_of_executable hfound
    · rename_i name _
      by_cases hname : name.isEmpty = true
      · rw [if_pos hname] at h
        cases h
      · rw [if_neg hname] at h
        obtain ⟨_, _, h⟩ := bind_eq_ok_iff.1 h
        cases h
        exact locate_of_executable hfound

theorem startFile_eq_ok (h : startFile fs p args env = .ok image) : image.Starts fs p args env := by
  obtain ⟨loc, hloc, h⟩ := bind_eq_ok_iff.1 h
  cases h
  refine ⟨locate_of_startable hloc, rfl, rfl, nofun, fun hnot => ?_⟩
  rw [hloc] at hnot
  cases hnot

theorem startOrRead_eq_ok (h : startOrRead fs args env p = .ok image) : image.Starts fs p args env := by
  unfold startOrRead at h
  split at h
  · rename_i e hstart
    split at h
    · rename_i hnot
      obtain ⟨loc, hloc, h⟩ := bind_eq_ok_iff.1 h
      obtain ⟨_, _, h⟩ := bind_eq_ok_iff.1 h
      cases h
      refine ⟨hloc, rfl, rfl, fun _ => ?_, fun _ => rfl⟩
      rw [← hnot]
      rcases bind_eq_error_iff.1 hstart with hstartable | ⟨_, _, hdone⟩
      · exact hstartable
      · cases hdone
    · cases h
  · exact startFile_eq_ok h

/-- Under a name with a slash in it nothing else is looked for. -/
theorem exec_eq_ok (hslash : Path.slash ∈ p.bytes) (h : exec fs p args env = .ok image) :
    image.Starts fs p args env := by
  obtain ⟨_, _, h⟩ := bind_eq_ok_iff.1 h
  unfold startFrom at h
  split at h
  · cases h
  · rw [if_pos (List.contains_iff_mem.2 hslash)] at h
    exact startOrRead_eq_ok h

theorem replace_eq_ok (hslash : Path.slash ∈ p.bytes) (h : replace fs p args env = .ok image) :
    image.Starts fs p args (lastOfEach env) := by
  obtain ⟨_, _, h⟩ := bind_eq_ok_iff.1 h
  exact exec_eq_ok hslash (mapError_eq_ok_iff.1 h)

/-! ## One value for each variable -/

theorem any_lastValues (name : HostText) : ∀ env : Environment,
    (lastValues env).any (·.1 == name) = env.any (·.1 == name)
  | [] => rfl
  | entry :: env => by
    rw [List.any_cons, ← any_lastValues name env]
    show (if (lastValues env).any (·.1 == entry.1) then lastValues env else entry :: lastValues env).any _ = _
    split
    · rename_i hlater
      by_cases hname : entry.1 = name
      · rw [← hname, hlater, Bool.or_true]
      · rw [beq_false_of_ne hname, Bool.false_or]
    · rw [List.any_cons]

theorem lastValues_cons (entry : HostText × HostText) (env : Environment) : lastValues (entry :: env) =
    if env.any (·.1 == entry.1) then lastValues env else entry :: lastValues env := by
  rw [← any_lastValues]
  rfl

theorem mem_lastValues_iff {entry : HostText × HostText} : ∀ {env : Environment}, entry ∈ lastValues env ↔
    ∃ before after, env = before ++ entry :: after ∧ ∀ other ∈ after, other.1 ≠ entry.1
  | [] => by simp [lastValues]
  | first :: env => by
    have hstart : (∃ before after, first :: env = before ++ entry :: after ∧ ∀ other ∈ after, other.1 ≠ entry.1) ↔
        (first = entry ∧ ∀ other ∈ env, other.1 ≠ entry.1) ∨ entry ∈ lastValues env := by
      rw [mem_lastValues_iff]
      constructor
      · rintro ⟨_ | ⟨_, before⟩, after, henv, hafter⟩
        · cases henv
          exact Or.inl ⟨rfl, hafter⟩
        · cases henv
          exact Or.inr ⟨before, after, rfl, hafter⟩
      · rintro (⟨rfl, hafter⟩ | ⟨before, after, rfl, hafter⟩)
        · exact ⟨[], env, rfl, hafter⟩
        · exact ⟨first :: before, after, rfl, hafter⟩
    rw [hstart, lastValues_cons]
    by_cases hlater : env.any (·.1 == first.1) = true
    · rw [if_pos hlater]
      refine ⟨Or.inr, fun h => h.resolve_left ?_⟩
      rintro ⟨rfl, hother⟩
      obtain ⟨other, hmem, hname⟩ := List.any_eq_true.1 hlater
      exact hother other hmem (by simpa using hname)
    · rw [if_neg hlater, List.mem_cons]
      refine or_congr_left ⟨?_, fun h => h.1.symm⟩
      rintro rfl
      exact ⟨rfl, fun other hmem hname => hlater (List.any_eq_true.2 ⟨other, hmem, by simpa using hname⟩)⟩

theorem lastValues_of_nodup : ∀ {env : Environment}, (env.map Prod.fst).Nodup → lastValues env = env
  | [], _ => rfl
  | entry :: env, h => by
    rw [List.map_cons, List.nodup_cons] at h
    have hnone : ¬env.any (·.1 == entry.1) = true := by
      rw [List.any_eq_true]
      rintro ⟨other, hmem, hname⟩
      exact h.1 (List.mem_map.2 ⟨other, hmem, by simpa using hname⟩)
    rw [lastValues_cons, if_neg hnone, lastValues_of_nodup h.2]

theorem nodup_lastValues : ∀ env : Environment, ((lastValues env).map Prod.fst).Nodup
  | [] => List.nodup_nil
  | entry :: env => by
    rw [lastValues_cons]
    by_cases hlater : env.any (·.1 == entry.1) = true
    · rw [if_pos hlater]
      exact nodup_lastValues env
    · rw [if_neg hlater, List.map_cons, List.nodup_cons]
      refine ⟨fun hmem => hlater ?_, nodup_lastValues env⟩
      obtain ⟨other, hother, hname⟩ := List.mem_map.1 hmem
      rw [← any_lastValues]
      exact List.any_eq_true.2 ⟨other, hother, by simpa using hname⟩

theorem lastOfEach_perm (env : Environment) : (lastOfEach env).Perm (lastValues env) := List.mergeSort_perm _ _

/-- **Of the values of a variable the last one counts.** -/
theorem mem_lastOfEach_iff {entry : HostText × HostText} {env : Environment} : entry ∈ lastOfEach env ↔
    ∃ before after, env = before ++ entry :: after ∧ ∀ other ∈ after, other.1 ≠ entry.1 := by
  rw [(lastOfEach_perm env).mem_iff, mem_lastValues_iff]

theorem lastOfEach_perm_of_nodup {env : Environment} (h : (env.map Prod.fst).Nodup) : (lastOfEach env).Perm env := by
  have hperm := lastOfEach_perm env
  rwa [lastValues_of_nodup h] at hperm

/-- **The variables stand in the order of their names**, each once. -/
theorem pairwise_lastOfEach (env : Environment) : (lastOfEach env).Pairwise fun a b => a.1.bytes < b.1.bytes := by
  have hsorted : (lastOfEach env).Pairwise fun a b => decide (a.1.bytes ≤ b.1.bytes) = true := by
    refine List.pairwise_mergeSort (fun a b c hab hbc => ?_) (fun a b => ?_) _
    · exact decide_eq_true (List.le_trans (of_decide_eq_true hab) (of_decide_eq_true hbc))
    · simpa only [Bool.or_eq_true, decide_eq_true_eq] using List.le_total a.1.bytes b.1.bytes
  have hnodup : (lastOfEach env).Pairwise fun a b => a.1 ≠ b.1 :=
    List.pairwise_map.1 (((lastOfEach_perm env).map Prod.fst).nodup_iff.2 (nodup_lastValues env))
  refine (hsorted.and hnodup).imp fun h => List.not_le.1 fun hle => h.2 ?_
  exact congrArg HostText.mk (List.le_antisymm (of_decide_eq_true h.1) hle)

end Image

end KubectlMatch
