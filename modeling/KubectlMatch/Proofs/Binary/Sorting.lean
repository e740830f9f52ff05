import KubectlMatch.Finder.Basic
import KubectlMatch.Proofs.Binary.Preference
/-!
# Sorting binaries

Of the lists that are in order there is one that keeps the binaries of each version as they were: two such lists start
with the same binary, and so do their rests (`eq_of_filter_version`).  That list is what a sort gives.  Hence no sort
that was made before matters to the next one, in whichever direction it went.
-/
namespace KubectlMatch

namespace Binary

variable {bs cs : List Binary} {newestFirst : Bool}

theorem pairwise_sorted (newestFirst : Bool) (bs : List Binary) :
    (sorted newestFirst bs).Pairwise fun a b => inOrder newestFirst a b = true :=
  List.pairwise_mergeSort (inOrder_trans newestFirst) (inOrder_total newestFirst) bs

theorem version_eq_of_inOrder {a b : Binary} (hab : inOrder newestFirst a b = true)
    (hba : inOrder newestFirst b a = true) :
    a.version = b.version := by
  cases newestFirst
  · exact le_antisymm (of_decide_eq_true hab) (of_decide_eq_true hba)
  · exact le_antisymm (of_decide_eq_true hba) (of_decide_eq_true hab)

theorem mem_of_filter_version (h : ∀ v, bs.filter (fun x => x.version = v) = cs.filter (fun x => x.version = v))
    {b : Binary}
    (hb : b ∈ bs) : b ∈ cs := by
  have hmem : b ∈ bs.filter (fun x => x.version = b.version) := List.mem_filter.2 ⟨hb, by simp⟩
  rw [h b.version] at hmem
  exact (List.mem_filter.1 hmem).1

/-- **Two lists in order with the same binaries of each version are the same list.**  The heads come before each other,
so they have one version, and each is the first of it. -/
theorem eq_of_filter_version : ∀ {bs cs : List Binary}, bs.Pairwise (fun a b => inOrder newestFirst a b = true) →
    cs.Pairwise (fun a b => inOrder newestFirst a b = true) →
    (∀ v, bs.filter (fun x => x.version = v) = cs.filter (fun x => x.version = v)) → bs = cs
  | [], [], _, _, _ => rfl
  | [], c :: cs, _, _, h => nomatch mem_of_filter_version (fun v => (h v).symm) (List.mem_cons_self (a := c) (l := cs))
  | b :: bs, [], _, _, h => nomatch mem_of_filter_version h (List.mem_cons_self (a := b) (l := bs))
  | b :: bs, c :: cs, hbs, hcs, h => by
    have hfirst : ∀ {x y : Binary} {xs : List Binary}, (x :: xs).Pairwise (fun a b => inOrder newestFirst a b = true) →
        y ∈ x :: xs → inOrder newestFirst x y = true := by
      intro x y xs hxs hy
      rcases List.mem_cons.1 hy with rfl | hy
      · exact inOrder_of_version_eq newestFirst rfl
      · exact List.rel_of_pairwise_cons hxs hy
    have hbc : inOrder newestFirst b c = true :=
      hfirst hbs (mem_of_filter_version (fun v => (h v).symm) List.mem_cons_self)
    have hcb : inOrder newestFirst c b = true := hfirst hcs (mem_of_filter_version h List.mem_cons_self)
    have hversion := version_eq_of_inOrder hbc hcb
    have hheads := h b.version
    rw [List.filter_cons_of_pos (by simp), List.filter_cons_of_pos (by simp [hversion])] at hheads
    obtain rfl := (List.cons.inj hheads).1
    refine congrArg _ (eq_of_filter_version hbs.of_cons hcs.of_cons fun v => ?_)
    have hv := h v
    by_cases hbv : b.version = v
    · rw [List.filter_cons_of_pos (by simpa using hbv), List.filter_cons_of_pos (by simpa using hbv)] at hv
      exact (List.cons.inj hv).2
    · rw [List.filter_cons_of_neg (by simpa using hbv), List.filter_cons_of_neg (by simpa using hbv)] at hv
      exact hv

theorem eq_sorted_iff : cs = sorted newestFirst bs ↔ cs.Pairwise (fun a b => inOrder newestFirst a b = true) ∧
    ∀ v, cs.filter (fun x => x.version = v) = bs.filter (fun x => x.version = v) := by
  constructor
  · rintro rfl
    exact ⟨pairwise_sorted newestFirst bs, fun v => filter_version_sorted newestFirst v bs⟩
  · rintro ⟨horder, hsame⟩
    refine eq_of_filter_version horder (pairwise_sorted newestFirst bs) fun v => ?_
    rw [hsame, filter_version_sorted]

/-- A sort forgets the one before it, whichever way that went. -/
theorem sorted_sorted (newestFirst earlier : Bool) (bs : List Binary) :
    sorted newestFirst (sorted earlier bs) = sorted newestFirst bs := by
  refine eq_sorted_iff.2 ⟨pairwise_sorted newestFirst _, fun v => ?_⟩
  rw [filter_version_sorted, filter_version_sorted]

/-- Several sorts, one after the other. -/
def sortedBy (directions : List Bool) (bs : List Binary) : List Binary :=
  directions.foldl (fun bs newestFirst => sorted newestFirst bs) bs

theorem sorted_sortedBy (newestFirst : Bool) : ∀ (directions : List Bool) (bs : List Binary),
    sorted newestFirst (sortedBy directions bs) = sorted newestFirst bs
  | [], _ => rfl
  | d :: directions, bs => by
    show sorted newestFirst (sortedBy directions (sorted d bs)) = _
    rw [sorted_sortedBy newestFirst directions, sorted_sorted]

/-- **Sorting is stable in both directions**, for every list.  A sort loses and adds nothing, the versions are in order
afterwards, and the binaries of each version are still in the order in which they were; no other list is like this.  So
sorting again changes nothing, and whatever sorts were made before, the last one gives what it would have given alone.
In the list of all binaries those of one version are the ones on the search path and then the ones in the cache. -/
theorem sort_is_stable (bs : List Binary) :
    (∀ newestFirst, (sorted newestFirst bs).Perm bs) ∧
    (sorted false bs).Pairwise (fun a b => a.version ≤ b.version) ∧
    (sorted true bs).Pairwise (fun a b => b.version ≤ a.version) ∧
    (∀ newestFirst v, (sorted newestFirst bs).filter (fun b => b.version = v) = bs.filter (fun b => b.version = v)) ∧
    (∀ newestFirst cs, cs.Pairwise (fun a b => if newestFirst then b.version ≤ a.version else a.version ≤ b.version) →
      (∀ v, cs.filter (fun b => b.version = v) = bs.filter (fun b => b.version = v)) → cs = sorted newestFirst bs) ∧
    (∀ newestFirst, sorted newestFirst (sorted newestFirst bs) = sorted newestFirst bs) ∧
    (∀ newestFirst directions, sorted newestFirst (sortedBy directions bs) = sorted newestFirst bs) ∧
    ∀ (finder : Finder) (fs : FileSystem) (newestFirst : Bool) (v : Version),
      (finder.allBinaries newestFirst fs).filter (fun b => b.version = v) =
        (finder.systemBinaries fs).filter (fun b => b.version = v) ++
          ((finder.localBinaries fs).toOption.getD []).filter (fun b => b.version = v) := by
  refine ⟨fun newestFirst => sorted_perm newestFirst bs, ?_, ?_, fun newestFirst v =>
    filter_version_sorted newestFirst v bs,
    fun newestFirst cs horder hsame => ?_, fun newestFirst => sorted_sorted newestFirst newestFirst bs,
    fun newestFirst directions => sorted_sortedBy newestFirst directions bs, fun finder fs newestFirst v => ?_⟩
  · exact (pairwise_sorted false bs).imp of_decide_eq_true
  · exact (pairwise_sorted true bs).imp of_decide_eq_true
  · refine eq_sorted_iff.2 ⟨horder.imp fun {a b} hab => ?_, hsame⟩
    cases newestFirst
    · exact decide_eq_true hab
    · exact decide_eq_true hab
  · rw [Finder.allBinaries, filter_version_sorted, Finder.scanned, List.filter_append]

end Binary

end KubectlMatch
