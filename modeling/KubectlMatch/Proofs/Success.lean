import Mathlib.Data.List.Forall2
/-!
# When a sequence succeeds

A sequence of steps that may fail succeeds exactly when every step does, each on what the steps before it have given.
These lemmas take such a sequence apart, so that no proof has to follow its failures.  If it fails, then with the first
failure among its steps.
-/
namespace KubectlMatch

variable {ε ε' α β : Type}

/-- A sequence succeeds if its first part does and then the rest. -/
theorem bind_eq_ok_iff {x : Except ε α} {f : α → Except ε β} {b : β} :
    x >>= f = .ok b ↔ ∃ a, x = .ok a ∧ f a = .ok b := by
  cases x with
  | ok a => exact ⟨fun h => ⟨a, rfl, h⟩, fun ⟨_, h, hf⟩ => by cases h; exact hf⟩
  | error e => exact ⟨nofun, fun ⟨_, h, _⟩ => nomatch h⟩

/-- A sequence fails if its first part does, or the rest does after it. -/
theorem bind_eq_error_iff {x : Except ε α} {f : α → Except ε β} {e : ε} :
    x >>= f = .error e ↔ x = .error e ∨ ∃ a, x = .ok a ∧ f a = .error e := by
  cases x with
  | ok a =>
    constructor
    · exact fun h => Or.inr ⟨a, rfl, h⟩
    · rintro (h | ⟨b, hb, h⟩)
      · cases h
      · cases hb
        exact h
  | error e' =>
    constructor
    · intro h
      cases h
      exact Or.inl rfl
    · rintro (h | ⟨b, hb, -⟩)
      · cases h
        rfl
      · cases hb

theorem mapError_eq_ok_iff {x : Except ε α} {f : ε → ε'} {a : α} : x.mapError f = .ok a ↔ x = .ok a := by
  cases x with
  | ok b => exact ⟨fun h => by cases h; rfl, fun h => by cases h; rfl⟩
  | error e => exact ⟨nofun, nofun⟩

/-- Two rules that cannot but apply, one for the results and one for the errors, say exactly what comes out. -/
theorem eq_iff_of_rules {x : Except ε α} {Gives : α → Prop} {Fails : ε → Prop} (hgives : ∀ a, Gives a → x = .ok a)
    (hfails : ∀ e, Fails e → x = .error e) (htotal : (∃ a, Gives a) ∨ ∃ e, Fails e) :
    (∀ a, x = .ok a ↔ Gives a) ∧ ∀ e, x = .error e ↔ Fails e := by
  rcases htotal with ⟨a, ha⟩ | ⟨e, he⟩
  · have hx := hgives a ha
    refine ⟨fun b => ⟨fun h => ?_, hgives b⟩, fun e => ⟨fun h => ?_, hfails e⟩⟩
    · rw [hx] at h
      cases h
      exact ha
    · rw [hx] at h
      cases h
  · have hx := hfails e he
    refine ⟨fun a => ⟨fun h => ?_, hgives a⟩, fun e' => ⟨fun h => ?_, hfails e'⟩⟩
    · rw [hx] at h
      cases h
    · rw [hx] at h
      cases h
      exact he

/-- A list of steps succeeds if each of them does. -/
theorem mapM_eq_ok_iff {f : α → Except ε β} : ∀ {l : List α} {r : List β},
    l.mapM f = .ok r ↔ List.Forall₂ (fun a b => f a = .ok b) l r
  | [], r => by
    rw [List.mapM_nil, List.forall₂_nil_left_iff]
    exact ⟨fun h => by cases h; rfl, fun h => by rw [h]; rfl⟩
  | a :: l, r => by
    rw [List.mapM_cons, List.forall₂_cons_left_iff]
    simp only [bind_eq_ok_iff, mapM_eq_ok_iff (l := l)]
    constructor
    · rintro ⟨b, hb, r, hr, h⟩
      cases h
      exact ⟨b, r, hb, hr, rfl⟩
    · rintro ⟨b, r, hb, hr, rfl⟩
      exact ⟨b, hb, r, hr, rfl⟩

theorem exists_ok_of_mem {f : α → Except ε β} {l : List α} {r : List β} (h : l.mapM f = .ok r) :
    ∀ a ∈ l, ∃ b, f a = .ok b := by
  rw [mapM_eq_ok_iff] at h
  induction h with
  | nil => exact nofun
  | cons hb _ ih => exact List.forall_mem_cons.2 ⟨⟨_, hb⟩, ih⟩

/-- A list of steps fails with the first failure, whatever would come after it. -/
theorem mapM_eq_error_iff {f : α → Except ε β} {e : ε} : ∀ {l : List α}, l.mapM f = .error e ↔
    ∃ before a after, l = before ++ a :: after ∧ (∀ x ∈ before, ∃ b, f x = .ok b) ∧ f a = .error e
  | [] => by
    rw [List.mapM_nil]
    refine ⟨nofun, ?_⟩
    rintro ⟨before, a, after, h, -, -⟩
    exact absurd h.symm (by simp)
  | a :: l => by
    rw [List.mapM_cons]
    cases ha : f a with
    | error e' =>
      constructor
      · intro h
        cases h
        exact ⟨[], a, l, rfl, nofun, ha⟩
      · rintro ⟨before, x, after, hl, hbefore, hx⟩
        cases before with
        | nil =>
          cases hl
          rw [ha] at hx
          cases hx
          rfl
        | cons y before =>
          cases hl
          obtain ⟨b, hb⟩ := hbefore a List.mem_cons_self
          rw [ha] at hb
          cases hb
    | ok b =>
      have hrest : (Except.ok b >>= fun b => l.mapM f >>= fun bs => pure (b :: bs)) = .error e ↔
        l.mapM f = .error e := by
        cases l.mapM f with
        | error e' => exact ⟨fun h => by cases h; rfl, fun h => by cases h; rfl⟩
        | ok bs => exact ⟨nofun, nofun⟩
      rw [hrest, mapM_eq_error_iff (l := l)]
      constructor
      · rintro ⟨before, x, after, rfl, hbefore, hx⟩
        exact ⟨a :: before, x, after, rfl, List.forall_mem_cons.2 ⟨⟨b, ha⟩, hbefore⟩, hx⟩
      · rintro ⟨before, x, after, hl, hbefore, hx⟩
        cases before with
        | nil =>
          cases hl
          rw [ha] at hx
          cases hx
        | cons y before =>
          cases hl
          exact ⟨before, x, after, rfl, (List.forall_mem_cons.1 hbefore).2, hx⟩

theorem mapM_map_eq_ok {read : β → Except ε α} {write : α → β} (h : ∀ a, read (write a) = .ok a) (l : List α) :
    (l.map write).mapM read = .ok l := by
  rw [mapM_eq_ok_iff, List.forall₂_map_left_iff, List.forall₂_same]
  exact fun a _ => h a

end KubectlMatch
