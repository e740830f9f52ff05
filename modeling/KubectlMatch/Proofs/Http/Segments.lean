import Mathlib.Data.List.TakeWhile
import KubectlMatch.Http.Address
import KubectlMatch.Proofs.Success
/-!
# Segments behind a base

Plain segments behind a base that has neither a query nor a fragment are requested as they are spelled.  All else that
is read of such an address, the scheme, the host, the port and the first part of the path, is read of the base.
-/
namespace KubectlMatch.Http.Address

/-! ## Plain segments -/

/-- A character that every path has as it is and that ends no segment. -/
def IsPlain (c : Char) : Prop := 0x20 < c.toNat ∧ c.toNat ≤ 0x7E ∧ c ∉ pathSet ∧ c ≠ '/' ∧ c ≠ '\\'

instance (c : Char) : Decidable (IsPlain c) := inferInstanceAs (Decidable (_ ∧ _ ∧ _ ∧ _ ∧ _))

/-- A segment of plain characters that is not followed as dots. -/
structure IsPlainSegment (s : List Char) : Prop where
  chars : ∀ c ∈ s, IsPlain c
  not_dot : dotCount s ≠ some 1
  not_dots : dotCount s ≠ some 2

-- The characters are tried one by one along the segment, not among all that there are.
instance (s : List Char) : Decidable (IsPlainSegment s) :=
  decidable_of_iff ((s.all fun c => decide (IsPlain c)) = true ∧ dotCount s ≠ some 1 ∧ dotCount s ≠ some 2)
    ⟨fun h => ⟨fun c hc => of_decide_eq_true (List.all_eq_true.1 h.1 c hc), h.2.1, h.2.2⟩,
      fun h => ⟨List.all_eq_true.2 fun c hc => decide_eq_true (h.chars c hc), h.not_dot, h.not_dots⟩⟩

/-- Segments as they are spelled, each behind a slash. -/
def spelled (segments : List (List Char)) : List Char := segments.flatMap fun s => '/' :: s

variable {s base : List Char} {segments front dir : List (List Char)} {web : Bool} {c : Char}

theorem spelled_cons : spelled (s :: segments) = '/' :: s ++ spelled segments := rfl

theorem escape_of_plain : ∀ {s : List Char}, (∀ c ∈ s, IsPlain c) → escape pathSet s = s
  | [], _ => rfl
  | c :: s, h => by
    obtain ⟨hlow, hhigh, hset, -⟩ := h c List.mem_cons_self
    have hc : ¬ (c.toNat < 0x20 ∨ 0x7E < c.toNat ∨ c ∈ pathSet) := by
      rintro (h | h | h)
      · omega
      · omega
      · exact hset h
    have hrest : escape pathSet s = s := escape_of_plain fun d hd => h d (List.mem_cons_of_mem c hd)
    unfold escape at hrest ⊢
    rw [List.flatMap_cons, if_neg hc, hrest, List.singleton_append]

theorem isSeparator_of_plain (h : IsPlain c) : isSeparator web c = false := by
  obtain ⟨-, -, -, hslash, hback⟩ := h
  simp [isSeparator, hslash, hback]

theorem splitAtSeparators_append (web : Bool) (front rest : List Char) :
    splitAtSeparators web (front ++ '/' :: rest) = splitAtSeparators web front ++ splitAtSeparators web rest := by
  unfold splitAtSeparators
  rw [List.map_append, List.map_cons]
  exact List.splitOn_append_cons_self _ _

theorem splitAtSeparators_of_plain (h : ∀ c ∈ s, IsPlain c) : splitAtSeparators web s = [s] := by
  have hsame : (s.map fun c => if isSeparator web c then '/' else c) = s :=
    (List.map_congr_left fun c hc => if_neg (by simp [isSeparator_of_plain (h c hc)])).trans (List.map_id s)
  unfold splitAtSeparators
  rw [hsame]
  exact List.splitOn_eq_singleton fun hslash => (h '/' hslash).2.2.2.1 rfl

/-- The parts of a text with plain segments behind it are its own parts and the segments. -/
theorem splitAtSeparators_spelled : ∀ {segments : List (List Char)} (front : List Char),
    (∀ s ∈ segments, IsPlainSegment s) → splitAtSeparators web (front ++ spelled segments) =
      splitAtSeparators web front ++ segments
  | [], front, _ => by
    rw [spelled, List.flatMap_nil, List.append_nil, List.append_nil]
  | s :: segments, front, h => by
    have hs : splitAtSeparators web s = [s] := splitAtSeparators_of_plain (h s List.mem_cons_self).chars
    rw [spelled_cons, List.cons_append, splitAtSeparators_append,
      splitAtSeparators_spelled s fun s' hs' => h s' (List.mem_cons_of_mem s hs'), hs, List.singleton_append]

/-! ## Following segments -/

theorem followSegments_cons_plain (h : IsPlainSegment s) (dir rest : List (List Char)) :
    followSegments dir (s :: rest) = followSegments (s :: dir) rest := by
  rw [followSegments, escape_of_plain h.chars]
  split
  · rename_i hdot
    exact absurd hdot h.not_dot
  · rename_i hdots
    exact absurd hdots h.not_dots
  · rfl

/-- Where one part leads that is not the last. -/
def entered (dir : List (List Char)) (part : List Char) : List (List Char) :=
  match dotCount part with
  | some 1 => dir
  | some 2 => dir.tail
  | _ => escape pathSet part :: dir

theorem followSegments_cons {rest : List (List Char)} (hrest : rest ≠ []) (dir : List (List Char)) (part : List Char) :
    followSegments dir (part :: rest) = followSegments (entered dir part) rest := by
  rw [followSegments, List.isEmpty_eq_false_iff.2 hrest, entered]
  rcases dotCount part with _ | _ | _ | _ | n <;> rfl

theorem followSegments_of_plain : ∀ {segments : List (List Char)} (dir : List (List Char)),
    (∀ s ∈ segments, IsPlainSegment s) → followSegments dir segments = segments.reverse ++ dir
  | [], dir, _ => rfl
  | s :: segments, dir, h => by
    rw [followSegments_cons_plain (h s List.mem_cons_self),
      followSegments_of_plain (s :: dir) fun s' hs' => h s' (List.mem_cons_of_mem s hs'), List.reverse_cons,
      List.append_assoc, List.singleton_append]

/-- Wherever the parts in front lead to, plain segments go on from there. -/
theorem followSegments_append : ∀ (front dir : List (List Char)), ∃ there, ∀ segments, segments ≠ [] →
    (∀ s ∈ segments, IsPlainSegment s) → followSegments dir (front ++ segments) = segments.reverse ++ there
  | [], dir => ⟨dir, fun _ _ h => followSegments_of_plain dir h⟩
  | part :: front, dir => by
    obtain ⟨there, hthere⟩ := followSegments_append front (entered dir part)
    refine ⟨there, fun segments hne h => ?_⟩
    rw [List.cons_append, followSegments_cons (List.append_ne_nil_of_right_ne_nil front hne), hthere segments hne h]

theorem pathFrom_append (dir front : List (List Char)) : ∃ start, ∀ segments, segments ≠ [] →
    (∀ s ∈ segments, IsPlainSegment s) → pathFrom dir (front ++ segments) = start ++ spelled segments := by
  obtain ⟨there, hthere⟩ := followSegments_append front dir
  refine ⟨spelled there.reverse, fun segments hne h => ?_⟩
  rw [pathFrom, hthere segments hne h, List.reverse_append, List.reverse_reverse, List.flatMap_append]
  rfl

theorem spelled_inj {segments' : List (List Char)} (h : ∀ s ∈ segments, IsPlainSegment s)
    (h' : ∀ s ∈ segments', IsPlainSegment s) : spelled segments = spelled segments' ↔ segments = segments' := by
  constructor
  · intro heq
    have hparts : splitAtSeparators true ([] ++ spelled segments) = splitAtSeparators true [] ++ segments :=
      splitAtSeparators_spelled [] h
    rw [heq, splitAtSeparators_spelled [] h', List.append_cancel_left_eq] at hparts
    exact hparts.symm
  · rintro rfl
    rfl

/-! ## What is read of the base -/

section Cuts

variable {α : Type} {p : α → Bool} {x : α} (xs ys : List α)

theorem dropWhile_append_cons (hx : p x = false) : (xs ++ x :: ys).dropWhile p = xs.dropWhile p ++ x :: ys := by
  rw [List.dropWhile_append]
  split
  · rename_i hempty
    rw [List.isEmpty_iff.1 hempty, List.dropWhile_cons_of_neg (by simp [hx]), List.nil_append]
  · rfl

theorem takeWhile_append_cons (hx : p x = false) : (xs ++ x :: ys).takeWhile p = xs.takeWhile p := by
  rw [List.takeWhile_append, List.takeWhile_cons_of_neg (by simp [hx]), List.append_nil]
  split
  · rename_i hall
    exact (List.IsPrefix.eq_of_length (List.takeWhile_prefix p) hall).symm
  · rfl

end Cuts

theorem cutAt_of_not_mem (h : c ∉ s) : cutAt c s = (s, none) := by
  have hnone : s.dropWhile (· != c) = [] := List.dropWhile_eq_nil_iff.2 fun d hd => bne_iff_ne.2 fun heq => h (heq ▸ hd)
  rw [cutAt, hnone]

/-- What is left of a base after cleaning it. -/
def cleaned (base : List Char) : List Char :=
  (base.dropWhile fun c => c.toNat ≤ 0x20).filter fun c => c != '\t' && c != '\n' && c != '\r'

theorem mem_of_mem_cleaned (h : c ∈ cleaned base) : c ∈ base :=
  (List.dropWhile_sublist _).mem (List.mem_filter.1 h).1

/-- Cleaning takes away only what is in the base. -/
theorem clean_append (base : List Char) (h : ∀ c ∈ s, 0x20 < c.toNat) :
    clean (base ++ '/' :: s) = cleaned base ++ '/' :: s := by
  have hs : ∀ c ∈ '/' :: s, 0x20 < c.toNat := by
    intro c hc
    rcases List.mem_cons.1 hc with rfl | hc
    · decide
    · exact h c hc
  obtain ⟨init, last, hlast⟩ : ∃ init last, '/' :: s = init ++ [last] :=
    ⟨_, _, (List.dropLast_concat_getLast (List.cons_ne_nil _ _)).symm⟩
  have hedge : decide (last.toNat ≤ 0x20) = false := by
    have := hs last (hlast ▸ List.mem_append_right init List.mem_cons_self)
    exact decide_eq_false (by omega)
  have hkeep : ('/' :: s).filter (fun c => c != '\t' && c != '\n' && c != '\r') = '/' :: s := by
    refine List.filter_eq_self.2 fun c hc => ?_
    have := hs c hc
    simp only [Bool.and_eq_true, bne_iff_ne, ne_eq]
    refine ⟨⟨?_, ?_⟩, ?_⟩ <;> (rintro rfl; revert this; decide)
  unfold clean cleaned
  dsimp only
  rw [dropWhile_append_cons _ _ (by decide)]
  have hend : ((base.dropWhile fun c => decide (c.toNat ≤ 0x20)) ++ '/' :: s).reverse.dropWhile
      (fun c => decide (c.toNat ≤ 0x20)) = ((base.dropWhile fun c => decide (c.toNat ≤ 0x20)) ++ '/' :: s).reverse := by
    rw [hlast, ← List.append_assoc, List.reverse_concat, List.dropWhile_cons_of_neg (by simp [hedge])]
  rw [hend, List.reverse_reverse, List.filter_append, hkeep]

theorem splitTail_of_not_mem (hquery : '?' ∉ s) (hfragment : '#' ∉ s) : splitTail s = (s, none, none) := by
  unfold splitTail
  rw [cutAt_of_not_mem hfragment]
  dsimp only
  rw [cutAt_of_not_mem hquery]
  rfl

theorem scheme?_append (base s : List Char) :
    scheme? (base ++ '/' :: s) = (scheme? base).map fun (scheme, rest) => (scheme, rest ++ '/' :: s) := by
  have hslash : isSchemeChar '/' = false := by decide
  unfold scheme?
  rw [dropWhile_append_cons _ _ hslash, takeWhile_append_cons _ _ hslash]
  cases base with
  | nil => rfl
  | cons c base =>
    rw [List.cons_append, List.head?_cons, List.head?_cons]
    split
    · generalize (c :: base).dropWhile isSchemeChar = behind
      cases behind with
      | nil => rfl
      | cons d behind =>
        by_cases hd : d = ':'
        · rw [hd]
          rfl
        · rw [List.cons_append]
          split
          · rename_i hcolon
            exact absurd (List.cons.inj hcolon).1 hd
          · split
            · rename_i hcolon
              exact absurd (List.cons.inj hcolon).1 hd
            · rfl
    · rfl

/-- The host and the port of an authority of the web. -/
def hostAndPort (scheme authority : List Char) : Except AddressError (List Char × Option Nat) := do
  let (host, port) := splitPort (dropUser authority)
  if host.isEmpty then throw .emptyHost
  return (← hostText host, ← readPort scheme port)

theorem readAuthority_of_isWeb {scheme rest : List Char} (hweb : isWeb scheme = true)
    (hpath : (rest.dropWhile fun c => !isSeparator true c) ≠ []) (query fragment : Option (List Char)) :
    readAuthority scheme rest query fragment =
      (hostAndPort scheme (rest.takeWhile fun c => !isSeparator true c)).map fun (host, port) =>
        ⟨scheme, some host, port,
          pathFrom [] (splitAtSeparators true (rest.dropWhile fun c => !isSeparator true c)).tail,
          query, fragment⟩ := by
  unfold readAuthority hostAndPort
  rw [hweb]
  dsimp only
  rw [List.isEmpty_eq_false_iff.2 hpath]
  generalize splitPort (dropUser (rest.takeWhile fun c => !isSeparator true c)) = parts
  obtain ⟨host, port⟩ := parts
  dsimp only
  by_cases hempty : host.isEmpty = true
  · rw [hempty]
    rfl
  · rw [Bool.eq_false_iff.2 hempty]
    cases hostText host with
    | error e => rfl
    | ok host =>
      cases readPort scheme port with
      | error e => rfl
      | ok port => rfl

/-- A spelling has no character that is taken away, and none that starts a query or a fragment. -/
theorem of_mem_spelled (h : ∀ s ∈ segments, IsPlainSegment s) (hc : c ∈ spelled segments) :
    0x20 < c.toNat ∧ c ≠ '#' ∧ c ≠ '?' := by
  obtain ⟨s, hs, hc⟩ := List.mem_flatMap.1 hc
  rcases List.mem_cons.1 hc with rfl | hc
  · decide
  · obtain ⟨hlow, -, hset, -⟩ := (h s hs).chars c hc
    refine ⟨hlow, ?_, ?_⟩
    · rintro rfl
      exact hset (by decide)
    · rintro rfl
      exact hset (by decide)

/-- The address with more segments in its path. -/
def below (a : Address) (segments : List (List Char)) : Address := { a with path := a.path ++ spelled segments }

/-- **Segments are read behind a base as they are spelled**, whatever is read of the base. -/
theorem readAuthority_spelled {scheme : List Char} (hweb : isWeb scheme = true) (text : List Char) :
    ∃ base : Except AddressError Address, ∀ segments, segments ≠ [] → (∀ s ∈ segments, IsPlainSegment s) →
      readAuthority scheme (text ++ spelled segments) none none = base.map (below · segments) := by
  let authority := text.takeWhile fun c => !isSeparator true c
  let path := text.dropWhile fun c => !isSeparator true c
  obtain ⟨start, hstart⟩ := pathFrom_append [] (splitAtSeparators true path).tail
  refine ⟨(hostAndPort scheme authority).map fun (host, port) => ⟨scheme, some host, port, start, none, none⟩,
    fun segments hne h => ?_⟩
  obtain ⟨s, more, rfl⟩ := List.exists_cons_of_ne_nil hne
  have hslash : (fun c => !isSeparator true c) '/' = false := rfl
  have hauthority : (text ++ spelled (s :: more)).takeWhile (fun c => !isSeparator true c) = authority :=
    takeWhile_append_cons text (s ++ spelled more) hslash
  have hpath : (text ++ spelled (s :: more)).dropWhile (fun c => !isSeparator true c) = path ++ spelled (s :: more) :=
    dropWhile_append_cons text (s ++ spelled more) hslash
  have hparts : (splitAtSeparators true (path ++ spelled (s :: more))).tail =
      (splitAtSeparators true path).tail ++ (s :: more) := by
    rw [splitAtSeparators_spelled path h]
    exact List.tail_append_of_ne_nil (List.splitOn_ne_nil _ _)
  have hsome : path ++ spelled (s :: more) ≠ [] := List.append_ne_nil_of_right_ne_nil path (List.cons_ne_nil _ _)
  rw [readAuthority_of_isWeb hweb (by rw [hpath]; exact hsome), hauthority, hpath, hparts, hstart _ hne h]
  cases hostAndPort scheme authority with
  | error e => rfl
  | ok hostPort => rfl

theorem scheme_of_readAuthority {scheme rest : List Char} {query fragment : Option (List Char)} {a : Address}
    (h : readAuthority scheme rest query fragment = .ok a) : a.scheme = scheme := by
  unfold readAuthority at h
  dsimp only at h
  generalize splitPort (dropUser (rest.takeWhile fun c => !isSeparator (isWeb scheme) c)) = parts at h
  obtain ⟨host, port⟩ := parts
  dsimp only at h
  split at h
  · cases h
  · split at h
    · obtain ⟨_, -, h⟩ := bind_eq_ok_iff.1 h
      obtain ⟨_, -, h⟩ := bind_eq_ok_iff.1 h
      cases h
      rfl
    · obtain ⟨_, -, h⟩ := bind_eq_ok_iff.1 h
      obtain ⟨_, -, h⟩ := bind_eq_ok_iff.1 h
      cases h
      rfl

theorem scheme_of_readBehindScheme {scheme rest : List Char} {query fragment : Option (List Char)} {a : Address}
    (h : readBehindScheme scheme rest query fragment = .ok a) : a.scheme = scheme := by
  unfold readBehindScheme at h
  split at h
  · rename_i hfile
    split at h
    · split at h
      · unfold readFileHost at h
        dsimp only at h
        split at h
        · cases h
          exact hfile.symm
        · obtain ⟨_, -, h⟩ := bind_eq_ok_iff.1 h
          cases h
          exact hfile.symm
      · cases h
        rfl
    · cases h
      rfl
  · split at h
    · exact scheme_of_readAuthority h
    · split at h
      · exact scheme_of_readAuthority h
      · cases h
        rfl
      · cases h
        rfl

theorem ofChars_append (hquery : '?' ∉ base) (hfragment : '#' ∉ base)
    (hs : ∀ c ∈ s, 0x20 < c.toNat ∧ c ≠ '#' ∧ c ≠ '?') : ofChars (base ++ '/' :: s) =
      match scheme? (cleaned base) with
      | none => .error .noScheme
      | some (scheme, rest) => readBehindScheme scheme (rest ++ '/' :: s) none none := by
  have hnone : ∀ c, c ∉ base → c ≠ '/' → c ∉ s → c ∉ cleaned base ++ '/' :: s := by
    intro c hbase hslash hs hc
    rcases List.mem_append.1 hc with hc | hc
    · exact hbase (mem_of_mem_cleaned hc)
    · rcases List.mem_cons.1 hc with hc | hc
      · exact hslash hc
      · exact hs hc
  unfold ofChars
  rw [clean_append base fun c hc => (hs c hc).1,
    splitTail_of_not_mem (hnone _ hquery (by decide) fun hc => (hs _ hc).2.2 rfl)
    (hnone _ hfragment (by decide) fun hc => (hs _ hc).2.1 rfl)]
  dsimp only
  rw [scheme?_append]
  rcases scheme? (cleaned base) with _ | ⟨scheme, rest⟩
  · rfl
  · rfl

theorem web_of_isServed {a : Address} (h : a.isServed = true) : isWeb a.scheme = true ∧ a.scheme ≠ "file".toList := by
  simp only [isServed, Bool.and_eq_true, Bool.or_eq_true, beq_iff_eq] at h
  obtain ⟨-, h | h⟩ := h
  · rw [h]
    decide
  · rw [h]
    decide

/-- Behind a scheme of the web, segments are read as they are spelled if a word goes before them. -/
theorem readBehindScheme_spelled {scheme first : List Char} (hweb : isWeb scheme = true)
    (hfile : scheme ≠ "file".toList)
    (hfirst : IsPlainSegment first) (hsome : first ≠ []) (rest : List Char) :
    ∃ base : Except AddressError Address, ∀ segments, segments ≠ [] → (∀ s ∈ segments, IsPlainSegment s) →
      readBehindScheme scheme (rest ++ spelled (first :: segments)) none none = base.map (below · segments) := by
  obtain ⟨base, hbase⟩ := readAuthority_spelled hweb ((rest ++ '/' :: first).dropWhile (isSeparator true))
  refine ⟨base, fun segments hne h => ?_⟩
  -- The word is where the slashes behind the scheme end at the latest.
  have hslashes : (rest ++ spelled (first :: segments)).dropWhile (isSeparator true) =
      (rest ++ '/' :: first).dropWhile (isSeparator true) ++ spelled segments := by
    rw [spelled_cons, ← List.append_assoc, List.dropWhile_append, if_neg]
    intro hempty
    obtain ⟨c, hc⟩ := List.exists_mem_of_ne_nil first hsome
    have hsep := List.dropWhile_eq_nil_iff.1 (List.isEmpty_iff.1 hempty) c (by simp [hc])
    rw [isSeparator_of_plain (hfirst.chars c hc)] at hsep
    cases hsep
  unfold readBehindScheme
  rw [if_neg hfile, if_pos hweb, hslashes, hbase segments hne h]

/-- **What is served under a base tells its segments apart.**  Of the segments that are spelled behind one base only one
list leads to a resource that the client serves. -/
theorem ofChars_spelled_inj {first : List Char} {segments segments' : List (List Char)} {a : Address}
    (hquery : '?' ∉ base) (hfragment : '#' ∉ base) (hfirst : IsPlainSegment first) (hsome : first ≠ [])
    (hne : segments ≠ []) (hplain : ∀ s ∈ segments, IsPlainSegment s) (hne' : segments' ≠ [])
    (hplain' : ∀ s ∈ segments', IsPlainSegment s) (hserved : a.isServed = true)
    (h : ofChars (base ++ spelled (first :: segments)) = .ok a) :
    ofChars (base ++ spelled (first :: segments')) = .ok a ↔ segments = segments' := by
  have hread : ∀ segments, (∀ s ∈ segments, IsPlainSegment s) → ofChars (base ++ spelled (first :: segments)) =
      match scheme? (cleaned base) with
      | none => .error .noScheme
      | some (scheme, rest) => readBehindScheme scheme (rest ++ spelled (first :: segments)) none none := by
    intro segments hplain
    have hall : ∀ s ∈ first :: segments, IsPlainSegment s := List.forall_mem_cons.2 ⟨hfirst, hplain⟩
    exact ofChars_append hquery hfragment fun c hc => of_mem_spelled hall (List.mem_cons_of_mem '/' hc)
  rw [hread segments' hplain']
  rw [hread segments hplain] at h
  rcases hscheme : scheme? (cleaned base) with _ | ⟨scheme, rest⟩
  · rw [hscheme] at h
    cases h
  · rw [hscheme] at h
    dsimp only at h ⊢
    obtain rfl := scheme_of_readBehindScheme h
    obtain ⟨hweb, hfile⟩ := web_of_isServed hserved
    obtain ⟨read, hread⟩ := readBehindScheme_spelled hweb hfile hfirst hsome rest
    rw [hread segments hne hplain] at h
    rw [hread segments' hne' hplain']
    cases read with
    | error e => cases h
    | ok read =>
      cases h
      constructor
      · intro hsame
        have hpath := congrArg path (Except.ok.inj hsame)
        exact ((spelled_inj hplain' hplain).1 (List.append_cancel_left hpath)).symm
      · rintro rfl
        rfl

end KubectlMatch.Http.Address
