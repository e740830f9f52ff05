import KubectlMatch.Proofs.Success
import KubectlMatch.Version.Parse
/-!
# Reading back what was written

A version is written in one way only, and reading that spelling gives the version back: no character of it is blank, its
numbers end at the first sign, and its fields are separated by the only dots among them.  Each reader is undone by the
writer of the same part, and `parseChars_chars` puts the parts together.
-/
namespace KubectlMatch

open VersionError (Reason)

/-! ## Characters -/

theorem isLabelChar_bounds {c : Char} (h : isLabelChar c = true) :
    45 ≤ c.toNat ∧ c.toNat ≤ 122 ∧ c.toNat ≠ 46 ∧ c.toNat ≠ 47 := by
  have hupper : c.isUpper = true → 65 ≤ c.toNat ∧ c.toNat ≤ 90 := fun h => of_decide_eq_true h
  have hlower : c.isLower = true → 97 ≤ c.toNat ∧ c.toNat ≤ 122 := fun h =>
    (Bool.and_eq_true_iff.1 h).imp of_decide_eq_true of_decide_eq_true
  have hdigit : c.isDigit = true → 48 ≤ c.toNat ∧ c.toNat ≤ 57 := fun h =>
    (Bool.and_eq_true_iff.1 h).imp of_decide_eq_true of_decide_eq_true
  change (c.isUpper || c.isLower || c.isDigit || c == '-') = true at h
  rw [Bool.or_eq_true, Bool.or_eq_true, Bool.or_eq_true, beq_iff_eq] at h
  rcases h with ((h | h) | h) | rfl
  · have := hupper h
    omega
  · have := hlower h
    omega
  · have := hdigit h
    omega
  · decide

theorem isLabelChar_of_isDigit {c : Char} (h : c.isDigit = true) : isLabelChar c = true := by
  simp [isLabelChar, Char.isAlphanum, h]

theorem not_isBlank_of_bounds {c : Char} (hl : 43 ≤ c.toNat) (hu : c.toNat ≤ 122) : Text.isBlank c = false := by
  simp only [Text.isBlank, Bool.or_eq_false_iff, Bool.and_eq_false_iff, decide_eq_false_iff_not, beq_eq_false_iff_ne]
  omega

theorem Text.trim_eq_self {s : List Char} (h : ∀ c ∈ s, isBlank c = false) : trim s = s := by
  have hdrop : ∀ l : List Char, (∀ c ∈ l, isBlank c = false) → l.dropWhile isBlank = l := by
    intro l hl
    cases l with
    | nil => rfl
    | cons c r => simp [hl c List.mem_cons_self]
  unfold trim trimEnd trimStart
  rw [hdrop s h, hdrop s.reverse (fun c hc => h c (List.mem_reverse.1 hc)), List.reverse_reverse]

section Spans

variable {α : Type} {p : α → Bool} {xs ys : List α}

theorem takeWhile_append_eq (hx : ∀ a ∈ xs, p a = true) (hy : ∀ a ∈ ys.head?, p a = false) :
    (xs ++ ys).takeWhile p = xs := by
  rw [List.takeWhile_append_of_pos hx]
  cases ys with
  | nil => simp
  | cons a r => simp [hy a rfl]

theorem dropWhile_append_eq (hx : ∀ a ∈ xs, p a = true) (hy : ∀ a ∈ ys.head?, p a = false) :
    (xs ++ ys).dropWhile p = ys := by
  rw [List.dropWhile_append_of_pos hx]
  cases ys with
  | nil => rfl
  | cons a r => simp [hy a rfl]

end Spans

/-! ## Numbers -/

theorem isDigit_of_mem_decimal {n : Nat} {c : Char} (h : c ∈ Nat.toDigits 10 n) : c.isDigit = true :=
  Nat.isDigit_of_mem_toDigits (by decide) (by decide) h

theorem all_isDigit_decimal (n : Nat) : (Nat.toDigits 10 n).all Char.isDigit = true :=
  List.all_eq_true.2 fun _ hc => isDigit_of_mem_decimal hc

theorem head?_decimal (n : Nat) (h : 0 < n) : (Nat.toDigits 10 n).head? ≠ some '0' := by
  induction n using Nat.strongRecOn with
  | ind n ih =>
    rw [Nat.toDigits_eq_if (by decide)]
    split
    · rename_i hlt
      have hd : ∀ k : Fin 10, 0 < k.val → k.val.digitChar ≠ '0' := by decide
      simpa using hd ⟨n, hlt⟩ h
    · rename_i hge
      have hdiv : 0 < n / 10 := by omega
      obtain ⟨c, r, hd⟩ := List.exists_cons_of_ne_nil (Nat.toDigits_ne_nil (n := n / 10) (b := 10))
      have := ih (n / 10) (by omega) hdiv
      rw [hd] at this ⊢
      exact this

namespace Version

theorem parseNumber_decimal (n : UInt64) : parseNumber (Nat.toDigits 10 n.toNat) = .ok n := by
  have hne : (Nat.toDigits 10 n.toNat).isEmpty = false := List.isEmpty_eq_false_iff.2 Nat.toDigits_ne_nil
  have hlt : n.toNat < UInt64.size := n.toNat_lt
  unfold parseNumber
  rw [hne, all_isDigit_decimal, Bool.not_true, Bool.or_false, if_neg Bool.false_ne_true, Nat.ofDigitChars_ten_toDigits]
  dsimp only
  rw [if_pos hlt, UInt64.ofNat_toNat]

def coreChars (v : Version) : List Char :=
  Nat.toDigits 10 v.major.toNat ++ '.' :: (Nat.toDigits 10 v.minor.toNat ++ '.' :: Nat.toDigits 10 v.patch.toNat)

theorem parseNumbers_coreChars (v : Version) : parseNumbers v.coreChars = .ok (v.major, v.minor, v.patch) := by
  have hdot : ∀ n : Nat, '.' ∉ Nat.toDigits 10 n := by
    intro n hmem
    have := isDigit_of_mem_decimal hmem
    revert this
    decide
  unfold parseNumbers coreChars
  rw [List.splitOn_append_cons_self_of_not_mem (hdot _), List.splitOn_append_cons_self_of_not_mem (hdot _),
    List.splitOn_eq_singleton (hdot _)]
  simp only [List.mapM_cons, List.mapM_nil, parseNumber_decimal]
  rfl

end Version

/-! ## Fields -/

namespace Label

theorem hasLeadingZero_decimal {n : Nat} {l : Label} (h : l.chars = Nat.toDigits 10 n) : l.hasLeadingZero = false := by
  unfold hasLeadingZero
  rw [h]
  rcases Nat.eq_zero_or_pos n with rfl | hn
  · simp
  · have := head?_decimal n hn
    simp only [Bool.and_eq_false_iff, beq_eq_false_iff_ne]
    exact Or.inr this

theorem isLabelChar_of_mem (l : Label) : ∀ c ∈ l.chars, isLabelChar c = true := List.all_eq_true.1 l.legal

end Label

namespace Identifier

theorem isLabelChar_of_mem (id : Identifier) : ∀ c ∈ id.chars, isLabelChar c = true := by
  cases id with
  | number n => exact fun c hc => isLabelChar_of_isDigit (isDigit_of_mem_decimal hc)
  | word l h => exact l.isLabelChar_of_mem

/-- The label that a field is written as. -/
def label (id : Identifier) : Label where
  chars := id.chars
  ne_nil := by
    cases id with
    | number n => exact Nat.toDigits_ne_nil
    | word l h => exact l.ne_nil
  legal := List.all_eq_true.2 id.isLabelChar_of_mem

theorem ofLabel?_label (id : Identifier) : ofLabel? id.label = some id := by
  cases id with
  | number n =>
    have hdigits : (number n).label.isDigits = true := all_isDigit_decimal n
    have hzero : (number n).label.hasLeadingZero = false := Label.hasLeadingZero_decimal rfl
    have hvalue : (number n).label.value = n := Nat.ofDigitChars_ten_toDigits
    unfold ofLabel?
    rw [hzero, if_neg Bool.false_ne_true, dif_neg (by rw [hdigits]; decide), hvalue]
  | word l h =>
    have hsame : (word l h).label = l := Label.ext_chars rfl
    have hzero : l.hasLeadingZero = false := by
      unfold Label.hasLeadingZero
      rw [h, Bool.false_and, Bool.false_and]
    unfold ofLabel?
    rw [hsame, hzero, if_neg Bool.false_ne_true, dif_pos h]

end Identifier

namespace Version

theorem parseLabel_chars (part : SuffixPart) (l : Label) : parseLabel part l.chars = .ok l := by
  unfold parseLabel
  rw [Label.ofChars?_chars]

theorem parseIdentifier_chars (id : Identifier) : parseIdentifier id.chars = .ok id := by
  have hlabel : parseLabel .prerelease id.chars = .ok id.label := parseLabel_chars .prerelease id.label
  unfold parseIdentifier
  rw [hlabel]
  simp only [bind, Except.bind, id.ofLabel?_label]
  rfl

section Fields

variable {α : Type} {read : List Char → Except Reason α} {write : α → List Char}

theorem mem_intercalate_dot {c : Char} : ∀ {fields : List (List Char)}, c ∈ ['.'].intercalate fields →
    c = '.' ∨ ∃ f ∈ fields, c ∈ f
  | [], h => by simp at h
  | [f], h => by
    rw [List.intercalate_singleton] at h
    exact Or.inr ⟨f, List.mem_singleton_self f, h⟩
  | f :: g :: rest, h => by
    rw [List.intercalate_cons_cons, List.append_assoc, List.mem_append, List.mem_append, List.mem_singleton] at h
    rcases h with h | h | h
    · exact Or.inr ⟨f, List.mem_cons_self, h⟩
    · exact Or.inl h
    · rcases mem_intercalate_dot h with h | ⟨x, hx, hc⟩
      · exact Or.inl h
      · exact Or.inr ⟨x, List.mem_cons_of_mem f hx, hc⟩

/-- Fields with dots between them are read up to the first character that belongs to none. -/
theorem parseFields_intercalate (hread : ∀ a, read (write a) = .ok a)
    (hchars : ∀ a, ∀ c ∈ write a, isLabelChar c = true) {fields : List α} (hne : fields ≠ []) {rest : List Char}
    (hrest : ∀ c ∈ rest.head?, isFieldOrDot c = false) :
    parseFields read (['.'].intercalate (fields.map write) ++ rest) = .ok (fields, rest) := by
  have hall : ∀ c ∈ ['.'].intercalate (fields.map write), isFieldOrDot c = true := by
    intro c hc
    rcases mem_intercalate_dot hc with rfl | ⟨f, hf, hcf⟩
    · rfl
    · obtain ⟨a, -, rfl⟩ := List.mem_map.1 hf
      simp [isFieldOrDot, hchars a c hcf]
  have hdots : ∀ f ∈ fields.map write, '.' ∉ f := by
    intro f hf hmem
    obtain ⟨a, -, rfl⟩ := List.mem_map.1 hf
    exact (isLabelChar_bounds (hchars a _ hmem)).2.2.1 rfl
  unfold parseFields
  rw [takeWhile_append_eq hall hrest, dropWhile_append_eq hall hrest,
    List.splitOn_intercalate _ hdots (by simpa using hne), mapM_map_eq_ok hread]
  rfl

end Fields

theorem parseBuild_intercalate {build : List Label} (hne : build ≠ []) :
    parseBuild (['.'].intercalate (build.map Label.chars)) = .ok build := by
  have h := parseFields_intercalate (parseLabel_chars .build) Label.isLabelChar_of_mem hne
    (show ∀ c ∈ ([] : List Char).head?, isFieldOrDot c = false from nofun)
  rw [List.append_nil] at h
  unfold parseBuild
  rw [h]
  rfl

theorem suffixChars_of_ne_nil (sign : Char) {fields : List (List Char)} (h : fields ≠ []) :
    suffixChars sign fields = sign :: ['.'].intercalate fields := by
  unfold suffixChars
  rw [List.isEmpty_eq_false_iff.2 h, if_neg Bool.false_ne_true]

theorem parseSuffix_written (v : Version) : parseSuffix (v.prereleaseChars ++ v.buildChars) =
    .ok (v.prerelease, v.build) := by
  unfold prereleaseChars buildChars
  by_cases hp : v.prerelease = []
  · by_cases hb : v.build = []
    · rw [hp, hb]
      rfl
    · rw [hp, suffixChars_of_ne_nil '+' (by simpa using hb)]
      show (parseBuild _ >>= _) = _
      rw [parseBuild_intercalate hb]
      rfl
  · -- What follows the prerelease is nothing, or starts with the sign of the build metadata.
    rw [suffixChars_of_ne_nil '-' (by simpa using hp), List.cons_append]
    by_cases hb : v.build = []
    · have h := parseFields_intercalate parseIdentifier_chars Identifier.isLabelChar_of_mem hp
        (show ∀ c ∈ ([] : List Char).head?, isFieldOrDot c = false from nofun)
      rw [hb]
      show (parseFields parseIdentifier (_ ++ []) >>= _) = _
      rw [h]
      rfl
    · rw [suffixChars_of_ne_nil '+' (by simpa using hb)]
      have hsign : ∀ c ∈ ('+' :: ['.'].intercalate (v.build.map Label.chars)).head?, isFieldOrDot c = false :=
        fun c hc => by cases hc; rfl
      have h := parseFields_intercalate parseIdentifier_chars Identifier.isLabelChar_of_mem hp hsign
      show (parseFields parseIdentifier _ >>= _) = _
      rw [h]
      show (parseBuild _ >>= _) = _
      rw [parseBuild_intercalate hb]
      rfl

/-! ## The whole spelling -/

theorem chars_eq (v : Version) : v.chars = v.coreChars ++ (v.prereleaseChars ++ v.buildChars) := by
  simp [chars, coreChars, List.append_assoc]

theorem mem_coreChars {v : Version} {c : Char} (h : c ∈ v.coreChars) : c.isDigit = true ∨ c = '.' := by
  simp only [coreChars, List.mem_append, List.mem_cons] at h
  rcases h with h | rfl | h | rfl | h
  · exact Or.inl (isDigit_of_mem_decimal h)
  · exact Or.inr rfl
  · exact Or.inl (isDigit_of_mem_decimal h)
  · exact Or.inr rfl
  · exact Or.inl (isDigit_of_mem_decimal h)

theorem mem_suffixChars {sign c : Char} {fields : List (List Char)} (h : c ∈ suffixChars sign fields) :
    c = sign ∨ c = '.' ∨ ∃ f ∈ fields, c ∈ f := by
  unfold suffixChars at h
  split at h
  · cases h
  · rcases List.mem_cons.1 h with rfl | h
    · exact Or.inl rfl
    · exact Or.inr (mem_intercalate_dot h)

theorem head?_suffixChars {sign c : Char} {fields : List (List Char)} (h : c ∈ (suffixChars sign fields).head?) :
    c = sign := by
  unfold suffixChars at h
  split at h
  · cases h
  · cases h
    rfl

theorem of_mem_chars {v : Version} {c : Char} (h : c ∈ v.chars) : isLabelChar c = true ∨ c = '.' ∨ c = '+' := by
  rw [chars_eq, List.mem_append, List.mem_append] at h
  rcases h with h | h | h
  · exact (mem_coreChars h).imp isLabelChar_of_isDigit Or.inl
  · rcases mem_suffixChars h with rfl | rfl | ⟨f, hf, hc⟩
    · exact Or.inl (by decide)
    · exact Or.inr (Or.inl rfl)
    · obtain ⟨id, -, rfl⟩ := List.mem_map.1 hf
      exact Or.inl (id.isLabelChar_of_mem c hc)
  · rcases mem_suffixChars h with rfl | rfl | ⟨f, hf, hc⟩
    · exact Or.inr (Or.inr rfl)
    · exact Or.inr (Or.inl rfl)
    · obtain ⟨l, -, rfl⟩ := List.mem_map.1 hf
      exact Or.inl (l.isLabelChar_of_mem c hc)

/-- All characters of a version are visible, and none is a slash. -/
theorem bounds_of_mem_chars {v : Version} {c : Char} (h : c ∈ v.chars) :
    43 ≤ c.toNat ∧ c.toNat ≤ 122 ∧ c.toNat ≠ 47 := by
  rcases of_mem_chars h with h | rfl | rfl
  · have := isLabelChar_bounds h
    omega
  · decide
  · decide

theorem chars_eq_cons (v : Version) : ∃ c rest, v.chars = c :: rest ∧ c.isDigit = true := by
  obtain ⟨c, rest, hd⟩ := List.exists_cons_of_ne_nil (Nat.toDigits_ne_nil (n := v.major.toNat) (b := 10))
  have hmem : c ∈ Nat.toDigits 10 v.major.toNat := by rw [hd]; exact List.mem_cons_self
  rw [chars_eq, coreChars, hd, List.cons_append, List.cons_append]
  exact ⟨c, _, rfl, isDigit_of_mem_decimal hmem⟩

theorem dropV_of_isDigit {c : Char} {rest : List Char} (h : c.isDigit = true) : dropV (c :: rest) = c :: rest := by
  unfold dropV
  split
  · rename_i heq
    cases heq
    cases h
  · rename_i heq
    cases heq
    cases h
  · rfl

/-- Where the numbers end and the suffix starts there is a sign, so either is read on its own. -/
theorem parseBare_append_eq_ok_iff {core suffix : List Char} (hcore : ∀ c ∈ core, isSign c = false)
    (hsuffix : ∀ c ∈ suffix.head?, isSign c = true) {v : Version} : parseBare (core ++ suffix) = .ok v ↔
      parseNumbers core = .ok (v.major, v.minor, v.patch) ∧ parseSuffix suffix = .ok (v.prerelease, v.build) := by
  have hcore : ∀ c ∈ core, (!isSign c) = true := fun c hc => by rw [hcore c hc]; rfl
  have hsuffix : ∀ c ∈ suffix.head?, (!isSign c) = false := fun c hc => by rw [hsuffix c hc]; rfl
  unfold parseBare
  rw [takeWhile_append_eq hcore hsuffix, dropWhile_append_eq hcore hsuffix]
  constructor
  · intro h
    obtain ⟨numbers, hnumbers, h⟩ := bind_eq_ok_iff.1 h
    obtain ⟨fields, hfields, h⟩ := bind_eq_ok_iff.1 h
    cases h
    exact ⟨hnumbers, hfields⟩
  · rintro ⟨hnumbers, hfields⟩
    rw [hnumbers, hfields]
    rfl

theorem isSign_of_mem_head? {v : Version} {c : Char} (h : c ∈ (v.prereleaseChars ++ v.buildChars).head?) :
    isSign c = true := by
  by_cases hp : v.prereleaseChars = []
  · rw [hp] at h
    rw [head?_suffixChars h]
    rfl
  · obtain ⟨a, r, ha⟩ := List.exists_cons_of_ne_nil hp
    rw [ha] at h
    have hmem : c ∈ v.prereleaseChars.head? := by rw [ha]; exact h
    rw [head?_suffixChars hmem]
    rfl

theorem isSign_of_isDigit {c : Char} (h : c.isDigit = true) : isSign c = false := by
  have hdash : c ≠ '-' := by rintro rfl; cases h
  have hplus : c ≠ '+' := by rintro rfl; cases h
  simp [isSign, hdash, hplus]

theorem parseBare_chars (v : Version) : parseBare v.chars = .ok v := by
  have hcore : ∀ c ∈ v.coreChars, isSign c = false := by
    intro c hc
    rcases mem_coreChars hc with h | rfl
    · exact isSign_of_isDigit h
    · rfl
  rw [chars_eq, parseBare_append_eq_ok_iff hcore fun c hc => isSign_of_mem_head? hc]
  exact ⟨parseNumbers_coreChars v, parseSuffix_written v⟩

/-- **A version is read back as it was written**, with every prerelease and all build metadata. -/
theorem parseChars_chars (v : Version) : parseChars v.chars = .ok v := by
  obtain ⟨c, rest, hv, hc⟩ := v.chars_eq_cons
  have hblank : ∀ c ∈ v.chars, Text.isBlank c = false := fun c hc =>
    not_isBlank_of_bounds (bounds_of_mem_chars hc).1 (bounds_of_mem_chars hc).2.1
  unfold parseChars
  rw [Text.trim_eq_self hblank, hv, dropV_of_isDigit hc, ← hv, parseBare_chars]

theorem parse_text (v : Version) : parse v.text = .ok v := by
  unfold parse text
  rw [String.toList_ofList, parseChars_chars]

/-- Different versions are written differently. -/
theorem chars_injective {v w : Version} (h : v.chars = w.chars) : v = w := by
  have hv := parseChars_chars v
  rw [h, parseChars_chars] at hv
  exact (Except.ok.inj hv).symm

end Version

end KubectlMatch
