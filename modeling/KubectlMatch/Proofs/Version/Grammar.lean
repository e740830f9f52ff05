import Mathlib.Data.List.TakeWhile
import Mathlib.Data.Set.List
import KubectlMatch.Proofs.Version.Order
import KubectlMatch.Proofs.Version.Spelling
/-!
# What reads as a version

A spelling of a version has a core, which is loose, and a suffix, which is strict: one to three numbers between dots,
with any zeros in front, and the fields of a prerelease and of build metadata behind their signs.  These texts, with
blanks around them and a `v` in front, are all that reads as a version (`parseBare_eq_ok_iff`).

Each reader of a part is said to succeed exactly on the written forms of that part; the whole follows since the core
ends where the first sign stands.
-/
namespace KubectlMatch

open VersionError (Reason)

/-! ## The grammar -/

namespace Version

/-- The digits of a number that a word holds. -/
structure IsNumber (digits : List Char) : Prop where
  ne_nil : digits ≠ []
  isDigit : ∀ c ∈ digits, c.isDigit = true
  lt : Nat.ofDigitChars 10 digits 0 < 2 ^ 64

structure IsBuildField (field : List Char) : Prop where
  ne_nil : field ≠ []
  isLabelChar : ∀ c ∈ field, isLabelChar c = true

/-- A field of a prerelease; if it is a number, no zero is in front of another digit. -/
structure IsPrereleaseField (field : List Char) : Prop extends IsBuildField field where
  eq_zero : (∀ c ∈ field, c.isDigit = true) → field.head? = some '0' → field = ['0']

/-- A text that spells a version, in its parts. -/
structure Written where
  numbers : List (List Char)
  prerelease : List (List Char)
  build : List (List Char)
  numbers_ne_nil : numbers ≠ []
  length_numbers_le : numbers.length ≤ 3
  isNumber : ∀ digits ∈ numbers, IsNumber digits
  isPrereleaseField : ∀ field ∈ prerelease, IsPrereleaseField field
  isBuildField : ∀ field ∈ build, IsBuildField field

namespace Written

def core (w : Written) : List Char := ['.'].intercalate w.numbers

def suffix (w : Written) : List Char := suffixChars '-' w.prerelease ++ suffixChars '+' w.build

def chars (w : Written) : List Char := w.core ++ w.suffix

/-- The value of a number by its position; a number that is not written is zero. -/
def number (w : Written) (i : Nat) : Nat := Nat.ofDigitChars 10 (w.numbers.getD i []) 0

/-- The version has the numbers that are written, and the fields as they are written. -/
structure Means (w : Written) (v : Version) : Prop where
  major : v.major.toNat = w.number 0
  minor : v.minor.toNat = w.number 1
  patch : v.patch.toNat = w.number 2
  prerelease : v.prerelease.map Identifier.chars = w.prerelease
  build : v.build.map Label.chars = w.build

end Written

/-- What is read of a text: what is left without the blanks around it and then without a `v` in front. -/
def bare (s : String) : List Char := dropV (Text.trim s.toList)

theorem parse_eq_ok_iff {s : String} {v : Version} : parse s = .ok v ↔ parseBare (bare s) = .ok v := by
  unfold parse parseChars bare
  cases parseBare (dropV (Text.trim s.toList)) with
  | ok w => simp
  | error r => simp

end Version

/-! ## Fields -/

theorem toDigits_digit {c : Char} (h : c.isDigit = true) :
    c.toNat - '0'.toNat < 10 ∧ Nat.toDigits 10 (c.toNat - '0'.toNat) = [c] := by
  have hc := digit_bounds h
  have hvalues : '0'.toNat = 48 ∧ '9'.toNat = 57 := ⟨rfl, rfl⟩
  have hlt : c.toNat - '0'.toNat < 10 := by omega
  have hchar : (Nat.digitChar (c.toNat - '0'.toNat)).toNat = c.toNat := by
    rw [Nat.toNat_digitChar_of_lt_ten hlt]
    omega
  rw [Nat.toDigits_of_lt_base hlt, Char.toNat_inj.1 hchar]
  exact ⟨hlt, rfl⟩

theorem toDigits_append_digits : ∀ {s : List Char}, (∀ c ∈ s, c.isDigit = true) → ∀ n : Nat, 0 < n →
    Nat.toDigits 10 n ++ s = Nat.toDigits 10 (Nat.ofDigitChars 10 s n)
  | [], _, n, _ => by rw [List.append_nil, Nat.ofDigitChars_nil]
  | c :: s, hs, n, hn => by
    obtain ⟨hlt, hdigit⟩ := toDigits_digit (hs c List.mem_cons_self)
    have hnext := toDigits_append_digits (fun d hd => hs d (List.mem_cons_of_mem c hd))
      (10 * n + (c.toNat - '0'.toNat)) (by omega)
    calc Nat.toDigits 10 n ++ c :: s
        = Nat.toDigits 10 n ++ Nat.toDigits 10 (c.toNat - '0'.toNat) ++ s := by rw [hdigit]; simp
      _ = Nat.toDigits 10 (10 * n + (c.toNat - '0'.toNat)) ++ s := by
          rw [Nat.toDigits_append_toDigits (by decide) hn hlt]
      _ = Nat.toDigits 10 (Nat.ofDigitChars 10 (c :: s) n) := by rw [hnext, Nat.ofDigitChars_cons]

/-- **Digits without a zero in front are the only ones of their value.** -/
theorem toDigits_ofDigitChars {s : List Char} (hne : s ≠ []) (hs : ∀ c ∈ s, c.isDigit = true)
    (hzero : s.head? = some '0' → s = ['0']) : Nat.toDigits 10 (Nat.ofDigitChars 10 s 0) = s := by
  obtain ⟨c, r, rfl⟩ := List.exists_cons_of_ne_nil hne
  by_cases hc : c = '0'
  · rw [hzero (by rw [hc]; rfl)]
    rfl
  · obtain ⟨-, hdigit⟩ := toDigits_digit (hs c List.mem_cons_self)
    have hbounds := digit_bounds (hs c List.mem_cons_self)
    have hother : c.toNat ≠ '0'.toNat := fun h => hc (Char.toNat_inj.1 h)
    have hrest := toDigits_append_digits (fun d hd => hs d (List.mem_cons_of_mem c hd)) (c.toNat - '0'.toNat) (by omega)
    rw [Nat.ofDigitChars_cons, Nat.mul_zero, Nat.zero_add, ← hrest, hdigit]
    rfl

namespace Version

theorem isBuildField_chars (l : Label) : IsBuildField l.chars := ⟨l.ne_nil, l.isLabelChar_of_mem⟩

theorem exists_label {field : List Char} (h : IsBuildField field) : ∃ l : Label, l.chars = field :=
  ⟨⟨field, h.ne_nil, List.all_eq_true.2 h.isLabelChar⟩, rfl⟩

theorem isPrereleaseField_chars (id : Identifier) : IsPrereleaseField id.chars := by
  refine ⟨isBuildField_chars id.label, fun hdigits hhead => ?_⟩
  cases id with
  | number n =>
    rcases Nat.eq_zero_or_pos n with rfl | hn
    · rfl
    · exact absurd hhead (head?_decimal n hn)
  | word l hword =>
    have hdigits : l.isDigits = true := List.all_eq_true.2 hdigits
    rw [hword] at hdigits
    cases hdigits

theorem exists_identifier {field : List Char} (h : IsPrereleaseField field) :
    ∃ id : Identifier, id.chars = field := by
  obtain ⟨l, rfl⟩ := exists_label h.toIsBuildField
  cases hdigits : l.isDigits with
  | false => exact ⟨.word l hdigits, rfl⟩
  | true =>
    have hall := List.all_eq_true.1 hdigits
    exact ⟨.number l.value, toDigits_ofDigitChars h.ne_nil hall (h.eq_zero hall)⟩

theorem parseLabel_eq_ok {part : SuffixPart} {field : List Char} {l : Label} (h : parseLabel part field = .ok l) :
    l.chars = field := by
  unfold parseLabel at h
  split at h
  · rename_i hl
    cases h
    exact Label.chars_of_ofChars? hl
  · cases h

theorem parseIdentifier_eq_ok {field : List Char} {id : Identifier} (h : parseIdentifier field = .ok id) :
    id.chars = field := by
  obtain ⟨l, hl, h⟩ := bind_eq_ok_iff.1 h
  have hchars := parseLabel_eq_ok hl
  unfold Identifier.ofLabel? at h
  by_cases hzero : l.hasLeadingZero = true
  · rw [if_pos hzero] at h
    cases h
  rw [if_neg hzero] at h
  by_cases hdigits : l.isDigits = false
  · rw [dif_pos hdigits] at h
    cases h
    exact hchars
  · rw [dif_neg hdigits] at h
    cases h
    have hdigits : l.isDigits = true := by simpa using hdigits
    rw [← hchars]
    refine toDigits_ofDigitChars l.ne_nil (List.all_eq_true.1 hdigits) fun hhead => ?_
    -- Of digits with a zero in front only the zero itself is left.
    obtain ⟨c, r, hcons⟩ := List.exists_cons_of_ne_nil l.ne_nil
    simp only [Label.hasLeadingZero, hdigits, hcons, List.head?_cons, Option.some.injEq] at hzero hhead
    subst hhead
    have hr : r = [] := by simpa using hzero
    rw [hcons, hr]

section Fields

variable {α : Type} {read : List Char → Except Reason α} {write : α → List Char}

/-- The fields that are read are written before the rest, with dots between them. -/
theorem parseFields_eq_ok (hread : ∀ field a, read field = .ok a → write a = field) {s rest : List Char}
    {fields : List α} (h : parseFields read s = .ok (fields, rest)) :
    fields ≠ [] ∧ s = ['.'].intercalate (fields.map write) ++ rest := by
  obtain ⟨as, has, h⟩ := bind_eq_ok_iff.1 h
  cases h
  have has := mapM_eq_ok_iff.1 has
  have hwritten : fields.map write = (s.takeWhile isFieldOrDot).splitOn '.' := by
    rw [← List.forall₂_eq_eq_eq, List.forall₂_map_left_iff]
    exact has.flip.imp fun a field ha => hread field a ha
  constructor
  · rintro rfl
    exact List.splitOn_ne_nil _ _ hwritten.symm
  · rw [hwritten, List.intercalate_splitOn, List.takeWhile_append_dropWhile]

end Fields

theorem parseEnd_eq_ok {part : SuffixPart} {s : List Char} (h : parseEnd part s = .ok ()) : s = [] := by
  cases s with
  | nil => rfl
  | cons c s => cases h

theorem parseBuild_eq_ok {s : List Char} {build : List Label} (h : parseBuild s = .ok build) :
    '+' :: s = suffixChars '+' (build.map Label.chars) := by
  obtain ⟨⟨fields, rest⟩, hfields, h⟩ := bind_eq_ok_iff.1 h
  obtain ⟨⟨⟩, hend, h⟩ := bind_eq_ok_iff.1 h
  cases h
  obtain ⟨hne, hs⟩ := parseFields_eq_ok (fun _ _ => parseLabel_eq_ok) hfields
  rw [suffixChars_of_ne_nil '+' (by simpa using hne), hs, parseEnd_eq_ok hend, List.append_nil]

/-- **A suffix is read from its written form only.** -/
theorem parseSuffix_eq_ok {s : List Char} {prerelease : List Identifier} {build : List Label}
    (hsign : ∀ c ∈ s.head?, isSign c = true) (h : parseSuffix s = .ok (prerelease, build)) :
    s = suffixChars '-' (prerelease.map Identifier.chars) ++ suffixChars '+' (build.map Label.chars) := by
  cases s with
  | nil =>
    cases h
    rfl
  | cons c s =>
    by_cases hc : c = '-'
    · subst hc
      obtain ⟨⟨fields, rest⟩, hfields, h⟩ := bind_eq_ok_iff.1 h
      obtain ⟨hne, hs⟩ := parseFields_eq_ok (fun _ _ => parseIdentifier_eq_ok) hfields
      dsimp only at h
      split at h
      · obtain ⟨labels, hbuild, h⟩ := bind_eq_ok_iff.1 h
        cases h
        rw [suffixChars_of_ne_nil '-' (by simpa using hne), hs, parseBuild_eq_ok hbuild, List.cons_append]
      · obtain ⟨⟨⟩, hend, h⟩ := bind_eq_ok_iff.1 h
        cases h
        rw [suffixChars_of_ne_nil '-' (by simpa using hne), hs, parseEnd_eq_ok hend, List.append_nil]
        exact (List.append_nil _).symm
    · have hplus : c = '+' := by
        have := hsign c rfl
        simpa [isSign, hc] using this
      subst hplus
      obtain ⟨labels, hbuild, h⟩ := bind_eq_ok_iff.1 h
      cases h
      exact parseBuild_eq_ok hbuild

/-! ## Numbers -/

theorem parseNumber_eq_ok_iff {digits : List Char} {n : UInt64} :
    parseNumber digits = .ok n ↔ IsNumber digits ∧ n.toNat = Nat.ofDigitChars 10 digits 0 := by
  unfold parseNumber
  by_cases hdigits : (digits.isEmpty || !digits.all Char.isDigit) = true
  · rw [if_pos hdigits]
    refine ⟨nofun, fun ⟨h, _⟩ => ?_⟩
    rw [List.isEmpty_eq_false_iff.2 h.ne_nil, List.all_eq_true.2 h.isDigit] at hdigits
    cases hdigits
  · rw [if_neg hdigits]
    simp only [Bool.or_eq_true, not_or, Bool.not_eq_true', Bool.not_eq_false, List.isEmpty_iff] at hdigits
    obtain ⟨hne, hall⟩ := hdigits
    dsimp only
    by_cases hlt : Nat.ofDigitChars 10 digits 0 < UInt64.size
    · rw [if_pos hlt, Except.ok.injEq]
      constructor
      · rintro rfl
        exact ⟨⟨hne, List.all_eq_true.1 hall, hlt⟩, UInt64.toNat_ofNat_of_lt' hlt⟩
      · rintro ⟨-, hn⟩
        rw [← hn, UInt64.ofNat_toNat]
    · rw [if_neg hlt]
      exact ⟨nofun, fun ⟨h, _⟩ => absurd h.lt hlt⟩

theorem toNat_getD : ∀ {numbers : List (List Char)} {values : List UInt64},
    List.Forall₂ (fun digits n => parseNumber digits = .ok n) numbers values →
      ∀ i, (values.getD i 0).toNat = Nat.ofDigitChars 10 (numbers.getD i []) 0
  | _, _, .nil, i => by
    rw [List.getD_nil, List.getD_nil, Nat.ofDigitChars_nil]
    rfl
  | _, _, .cons h _, 0 => (parseNumber_eq_ok_iff.1 h).2
  | _, _, .cons _ hs, i + 1 => toNat_getD hs i

/-- The numbers among the segments of a core. -/
def readNumbers (segments : List (List Char)) : Except Reason (UInt64 × UInt64 × UInt64) := do
  if segments.length > 3 then throw .tooManySegments
  let numbers ← segments.mapM parseNumber
  return (numbers.getD 0 0, numbers.getD 1 0, numbers.getD 2 0)

theorem parseNumbers_eq (core : List Char) : parseNumbers core = readNumbers (core.splitOn '.') := rfl

theorem readNumbers_eq_ok_iff {segments : List (List Char)} {major minor patch : UInt64} :
    readNumbers segments = .ok (major, minor, patch) ↔ segments.length ≤ 3 ∧ ∃ numbers : List UInt64,
      segments.mapM parseNumber = .ok numbers ∧
        major = numbers.getD 0 0 ∧ minor = numbers.getD 1 0 ∧ patch = numbers.getD 2 0 := by
  unfold readNumbers
  by_cases hlen : segments.length > 3
  · rw [if_pos hlen]
    exact ⟨nofun, fun ⟨hle, _⟩ => absurd hlen (Nat.not_lt.2 hle)⟩
  · rw [if_neg hlen]
    show (segments.mapM parseNumber >>= _) = _ ↔ _
    rw [bind_eq_ok_iff]
    constructor
    · rintro ⟨numbers, hnumbers, h⟩
      cases h
      exact ⟨Nat.le_of_not_lt hlen, numbers, hnumbers, rfl, rfl, rfl⟩
    · rintro ⟨-, numbers, hnumbers, rfl, rfl, rfl⟩
      exact ⟨numbers, hnumbers, rfl⟩

/-- A zero more at the end of the numbers is what is read where none is written. -/
theorem readNumbers_concat_zero {segments : List (List Char)} (h : segments.length < 3) {n : UInt64 × UInt64 × UInt64} :
    readNumbers (segments ++ [['0']]) = .ok n ↔ readNumbers segments = .ok n := by
  have hzero : parseNumber ['0'] = .ok 0 := rfl
  have hlen : (segments ++ [['0']]).length ≤ 3 := by
    rw [List.length_append, List.length_singleton]
    omega
  have hgetD : ∀ (values : List UInt64) (i : Nat), (values ++ [0]).getD i 0 = values.getD i 0 := by
    intro values i
    rcases Nat.lt_trichotomy i values.length with hi | rfl | hi
    · simp [List.getElem?_append_left hi]
    · simp
    · simp [List.getElem?_eq_none (Nat.le_of_lt hi), List.getElem?_append_right (Nat.le_of_lt hi),
        Nat.sub_ne_zero_of_lt hi]
  obtain ⟨major, minor, patch⟩ := n
  simp only [readNumbers_eq_ok_iff, hlen, Nat.le_of_lt h, List.mapM_append, List.mapM_cons, List.mapM_nil, hzero,
    bind_eq_ok_iff, true_and]
  constructor
  · rintro ⟨_, ⟨numbers, hnumbers, _, ⟨_, h0, _, hnil, hlast⟩, hall⟩, rfl, rfl, rfl⟩
    cases h0
    cases hnil
    cases hlast
    cases hall
    exact ⟨numbers, hnumbers, hgetD numbers 0, hgetD numbers 1, hgetD numbers 2⟩
  · rintro ⟨numbers, hnumbers, rfl, rfl, rfl⟩
    exact ⟨numbers ++ [0], ⟨numbers, hnumbers, [0], ⟨0, rfl, [], rfl, rfl⟩, rfl⟩, (hgetD numbers 0).symm,
      (hgetD numbers 1).symm, (hgetD numbers 2).symm⟩

theorem parseNumber_cons_zero {digits : List Char} (hne : digits ≠ []) {n : UInt64} :
    parseNumber ('0' :: digits) = .ok n ↔ parseNumber digits = .ok n := by
  have hvalue : Nat.ofDigitChars 10 ('0' :: digits) 0 = Nat.ofDigitChars 10 digits 0 := by
    rw [Nat.ofDigitChars_cons]
    rfl
  simp only [parseNumber_eq_ok_iff, hvalue]
  refine and_congr_left fun _ => ⟨fun h => ?_, fun h => ?_⟩
  · exact ⟨hne, fun c hc => h.isDigit c (List.mem_cons_of_mem _ hc), hvalue ▸ h.lt⟩
  · exact ⟨nofun, List.forall_mem_cons.2 ⟨rfl, h.isDigit⟩, hvalue ▸ h.lt⟩

/-- A zero more in front of one of the numbers changes none of them. -/
theorem readNumbers_cons_zero {before after : List (List Char)} {digits : List Char} (hne : digits ≠ [])
    {n : UInt64 × UInt64 × UInt64} :
    readNumbers (before ++ ('0' :: digits) :: after) = .ok n ↔ readNumbers (before ++ digits :: after) = .ok n := by
  obtain ⟨major, minor, patch⟩ := n
  simp only [readNumbers_eq_ok_iff, List.length_append, List.length_cons, List.mapM_append, List.mapM_cons,
    bind_eq_ok_iff, parseNumber_cons_zero hne]

/-! ## The whole text -/

namespace Written

variable {w : Written} {v : Version}

theorem splitOn_core (w : Written) : w.core.splitOn '.' = w.numbers := by
  refine List.splitOn_intercalate _ (fun digits hdigits hmem => ?_) w.numbers_ne_nil
  have := (w.isNumber digits hdigits).isDigit _ hmem
  cases this

theorem not_isSign_of_mem_core {c : Char} (h : c ∈ w.core) : isSign c = false := by
  rcases mem_intercalate_dot h with rfl | ⟨digits, hdigits, hc⟩
  · rfl
  · exact isSign_of_isDigit ((w.isNumber digits hdigits).isDigit c hc)

theorem Means.suffix_eq (h : w.Means v) : w.suffix = v.prereleaseChars ++ v.buildChars := by
  rw [suffix, ← h.prerelease, ← h.build]
  rfl

/-- The numbers that are written, as words. -/
def values (w : Written) : List UInt64 := w.numbers.map fun digits => UInt64.ofNat (Nat.ofDigitChars 10 digits 0)

theorem mapM_numbers (w : Written) : w.numbers.mapM parseNumber = .ok w.values := by
  rw [mapM_eq_ok_iff, values, List.forall₂_map_right_iff, List.forall₂_same]
  intro digits hdigits
  have h := w.isNumber digits hdigits
  exact parseNumber_eq_ok_iff.2 ⟨h, UInt64.toNat_ofNat_of_lt' h.lt⟩

theorem toNat_values (w : Written) (i : Nat) : (w.values.getD i 0).toNat = w.number i :=
  toNat_getD (mapM_eq_ok_iff.1 w.mapM_numbers) i

theorem exists_means (w : Written) : ∃ v, w.Means v := by
  have hpre : w.prerelease ∈ Set.range (List.map Identifier.chars) := by
    rw [Set.range_list_map]
    exact fun field hfield => exists_identifier (w.isPrereleaseField field hfield)
  have hbuild : w.build ∈ Set.range (List.map Label.chars) := by
    rw [Set.range_list_map]
    exact fun field hfield => exists_label (w.isBuildField field hfield)
  obtain ⟨prerelease, hpre⟩ := hpre
  obtain ⟨build, hbuild⟩ := hbuild
  exact ⟨⟨w.values.getD 0 0, w.values.getD 1 0, w.values.getD 2 0, prerelease, build⟩, w.toNat_values 0,
    w.toNat_values 1, w.toNat_values 2, hpre, hbuild⟩

theorem parseNumbers_core (h : w.Means v) : parseNumbers w.core = .ok (v.major, v.minor, v.patch) := by
  rw [parseNumbers_eq, splitOn_core, readNumbers_eq_ok_iff]
  exact ⟨w.length_numbers_le, w.values, w.mapM_numbers, UInt64.toNat_inj.1 (h.major.trans (w.toNat_values 0).symm),
    UInt64.toNat_inj.1 (h.minor.trans (w.toNat_values 1).symm),
    UInt64.toNat_inj.1 (h.patch.trans (w.toNat_values 2).symm)⟩

end Written

theorem not_isSign_of_mem_takeWhile {s : List Char} : ∀ c ∈ s.takeWhile (fun c => !isSign c), isSign c = false :=
  fun c hc => by simpa using List.mem_takeWhile_imp hc

theorem isSign_of_mem_head?_dropWhile {s : List Char} :
    ∀ c ∈ (s.dropWhile fun c => !isSign c).head?, isSign c = true := by
  intro c hc
  rw [← List.find?_eq_head?_dropWhile_not] at hc
  exact List.find?_some hc

/-- **The reader accepts exactly the grammar**, and gives what is written. -/
theorem parseBare_eq_ok_iff {s : List Char} {v : Version} :
    parseBare s = .ok v ↔ ∃ w : Written, s = w.chars ∧ w.Means v := by
  constructor
  · intro h
    have hs := List.takeWhile_append_dropWhile (p := fun c => !isSign c) (l := s)
    rw [← hs, parseBare_append_eq_ok_iff not_isSign_of_mem_takeWhile isSign_of_mem_head?_dropWhile] at h
    obtain ⟨hnumbers, hsuffix⟩ := h
    rw [parseNumbers_eq, readNumbers_eq_ok_iff] at hnumbers
    obtain ⟨hlen, values, hvalues, hmajor, hminor, hpatch⟩ := hnumbers
    have hvalue := toNat_getD (mapM_eq_ok_iff.1 hvalues)
    refine ⟨⟨(s.takeWhile fun c => !isSign c).splitOn '.', v.prerelease.map Identifier.chars, v.build.map Label.chars,
      List.splitOn_ne_nil _ _, hlen, fun digits hdigits => ?_, fun field hfield => ?_, fun field hfield => ?_⟩, ?_, ?_⟩
    · obtain ⟨n, hn⟩ := exists_ok_of_mem hvalues digits hdigits
      exact (parseNumber_eq_ok_iff.1 hn).1
    · obtain ⟨id, -, rfl⟩ := List.mem_map.1 hfield
      exact isPrereleaseField_chars id
    · obtain ⟨l, -, rfl⟩ := List.mem_map.1 hfield
      exact isBuildField_chars l
    · rw [parseSuffix_eq_ok isSign_of_mem_head?_dropWhile hsuffix] at hs
      rw [Written.chars, Written.core, Written.suffix, List.intercalate_splitOn]
      exact hs.symm
    · exact ⟨by rw [hmajor]; exact hvalue 0, by rw [hminor]; exact hvalue 1, by rw [hpatch]; exact hvalue 2, rfl, rfl⟩
  · rintro ⟨w, rfl, h⟩
    rw [Written.chars, h.suffix_eq, parseBare_append_eq_ok_iff (fun c => Written.not_isSign_of_mem_core)
      fun c hc => isSign_of_mem_head? hc]
    exact ⟨Written.parseNumbers_core h, parseSuffix_written v⟩

/-! ## Idle differences -/

theorem length_splitOn (c : Char) : ∀ s : List Char, (s.splitOn c).length = s.count c + 1
  | [] => rfl
  | a :: s => by
    rw [List.splitOn_cons_eq_if_modifyHead, List.count_cons]
    by_cases h : a = c
    · simp [h, length_splitOn c s]
    · simp [h, length_splitOn c s]

theorem splitOn_cons {c : Char} {s segment : List Char} {more : List (List Char)} (hc : c ≠ '.')
    (h : s.splitOn '.' = segment :: more) : (c :: s).splitOn '.' = (c :: segment) :: more := by
  rw [List.splitOn_cons_eq_if_modifyHead, if_neg (by simpa using hc), h, List.modifyHead_cons]

theorem exists_splitOn_append {before : List Char} (h : ∀ c ∈ before.getLast?, c = '.') :
    ∃ segments, ∀ s : List Char, (before ++ s).splitOn '.' = segments ++ s.splitOn '.' := by
  rcases List.eq_nil_or_concat' before with rfl | ⟨front, c, rfl⟩
  · exact ⟨[], fun s => rfl⟩
  · have hc := h c (List.getLast?_concat ..)
    subst hc
    exact ⟨front.splitOn '.', fun s => by rw [List.append_assoc]; exact List.splitOn_append_cons_self front s⟩

/-- The suffix does not see how the numbers are written. -/
theorem parseBare_congr {core core' suffix : List Char} (hcore : ∀ c ∈ core, isSign c = false)
    (hcore' : ∀ c ∈ core', isSign c = false) (hsuffix : ∀ c ∈ suffix.head?, isSign c = true)
    (h : ∀ n, parseNumbers core' = .ok n ↔ parseNumbers core = .ok n) (v : Version) :
    parseBare (core' ++ suffix) = .ok v ↔ parseBare (core ++ suffix) = .ok v := by
  rw [parseBare_append_eq_ok_iff hcore' hsuffix, parseBare_append_eq_ok_iff hcore hsuffix, h]

/-- A number that is not written is read as a zero would be. -/
theorem parseBare_concat_zero {core suffix : List Char} (hcore : ∀ c ∈ core, isSign c = false)
    (hdots : core.count '.' < 2) (hsuffix : ∀ c ∈ suffix.head?, isSign c = true) (v : Version) :
    parseBare (core ++ ['.', '0'] ++ suffix) = .ok v ↔ parseBare (core ++ suffix) = .ok v := by
  have hpadding : ∀ c ∈ ['.', '0'], isSign c = false :=
    List.forall_mem_cons.2 ⟨rfl, List.forall_mem_singleton.2 rfl⟩
  have hzero : ∀ c ∈ core ++ ['.', '0'], isSign c = false := fun c hc =>
    (List.mem_append.1 hc).elim (hcore c) (hpadding c)
  refine parseBare_congr hcore hzero hsuffix (fun n => ?_) v
  have hlen : (core.splitOn '.').length < 3 := by
    rw [length_splitOn]
    omega
  rw [parseNumbers_eq, parseNumbers_eq, List.splitOn_append_cons_self]
  exact readNumbers_concat_zero hlen

/-- A zero in front of a number's digits is not seen. -/
theorem parseBare_cons_zero {before after : List Char} {digit : Char} (hdigit : digit.isDigit = true)
    (hbefore : ∀ c ∈ before, isSign c = false) (hdot : ∀ c ∈ before.getLast?, c = '.') (v : Version) :
    parseBare (before ++ '0' :: digit :: after) = .ok v ↔ parseBare (before ++ digit :: after) = .ok v := by
  have hafter := List.takeWhile_append_dropWhile (p := fun c => !isSign c) (l := after)
  generalize hcore : after.takeWhile (fun c => !isSign c) = core at hafter
  have hrest : ∀ c ∈ core, isSign c = false := hcore ▸ not_isSign_of_mem_takeWhile
  have hsplit : ∀ s : List Char, before ++ s ++ after.dropWhile (fun c => !isSign c) =
      before ++ (s ++ after.dropWhile fun c => !isSign c) := fun s => List.append_assoc ..
  rw [← hafter, ← List.cons_append, ← List.cons_append, ← hsplit, ← hsplit]
  have hmem : ∀ s : List Char, (∀ c ∈ s, isSign c = false) → ∀ c ∈ before ++ s, isSign c = false :=
    fun s hs c hc => (List.mem_append.1 hc).elim (hbefore c) (hs c)
  have hdigits : ∀ c ∈ digit :: core, isSign c = false :=
    List.forall_mem_cons.2 ⟨isSign_of_isDigit hdigit, hrest⟩
  refine parseBare_congr (hmem _ hdigits) (hmem _ (List.forall_mem_cons.2 ⟨rfl, hdigits⟩))
    isSign_of_mem_head?_dropWhile (fun n => ?_) v
  -- The number that the zero is put before is what stands behind the last dot.
  obtain ⟨segments, hsegments⟩ := exists_splitOn_append hdot
  have hne : digit ≠ '.' := by
    rintro rfl
    cases hdigit
  obtain ⟨number, more, hnumber⟩ := List.exists_cons_of_ne_nil (List.splitOn_ne_nil '.' core)
  have hfirst := splitOn_cons hne hnumber
  have hzero := splitOn_cons (show '0' ≠ '.' by decide) hfirst
  rw [parseNumbers_eq, parseNumbers_eq, hsegments, hsegments, hfirst, hzero]
  exact readNumbers_cons_zero (List.cons_ne_nil digit number)

end Version

namespace Text

variable {c : Char} {s w : List Char}

theorem trimEnd_cons (hc : isBlank c = false) : trimEnd (c :: s) = c :: trimEnd s := by
  unfold trimEnd
  rw [List.reverse_cons, List.dropWhile_append]
  split
  · rename_i hempty
    rw [List.isEmpty_iff.1 hempty]
    simp [hc]
  · simp

theorem trim_cons (hc : isBlank c = false) : trim (c :: s) = c :: trimEnd s := by
  have hstart : trimStart (c :: s) = c :: s := List.dropWhile_cons_of_neg (by simp [hc])
  rw [trim, hstart, trimEnd_cons hc]

theorem trim_append_left (hw : ∀ c ∈ w, isBlank c = true) : trim (w ++ s) = trim s := by
  rw [trim, trim, trimStart, List.dropWhile_append_of_pos hw]
  rfl

theorem trim_append_right (hw : ∀ c ∈ w, isBlank c = true) : trim (s ++ w) = trim s := by
  have hend : ∀ t : List Char, trimEnd (t ++ w) = trimEnd t := by
    intro t
    rw [trimEnd, trimEnd, List.reverse_append, List.dropWhile_append_of_pos fun c hc => hw c (List.mem_reverse.1 hc)]
  rw [trim, trim, trimStart, trimStart, List.dropWhile_append]
  split
  · rename_i hempty
    rw [List.isEmpty_iff.1 hempty, List.dropWhile_eq_nil_iff.2 hw]
  · exact hend _

end Text

namespace Version

theorem bare_append_blanks {s before after : String}
    (h : ∀ c ∈ before.toList ++ after.toList, Text.isBlank c = true) : bare (before ++ s ++ after) = bare s := by
  unfold bare
  rw [String.toList_append, String.toList_append, Text.trim_append_right fun c hc => h c (List.mem_append_right _ hc),
    Text.trim_append_left fun c hc => h c (List.mem_append_left _ hc)]

theorem bare_eq_of_v {s s' : String} {blanks rest : List Char} {digit sign : Char}
    (hblank : ∀ c ∈ blanks, Text.isBlank c = true) (hdigit : digit.isDigit = true) (hsign : sign ∈ ['v', 'V'])
    (hs : s.toList = blanks ++ digit :: rest) (hs' : s'.toList = blanks ++ sign :: digit :: rest) :
    bare s' = bare s := by
  have hdigit' : Text.isBlank digit = false := by
    have := isLabelChar_bounds (isLabelChar_of_isDigit hdigit)
    exact not_isBlank_of_bounds (by omega) this.2.1
  have hsign' : Text.isBlank sign = false ∧ ∀ t, dropV (sign :: t) = t := by
    rcases List.mem_cons.1 hsign with rfl | hsign
    · exact ⟨by decide, fun t => rfl⟩
    · rw [List.mem_singleton.1 hsign]
      exact ⟨by decide, fun t => rfl⟩
  unfold bare
  rw [hs, hs', Text.trim_append_left hblank, Text.trim_append_left hblank, Text.trim_cons hsign'.1,
    Text.trimEnd_cons hdigit', Text.trim_cons hdigit', hsign'.2, dropV_of_isDigit hdigit]

/-- **A text reads as a version exactly if the grammar has it**, and then as the version that it spells: the text that
is left without blanks around it and a `v` in front is written as one to three numbers, each below 2^64, and a
well-formed suffix.  A text that is refused is given back with the reason.  Nothing is seen of further blanks, of a
`v` before the first digit, of a zero for a number that is not written, and of zeros in front of a number. -/
theorem parse_accepts_grammar (s : String) :
    (∀ v, parse s = .ok v ↔ ∃ w : Written, bare s = w.chars ∧ w.Means v) ∧
    ((∃ v, parse s = .ok v) ↔ ∃ w : Written, bare s = w.chars) ∧
    (∀ e, parse s = .error e → e.input = s) ∧
    (∀ before after : String, (∀ c ∈ before.toList ++ after.toList, Text.isBlank c = true) →
      ∀ v, parse (before ++ s ++ after) = .ok v ↔ parse s = .ok v) ∧
    (∀ blanks digit rest, (∀ c ∈ blanks, Text.isBlank c = true) → digit.isDigit = true →
      s.toList = blanks ++ digit :: rest →
        ∀ sign ∈ ['v', 'V'], ∀ s' : String, s'.toList = blanks ++ sign :: digit :: rest →
        ∀ v, parse s' = .ok v ↔ parse s = .ok v) ∧
    (∀ core suffix, (∀ c ∈ core, isSign c = false) → core.count '.' < 2 → (∀ c ∈ suffix.head?, isSign c = true) →
      bare s = core ++ suffix → ∀ s', bare s' = core ++ ['.', '0'] ++ suffix →
        ∀ v, parse s' = .ok v ↔ parse s = .ok v) ∧
    ∀ before digit after, (∀ c ∈ before, isSign c = false) → (∀ c ∈ before.getLast?, c = '.') → digit.isDigit = true →
      bare s = before ++ digit :: after → ∀ s', bare s' = before ++ '0' :: digit :: after →
        ∀ v, parse s' = .ok v ↔ parse s = .ok v := by
  have hparse : ∀ v, parse s = .ok v ↔ ∃ w : Written, bare s = w.chars ∧ w.Means v := fun v =>
    parse_eq_ok_iff.trans parseBare_eq_ok_iff
  refine ⟨hparse, ⟨fun ⟨v, hv⟩ => ?_, fun ⟨w, hw⟩ => ?_⟩, fun e he => ?_, fun before after hblank v => ?_,
    fun blanks digit rest hblank hdigit hs sign hsign s' hs' v => ?_,
    fun core suffix hcore hdots hsuffix hs s' hs' v => ?_,
    fun before digit after hbefore hdot hdigit hs s' hs' v => ?_⟩
  · obtain ⟨w, hw, -⟩ := (hparse v).1 hv
    exact ⟨w, hw⟩
  · obtain ⟨v, hv⟩ := w.exists_means
    exact ⟨v, (hparse v).2 ⟨w, hw, hv⟩⟩
  · unfold parse at he
    split at he
    · cases he
    · cases he
      rfl
  · rw [parse_eq_ok_iff, parse_eq_ok_iff, bare_append_blanks hblank]
  · rw [parse_eq_ok_iff, parse_eq_ok_iff, bare_eq_of_v hblank hdigit hsign hs hs']
  · rw [parse_eq_ok_iff, parse_eq_ok_iff, hs, hs']
    exact parseBare_concat_zero hcore hdots hsuffix v
  · rw [parse_eq_ok_iff, parse_eq_ok_iff, hs, hs']
    exact parseBare_cons_zero hdigit hbefore hdot v

end Version

end KubectlMatch
