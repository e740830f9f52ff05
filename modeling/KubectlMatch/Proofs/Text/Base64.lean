import Mathlib.Algebra.Group.Nat.Defs
import Mathlib.Tactic.MkIffOfInductiveProp
import KubectlMatch.Proofs.Success
import KubectlMatch.Text.Base64
/-!
# What reads as base64

`encode` writes three bytes as four symbols, and what is left of one or two as two or three symbols and padding.  The
reader takes back what is written so, and nothing else (`decode_eq_ok_iff`): of each byte string there is one written
form.

All symbols of a group make one number, and so do its bytes; a group is read from the symbols of the number that the
bytes make.
-/
namespace KubectlMatch.Text.Base64

variable {bytes group text : List UInt8} {values : List Nat} {s : UInt8} {n offset i : Nat}

/-! ## Symbols -/

/-- The sixty-four symbols, each at its number. -/
def symbols : List UInt8 :=
  "ABCDEFGHIJKLMNOPQRSTUVWXYZabcdefghijklmnopqrstuvwxyz0123456789+/".toList.map Char.toUInt8

def symbol (n : Nat) : UInt8 := symbols.getD n 0

theorem value?_symbol (h : n < 64) : value? (symbol n) = some n := by
  have hall : ∀ k : Fin 64, value? (symbol k) = some k.val := by decide +kernel
  exact hall ⟨n, h⟩

theorem eq_symbol_of_value? (h : value? s = some n) : n < 64 ∧ s = symbol n := by
  have hall : ∀ k : Fin 256, ∀ m ∈ value? (UInt8.ofNat k), m < 64 ∧ UInt8.ofNat k = symbol m := by decide +kernel
  have hs := hall ⟨s.toNat, s.toNat_lt⟩ n
  rw [UInt8.ofNat_toNat] at hs
  exact hs h

theorem value_eq_ok_iff : value s offset = .ok n ↔ n < 64 ∧ s = symbol n := by
  unfold value
  constructor
  · intro h
    cases hs : value? s with
    | none =>
      rw [hs] at h
      cases h
    | some m =>
      rw [hs] at h
      cases h
      exact eq_symbol_of_value? hs
  · rintro ⟨hn, rfl⟩
    rw [value?_symbol hn]

theorem symbol_ne_padding (h : n < 64) : symbol n ≠ padding := by
  intro heq
  have hvalue := value?_symbol h
  rw [heq, show value? padding = none by decide +kernel] at hvalue
  cases hvalue

/-! ## Writing -/

/-- The symbols of a number of twenty-four bits. -/
def quad (n : Nat) : List UInt8 :=
  [symbol (n / 2 ^ 18), symbol (n / 2 ^ 12 % 64), symbol (n / 2 ^ 6 % 64), symbol (n % 64)]

/-- Writes bytes as symbols, three as four. -/
def encode : List UInt8 → List UInt8
  | [] => []
  | [a] => (quad (a.toNat * 2 ^ 16)).take 2 ++ [padding, padding]
  | [a, b] => (quad ((a.toNat * 2 ^ 8 + b.toNat) * 2 ^ 8)).take 3 ++ [padding]
  | a :: b :: c :: rest => quad ((a.toNat * 2 ^ 8 + b.toNat) * 2 ^ 8 + c.toNat) ++ encode rest

theorem four_dvd_length_encode : ∀ bytes : List UInt8, 4 ∣ (encode bytes).length
  | [] => ⟨0, rfl⟩
  | [_] => ⟨1, rfl⟩
  | [_, _] => ⟨1, rfl⟩
  | _ :: _ :: _ :: rest => by
    obtain ⟨k, hk⟩ := four_dvd_length_encode rest
    exact ⟨k + 1, by rw [encode, List.length_append, hk]; show 4 + 4 * k = _; omega⟩

theorem encode_ne_nil : ∀ {bytes : List UInt8}, bytes ≠ [] → encode bytes ≠ []
  | [], h => absurd rfl h
  | [_], _ => nofun
  | [_, _], _ => nofun
  | _ :: _ :: _ :: _, _ => nofun

theorem length_le_three : ∀ {bytes : List UInt8}, (encode bytes).length ≤ 4 → bytes.length ≤ 3
  | [], _ => by decide
  | [_], _ => by simp
  | [_, _], _ => by simp
  | [_, _, _], _ => by simp
  | _ :: _ :: _ :: b :: rest, h => by
    have hpos := List.length_pos_iff.2 (encode_ne_nil (List.cons_ne_nil b rest))
    rw [encode, List.length_append] at h
    have : (4 : Nat) + (encode (b :: rest)).length ≤ 4 := h
    omega

/-! ## Reading the last group -/

/-- The last values are those of symbols that may be followed by padding, from the third place on. -/
theorem lastValues_eq_ok_iff : ∀ {group : List UInt8} {values : List Nat} {i : Nat},
    lastValues offset i group = .ok values ↔ ∃ k, group = values.map symbol ++ List.replicate k padding ∧
      (∀ v ∈ values, v < 64) ∧ (k = 0 ∨ 2 ≤ i + values.length)
  | [], values, i => by
    constructor
    · intro h
      cases h
      exact ⟨0, rfl, nofun, Or.inl rfl⟩
    · rintro ⟨k, hgroup, -, -⟩
      have hvalues : values = [] := List.map_eq_nil_iff.1 (List.append_eq_nil_iff.1 hgroup.symm).1
      rw [hvalues]
      rfl
  | s :: rest, values, i => by
    unfold lastValues
    by_cases hs : s = padding
    · rw [if_pos hs]
      subst hs
      by_cases hbad : i < 2 ∨ (rest.any (· != padding)) = true
      · rw [if_pos hbad]
        refine ⟨nofun, ?_⟩
        rintro ⟨k, hgroup, hlt, hk⟩
        cases values with
        | cons v values =>
          exact absurd (List.cons.inj hgroup).1.symm (symbol_ne_padding (hlt v List.mem_cons_self))
        | nil =>
          -- all of the group is padding, so what follows the first is too
          cases k with
          | zero => cases hgroup
          | succ k =>
            have hrest : rest = List.replicate k padding := (List.cons.inj hgroup).2
            rcases hbad with hi | hother
            · have : 2 ≤ i := hk.resolve_left k.succ_ne_zero
              omega
            · rw [hrest] at hother
              simp at hother
      · rw [if_neg hbad]
        obtain ⟨hi, hother⟩ := not_or.1 hbad
        have hrest : rest = List.replicate rest.length padding :=
          List.eq_replicate_iff.2 ⟨rfl, by simpa [List.any_eq_true] using hother⟩
        constructor
        · intro h
          cases h
          exact ⟨rest.length + 1, by rw [List.replicate_succ, ← hrest]; rfl, nofun, Or.inr (Nat.le_of_not_lt hi)⟩
        · rintro ⟨k, hgroup, hlt, -⟩
          cases values with
          | nil => rfl
          | cons v values =>
            exact absurd (List.cons.inj hgroup).1.symm (symbol_ne_padding (hlt v List.mem_cons_self))
    · rw [if_neg hs]
      simp only [bind_eq_ok_iff, value_eq_ok_iff, @lastValues_eq_ok_iff rest]
      constructor
      · rintro ⟨v, ⟨hv, rfl⟩, more, ⟨k, rfl, hlt, hk⟩, h⟩
        cases h
        refine ⟨k, rfl, List.forall_mem_cons.2 ⟨hv, hlt⟩, hk.imp_right fun h => ?_⟩
        rw [List.length_cons]
        omega
      · rintro ⟨k, hgroup, hlt, hk⟩
        cases values with
        | nil =>
          cases k with
          | zero => cases hgroup
          | succ k => exact absurd (List.cons.inj hgroup).1 hs
        | cons v values =>
          obtain ⟨rfl, rfl⟩ := List.cons.inj hgroup
          obtain ⟨hv, hlt⟩ := List.forall_mem_cons.1 hlt
          refine ⟨v, ⟨hv, rfl⟩, values, ⟨k, rfl, hlt, hk.imp_right fun h => ?_⟩, rfl⟩
          rw [List.length_cons] at h
          omega

/-! ## Bytes and numbers -/

theorem bytesOf_one (n : Nat) : bytesOf 1 n = [UInt8.ofNat n] := rfl

theorem bytesOf_two (n : Nat) : bytesOf 2 n = [UInt8.ofNat (n / 2 ^ 8), UInt8.ofNat n] := by
  rw [← Nat.shiftRight_eq_div_pow]
  rfl

theorem bytesOf_three (n : Nat) :
    bytesOf 3 n = [UInt8.ofNat (n / 2 ^ 16), UInt8.ofNat (n / 2 ^ 8), UInt8.ofNat n] := by
  rw [← Nat.shiftRight_eq_div_pow, ← Nat.shiftRight_eq_div_pow]
  rfl

theorem eq_ofNat_iff {a : UInt8} : a = UInt8.ofNat n ↔ a.toNat = n % 2 ^ 8 := by
  rw [← UInt8.toNat_inj, UInt8.toNat_ofNat']

theorem quad_of_values {u v w x : Nat} (hv : v < 64) (hw : w < 64) (hx : x < 64) :
    quad (((u * 64 + v) * 64 + w) * 64 + x) = [symbol u, symbol v, symbol w, symbol x] := by
  have h : (((u * 64 + v) * 64 + w) * 64 + x) / 2 ^ 18 = u ∧ (((u * 64 + v) * 64 + w) * 64 + x) / 2 ^ 12 % 64 = v ∧
      (((u * 64 + v) * 64 + w) * 64 + x) / 2 ^ 6 % 64 = w ∧ (((u * 64 + v) * 64 + w) * 64 + x) % 64 = x := by omega
  obtain ⟨hu, hv, hw, hx⟩ := h
  rw [quad, hu, hv, hw, hx]

theorem number_of_quad (n : Nat) : ((n / 2 ^ 18 * 64 + n / 2 ^ 12 % 64) * 64 + n / 2 ^ 6 % 64) * 64 + n % 64 = n := by
  omega

theorem eq_bytesOf_three_iff {a b c : UInt8} (hn : n < 2 ^ 24) :
    [a, b, c] = bytesOf 3 n ↔ (a.toNat * 2 ^ 8 + b.toNat) * 2 ^ 8 + c.toNat = n := by
  have ha := a.toNat_lt
  have hb := b.toNat_lt
  have hc := c.toNat_lt
  simp only [bytesOf_three, List.cons.injEq, and_true, eq_ofNat_iff]
  omega

/-- The values of a last group, and the bytes whose number they make but for bits to spare, which are zero. -/
@[mk_iff]
structure Spells (values : List Nat) (bytes : List UInt8) : Prop where
  two_le : 2 ≤ values.length
  le_four : values.length ≤ 4
  lt : ∀ v ∈ values, v < 64
  spare : values.foldl (fun m v => m * 64 + v) 0 % (1 <<< (6 * values.length % 8)) = 0
  bytes_eq : bytes = bytesOf (6 * values.length / 8)
    (values.foldl (fun m v => m * 64 + v) 0 >>> (6 * values.length % 8))

theorem eq_replicate_of_length {k : Nat} (hlen : group.length = 4)
    (hgroup : group = values.map symbol ++ List.replicate k padding) : k = 4 - values.length ∧ values.length ≤ 4 := by
  have := congrArg List.length hgroup
  rw [List.length_append, List.length_map, List.length_replicate, hlen] at this
  omega

/-- The last group has the symbols of its values, and padding in the places that are left of four. -/
theorem decodeLast_eq_ok_iff_spells (hne : group ≠ []) : decodeLast offset group = .ok bytes ↔
    ∃ values, Spells values bytes ∧ group = values.map symbol ++ List.replicate (4 - values.length) padding := by
  unfold decodeLast
  rw [if_neg (by simpa using hne)]
  show (lastValues offset 0 group >>= _) = _ ↔ _
  rw [bind_eq_ok_iff]
  constructor
  · rintro ⟨values, hvalues, h⟩
    dsimp only at h
    split at h
    · cases h
    rename_i hshort
    split at h
    · cases h
    rename_i hlen
    split at h
    · cases h
    rename_i hspare
    cases h
    obtain ⟨k, hgroup, hlt, -⟩ := lastValues_eq_ok_iff.1 hvalues
    obtain ⟨rfl, hmost⟩ := eq_replicate_of_length (not_not.1 hlen) hgroup
    exact ⟨values, ⟨Nat.le_of_not_lt hshort, hmost, hlt, not_not.1 hspare, rfl⟩, hgroup⟩
  · rintro ⟨values, h, hgroup⟩
    have hlen : group.length = 4 := by
      have := h.le_four
      rw [hgroup, List.length_append, List.length_map, List.length_replicate]
      omega
    have htwo := h.two_le
    refine ⟨values, lastValues_eq_ok_iff.2 ⟨_, hgroup, h.lt, Or.inr (by omega)⟩, ?_⟩
    rw [if_neg (Nat.not_lt.2 htwo), if_neg (not_not.2 hlen), if_neg (not_not.2 h.spare), h.bytes_eq]
    rfl

variable {u v w x : Nat}

theorem spells_two_iff : Spells [u, v] bytes ↔ (u < 64 ∧ v < 64) ∧ (u * 64 + v) % 2 ^ 4 = 0 ∧
    bytes = bytesOf 1 ((u * 64 + v) / 2 ^ 4) := by
  simp [spells_iff, Nat.shiftRight_eq_div_pow]

theorem spells_three_iff : Spells [u, v, w] bytes ↔ (u < 64 ∧ v < 64 ∧ w < 64) ∧
    ((u * 64 + v) * 64 + w) % 2 ^ 2 = 0 ∧ bytes = bytesOf 2 (((u * 64 + v) * 64 + w) / 2 ^ 2) := by
  simp [spells_iff, Nat.shiftRight_eq_div_pow]

theorem spells_four_iff : Spells [u, v, w, x] bytes ↔ (u < 64 ∧ v < 64 ∧ w < 64 ∧ x < 64) ∧
    bytes = bytesOf 3 (((u * 64 + v) * 64 + w) * 64 + x) := by
  simp [spells_iff, Nat.mod_one]

/-- What the values of a last group spell is written as the group. -/
theorem encode_of_spells (h : Spells values bytes) :
    encode bytes = values.map symbol ++ List.replicate (4 - values.length) padding := by
  match values, h with
  | [], h | [_], h =>
    have := h.two_le
    simp at this
  | [u, v], h =>
    obtain ⟨⟨hu, hv⟩, hspare, rfl⟩ := spells_two_iff.1 h
    have hnumber : (u * 64 + v) / 2 ^ 4 % 2 ^ 8 * 2 ^ 16 = ((u * 64 + v) * 64 + 0) * 64 + 0 := by omega
    rw [bytesOf_one, encode, UInt8.toNat_ofNat', hnumber, quad_of_values hv (by decide) (by decide)]
    rfl
  | [u, v, w], h =>
    obtain ⟨⟨hu, hv, hw⟩, hspare, rfl⟩ := spells_three_iff.1 h
    have hnumber : (((u * 64 + v) * 64 + w) / 2 ^ 2 / 2 ^ 8 % 2 ^ 8 * 2 ^ 8 +
        ((u * 64 + v) * 64 + w) / 2 ^ 2 % 2 ^ 8) * 2 ^ 8 = ((u * 64 + v) * 64 + w) * 64 + 0 := by omega
    rw [bytesOf_two, encode, UInt8.toNat_ofNat', UInt8.toNat_ofNat', hnumber, quad_of_values hv hw (by decide)]
    rfl
  | [u, v, w, x], h =>
    obtain ⟨⟨hu, hv, hw, hx⟩, rfl⟩ := spells_four_iff.1 h
    have hnumber := (eq_bytesOf_three_iff (by omega)).1 (bytesOf_three (((u * 64 + v) * 64 + w) * 64 + x)).symm
    rw [bytesOf_three, encode, hnumber, quad_of_values hv hw hx]
    rfl
  | _ :: _ :: _ :: _ :: _ :: _, h =>
    have := h.le_four
    simp only [List.length_cons] at this
    omega

theorem exists_spells (hne : bytes ≠ []) (hthree : bytes.length ≤ 3) : ∃ values, Spells values bytes := by
  match bytes, hne, hthree with
  | [a], _, _ =>
    have ha := a.toNat_lt
    refine ⟨[a.toNat / 2 ^ 2, a.toNat % 2 ^ 2 * 2 ^ 4], spells_two_iff.2 ⟨by omega, by omega, ?_⟩⟩
    simp only [bytesOf_one, List.cons.injEq, and_true, eq_ofNat_iff]
    omega
  | [a, b], _, _ =>
    have ha := a.toNat_lt
    have hb := b.toNat_lt
    refine ⟨[a.toNat / 2 ^ 2, a.toNat % 2 ^ 2 * 2 ^ 4 + b.toNat / 2 ^ 4, b.toNat % 2 ^ 4 * 2 ^ 2],
      spells_three_iff.2 ⟨by omega, by omega, ?_⟩⟩
    simp only [bytesOf_two, List.cons.injEq, and_true, eq_ofNat_iff]
    omega
  | [a, b, c], _, _ =>
    have ha := a.toNat_lt
    have hb := b.toNat_lt
    have hc := c.toNat_lt
    obtain ⟨hu, hv, hw, hx⟩ : a.toNat / 2 ^ 2 < 64 ∧ a.toNat % 2 ^ 2 * 2 ^ 4 + b.toNat / 2 ^ 4 < 64 ∧
      b.toNat % 2 ^ 4 * 2 ^ 2 + c.toNat / 2 ^ 6 < 64 ∧ c.toNat % 2 ^ 6 < 64 := by omega
    exact ⟨_, spells_four_iff.2 ⟨⟨hu, hv, hw, hx⟩, (eq_bytesOf_three_iff (by omega)).2 (by omega)⟩⟩

/-! ## Reading -/

/-- **The last group is the written form of its bytes.** -/
theorem decodeLast_eq_ok_iff (hlen : group.length ≤ 4) : decodeLast offset group = .ok bytes ↔
    group = encode bytes := by
  by_cases hne : group = []
  · subst hne
    constructor
    · intro h
      cases h
      rfl
    · intro h
      by_cases hbytes : bytes = []
      · rw [hbytes]
        rfl
      · exact absurd h.symm (encode_ne_nil hbytes)
  rw [decodeLast_eq_ok_iff_spells hne]
  constructor
  · rintro ⟨values, hspells, rfl⟩
    exact (encode_of_spells hspells).symm
  · rintro rfl
    have hbytes : bytes ≠ [] := fun h => hne (by rw [h]; rfl)
    obtain ⟨values, hspells⟩ := exists_spells hbytes (length_le_three hlen)
    exact ⟨values, hspells, encode_of_spells hspells⟩

/-- Four symbols before another are three bytes, and what follows is read by itself. -/
theorem decodeGroups_eq_ok_iff : decodeGroups offset text = .ok bytes ↔ text = encode bytes := by
  fun_induction decodeGroups offset text generalizing bytes with
  | case1 offset a b c d e rest ih =>
    simp only [bind_eq_ok_iff, value_eq_ok_iff, ih]
    constructor
    · rintro ⟨u, ⟨hu, rfl⟩, v, ⟨hv, rfl⟩, w, ⟨hw, rfl⟩, x, ⟨hx, rfl⟩, more, hmore, h⟩
      cases h
      have hnumber := (eq_bytesOf_three_iff (by omega)).1 (bytesOf_three (((u * 64 + v) * 64 + w) * 64 + x)).symm
      rw [bytesOf_three]
      show _ = quad _ ++ encode more
      rw [hnumber, quad_of_values hv hw hx, hmore]
      rfl
    · intro h
      -- less than three bytes are written with at most four symbols, and here are five
      match bytes, h with
      | x :: y :: z :: more, h =>
        have hx := x.toNat_lt
        have hy := y.toNat_lt
        have hz := z.toNat_lt
        obtain ⟨rfl, rfl, rfl, rfl, hmore⟩ : a = _ ∧ b = _ ∧ c = _ ∧ d = _ ∧ e :: rest = encode more := by
          simpa only [encode, quad, List.cons_append, List.nil_append, List.cons.injEq] using h
        refine ⟨_, ⟨by omega, rfl⟩, _, ⟨by omega, rfl⟩, _, ⟨by omega, rfl⟩, _, ⟨by omega, rfl⟩, more, hmore, ?_⟩
        show Except.ok (bytesOf 3 _ ++ more) = _
        rw [number_of_quad, ← (eq_bytesOf_three_iff (by omega)).2 rfl]
        rfl
  | case2 offset group hshort =>
    refine decodeLast_eq_ok_iff (Nat.le_of_not_lt fun hlong => ?_)
    match group, hlong with
    | a :: b :: c :: d :: e :: rest, _ => exact hshort a b c d e rest rfl

/-- **What reads as base64 is what writing makes of the bytes.** -/
theorem decode_eq_ok_iff : decode text = .ok bytes ↔ text = encode bytes := by
  unfold decode
  cases hlast : text.getLast? with
  | none =>
    rw [List.getLast?_eq_none_iff.1 hlast]
    exact @decodeLast_eq_ok_iff bytes [] 0 (Nat.zero_le _)
  | some last =>
    dsimp only
    split
    next hstray =>
      refine ⟨nofun, ?_⟩
      rintro rfl
      have := Nat.mod_eq_zero_of_dvd (four_dvd_length_encode bytes)
      omega
    next => exact decodeGroups_eq_ok_iff

theorem exists_decode_error_iff : (∃ e, decode text = .error e) ↔ ∀ bytes, text ≠ encode bytes := by
  constructor
  · rintro ⟨e, h⟩ bytes htext
    rw [decode_eq_ok_iff.2 htext] at h
    cases h
  · intro h
    cases hdecode : decode text with
    | error e => exact ⟨e, rfl⟩
    | ok bytes => exact absurd (decode_eq_ok_iff.1 hdecode) (h bytes)

end KubectlMatch.Text.Base64
