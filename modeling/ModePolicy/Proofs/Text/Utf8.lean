import Mathlib
import ModePolicy.Proofs.Outcome
import ModePolicy.Text.Utf8

/-!
# The decoder of UTF-8 undoes the encoding

The decoder reads a sequence of bytes for each character and refuses everything else:

> `decode_eq_ok_iff`: bytes are decoded to characters exactly if they are the encoding of these.

So the bytes that can be decoded are those of the texts, and what is decoded is the text. In one
direction every encoded character passes the checks of its length (`decodeFrom_encoded`); in the other
the checks leave nothing but encoded characters (`decodeFrom_succeeds`). The position that is counted
along for the report of an error plays no part.
-/

namespace ModePolicy.Text.Utf8

/-! ## The checks of a byte, in numbers -/

theorem isTail_iff {b : UInt8} : isTail b = true ↔ 128 ≤ b.toNat ∧ b.toNat ≤ 191 := by
  simp [isTail, UInt8.le_iff_toNat_le]

/-- Some first bytes ask more of the second one, which keeps out long forms of characters that have
shorter ones, surrogates, and numbers of no character. -/
theorem isSecond_iff {a b : UInt8} :
    isSecond a b = true ↔ (128 ≤ b.toNat ∧ b.toNat ≤ 191) ∧ (a.toNat = 224 → 160 ≤ b.toNat) ∧
      (a.toNat = 237 → b.toNat < 160) ∧ (a.toNat = 240 → 144 ≤ b.toNat) ∧
      (a.toNat = 244 → b.toNat < 144) := by
  simp only [isSecond, Bool.and_eq_true, isTail_iff]
  simp [UInt8.lt_iff_toNat_lt, UInt8.le_iff_toNat_le, ← UInt8.toNat_inj, and_assoc, imp_iff_not_or]

theorem sequenceLength?_eq (a : UInt8) :
    sequenceLength? a =
      if a.toNat < 128 then some 1
      else if a.toNat < 194 then none
      else if a.toNat < 224 then some 2
      else if a.toNat < 240 then some 3
      else if a.toNat < 245 then some 4
      else none := by
  simp [sequenceLength?, UInt8.lt_iff_toNat_lt]

/-! ## The encoding of one character -/

section Sequences

variable {a b c d : UInt8} {x : Char}

/-- A number of a character, which surrogates have not. -/
def IsCode (n : Nat) : Prop := n < 55296 ∨ 57343 < n ∧ n < 1114112

theorem isCode_toNat (x : Char) : IsCode x.toNat := x.valid

theorem eq_ofNat_iff {n : Nat} (h : IsCode n) : x = Char.ofNat n ↔ x.toNat = n := by
  have hn : (Char.ofNat n).toNat = n := (Char.toNat_ofNat n).trans (if_pos h)
  constructor
  · rintro rfl
    exact hn
  · intro hx
    exact Char.toNat_inj.mp (hx.trans hn.symm)

theorem ofNat_toNat (x : Char) : Char.ofNat x.toNat = x := ((eq_ofNat_iff (isCode_toNat x)).mpr rfl).symm

/-- The encoding, by the number of the character. -/
theorem encode_eq (x : Char) : String.utf8EncodeChar x =
    if x.toNat ≤ 127 then [.ofNat x.toNat]
    else if x.toNat ≤ 2047 then [.ofNat (x.toNat / 64 % 32 + 192), .ofNat (x.toNat % 64 + 128)]
    else if x.toNat ≤ 65535 then
      [.ofNat (x.toNat / 4096 % 16 + 224), .ofNat (x.toNat / 64 % 64 + 128),
        .ofNat (x.toNat % 64 + 128)]
    else
      [.ofNat (x.toNat / 262144 % 8 + 240), .ofNat (x.toNat / 4096 % 64 + 128),
        .ofNat (x.toNat / 64 % 64 + 128), .ofNat (x.toNat % 64 + 128)] := rfl

theorem eq_ofNat_byte_iff {n : Nat} (h : n < 256) : UInt8.ofNat n = a ↔ n = a.toNat := by
  rw [← UInt8.toNat_inj, UInt8.toNat_ofNat_of_lt' h]

theorem encode_one_iff :
    String.utf8EncodeChar x = [a] ↔ a.toNat < 128 ∧ x = Char.ofNat a.toNat := by
  have hbyte := a.toNat_lt
  constructor
  · intro h
    rw [encode_eq] at h
    split_ifs at h with h1 h2 h3
    · obtain ha := (eq_ofNat_byte_iff (by omega)).mp (List.singleton_inj.mp h)
      exact ⟨by omega, by rw [← ha, ofNat_toNat]⟩
    all_goals exact absurd h (by simp)
  · intro h
    obtain ⟨ha, hx⟩ := h
    have hn := (eq_ofNat_iff (Or.inl (by omega))).mp hx
    rw [encode_eq, if_pos (by omega), List.singleton_inj, eq_ofNat_byte_iff (by omega)]
    exact hn

theorem encode_two_iff :
    String.utf8EncodeChar x = [a, b] ↔ (194 ≤ a.toNat ∧ a.toNat < 224) ∧ isSecond a b = true ∧
      x = Char.ofNat (a.toNat % 32 * 64 + tailBits b) := by
  rw [isSecond_iff, tailBits]
  constructor
  · intro h
    rw [encode_eq] at h
    split_ifs at h with h1 h2 h3
    · exact absurd h (by simp)
    · simp only [List.cons.injEq, and_true] at h
      rw [eq_ofNat_byte_iff (by omega), eq_ofNat_byte_iff (by omega)] at h
      have hvalid := isCode_toNat x
      refine ⟨by omega, by omega, (eq_ofNat_iff (Or.inl (by omega))).mpr (by omega)⟩
    · exact absurd h (by simp)
    · exact absurd h (by simp)
  · intro h
    obtain ⟨ha, ⟨hb, -⟩, hx⟩ := h
    have hn := (eq_ofNat_iff (Or.inl (by omega))).mp hx
    rw [encode_eq, if_neg (by omega), if_pos (by omega)]
    simp only [List.cons.injEq, and_true]
    rw [eq_ofNat_byte_iff (by omega), eq_ofNat_byte_iff (by omega)]
    omega

theorem encode_three_iff :
    String.utf8EncodeChar x = [a, b, c] ↔ (224 ≤ a.toNat ∧ a.toNat < 240) ∧ isSecond a b = true ∧
      isTail c = true ∧ x = Char.ofNat ((a.toNat % 16 * 64 + tailBits b) * 64 + tailBits c) := by
  rw [isSecond_iff, isTail_iff, tailBits, tailBits]
  constructor
  · intro h
    rw [encode_eq] at h
    split_ifs at h with h1 h2 h3
    · exact absurd h (by simp)
    · exact absurd h (by simp)
    · simp only [List.cons.injEq, and_true] at h
      rw [eq_ofNat_byte_iff (by omega), eq_ofNat_byte_iff (by omega), eq_ofNat_byte_iff (by omega)] at h
      have hvalid := isCode_toNat x
      unfold IsCode at hvalid
      have hcode : x.toNat = (a.toNat % 16 * 64 + b.toNat % 64) * 64 + c.toNat % 64 := by omega
      exact ⟨by omega, by omega, by omega, (eq_ofNat_iff (hcode ▸ isCode_toNat x)).mpr hcode⟩
    · exact absurd h (by simp)
  · intro h
    obtain ⟨ha, hb, hc, hx⟩ := h
    have hn := (eq_ofNat_iff (by unfold IsCode; omega)).mp hx
    rw [encode_eq, if_neg (by omega), if_neg (by omega), if_pos (by omega)]
    simp only [List.cons.injEq, and_true]
    rw [eq_ofNat_byte_iff (by omega), eq_ofNat_byte_iff (by omega), eq_ofNat_byte_iff (by omega)]
    omega

theorem encode_four_iff :
    String.utf8EncodeChar x = [a, b, c, d] ↔ (240 ≤ a.toNat ∧ a.toNat < 245) ∧ isSecond a b = true ∧
      isTail c = true ∧ isTail d = true ∧
        x = Char.ofNat (((a.toNat % 8 * 64 + tailBits b) * 64 + tailBits c) * 64 + tailBits d) := by
  rw [isSecond_iff, isTail_iff, isTail_iff, tailBits, tailBits, tailBits]
  constructor
  · intro h
    rw [encode_eq] at h
    split_ifs at h with h1 h2 h3
    · exact absurd h (by simp)
    · exact absurd h (by simp)
    · exact absurd h (by simp)
    · simp only [List.cons.injEq, and_true] at h
      rw [eq_ofNat_byte_iff (by omega), eq_ofNat_byte_iff (by omega), eq_ofNat_byte_iff (by omega),
        eq_ofNat_byte_iff (by omega)] at h
      have hvalid := isCode_toNat x
      unfold IsCode at hvalid
      have hcode : x.toNat =
          ((a.toNat % 8 * 64 + b.toNat % 64) * 64 + c.toNat % 64) * 64 + d.toNat % 64 := by omega
      exact ⟨by omega, by omega, by omega, by omega, (eq_ofNat_iff (hcode ▸ isCode_toNat x)).mpr hcode⟩
  · intro h
    obtain ⟨ha, hb, hc, hd, hx⟩ := h
    have hn := (eq_ofNat_iff (by unfold IsCode; omega)).mp hx
    rw [encode_eq, if_neg (by omega), if_neg (by omega), if_neg (by omega)]
    simp only [List.cons.injEq, and_true]
    rw [eq_ofNat_byte_iff (by omega), eq_ofNat_byte_iff (by omega), eq_ofNat_byte_iff (by omega),
      eq_ofNat_byte_iff (by omega)]
    omega

end Sequences

/-! ## Bytes -/

/-- A character has one to four bytes. -/
theorem encode_cases (x : Char) :
    (∃ a, String.utf8EncodeChar x = [a]) ∨ (∃ a b, String.utf8EncodeChar x = [a, b]) ∨
      (∃ a b c, String.utf8EncodeChar x = [a, b, c]) ∨
        ∃ a b c d, String.utf8EncodeChar x = [a, b, c, d] := by
  rw [encode_eq]
  split_ifs
  · exact Or.inl ⟨_, rfl⟩
  · exact Or.inr (Or.inl ⟨_, _, rfl⟩)
  · exact Or.inr (Or.inr (Or.inl ⟨_, _, _, rfl⟩))
  · exact Or.inr (Or.inr (Or.inr ⟨_, _, _, _, rfl⟩))

/-- An encoded character is read first. -/
theorem decodeFrom_encoded (at_ : Nat) (x : Char) (rest : List UInt8) :
    ∃ next, decodeFrom at_ (String.utf8EncodeChar x ++ rest) =
      (decodeFrom next rest).bind fun cs => .ok (x :: cs) := by
  rcases encode_cases x with ⟨a, h⟩ | ⟨a, b, h⟩ | ⟨a, b, c, h⟩ | ⟨a, b, c, d, h⟩
  · obtain ⟨ha, rfl⟩ := encode_one_iff.mp h
    have hlength : sequenceLength? a = some 1 := by rw [sequenceLength?_eq, if_pos ha]
    rw [h, List.singleton_append, decodeFrom, hlength]
    exact ⟨_, rfl⟩
  · obtain ⟨ha, hb, rfl⟩ := encode_two_iff.mp h
    have hlength : sequenceLength? a = some 2 := by
      rw [sequenceLength?_eq, if_neg (by omega), if_neg (by omega), if_pos (by omega)]
    rw [h, List.cons_append, List.singleton_append, decodeFrom, hlength]
    simp only [hb]
    exact ⟨_, rfl⟩
  · obtain ⟨ha, hb, hc, rfl⟩ := encode_three_iff.mp h
    have hlength : sequenceLength? a = some 3 := by
      rw [sequenceLength?_eq, if_neg (by omega), if_neg (by omega), if_neg (by omega),
        if_pos (by omega)]
    rw [h, List.cons_append, List.cons_append, List.singleton_append, decodeFrom, hlength]
    simp only [hb, hc]
    exact ⟨_, rfl⟩
  · obtain ⟨ha, hb, hc, hd, rfl⟩ := encode_four_iff.mp h
    have hlength : sequenceLength? a = some 4 := by
      rw [sequenceLength?_eq, if_neg (by omega), if_neg (by omega), if_neg (by omega),
        if_neg (by omega), if_pos (by omega)]
    rw [h, List.cons_append, List.cons_append, List.cons_append, List.singleton_append, decodeFrom,
      hlength]
    simp only [hb, hc, hd]
    exact ⟨_, rfl⟩

/-- Bytes of which the decoder reads something begin with an encoded character. -/
theorem decodeFrom_succeeds {at_ : Nat} {a : UInt8} {rest : List UInt8} {cs : List Char}
    (h : decodeFrom at_ (a :: rest) = .ok cs) :
    ∃ x tail next others, a :: rest = String.utf8EncodeChar x ++ tail ∧
      decodeFrom next tail = .ok others ∧ cs = x :: others := by
  have hread : ∀ {x : Char} {next : Nat} {tail : List UInt8},
      (decodeFrom next tail).bind (fun cs => .ok (x :: cs)) = .ok cs →
      a :: rest = String.utf8EncodeChar x ++ tail → ∃ x tail next others,
        a :: rest = String.utf8EncodeChar x ++ tail ∧ decodeFrom next tail = .ok others ∧
          cs = x :: others := by
    intro x next tail hchain hbytes
    obtain ⟨others, hothers, hcs⟩ := bind_succeeds.mp hchain
    exact ⟨x, tail, next, others, hbytes, hothers, (Except.ok.inj hcs).symm⟩
  have hcheck : ∀ {test : Bool} {why : DecodeError} {later : Except DecodeError (List Char)},
      (if !test then .error why else later) = .ok cs → test = true ∧ later = .ok cs := by
    intro test why later hchecked
    cases test with
    | true => exact ⟨rfl, hchecked⟩
    | false => exact absurd hchecked (by simp)
  rw [decodeFrom, sequenceLength?_eq] at h
  by_cases h1 : a.toNat < 128
  · rw [if_pos h1] at h
    exact hread h (by rw [encode_one_iff.mpr ⟨h1, rfl⟩]; rfl)
  rw [if_neg h1] at h
  by_cases h2 : a.toNat < 194
  · rw [if_pos h2] at h
    exact absurd h (by simp)
  rw [if_neg h2] at h
  by_cases h5 : 245 ≤ a.toNat
  · rw [if_neg (by omega), if_neg (by omega), if_neg (by omega)] at h
    exact absurd h (by simp)
  -- more than one byte: every further byte must be there and pass its check
  obtain _ | ⟨b, rest⟩ := rest
  · split_ifs at h
  by_cases h3 : a.toNat < 224
  · rw [if_pos h3] at h
    obtain ⟨hb, h⟩ := hcheck h
    exact hread h (by rw [encode_two_iff.mpr ⟨by omega, hb, rfl⟩]; rfl)
  rw [if_neg h3] at h
  obtain _ | ⟨c, rest⟩ := rest
  · split_ifs at h <;> exact absurd (hcheck h).2 (by simp)
  by_cases h4 : a.toNat < 240
  · rw [if_pos h4] at h
    obtain ⟨hb, h⟩ := hcheck h
    obtain ⟨hc, h⟩ := hcheck h
    exact hread h (by rw [encode_three_iff.mpr ⟨by omega, hb, hc, rfl⟩]; rfl)
  rw [if_neg h4, if_pos (by omega)] at h
  obtain ⟨hb, h⟩ := hcheck h
  obtain ⟨hc, h⟩ := hcheck h
  obtain _ | ⟨d, rest⟩ := rest
  · exact absurd h (by simp)
  obtain ⟨hd, h⟩ := hcheck h
  exact hread h (by rw [encode_four_iff.mpr ⟨by omega, hb, hc, hd, rfl⟩]; rfl)

theorem decodeFrom_eq_ok_iff {bytes : List UInt8} : ∀ {at_ : Nat} {cs : List Char},
    decodeFrom at_ bytes = .ok cs ↔ bytes = cs.flatMap String.utf8EncodeChar := by
  -- a character takes at least one byte, so what is left is shorter
  induction h : bytes.length using Nat.strong_induction_on generalizing bytes with
  | _ size ih =>
    intro at_ cs
    have hshorter : ∀ {x : Char} {tail : List UInt8}, bytes = String.utf8EncodeChar x ++ tail →
        tail.length < size := by
      intro x tail hbytes
      have hpos := x.utf8Size_pos
      rw [← h, hbytes, List.length_append, String.length_utf8EncodeChar]
      omega
    constructor
    · intro hdecode
      cases bytes with
      | nil =>
        obtain rfl : [] = cs := Except.ok.inj hdecode
        rfl
      | cons a rest =>
        obtain ⟨x, tail, next, others, hbytes, hothers, rfl⟩ := decodeFrom_succeeds hdecode
        rw [hbytes, (ih _ (hshorter hbytes) rfl).mp hothers, List.flatMap_cons]
    · intro hbytes
      cases cs with
      | nil =>
        obtain rfl : bytes = [] := hbytes
        rfl
      | cons x others =>
        rw [List.flatMap_cons] at hbytes
        obtain ⟨next, hnext⟩ := decodeFrom_encoded at_ x (others.flatMap String.utf8EncodeChar)
        rw [hbytes, hnext, (ih _ (hshorter hbytes) rfl).mpr rfl]
        rfl

/-- **Bytes are decoded to characters exactly if they are the encoding of these.** -/
theorem decode_eq_ok_iff {bytes : List UInt8} {cs : List Char} :
    decode bytes = .ok cs ↔ bytes = cs.flatMap String.utf8EncodeChar := decodeFrom_eq_ok_iff

end ModePolicy.Text.Utf8
