import Mathlib
import BracketSpacing.Text.Utf8

/-!
# Texts and their bytes

* `IsSequence`: the bytes of one character with its code point, by the number of bytes.
* The bytes of a character are its only sequence (`isSequence_encodeChar`, `IsSequence.encodeChar_eq`).
* Decoding takes one sequence after the other (`IsSequence.decodeFrom_append`), so bytes are those of a text exactly if
  they decode to it (`decode_eq_ok_iff`), and of one text only (`encode_inj`).
-/

namespace BracketSpacing.Text.Utf8

/-- The bytes of one character, and its code point. -/
inductive IsSequence : List UInt8 → Nat → Prop where
  | one {a : UInt8} {n : Nat} : sequenceLength? a = some 1 → n = a.toNat → IsSequence [a] n
  | two {a b : UInt8} {n : Nat} : sequenceLength? a = some 2 → isSecond a b = true →
      n = (a.toNat - 0xC0) * 0x40 + payload b → IsSequence [a, b] n
  | three {a b c : UInt8} {n : Nat} : sequenceLength? a = some 3 → isSecond a b = true → isContinuation c = true →
      n = (a.toNat - 0xE0) * 0x1000 + payload b * 0x40 + payload c → IsSequence [a, b, c] n
  | four {a b c d : UInt8} {n : Nat} : sequenceLength? a = some 4 → isSecond a b = true → isContinuation c = true →
      isContinuation d = true →
      n = (a.toNat - 0xF0) * 0x40000 + payload b * 0x1000 + payload c * 0x40 + payload d → IsSequence [a, b, c, d] n

variable {a b c d : UInt8} {n position : Nat} {bytes rest : List UInt8} {text : List Char}

/-! ## Bytes as numbers -/

theorem sequenceLength?_eq_some_iff : sequenceLength? a = some n ↔
    (n = 1 ∧ a.toNat < 0x80) ∨ (n = 2 ∧ 0xC2 ≤ a.toNat ∧ a.toNat ≤ 0xDF) ∨
    (n = 3 ∧ 0xE0 ≤ a.toNat ∧ a.toNat ≤ 0xEF) ∨ (n = 4 ∧ 0xF0 ≤ a.toNat ∧ a.toNat ≤ 0xF4) := by
  simp only [sequenceLength?, UInt8.lt_iff_toNat_lt, UInt8.le_iff_toNat_le, Bool.and_eq_true, decide_eq_true_eq,
    UInt8.reduceToNat]
  split_ifs <;> simp <;> omega

theorem isContinuation_iff : isContinuation b = true ↔ 0x80 ≤ b.toNat ∧ b.toNat ≤ 0xBF := by
  simp [isContinuation, UInt8.le_iff_toNat_le]

theorem isSecond_iff : isSecond a b = true ↔ (0x80 ≤ b.toNat ∧ b.toNat ≤ 0xBF) ∧
    (a.toNat = 0xE0 → 0xA0 ≤ b.toNat) ∧ (a.toNat = 0xED → b.toNat < 0xA0) ∧
    (a.toNat = 0xF0 → 0x90 ≤ b.toNat) ∧ (a.toNat = 0xF4 → b.toNat < 0x90) := by
  simp only [isSecond, Bool.and_eq_true, Bool.or_eq_true, isContinuation_iff, bne_iff_ne, decide_eq_true_eq, ne_eq,
    UInt8.lt_iff_toNat_lt, UInt8.le_iff_toNat_le, ← UInt8.toNat_inj, UInt8.reduceToNat]
  tauto

theorem toNat_ofNat_of_le (h : n ≤ 0xFF) : (UInt8.ofNat n).toNat = n := by
  rw [UInt8.toNat_ofNat']
  omega

/-! ## The bytes of one character -/

theorem isSequence_encodeChar (c : Char) : IsSequence (encodeChar c) c.toNat := by
  have hvalid : c.toNat < 0xD800 ∨ 0xDFFF < c.toNat ∧ c.toNat < 0x110000 := c.valid
  simp only [encodeChar]
  generalize c.toNat = n at hvalid ⊢
  split_ifs with h1 h2 h3
  · have ha := toNat_ofNat_of_le (n := n) (by omega)
    exact .one (sequenceLength?_eq_some_iff.mpr (by omega)) ha.symm
  · have ha := toNat_ofNat_of_le (n := 0xC0 + n / 0x40) (by omega)
    have hb := toNat_ofNat_of_le (n := 0x80 + n % 0x40) (by omega)
    refine .two (sequenceLength?_eq_some_iff.mpr (by omega)) (isSecond_iff.mpr (by omega)) ?_
    unfold payload
    omega
  · have ha := toNat_ofNat_of_le (n := 0xE0 + n / 0x1000) (by omega)
    have hb := toNat_ofNat_of_le (n := 0x80 + n / 0x40 % 0x40) (by omega)
    have hc := toNat_ofNat_of_le (n := 0x80 + n % 0x40) (by omega)
    refine .three (sequenceLength?_eq_some_iff.mpr (by omega)) (isSecond_iff.mpr (by omega))
      (isContinuation_iff.mpr (by omega)) ?_
    unfold payload
    omega
  · have ha := toNat_ofNat_of_le (n := 0xF0 + n / 0x40000) (by omega)
    have hb := toNat_ofNat_of_le (n := 0x80 + n / 0x1000 % 0x40) (by omega)
    have hc := toNat_ofNat_of_le (n := 0x80 + n / 0x40 % 0x40) (by omega)
    have hd := toNat_ofNat_of_le (n := 0x80 + n % 0x40) (by omega)
    refine .four (sequenceLength?_eq_some_iff.mpr (by omega)) (isSecond_iff.mpr (by omega))
      (isContinuation_iff.mpr (by omega)) (isContinuation_iff.mpr (by omega)) ?_
    unfold payload
    omega

namespace IsSequence

/-- A byte is told by its number. -/
theorem eq_ofNat (h : b.toNat = n) : UInt8.ofNat n = b := by
  rw [← h, UInt8.ofNat_toNat]

/-- No code point of a sequence is a surrogate or too large. -/
theorem isValidChar (h : IsSequence bytes n) : n.isValidChar := by
  show n < 0xD800 ∨ 0xDFFF < n ∧ n < 0x110000
  cases h with
  | one ha hn =>
    rw [sequenceLength?_eq_some_iff] at ha
    omega
  | two ha hb hn =>
    rw [sequenceLength?_eq_some_iff] at ha
    rw [isSecond_iff] at hb
    unfold payload at hn
    omega
  | three ha hb hc hn =>
    rw [sequenceLength?_eq_some_iff] at ha
    rw [isSecond_iff] at hb
    rw [isContinuation_iff] at hc
    unfold payload at hn
    omega
  | four ha hb hc hd hn =>
    rw [sequenceLength?_eq_some_iff] at ha
    rw [isSecond_iff] at hb
    rw [isContinuation_iff] at hc hd
    unfold payload at hn
    omega

/-- A character has one sequence only. -/
theorem encodeChar_eq (h : IsSequence bytes n) : encodeChar (Char.ofNat n) = bytes := by
  have hn : (Char.ofNat n).toNat = n := by rw [Char.toNat_ofNat, if_pos h.isValidChar]
  simp only [encodeChar, hn]
  cases h with
  | @one a _ ha hn =>
    rw [sequenceLength?_eq_some_iff] at ha
    rw [if_pos (by omega), eq_ofNat (b := a) (by omega)]
  | @two a b _ ha hb hn =>
    rw [sequenceLength?_eq_some_iff] at ha
    rw [isSecond_iff] at hb
    unfold payload at hn
    rw [if_neg (by omega), if_pos (by omega), eq_ofNat (b := a) (by omega), eq_ofNat (b := b) (by omega)]
  | @three a b c _ ha hb hc hn =>
    rw [sequenceLength?_eq_some_iff] at ha
    rw [isSecond_iff] at hb
    rw [isContinuation_iff] at hc
    unfold payload at hn
    rw [if_neg (by omega), if_neg (by omega), if_pos (by omega), eq_ofNat (b := a) (by omega),
      eq_ofNat (b := b) (by omega), eq_ofNat (b := c) (by omega)]
  | @four a b c d _ ha hb hc hd hn =>
    rw [sequenceLength?_eq_some_iff] at ha
    rw [isSecond_iff] at hb
    rw [isContinuation_iff] at hc hd
    unfold payload at hn
    rw [if_neg (by omega), if_neg (by omega), if_neg (by omega), eq_ofNat (b := a) (by omega),
      eq_ofNat (b := b) (by omega), eq_ofNat (b := c) (by omega), eq_ofNat (b := d) (by omega)]

/-- Decoding takes a sequence at the front for its character. -/
theorem decodeFrom_append (h : IsSequence bytes n) (position : Nat) (rest : List UInt8) :
    decodeFrom position (bytes ++ rest) =
      (decodeFrom (position + bytes.length) rest).map (Char.ofNat n :: ·) := by
  cases h with
  | one ha hn => simp only [List.cons_append, List.nil_append, decodeFrom, ha, ← hn, List.length_cons, List.length_nil]
  | two ha hb hn =>
    simp only [List.cons_append, List.nil_append, decodeFrom, ha, hb, ← hn, if_true, List.length_cons, List.length_nil]
  | three ha hb hc hn =>
    simp only [List.cons_append, List.nil_append, decodeFrom, ha, hb, hc, ← hn, Bool.and_self, if_true,
      List.length_cons, List.length_nil]
  | four ha hb hc hd hn =>
    simp only [List.cons_append, List.nil_append, decodeFrom, ha, hb, hc, hd, ← hn, Bool.and_self, if_true,
      List.length_cons, List.length_nil]

end IsSequence

/-! ## The bytes of a text -/

theorem decodeFrom_encode (position : Nat) (text : List Char) : decodeFrom position (encode text) = .ok text := by
  induction text generalizing position with
  | nil => rfl
  | cons c text ih =>
    rw [encode, List.flatMap_cons, (isSequence_encodeChar c).decodeFrom_append, ← encode, ih, Char.ofNat_toNat]
    rfl

/-- What a sequence and a decoded rest come to has the bytes of both. -/
theorem encode_of_map {decoded : Except DecodeError (List Char)} (hs : IsSequence bytes n)
    (ih : ∀ {text : List Char}, decoded = .ok text → encode text = rest)
    (h : decoded.map (Char.ofNat n :: ·) = .ok text) : encode text = bytes ++ rest := by
  cases decoded with
  | error e => cases h
  | ok others =>
    cases h
    rw [encode, List.flatMap_cons, hs.encodeChar_eq, ← encode, ih rfl]

theorem encode_of_decodeFrom (h : decodeFrom position bytes = .ok text) : encode text = bytes := by
  fun_induction decodeFrom position bytes generalizing text with
  | case1 => cases h; rfl
  | case2 position a rest ha ih => exact encode_of_map (.one ha rfl) ih h
  | case3 position a b rest ha hb ih => exact encode_of_map (.two ha hb rfl) ih h
  | case5 position a b c rest ha hbc ih =>
    rw [Bool.and_eq_true] at hbc
    exact encode_of_map (.three ha hbc.1 hbc.2 rfl) ih h
  | case7 position a b c d rest ha hbcd ih =>
    rw [Bool.and_eq_true, Bool.and_eq_true] at hbcd
    exact encode_of_map (.four ha hbcd.1.1 hbcd.1.2 hbcd.2 rfl) ih h
  | case4 | case6 | case8 | case9 => injection h

/-- Bytes are those of a text exactly if they decode to it. -/
theorem decode_eq_ok_iff : decode bytes = .ok text ↔ bytes = encode text := by
  constructor
  · intro h
    exact (encode_of_decodeFrom h).symm
  · rintro rfl
    exact decodeFrom_encode 0 text

/-- Texts are told from their bytes. -/
theorem encode_inj {s t : List Char} : encode s = encode t ↔ s = t := by
  refine ⟨fun h => ?_, congrArg encode⟩
  have hs : decode (encode s) = .ok s := decode_eq_ok_iff.mpr rfl
  rw [h, decode_eq_ok_iff.mpr rfl] at hs
  exact (Except.ok.inj hs).symm

end BracketSpacing.Text.Utf8
