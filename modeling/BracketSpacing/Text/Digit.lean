/-!
# Decimal digits

* `decimalDigit?`: the value of a decimal digit in any script. The digits of a script follow each other from its zero
  on.
* `ofDecimalDigits`: the number that such digits write.
-/

namespace BracketSpacing.Text

/-- The zeros of all scripts. -/
def digitZeros : List Nat :=
  [0x30, 0x660, 0x6F0, 0x7C0, 0x966, 0x9E6, 0xA66, 0xAE6, 0xB66, 0xBE6, 0xC66, 0xCE6, 0xD66, 0xDE6, 0xE50, 0xED0, 0xF20,
   0x1040, 0x1090, 0x17E0, 0x1810, 0x1946, 0x19D0, 0x1A80, 0x1A90, 0x1B50, 0x1BB0, 0x1C40, 0x1C50, 0xA620, 0xA8D0,
   0xA900, 0xA9D0, 0xA9F0, 0xAA50, 0xABF0, 0xFF10, 0x104A0, 0x10D30, 0x11066, 0x110F0, 0x11136, 0x111D0, 0x112F0,
   0x11450, 0x114D0, 0x11650, 0x116C0, 0x11730, 0x118E0, 0x11950, 0x11C50, 0x11D50, 0x11DA0, 0x16A60, 0x16AC0, 0x16B50,
   0x1D7CE, 0x1D7D8, 0x1D7E2, 0x1D7EC, 0x1D7F6, 0x1E140, 0x1E2F0, 0x1E950, 0x1FBF0]

/-- The value of a decimal digit. -/
def decimalDigit? (c : Char) : Option Nat :=
  (digitZeros.find? fun start => start ≤ c.toNat && c.toNat < start + 10).map (c.toNat - ·)

/-- Whether a character is a decimal digit. -/
def isDecimalDigit (c : Char) : Bool :=
  (decimalDigit? c).isSome

/-- The number that decimal digits write. -/
def ofDecimalDigits (digits : List Char) : Nat :=
  digits.foldl (fun n c => 10 * n + (decimalDigit? c).getD 0) 0

/-! ## Digits of ASCII -/

section

variable {c : Char}

/-- The value of a digit of ASCII is its distance from zero. -/
theorem decimalDigit?_of_isDigit (h : c.isDigit = true) : decimalDigit? c = some (c.toNat - 0x30) := by
  have hc : 0x30 ≤ c.toNat ∧ c.toNat < 0x30 + 10 := by
    simp only [Char.isDigit, Bool.and_eq_true, decide_eq_true_eq, UInt32.le_iff_toNat_le] at h
    change 0x30 ≤ c.toNat ∧ c.toNat ≤ 0x39 at h
    omega
  simp [decimalDigit?, digitZeros, hc.1, hc.2]

theorem isDecimalDigit_of_isDigit (h : c.isDigit = true) : isDecimalDigit c = true := by
  rw [isDecimalDigit, decimalDigit?_of_isDigit h]
  rfl

/-- The number of digits of ASCII is the one that core reads. -/
theorem ofDecimalDigits_eq_ofDigitChars {digits : List Char} (h : ∀ c ∈ digits, c.isDigit = true) :
    ofDecimalDigits digits = Nat.ofDigitChars 10 digits 0 := by
  have hstep : ∀ n, digits.foldl (fun n c => 10 * n + (decimalDigit? c).getD 0) n = Nat.ofDigitChars 10 digits n := by
    induction digits with
    | nil => exact fun _ => rfl
    | cons c digits ih =>
      intro n
      rw [List.foldl_cons, ih fun d hd => h d (List.mem_cons_of_mem _ hd),
        decimalDigit?_of_isDigit (h c List.mem_cons_self)]
      rfl
  exact hstep 0

end

end BracketSpacing.Text
