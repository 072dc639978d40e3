/-!
# Texts of code points

* `CodePoint`: a code point. A surrogate is none of a character; some surrogates stand for bytes that are no text.
* `points` and `pointsOf`: the code points of a text.
* `chars?` and `string?`: the text of code points, if all of them are characters.
* `encodingMessage`: what is said about code points that have no bytes.

`chars?_points` says that a text comes back from its code points, and `chars?_eq_some_iff` that nothing else does.
-/

namespace BracketSpacing.Text

/-- A code point. -/
structure CodePoint where
  value : Nat
  value_lt : value < 0x110000
  deriving DecidableEq

namespace CodePoint

/-- The code point of a number, if there is one. -/
def ofNat? (n : Nat) : Option CodePoint :=
  if h : n < 0x110000 then some ⟨n, h⟩ else none

/-- The code point of a character. -/
def ofChar (c : Char) : CodePoint :=
  ⟨c.toNat, by
    have h : c.toNat < 0xD800 ∨ (0xDFFF < c.toNat ∧ c.toNat < 0x110000) := c.valid
    omega⟩

/-- Whether the code point is one half of a pair that stands for a character. -/
def isSurrogate (p : CodePoint) : Bool :=
  0xD800 ≤ p.value && p.value ≤ 0xDFFF

/-- Whether the code point is a surrogate that stands for a byte in the name of a file. -/
def isEscape (p : CodePoint) : Bool :=
  0xDC80 ≤ p.value && p.value ≤ 0xDCFF

/-- The character of a code point. Surrogates have none. -/
def char? (p : CodePoint) : Option Char :=
  if p.isSurrogate then none else some (Char.ofNat p.value)

theorem isSurrogate_ofChar (c : Char) : (ofChar c).isSurrogate = false := by
  have h : c.toNat < 0xD800 ∨ (0xDFFF < c.toNat ∧ c.toNat < 0x110000) := c.valid
  refine Bool.eq_false_iff.2 fun hs => ?_
  rw [isSurrogate, Bool.and_eq_true] at hs
  have h1 : 0xD800 ≤ c.toNat := of_decide_eq_true hs.1
  have h2 : c.toNat ≤ 0xDFFF := of_decide_eq_true hs.2
  omega

@[simp]
theorem char?_ofChar (c : Char) : (ofChar c).char? = some c := by
  rw [char?, isSurrogate_ofChar]
  exact congrArg some (Char.ofNat_toNat c)

theorem char?_eq_some_iff {p : CodePoint} {c : Char} : p.char? = some c ↔ p = ofChar c := by
  constructor
  · intro h
    simp only [char?] at h
    split at h
    · cases h
    · next hs =>
      have hvalid : p.value.isValidChar := by
        have := p.value_lt
        simp only [isSurrogate, Bool.and_eq_true, decide_eq_true_eq] at hs
        rw [Nat.isValidChar]
        omega
      have hvalue : (Char.ofNat p.value).toNat = p.value := by
        rw [Char.ofNat, dif_pos hvalid]
        rfl
      cases h
      cases p with
      | mk value value_lt => simp [ofChar, hvalue]
  · rintro rfl
    exact char?_ofChar c

end CodePoint

/-! ## Texts -/

/-- The code points of a text. -/
def points (s : List Char) : List CodePoint :=
  s.map .ofChar

/-- The code points of a string. -/
def pointsOf (s : String) : List CodePoint :=
  points s.toList

/-- The text of code points, if all of them are characters. -/
def chars? : List CodePoint → Option (List Char)
  | [] => some []
  | p :: s => p.char?.bind fun c => (chars? s).map (c :: ·)

/-- The string of code points, if all of them are characters. -/
def string? (s : List CodePoint) : Option String :=
  (chars? s).map String.ofList

/-- Code points have a text exactly if they are those of that text. -/
theorem chars?_eq_some_iff {s : List CodePoint} {t : List Char} : chars? s = some t ↔ s = points t := by
  induction s generalizing t with
  | nil => simp [chars?, points, eq_comm]
  | cons p s ih =>
    simp only [chars?, Option.bind_eq_some_iff, Option.map_eq_some_iff, CodePoint.char?_eq_some_iff, ih]
    constructor
    · rintro ⟨c, rfl, t, rfl, rfl⟩
      rfl
    · intro h
      obtain ⟨c, t', rfl, hc, ht⟩ := List.map_eq_cons_iff.mp h.symm
      exact ⟨c, hc.symm, t', ht.symm, rfl⟩

/-- A text comes back from its code points. -/
@[simp]
theorem chars?_points (s : List Char) : chars? (points s) = some s :=
  chars?_eq_some_iff.mpr rfl

theorem string?_eq_some_iff {s : List CodePoint} {t : String} : string? s = some t ↔ s = pointsOf t := by
  rw [string?, Option.map_eq_some_iff, pointsOf]
  constructor
  · rintro ⟨cs, hcs, rfl⟩
    rw [String.toList_ofList, ← chars?_eq_some_iff, hcs]
  · exact fun h => ⟨t.toList, chars?_eq_some_iff.mpr h, String.ofList_toList⟩

@[simp]
theorem string?_pointsOf (s : String) : string? (pointsOf s) = some s :=
  string?_eq_some_iff.mpr rfl

/-! ## Code points without bytes -/

/-- What is said about the first surrogates among code points that are to be encoded. One alone is shown, of several the
positions. -/
def encodingMessage (s : List CodePoint) : String :=
  let front := s.takeWhile fun p => !p.isSurrogate
  let found := (s.drop front.length).takeWhile CodePoint.isSurrogate
  let subject := match found with
    | [p] => "character '\\u" ++ String.ofList (Nat.toDigits 16 p.value) ++ "' in position " ++ toString front.length
    | _ => "characters in position " ++ toString front.length ++ "-" ++ toString (front.length + found.length - 1)
  "'utf-8' codec can't encode " ++ subject ++ ": surrogates not allowed"

end BracketSpacing.Text
