import BracketSpacing.Text.Blank

/-!
# Trimming both ends of a text

* `strip p`: drop the characters of `p` from both ends.
* `trimRound`: drop the invisible characters from both ends, and then the blanks.
* `trim`: drop the blanks from both ends, and then make rounds until neither end is invisible.

A strip of a class that stands at one of the ends shortens the text (`length_strip_lt`), so a round does
(`length_trimRound_lt`); it is why the rounds end.
-/

namespace BracketSpacing.Text

/-! ## One strip -/

/-- The text without the longest run of `p` at its end. -/
def stripRight {α : Type} (p : α → Bool) (s : List α) : List α :=
  (s.reverse.dropWhile p).reverse

/-- The text without the longest runs of `p` at its two ends. -/
def strip {α : Type} (p : α → Bool) (s : List α) : List α :=
  stripRight p (s.dropWhile p)

section

variable {p : Char → Bool} {s : List Char}

theorem length_stripRight_le (p : Char → Bool) (s : List Char) : (stripRight p s).length ≤ s.length := by
  have h : (s.reverse.dropWhile p).length ≤ s.reverse.length := (List.dropWhile_suffix p).length_le
  simpa [stripRight] using h

theorem length_strip_le (p : Char → Bool) (s : List Char) : (strip p s).length ≤ s.length :=
  Nat.le_trans (length_stripRight_le p _) (List.dropWhile_suffix p).length_le

/-- Dropping a class shortens a text that starts with one of its characters. -/
theorem length_dropWhile_lt (h : s.head?.any p = true) : (s.dropWhile p).length < s.length := by
  cases s with
  | nil => simp at h
  | cons c s =>
    simp only [List.head?_cons, Option.any_some] at h
    simpa [h] using Nat.lt_succ_of_le (List.dropWhile_suffix p).length_le

theorem dropWhile_eq_self_of_head? {α : Type} {p : α → Bool} :
    ∀ {l : List α}, (∀ c ∈ l.head?, p c = false) → l.dropWhile p = l
  | [], _ => rfl
  | x :: l, h => by
    have hx : p x = false := h x rfl
    rw [List.dropWhile_cons_of_neg (by simp [hx])]

/-- Stripping a class shortens a text with one of its characters at an end. -/
theorem length_strip_lt (h : (s.head?.any p || s.getLast?.any p) = true) : (strip p s).length < s.length := by
  cases hhead : s.head?.any p with
  | true => exact Nat.lt_of_le_of_lt (length_stripRight_le p _) (length_dropWhile_lt hhead)
  | false =>
    have hfirst : s.dropWhile p = s := dropWhile_eq_self_of_head? fun c hc => by rwa [hc] at hhead
    have hlast : s.reverse.head?.any p = true := by simpa [hhead] using h
    simpa [strip, stripRight, hfirst] using length_dropWhile_lt hlast

end

/-! ## The trimming loop -/

/-- Whether the first or the last character is invisible. -/
def endsInvisible (s : List Char) : Bool :=
  s.head?.any isInvisible || s.getLast?.any isInvisible

/-- One round of trimming: first the invisible characters go from both ends, and then the blanks. -/
def trimRound (s : List Char) : List Char :=
  strip isBlank (strip isInvisible s)

/-- A round shortens a text with an invisible character at an end. -/
theorem length_trimRound_lt {s : List Char} (h : endsInvisible s = true) : (trimRound s).length < s.length :=
  Nat.lt_of_le_of_lt (length_strip_le isBlank _) (length_strip_lt h)

/-- Rounds for as long as an invisible character stands at one of the ends. -/
def trimRounds (s : List Char) : List Char :=
  if endsInvisible s then trimRounds (trimRound s) else s
termination_by s.length
decreasing_by
  rename_i h
  exact length_trimRound_lt h

/-- The text without blanks and invisible characters at its ends. -/
def trim (s : List Char) : List Char :=
  trimRounds (strip isBlank s)

end BracketSpacing.Text
