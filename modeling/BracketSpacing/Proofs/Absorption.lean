import Mathlib
import BracketSpacing.Proofs.Passes

/-!
# Sweeps with the guard and without it

* `text_normalizeWith_eq`: under both strategies the normalized text is one sweep over the pieces of the text, and a
  text that differs in slack inside its brackets is cut into the pieces that differ so (`ofSegments_segments_joined`).
* Two sweeps are one, with the guard only if both have it (`Alphabet.padAll_padAll_and`), so a run without the guard
  absorbs one with the guard, in either order (`normalizeWith_absorbs_guard`).
-/

namespace BracketSpacing

open Text Placeholder

namespace Piece

/-! ## Pieces without literals -/

/-- Where there is no literal, the pieces are the characters. -/
theorem eq_codes_of_literals_eq_nil : ∀ {p : List Piece}, literals p = [] → p = codes (joined p)
  | [], _ => rfl
  | code c :: p, h => by
    have hp : p = codes (joined p) := eq_codes_of_literals_eq_nil h
    rw [joined_code, codes_cons, ← hp]
  | literal _ :: _, h => by cases h

end Piece

open Piece

variable {limit limit₁ limit₂ : Nat} {strategy : Strategy} {text : List Char} {q : List Piece}

/-! ## One sweep, whatever the strategy -/

theorem Respaced.literals_eq {p : List Piece} (h : Respaced p q) : Piece.literals q = Piece.literals p := by
  induction h with
  | nil => rfl
  | cons x _ ih =>
    cases x with
    | code c => exact ih
    | literal s => exact congrArg (s :: ·) ih
  | opening _ _ _ ih => rw [Piece.literals, Piece.literals, literals_append, literals_append, literals_codes,
      literals_codes, ih]
  | closing _ _ _ ih =>
    rw [literals_append, literals_append, literals_codes, literals_codes, Piece.literals, Piece.literals, ih]

theorem ofSegments_segments_raw (text : List Char) : ofSegments (Strategy.raw.segments text) = codes text := by
  have hj : Segment.joined (Strategy.raw.segments text) = text := Strategy.joined_segments .raw text
  rw [ofSegments_of_all_isCode (all_isCode_segments_raw text), hj]

/-- Under both strategies the normalized text is one sweep over the pieces of the text. -/
theorem text_normalizeWith_eq (h : 1 ≤ limit) (strategy : Strategy) (guard : Bool) (text : List Char) :
    (normalizeWith strategy guard limit text).text =
      joined ((alphabet (!text.any isDelimiter)).padAll guard (ofSegments (strategy.segments text))) := by
  cases strategy with
  | php => exact text_normalizeWith_php h guard text
  | raw => rw [text_normalizeWith_raw h, ofSegments_segments_raw, padAll_codes, joined_codes]

/-- A text that differs from another in slack inside brackets is cut into the pieces that differ so. -/
theorem ofSegments_segments_joined (h : Respaced (ofSegments (strategy.segments text)) q) :
    ofSegments (strategy.segments (joined q)) = q := by
  cases strategy with
  | php => rw [h.segments_eq, ofSegments_merged]
  | raw =>
    have hliterals : Piece.literals q = [] := by
      rw [h.literals_eq, ofSegments_segments_raw, literals_codes]
    rw [ofSegments_segments_raw, ← eq_codes_of_literals_eq_nil hliterals]

/-- Marks are not made by slack: a text that differs in slack inside brackets holds mark characters if the text does. -/
theorem any_isDelimiter_of_respaced (h : Respaced (ofSegments (strategy.segments text)) q) :
    (joined q).any isDelimiter = text.any isDelimiter := by
  rw [any_isDelimiter_joined h, joined_ofSegments, Strategy.joined_segments]

/-- Normalizing twice is normalizing once, with the guard only if both runs have it. -/
theorem text_normalizeWith_normalizeWith (h₁ : 1 ≤ limit₁) (h₂ : 1 ≤ limit₂) (h : 1 ≤ limit) (strategy : Strategy)
    (first second : Bool) (text : List Char) :
    (normalizeWith strategy second limit₂ (normalizeWith strategy first limit₁ text).text).text =
      (normalizeWith strategy (first && second) limit text).text := by
  have hspaced := respaced_padAll first (!text.any isDelimiter) (ofSegments (strategy.segments text))
  rw [text_normalizeWith_eq h₁, text_normalizeWith_eq h₂, any_isDelimiter_of_respaced hspaced,
    ofSegments_segments_joined hspaced, Alphabet.padAll_padAll_and, text_normalizeWith_eq h]

/-- **The guard is absorbed.** Normalizing without the guard gives the same text whether or not the text has been
normalized with the guard before, and normalizing that text with the guard changes nothing. -/
theorem normalizeWith_absorbs_guard (h₁ : 1 ≤ limit₁) (h₂ : 1 ≤ limit₂) (h : 1 ≤ limit) (strategy : Strategy)
    (text : List Char) :
    (normalizeWith strategy false limit₂ (normalizeWith strategy true limit₁ text).text).text =
        (normalizeWith strategy false limit text).text ∧
      (normalizeWith strategy true limit₂ (normalizeWith strategy false limit₁ text).text).text =
        (normalizeWith strategy false limit text).text :=
  ⟨text_normalizeWith_normalizeWith h₁ h₂ h strategy true false text,
    text_normalizeWith_normalizeWith h₁ h₂ h strategy false true text⟩

theorem normalizeWith_absorbs_guard_marks : 1 ≤ 1 ∧ 1 ≤ 2 ∧
    (normalizeWith .php true 1 "[a],['b'],[$c]\uE000".toList).text = "[a],['b'],[ $c ]\uE000".toList ∧
    (normalizeWith .php false 2 "[a],['b'],[ $c ]\uE000".toList).text = "[ a ],['b'],[ $c ]\uE000".toList ∧
    (normalizeWith .php true 2 "[ a ],['b'],[ $c ]\uE000".toList).text = "[ a ],['b'],[ $c ]\uE000".toList := by
  have hon : (normalizeWith .php true 1 "[a],['b'],[$c]\uE000".toList).text = "[a],['b'],[ $c ]\uE000".toList := by cbv
  have hoff : (normalizeWith .php false 1 "[a],['b'],[$c]\uE000".toList).text = "[ a ],['b'],[ $c ]\uE000".toList := by
    cbv
  obtain ⟨hfirst, hsecond⟩ := normalizeWith_absorbs_guard (Nat.le_refl 1) (Nat.le_succ 1) (Nat.le_refl 1) .php
    "[a],['b'],[$c]\uE000".toList
  rw [hon, hoff] at hfirst
  rw [hoff] at hsecond
  exact ⟨Nat.le_refl 1, Nat.le_succ 1, hon, hfirst, hsecond⟩

end BracketSpacing
