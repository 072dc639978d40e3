import Mathlib.Data.List.DropRight
import BracketSpacing.Proofs.Trimming
import BracketSpacing.Segment.Literal

/-!
# The grammar of literals

* `Closer`: a rule for what may close a literal. `RunsThrough`: a body goes through the first closing text, or to the
  end if there is none. `closesQuoted`, `closesBlock` and `closesHeredoc` are the three rules.
* `IsCommentBody`: the body of a line comment. `IsOpener`: what opens a heredoc after `<<<`.
* `IsLiteral kind text rest`: the four kinds of literals, each with what may follow it.
* The reader at the front of a text accepts exactly these literals (`literal?_eq_some_iff`).
-/

namespace BracketSpacing

open Text

theorem Reading.eq_mk {r : Reading} {a b : List Char} (ha : r.literal = a) (hb : r.rest = b) : r = ⟨a, b⟩ := by
  cases ha
  cases hb
  rfl

/-! ## Bodies that run through the first closing text -/

/-- What may close a literal: the text since the opener, the closing text, and the text after it. -/
abbrev Closer := (before closing after : List Char) → Prop

/-- The body goes through the first closing text, or to the end of the text if nothing closes it. -/
def RunsThrough (closes : Closer) (body rest : List Char) : Prop :=
  (∃ before closing, body = before ++ closing ∧ closes before closing rest ∧
    ∀ b c a, before ++ closing ++ rest = b ++ c ++ a → closes b c a → before.length ≤ b.length) ∨
  (rest = [] ∧ ∀ b c a, body = b ++ c ++ a → ¬closes b c a)

namespace RunsThrough

variable {closes closes' : Closer} {body body' rest rest' : List Char}

/-- The body is closed at once. -/
theorem here {closing : List Char} (h : closes [] closing rest) : RunsThrough closes closing rest :=
  Or.inl ⟨[], closing, rfl, h, fun _ _ _ _ _ => Nat.zero_le _⟩

/-- The text ends before anything closes the body. -/
theorem nil (h : ¬closes [] [] []) : RunsThrough closes [] [] := by
  refine Or.inr ⟨rfl, fun b c a he hc => ?_⟩
  obtain ⟨hbc, rfl⟩ := List.append_eq_nil_iff.mp he.symm
  obtain ⟨rfl, rfl⟩ := List.append_eq_nil_iff.mp hbc
  exact h hc

/-- One more character in front, at which nothing closes the body. -/
theorem push {x : Char} (h : RunsThrough closes' body rest) (hs : ∀ b c a, closes (x :: b) c a ↔ closes' b c a)
    (hx : ∀ c a, x :: (body ++ rest) = c ++ a → ¬closes [] c a) : RunsThrough closes (x :: body) rest := by
  rcases h with ⟨before, closing, rfl, hc, hfirst⟩ | ⟨rfl, hno⟩
  · refine Or.inl ⟨x :: before, closing, rfl, (hs _ _ _).mpr hc, fun b c a he hb => ?_⟩
    cases b with
    | nil => exact absurd hb (hx c a (by simpa using he))
    | cons y b =>
      simp only [List.cons_append, List.cons.injEq] at he
      obtain ⟨rfl, he⟩ := he
      exact Nat.succ_le_succ (hfirst b c a he ((hs b c a).mp hb))
  · refine Or.inr ⟨rfl, fun b c a he hb => ?_⟩
    cases b with
    | nil => exact absurd hb (hx c a (by simpa using he))
    | cons y b =>
      simp only [List.cons_append, List.cons.injEq] at he
      obtain ⟨rfl, he⟩ := he
      exact hno b c a he ((hs b c a).mp hb)

/-- A text has one body at most, if what stands before the closing text decides where that ends. -/
theorem unique (hdet : ∀ b c c' a a', closes b c a → closes b c' a' → c ++ a = c' ++ a' → c = c')
    (h : RunsThrough closes body rest) (h' : RunsThrough closes body' rest') (he : body ++ rest = body' ++ rest') :
    body = body' ∧ rest = rest' := by
  rcases h with ⟨b, c, rfl, hc, hfirst⟩ | ⟨rfl, hno⟩ <;> rcases h' with ⟨b', c', rfl, hc', hfirst'⟩ | ⟨rfl, hno'⟩
  · have hle := hfirst b' c' rest' he hc'
    have hge := hfirst' b c rest he.symm hc
    simp only [List.append_assoc] at he
    obtain ⟨rfl, hcc⟩ := List.append_inj he (Nat.le_antisymm hle hge)
    obtain rfl := hdet b c c' rest rest' hc hc' hcc
    exact ⟨rfl, List.append_cancel_left hcc⟩
  · exact absurd hc (hno' b c rest (by simpa using he.symm))
  · exact absurd hc' (hno b' c' rest' (by simpa using he))
  · simpa using he

end RunsThrough

/-! ## Strings -/

/-- The length of the run of backslashes at the end. -/
def backslashes (s : List Char) : Nat :=
  (s.rtakeWhile (· == '\\')).length

/-- A string is closed by its quote after an even number of backslashes. -/
def closesQuoted (quote : Char) : Closer := fun before closing _ =>
  closing = [quote] ∧ backslashes before % 2 = 0

theorem backslashes_cons_of_ne {c : Char} (hc : c ≠ '\\') (s : List Char) : backslashes (c :: s) = backslashes s := by
  unfold backslashes List.rtakeWhile
  rw [List.reverse_cons, List.takeWhile_append]
  split
  · rename_i h
    rw [List.length_reverse] at h
    simp [hc, h]
  · rfl

theorem backslashes_pair (c : Char) (s : List Char) : backslashes ('\\' :: c :: s) % 2 = backslashes s % 2 := by
  unfold backslashes List.rtakeWhile
  rw [List.reverse_cons, List.reverse_cons, List.append_assoc, List.takeWhile_append]
  split
  · rename_i h
    by_cases hc : c = '\\'
    · rw [List.length_reverse] at h
      simp [hc, h]
      omega
    · rw [List.length_reverse] at h
      simp [hc, h]
  · rfl

theorem closesQuoted_cons_of_ne {quote x : Char} (hx : x ≠ '\\') (b c a : List Char) :
    closesQuoted quote (x :: b) c a ↔ closesQuoted quote b c a := by
  rw [closesQuoted, closesQuoted, backslashes_cons_of_ne hx]

theorem closesQuoted_pair (quote x : Char) (b c a : List Char) :
    closesQuoted quote ('\\' :: x :: b) c a ↔ closesQuoted quote b c a := by
  rw [closesQuoted, closesQuoted, backslashes_pair]

/-- The reader of strings stops at the first quote after an even number of backslashes. -/
theorem runsThrough_readQuoted {quote : Char} (hq : quote ≠ '\\') (s : List Char) :
    RunsThrough (closesQuoted quote) (readQuoted quote s).literal (readQuoted quote s).rest := by
  fun_induction readQuoted quote s with
  | case1 => exact .nil (by simp [closesQuoted])
  | case2 c s ih =>
    -- An escaped character is neither at the front nor after an even number of backslashes.
    have hw : (readQuoted quote s).literal ++ (readQuoted quote s).rest = s := readQuoted_whole quote s
    have hstep : RunsThrough (fun b => closesQuoted quote ('\\' :: b)) (c :: (readQuoted quote s).literal)
        (readQuoted quote s).rest := by
      refine ih.push (closesQuoted_pair quote c) fun d a _ hd => ?_
      have hone : backslashes ['\\'] = 1 := rfl
      rw [closesQuoted, hone] at hd
      exact absurd hd.2 (by decide)
    refine hstep.push (fun _ _ _ => Iff.rfl) fun d a he hd => ?_
    rw [hd.1] at he
    exact hq (by simpa using (List.cons.inj he).1.symm)
  | case3 s => exact .here ⟨rfl, rfl⟩
  | case4 c s hpair hc ih =>
    by_cases hb : c = '\\'
    · subst hb
      have hs : s = [] := by
        cases s with
        | nil => rfl
        | cons d s => exact absurd rfl (hpair d s rfl)
      subst hs
      refine Or.inr ⟨rfl, fun b d a he hd => ?_⟩
      rw [hd.1] at he
      have hm : quote ∈ ['\\'] := by
        show quote ∈ ((readQuoted quote []).push '\\').literal
        rw [he]
        simp
      exact hq (List.mem_singleton.mp hm)
    · refine ih.push (closesQuoted_cons_of_ne hb) fun d a he hd => ?_
      rw [hd.1] at he
      exact hc (List.cons.inj he).1

/-- The reader of strings reads back every body that its grammar allows. -/
theorem readQuoted_append {quote : Char} (hq : quote ≠ '\\') {body rest : List Char}
    (h : RunsThrough (closesQuoted quote) body rest) : readQuoted quote (body ++ rest) = ⟨body, rest⟩ := by
  have hw : (readQuoted quote (body ++ rest)).literal ++ (readQuoted quote (body ++ rest)).rest = body ++ rest :=
    readQuoted_whole quote _
  obtain ⟨h1, h2⟩ := (runsThrough_readQuoted hq (body ++ rest)).unique
    (fun _ _ _ _ _ hc hc' _ => hc.1.trans hc'.1.symm) h hw
  exact Reading.eq_mk h1 h2

/-! ## Comments -/

/-- A block comment is closed by the first `*/` after its opener. -/
def closesBlock : Closer := fun _ closing _ => closing = ['*', '/']

/-- The reader of block comments stops at the first `*/`. -/
theorem runsThrough_readBlock (s : List Char) :
    RunsThrough closesBlock (readBlock s).literal (readBlock s).rest := by
  fun_induction readBlock s with
  | case1 => exact .nil (by simp [closesBlock])
  | case2 s => exact .here rfl
  | case3 c s hend ih =>
    refine ih.push (fun _ _ _ => Iff.rfl) fun d a he hd => ?_
    have hw : (readBlock s).literal ++ (readBlock s).rest = s := readBlock_whole s
    rw [closesBlock] at hd
    rw [hw, hd] at he
    obtain ⟨rfl, rfl⟩ := List.cons.inj he
    exact hend a rfl rfl

theorem readBlock_append {body rest : List Char} (h : RunsThrough closesBlock body rest) :
    readBlock (body ++ rest) = ⟨body, rest⟩ := by
  have hw : (readBlock (body ++ rest)).literal ++ (readBlock (body ++ rest)).rest = body ++ rest := readBlock_whole _
  obtain ⟨h1, h2⟩ := (runsThrough_readBlock (body ++ rest)).unique
    (fun _ _ _ _ _ hc hc' _ => hc.trans hc'.symm) h hw
  exact Reading.eq_mk h1 h2

/-- A line comment stops at a line break, at a closing tag and at the end. -/
def StopsComment (rest : List Char) : Prop :=
  rest = [] ∨ ['\n'] <+: rest ∨ ['\r'] <+: rest ∨ ['?', '>'] <+: rest

/-- The body of a line comment holds nothing that stops it, and something that does comes next. -/
structure IsCommentBody (body rest : List Char) : Prop where
  no_line_break : ∀ c ∈ body, c ≠ '\n' ∧ c ≠ '\r'
  no_closing_tag : ¬['?', '>'] <:+: body
  stops : StopsComment rest

theorem endsLine_iff (s : List Char) : endsLine s = true ↔ ['\n'] <+: s ∨ ['\r'] <+: s ∨ ['?', '>'] <+: s := by
  unfold endsLine
  split
  · simp
  · simp
  · simp
  · rename_i h1 h2 h3
    simp only [Bool.false_eq_true, false_iff]
    rintro (⟨t, rfl⟩ | ⟨t, rfl⟩ | ⟨t, rfl⟩)
    · exact h1 t rfl
    · exact h2 t rfl
    · exact h3 t rfl

theorem isCommentBody_readLine (s : List Char) : IsCommentBody (readLine s).literal (readLine s).rest := by
  fun_induction readLine s with
  | case1 => exact ⟨by simp, by simp, Or.inl rfl⟩
  | case2 c s hend => exact ⟨by simp, by simp, Or.inr ((endsLine_iff _).mp hend)⟩
  | case3 c s hend ih =>
    have hw : (readLine s).literal ++ (readLine s).rest = s := readLine_whole s
    rw [endsLine_iff] at hend
    refine ⟨fun d hd => ?_, fun hi => ?_, ih.stops⟩
    · rcases List.mem_cons.mp hd with rfl | hd
      · exact ⟨fun e => hend (Or.inl (by simp [e])), fun e => hend (Or.inr (Or.inl (by simp [e])))⟩
      · exact ih.no_line_break d hd
    · rcases List.infix_cons_iff.mp hi with hp | hi
      · refine hend (Or.inr (Or.inr ?_))
        rw [← hw, ← List.cons_append]
        exact List.prefix_append_of_prefix hp
      · exact ih.no_closing_tag hi

theorem readLine_append : ∀ {body rest : List Char}, IsCommentBody body rest → readLine (body ++ rest) = ⟨body, rest⟩
  | [], [], _ => rfl
  | [], c :: rest, h => by
    have hend : endsLine (c :: rest) = true := by
      rw [endsLine_iff]
      rcases h.stops with h | h
      · cases h
      · exact h
    rw [List.nil_append, readLine, if_pos hend]
  | c :: body, rest, h => by
    have hend : ¬endsLine (c :: (body ++ rest)) = true := by
      rw [endsLine_iff]
      have hc := h.no_line_break c List.mem_cons_self
      rintro (hp | hp | hp)
      · exact hc.1 (List.cons_prefix_cons.mp hp).1.symm
      · exact hc.2 (List.cons_prefix_cons.mp hp).1.symm
      · -- The second character of the tag is in the body, or it comes next; what stops a comment starts otherwise.
        obtain ⟨rfl, hp'⟩ := List.cons_prefix_cons.mp hp
        cases body with
        | cons d body =>
          obtain ⟨rfl, -⟩ := List.cons_prefix_cons.mp hp'
          exact h.no_closing_tag ⟨[], body, rfl⟩
        | nil =>
          obtain ⟨t, rfl⟩ := hp'
          rcases h.stops with h | h | h | h <;> simp at h
    have hbody : IsCommentBody body rest :=
      ⟨fun d hd => h.no_line_break d (List.mem_cons_of_mem _ hd),
        fun hi => h.no_closing_tag (List.infix_cons_iff.mpr (Or.inr hi)), h.stops⟩
    rw [List.cons_append, readLine, if_neg hend, readLine_append hbody]
    rfl

/-! ## Heredocs -/

/-- Spaces and tabs. -/
def IsIndentation (s : List Char) : Prop :=
  ∀ c ∈ s, c = ' ' ∨ c = '\t'

/-- An ASCII letter or underscore, and letters, digits and underscores after it. -/
def IsLabel (label : List Char) : Prop :=
  ∃ c s, label = c :: s ∧ isLabelStart c = true ∧ ∀ d ∈ s, isLabelRest d = true

/-- What opens a heredoc after `<<<`: indentation, a label that is bare or in a pair of equal quotes, and a line end. -/
def IsOpener (text label : List Char) : Prop :=
  ∃ indent quote lineEnd, text = indent ++ quote ++ label ++ quote ++ lineEnd ∧ IsIndentation indent ∧
    (quote = [] ∨ quote = ['\''] ∨ quote = ['"']) ∧ IsLabel label ∧ (lineEnd = ['\n'] ∨ lineEnd = ['\r', '\n'])

/-- A heredoc is closed by its label at the start of a line, with indentation before it and no word character after it.
The flag says whether a line starts where the body does. -/
def closesHeredoc (label : List Char) (lineStart : Bool) : Closer := fun before closing after =>
  (before = [] ∧ lineStart = true ∨ before.getLast? = some '\n') ∧
    (∃ indent, IsIndentation indent ∧ closing = indent ++ label) ∧ ∀ c ∈ after.head?, isWordChar c = false

theorem isIndent_iff (c : Char) : isIndent c = true ↔ c = ' ' ∨ c = '\t' := by
  simp [isIndent]

theorem isIndent_of_isLabelStart {c : Char} (h : isLabelStart c = true) : isIndent c = false := by
  cases hc : isIndent c with
  | false => rfl
  | true => rcases (isIndent_iff c).mp hc with rfl | rfl <;> exact absurd h (by decide)

theorem isLabelRest_of_isLabelStart {c : Char} (h : isLabelStart c = true) : isLabelRest c = true := by
  simp only [isLabelStart, Bool.or_eq_true] at h
  rcases h with h | h
  · simp [isLabelRest, Char.isAlphanum, h]
  · simp [isLabelRest, h]

theorem takeWhile_isIndent {indent s : List Char} (hi : IsIndentation indent) (hs : ∀ c ∈ s.head?, isIndent c = false) :
    (indent ++ s).takeWhile isIndent = indent := by
  rw [List.takeWhile_append_of_pos (fun c hc => (isIndent_iff c).mpr (hi c hc)), takeWhile_eq_nil_of_head? hs,
    List.append_nil]

theorem dropWhile_isIndent {indent s : List Char} (hi : IsIndentation indent) (hs : ∀ c ∈ s.head?, isIndent c = false) :
    (indent ++ s).dropWhile isIndent = s := by
  rw [List.dropWhile_append_of_pos (fun c hc => (isIndent_iff c).mpr (hi c hc)), dropWhile_eq_self_of_head? hs]

theorem isIndentation_takeWhile (s : List Char) : IsIndentation (s.takeWhile isIndent) := fun c hc =>
  (isIndent_iff c).mp (List.mem_takeWhile_imp hc)

theorem afterFront?_append : ∀ front text : List Char, afterFront? front (front ++ text) = some text
  | [], text => by cases text <;> rfl
  | c :: front, text => by
    rw [List.cons_append, afterFront?, if_pos rfl, afterFront?_append front text]

namespace IsLabel

variable {label : List Char}

theorem head?_isIndent (h : IsLabel label) (s : List Char) : ∀ c ∈ (label ++ s).head?, isIndent c = false := by
  obtain ⟨c, t, rfl, hc, -⟩ := h
  intro d hd
  cases hd
  exact isIndent_of_isLabelStart hc

theorem ne_nil (h : IsLabel label) : label ≠ [] := by
  obtain ⟨c, t, rfl, -, -⟩ := h
  simp

/-- A label holds label characters only, so no line break, bracket or blank. -/
theorem isLabelRest_of_mem (h : IsLabel label) : ∀ c ∈ label, isLabelRest c = true := by
  obtain ⟨c, t, rfl, hc, ht⟩ := h
  intro d hd
  rcases List.mem_cons.mp hd with rfl | hd
  · exact isLabelRest_of_isLabelStart hc
  · exact ht d hd

/-- The label is read back where no label character follows it. -/
theorem labelAt_append (h : IsLabel label) {s : List Char} (hs : ∀ c ∈ s.head?, isLabelRest c = false) :
    labelAt (label ++ s) = label := by
  have hall := h.isLabelRest_of_mem
  obtain ⟨c, t, rfl, hc, ht⟩ := h
  rw [labelAt, if_pos (by simpa using hc), List.takeWhile_append_of_pos hall, takeWhile_eq_nil_of_head? hs,
    List.append_nil]

/-- A label that is read is a label, unless it is empty. -/
theorem of_labelAt {s : List Char} (h : labelAt s ≠ []) : IsLabel (labelAt s) := by
  unfold labelAt at h ⊢
  split at h
  · rename_i hs
    rw [if_pos hs]
    cases s with
    | nil => exact absurd rfl h
    | cons c s =>
      have hc : isLabelStart c = true := by simpa using hs
      rw [List.takeWhile_cons_of_pos (isLabelRest_of_isLabelStart hc)]
      exact ⟨c, _, rfl, hc, fun d hd => List.mem_takeWhile_imp hd⟩
  · exact absurd rfl h

end IsLabel

/-- The closing label of a heredoc is read at the start of a line exactly where the rule for it holds. -/
theorem closer?_eq_some_iff {label line closing after : List Char} (hl : IsLabel label) :
    closer? label line = some ⟨closing, after⟩ ↔
      line = closing ++ after ∧ closesHeredoc label true [] closing after := by
  constructor
  · intro h
    refine ⟨(closer?_whole h).symm, Or.inl ⟨rfl, rfl⟩, ?_⟩
    simp only [closer?, Option.bind_eq_some_iff] at h
    obtain ⟨rest, -, h⟩ := h
    split at h
    · cases h
    · rename_i hw
      cases h
      refine ⟨⟨_, isIndentation_takeWhile line, rfl⟩, fun c hc => ?_⟩
      rw [hc] at hw
      simpa using hw
  · rintro ⟨rfl, -, ⟨indent, hi, rfl⟩, hw⟩
    have hh : ∀ c ∈ (label ++ after).head?, isIndent c = false := hl.head?_isIndent after
    rw [closer?, List.append_assoc, takeWhile_isIndent hi hh, dropWhile_isIndent hi hh, afterFront?_append,
      Option.bind_some, if_neg]
    cases after with
    | nil => simp
    | cons c after => simpa using hw c rfl

theorem closesHeredoc_cons (label : List Char) (lineStart : Bool) (x : Char) (b c a : List Char) :
    closesHeredoc label lineStart (x :: b) c a ↔ closesHeredoc label (x == '\n') b c a := by
  cases b with
  | nil => simp [closesHeredoc]
  | cons y b => simp [closesHeredoc, List.getLast?_cons_cons]

theorem closesHeredoc_unique {label : List Char} (hl : IsLabel label) {lineStart : Bool} {b c c' a a' : List Char}
    (h : closesHeredoc label lineStart b c a) (h' : closesHeredoc label lineStart b c' a') (he : c ++ a = c' ++ a') :
    c = c' := by
  obtain ⟨-, ⟨i, hi, rfl⟩, -⟩ := h
  obtain ⟨-, ⟨i', hi', rfl⟩, -⟩ := h'
  rw [List.append_assoc, List.append_assoc] at he
  have ht := congrArg (List.takeWhile isIndent) he
  rw [takeWhile_isIndent hi (hl.head?_isIndent a), takeWhile_isIndent hi' (hl.head?_isIndent a')] at ht
  rw [ht]

/-- The reader of heredocs stops at the first closing label. -/
theorem runsThrough_readBody {label : List Char} (hl : IsLabel label) (lineStart : Bool) (s : List Char) :
    RunsThrough (closesHeredoc label lineStart) (readBody label lineStart s).literal
      (readBody label lineStart s).rest := by
  fun_induction readBody label lineStart s with
  | case1 lineStart =>
    refine .nil fun h => ?_
    obtain ⟨-, ⟨i, -, he⟩, -⟩ := h
    exact hl.ne_nil (List.append_eq_nil_iff.mp he.symm).2
  | case2 lineStart c s r h =>
    split at h
    · rename_i hls
      rw [hls]
      exact .here ((closer?_eq_some_iff hl).mp h).2
    · cases h
  | case3 lineStart c s h ih =>
    have hw : (readBody label (c == '\n') s).literal ++ (readBody label (c == '\n') s).rest = s := readBody_whole _ _ s
    refine ih.push (closesHeredoc_cons label lineStart c) fun d a he hd => ?_
    rw [hw] at he
    -- The rule for the front of the body holds only where a line starts, and there the reader has just refused.
    have hls : lineStart = true := by
      rcases hd.1 with hd | hd
      · exact hd.2
      · cases hd
    subst hls
    rw [if_pos rfl, (closer?_eq_some_iff hl).mpr ⟨he, hd⟩] at h
    cases h

theorem readBody_append {label : List Char} (hl : IsLabel label) {lineStart : Bool} {body rest : List Char}
    (h : RunsThrough (closesHeredoc label lineStart) body rest) :
    readBody label lineStart (body ++ rest) = ⟨body, rest⟩ := by
  have hw : (readBody label lineStart (body ++ rest)).literal ++ (readBody label lineStart (body ++ rest)).rest =
      body ++ rest := readBody_whole label lineStart _
  obtain ⟨h1, h2⟩ := (runsThrough_readBody hl lineStart (body ++ rest)).unique
    (fun b c c' a a' => closesHeredoc_unique hl (b := b)) h hw
  exact Reading.eq_mk h1 h2

/-! ### Openers -/

theorem labelQuote_cases (s : List Char) : labelQuote s = [] ∨ labelQuote s = ['\''] ∨ labelQuote s = ['"'] := by
  unfold labelQuote
  split <;> simp

theorem lineEnd_cases {s lineEnd rest : List Char} (h : afterLineEnd? s = some (lineEnd, rest)) :
    lineEnd = ['\n'] ∨ lineEnd = ['\r', '\n'] := by
  unfold afterLineEnd? at h
  split at h <;> simp_all

theorem afterLineEnd?_append {lineEnd : List Char} (h : lineEnd = ['\n'] ∨ lineEnd = ['\r', '\n']) (s : List Char) :
    afterLineEnd? (lineEnd ++ s) = some (lineEnd, s) := by
  rcases h with rfl | rfl <;> rfl

/-- The opener that is read is an opener. -/
theorem isOpener_of_opener? {s : List Char} {o : Opener} (h : opener? s = some o) : IsOpener o.text o.label := by
  simp only [opener?] at h
  split at h
  · cases h
  · rename_i hlabel
    obtain ⟨afterLabel, -, h⟩ := Option.bind_eq_some_iff.mp h
    obtain ⟨⟨lineEnd, body⟩, hl, rfl⟩ := Option.map_eq_some_iff.mp h
    exact ⟨_, _, _, rfl, isIndentation_takeWhile s, labelQuote_cases _,
      IsLabel.of_labelAt (by simpa using hlabel), lineEnd_cases hl⟩

/-- The quote before a label, read back. -/
theorem labelQuote_append {quote label : List Char} (hq : quote = [] ∨ quote = ['\''] ∨ quote = ['"'])
    (hl : IsLabel label) (s : List Char) : labelQuote (quote ++ (label ++ s)) = quote := by
  rcases hq with rfl | rfl | rfl
  · obtain ⟨c, t, rfl, hc, -⟩ := hl
    rw [List.nil_append, List.cons_append, labelQuote]
    · intro u hu
      rw [(List.cons.inj hu).1] at hc
      exact absurd hc (by decide)
    · intro u hu
      rw [(List.cons.inj hu).1] at hc
      exact absurd hc (by decide)
  · rfl
  · rfl

/-- Every opener is read back. -/
theorem opener?_append {text label : List Char} (h : IsOpener text label) (body : List Char) :
    opener? (text ++ body) = some ⟨text, label, body⟩ := by
  obtain ⟨indent, quote, lineEnd, rfl, hi, hq, hl, he⟩ := h
  have hhead : ∀ c ∈ (quote ++ (label ++ (quote ++ (lineEnd ++ body)))).head?, isIndent c = false := by
    rcases hq with rfl | rfl | rfl
    · exact hl.head?_isIndent _
    · rintro c ⟨⟩
      decide
    · rintro c ⟨⟩
      decide
  have hrest : ∀ c ∈ (quote ++ (lineEnd ++ body)).head?, isLabelRest c = false := by
    rcases hq with rfl | rfl | rfl <;> rcases he with rfl | rfl <;> rintro c ⟨⟩ <;> decide
  have hne : label.isEmpty = false := by simpa using hl.ne_nil
  simp only [opener?, List.append_assoc]
  rw [takeWhile_isIndent hi hhead, dropWhile_isIndent hi hhead, labelQuote_append hq hl, List.drop_left,
    hl.labelAt_append hrest, hne, List.drop_left, afterFront?_append, Option.bind_some, afterLineEnd?_append he]
  simp

/-! ## Literals -/

/-- The four kinds of literals. -/
inductive LiteralKind where
  | quoted
  | lineComment
  | blockComment
  | heredoc
  deriving DecidableEq

/-- The literals of each kind, with the text that may follow them. -/
inductive IsLiteral : LiteralKind → (text rest : List Char) → Prop
  /-- A string runs through the first quote like its opener that is not escaped. -/
  | quoted {quote : Char} {body rest : List Char} : quote = '\'' ∨ quote = '"' ∨ quote = '\x60' →
      RunsThrough (closesQuoted quote) body rest → IsLiteral .quoted (quote :: body) rest
  /-- A line comment starts with two slashes, or with a hash that opens no attribute. -/
  | lineComment {opener body rest : List Char} :
      opener = ['/', '/'] ∨ opener = ['#'] ∧ ¬['['] <+: body ++ rest →
      IsCommentBody body rest → IsLiteral .lineComment (opener ++ body) rest
  /-- A block comment runs through the first `*/` after its opener. -/
  | blockComment {body rest : List Char} : RunsThrough closesBlock body rest →
      IsLiteral .blockComment ('/' :: '*' :: body) rest
  /-- A heredoc runs through the first closing label after its opener. -/
  | heredoc {opener label body rest : List Char} : IsOpener opener label →
      RunsThrough (closesHeredoc label true) body rest →
      IsLiteral .heredoc ('<' :: '<' :: '<' :: (opener ++ body)) rest

/-- The kind that a literal of this text has. -/
def LiteralKind.ofText : List Char → LiteralKind
  | '/' :: '*' :: _ => .blockComment
  | '/' :: _ => .lineComment
  | '#' :: _ => .lineComment
  | '<' :: _ => .heredoc
  | _ => .quoted

/-- The first characters of a literal tell its kind. -/
theorem IsLiteral.kind_eq {kind : LiteralKind} {text rest : List Char} (h : IsLiteral kind text rest) :
    kind = LiteralKind.ofText text := by
  cases h with
  | quoted hq _ => rcases hq with rfl | rfl | rfl <;> rfl
  | lineComment ho _ => rcases ho with rfl | ⟨rfl, -⟩ <;> rfl
  | blockComment _ => rfl
  | heredoc _ _ => rfl

theorem isQuote_iff (c : Char) : isQuote c = true ↔ c = '\'' ∨ c = '"' ∨ c = '\x60' := by
  simp [isQuote, or_assoc]

theorem head?_eq_bracket_iff (s : List Char) : s.head? = some '[' ↔ ['['] <+: s := by
  cases s with
  | nil => simp
  | cons c s => simp [eq_comm]

/-- What is read is a literal. -/
theorem isLiteral_of_literal? {s : List Char} {r : Reading} (h : literal? s = some r) :
    ∃ kind, IsLiteral kind r.literal r.rest := by
  unfold literal? at h
  split at h
  · rename_i s
    cases h
    exact ⟨_, .blockComment (runsThrough_readBlock s)⟩
  · rename_i s
    cases h
    exact ⟨_, .lineComment (Or.inl rfl) (isCommentBody_readLine s)⟩
  · rename_i s
    split at h
    · cases h
    · rename_i hb
      cases h
      have hw : (readLine s).literal ++ (readLine s).rest = s := readLine_whole s
      have hno : ¬['['] <+: (readLine s).literal ++ (readLine s).rest := by
        rw [hw, ← head?_eq_bracket_iff]
        exact hb
      exact ⟨_, .lineComment (Or.inr ⟨rfl, hno⟩) (isCommentBody_readLine s)⟩
  · obtain ⟨o, ho, rfl⟩ := Option.map_eq_some_iff.mp h
    have hopen := isOpener_of_opener? ho
    obtain ⟨-, -, -, -, -, -, hl, -⟩ := id hopen
    exact ⟨_, .heredoc hopen (runsThrough_readBody hl true o.body)⟩
  · rename_i c s _ _ _ _
    split at h
    · rename_i hq
      cases h
      have hq' := (isQuote_iff c).mp hq
      refine ⟨_, .quoted hq' (runsThrough_readQuoted ?_ s)⟩
      rcases hq' with rfl | rfl | rfl <;> decide
    · cases h
  · cases h

/-- Every literal is read back where it may stand. -/
theorem literal?_append {kind : LiteralKind} {text rest : List Char} (h : IsLiteral kind text rest) :
    literal? (text ++ rest) = some ⟨text, rest⟩ := by
  cases h with
  | quoted hq hb =>
    rcases hq with rfl | rfl | rfl <;> simp [literal?, isQuote, readQuoted_append _ hb, Reading.push]
  | lineComment ho hb =>
    rcases ho with rfl | ⟨rfl, hno⟩
    · simp [literal?, readLine_append hb, Reading.pushAll]
    · rw [← head?_eq_bracket_iff] at hno
      rw [List.append_assoc, List.singleton_append, literal?, if_neg hno, readLine_append hb]
      rfl
  | blockComment hb => simp [literal?, readBlock_append hb, Reading.pushAll]
  | heredoc ho hb =>
    obtain ⟨-, -, -, -, -, -, hl, -⟩ := id ho
    simp [literal?, opener?_append ho, readBody_append hl hb, Reading.pushAll]

/-- The reader accepts exactly the literals of the grammar. -/
theorem literal?_eq_some_iff {s text rest : List Char} :
    literal? s = some ⟨text, rest⟩ ↔ s = text ++ rest ∧ ∃! kind, IsLiteral kind text rest := by
  constructor
  · intro h
    obtain ⟨kind, hk⟩ := isLiteral_of_literal? h
    exact ⟨(literal?_whole h).symm, kind, hk, fun _ hk' => hk'.kind_eq.trans hk.kind_eq.symm⟩
  · rintro ⟨rfl, kind, h, -⟩
    exact literal?_append h

/-! ## What follows a literal -/

/-- Another text may follow the body if the closing text is as good before it and no earlier one comes about. -/
theorem RunsThrough.follow {closes : Closer} {body rest rest' : List Char} (h : RunsThrough closes body rest)
    (hnil : rest = [] → rest' = []) (hafter : ∀ b c, closes b c rest → closes b c rest')
    (hearlier : ∀ before closing b c a, closes before closing rest → before ++ closing ++ rest' = b ++ c ++ a →
      closes b c a → b.length < before.length → ∃ d, before ++ closing = b ++ c ++ d ∧ closes b c (d ++ rest)) :
    RunsThrough closes body rest' := by
  rcases h with ⟨before, closing, rfl, hc, hfirst⟩ | ⟨rfl, hno⟩
  · refine Or.inl ⟨before, closing, rfl, hafter _ _ hc, fun b c a he hb => ?_⟩
    by_contra hlt
    obtain ⟨d, hd, hcd⟩ := hearlier before closing b c a hc he hb (Nat.lt_of_not_le hlt)
    exact hlt (hfirst b c (d ++ rest) (by rw [hd, List.append_assoc]) hcd)
  · exact Or.inr ⟨hnil rfl, hno⟩

/-- Closing texts of one length that do not look ahead stay the first ones, whatever follows. -/
theorem RunsThrough.follow_of_length {closes : Closer} {body rest rest' : List Char} (h : RunsThrough closes body rest)
    (hnil : rest = [] → rest' = []) (n : Nat) (hn : ∀ b c a, closes b c a → c.length = n)
    (hany : ∀ b c a a', closes b c a → closes b c a') : RunsThrough closes body rest' := by
  refine h.follow hnil (fun b c => hany b c rest rest') fun before closing b c a hc he hb hlt => ?_
  rcases List.append_eq_append_iff.mp he with ⟨d, hd, -⟩ | ⟨d, hd, -⟩
  · have hl := congrArg List.length hd
    rw [List.length_append, List.length_append, List.length_append, hn _ _ _ hc, hn _ _ _ hb] at hl
    omega
  · exact ⟨d, hd, hany b c a (d ++ rest) hb⟩

theorem not_mem_of_closesHeredoc {label : List Char} (hl : IsLabel label) {lineStart : Bool} {b c a : List Char}
    (h : closesHeredoc label lineStart b c a) : '\n' ∉ c := by
  obtain ⟨-, ⟨indent, hi, rfl⟩, -⟩ := h
  intro hm
  rcases List.mem_append.mp hm with hm | hm
  · rcases hi _ hm with h | h <;> exact absurd h (by decide)
  · exact absurd (hl.isLabelRest_of_mem _ hm) (by decide)

/-- A closing label that stands before another one ends before the line of that one starts. -/
theorem exists_of_earlier_label {label : List Char} (hl : IsLabel label) {lineStart : Bool}
    {before closing b c a rest rest' : List Char} (hc : closesHeredoc label lineStart before closing rest)
    (he : before ++ closing ++ rest' = b ++ c ++ a) (hb : closesHeredoc label lineStart b c a)
    (hlt : b.length < before.length) :
    ∃ d, before ++ closing = b ++ c ++ d ∧ closesHeredoc label lineStart b c (d ++ rest) := by
  have hlast : before.getLast? = some '\n' := by
    rcases hc.1 with h | h
    · rw [h.1] at hlt
      exact absurd hlt (Nat.not_lt_zero _)
    · exact h
  obtain ⟨line, rfl⟩ := List.getLast?_eq_some_iff.mp hlast
  have hle : b.length ≤ line.length := by
    rw [List.length_append] at hlt
    exact Nat.le_of_lt_succ hlt
  have hno := not_mem_of_closesHeredoc hl hb
  have he' : line ++ ('\n' :: (closing ++ rest')) = b ++ (c ++ a) := by simpa using he
  obtain ⟨d, rfl, hd⟩ : ∃ d, line = b ++ d ∧ d ++ ('\n' :: (closing ++ rest')) = c ++ a := by
    rcases List.append_eq_append_iff.mp he' with ⟨d, rfl, hd⟩ | ⟨d, rfl, hd⟩
    · -- The line is no longer than what stands before the earlier label, so both end at the same place.
      have hnil : d = [] := by
        rw [List.length_append] at hle
        exact List.eq_nil_of_length_eq_zero (by omega)
      subst hnil
      exact ⟨[], by simp, by simpa using hd⟩
    · exact ⟨d, rfl, hd.symm⟩
  rcases List.append_eq_append_iff.mp hd with ⟨e, rfl, hx⟩ | ⟨e, rfl, rfl⟩
  · cases e with
    | nil =>
      refine ⟨'\n' :: closing, by simp, hb.1, hb.2.1, ?_⟩
      rintro x ⟨⟩
      decide
    | cons x e =>
      obtain ⟨rfl, -⟩ := List.cons.inj hx
      exact absurd (by simp) hno
  · refine ⟨e ++ '\n' :: closing, by simp, hb.1, hb.2.1, ?_⟩
    have hw := hb.2.2
    cases e with
    | nil =>
      rintro x ⟨⟩
      decide
    | cons x e => simpa using hw

/-- What comes after a literal may be exchanged for another text that ends the literal as well. -/
theorem IsLiteral.follow {kind : LiteralKind} {text rest rest' : List Char} (h : IsLiteral kind text rest)
    (hnil : rest = [] → rest' = []) (hstop : StopsComment rest → StopsComment rest')
    (hword : (∀ c ∈ rest.head?, isWordChar c = false) → ∀ c ∈ rest'.head?, isWordChar c = false) :
    IsLiteral kind text rest' := by
  cases h with
  | quoted hq hb =>
    refine .quoted hq (hb.follow_of_length hnil 1 ?_ fun _ _ _ _ => id)
    rintro b c a ⟨rfl, -⟩
    rfl
  | @lineComment opener body _ ho hb =>
    have hstops := hstop hb.stops
    refine .lineComment (ho.imp_right fun ⟨ho, hno⟩ => ⟨ho, fun hp => ?_⟩) ⟨hb.no_line_break, hb.no_closing_tag, hstops⟩
    cases body with
    | nil =>
      obtain ⟨t, rfl⟩ := hp
      rcases hstops with h | h | h | h <;> simp at h
    | cons c body =>
      obtain ⟨rfl, -⟩ := List.cons_prefix_cons.mp hp
      exact hno (by simp)
  | blockComment hb =>
    refine .blockComment (hb.follow_of_length hnil 2 ?_ fun _ _ _ _ => id)
    rintro b c a rfl
    rfl
  | heredoc ho hb =>
    obtain ⟨-, -, -, -, -, -, hl, -⟩ := id ho
    exact .heredoc ho (hb.follow hnil (fun b c hc => ⟨hc.1, hc.2.1, hword hc.2.2⟩)
      fun _ _ _ _ _ hc he hb hlt => exists_of_earlier_label hl hc he hb hlt)

end BracketSpacing
