import BracketSpacing.Text.Word

/-!
# Literals at the front of a text

A literal is a quoted string, a line comment, a block comment or a heredoc. Each reader gives a `Reading`: the literal
and what follows it. A literal that is never closed runs to the end of the text.

* `readQuoted`, `readBlock`, `readLine`, `readBody`: the rest of a literal whose opener has been read.
* `literal?`: the literal at the front of a text, if one starts there.

`literal?_whole` says that a reading splits the text and loses nothing, and `literal?_rest_lt` that it takes at least
one character.
-/

namespace BracketSpacing

/-- A literal at the front of a text, and the text after it. -/
structure Reading where
  literal : List Char
  rest : List Char

namespace Reading

/-- The text that was read. -/
def whole (r : Reading) : List Char :=
  r.literal ++ r.rest

/-- The same reading with one more character at the front of the literal. -/
def push (c : Char) (r : Reading) : Reading :=
  ⟨c :: r.literal, r.rest⟩

/-- The same reading with a text at the front of the literal. -/
def pushAll (s : List Char) (r : Reading) : Reading :=
  ⟨s ++ r.literal, r.rest⟩

@[simp] theorem whole_mk (a b : List Char) : whole ⟨a, b⟩ = a ++ b := rfl

@[simp] theorem whole_push (c : Char) (r : Reading) : (r.push c).whole = c :: r.whole := rfl

@[simp] theorem whole_pushAll (s : List Char) (r : Reading) : (r.pushAll s).whole = s ++ r.whole := by
  simp [whole, pushAll]

end Reading

/-! ## Strings -/

/-- The characters that open and close a string. -/
def isQuote (c : Char) : Bool :=
  c == '\'' || c == '"' || c == '\x60'

/-- The rest of a string: up to the first closing quote that no backslash escapes. -/
def readQuoted (quote : Char) : List Char → Reading
  | [] => ⟨[], []⟩
  | '\\' :: c :: s => ((readQuoted quote s).push c).push '\\'
  | c :: s => if c = quote then ⟨[c], s⟩ else (readQuoted quote s).push c

theorem readQuoted_whole (quote : Char) (s : List Char) : (readQuoted quote s).whole = s := by
  fun_induction readQuoted quote s <;> simp_all

/-! ## Comments -/

/-- The rest of a block comment: through the first `*/`. -/
def readBlock : List Char → Reading
  | [] => ⟨[], []⟩
  | '*' :: '/' :: s => ⟨['*', '/'], s⟩
  | c :: s => (readBlock s).push c

theorem readBlock_whole (s : List Char) : (readBlock s).whole = s := by
  fun_induction readBlock s <;> simp_all

/-- A line break or a closing tag ends a line comment. -/
def endsLine : List Char → Bool
  | '\n' :: _ => true
  | '\r' :: _ => true
  | '?' :: '>' :: _ => true
  | _ => false

/-- The rest of a line comment: up to what ends it. -/
def readLine : List Char → Reading
  | [] => ⟨[], []⟩
  | c :: s => if endsLine (c :: s) then ⟨[], c :: s⟩ else (readLine s).push c

theorem readLine_whole (s : List Char) : (readLine s).whole = s := by
  fun_induction readLine s <;> simp_all

/-! ## Heredocs -/

/-- The blanks that may stand before a heredoc's label. -/
def isIndent (c : Char) : Bool :=
  c == ' ' || c == '\t'

/-- What follows `front` in the text, if the text starts with it. -/
def afterFront? : (front text : List Char) → Option (List Char)
  | [], text => some text
  | _ :: _, [] => none
  | f :: front, c :: text => if f = c then afterFront? front text else none

theorem afterFront?_eq {front text rest : List Char} (h : afterFront? front text = some rest) :
    text = front ++ rest := by
  fun_induction afterFront? front text <;> simp_all

/-- What follows a line feed, or a carriage return and a line feed, together with that line end. -/
def afterLineEnd? : List Char → Option (List Char × List Char)
  | '\n' :: s => some (['\n'], s)
  | '\r' :: '\n' :: s => some (['\r', '\n'], s)
  | _ => none

theorem afterLineEnd?_eq {s lineEnd rest : List Char} (h : afterLineEnd? s = some (lineEnd, rest)) :
    s = lineEnd ++ rest := by
  unfold afterLineEnd? at h
  split at h <;> simp_all <;> simp [← h]

/-- The optional quote before a heredoc's label. -/
def labelQuote : List Char → List Char
  | '\'' :: _ => ['\'']
  | '"' :: _ => ['"']
  | _ => []

/-- The label at the front of the text: as long as possible, empty if no label starts here. -/
def labelAt (s : List Char) : List Char :=
  if s.head?.any Text.isLabelStart then s.takeWhile Text.isLabelRest else []

/-- What opens a heredoc after `<<<`: the text of the opener, its label, and the body that follows. -/
structure Opener where
  text : List Char
  label : List Char
  body : List Char

/-- The opener of a heredoc: indentation, a label that is bare or in a pair of equal quotes, and a line end. -/
def opener? (s : List Char) : Option Opener :=
  let indent := s.takeWhile isIndent
  let quote := labelQuote (s.dropWhile isIndent)
  let label := labelAt ((s.dropWhile isIndent).drop quote.length)
  if label.isEmpty then none
  else
    (afterFront? quote (((s.dropWhile isIndent).drop quote.length).drop label.length)).bind fun afterLabel =>
      (afterLineEnd? afterLabel).map fun (lineEnd, body) =>
        ⟨indent ++ quote ++ label ++ quote ++ lineEnd, label, body⟩

/-- The closing label at the start of a line: indentation and the label, with no word character after it. -/
def closer? (label line : List Char) : Option Reading :=
  (afterFront? label (line.dropWhile isIndent)).bind fun rest =>
    if rest.head?.any Text.isWordChar then none else some ⟨line.takeWhile isIndent ++ label, rest⟩

/-- The rest of a heredoc: through the first closing label. The flag says whether a line starts here. -/
def readBody (label : List Char) : (lineStart : Bool) → List Char → Reading
  | _, [] => ⟨[], []⟩
  | lineStart, c :: s =>
    match (if lineStart then closer? label (c :: s) else none) with
    | some reading => reading
    | none => (readBody label (c == '\n') s).push c

theorem closer?_whole {label line : List Char} {r : Reading} (h : closer? label line = some r) : r.whole = line := by
  simp only [closer?, Option.bind_eq_some_iff] at h
  obtain ⟨rest, hrest, h⟩ := h
  split at h
  · simp at h
  · simp only [Option.some.injEq] at h
    subst h
    simp [← afterFront?_eq hrest, List.takeWhile_append_dropWhile]

theorem readBody_whole (label : List Char) (lineStart : Bool) (s : List Char) :
    (readBody label lineStart s).whole = s := by
  fun_induction readBody label lineStart s with
  | case1 => rfl
  | case2 lineStart c s r h =>
    split at h
    · exact closer?_whole h
    · simp at h
  | case3 lineStart c s h ih => simp [ih]

theorem labelQuote_append_drop (s : List Char) : labelQuote s ++ s.drop (labelQuote s).length = s := by
  unfold labelQuote
  split <;> rfl

theorem labelAt_append_drop (s : List Char) : labelAt s ++ s.drop (labelAt s).length = s := by
  unfold labelAt
  split
  · exact List.prefix_iff_eq_append.1 (List.takeWhile_prefix _)
  · rfl

theorem opener?_eq {s : List Char} {o : Opener} (h : opener? s = some o) : s = o.text ++ o.body := by
  simp only [opener?] at h
  split at h
  · simp at h
  · simp only [Option.bind_eq_some_iff, Option.map_eq_some_iff, Prod.exists] at h
    obtain ⟨afterLabel, hq, lineEnd, body, hl, rfl⟩ := h
    have h1 := afterFront?_eq hq
    have h2 := afterLineEnd?_eq hl
    have h3 := labelAt_append_drop ((s.dropWhile isIndent).drop (labelQuote (s.dropWhile isIndent)).length)
    have h4 := labelQuote_append_drop (s.dropWhile isIndent)
    have h5 := List.takeWhile_append_dropWhile (p := isIndent) (l := s)
    simp only [List.append_assoc]
    rw [← h2, ← h1, h3, h4, h5]

/-! ## The literal at the front -/

/-- The literal that starts at the front of a text in script mode. -/
def literal? : List Char → Option Reading
  | '/' :: '*' :: s => some ((readBlock s).pushAll ['/', '*'])
  | '/' :: '/' :: s => some ((readLine s).pushAll ['/', '/'])
  | '#' :: s => if s.head? = some '[' then none else some ((readLine s).push '#')
  | '<' :: '<' :: '<' :: s =>
    (opener? s).map fun o => (readBody o.label true o.body).pushAll ('<' :: '<' :: '<' :: o.text)
  | c :: s => if isQuote c then some ((readQuoted c s).push c) else none
  | [] => none

/-- A literal and what follows it make up the text. -/
theorem literal?_whole {s : List Char} {r : Reading} (h : literal? s = some r) : r.whole = s := by
  unfold literal? at h
  split at h
  · simp only [Option.some.injEq] at h
    simp [← h, readBlock_whole]
  · simp only [Option.some.injEq] at h
    simp [← h, readLine_whole]
  · split at h
    · simp at h
    · simp only [Option.some.injEq] at h
      simp [← h, readLine_whole]
  · obtain ⟨o, ho, rfl⟩ := Option.map_eq_some_iff.1 h
    simp [readBody_whole, opener?_eq ho]
  · split at h
    · simp only [Option.some.injEq] at h
      simp [← h, readQuoted_whole]
    · simp at h
  · simp at h

/-- No literal is empty. -/
theorem literal?_literal_ne_nil {s : List Char} {r : Reading} (h : literal? s = some r) : r.literal ≠ [] := by
  unfold literal? at h
  split at h
  · simp only [Option.some.injEq] at h
    simp [← h, Reading.pushAll]
  · simp only [Option.some.injEq] at h
    simp [← h, Reading.pushAll]
  · split at h
    · simp at h
    · simp only [Option.some.injEq] at h
      simp [← h, Reading.push]
  · obtain ⟨o, -, rfl⟩ := Option.map_eq_some_iff.1 h
    simp [Reading.pushAll]
  · split at h
    · simp only [Option.some.injEq] at h
      simp [← h, Reading.push]
    · simp at h
  · simp at h

/-- What follows a literal is shorter than the text. -/
theorem literal?_rest_lt {s : List Char} {r : Reading} (h : literal? s = some r) : r.rest.length < s.length := by
  have h1 := literal?_whole h
  have h2 := List.length_pos_iff.2 (literal?_literal_ne_nil h)
  rw [← h1, Reading.whole, List.length_append]
  omega

end BracketSpacing
