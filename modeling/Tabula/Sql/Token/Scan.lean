import Tabula.Sql.Token
import Tabula.Text.Blank
import Tabula.Text.Quoted

/-!
# Tokens of a text

A text is taken apart into lexemes, the characters of one token each, with blanks and comments
between them.  A comment starts with two minus signs and ends with its line.

## Main statements

- `scanLexeme_append`: a lexeme and what follows it make up the text.
- `scanLexeme_length`: a lexeme has at least one character, so scanning ends.
-/

namespace Tabula
namespace Sql

/-- The characters of one token. -/
structure Lexeme where
  kind : TokenKind
  text : List Char

/-!
# Between lexemes
-/

/-- Pass over blanks and comments.  Within a comment everything up to a line's end is passed over. -/
def skip (inComment : Bool) (p : Position) : List Char -> Position × List Char
  | [] => (p, [])
  | c :: rest =>
      if inComment then
        skip (c != '\n') (p.after c) rest
      else if Text.isBlank c then
        skip false (p.after c) rest
      else if c = '-' ∧ rest.head? = some '-' then
        skip true (p.after c) rest
      else
        (p, c :: rest)

theorem skip_length (inComment : Bool) (p : Position) (cs : List Char) :
    (skip inComment p cs).2.length <= cs.length := by
  induction cs generalizing inComment p with
  | nil => simp [skip]
  | cons c rest ih =>
      unfold skip
      split
      · exact Nat.le_succ_of_le (ih _ _)
      · split
        · exact Nat.le_succ_of_le (ih _ _)
        · split
          · exact Nat.le_succ_of_le (ih _ _)
          · exact Nat.le_refl _

/-!
# Lexemes
-/

def isWordStart (c : Char) : Bool :=
  c.isAlpha || c == '_'

def isWordPart (c : Char) : Bool :=
  c.isAlphanum || c == '_'

/-- The kind of a word. -/
def TokenKind.ofWord (word : List Char) : TokenKind :=
  let s := String.ofList word
  (TokenKind.ofWord? s).getD (.name s)

/-- The symbol that a text starts with and the number of its characters, the longest first. -/
def symbol? : List Char -> Option (Symbol × Nat)
  | '<' :: '=' :: _ => some (.lessEqual, 2)
  | '<' :: '>' :: _ => some (.notEqual, 2)
  | '>' :: '=' :: _ => some (.greaterEqual, 2)
  | '!' :: '=' :: _ => some (.notEqual, 2)
  | '<' :: _ => some (.less, 1)
  | '>' :: _ => some (.greater, 1)
  | '=' :: _ => some (.equal, 1)
  | '*' :: _ => some (.star, 1)
  | '(' :: _ => some (.leftParen, 1)
  | ')' :: _ => some (.rightParen, 1)
  | ',' :: _ => some (.comma, 1)
  | ';' :: _ => some (.semicolon, 1)
  | '.' :: _ => some (.dot, 1)
  | _ => none

/-- The integer written by a sign and the digits after it. -/
def numberLexeme (negative : Bool) (digits : List Char) : Except SyntaxFault Lexeme :=
  let text := if negative then '-' :: digits else digits
  let size : Int := Text.digitsValue digits
  match Text.toWord (if negative then -size else size) with
  | some n => .ok ⟨.number n, text⟩
  | none => .error (.integerOutOfRange text)

/-- The lexeme at the start of a text that begins with `c`, and what follows it. -/
def scanLexeme (c : Char) (rest : List Char) : Except SyntaxFault (Lexeme × List Char) :=
  if c = Text.Quoted.quote then
    match Text.Quoted.span rest with
    | some (body, after) =>
        .ok (⟨.text (String.ofList (Text.Quoted.decode body)), c :: body ++ [c]⟩, after)
    | none => .error .unterminatedText
  else if c.isDigit then
    (numberLexeme false ((c :: rest).takeWhile Char.isDigit)).map fun lexeme =>
      (lexeme, (c :: rest).dropWhile Char.isDigit)
  else if c = '-' ∧ rest.head?.any Char.isDigit then
    (numberLexeme true (rest.takeWhile Char.isDigit)).map fun lexeme =>
      (lexeme, rest.dropWhile Char.isDigit)
  else if isWordStart c then
    let word := (c :: rest).takeWhile isWordPart
    .ok (⟨TokenKind.ofWord word, word⟩, (c :: rest).dropWhile isWordPart)
  else
    match symbol? (c :: rest) with
    | some (symbol, size) =>
        .ok (⟨.symbol symbol, (c :: rest).take size⟩, (c :: rest).drop size)
    | none => .error (.unexpectedCharacter c)

theorem isWordPart_of_isWordStart {c : Char} (h : isWordStart c = true) : isWordPart c = true := by
  simp only [isWordStart, isWordPart, Char.isAlphanum, Bool.or_eq_true] at *
  rcases h with h | h
  · exact Or.inl (Or.inl h)
  · exact Or.inr h

theorem symbol?_size {cs : List Char} {symbol : Symbol} {size : Nat}
    (h : symbol? cs = some (symbol, size)) : 0 < size := by
  unfold symbol? at h
  split at h <;> cases h <;> decide

theorem numberLexeme_text {negative : Bool} {digits : List Char} {lexeme : Lexeme}
    (h : numberLexeme negative digits = .ok lexeme) :
    lexeme.text = if negative then '-' :: digits else digits := by
  simp only [numberLexeme] at h
  split at h
  · cases h
    rfl
  · cases h

theorem exists_of_map_eq_ok {ε α β : Type} {f : α -> β} {result : Except ε α} {b : β}
    (h : result.map f = .ok b) : exists a, result = .ok a ∧ f a = b := by
  cases result with
  | error e => cases h
  | ok a => exact ⟨a, rfl, Except.ok.inj h⟩

/-- What a successful scan has read: a quoted text, an integer with or without a sign, a word or a
symbol. -/
theorem scanLexeme_cases {c : Char} {rest after : List Char} {lexeme : Lexeme}
    (h : scanLexeme c rest = .ok (lexeme, after)) :
    (c = Text.Quoted.quote ∧ exists body, Text.Quoted.span rest = some (body, after) ∧
      lexeme.kind = .text (String.ofList (Text.Quoted.decode body)) ∧
      lexeme.text = c :: body ++ [c]) ∨
    (c.isDigit = true ∧ numberLexeme false ((c :: rest).takeWhile Char.isDigit) = .ok lexeme ∧
      after = (c :: rest).dropWhile Char.isDigit) ∨
    (c = '-' ∧ rest.head?.any Char.isDigit = true ∧
      numberLexeme true (rest.takeWhile Char.isDigit) = .ok lexeme ∧
      after = rest.dropWhile Char.isDigit) ∨
    (isWordStart c = true ∧ lexeme.kind = TokenKind.ofWord lexeme.text ∧
      lexeme.text = (c :: rest).takeWhile isWordPart ∧
      after = (c :: rest).dropWhile isWordPart) ∨
    (exists symbol size, symbol? (c :: rest) = some (symbol, size) ∧
      lexeme.kind = .symbol symbol ∧ lexeme.text = (c :: rest).take size ∧
      after = (c :: rest).drop size) := by
  unfold scanLexeme at h
  split at h
  · next quoted =>
      split at h
      · next body tail found =>
          simp only [Except.ok.injEq, Prod.mk.injEq] at h
          obtain ⟨rfl, rfl⟩ := h
          exact Or.inl ⟨quoted, body, found, rfl, rfl⟩
      · cases h
  · split at h
    · next digit =>
        obtain ⟨number, read, same⟩ := exists_of_map_eq_ok h
        simp only [Prod.mk.injEq] at same
        obtain ⟨rfl, rfl⟩ := same
        exact Or.inr (Or.inl ⟨digit, read, rfl⟩)
    · split at h
      · next minus =>
          obtain ⟨number, read, same⟩ := exists_of_map_eq_ok h
          simp only [Prod.mk.injEq] at same
          obtain ⟨rfl, rfl⟩ := same
          exact Or.inr (Or.inr (Or.inl ⟨minus.1, minus.2, read, rfl⟩))
      · split at h
        · next start =>
            simp only [Except.ok.injEq, Prod.mk.injEq] at h
            obtain ⟨rfl, rfl⟩ := h
            -- With the projections left in place the last step would evaluate the kind of the word.
            dsimp only
            exact Or.inr (Or.inr (Or.inr (Or.inl ⟨start, rfl, rfl, rfl⟩)))
        · split at h
          · next symbol size found =>
              simp only [Except.ok.injEq, Prod.mk.injEq] at h
              obtain ⟨rfl, rfl⟩ := h
              exact Or.inr (Or.inr (Or.inr (Or.inr ⟨symbol, size, found, rfl, rfl, rfl⟩)))
          · cases h

theorem scanLexeme_append {c : Char} {rest after : List Char} {lexeme : Lexeme}
    (h : scanLexeme c rest = .ok (lexeme, after)) : c :: rest = lexeme.text ++ after := by
  rcases scanLexeme_cases h with ⟨quoted, body, found, _, text⟩ | ⟨_, number, rfl⟩ |
    ⟨minus, _, number, rfl⟩ | ⟨_, _, text, rfl⟩ | ⟨symbol, size, _, _, text, rfl⟩
  · rw [text, Text.Quoted.span_eq found, quoted]
    simp
  · rw [numberLexeme_text number]
    exact List.takeWhile_append_dropWhile.symm
  · rw [numberLexeme_text number, if_pos rfl, List.cons_append, List.takeWhile_append_dropWhile,
      minus]
  · rw [text, List.takeWhile_append_dropWhile]
  · rw [text, List.take_append_drop]

theorem scanLexeme_text_ne_nil {c : Char} {rest after : List Char} {lexeme : Lexeme}
    (h : scanLexeme c rest = .ok (lexeme, after)) : lexeme.text ≠ [] := by
  rcases scanLexeme_cases h with ⟨_, body, _, _, text⟩ | ⟨digit, number, _⟩ | ⟨_, _, number, _⟩ |
    ⟨start, _, text, _⟩ | ⟨symbol, size, found, _, text, _⟩
  · simp [text]
  · simp [numberLexeme_text number, digit]
  · simp [numberLexeme_text number]
  · simp [text, isWordPart_of_isWordStart start]
  · have := symbol?_size found
    cases size with
    | zero => cases this
    | succ size => simp [text]

theorem scanLexeme_length {c : Char} {rest after : List Char} {lexeme : Lexeme}
    (h : scanLexeme c rest = .ok (lexeme, after)) : after.length < (c :: rest).length := by
  rw [scanLexeme_append h, List.length_append]
  have := List.length_pos_iff.mpr (scanLexeme_text_ne_nil h)
  omega

/-!
# Texts
-/

theorem scan_shorter {p q : Position} {cs rest after : List Char} {c : Char} {lexeme : Lexeme}
    (skipped : skip false p cs = (q, c :: rest)) (scanned : scanLexeme c rest = .ok (lexeme, after)) :
    after.length < cs.length := by
  have passed := skip_length false p cs
  rw [skipped] at passed
  exact Nat.lt_of_lt_of_le (scanLexeme_length scanned) passed

/-- The tokens of a text that starts at `p`; the last one marks the end. -/
def scan (p : Position) (cs : List Char) : Except SyntaxError (List Token) :=
  match _ : skip false p cs with
  | (q, []) => .ok [⟨.endOfInput, q⟩]
  | (q, c :: rest) =>
      match _ : scanLexeme c rest with
      | .error fault => .error ⟨fault, q⟩
      | .ok (lexeme, after) =>
          (scan (q.advance lexeme.text) after).map fun tokens => ⟨lexeme.kind, q⟩ :: tokens
termination_by cs.length
decreasing_by exact scan_shorter ‹_› ‹_›

def tokenize (sql : String) : Except SyntaxError (List Token) :=
  scan Position.start sql.toList

end Sql
end Tabula
