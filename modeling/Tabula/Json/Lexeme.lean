import Tabula.Json.Basic

/-!
# JSON lexemes

The lexical units of a JSON text with blanks between them left out.

## Strings

A string is read as a list of units first: a character stands for itself, and an escape of four
hexadecimal digits stands for sixteen bits.  `joinUnits` then puts surrogate pairs together.
-/

namespace Tabula
namespace Json

inductive Lexeme where
  | beginArray
  | endArray
  | beginObject
  | endObject
  | comma
  | colon
  | null
  | boolean (b : Bool)
  | integer (n : Int)
  | decimal (written : List Char)
  | string (s : Option String)

def isBlank (c : Char) : Bool :=
  c == ' ' || c == '\n' || c == '\t' || c == '\r'

/-!
# Strings
-/

/-- A part of a string: a character, or the sixteen bits of an escape. -/
inductive TextUnit where
  | char (c : Char)
  | bits (n : Nat)

/-- The character that a one-letter escape stands for. -/
def escaped? (c : Char) : Option Char :=
  [('"', '"'), ('\\', '\\'), ('/', '/'), ('b', Char.ofNat 8), ('f', Char.ofNat 12), ('n', '\n'),
    ('r', '\r'), ('t', '\t')].lookup c

def hexDigit? (c : Char) : Option Nat :=
  if c.isDigit then some (c.toNat - '0'.toNat)
  else if 'a' <= c ∧ c <= 'f' then some (c.toNat - 'a'.toNat + 10)
  else if 'A' <= c ∧ c <= 'F' then some (c.toNat - 'A'.toNat + 10)
  else none

def hexValue? (a b c d : Char) : Option Nat := do
  let a <- hexDigit? a
  let b <- hexDigit? b
  let c <- hexDigit? c
  let d <- hexDigit? d
  return ((a * 16 + b) * 16 + c) * 16 + d

/-- The units of a string after its opening quote, and what follows its closing quote. -/
def scanString : List Char -> Option (List TextUnit × List Char)
  | [] => none
  | c :: rest =>
      if c = '"' then
        some ([], rest)
      else if c = '\\' then
        match rest with
        | 'u' :: d1 :: d2 :: d3 :: d4 :: after => do
            let n <- hexValue? d1 d2 d3 d4
            let (units, after) <- scanString after
            return (.bits n :: units, after)
        | e :: after => do
            let c <- escaped? e
            let (units, after) <- scanString after
            return (.char c :: units, after)
        | [] => none
      else if c.toNat < 0x20 then
        none
      else do
        let (units, after) <- scanString rest
        return (.char c :: units, after)

def isHighSurrogate (n : Nat) : Bool :=
  0xD800 <= n && n < 0xDC00

def isLowSurrogate (n : Nat) : Bool :=
  0xDC00 <= n && n < 0xE000

/-- The characters of a list of units; a surrogate without its other half has none. -/
def joinUnits : List TextUnit -> Option (List Char)
  | [] => some []
  | .char c :: rest => (joinUnits rest).map (c :: ·)
  | .bits n :: .bits k :: rest =>
      if isHighSurrogate n && isLowSurrogate k then
        (joinUnits rest).map (Char.ofNat (0x10000 + (n - 0xD800) * 0x400 + (k - 0xDC00)) :: ·)
      else if isHighSurrogate n || isLowSurrogate n then
        none
      else
        (joinUnits (.bits k :: rest)).map (Char.ofNat n :: ·)
  | .bits n :: rest =>
      if isHighSurrogate n || isLowSurrogate n then
        none
      else
        (joinUnits rest).map (Char.ofNat n :: ·)

/-!
# Numbers
-/

/-- One digit or more. -/
def scanDigits (cs : List Char) : Option (List Char × List Char) :=
  match cs.takeWhile Char.isDigit with
  | [] => none
  | digits => some (digits, cs.dropWhile Char.isDigit)

/-- A zero, or digits that do not start with one. -/
def scanWhole : List Char -> Option (List Char × List Char)
  | '0' :: rest => some (['0'], rest)
  | cs => scanDigits cs

/-- A point and digits, or nothing. -/
def scanFraction : List Char -> Option (List Char × List Char)
  | '.' :: rest => (scanDigits rest).map fun (digits, after) => ('.' :: digits, after)
  | cs => some ([], cs)

/-- An exponent mark, perhaps a sign, and digits, or nothing. -/
def scanExponent : List Char -> Option (List Char × List Char)
  | [] => some ([], [])
  | c :: rest =>
      if c = 'e' ∨ c = 'E' then
        match rest with
        | [] => none
        | s :: after =>
            if s = '+' ∨ s = '-' then
              (scanDigits after).map fun (digits, after) => (c :: s :: digits, after)
            else
              (scanDigits rest).map fun (digits, after) => (c :: digits, after)
      else
        some ([], c :: rest)

/-- The number at the start of a text whose sign has been read. -/
def scanNumber (negative : Bool) (cs : List Char) : Option (Lexeme × List Char) := do
  let (whole, rest) <- scanWhole cs
  let (fraction, rest) <- scanFraction rest
  let (exponent, rest) <- scanExponent rest
  let size := Text.digitsValue whole
  if fraction = [] ∧ exponent = [] ∧ !(negative && size == 0) then
    return (.integer (if negative then -(size : Int) else size), rest)
  else
    let written := whole ++ fraction ++ exponent
    return (.decimal (if negative then '-' :: written else written), rest)

/-!
# Texts
-/

/-- What follows a word at the start of a text. -/
def stripWord (word : String) (cs : List Char) : Option (List Char) :=
  if word.toList.isPrefixOf cs then some (cs.drop word.length) else none

/-- The lexeme at the start of a text that begins with `c`, which is no blank, and what follows. -/
def scanLexeme (c : Char) (rest : List Char) : Option (Lexeme × List Char) :=
  match c with
  | '[' => some (.beginArray, rest)
  | ']' => some (.endArray, rest)
  | '{' => some (.beginObject, rest)
  | '}' => some (.endObject, rest)
  | ',' => some (.comma, rest)
  | ':' => some (.colon, rest)
  | '"' => (scanString rest).map fun (units, after) =>
      (.string ((joinUnits units).map String.ofList), after)
  | 'n' => (stripWord "ull" rest).map fun after => (.null, after)
  | 't' => (stripWord "rue" rest).map fun after => (.boolean true, after)
  | 'f' => (stripWord "alse" rest).map fun after => (.boolean false, after)
  | '-' => scanNumber true rest
  | _ => scanNumber false (c :: rest)

/-!
# Progress
-/

theorem scanString_length {cs after : List Char} {units : List TextUnit}
    (h : scanString cs = some (units, after)) : after.length < cs.length := by
  fun_induction scanString cs generalizing units after with
  | case1 => cases h
  | case2 =>
      cases h
      exact Nat.lt_succ_self _
  | case3 d1 d2 d3 d4 rest _ ih =>
      simp only [Option.bind_eq_bind, Option.bind_eq_some_iff, Option.pure_def,
        Option.some.injEq, Prod.mk.injEq, Prod.exists] at h
      obtain ⟨n, _, units', after', found, _, rfl⟩ := h
      have := ih found
      simp only [List.length_cons]
      omega
  | case4 e rest _ _ ih =>
      simp only [Option.bind_eq_bind, Option.bind_eq_some_iff, Option.pure_def,
        Option.some.injEq, Prod.mk.injEq, Prod.exists] at h
      obtain ⟨c, _, units', after', found, _, rfl⟩ := h
      have := ih found
      simp only [List.length_cons]
      omega
  | case5 => cases h
  | case6 => cases h
  | case7 c rest _ _ _ ih =>
      simp only [Option.bind_eq_bind, Option.bind_eq_some_iff, Option.pure_def,
        Option.some.injEq, Prod.mk.injEq, Prod.exists] at h
      obtain ⟨units', after', found, _, rfl⟩ := h
      have := ih found
      simp only [List.length_cons]
      omega

theorem scanDigits_length {cs digits after : List Char} (h : scanDigits cs = some (digits, after)) :
    after.length < cs.length := by
  unfold scanDigits at h
  split at h
  · cases h
  · next nonempty =>
      cases h
      have whole := congrArg List.length (List.takeWhile_append_dropWhile (p := Char.isDigit) (l := cs))
      rw [List.length_append] at whole
      have := List.length_pos_iff.mpr nonempty
      omega

theorem scanWhole_length {cs whole after : List Char} (h : scanWhole cs = some (whole, after)) :
    after.length < cs.length := by
  unfold scanWhole at h
  split at h
  · cases h
    exact Nat.lt_succ_self _
  · exact scanDigits_length h

theorem scanFraction_length {cs fraction after : List Char}
    (h : scanFraction cs = some (fraction, after)) : after.length <= cs.length := by
  unfold scanFraction at h
  split at h
  · next rest =>
      obtain ⟨⟨digits, rest'⟩, found, same⟩ := Option.map_eq_some_iff.mp h
      cases same
      have := scanDigits_length found
      simp only [List.length_cons]
      omega
  · cases h
    exact Nat.le_refl _

theorem scanExponent_length {cs exponent after : List Char}
    (h : scanExponent cs = some (exponent, after)) : after.length <= cs.length := by
  unfold scanExponent at h
  split at h
  · cases h
    exact Nat.le_refl _
  · split at h
    · split at h
      · cases h
      · split at h <;>
          · obtain ⟨⟨digits, rest'⟩, found, same⟩ := Option.map_eq_some_iff.mp h
            cases same
            have := scanDigits_length found
            simp only [List.length_cons] at *
            omega
    · cases h
      exact Nat.le_refl _

theorem scanNumber_length {negative : Bool} {cs after : List Char} {lexeme : Lexeme}
    (h : scanNumber negative cs = some (lexeme, after)) : after.length < cs.length := by
  unfold scanNumber at h
  simp only [Option.bind_eq_bind, Option.bind_eq_some_iff, Prod.exists] at h
  obtain ⟨whole, rest1, found1, fraction, rest2, found2, exponent, rest3, found3, h⟩ := h
  have := scanWhole_length found1
  have := scanFraction_length found2
  have := scanExponent_length found3
  split at h <;>
    · simp only [Option.pure_def, Option.some.injEq, Prod.mk.injEq] at h
      obtain ⟨_, rfl⟩ := h
      omega

theorem stripWord_length {word : String} {cs after : List Char} (h : stripWord word cs = some after) :
    after.length <= cs.length := by
  unfold stripWord at h
  split at h
  · cases h
    simp
  · cases h

theorem scanLexeme_length {c : Char} {rest after : List Char} {lexeme : Lexeme}
    (h : scanLexeme c rest = some (lexeme, after)) : after.length < (c :: rest).length := by
  rw [List.length_cons, Nat.lt_succ_iff]
  unfold scanLexeme at h
  split at h
  case h_7 =>
    obtain ⟨⟨units, after'⟩, found, same⟩ := Option.map_eq_some_iff.mp h
    cases same
    exact Nat.le_of_lt (scanString_length found)
  case h_8 | h_9 | h_10 =>
    obtain ⟨after', found, same⟩ := Option.map_eq_some_iff.mp h
    cases same
    exact stripWord_length found
  case h_11 => exact Nat.le_of_lt (scanNumber_length h)
  case h_12 => exact Nat.le_of_lt_succ (scanNumber_length h)
  all_goals
    cases h
    exact Nat.le_refl _

/-!
# All lexemes
-/

def lexemes : List Char -> Option (List Lexeme)
  | [] => some []
  | c :: rest =>
      if isBlank c then
        lexemes rest
      else
        match _ : scanLexeme c rest with
        | some (lexeme, after) => (lexemes after).map (lexeme :: ·)
        | none => none
termination_by cs => cs.length
decreasing_by
  · exact Nat.lt_succ_self _
  · exact scanLexeme_length ‹_›

end Json
end Tabula
