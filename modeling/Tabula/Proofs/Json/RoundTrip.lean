import Mathlib.Data.List.Basic
import Tabula.Json.Print
import Tabula.Json.Read

/-!
# What is printed reads back

A printed tree has the lexemes of the tree, whatever the level it is printed at, and reading these
lexemes puts the tree on top of what was open before.  Numbers that are kept as they are written are
left out: they may be no numbers at all.

## Main statements

- `read_pretty`: a tree of texts, integers, truth values and `null` is read back from its print.
-/

namespace Tabula
namespace Json

/-!
# Strings
-/

theorem joinUnits_bits {n : Nat} (h : n < 0x20) (units : List TextUnit) :
    joinUnits (.bits n :: units) = (joinUnits units).map (Char.ofNat n :: ·) := by
  have hhigh : isHighSurrogate n = false := by
    unfold isHighSurrogate
    rw [Bool.and_eq_false_iff]
    exact Or.inl (decide_eq_false (by omega))
  have hlow : isLowSurrogate n = false := by
    unfold isLowSurrogate
    rw [Bool.and_eq_false_iff]
    exact Or.inl (decide_eq_false (by omega))
  cases units with
  | nil => simp [joinUnits, hhigh, hlow]
  | cons unit rest =>
      cases unit with
      | char c => simp [joinUnits, hhigh, hlow]
      | bits k => simp [joinUnits, hhigh, hlow]

theorem hexValue?_hexDigit {n : Nat} (h : n < 0x20) :
    hexValue? '0' '0' (hexDigit (n / 16)) (hexDigit (n % 16)) = some n := by
  have hall : forall n, n < 0x20 ->
      hexValue? '0' '0' (hexDigit (n / 16)) (hexDigit (n % 16)) = some n := by
    decide
  exact hall n h

theorem scanString_quote (rest : List Char) : scanString ('"' :: rest) = some ([], rest) := by
  unfold scanString
  rw [if_pos rfl]

/-- A unit in front of what a string goes on with. -/
def withUnit (unit : TextUnit) (scanned : Option (List TextUnit × List Char)) :
    Option (List TextUnit × List Char) :=
  scanned.map fun (units, after) => (unit :: units, after)

theorem scanString_plain {c : Char} (hquote : c ≠ '"') (hbackslash : c ≠ '\\')
    (hcontrol : ¬ c.toNat < 0x20) (rest : List Char) :
    scanString (c :: rest) = withUnit (.char c) (scanString rest) := by
  rw [scanString.eq_def]
  simp only [if_neg hquote, if_neg hbackslash, if_neg hcontrol]
  cases scanString rest with
  | none => rfl
  | some result => rfl

theorem scanString_escaped {e c : Char} (he : (e == 'u') = false) (hc : escaped? e = some c)
    (rest : List Char) :
    scanString ('\\' :: e :: rest) = withUnit (.char c) (scanString rest) := by
  rw [scanString, if_neg (by decide), if_pos rfl, hc]
  · cases scanString rest with
    | none => rfl
    | some result => rfl
  · intro d1 d2 d3 d4 after hu
    exact absurd hu (ne_of_beq_false he)

theorem scanString_bits {d1 d2 d3 d4 : Char} {n : Nat} (hn : hexValue? d1 d2 d3 d4 = some n)
    (rest : List Char) :
    scanString ('\\' :: 'u' :: d1 :: d2 :: d3 :: d4 :: rest) =
      withUnit (.bits n) (scanString rest) := by
  rw [scanString, if_neg (by decide), if_pos rfl]
  simp only [hn]
  cases scanString rest with
  | none => rfl
  | some result => rfl

/-- A printed character is read as one unit that stands for it. -/
theorem scanString_escape (c : Char) (rest : List Char) :
    exists unit, scanString (escape c ++ rest) = withUnit unit (scanString rest) ∧
      forall units, joinUnits (unit :: units) = (joinUnits units).map (c :: ·) := by
  have hnamed : forall e, (e == 'u') = false -> escaped? e = some c -> escape c = ['\\', e] ->
      exists unit, scanString (escape c ++ rest) = withUnit unit (scanString rest) ∧
        forall units, joinUnits (unit :: units) = (joinUnits units).map (c :: ·) := by
    intro e he hc hescape
    rw [hescape]
    exact ⟨.char c, scanString_escaped he hc rest, fun _ => rfl⟩
  have hcode : forall n, c.toNat = n -> c = Char.ofNat n := by
    intro n hn
    rw [← hn, Char.ofNat_toNat]
  by_cases hquote : c = '"'
  · exact hnamed '"' rfl (by rw [hquote]; rfl) (by rw [hquote]; rfl)
  by_cases hbackslash : c = '\\'
  · exact hnamed '\\' rfl (by rw [hbackslash]; rfl) (by rw [hbackslash]; rfl)
  by_cases hnewline : c = '\n'
  · exact hnamed 'n' rfl (by rw [hnewline]; rfl) (by rw [hnewline]; rfl)
  by_cases hreturn : c = '\r'
  · exact hnamed 'r' rfl (by rw [hreturn]; rfl) (by rw [hreturn]; rfl)
  by_cases htab : c = '\t'
  · exact hnamed 't' rfl (by rw [htab]; rfl) (by rw [htab]; rfl)
  by_cases hbackspace : c.toNat = 8
  · exact hnamed 'b' rfl (by rw [hcode 8 hbackspace]; rfl) (by rw [hcode 8 hbackspace]; rfl)
  by_cases hfeed : c.toNat = 12
  · exact hnamed 'f' rfl (by rw [hcode 12 hfeed]; rfl) (by rw [hcode 12 hfeed]; rfl)
  unfold escape
  rw [if_neg hquote, if_neg hbackslash, if_neg hnewline, if_neg hreturn, if_neg htab,
    if_neg hbackspace, if_neg hfeed]
  by_cases hcontrol : c.toNat < 0x20
  · rw [if_pos hcontrol]
    refine ⟨.bits c.toNat, scanString_bits (hexValue?_hexDigit hcontrol) rest, ?_⟩
    intro units
    rw [joinUnits_bits hcontrol, Char.ofNat_toNat]
  · rw [if_neg hcontrol]
    exact ⟨.char c, scanString_plain hquote hbackslash hcontrol rest, fun _ => rfl⟩

theorem scanString_print (cs rest : List Char) :
    exists units, scanString (cs.flatMap escape ++ '"' :: rest) = some (units, rest) ∧
      joinUnits units = some cs := by
  induction cs with
  | nil => exact ⟨[], scanString_quote rest, rfl⟩
  | cons c cs ih =>
      rcases ih with ⟨units, hscan, hjoin⟩
      rcases scanString_escape c (cs.flatMap escape ++ '"' :: rest) with ⟨unit, hunit, hunits⟩
      refine ⟨unit :: units, ?_, ?_⟩
      · rw [List.flatMap_cons, List.append_assoc, hunit, hscan]
        rfl
      · rw [hunits, hjoin]
        rfl

theorem scanLexeme_string {body rest after : List Char} {units : List TextUnit}
    (h : scanString (body ++ rest) = some (units, after)) :
    scanLexeme '"' (body ++ rest) = some (.string ((joinUnits units).map String.ofList), after) := by
  show (scanString (body ++ rest)).map _ = _
  rw [h]
  rfl

/-- A printed string is one lexeme. -/
theorem scanLexeme_quoted (s : Option String) (rest : List Char) :
    exists body, quoted s = '"' :: body ∧ scanLexeme '"' (body ++ rest) = some (.string s, rest) := by
  cases s with
  | none =>
      have hscan : scanString ("\\ud800\"".toList ++ rest) = some ([.bits 0xD800], rest) := by
        have hhalf : hexValue? 'd' '8' '0' '0' = some 0xD800 := rfl
        show scanString ('\\' :: 'u' :: 'd' :: '8' :: '0' :: '0' :: '"' :: rest) = _
        rw [scanString_bits hhalf, scanString_quote]
        rfl
      exact ⟨"\\ud800\"".toList, rfl, scanLexeme_string hscan⟩
  | some s =>
      refine ⟨s.toList.flatMap escape ++ ['"'], rfl, ?_⟩
      rcases scanString_print s.toList rest with ⟨units, hscan, hjoin⟩
      have hbody : s.toList.flatMap escape ++ ['"'] ++ rest =
          s.toList.flatMap escape ++ '"' :: rest := by
        rw [List.append_assoc, List.singleton_append]
      rw [← hbody] at hscan
      rw [scanLexeme_string hscan, hjoin, Option.map_some, String.ofList_toList]

/-!
# Numbers
-/

/-- No character follows that could belong to a number before it. -/
def Ends (rest : List Char) : Prop :=
  forall c, rest.head? = some c -> c.isDigit = false ∧ c ≠ '.' ∧ c ≠ 'e' ∧ c ≠ 'E'

theorem head_toDigits_ne_zero {n : Nat} (h : 0 < n) : (Nat.toDigits 10 n).head? ≠ some '0' := by
  induction n using Nat.strongRecOn with
  | ind n ih =>
      rw [Nat.toDigits_eq_if (by decide)]
      split
      · next hsmall =>
          have hall : forall n, n < 10 -> 0 < n -> [Nat.digitChar n].head? ≠ some '0' := by decide
          exact hall n hsmall h
      · next hlarge =>
          have hquotient : 0 < n / 10 := Nat.div_pos (Nat.le_of_not_lt hlarge) (by decide)
          have hhead := ih (n / 10) (Nat.div_lt_self h (by decide)) hquotient
          cases hdigits : Nat.toDigits 10 (n / 10) with
          | nil => exact absurd hdigits Nat.toDigits_ne_nil
          | cons c rest =>
              rw [hdigits] at hhead
              exact hhead

theorem scanDigits_append {digits rest : List Char}
    (hdigits : forall c, c ∈ digits -> c.isDigit = true) (hne : digits ≠ []) (hrest : Ends rest) :
    scanDigits (digits ++ rest) = some (digits, rest) := by
  have hrun : rest.takeWhile Char.isDigit = [] ∧ rest.dropWhile Char.isDigit = rest := by
    cases rest with
    | nil => exact ⟨rfl, rfl⟩
    | cons c others =>
        have hc : ¬ c.isDigit = true := Bool.eq_false_iff.mp (hrest c rfl).1
        exact ⟨List.takeWhile_cons_of_neg hc, List.dropWhile_cons_of_neg hc⟩
  unfold scanDigits
  rw [List.takeWhile_append_of_pos hdigits, List.dropWhile_append_of_pos hdigits, hrun.1, hrun.2,
    List.append_nil]
  cases digits with
  | nil => exact absurd rfl hne
  | cons c others => rfl

theorem isDigit_of_mem_toDigits {n : Nat} {c : Char} (h : c ∈ Nat.toDigits 10 n) :
    c.isDigit = true :=
  Nat.isDigit_of_mem_toDigits (by decide) (by decide) h

theorem scanWhole_toDigits (n : Nat) {rest : List Char} (hrest : Ends rest) :
    scanWhole (Nat.toDigits 10 n ++ rest) = some (Nat.toDigits 10 n, rest) := by
  by_cases hzero : n = 0
  · rw [hzero, Nat.toDigits_zero]
    rfl
  · have hhead := head_toDigits_ne_zero (Nat.pos_of_ne_zero hzero)
    have hdigits : forall c, c ∈ Nat.toDigits 10 n -> c.isDigit = true :=
      fun c => isDigit_of_mem_toDigits
    have hscan := scanDigits_append hdigits Nat.toDigits_ne_nil hrest
    unfold scanWhole
    split
    · next hcons =>
        cases hdigits : Nat.toDigits 10 n with
        | nil => exact absurd hdigits Nat.toDigits_ne_nil
        | cons c others =>
            rw [hdigits] at hcons hhead
            exact absurd (congrArg some (List.cons.inj hcons).1) hhead
    · exact hscan

theorem scanNumber_toDigits {negative : Bool} {n : Nat} (h : (negative && n == 0) = false)
    {rest : List Char} (hrest : Ends rest) :
    scanNumber negative (Nat.toDigits 10 n ++ rest) =
      some (.integer (if negative then -(n : Int) else n), rest) := by
  have hfraction : scanFraction rest = some ([], rest) := by
    unfold scanFraction
    split
    · exact absurd rfl (hrest _ rfl).2.1
    · rfl
  have hexponent : scanExponent rest = some ([], rest) := by
    unfold scanExponent
    split
    · rfl
    · next c others =>
        have hc := (hrest c rfl).2.2
        rw [if_neg (not_or.mpr hc)]
  unfold scanNumber
  simp only [scanWhole_toDigits n hrest, hfraction, hexponent, Option.bind_eq_bind, Option.bind_some,
    Text.digitsValue_toDigits, h]
  rfl

theorem scanLexeme_digit {c : Char} (h : c.isDigit = true) (rest : List Char) :
    scanLexeme c rest = scanNumber false (c :: rest) := by
  unfold scanLexeme
  split <;> first | rfl | cases h

theorem isBlank_of_isDigit {c : Char} (h : c.isDigit = true) : isBlank c = false := by
  rw [Bool.eq_false_iff]
  intro hblank
  unfold isBlank at hblank
  simp only [Bool.or_eq_true, beq_iff_eq] at hblank
  rcases hblank with ((rfl | rfl) | rfl) | rfl <;> cases h

theorem scanLexeme_decimal (n : Int) {rest : List Char} (hrest : Ends rest) :
    exists c body, Text.decimal n = c :: body ∧ isBlank c = false ∧
      scanLexeme c (body ++ rest) = some (.integer n, rest) := by
  unfold Text.decimal
  by_cases hsign : n < 0
  · have hsize : (true && n.natAbs == 0) = false := by
      rw [Bool.true_and, beq_eq_false_iff_ne]
      omega
    have hscan := scanNumber_toDigits hsize hrest
    have hvalue : (if true then -(n.natAbs : Int) else n.natAbs) = n := by
      rw [if_pos rfl]
      omega
    rw [hvalue] at hscan
    rw [if_pos hsign]
    exact ⟨'-', _, rfl, rfl, hscan⟩
  · have hscan := scanNumber_toDigits (Bool.false_and (n.natAbs == 0)) hrest
    have hvalue : (if false then -(n.natAbs : Int) else n.natAbs) = n := by
      rw [if_neg Bool.false_ne_true]
      omega
    rw [hvalue] at hscan
    rw [if_neg hsign]
    cases hdigits : Nat.toDigits 10 n.natAbs with
    | nil => exact absurd hdigits Nat.toDigits_ne_nil
    | cons c body =>
        have hc : c.isDigit = true := isDigit_of_mem_toDigits (hdigits ▸ List.mem_cons_self)
        refine ⟨c, body, rfl, isBlank_of_isDigit hc, ?_⟩
        rw [scanLexeme_digit hc, ← List.cons_append, ← hdigits]
        exact hscan

/-!
# Lexemes of a print
-/

theorem lexemes_blank {c : Char} (h : isBlank c = true) (rest : List Char) :
    lexemes (c :: rest) = lexemes rest := by
  rw [lexemes, if_pos h]

theorem lexemes_step {c : Char} {rest after : List Char} {lexeme : Lexeme}
    (hblank : isBlank c = false) (h : scanLexeme c rest = some (lexeme, after)) :
    lexemes (c :: rest) = (lexemes after).map (lexeme :: ·) := by
  rw [lexemes, if_neg (Bool.eq_false_iff.mp hblank)]
  split
  · next hother =>
      rw [h] at hother
      cases hother
      rfl
  · next hother =>
      rw [h] at hother
      cases hother

/-- In front of this rest a text has these lexemes. -/
def Yields (text : List Char) (own : List Lexeme) (rest : List Char) : Prop :=
  lexemes (text ++ rest) = (lexemes rest).map (own ++ ·)

theorem yields_nil (rest : List Char) : Yields [] [] rest := by
  show lexemes rest = (lexemes rest).map id
  rw [Option.map_id]
  rfl

theorem Yields.append {text text' rest : List Char} {own own' : List Lexeme}
    (h : Yields text own (text' ++ rest)) (h' : Yields text' own' rest) :
    Yields (text ++ text') (own ++ own') rest := by
  unfold Yields at *
  rw [List.append_assoc, h, h', Option.map_map]
  congr 1
  funext others
  exact (List.append_assoc own own' others).symm

theorem yields_of_scanLexeme {c : Char} {body rest : List Char} {lexeme : Lexeme}
    (hblank : isBlank c = false) (h : scanLexeme c (body ++ rest) = some (lexeme, rest)) :
    Yields (c :: body) [lexeme] rest :=
  lexemes_step hblank h

theorem yields_mark {c : Char} {lexeme : Lexeme} {rest : List Char} (hblank : isBlank c = false)
    (h : scanLexeme c rest = some (lexeme, rest)) : Yields [c] [lexeme] rest :=
  yields_of_scanLexeme hblank h

theorem yields_newline (level : Nat) (rest : List Char) : Yields (newline level) [] rest := by
  have hspaces : forall n, lexemes (List.replicate n ' ' ++ rest) = lexemes rest := by
    intro n
    induction n with
    | zero => rfl
    | succ n ih =>
        rw [List.replicate_succ, List.cons_append, lexemes_blank rfl, ih]
  show lexemes ('\n' :: (List.replicate (2 * level) ' ' ++ rest)) = (lexemes rest).map id
  rw [lexemes_blank rfl, hspaces, Option.map_id]
  rfl

theorem yields_quoted (s : Option String) (rest : List Char) :
    Yields (quoted s) [.string s] rest := by
  rcases scanLexeme_quoted s rest with ⟨body, hquoted, hscan⟩
  rw [hquoted]
  exact yields_of_scanLexeme rfl hscan

/-!
# Lexemes of a tree
-/

mutual

/-- The lexemes of a tree, in the order of its text. -/
def lexemesOf : Json -> List Lexeme
  | .null => [.null]
  | .boolean b => [.boolean b]
  | .integer n => [.integer n]
  | .decimal written => [.decimal written]
  | .string s => [.string s]
  | .array [] => [.beginArray, .endArray]
  | .array (j :: rest) => .beginArray :: lexemesOf j ++ lexemesOfItems rest ++ [.endArray]
  | .object [] => [.beginObject, .endObject]
  | .object ((name, j) :: rest) =>
      [.beginObject, .string name, .colon] ++ lexemesOf j ++ lexemesOfMembers rest ++ [.endObject]

/-- The lexemes of the items of an array behind the first. -/
def lexemesOfItems : List Json -> List Lexeme
  | [] => []
  | j :: rest => .comma :: lexemesOf j ++ lexemesOfItems rest

/-- The lexemes of the members of an object behind the first. -/
def lexemesOfMembers : List (Option String × Json) -> List Lexeme
  | [] => []
  | (name, j) :: rest => [.comma, .string name, .colon] ++ lexemesOf j ++ lexemesOfMembers rest

end

/-- A tree without numbers that are kept as they are written. -/
inductive Whole : Json -> Prop where
  | null : Whole .null
  | boolean (b : Bool) : Whole (.boolean b)
  | integer (n : Int) : Whole (.integer n)
  | string (s : Option String) : Whole (.string s)
  | array {items : List Json} (h : forall j, j ∈ items -> Whole j) : Whole (.array items)
  | object {members : List (Option String × Json)} (h : forall member, member ∈ members ->
      Whole member.2) : Whole (.object members)

/-- The print of a tree has the lexemes of the tree. -/
def Prints (j : Json) : Prop :=
  forall level rest, Ends rest -> Yields (print level j) (lexemesOf j) rest

theorem ends_cons {c : Char} (h : c = ',' ∨ c = '\n') (rest : List Char) : Ends (c :: rest) := by
  intro d hd
  cases hd
  rcases h with rfl | rfl
  · decide
  · decide

/-- A mark and a new line behind it. -/
theorem yields_line {c : Char} {lexeme : Lexeme} (hblank : isBlank c = false)
    (h : forall rest, scanLexeme c rest = some (lexeme, rest)) (level : Nat) (rest : List Char) :
    Yields (c :: newline level) [lexeme] rest :=
  (yields_mark hblank (h _)).append (yields_newline level rest)

theorem yields_items {items : List Json} (h : forall j, j ∈ items -> j.Prints) (level : Nat)
    {rest : List Char} (hrest : Ends rest) :
    Yields (printItems level items) (lexemesOfItems items) rest ∧
      Ends (printItems level items ++ rest) := by
  induction items with
  | nil => exact ⟨yields_nil rest, hrest⟩
  | cons j others ih =>
      rcases List.forall_mem_cons.mp h with ⟨hj, hothers⟩
      rcases ih hothers with ⟨hyields, hends⟩
      have hcomma : forall rest, Yields (',' :: newline level) [.comma] rest :=
        yields_line rfl (fun _ => rfl) level
      exact ⟨((hcomma _).append (hj level _ hends)).append hyields, ends_cons (Or.inl rfl) _⟩

theorem yields_colon (rest : List Char) : Yields [':', ' '] [.colon] rest := by
  show lexemes (':' :: ' ' :: rest) = _
  rw [lexemes_step rfl rfl, lexemes_blank rfl]
  rfl

/-- A name, a colon and the member's value. -/
theorem yields_member {j : Json} (h : j.Prints) (name : Option String) (level : Nat)
    {rest : List Char} (hrest : Ends rest) :
    Yields (quoted name ++ [':', ' '] ++ print level j) ([.string name, .colon] ++ lexemesOf j) rest :=
  ((yields_quoted name _).append (yields_colon _)).append (h level rest hrest)

theorem yields_members {members : List (Option String × Json)}
    (h : forall member, member ∈ members -> member.2.Prints) (level : Nat) {rest : List Char}
    (hrest : Ends rest) :
    Yields (printMembers level members) (lexemesOfMembers members) rest ∧
      Ends (printMembers level members ++ rest) := by
  induction members with
  | nil => exact ⟨yields_nil rest, hrest⟩
  | cons member others ih =>
      rcases member with ⟨name, j⟩
      rcases List.forall_mem_cons.mp h with ⟨hj, hothers⟩
      rcases ih hothers with ⟨hyields, hends⟩
      have hcomma : forall rest, Yields (',' :: newline level) [.comma] rest :=
        yields_line rfl (fun _ => rfl) level
      have hall := ((hcomma _).append (yields_member hj name level hends)).append hyields
      refine ⟨?_, ends_cons (Or.inl rfl) _⟩
      unfold printMembers
      simp only [List.append_assoc] at hall ⊢
      exact hall

theorem prints_array {items : List Json} (h : forall j, j ∈ items -> j.Prints) :
    (Json.array items).Prints := by
  intro level rest hrest
  have hclose : Yields [']'] [.endArray] rest := yields_mark rfl rfl
  cases items with
  | nil => exact (yields_mark rfl rfl).append hclose
  | cons j others =>
      rcases List.forall_mem_cons.mp h with ⟨hj, hothers⟩
      have hopen : forall rest, Yields ('[' :: newline (level + 1)) [.beginArray] rest :=
        yields_line rfl (fun _ => rfl) (level + 1)
      have hlast : Yields (newline level ++ [']']) [.endArray] rest :=
        (yields_newline level _).append hclose
      have hline : Ends (newline level ++ [']'] ++ rest) := ends_cons (Or.inr rfl) _
      rcases yields_items hothers (level + 1) hline with ⟨hitems, hends⟩
      have hall := (((hopen _).append (hj (level + 1) _ hends)).append hitems).append hlast
      rw [print, lexemesOf]
      simp only [List.append_assoc] at hall ⊢
      exact hall

theorem prints_object {members : List (Option String × Json)}
    (h : forall member, member ∈ members -> member.2.Prints) : (Json.object members).Prints := by
  intro level rest hrest
  have hclose : Yields ['}'] [.endObject] rest := yields_mark rfl rfl
  cases members with
  | nil => exact (yields_mark rfl rfl).append hclose
  | cons member others =>
      rcases member with ⟨name, j⟩
      rcases List.forall_mem_cons.mp h with ⟨hj, hothers⟩
      have hopen : forall rest, Yields ('{' :: newline (level + 1)) [.beginObject] rest :=
        yields_line rfl (fun _ => rfl) (level + 1)
      have hlast : Yields (newline level ++ ['}']) [.endObject] rest :=
        (yields_newline level _).append hclose
      have hline : Ends (newline level ++ ['}'] ++ rest) := ends_cons (Or.inr rfl) _
      rcases yields_members hothers (level + 1) hline with ⟨hmembers, hends⟩
      have hall := (((hopen _).append (yields_member hj name (level + 1) hends)).append
        hmembers).append hlast
      rw [print, lexemesOf]
      simp only [List.append_assoc] at hall ⊢
      exact hall

theorem prints_of_whole {j : Json} (h : j.Whole) : j.Prints := by
  induction h with
  | null =>
      intro level rest hrest
      exact yields_of_scanLexeme rfl rfl
  | boolean b =>
      intro level rest hrest
      cases b with
      | true => exact yields_of_scanLexeme rfl rfl
      | false => exact yields_of_scanLexeme rfl rfl
  | integer n =>
      intro level rest hrest
      rcases scanLexeme_decimal n hrest with ⟨c, body, htext, hblank, hscan⟩
      unfold print
      rw [htext]
      exact yields_of_scanLexeme hblank hscan
  | string s =>
      intro level rest hrest
      exact yields_quoted s rest
  | array _ ih => exact prints_array ih
  | object _ ih => exact prints_object ih

/-!
# Reading lexemes
-/

namespace Reading

/-- Where a value must begin, the lexemes of the tree are read as the tree. -/
def Reads (j : Json) : Prop :=
  forall (stack : List Frame) (more : List Lexeme),
    (lexemesOf j ++ more).foldlM step (value stack) = more.foldlM step (complete j stack)

/-- No tree begins with the end of an array, so where one may stand the first item is read as a value
is. -/
theorem firstItem_eq_value (j : Json) (stack : List Frame) (more : List Lexeme) :
    (lexemesOf j ++ more).foldlM step (firstItem stack) =
      (lexemesOf j ++ more).foldlM step (value (.array [] :: stack)) := by
  cases j with
  | array items => cases items <;> rfl
  | object members => cases members <;> rfl
  | _ => rfl

theorem reads_items {items : List Json} (h : forall j, j ∈ items -> Reads j) (j : Json)
    (before : List Json) (stack : List Frame) (more : List Lexeme) :
    (lexemesOfItems items ++ .endArray :: more).foldlM step (complete j (.array before :: stack)) =
      more.foldlM step (complete (.array ((j :: before).reverse ++ items)) stack) := by
  induction items generalizing j before with
  | nil =>
      rw [List.append_nil]
      rfl
  | cons next others ih =>
      rcases List.forall_mem_cons.mp h with ⟨hnext, hothers⟩
      have hrest := ih hothers next (j :: before)
      show (lexemesOf next ++ lexemesOfItems others ++ .endArray :: more).foldlM step
        (value (.array (j :: before) :: stack)) = _
      rw [List.append_assoc, hnext, hrest, List.reverse_cons, List.append_assoc]
      rfl

theorem reads_members {members : List (Option String × Json)}
    (h : forall member, member ∈ members -> Reads member.2) (j : Json) (name : Option String)
    (before : List (Option String × Json)) (stack : List Frame) (more : List Lexeme) :
    (lexemesOfMembers members ++ .endObject :: more).foldlM step
        (complete j (.object before name :: stack)) =
      more.foldlM step (complete (.object (((name, j) :: before).reverse ++ members)) stack) := by
  induction members generalizing j name before with
  | nil =>
      rw [List.append_nil]
      rfl
  | cons member others ih =>
      rcases member with ⟨next, inner⟩
      rcases List.forall_mem_cons.mp h with ⟨hnext, hothers⟩
      have hrest := ih hothers inner next ((name, j) :: before)
      show (lexemesOf inner ++ lexemesOfMembers others ++ .endObject :: more).foldlM step
        (value (.object ((name, j) :: before) next :: stack)) = _
      rw [List.append_assoc, hnext, hrest, List.reverse_cons, List.append_assoc]
      rfl

theorem reads_of_whole {j : Json} (h : j.Whole) : Reads j := by
  induction h with
  | @array items _ ih =>
      intro stack more
      cases items with
      | nil => rfl
      | cons j others =>
          rcases List.forall_mem_cons.mp ih with ⟨hj, hothers⟩
          have hrest := reads_items hothers j [] stack more
          show (lexemesOf j ++ lexemesOfItems others ++ [Lexeme.endArray] ++ more).foldlM step
            (firstItem stack) = _
          rw [List.append_assoc, List.append_assoc, firstItem_eq_value, hj]
          exact hrest
  | @object members _ ih =>
      intro stack more
      cases members with
      | nil => rfl
      | cons member others =>
          rcases member with ⟨name, j⟩
          rcases List.forall_mem_cons.mp ih with ⟨hj, hothers⟩
          have hrest := reads_members hothers j name [] stack more
          show (lexemesOf j ++ lexemesOfMembers others ++ [Lexeme.endObject] ++ more).foldlM step
            (value (.object [] name :: stack)) = _
          rw [List.append_assoc, List.append_assoc, hj]
          exact hrest
  | _ =>
      intro stack more
      rfl

end Reading

/-- A tree whose numbers are integers is read back from its print. -/
theorem read_pretty {j : Json} (h : j.Whole) : read j.pretty = some j := by
  have hend : lexemes [] = some [] := by rw [lexemes]
  have hnothing : Ends [] := by
    intro c hc
    cases hc
  have hlexemes : lexemes (print 0 j) = some (lexemesOf j) := by
    have hprint : lexemes (print 0 j ++ []) = (lexemes []).map (lexemesOf j ++ ·) :=
      prints_of_whole h 0 [] hnothing
    rw [List.append_nil, hend, Option.map_some, List.append_nil] at hprint
    exact hprint
  have hreading : (lexemesOf j).foldlM Reading.step (.value []) = some (.complete j []) := by
    have hread := Reading.reads_of_whole h [] []
    rw [List.append_nil] at hread
    exact hread
  unfold read pretty
  rw [String.toList_ofList, hlexemes]
  show ((lexemesOf j).foldlM Reading.step (.value []) >>= Reading.result?) = some j
  rw [hreading]
  rfl

/-!
# Trees of records
-/

theorem whole_text (s : String) : (text s).Whole :=
  .string (some s)

theorem whole_natural (n : Nat) : (natural n).Whole :=
  .integer n

theorem whole_record {members : List (String × Json)}
    (h : forall member, member ∈ members -> member.2.Whole) : (record members).Whole := by
  apply Whole.object
  intro member hmember
  rcases List.mem_map.mp hmember with ⟨named, hnamed, rfl⟩
  exact h named hnamed

theorem whole_map {α : Type} {write : α -> Json} (h : forall a, (write a).Whole) (items : List α) :
    (Json.array (items.map write)).Whole := by
  apply Whole.array
  intro j hj
  rcases List.mem_map.mp hj with ⟨a, _, rfl⟩
  exact h a

end Json
end Tabula
