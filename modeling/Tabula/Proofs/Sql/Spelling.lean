import Tabula.Proofs.Sql.LetterCase
import Tabula.Proofs.Sql.Printable

/-!
# Spellings of tokens

A token may be written in several ways, and between two tokens there may stand blanks and comments.
Whatever is written, scanning takes the tokens off again: each lexeme goes on as long as the next
character belongs to it, and a gap ends it.  Conversely, what a scan takes off a text is a spelling that
ends there, and what it passes over is a gap.

## Main statements

- `Spelling.scans`, `spelling_of_scanLexeme`, `ends_of_scanLexeme`: what is taken off a text are the
  spellings that end in front of the rest.
- `scan_assemble`: a text put together of such spellings and gaps has the tokens that are spelled.
- `tokens_are_read_back`: the same for whole texts, without the places of the tokens.
-/

namespace Tabula
namespace Sql

/-!
# Spellings
-/

/-- Digits behind the sign of an integer. -/
def signed (negative : Bool) (digits : List Char) : List Char :=
  if negative then '-' :: digits else digits

/-- The integer that digits behind a sign denote. -/
def signedValue (negative : Bool) (digits : List Char) : Int :=
  if negative then -(Text.digitsValue digits : Int) else Text.digitsValue digits

/-- The ways in which a token is written: a reserved word in any letter case, a word that is not
reserved, an integer of 64 bits, a text with its quotes doubled, and a symbol, one of which has two
spellings. -/
inductive Spelling : TokenKind -> List Char -> Prop where
  | reserved {kind : TokenKind} {s : String} {word : List Char} (hkind : kind.word? = some s)
      (hword : word.map Char.toLower = s.toList) : Spelling kind word
  | name {c : Char} {rest : List Char} (hstart : isWordStart c = true)
      (hrest : forall d, d ∈ rest -> isWordPart d = true)
      (hfree : forall kind s, TokenKind.word? kind = some s ->
        (c :: rest).map Char.toLower ≠ s.toList) :
      Spelling (.name (String.ofList (c :: rest))) (c :: rest)
  | number {n : Int64} {negative : Bool} {digits : List Char} (hne : digits ≠ [])
      (hdigits : forall d, d ∈ digits -> d.isDigit = true)
      (hvalue : signedValue negative digits = n.toInt) :
      Spelling (.number n) (signed negative digits)
  | text (s : String) :
      Spelling (.text s) (Text.Quoted.quote :: (Text.Quoted.encode s.toList ++ [Text.Quoted.quote]))
  | symbol (s : Symbol) : Spelling (.symbol s) s.spelling.toList
  | unequal : Spelling (.symbol .notEqual) ['!', '=']

/-- The fewest digits are one way to write an integer. -/
theorem spelling_decimal (n : Int64) : Spelling (.number n) (Text.decimal n.toInt) := by
  have hvalue : signedValue (decide (n.toInt < 0)) (Nat.toDigits 10 n.toInt.natAbs) = n.toInt := by
    unfold signedValue
    rw [Text.digitsValue_toDigits]
    by_cases hsign : n.toInt < 0
    · rw [if_pos (decide_eq_true hsign)]
      omega
    · rw [if_neg (by simpa using hsign)]
      omega
  have htext : Text.decimal n.toInt =
      signed (decide (n.toInt < 0)) (Nat.toDigits 10 n.toInt.natAbs) := by
    unfold Text.decimal signed
    simp only [decide_eq_true_eq]
  rw [htext]
  exact .number Nat.toDigits_ne_nil
    (fun _ hd => Nat.isDigit_of_mem_toDigits (by decide) (by decide) hd) hvalue

/-!
# Reserved words
-/

theorem TokenKind.word?_of_ofWord? {word : String} {kind : TokenKind}
    (h : ofWord? word = some kind) : kind.word? = some (Text.lowercase word) := by
  simp only [ofWord?] at h
  split at h
  · next htrue =>
      cases h
      rw [htrue]
      rfl
  · split at h
    · next hfalse =>
        cases h
        rw [hfalse]
        rfl
    · rcases Option.map_eq_some_iff.mp h with ⟨k, hfind, rfl⟩
      have hword := List.find?_some hfind
      exact congrArg some (beq_iff_eq.mp hword)

theorem TokenKind.ofWord?_of_word? {s : String} {kind : TokenKind} (h : kind.word? = some s) :
    ofWord? s = some kind := by
  cases kind with
  | keyword k =>
      cases h
      exact k.ofWord?_word
  | boolean b =>
      cases b with
      | true =>
          cases h
          decide
      | false =>
          cases h
          decide
  | _ => cases h

theorem printableName_of_word? {kind : TokenKind} {s : String} (h : kind.word? = some s) :
    PrintableName s := by
  cases kind with
  | keyword k =>
      cases h
      exact k.printableName_word
  | boolean b =>
      cases b with
      | true =>
          cases h
          exact printableName_boolean true
      | false =>
          cases h
          exact printableName_boolean false
  | _ => cases h

theorem isAscii_of_isWordPart {word : List Char} (h : forall c, c ∈ word -> isWordPart c = true) :
    Text.IsAscii (String.ofList word) := by
  intro c hc
  rw [String.toList_ofList] at hc
  have hrange := range_of_isWordPart (h c hc)
  omega

/-- A word is reserved if it is a reserved word in some letter case. -/
theorem TokenKind.ofWord?_eq_some_iff {word : List Char} {kind : TokenKind}
    (hword : forall c, c ∈ word -> isWordPart c = true) :
    ofWord? (String.ofList word) = some kind <->
      exists s, kind.word? = some s ∧ word.map Char.toLower = s.toList := by
  have hlower : Text.lowercase (String.ofList word) = String.ofList (word.map Char.toLower) := by
    rw [(isAscii_of_isWordPart hword).lowercase_eq, Text.fold, String.toList_ofList]
  constructor
  · intro h
    refine ⟨_, word?_of_ofWord? h, ?_⟩
    rw [hlower, String.toList_ofList]
  · intro h
    rcases h with ⟨s, hkind, hs⟩
    have hreserved := ofWord?_of_word? hkind
    rw [hs, String.ofList_toList] at hlower
    have hfixed : Text.lowercase s = s := by
      have hwritten := word?_of_ofWord? hreserved
      rw [hkind] at hwritten
      exact (Option.some.inj hwritten).symm
    unfold ofWord? at hreserved ⊢
    rw [hlower]
    rw [hfixed] at hreserved
    exact hreserved

/-!
# Gaps
-/

/-- What may stand between two tokens: blanks, and comments that end with their line.  At the end of a
text the last comment need not end. -/
inductive Gap (atEnd : Bool) : List Char -> Prop where
  | nil : Gap atEnd []
  | blank {c : Char} {rest : List Char} (hblank : Text.isBlank c = true) (h : Gap atEnd rest) :
      Gap atEnd (c :: rest)
  | comment {body rest : List Char} (hbody : '\n' ∉ body) (h : Gap atEnd rest) :
      Gap atEnd ('-' :: '-' :: (body ++ '\n' :: rest))
  | cut {body : List Char} (hend : atEnd = true) (hbody : '\n' ∉ body) :
      Gap atEnd ('-' :: '-' :: body)

theorem skip_open_comment {body : List Char} (h : '\n' ∉ body) (p : Position) :
    skip true p body = (p.advance body, []) := by
  induction body generalizing p with
  | nil => rfl
  | cons c rest ih =>
      rw [List.mem_cons, not_or] at h
      rw [skip_comment, bne_iff_ne.mpr (Ne.symm h.1), ih h.2]
      rfl

theorem skip_closed_comment {body : List Char} (h : '\n' ∉ body) (p : Position)
    (rest : List Char) :
    skip true p (body ++ '\n' :: rest) = skip false (p.advance (body ++ ['\n'])) rest := by
  induction body generalizing p with
  | nil => rfl
  | cons c others ih =>
      rw [List.mem_cons, not_or] at h
      rw [List.cons_append, skip_comment, bne_iff_ne.mpr (Ne.symm h.1), ih h.2]
      rfl

/-- A gap is passed over. -/
theorem skip_gap {gap : List Char} (h : Gap false gap) (p : Position) (rest : List Char) :
    skip false p (gap ++ rest) = skip false (p.advance gap) rest := by
  induction h generalizing p with
  | nil => rfl
  | blank hblank h ih => exact (skip_blank hblank p _).trans (ih _)
  | @comment body others hbody h ih =>
      rw [List.cons_append, List.cons_append, List.append_assoc, skip_minus rfl, skip_comment]
      show skip true _ (body ++ '\n' :: (others ++ rest)) = _
      rw [skip_closed_comment hbody, ih, ← Position.advance_append, List.append_assoc]
      rfl
  | cut hend _ => cases hend

/-- A gap at the end of a text is passed over. -/
theorem skip_ending {gap : List Char} (h : Gap true gap) (p : Position) :
    skip false p gap = (p.advance gap, []) := by
  induction h generalizing p with
  | nil => rfl
  | blank hblank h ih => exact (skip_blank hblank p _).trans (ih _)
  | comment hbody h ih =>
      rw [skip_minus rfl, skip_comment]
      show skip true _ _ = _
      rw [skip_closed_comment hbody, ih, ← Position.advance_append, List.append_assoc]
      rfl
  | cut _ hbody =>
      rw [skip_minus rfl, skip_comment]
      exact skip_open_comment hbody _

/-- What is passed over is a gap. -/
theorem exists_gap_of_skip {p q : Position} {cs rest : List Char}
    (h : skip false p cs = (q, rest)) :
    exists gap, cs = gap ++ rest ∧ q = p.advance gap ∧ Gap rest.isEmpty gap := by
  cases cs with
  | nil =>
      cases h
      exact ⟨[], rfl, rfl, .nil⟩
  | cons c others =>
      by_cases hblank : Text.isBlank c = true
      · rw [skip_blank hblank] at h
        rcases exists_gap_of_skip h with ⟨gap, rfl, rfl, hgap⟩
        exact ⟨c :: gap, rfl, rfl, .blank hblank hgap⟩
      · by_cases hcomment : c = '-' ∧ others.head? = some '-'
        · rcases hcomment with ⟨rfl, hhead⟩
          rcases List.head?_eq_some_iff.mp hhead with ⟨body, rfl⟩
          rw [skip_minus hhead, skip_comment] at h
          by_cases hend : '\n' ∈ body
          · rcases List.eq_append_cons_of_mem hend with ⟨line, more, rfl, hline⟩
            rw [show ('-' != '\n') = true from rfl, skip_closed_comment hline] at h
            rcases exists_gap_of_skip h with ⟨gap, rfl, rfl, hgap⟩
            refine ⟨'-' :: '-' :: (line ++ '\n' :: gap), ?_, ?_, .comment hline hgap⟩
            · rw [List.cons_append, List.cons_append, List.append_assoc]
              rfl
            · rw [← Position.advance_append, List.append_assoc]
              rfl
          · rw [show ('-' != '\n') = true from rfl, skip_open_comment hend] at h
            cases h
            exact ⟨'-' :: '-' :: body, (List.append_nil _).symm, rfl, .cut rfl hend⟩
        · rw [skip_start (Bool.not_eq_true _ ▸ hblank) hcomment] at h
          cases h
          exact ⟨[], rfl, rfl, .nil⟩
termination_by cs.length
decreasing_by
  · subst_vars
    exact Nat.lt_succ_self _
  · subst_vars
    simp
    omega

theorem gap_iff_skip {gap : List Char} :
    Gap false gap <-> (skip false Position.start (gap ++ [';'])).2 = [';'] := by
  constructor
  · intro h
    rw [skip_gap h]
    rfl
  · intro h
    rcases hskip : skip false Position.start (gap ++ [';']) with ⟨q, rest⟩
    rw [hskip] at h
    cases h
    rcases exists_gap_of_skip hskip with ⟨front, hfront, _, hgap⟩
    rw [List.append_cancel_right hfront]
    exact hgap

theorem ending_iff_skip {gap : List Char} :
    Gap true gap <-> (skip false Position.start gap).2 = [] := by
  constructor
  · intro h
    rw [skip_ending h]
  · intro h
    rcases hskip : skip false Position.start gap with ⟨q, rest⟩
    rw [hskip] at h
    cases h
    rcases exists_gap_of_skip hskip with ⟨front, hfront, _, hgap⟩
    rw [hfront, List.append_nil]
    exact hgap

instance (gap : List Char) : Decidable (Gap false gap) :=
  decidable_of_iff' _ gap_iff_skip

instance (gap : List Char) : Decidable (Gap true gap) :=
  decidable_of_iff' _ ending_iff_skip

/-!
# Ends of lexemes
-/

/-- The characters that make a symbol another one. -/
def Symbol.takes : Symbol -> Char -> Bool
  | .less, c => c == '=' || c == '>'
  | .greater, c => c == '='
  | _, _ => false

/-- The characters that belong to a token of this kind if they stand right behind it. -/
def TokenKind.takes : TokenKind -> Char -> Bool
  | .number _, c => c.isDigit
  | .text _, c => c == Text.Quoted.quote
  | .symbol s, c => s.takes c
  | _, c => isWordPart c

/-- A token of this kind ends in front of this text: the next character does not belong to it. -/
def TokenKind.Ends (kind : TokenKind) (rest : List Char) : Prop :=
  forall c, rest.head? = some c -> kind.takes c = false

theorem TokenKind.takes_of_word? {kind : TokenKind} {s : String} (h : kind.word? = some s)
    (c : Char) : kind.takes c = isWordPart c := by
  cases kind with
  | keyword k => rfl
  | boolean b => rfl
  | _ => cases h

theorem TokenKind.takes_ofWord (word : List Char) (c : Char) :
    (ofWord word).takes c = isWordPart c := by
  rcases ofWord_cases word with ⟨b, hb⟩ | ⟨k, hk⟩ | ⟨s, hs⟩
  · rw [hb]
    rfl
  · rw [hk]
    rfl
  · rw [hs]
    rfl

theorem plain_of_symbol_takes {s : Symbol} {c : Char} (h : s.takes c = true) :
    Text.isBlank c = false ∧ c ≠ '-' := by
  have hc : c = '=' ∨ c = '>' := by
    cases s with
    | less => simpa [Symbol.takes] using h
    | greater => exact Or.inl (by simpa [Symbol.takes] using h)
    | _ => cases h
  rcases hc with rfl | rfl
  · decide
  · decide

/-- Neither a blank nor a comment belongs to a token in front of it. -/
theorem plain_of_takes {kind : TokenKind} {c : Char} (h : kind.takes c = true) :
    Text.isBlank c = false ∧ c ≠ '-' := by
  have hword : isWordPart c = true -> Text.isBlank c = false ∧ c ≠ '-' :=
    fun hpart => ⟨isBlank_of_isWordPart hpart, (plain_of_isWordPart hpart).2⟩
  cases kind with
  | number n => exact hword (isWordPart_of_isDigit h)
  | text s =>
      have hquote : c = Text.Quoted.quote := eq_of_beq h
      rw [hquote]
      decide
  | symbol s => exact plain_of_symbol_takes h
  | _ => exact hword h

/-- A text that begins like a gap, if it begins at all. -/
def Parted (rest : List Char) : Prop :=
  forall c, rest.head? = some c -> Text.isBlank c = true ∨ c = '-'

theorem Gap.parted {atEnd : Bool} {gap rest : List Char} (h : Gap atEnd gap)
    (hrest : gap = [] -> rest = []) : Parted (gap ++ rest) := by
  intro c hc
  cases h with
  | nil =>
      rw [hrest rfl] at hc
      cases hc
  | blank hblank _ =>
      cases hc
      exact Or.inl hblank
  | comment _ _ =>
      cases hc
      exact Or.inr rfl
  | cut _ _ =>
      cases hc
      exact Or.inr rfl

/-- Every token ends in front of a gap. -/
theorem Parted.ends {rest : List Char} (h : Parted rest) (kind : TokenKind) : kind.Ends rest := by
  intro c hc
  apply Bool.eq_false_iff.mpr
  intro htakes
  rcases plain_of_takes htakes with ⟨hplain, hminus⟩
  rcases h c hc with hblank | hcomment
  · rw [hplain] at hblank
    cases hblank
  · exact hminus hcomment

/-!
# Spellings are taken off
-/

theorem numberLexeme_signed {n : Int64} {negative : Bool} {digits : List Char}
    (h : signedValue negative digits = n.toInt) :
    numberLexeme negative digits = .ok ⟨.number n, signed negative digits⟩ := by
  unfold signedValue at h
  unfold numberLexeme
  simp only [h, Text.toWord_toInt]
  rfl

/-- A symbol that is spelled is found, and no longer one. -/
theorem symbol?_of_spelling {s : Symbol} {text rest : List Char} (h : Spelling (.symbol s) text)
    (hrest : (TokenKind.symbol s).Ends rest) : symbol? (text ++ rest) = some (s, text.length) := by
  cases h with
  | reserved hkind _ => cases hkind
  | symbol =>
      cases rest with
      | nil => cases s <;> rfl
      | cons d more =>
          have hd : s.takes d = false := hrest d rfl
          cases s with
          | less =>
              simp only [Symbol.takes, Bool.or_eq_false_iff, beq_eq_false_iff_ne] at hd
              simp [Symbol.spelling, symbol?, hd.1, hd.2]
          | greater =>
              simp only [Symbol.takes, beq_eq_false_iff_ne] at hd
              simp [Symbol.spelling, symbol?, hd]
          | _ => rfl
  | unequal => rfl

/-- The characters that symbols begin with. -/
def symbolStarts : List Char :=
  ['=', '<', '>', '!', '*', '(', ')', ',', ';', '.']

theorem exists_symbolStart {s : Symbol} {text : List Char} (h : Spelling (.symbol s) text) :
    exists c body, text = c :: body ∧ c ∈ symbolStarts := by
  cases h with
  | reserved hkind _ => cases hkind
  | symbol => cases s <;> exact ⟨_, _, rfl, by decide⟩
  | unequal => exact ⟨_, _, rfl, by decide⟩

theorem plain_of_symbolStart : forall c, c ∈ symbolStarts ->
    c ≠ Text.Quoted.quote ∧ c.isDigit = false ∧ c ≠ '-' ∧ isWordStart c = false ∧
      0x21 <= c.toNat ∧ c.toNat <= 0x7F := by
  intro c hc
  have hall : symbolStarts.all (fun c => decide (c ≠ Text.Quoted.quote ∧ c.isDigit = false ∧
      c ≠ '-' ∧ isWordStart c = false ∧ 0x21 <= c.toNat ∧ c.toNat <= 0x7F)) = true := by
    decide
  exact of_decide_eq_true (List.all_eq_true.mp hall c hc)

theorem scans_spelled_symbol {s : Symbol} {text rest : List Char} (h : Spelling (.symbol s) text)
    (hrest : (TokenKind.symbol s).Ends rest) : (Lexeme.mk (.symbol s) text).Scans rest := by
  have hsymbol := symbol?_of_spelling h hrest
  rcases exists_symbolStart h with ⟨c, body, rfl, hc⟩
  rcases plain_of_symbolStart c hc with ⟨hquote, hdigit, hminus, hstart, hlow, hhigh⟩
  refine scans_of_scanLexeme rfl hlow hhigh (fun h => hminus h.1) ?_
  rw [List.cons_append] at hsymbol
  unfold scanLexeme
  rw [if_neg hquote, if_neg (Bool.eq_false_iff.mp hdigit), if_neg (fun h => hminus h.1),
    if_neg (Bool.eq_false_iff.mp hstart), hsymbol]
  simp

/-- A reserved word is a word in every letter case. -/
theorem exists_word_of_reserved {kind : TokenKind} {s : String} {word : List Char}
    (hkind : kind.word? = some s) (hword : word.map Char.toLower = s.toList) :
    exists c body, word = c :: body ∧ isWordStart c = true ∧
      forall d, d ∈ body -> isWordPart d = true := by
  rcases (printableName_of_word? hkind).word with ⟨d, lower, hs, hd, hlower⟩
  rw [hs] at hword
  rcases List.map_eq_cons_iff.mp hword with ⟨c, body, rfl, rfl, hbody⟩
  rw [isWordStart_toLower] at hd
  refine ⟨c, body, rfl, hd, ?_⟩
  intro e he
  rw [← isWordPart_toLower]
  exact hlower _ (hbody ▸ List.mem_map_of_mem he)

theorem scans_reserved {kind : TokenKind} {s : String} {word rest : List Char}
    (hkind : kind.word? = some s) (hword : word.map Char.toLower = s.toList)
    (hrest : kind.Ends rest) : (Lexeme.mk kind word).Scans rest := by
  rcases exists_word_of_reserved hkind hword with ⟨c, body, rfl, hstart, hbody⟩
  have hreserved := (TokenKind.ofWord?_eq_some_iff (List.forall_mem_cons.mpr
    ⟨isWordPart_of_isWordStart hstart, hbody⟩)).mpr ⟨s, hkind, hword⟩
  have hstop : forall d, rest.head? = some d -> isWordPart d = false := by
    intro d hd
    rw [← TokenKind.takes_of_word? hkind]
    exact hrest d hd
  apply scans_word rfl _ hstart hbody hstop
  simp only [TokenKind.ofWord]
  rw [hreserved]
  rfl

theorem scans_free {c : Char} {body rest : List Char} (hstart : isWordStart c = true)
    (hbody : forall d, d ∈ body -> isWordPart d = true)
    (hfree : forall kind s, TokenKind.word? kind = some s ->
      (c :: body).map Char.toLower ≠ s.toList)
    (hstop : forall d, rest.head? = some d -> isWordPart d = false) :
    (Lexeme.mk (.name (String.ofList (c :: body))) (c :: body)).Scans rest := by
  have hnone : TokenKind.ofWord? (String.ofList (c :: body)) = none := by
    apply Option.eq_none_iff_forall_ne_some.mpr
    intro kind hreserved
    rcases (TokenKind.ofWord?_eq_some_iff (List.forall_mem_cons.mpr
      ⟨isWordPart_of_isWordStart hstart, hbody⟩)).mp hreserved with ⟨s, hkind, hs⟩
    exact hfree kind s hkind hs
  apply scans_word rfl _ hstart hbody hstop
  simp only [TokenKind.ofWord]
  rw [hnone]
  rfl

/-- Every spelling of a token is taken off where the token ends. -/
theorem Spelling.scans {kind : TokenKind} {text rest : List Char} (h : Spelling kind text)
    (hrest : kind.Ends rest) : (Lexeme.mk kind text).Scans rest := by
  cases h with
  | reserved hkind hword => exact scans_reserved hkind hword hrest
  | name hstart hparts hfree => exact scans_free hstart hparts hfree hrest
  | number hne hdigits hvalue =>
      exact scans_signed hne hdigits (numberLexeme_signed hvalue) hrest
  | text s =>
      apply scans_text
      intro hquote
      cases hrest _ hquote
  | symbol s => exact scans_spelled_symbol (.symbol s) hrest
  | unequal => exact scans_spelled_symbol .unequal hrest

/-!
# What is taken off is a spelling
-/

theorem encode_decode_of_span {cs body after : List Char}
    (h : Text.Quoted.span cs = some (body, after)) :
    Text.Quoted.encode (Text.Quoted.decode body) = body := by
  fun_induction Text.Quoted.span cs generalizing body after with
  | case1 => cases h
  | case2 =>
      cases h
      rfl
  | case3 => cases h
  | case4 rest ih =>
      rcases Option.map_eq_some_iff.mp h with ⟨⟨b, a⟩, hspan, hpair⟩
      cases hpair
      rw [Text.Quoted.decode, if_pos ⟨rfl, rfl⟩, Text.Quoted.encode, if_pos rfl, ih hspan]
  | case5 =>
      cases h
      rfl
  | case6 c d rest hc ih =>
      rcases Option.map_eq_some_iff.mp h with ⟨⟨b, a⟩, hspan, hpair⟩
      cases hpair
      rw [Text.Quoted.decode_cons_of_ne hc, Text.Quoted.encode, if_neg hc, ih hspan]

theorem spelling_of_span {cs body after : List Char}
    (h : Text.Quoted.span cs = some (body, after)) :
    Spelling (.text (String.ofList (Text.Quoted.decode body)))
      (Text.Quoted.quote :: body ++ [Text.Quoted.quote]) := by
  have hspelling := Spelling.text (String.ofList (Text.Quoted.decode body))
  rw [String.toList_ofList, encode_decode_of_span h] at hspelling
  exact hspelling

theorem spelling_of_numberLexeme {negative : Bool} {digits : List Char} {lexeme : Lexeme}
    (hne : digits ≠ []) (hdigits : forall d, d ∈ digits -> d.isDigit = true)
    (h : numberLexeme negative digits = .ok lexeme) : Spelling lexeme.kind lexeme.text := by
  simp only [numberLexeme] at h
  split at h
  · next hword =>
      cases h
      exact .number hne hdigits (Text.toWord_eq_some_iff.mp hword)
  · cases h

theorem spelling_word {c : Char} {rest : List Char} (hstart : isWordStart c = true)
    (hrest : forall d, d ∈ rest -> isWordPart d = true) :
    Spelling (TokenKind.ofWord (c :: rest)) (c :: rest) := by
  have hword : forall d, d ∈ c :: rest -> isWordPart d = true :=
    List.forall_mem_cons.mpr ⟨isWordPart_of_isWordStart hstart, hrest⟩
  simp only [TokenKind.ofWord]
  cases hreserved : TokenKind.ofWord? (String.ofList (c :: rest)) with
  | none =>
      apply Spelling.name hstart hrest
      intro kind s hkind hs
      rw [(TokenKind.ofWord?_eq_some_iff hword).mpr ⟨s, hkind, hs⟩] at hreserved
      cases hreserved
  | some kind =>
      rcases (TokenKind.ofWord?_eq_some_iff hword).mp hreserved with ⟨s, hkind, hs⟩
      exact .reserved hkind hs

theorem spelling_of_symbol? {cs : List Char} {s : Symbol} {size : Nat}
    (h : symbol? cs = some (s, size)) : Spelling (.symbol s) (cs.take size) := by
  unfold symbol? at h
  split at h <;> cases h
  case h_4 => exact .unequal
  all_goals exact .symbol _

/-- A lexeme that is scanned is a spelling of its kind. -/
theorem spelling_of_scanLexeme {c : Char} {rest after : List Char} {lexeme : Lexeme}
    (h : scanLexeme c rest = .ok (lexeme, after)) : Spelling lexeme.kind lexeme.text := by
  have htaken : forall {p : Char -> Bool} {cs : List Char} (d : Char), d ∈ cs.takeWhile p ->
      p d = true := fun d hd => List.all_eq_true.mp List.all_takeWhile d hd
  rcases scanLexeme_cases h with ⟨rfl, body, hspan, hkind, htext⟩ | ⟨hdigit, hnumber, _⟩ |
    ⟨_, hhead, hnumber, _⟩ | ⟨hstart, hkind, htext, _⟩ | ⟨s, size, hsymbol, hkind, htext, _⟩
  · rw [hkind, htext]
    exact spelling_of_span hspan
  · apply spelling_of_numberLexeme _ htaken hnumber
    rw [List.takeWhile_cons_of_pos hdigit]
    exact List.cons_ne_nil _ _
  · apply spelling_of_numberLexeme _ htaken hnumber
    cases rest with
    | nil => cases hhead
    | cons d others =>
        have hd : d.isDigit = true := hhead
        rw [List.takeWhile_cons_of_pos hd]
        exact List.cons_ne_nil _ _
  · rw [List.takeWhile_cons_of_pos (isWordPart_of_isWordStart hstart)] at htext
    rw [hkind, htext]
    exact spelling_word hstart htaken
  · rw [hkind, htext]
    exact spelling_of_symbol? hsymbol

/-- A symbol that is found is the longest one. -/
theorem ends_of_symbol? {cs : List Char} {s : Symbol} {size : Nat}
    (h : symbol? cs = some (s, size)) : (TokenKind.symbol s).Ends (cs.drop size) := by
  intro d hd
  unfold symbol? at h
  split at h <;> cases h
  case h_5 hequal hgreater =>
    rcases List.head?_eq_some_iff.mp hd with ⟨more, hmore⟩
    refine Bool.or_eq_false_iff.mpr ⟨beq_eq_false_iff_ne.mpr ?_, beq_eq_false_iff_ne.mpr ?_⟩
    · intro hc
      exact hequal more (hc ▸ hmore)
    · intro hc
      exact hgreater more (hc ▸ hmore)
  case h_6 hequal =>
    rcases List.head?_eq_some_iff.mp hd with ⟨more, hmore⟩
    refine beq_eq_false_iff_ne.mpr ?_
    intro hc
    exact hequal more (hc ▸ hmore)
  all_goals rfl

theorem eq_false_of_head?_dropWhile (p : Char -> Bool) (cs : List Char) :
    forall d, (cs.dropWhile p).head? = some d -> p d = false := by
  intro d hd
  have hstop := List.head?_dropWhile_not p cs
  rw [hd] at hstop
  exact hstop

/-- A lexeme that is scanned ends where it is cut off. -/
theorem ends_of_scanLexeme {c : Char} {rest after : List Char} {lexeme : Lexeme}
    (h : scanLexeme c rest = .ok (lexeme, after)) : lexeme.kind.Ends after := by
  rcases scanLexeme_cases h with ⟨_, body, hspan, hkind, _⟩ | ⟨_, hnumber, rfl⟩ |
    ⟨_, _, hnumber, rfl⟩ | ⟨_, hkind, _, rfl⟩ | ⟨s, size, hsymbol, hkind, _, rfl⟩
  · rw [hkind]
    intro d hd
    refine beq_eq_false_iff_ne.mpr ?_
    intro hquote
    exact (span_behind hspan).1 (hquote ▸ hd)
  · rcases numberLexeme_kind hnumber with ⟨n, hn⟩
    rw [hn]
    exact eq_false_of_head?_dropWhile _ _
  · rcases numberLexeme_kind hnumber with ⟨n, hn⟩
    rw [hn]
    exact eq_false_of_head?_dropWhile _ _
  · rw [hkind]
    intro d hd
    rw [TokenKind.takes_ofWord]
    exact eq_false_of_head?_dropWhile _ _ d hd
  · rw [hkind]
    exact ends_of_symbol? hsymbol

/-!
# Texts put together
-/

/-- A lexeme with the gap in front of it. -/
structure Piece where
  gap : List Char
  lexeme : Lexeme

namespace Piece

structure Valid (piece : Piece) : Prop where
  gap : Gap false piece.gap
  spelling : Spelling piece.lexeme.kind piece.lexeme.text

end Piece

/-- The text of pieces and of what stands behind them. -/
def assemble (pieces : List Piece) (rest : List Char) : List Char :=
  match pieces with
  | [] => rest
  | piece :: others => piece.gap ++ (piece.lexeme.text ++ assemble others rest)

theorem assemble_append (pieces : List Piece) (front rest : List Char) :
    assemble pieces front ++ rest = assemble pieces (front ++ rest) := by
  induction pieces with
  | nil => rfl
  | cons piece others ih => simp only [assemble, List.append_assoc, ih]

/-- Pieces in front of a rest, each of which takes all that belongs to it: its lexeme ends where the
text goes on. -/
inductive Munched (rest : List Char) : List Piece -> Prop where
  | nil : Munched rest []
  | cons {piece : Piece} {others : List Piece} (hpiece : piece.Valid)
      (hends : piece.lexeme.kind.Ends (assemble others rest)) (h : Munched rest others) :
      Munched rest (piece :: others)

theorem Munched.valid {rest : List Char} {pieces : List Piece} (h : Munched rest pieces) :
    forall piece, piece ∈ pieces -> piece.Valid := by
  induction h with
  | nil => exact List.forall_mem_nil _
  | cons hpiece _ _ ih => exact List.forall_mem_cons.mpr ⟨hpiece, ih⟩

/-- The tokens of pieces that begin at `p`, with an end mark behind them. -/
def placed (p : Position) (pieces : List Piece) (ending : List Char) : List Token :=
  match pieces with
  | [] => [⟨.endOfInput, p.advance ending⟩]
  | piece :: others =>
      let start := p.advance piece.gap
      ⟨piece.lexeme.kind, start⟩ :: placed (start.advance piece.lexeme.text) others ending

theorem map_kind_placed (p : Position) (pieces : List Piece) (ending : List Char) :
    (placed p pieces ending).map Token.kind =
      (pieces.map fun piece => piece.lexeme.kind) ++ [.endOfInput] := by
  induction pieces generalizing p with
  | nil => rfl
  | cons piece others ih => exact congrArg (piece.lexeme.kind :: ·) (ih _)

theorem scan_gap {gap : List Char} (h : Gap false gap) (p : Position) (rest : List Char) :
    scan p (gap ++ rest) = scan (p.advance gap) rest :=
  scan_of_skip_eq (skip_gap h p rest)

/-- What stands behind a piece parts it from the next one. -/
theorem parted_assemble {pieces : List Piece} {ending : List Char}
    (hgaps : forall piece, piece ∈ pieces -> Gap false piece.gap ∧ piece.gap ≠ [])
    (hending : Gap true ending) : Parted (assemble pieces ending) := by
  cases pieces with
  | nil =>
      have hparted := hending.parted fun _ => rfl
      rw [List.append_nil] at hparted
      exact hparted
  | cons piece others =>
      rcases hgaps piece List.mem_cons_self with ⟨hgap, hne⟩
      exact hgap.parted fun hnil => absurd hnil hne

theorem munched_of_gaps {pieces : List Piece} {ending : List Char}
    (hpieces : forall piece, piece ∈ pieces -> piece.Valid)
    (hparted : forall piece, piece ∈ pieces.tail -> piece.gap ≠ []) (hending : Gap true ending) :
    Munched ending pieces := by
  induction pieces with
  | nil => exact .nil
  | cons piece others ih =>
      rcases List.forall_mem_cons.mp hpieces with ⟨hpiece, hothers⟩
      have hrest : Parted (assemble others ending) :=
        parted_assemble (fun other hother => ⟨(hothers other hother).gap, hparted other hother⟩)
          hending
      exact .cons hpiece (hrest.ends _)
        (ih hothers fun other hother => hparted other (List.mem_of_mem_tail hother))

/-- A text that is put together of lexemes that end in front of what follows has the tokens that are
spelled, each at the place of its first character. -/
theorem scan_assemble {pieces : List Piece} {ending : List Char} (hpieces : Munched ending pieces)
    (hending : Gap true ending) (p : Position) :
    scan p (assemble pieces ending) = .ok (placed p pieces ending) := by
  induction hpieces generalizing p with
  | nil => exact scan_of_end (skip_ending hending p)
  | @cons piece others hpiece hends hothers ih =>
      have hlexeme := hpiece.spelling.scans hends (p.advance piece.gap)
      unfold assemble placed
      rw [scan_gap hpiece.gap]
      exact hlexeme.trans (by rw [ih]; rfl)

/-- Scanning undoes spelling.  However the tokens of a list are spelled and whatever blanks and
comments part them, the text has the tokens of the list, in order, and an end mark behind them. -/
theorem tokens_are_read_back {pieces : List Piece} {ending : List Char}
    (hpieces : forall piece, piece ∈ pieces -> piece.Valid)
    (hparted : forall piece, piece ∈ pieces.tail -> piece.gap ≠ []) (hending : Gap true ending) :
    (tokenize (String.ofList (assemble pieces ending))).map (List.map Token.kind) =
      .ok ((pieces.map fun piece => piece.lexeme.kind) ++ [.endOfInput]) := by
  unfold tokenize
  rw [String.toList_ofList, scan_assemble (munched_of_gaps hpieces hparted hending) hending,
    ← map_kind_placed]
  rfl

/-- A piece whose lexeme is a word. -/
def Piece.word (gap word : String) : Piece where
  gap := gap.toList
  lexeme := ⟨TokenKind.ofWord word.toList, word.toList⟩

theorem Piece.valid_word {gap word : String} (hgap : Gap false gap.toList)
    (hstart : word.toList.head?.any isWordStart = true)
    (hrest : word.toList.tail.all isWordPart = true) : (Piece.word gap word).Valid := by
  refine ⟨hgap, ?_⟩
  dsimp only [Piece.word]
  cases hword : word.toList with
  | nil =>
      rw [hword] at hstart
      cases hstart
  | cons c rest =>
      rw [hword] at hstart hrest
      exact spelling_word hstart (List.all_eq_true.mp hrest)

/-- A keyword and a truth value in odd cases, a name, the least integer, a text with a quote, a line
end and what would be a comment, and both spellings of a symbol; a comment with a quote stands in
front, an ideographic space and a comment in between, and a comment that does not end behind. -/
def samplePieces : List Piece := [
  .word "--it's\n" "sElEcT",
  .word "\t" "True",
  ⟨"\u3000-- one\n".toList, .literal (.integer Int64.minValue)⟩,
  .word "-- two\n-- three\n" "_x1",
  ⟨"\n".toList, .literal (.text "it's -- a\nday")⟩,
  ⟨" ".toList, ⟨.symbol .notEqual, "!=".toList⟩⟩,
  ⟨"--\n".toList, .symbol .notEqual⟩,
  ⟨" ".toList, .symbol .less⟩]

theorem tokens_are_read_back_sample :
    (forall piece, piece ∈ samplePieces -> piece.Valid) ∧
      (forall piece, piece ∈ samplePieces.tail -> piece.gap ≠ []) ∧ Gap true "--;".toList ∧
      String.ofList (assemble samplePieces "--;".toList) =
        "--it's\nsElEcT\tTrue\u3000-- one\n-9223372036854775808-- two\n-- three\n_x1\n'it''s -- a\nday' !=--\n<> <--;" ∧
      (tokenize (String.ofList (assemble samplePieces "--;".toList))).map (List.map Token.kind) =
        .ok [.keyword .SELECT, .boolean true, .number Int64.minValue, .name "_x1",
          .text "it's -- a\nday", .symbol .notEqual, .symbol .notEqual, .symbol .less,
          .endOfInput] := by
  have hpieces : forall piece, piece ∈ samplePieces -> piece.Valid := by
    unfold samplePieces
    simp only [List.forall_mem_cons]
    refine ⟨Piece.valid_word (by decide) rfl rfl, Piece.valid_word (by decide) rfl rfl,
      ⟨by decide, spelling_decimal _⟩, Piece.valid_word (by decide) rfl rfl,
      ⟨by decide, .text _⟩, ⟨by decide, .unequal⟩, ⟨by decide, .symbol _⟩, ⟨by decide, .symbol _⟩,
      nofun⟩
  have hparted : forall piece, piece ∈ samplePieces.tail -> piece.gap ≠ [] := by decide
  have hending : Gap true "--;".toList := by decide
  exact ⟨hpieces, hparted, hending, by decide,
    (tokens_are_read_back hpieces hparted hending).trans (by decide)⟩

end Sql
end Tabula
