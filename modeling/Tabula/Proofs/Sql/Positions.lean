import Mathlib.Data.List.Induction
import Tabula.Proofs.Sql.Spelling

/-!
# Places of tokens

A scan keeps count of lines and columns as it goes, within comments and quoted texts as well.  The
counts are those of the text: a token has the place of its first character, the end mark the place
behind the last one, and a fault the place of the character that it is about.

## Main statements

- `advance_start`: the counts behind a text, in terms of its line feeds.
- `exists_pieces_of_scan`, `exists_pieces_of_fault`: what a scan has taken apart, up to its end or to a
  fault.
- `scan_of_offends`: where something offends, a scan stops.
- `positions_are_true`: the places of tokens and faults in whole texts.
-/

namespace Tabula
namespace Sql

/-!
# Places
-/

/-- The place behind a text: one line for each line feed, one column for each character behind the
last of them. -/
def behind (before : List Char) : Position where
  line := 1 + before.count '\n'
  column := 1 + (before.reverse.takeWhile fun c => c != '\n').length

/-- The place of the character at an offset, or of the end of the text. -/
def placeAt (cs : List Char) (offset : Nat) : Position :=
  behind (cs.take offset)

theorem advance_start (before : List Char) : Position.start.advance before = behind before := by
  induction before using List.reverseRecOn with
  | nil => rfl
  | append_singleton front c ih =>
      rw [Position.advance_append, ih, Position.advance_cons, Position.advance_nil]
      unfold behind Position.after
      by_cases hc : c = '\n'
      · subst hc
        simp [Nat.add_assoc]
      · simp [hc, Nat.add_comm]

theorem placeAt_length (front rest : List Char) :
    placeAt (front ++ rest) front.length = Position.start.advance front := by
  unfold placeAt
  rw [List.take_left, advance_start]

/-!
# Offsets
-/

/-- The offsets of the lexemes of pieces that begin at an offset, and the offset of the end. -/
def offsets (start : Nat) (pieces : List Piece) (ending : List Char) : List Nat :=
  match pieces with
  | [] => [start + ending.length]
  | piece :: others =>
      let first := start + piece.gap.length
      first :: offsets (first + piece.lexeme.text.length) others ending

theorem le_of_mem_offsets {start n : Nat} {pieces : List Piece} {ending : List Char}
    (h : n ∈ offsets start pieces ending) : start <= n := by
  induction pieces generalizing start with
  | nil =>
      rw [List.mem_singleton.mp h]
      exact Nat.le_add_right _ _
  | cons piece others ih =>
      rcases List.mem_cons.mp h with hfirst | hothers
      · rw [hfirst]
        exact Nat.le_add_right _ _
      · have hle := ih hothers
        omega

theorem Spelling.ne_nil {kind : TokenKind} {text : List Char} (h : Spelling kind text) :
    text ≠ [] := by
  cases h with
  | reserved hkind hword =>
      rcases exists_word_of_reserved hkind hword with ⟨c, body, rfl, _⟩
      exact List.cons_ne_nil _ _
  | name _ _ _ => exact List.cons_ne_nil _ _
  | @number _ negative _ hne _ _ =>
      cases negative with
      | true => exact List.cons_ne_nil _ _
      | false => exact hne
  | text s => exact List.cons_ne_nil _ _
  | symbol s => cases s <;> exact List.cons_ne_nil _ _
  | unequal => exact List.cons_ne_nil _ _

/-- A lexeme has a character at least, so no two begin at one offset. -/
theorem pairwise_offsets {pieces : List Piece} (h : forall piece, piece ∈ pieces -> piece.Valid)
    (start : Nat) (ending : List Char) :
    (offsets start pieces ending).Pairwise fun a b => a < b := by
  induction pieces generalizing start with
  | nil => exact List.pairwise_singleton _ _
  | cons piece others ih =>
      rcases List.forall_mem_cons.mp h with ⟨hpiece, hothers⟩
      refine List.pairwise_cons.mpr ⟨?_, ih hothers _⟩
      intro n hn
      have hle := le_of_mem_offsets hn
      have hpos := List.length_pos_iff.mpr hpiece.spelling.ne_nil
      omega

theorem getLast?_offsets (start : Nat) (pieces : List Piece) (ending : List Char) :
    (offsets start pieces ending).getLast? = some (start + (assemble pieces ending).length) := by
  induction pieces generalizing start with
  | nil => rfl
  | cons piece others ih =>
      have hlast := ih (start + piece.gap.length + piece.lexeme.text.length)
      unfold offsets assemble
      rw [List.getLast?_cons, hlast]
      simp [Nat.add_assoc]

/-- The tokens of pieces have the places of their offsets. -/
theorem map_position_placed (before : List Char) (pieces : List Piece) (ending : List Char) :
    (placed (Position.start.advance before) pieces ending).map Token.position =
      (offsets before.length pieces ending).map (placeAt (before ++ assemble pieces ending)) := by
  induction pieces generalizing before with
  | nil =>
      have hend := placeAt_length (before ++ ending) []
      rw [List.append_nil, List.length_append, Position.advance_append] at hend
      exact congrArg (fun place => [place]) hend.symm
  | cons piece others ih =>
      have hfirst := placeAt_length (before ++ piece.gap)
        (piece.lexeme.text ++ assemble others ending)
      have hothers := ih (before ++ piece.gap ++ piece.lexeme.text)
      rw [List.length_append, Position.advance_append, List.append_assoc] at hfirst
      rw [Position.advance_append, Position.advance_append, List.length_append, List.length_append,
        List.append_assoc, List.append_assoc] at hothers
      exact congrArg₂ List.cons hfirst.symm hothers

theorem placeAt_assemble (pieces : List Piece) (gap rest : List Char) :
    placeAt (assemble pieces (gap ++ rest)) (assemble pieces gap).length =
      Position.start.advance (assemble pieces gap) := by
  rw [← assemble_append, placeAt_length]

/-- Tokens are told by their kinds and their places. -/
theorem tokens_ext {tokens tokens' : List Token}
    (hkinds : tokens.map Token.kind = tokens'.map Token.kind)
    (hpositions : tokens.map Token.position = tokens'.map Token.position) : tokens = tokens' := by
  induction tokens generalizing tokens' with
  | nil => exact (List.map_eq_nil_iff.mp hkinds.symm).symm
  | cons token others ih =>
      rcases List.map_eq_cons_iff.mp hkinds.symm with ⟨token', others', rfl, hkind, hothers⟩
      rcases List.cons.inj hpositions with ⟨hposition, hothers'⟩
      rw [ih hothers.symm hothers']
      rcases token with ⟨kind, position⟩
      rcases token' with ⟨kind', position'⟩
      cases hkind
      cases hposition
      rfl

/-!
# Faults
-/

/-- What stands at the place of a fault: a character with which neither a token nor a gap begins, a
quoted text that goes on to the end, or all the digits of an integer of more than 64 bits. -/
inductive Offends : SyntaxFault -> List Char -> Prop where
  | character {c : Char} {rest : List Char} (hblank : Text.isBlank c = false)
      (hcomment : ¬ (c = '-' ∧ rest.head? = some '-')) (hquote : c ≠ Text.Quoted.quote)
      (hfree : forall kind text more, c :: rest = text ++ more -> ¬ Spelling kind text) :
      Offends (.unexpectedCharacter c) (c :: rest)
  | unterminated (body : List Char) :
      Offends .unterminatedText (Text.Quoted.quote :: Text.Quoted.encode body)
  | outOfRange {negative : Bool} {digits more : List Char} (hne : digits ≠ [])
      (hdigits : forall d, d ∈ digits -> d.isDigit = true)
      (hmore : forall d, more.head? = some d -> d.isDigit = false)
      (hrange : forall n : Int64, signedValue negative digits ≠ n.toInt) :
      Offends (.integerOutOfRange (signed negative digits)) (signed negative digits ++ more)

theorem exists_encode_of_span {cs : List Char} (h : Text.Quoted.span cs = none) :
    exists body, cs = Text.Quoted.encode body := by
  fun_induction Text.Quoted.span cs with
  | case1 => exact ⟨[], rfl⟩
  | case2 => cases h
  | case3 c hc => exact ⟨[c], (if_neg hc).symm⟩
  | case4 rest ih =>
      rcases ih (Option.map_eq_none_iff.mp h) with ⟨body, rfl⟩
      exact ⟨Text.Quoted.quote :: body, (if_pos rfl).symm⟩
  | case5 => cases h
  | case6 c d rest hc ih =>
      rcases ih (Option.map_eq_none_iff.mp h) with ⟨body, hbody⟩
      refine ⟨c :: body, ?_⟩
      rw [hbody, Text.Quoted.encode, if_neg hc]

theorem offends_of_numberLexeme {negative : Bool} {digits more : List Char} {fault : SyntaxFault}
    (hne : digits ≠ []) (hdigits : forall d, d ∈ digits -> d.isDigit = true)
    (hmore : forall d, more.head? = some d -> d.isDigit = false)
    (h : numberLexeme negative digits = .error fault) :
    Offends fault (signed negative digits ++ more) := by
  simp only [numberLexeme] at h
  split at h
  · cases h
  · next hword =>
      cases h
      apply Offends.outOfRange hne hdigits hmore
      intro n hn
      have hsome := Text.toWord_eq_some_iff.mpr hn
      unfold signedValue at hsome
      rw [hsome] at hword
      cases hword

/-- A text that begins with a symbol is scanned as one, perhaps as a longer one. -/
theorem symbol?_ne_none {s : Symbol} {text : List Char} (h : Spelling (.symbol s) text)
    (more : List Char) : symbol? (text ++ more) ≠ none := by
  have hopen : forall c, c = '<' ∨ c = '>' -> symbol? (c :: more) ≠ none := by
    intro c hc
    unfold symbol?
    split <;> simp_all
  cases h with
  | reserved hkind _ => cases hkind
  | symbol =>
      cases s with
      | less => exact hopen '<' (Or.inl rfl)
      | greater => exact hopen '>' (Or.inr rfl)
      | _ => nofun
  | unequal => nofun

/-- How a spelling begins. -/
theorem Spelling.begins {kind : TokenKind} {c : Char} {rest text more : List Char}
    (h : Spelling kind text) (htext : c :: rest = text ++ more) :
    c = Text.Quoted.quote ∨ c.isDigit = true ∨ (c = '-' ∧ rest.head?.any Char.isDigit = true) ∨
      isWordStart c = true ∨ symbol? (c :: rest) ≠ none := by
  cases h with
  | reserved hkind hword =>
      rcases exists_word_of_reserved hkind hword with ⟨d, body, rfl, hstart, _⟩
      rw [(List.cons.inj htext).1]
      exact Or.inr (Or.inr (Or.inr (Or.inl hstart)))
  | name hstart _ _ =>
      rw [(List.cons.inj htext).1]
      exact Or.inr (Or.inr (Or.inr (Or.inl hstart)))
  | @number _ negative digits hne hdigits _ =>
      rcases List.exists_cons_of_ne_nil hne with ⟨d, others, rfl⟩
      have hd := hdigits d List.mem_cons_self
      cases negative with
      | true =>
          rcases List.cons.inj htext with ⟨rfl, rfl⟩
          exact Or.inr (Or.inr (Or.inl ⟨rfl, hd⟩))
      | false =>
          rw [(List.cons.inj htext).1]
          exact Or.inr (Or.inl hd)
  | text s =>
      rw [(List.cons.inj htext).1]
      exact Or.inl rfl
  | symbol s =>
      rw [htext]
      exact Or.inr (Or.inr (Or.inr (Or.inr (symbol?_ne_none (.symbol s) more))))
  | unequal =>
      rw [htext]
      exact Or.inr (Or.inr (Or.inr (Or.inr (symbol?_ne_none .unequal more))))

/-- The digits at the start of a text are an integer that is too long, or are taken off. -/
theorem offends_of_digits {negative : Bool} {cs after : List Char} {fault : SyntaxFault}
    (hhead : cs.head?.any Char.isDigit = true)
    (h : (numberLexeme negative (cs.takeWhile Char.isDigit)).map (fun lexeme => (lexeme, after)) =
      .error fault) : Offends fault (signed negative cs) := by
  have hne : cs.takeWhile Char.isDigit ≠ [] := by
    cases cs with
    | nil => cases hhead
    | cons c rest =>
        have hc : c.isDigit = true := hhead
        rw [List.takeWhile_cons_of_pos hc]
        exact List.cons_ne_nil _ _
  have hdigits : forall d, d ∈ cs.takeWhile Char.isDigit -> d.isDigit = true :=
    fun d hd => List.all_eq_true.mp List.all_takeWhile d hd
  have hoffends := offends_of_numberLexeme hne hdigits (eq_false_of_head?_dropWhile _ cs)
    (Result.map_eq_error_iff.mp h)
  have hwhole : signed negative (cs.takeWhile Char.isDigit) ++ cs.dropWhile Char.isDigit =
      signed negative cs := by
    cases negative with
    | true => exact congrArg ('-' :: ·) List.takeWhile_append_dropWhile
    | false => exact List.takeWhile_append_dropWhile
  rw [hwhole] at hoffends
  exact hoffends

theorem offends_of_scanLexeme {c : Char} {rest : List Char} {fault : SyntaxFault}
    (hblank : Text.isBlank c = false) (hcomment : ¬ (c = '-' ∧ rest.head? = some '-'))
    (h : scanLexeme c rest = .error fault) : Offends fault (c :: rest) := by
  unfold scanLexeme at h
  split at h
  · next hquote =>
      subst hquote
      split at h
      · cases h
      · next hspan =>
          cases h
          rcases exists_encode_of_span hspan with ⟨body, rfl⟩
          exact .unterminated body
  · next hquote =>
      split at h
      · next hdigit => exact @offends_of_digits false (c :: rest) _ _ hdigit h
      · next hdigit =>
          split at h
          · next hminus =>
              rw [hminus.1]
              exact @offends_of_digits true rest _ _ hminus.2 h
          · next hminus =>
              split at h
              · cases h
              · next hstart =>
                  split at h
                  · cases h
                  · next hsymbol =>
                      cases h
                      apply Offends.character hblank hcomment hquote
                      intro kind text more htext hspelling
                      rcases hspelling.begins htext with hc | hc | hc | hc | hc
                      · exact hquote hc
                      · exact hdigit hc
                      · exact hminus hc
                      · exact hstart hc
                      · exact hc hsymbol

theorem numberLexeme_eq_error {negative : Bool} {digits : List Char}
    (h : forall n : Int64, signedValue negative digits ≠ n.toInt) :
    numberLexeme negative digits = .error (.integerOutOfRange (signed negative digits)) := by
  have hword : Text.toWord (signedValue negative digits) = none := by
    apply Option.eq_none_iff_forall_ne_some.mpr
    intro n hn
    exact h n (Text.toWord_eq_some_iff.mp hn)
  unfold signedValue at hword
  unfold numberLexeme signed
  simp only [hword]

theorem scan_signed_of_error {negative : Bool} {digits rest : List Char} {fault : SyntaxFault}
    (hne : digits ≠ []) (hdigits : forall d, d ∈ digits -> d.isDigit = true)
    (hstop : forall d, rest.head? = some d -> d.isDigit = false)
    (h : numberLexeme negative digits = .error fault) (p : Position) :
    scan p (signed negative digits ++ rest) = .error ⟨fault, p⟩ := by
  rcases exists_scanLexeme_signed hne hdigits hstop p with ⟨c, body, htext, hskip, hscan⟩
  rw [h] at hscan
  rw [signed, htext]
  exact scan_of_fault hskip hscan

/-- One digit behind a sign is an integer. -/
theorem exists_spelling_digit (negative : Bool) {d : Char} (hd : d.isDigit = true) :
    exists n, Spelling (.number n) (signed negative [d]) := by
  have hsize : Text.digitsValue [d] <= 9 := by
    have hrange := isDigit_iff.mp hd
    show 10 * 0 + (d.toNat - 0x30) <= 9
    omega
  have hword : Text.toWord (signedValue negative [d]) =
      some (Int64.ofInt (signedValue negative [d])) := by
    apply if_pos
    rw [Int64.toInt_minValue, Int64.toInt_maxValue]
    unfold signedValue
    split <;> omega
  exact ⟨_, .number (List.cons_ne_nil _ _) (List.forall_mem_singleton.mpr hd)
    (Text.toWord_eq_some_iff.mp hword)⟩

/-- A character with which no token begins offends by itself. -/
theorem Offends.fault_eq {fault : SyntaxFault} {c : Char} {rest : List Char}
    (h : Offends fault (c :: rest)) (hquote : c ≠ Text.Quoted.quote)
    (hfree : forall kind text more, c :: rest = text ++ more -> ¬ Spelling kind text) :
    fault = .unexpectedCharacter c := by
  generalize htext : c :: rest = text at h hfree
  cases h with
  | character _ _ _ _ =>
      cases htext
      rfl
  | unterminated body => exact absurd (List.cons.inj htext).1 hquote
  | @outOfRange negative digits more hne hdigits _ _ =>
      rcases List.exists_cons_of_ne_nil hne with ⟨d, others, rfl⟩
      rcases exists_spelling_digit negative (hdigits d List.mem_cons_self) with ⟨n, hspelling⟩
      refine absurd hspelling (hfree _ _ (others ++ more) ?_)
      cases negative <;> rfl

/-- Where something offends, a scan stops with that fault. -/
theorem scan_of_offends {fault : SyntaxFault} {rest : List Char} (h : Offends fault rest)
    (p : Position) : scan p rest = .error ⟨fault, p⟩ := by
  cases h with
  | @character c rest hblank hcomment hquote hfree =>
      have hskip := skip_start hblank hcomment p
      cases hscan : scanLexeme c rest with
      | ok result =>
          exact absurd (spelling_of_scanLexeme hscan) (hfree _ _ _ (scanLexeme_append hscan))
      | error fault =>
          rw [scan_of_fault hskip hscan,
            (offends_of_scanLexeme hblank hcomment hscan).fault_eq hquote hfree]
  | unterminated body =>
      have hskip := @skip_start Text.Quoted.quote (Text.Quoted.encode body) rfl
        (fun hcomment => absurd hcomment.1 (by decide)) p
      apply scan_of_fault hskip
      rw [scanLexeme_quote, Text.Quoted.span_encode_eq_none]
  | outOfRange hne hdigits hmore hrange =>
      exact scan_signed_of_error hne hdigits hmore (numberLexeme_eq_error hrange) p

/-!
# Texts
-/

/-- What is passed over and the lexeme that is taken off are one more piece. -/
theorem exists_piece_of_scanLexeme {p q : Position} {cs rest behind : List Char} {c : Char}
    {lexeme : Lexeme} {pieces : List Piece} (hskip : skip false p cs = (q, c :: rest))
    (hscan : scanLexeme c rest = .ok (lexeme, assemble pieces behind))
    (hpieces : Munched behind pieces) :
    exists gap, cs = assemble (⟨gap, lexeme⟩ :: pieces) behind ∧ q = p.advance gap ∧
      Munched behind (⟨gap, lexeme⟩ :: pieces) := by
  rcases exists_gap_of_skip hskip with ⟨gap, rfl, hq, hgap⟩
  refine ⟨gap, ?_, hq, .cons ⟨hgap, spelling_of_scanLexeme hscan⟩ (ends_of_scanLexeme hscan) hpieces⟩
  rw [scanLexeme_append hscan]
  rfl

/-- A text that scans is made of pieces. -/
theorem exists_pieces_of_scan {p : Position} {cs : List Char} {tokens : List Token}
    (h : scan p cs = .ok tokens) :
    exists pieces ending, cs = assemble pieces ending ∧ Munched ending pieces ∧ Gap true ending ∧
      tokens = placed p pieces ending := by
  induction p, cs using scan.induct generalizing tokens with
  | case1 p cs q hskip =>
      rw [scan_of_end hskip] at h
      cases h
      rcases exists_gap_of_skip hskip with ⟨gap, hgap, rfl, hending⟩
      rw [List.append_nil] at hgap
      exact ⟨[], gap, hgap, .nil, hending, rfl⟩
  | case2 p cs q c rest hskip fault hscan =>
      rw [scan_of_fault hskip hscan] at h
      cases h
  | case3 p cs q c rest hskip lexeme after hscan ih =>
      rw [scan_of_lexeme hskip hscan] at h
      rcases exists_of_map_eq_ok h with ⟨others, hothers, rfl⟩
      rcases ih hothers with ⟨pieces, ending, rfl, hpieces, hending, rfl⟩
      rcases exists_piece_of_scanLexeme hskip hscan hpieces with ⟨gap, hcs, rfl, hmunched⟩
      exact ⟨_, ending, hcs, hmunched, hending, rfl⟩

/-- A text that does not scan is made of pieces up to a fault. -/
theorem exists_pieces_of_fault {p : Position} {cs : List Char} {e : SyntaxError}
    (h : scan p cs = .error e) :
    exists pieces gap rest, cs = assemble pieces (gap ++ rest) ∧ Munched (gap ++ rest) pieces ∧
      Gap false gap ∧ Offends e.fault rest ∧ e.position = p.advance (assemble pieces gap) := by
  induction p, cs using scan.induct with
  | case1 p cs q hskip =>
      rw [scan_of_end hskip] at h
      cases h
  | case2 p cs q c rest hskip fault hscan =>
      rw [scan_of_fault hskip hscan] at h
      cases h
      rcases skip_stops hskip with ⟨hblank, hcomment⟩
      rcases exists_gap_of_skip hskip with ⟨gap, hgap, rfl, hvalid⟩
      exact ⟨[], gap, c :: rest, hgap, .nil, hvalid, offends_of_scanLexeme hblank hcomment hscan,
        rfl⟩
  | case3 p cs q c rest hskip lexeme after hscan ih =>
      rw [scan_of_lexeme hskip hscan] at h
      rcases ih (Result.map_eq_error_iff.mp h) with ⟨pieces, gap', rest', rfl, hpieces, hgap', hrest,
        hposition⟩
      rcases exists_piece_of_scanLexeme hskip hscan hpieces with ⟨gap, hcs, rfl, hmunched⟩
      refine ⟨_, gap', rest', hcs, hmunched, hgap', hrest, ?_⟩
      rw [hposition, ← Position.advance_append, ← Position.advance_append]
      rfl

/-- Behind pieces a scan stops where something offends. -/
theorem scan_assemble_of_offends {pieces : List Piece} {gap rest : List Char}
    {fault : SyntaxFault} (hpieces : Munched (gap ++ rest) pieces) (hgap : Gap false gap)
    (hrest : Offends fault rest) (p : Position) :
    scan p (assemble pieces (gap ++ rest)) = .error ⟨fault, p.advance (assemble pieces gap)⟩ := by
  induction hpieces generalizing p with
  | nil =>
      unfold assemble
      rw [scan_gap hgap, scan_of_offends hrest]
  | @cons piece others hpiece hends hothers ih =>
      have hlexeme := hpiece.spelling.scans hends (p.advance piece.gap)
      unfold assemble
      rw [scan_gap hpiece.gap, Position.advance_append, Position.advance_append]
      exact hlexeme.trans (by rw [ih]; rfl)

theorem position_placed {pieces : List Piece} {ending : List Char} {sql : String}
    (htext : sql.toList = assemble pieces ending) :
    (placed Position.start pieces ending).map Token.position =
      (offsets 0 pieces ending).map (placeAt sql.toList) := by
  have hpositions := map_position_placed [] pieces ending
  rw [List.nil_append, ← htext] at hpositions
  exact hpositions

/-- The places that a scan tells are those of the text.  A text that scans is made of gaps and
spellings, one for each token, and each token has the place of the first character of its spelling, the
end mark that of the end; no two of them are at one offset.  In a text that does not scan, the place is
that of the character that offends, behind the tokens before it.  Each spelling ends where the next
character does not belong to it, so no other tokens fit a text, and no other fault. -/
theorem positions_are_true (sql : String) :
    (forall tokens, tokenize sql = .ok tokens <-> exists pieces ending,
      sql.toList = assemble pieces ending ∧ Munched ending pieces ∧ Gap true ending ∧
        tokens.map Token.kind = (pieces.map fun piece => piece.lexeme.kind) ++ [.endOfInput] ∧
        tokens.map Token.position = (offsets 0 pieces ending).map (placeAt sql.toList) ∧
        ((offsets 0 pieces ending).Pairwise fun a b => a < b) ∧
        (offsets 0 pieces ending).getLast? = some sql.toList.length) ∧
    forall e, tokenize sql = .error e <-> exists pieces gap rest,
      sql.toList = assemble pieces (gap ++ rest) ∧ Munched (gap ++ rest) pieces ∧
        Gap false gap ∧ Offends e.fault rest ∧
        e.position = placeAt sql.toList (assemble pieces gap).length := by
  refine ⟨fun tokens => ⟨?_, ?_⟩, fun e => ⟨?_, ?_⟩⟩
  · intro h
    rcases exists_pieces_of_scan h with ⟨pieces, ending, htext, hpieces, hending, rfl⟩
    have hlast := getLast?_offsets 0 pieces ending
    rw [← htext, Nat.zero_add] at hlast
    exact ⟨pieces, ending, htext, hpieces, hending, map_kind_placed _ _ _, position_placed htext,
      pairwise_offsets hpieces.valid 0 ending, hlast⟩
  · rintro ⟨pieces, ending, htext, hpieces, hending, hkinds, hpositions, _, _⟩
    rw [← map_kind_placed Position.start pieces ending] at hkinds
    rw [← position_placed htext] at hpositions
    rw [tokens_ext hkinds hpositions, tokenize, htext]
    exact scan_assemble hpieces hending _
  · intro h
    rcases exists_pieces_of_fault h with ⟨pieces, gap, rest, htext, hpieces, hgap, hrest,
      hposition⟩
    refine ⟨pieces, gap, rest, htext, hpieces, hgap, hrest, ?_⟩
    rw [htext, placeAt_assemble]
    exact hposition
  · rintro ⟨pieces, gap, rest, htext, hpieces, hgap, hrest, hposition⟩
    rw [htext, placeAt_assemble] at hposition
    rw [tokenize, htext, scan_assemble_of_offends hpieces hgap hrest, ← hposition]

/-- A quote right behind a text belongs to it, so the text at the start does not end. -/
example : tokenize "'a''b" = .error ⟨.unterminatedText, ⟨1, 1⟩⟩ := by
  cbv

end Sql
end Tabula
