import Tabula.Proofs.Result
import Tabula.Proofs.Sql.Acceptance
import Tabula.Proofs.Sql.Scan
import Tabula.Proofs.Text.Lines

/-!
# Blanks between tokens

How many blanks stand between two tokens makes no difference, nor do blanks at the ends of comments.
So blanks beside line feeds may be taken away from a text, unless a quoted text among its tokens
holds them, and the tokens stay what they are but for their places.
-/

namespace Tabula
namespace Sql

/-!
# Reading the kinds of tokens
-/

/-- The kinds of the tokens in a text, which may begin within a comment. -/
inductive Reads : Bool -> List Char -> List TokenKind -> Prop where
  | done (inComment : Bool) : Reads inComment [] [.endOfInput]
  | comment {c : Char} {rest : List Char} {kinds : List TokenKind}
      (h : Reads (c != '\n') rest kinds) : Reads true (c :: rest) kinds
  | blank {c : Char} {rest : List Char} {kinds : List TokenKind} (hblank : Text.isBlank c = true)
      (h : Reads false rest kinds) : Reads false (c :: rest) kinds
  | dash {rest : List Char} {kinds : List TokenKind} (hdash : rest.head? = some '-')
      (h : Reads true rest kinds) : Reads false ('-' :: rest) kinds
  | lexeme {c : Char} {rest after : List Char} {lexeme : Lexeme} {kinds : List TokenKind}
      (hblank : Text.isBlank c = false) (hcomment : ¬ (c = '-' ∧ rest.head? = some '-'))
      (hscan : scanLexeme c rest = .ok (lexeme, after)) (h : Reads false after kinds) :
      Reads false (c :: rest) (lexeme.kind :: kinds)

theorem reads_blank_iff {c : Char} (hblank : Text.isBlank c = true) {rest : List Char}
    {kinds : List TokenKind} : Reads false (c :: rest) kinds <-> Reads false rest kinds := by
  constructor
  · intro h
    cases h with
    | blank _ h => exact h
    | dash _ _ => cases hblank
    | lexeme hother _ _ _ =>
        rw [hblank] at hother
        cases hother
  · exact .blank hblank

theorem reads_lexeme_iff {c : Char} {rest : List Char} (hblank : Text.isBlank c = false)
    (hcomment : ¬ (c = '-' ∧ rest.head? = some '-')) {kinds : List TokenKind} :
    Reads false (c :: rest) kinds <->
      exists lexeme after others, scanLexeme c rest = .ok (lexeme, after) ∧
        Reads false after others ∧ kinds = lexeme.kind :: others := by
  constructor
  · intro h
    cases h with
    | blank hother _ =>
        rw [hblank] at hother
        cases hother
    | dash hhead _ => exact absurd ⟨rfl, hhead⟩ hcomment
    | lexeme _ _ hscan h => exact ⟨_, _, _, hscan, h, rfl⟩
  · intro h
    rcases h with ⟨lexeme, after, others, hscan, h, rfl⟩
    exact .lexeme hblank hcomment hscan h

/-- Passing over blanks and comments passes over no token. -/
theorem reads_skip (inComment : Bool) (p : Position) (cs : List Char) (kinds : List TokenKind) :
    Reads false (skip inComment p cs).2 kinds <-> Reads inComment cs kinds := by
  induction cs generalizing inComment p with
  | nil =>
      constructor
      · intro h
        cases h
        exact .done inComment
      · intro h
        cases h
        exact .done false
  | cons c rest ih =>
      cases inComment with
      | true =>
          rw [skip_comment, ih]
          constructor
          · exact .comment
          · intro h
            cases h with
            | comment h => exact h
      | false =>
          by_cases hblank : Text.isBlank c = true
          · rw [skip_blank hblank, ih, reads_blank_iff hblank]
          · by_cases hcomment : c = '-' ∧ rest.head? = some '-'
            · rcases hcomment with ⟨rfl, hhead⟩
              rw [skip_minus hhead, ih]
              constructor
              · exact .dash hhead
              · intro h
                cases h with
                | blank hminus _ => exact absurd hminus hblank
                | dash _ h => exact h
                | lexeme _ hstart _ _ => exact absurd ⟨rfl, hhead⟩ hstart
            · rw [skip_start (Bool.not_eq_true _ ▸ hblank) hcomment]

/-- A text scans to tokens of the kinds that are read from it. -/
theorem scan_iff_reads {p : Position} {cs : List Char} {kinds : List TokenKind} :
    (exists tokens, scan p cs = .ok tokens ∧ tokens.map Token.kind = kinds) <->
      Reads false cs kinds := by
  induction p, cs using scan.induct generalizing kinds with
  | case1 p cs q hskip =>
      rw [scan_of_end hskip, ← reads_skip false p cs, hskip]
      constructor
      · intro h
        rcases h with ⟨tokens, htokens, rfl⟩
        cases htokens
        exact .done false
      · intro h
        cases h
        exact ⟨_, rfl, rfl⟩
  | case2 p cs q c rest hskip fault hscan =>
      rcases skip_stops hskip with ⟨hblank, hcomment⟩
      rw [scan_of_fault hskip hscan, ← reads_skip false p cs, hskip,
        reads_lexeme_iff hblank hcomment, hscan]
      constructor
      · intro h
        rcases h with ⟨tokens, htokens, _⟩
        cases htokens
      · intro h
        rcases h with ⟨lexeme, after, others, hlexeme, _⟩
        cases hlexeme
  | case3 p cs q c rest hskip lexeme after hscan ih =>
      rcases skip_stops hskip with ⟨hblank, hcomment⟩
      rw [scan_of_lexeme hskip hscan, ← reads_skip false p cs, hskip,
        reads_lexeme_iff hblank hcomment, hscan]
      constructor
      · intro h
        rcases h with ⟨tokens, htokens, rfl⟩
        rcases exists_of_map_eq_ok htokens with ⟨others, hothers, rfl⟩
        exact ⟨lexeme, after, _, rfl, ih.mp ⟨others, hothers, rfl⟩, rfl⟩
      · intro h
        rcases h with ⟨_, _, kinds', hlexeme, hrest, rfl⟩
        cases hlexeme
        rcases ih.mpr hrest with ⟨others, hothers, rfl⟩
        refine ⟨⟨lexeme.kind, q⟩ :: others, ?_, rfl⟩
        rw [hothers]
        rfl

/-!
# Borders of lexemes
-/

/-- Two texts that may follow a lexeme for one another: they begin with the same character, or with
blanks if at all. -/
def Border (after after' : List Char) : Prop :=
  after'.head? = after.head? ∨
    after.head?.all Text.isBlank = true ∧ after'.head?.all Text.isBlank = true

namespace Border

variable {after after' : List Char}

theorem append (h : Border after after') (front : List Char) :
    Border (front ++ after) (front ++ after') := by
  cases front with
  | nil => exact h
  | cons c rest => exact Or.inl rfl

theorem head_iff (h : Border after after') {c : Char} (hblank : Text.isBlank c = false) :
    after'.head? = some c <-> after.head? = some c := by
  rcases h with hsame | ⟨hafter, hafter'⟩
  · rw [hsame]
  · constructor
    · intro hhead
      rw [hhead, Option.all_some, hblank] at hafter'
      cases hafter'
    · intro hhead
      rw [hhead, Option.all_some, hblank] at hafter
      cases hafter

theorem any_head (h : Border after after') {p : Char -> Bool}
    (hp : forall c, p c = true -> Text.isBlank c = false) :
    after'.head?.any p = after.head?.any p := by
  rw [Bool.eq_iff_iff, Option.any_eq_true, Option.any_eq_true]
  apply exists_congr
  intro c
  apply and_congr_left
  intro hc
  exact h.head_iff (hp c hc)

/-- A run of characters that are no blanks ends in front of both texts or of none. -/
theorem run (h : Border after after') {p : Char -> Bool}
    (hp : forall c, p c = true -> Text.isBlank c = false) {run : List Char}
    (hrun : (run ++ after).takeWhile p = run) :
    (run ++ after').takeWhile p = run ∧ (run ++ after').dropWhile p = after' := by
  apply takeWhile_append
  · intro c hc
    rw [← hrun] at hc
    exact List.all_eq_true.mp List.all_takeWhile c hc
  · intro c hc
    apply Bool.eq_false_iff.mpr
    intro hpc
    have hhead := (h.head_iff (hp c hpc)).mp hc
    have hwhole := @List.takeWhile_append_dropWhile _ p (run ++ after)
    rw [hrun] at hwhole
    have hdrop := List.append_cancel_left hwhole
    have hstop := List.head?_dropWhile_not p (run ++ after)
    rw [hdrop, hhead] at hstop
    simp [hpc] at hstop

/-- Where a symbol ends depends on the next character only. -/
theorem symbol? (h : Border after after') (c : Char) :
    Sql.symbol? (c :: after') = Sql.symbol? (c :: after) := by
  have hpair : forall d, d = '=' ∨ d = '>' -> after.head? = some d ->
      Sql.symbol? (c :: after') = Sql.symbol? (c :: after) := by
    intro d hd hafter
    have hblank : Text.isBlank d = false := by
      rcases hd with rfl | rfl
      · decide
      · decide
    rcases List.head?_eq_some_iff.mp hafter with ⟨rest, rfl⟩
    rcases List.head?_eq_some_iff.mp ((h.head_iff hblank).mpr rfl) with ⟨rest', rfl⟩
    rw [symbol?_pair hd c rest', symbol?_pair hd c rest]
  by_cases hequal : after.head? = some '='
  · exact hpair '=' (Or.inl rfl) hequal
  · by_cases hgreater : after.head? = some '>'
    · exact hpair '>' (Or.inr rfl) hgreater
    · rw [symbol?_short fun _ => ⟨hequal, hgreater⟩, symbol?_short]
      intro _
      rw [ne_eq, ne_eq, h.head_iff (by decide), h.head_iff (by decide)]
      exact ⟨hequal, hgreater⟩

end Border

theorem symbol?_not_blank {cs : List Char} {symbol : Symbol} {size : Nat}
    (h : symbol? cs = some (symbol, size)) :
    size <= cs.length ∧ (cs.take size).all (fun c => !Text.isBlank c) = true := by
  unfold symbol? at h
  split at h <;> cases h <;> exact ⟨by simp, rfl⟩

namespace Border

variable {after after' : List Char} (hborder : Border after after')

include hborder

theorem number {negative : Bool} {run : List Char} {lexeme : Lexeme}
    (hscan : ((numberLexeme negative ((run ++ after).takeWhile Char.isDigit)).map fun lexeme =>
      (lexeme, (run ++ after).dropWhile Char.isDigit)) = .ok (lexeme, after))
    (htext : lexeme.text = if negative then '-' :: run else run) :
    ((numberLexeme negative ((run ++ after').takeWhile Char.isDigit)).map fun lexeme =>
      (lexeme, (run ++ after').dropWhile Char.isDigit)) = .ok (lexeme, after') := by
  rcases exists_of_map_eq_ok hscan with ⟨number, hnumber, hpair⟩
  rcases Prod.mk.inj hpair with ⟨rfl, _⟩
  have htake : (run ++ after).takeWhile Char.isDigit = run := by
    have hsame := (numberLexeme_text hnumber).symm.trans htext
    cases negative with
    | true => exact (List.cons.inj hsame).2
    | false => exact hsame
  have hblank : forall d, Char.isDigit d = true -> Text.isBlank d = false :=
    fun d hd => isBlank_of_isWordPart (isWordPart_of_isDigit hd)
  rcases hborder.run hblank htake with ⟨htake', hdrop'⟩
  rw [htake] at hnumber
  rw [htake', hdrop', hnumber]
  rfl

theorem word {run : List Char} {lexeme : Lexeme}
    (hscan : (.ok (⟨TokenKind.ofWord ((run ++ after).takeWhile isWordPart),
        (run ++ after).takeWhile isWordPart⟩, (run ++ after).dropWhile isWordPart) :
      Except SyntaxFault (Lexeme × List Char)) = .ok (lexeme, after))
    (htext : lexeme.text = run) :
    (.ok (⟨TokenKind.ofWord ((run ++ after').takeWhile isWordPart),
        (run ++ after').takeWhile isWordPart⟩, (run ++ after').dropWhile isWordPart) :
      Except SyntaxFault (Lexeme × List Char)) = .ok (lexeme, after') := by
  rcases Prod.mk.inj (Except.ok.inj hscan) with ⟨rfl, _⟩
  have htake : (run ++ after).takeWhile isWordPart = run := htext
  rcases hborder.run (fun d => isBlank_of_isWordPart) htake with ⟨htake', hdrop'⟩
  rw [htake', hdrop', htake]

end Border

/-- A symbol is taken off in front of any text. -/
theorem symbolLexeme_append {run after : List Char} {symbol : Symbol} {size : Nat} {lexeme : Lexeme}
    (hsymbol : symbol? (run ++ after) = some (symbol, size))
    (hscan : (.ok (⟨.symbol symbol, (run ++ after).take size⟩, (run ++ after).drop size) :
      Except SyntaxFault (Lexeme × List Char)) = .ok (lexeme, after))
    (htext : lexeme.text = run) (after' : List Char) :
    (.ok (⟨.symbol symbol, (run ++ after').take size⟩, (run ++ after').drop size) :
      Except SyntaxFault (Lexeme × List Char)) = .ok (lexeme, after') := by
  rcases Prod.mk.inj (Except.ok.inj hscan) with ⟨rfl, _⟩
  have htake : (run ++ after).take size = run := htext
  have hlength : run.length = size := by
    rw [← htake, List.length_take_of_le (symbol?_not_blank hsymbol).1]
  rw [List.take_left' hlength, List.drop_left' hlength, htake]

/-- A lexeme does not change when what follows it does, up to the border. -/
theorem scanLexeme_border {c : Char} {rest after after' : List Char} {lexeme : Lexeme}
    (hscan : scanLexeme c (rest ++ after) = .ok (lexeme, after))
    (htext : lexeme.text = c :: rest) (hborder : Border after after') :
    scanLexeme c (rest ++ after') = .ok (lexeme, after') := by
  by_cases hquote : c = Text.Quoted.quote
  · subst hquote
    rw [scanLexeme_quote] at hscan ⊢
    cases hspan : Text.Quoted.span (rest ++ after) with
    | none =>
        rw [hspan] at hscan
        cases hscan
    | some pair =>
        rcases pair with ⟨body, behind⟩
        rw [hspan] at hscan
        cases hscan
        have hrest : rest = body ++ [Text.Quoted.quote] := (List.cons.inj htext).2.symm
        rcases span_behind hspan with ⟨hafter, hbody⟩
        have hafter' : after'.head? ≠ some Text.Quoted.quote := by
          rw [ne_eq, hborder.head_iff (by decide)]
          exact hafter
        rw [hrest, List.append_assoc, List.singleton_append, hbody after' hafter']
  · unfold scanLexeme at hscan ⊢
    rw [if_neg hquote] at hscan ⊢
    by_cases hdigit : c.isDigit = true
    · rw [if_pos hdigit] at hscan ⊢
      exact @Border.number _ _ hborder false (c :: rest) _ hscan htext
    · have hhead := (hborder.append rest).any_head
        fun d hd => isBlank_of_isWordPart (isWordPart_of_isDigit hd)
      rw [if_neg hdigit] at hscan ⊢
      rw [hhead]
      by_cases hminus : c = '-' ∧ (rest ++ after).head?.any Char.isDigit = true
      · rw [if_pos hminus] at hscan ⊢
        exact @Border.number _ _ hborder true rest _ hscan (hminus.1 ▸ htext)
      · rw [if_neg hminus] at hscan ⊢
        by_cases hstart : isWordStart c = true
        · rw [if_pos hstart] at hscan ⊢
          exact @Border.word _ _ hborder (c :: rest) _ hscan htext
        · rw [if_neg hstart] at hscan ⊢
          rw [(hborder.append rest).symbol? c]
          cases hsymbol : symbol? (c :: (rest ++ after)) with
          | none =>
              rw [hsymbol] at hscan
              cases hscan
          | some pair =>
              rw [hsymbol] at hscan
              exact @symbolLexeme_append (c :: rest) _ _ _ _ hsymbol hscan htext after'

/-!
# Blanks within lexemes
-/

/-- Only a quoted text holds blanks. -/
theorem exists_body_of_blank {c d : Char} {rest after : List Char} {lexeme : Lexeme}
    (hscan : scanLexeme c rest = .ok (lexeme, after)) (hd : d ∈ lexeme.text)
    (hblank : Text.isBlank d = true) :
    exists body, lexeme.kind = .text (String.ofList (Text.Quoted.decode body)) ∧
      lexeme.text = Text.Quoted.quote :: body ++ [Text.Quoted.quote] := by
  have hparts : forall {p : Char -> Bool} {cs : List Char}, d ∈ cs.takeWhile p ->
      ¬ forall e, p e = true -> isWordPart e = true := by
    intro p cs hmem hpart
    have hp := List.all_eq_true.mp List.all_takeWhile d hmem
    rw [isBlank_of_isWordPart (hpart d hp)] at hblank
    cases hblank
  rcases scanLexeme_cases hscan with ⟨rfl, body, _, hkind, htext⟩ | ⟨_, hnumber, _⟩ |
    ⟨_, _, hnumber, _⟩ | ⟨_, _, htext, _⟩ | ⟨symbol, size, hsymbol, _, htext, _⟩
  · exact ⟨body, hkind, htext⟩
  · rw [numberLexeme_text hnumber] at hd
    exact absurd (fun _ => isWordPart_of_isDigit) (hparts hd)
  · rw [numberLexeme_text hnumber] at hd
    rcases List.mem_cons.mp hd with rfl | hd
    · cases hblank
    · exact absurd (fun _ => isWordPart_of_isDigit) (hparts hd)
  · rw [htext] at hd
    exact absurd (fun _ hpart => hpart) (hparts hd)
  · rw [htext] at hd
    have hall := List.all_eq_true.mp (symbol?_not_blank hsymbol).2 d hd
    rw [hblank] at hall
    cases hall

theorem loose_quote_left (c : Char) : Text.loose Text.Quoted.quote c = false := rfl

theorem loose_quote_right (c : Char) : Text.loose c Text.Quoted.quote = false := by
  unfold Text.loose
  rw [show Text.isBlank Text.Quoted.quote = false from rfl, Bool.and_false, Bool.false_and]

/-- Reading a pair of quotes as one brings no blanks together. -/
theorem tight_of_tight_decode {body : List Char} (h : Text.Tight (Text.Quoted.decode body)) :
    Text.Tight body := by
  fun_induction Text.Quoted.decode body with
  | case1 => exact .nil
  | case2 c => exact .singleton c
  | case3 c d rest hquotes ih =>
      rcases hquotes with ⟨rfl, rfl⟩
      have hrest := ih (List.isChain_cons.mp h).2
      refine .cons_cons (loose_quote_left _) (List.isChain_cons.mpr ⟨?_, hrest⟩)
      intro e _
      exact loose_quote_left e
  | case4 c d rest hquotes ih =>
      have hrest := ih (List.isChain_cons.mp h).2
      refine .cons_cons ?_ hrest
      by_cases hd : d = Text.Quoted.quote
      · rw [hd]
        exact loose_quote_right c
      · apply (List.isChain_cons.mp h).1
        rw [Text.Quoted.decode_cons_of_ne hd]
        rfl

theorem tight_quoted {body : List Char} (h : Text.Tight body) :
    Text.Tight (Text.Quoted.quote :: body ++ [Text.Quoted.quote]) := by
  apply List.isChain_append.mpr
  refine ⟨List.isChain_cons.mpr ⟨?_, h⟩, .singleton _, ?_⟩
  · intro c _
    exact loose_quote_left c
  · intro c _ d hd
    cases hd
    exact loose_quote_right c

/-- No lexeme of one of the kinds has its end within the text and its beginning before it. -/
def Untouched (kinds : List TokenKind) (cs : List Char) : Prop :=
  forall {c : Char} {rest after front inner : List Char} {lexeme : Lexeme},
    scanLexeme c rest = .ok (lexeme, after) -> lexeme.kind ∈ kinds ->
    lexeme.text = front ++ inner -> cs = inner ++ after -> inner = []

/-- Where the quoted texts are tight, no lexeme holds a blank beside a line feed. -/
theorem untouched_of_tight {kinds : List TokenKind}
    (hkinds : forall s, TokenKind.text s ∈ kinds -> Text.Tight s.toList) {b c : Char}
    (hloose : Text.loose b c = true) (cs : List Char) : Untouched kinds (b :: c :: cs) := by
  intro d rest after front inner lexeme hscan hkind htext hcs
  cases inner with
  | nil => rfl
  | cons first inner =>
      rcases List.cons.inj hcs with ⟨rfl, hrest⟩
      rcases Text.loose_iff.mp hloose with ⟨hblank, _⟩
      have hmem : b ∈ lexeme.text := by
        rw [htext]
        exact List.mem_append_right front List.mem_cons_self
      rcases exists_body_of_blank hscan hmem hblank with ⟨body, hbody, hquoted⟩
      rw [hbody] at hkind
      have hdecoded := hkinds _ hkind
      rw [String.toList_ofList] at hdecoded
      have htight := tight_quoted (tight_of_tight_decode hdecoded)
      rw [← hquoted, htext] at htight
      cases inner with
      | nil =>
          -- the lexeme ends with a quote and not with a blank
          have hlast := congrArg List.getLast? (hquoted.symm.trans htext)
          rw [List.getLast?_concat, List.getLast?_concat] at hlast
          cases Option.some.inj hlast
          cases hblank
      | cons second inner =>
          rcases List.cons.inj hrest with ⟨rfl, _⟩
          have hpair := (List.isChain_append_cons_cons.mp htight).2.1
          rw [hloose] at hpair
          cases hpair

/-!
# Blanks taken away
-/

theorem exists_split_of_untouched {kinds : List TokenKind} {cs : List Char}
    (h : Untouched kinds cs) {c : Char} {front after : List Char} {lexeme : Lexeme}
    (hscan : scanLexeme c (front ++ cs) = .ok (lexeme, after)) (hkind : lexeme.kind ∈ kinds) :
    exists run between, lexeme.text = c :: run ∧ front = run ++ between ∧ after = between ++ cs := by
  have hwhole := scanLexeme_append hscan
  rcases List.exists_cons_of_ne_nil (scanLexeme_text_ne_nil hscan) with ⟨d, run, htext⟩
  rw [htext, List.cons_append] at hwhole
  rcases List.cons.inj hwhole with ⟨rfl, hrest⟩
  rcases List.append_eq_append_iff.mp hrest with ⟨inner, hrun, hcs⟩ | ⟨between, hfront, hafter⟩
  · have hinner : inner = [] := by
      apply h hscan hkind _ hcs
      · exact c :: front
      · rw [htext, hrun]
        rfl
    rw [hinner, List.append_nil] at hrun
    rw [hinner, List.nil_append] at hcs
    exact ⟨run, [], htext, by rw [hrun, List.append_nil], hcs.symm⟩
  · exact ⟨run, between, htext, hfront, hafter⟩

/-- The end of a text may be exchanged where no lexeme reaches into it. -/
theorem Reads.exchange {cs cs' : List Char} {kinds : List TokenKind} (hborder : Border cs cs')
    (hends : forall inComment kinds, Reads inComment cs kinds -> Reads inComment cs' kinds)
    (huntouched : Untouched kinds cs) {inComment : Bool} (front : List Char)
    (h : Reads inComment (front ++ cs) kinds) : Reads inComment (front ++ cs') kinds := by
  generalize htext : front ++ cs = text at h
  induction h generalizing front with
  | done inComment =>
      rcases List.append_eq_nil_iff.mp htext with ⟨rfl, rfl⟩
      exact hends inComment _ (.done inComment)
  | comment h ih =>
      cases front with
      | nil =>
          rw [List.nil_append] at htext
          exact hends true _ (htext.symm ▸ .comment h)
      | cons d front =>
          rcases List.cons.inj htext with ⟨rfl, hrest⟩
          exact .comment (ih huntouched front hrest)
  | blank hblank h ih =>
      cases front with
      | nil =>
          rw [List.nil_append] at htext
          exact hends false _ (htext.symm ▸ .blank hblank h)
      | cons d front =>
          rcases List.cons.inj htext with ⟨rfl, hrest⟩
          exact .blank hblank (ih huntouched front hrest)
  | dash hdash h ih =>
      cases front with
      | nil =>
          rw [List.nil_append] at htext
          exact hends false _ (htext.symm ▸ .dash hdash h)
      | cons d front =>
          rcases List.cons.inj htext with ⟨rfl, hrest⟩
          rw [← hrest] at hdash
          exact .dash (((hborder.append front).head_iff (by decide)).mpr hdash)
            (ih huntouched front hrest)
  | lexeme hblank hcomment hscan h ih =>
      cases front with
      | nil =>
          rw [List.nil_append] at htext
          exact hends false _ (htext.symm ▸ .lexeme hblank hcomment hscan h)
      | cons d front =>
          rw [List.cons_append] at htext
          rcases List.cons.inj htext with ⟨rfl, rfl⟩
          rcases exists_split_of_untouched huntouched hscan List.mem_cons_self with
            ⟨run, between, hrun, rfl, rfl⟩
          have hbetween := hborder.append between
          rw [List.append_assoc] at hscan hcomment
          rw [List.cons_append, List.append_assoc]
          rw [← (hbetween.append run).head_iff (by decide)] at hcomment
          apply Reads.lexeme hblank hcomment (scanLexeme_border hscan hrun hbetween)
          apply ih _ between rfl
          intro c rest after front inner lexeme hother hkind
          exact huntouched hother (List.mem_cons_of_mem _ hkind)

/-- A line feed at the end makes no difference. -/
theorem Reads.append_newline {inComment : Bool} {cs : List Char} {kinds : List TokenKind}
    (h : Reads inComment cs kinds) : Reads inComment (cs ++ ['\n']) kinds := by
  have hends : forall inComment kinds, Reads inComment [] kinds -> Reads inComment ['\n'] kinds := by
    intro inComment kinds h
    cases h with
    | done =>
        cases inComment with
        | true => exact .comment (.done _)
        | false => exact .blank (by decide) (.done _)
  have huntouched : Untouched kinds [] := by
    intro c rest after front inner lexeme _ _ _ hnil
    exact (List.append_eq_nil_iff.mp hnil.symm).1
  rw [← List.append_nil cs] at h
  exact h.exchange (Or.inr ⟨rfl, by decide⟩) hends huntouched cs

/-- A blank beside a line feed may be taken away, unless a quoted text holds it. -/
theorem Reads.tightens {inComment : Bool} {cs cs' : List Char} {kinds : List TokenKind}
    (hkinds : forall s, TokenKind.text s ∈ kinds -> Text.Tight s.toList)
    (h : Reads inComment cs kinds) (htightens : Text.Tightens cs cs') :
    Reads inComment cs' kinds := by
  cases htightens with
  | within front after hloose =>
      rename_i b c
      rcases Text.loose_iff.mp hloose with ⟨hb, hc, hnewline⟩
      apply h.exchange _ _ (untouched_of_tight hkinds hloose after) front
      · exact Or.inr ⟨hb, rfl⟩
      · intro inComment kinds h
        cases inComment with
        | false => exact .blank (by decide) ((reads_blank_iff hc).mp ((reads_blank_iff hb).mp h))
        | true =>
            -- a comment that ends with the first of the two ends with the line feed as well
            apply Reads.comment
            cases h with
            | comment h =>
                by_cases hend : b = '\n'
                · subst hend
                  exact (reads_blank_iff hc).mp h
                · rw [bne_iff_ne.mpr hend] at h
                  rw [hnewline.resolve_left hend] at h
                  cases h with
                  | comment h => exact h

theorem Reads.tightened {inComment : Bool} {cs cs' : List Char} {kinds : List TokenKind}
    (hkinds : forall s, TokenKind.text s ∈ kinds -> Text.Tight s.toList)
    (h : Reads inComment cs kinds) (htightened : Relation.ReflTransGen Text.Tightens cs cs') :
    Reads inComment cs' kinds := by
  induction htightened with
  | refl => exact h
  | tail _ hstep ih => exact ih.tightens hkinds hstep

/-- The lines of a text, collected, hold the same tokens as the text. -/
theorem Reads.collected {cs : List Char} {kinds : List TokenKind}
    (hkinds : forall s, TokenKind.text s ∈ kinds -> Text.Tight s.toList)
    (h : Reads false cs kinds) : Reads false (Text.collected (Text.lines (cs ++ ['\n']))) kinds := by
  have htext : Reads false ('\n' :: (cs ++ ['\n'])) kinds := .blank (by decide) h.append_newline
  rw [← Text.flatMap_lines cs] at htext
  have hcollected := htext.tightened hkinds (Text.tightens_collected [] _)
  exact (reads_blank_iff (by decide)).mp hcollected

/-!
# Statements
-/

theorem scanLexeme_kind_ne_end {c : Char} {rest after : List Char} {lexeme : Lexeme}
    (h : scanLexeme c rest = .ok (lexeme, after)) : lexeme.kind ≠ .endOfInput := by
  intro hend
  rcases scanLexeme_kind h with ⟨s, htext⟩ | ⟨n, hnumber⟩ | ⟨symbol, hsymbol⟩ | ⟨_, hword⟩
  · rw [htext] at hend
    cases hend
  · rw [hnumber] at hend
    cases hend
  · rw [hsymbol] at hend
    cases hend
  · rw [hword] at hend
    rcases TokenKind.ofWord_cases ((c :: rest).takeWhile isWordPart) with
      ⟨b, hb⟩ | ⟨k, hk⟩ | ⟨s, hs⟩
    · rw [hb] at hend
      cases hend
    · rw [hk] at hend
      cases hend
    · rw [hs] at hend
      cases hend

theorem Reads.ended {inComment : Bool} {cs : List Char} {kinds : List TokenKind}
    (h : Reads inComment cs kinds) :
    exists own, kinds = own ++ [.endOfInput] ∧ .endOfInput ∉ own := by
  induction h with
  | done inComment => exact ⟨[], rfl, List.not_mem_nil⟩
  | comment h ih => exact ih
  | blank hblank h ih => exact ih
  | dash hdash h ih => exact ih
  | lexeme hblank hcomment hscan h ih =>
      rcases ih with ⟨own, rfl, hown⟩
      refine ⟨_ :: own, rfl, ?_⟩
      rw [List.mem_cons, not_or]
      exact ⟨(scanLexeme_kind_ne_end hscan).symm, hown⟩

namespace Statement

theorem parse_eq_ok_iff {sql : String} {result : Statement} :
    parse sql = .ok result <-> exists tokens, tokenize sql = .ok tokens ∧
      ofTokens tokens = .ok result := by
  unfold parse
  rw [Result.mapError_eq_ok_iff]
  exact Result.bind_eq_ok_iff

/-- Texts with tokens of the same kinds spell the same statement. -/
theorem parse_of_reads {sql sql' : String} {kinds : List TokenKind} {result : Statement}
    (h : Reads false sql.toList kinds) (h' : Reads false sql'.toList kinds)
    (hparse : parse sql = .ok result) : parse sql' = .ok result := by
  rcases parse_eq_ok_iff.mp hparse with ⟨tokens, htokens, hresult⟩
  rcases scan_iff_reads.mpr h with ⟨_, hscan, hkinds⟩
  rcases scan_iff_reads.mpr h' with ⟨tokens', htokens', hkinds'⟩
  cases htokens.symm.trans hscan
  rcases h.ended with ⟨own, rfl, hown⟩
  apply parse_eq_ok_iff.mpr
  refine ⟨tokens', htokens', ?_⟩
  apply (ofTokens_eq_ok_iff_of_kinds hkinds' hown).mpr
  exact (ofTokens_eq_ok_iff_of_kinds hkinds hown).mp hresult

/-- No statement begins with a dot. -/
theorem head?_ne_dot_of_parse {sql : String} {result : Statement} (h : parse sql = .ok result) :
    sql.toList.head? ≠ some '.' := by
  intro hdot
  rcases List.head?_eq_some_iff.mp hdot with ⟨rest, hrest⟩
  rcases parse_eq_ok_iff.mp h with ⟨tokens, htokens, hresult⟩
  unfold tokenize at htokens
  have hcomment : ¬ ('.' = '-' ∧ rest.head? = some '-') := by
    intro h
    cases h.1
  have hskip := skip_start (by decide) hcomment Position.start
  rw [hrest, scan_of_lexeme hskip rfl] at htokens
  rcases exists_of_map_eq_ok htokens with ⟨others, _, rfl⟩
  cases hresult

/-- The lines of a text, collected, spell the statement that the text spells. -/
theorem parse_collected {sql : String} {tokens : List Token} (htokens : tokenize sql = .ok tokens)
    (htight : forall s, .text s ∈ tokens.map Token.kind -> Text.Tight s.toList)
    {result : Statement} (hparse : parse sql = .ok result) :
    parse (String.ofList (Text.collected (Text.lines (sql.toList ++ ['\n'])))) = .ok result := by
  have hreads : Reads false sql.toList (tokens.map Token.kind) :=
    scan_iff_reads.mp ⟨tokens, htokens, rfl⟩
  apply parse_of_reads hreads _ hparse
  rw [String.toList_ofList]
  exact hreads.collected htight

end Statement
end Sql
end Tabula
