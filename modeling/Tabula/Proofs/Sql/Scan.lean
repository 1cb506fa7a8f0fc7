import Tabula.Sql.Statement.Render

/-!
# What is spelled scans back

Every lexeme of a statement is what a scan of its text takes off, if no character follows that would
make it longer.  A space or a symbol is such an end of a lexeme, and behind a symbol anything may
follow.  So the text of lexemes scans to their kinds, whatever its layout.
-/

namespace Tabula
namespace Sql

/-!
# One step of a scan
-/

theorem scan_of_end {p q : Position} {cs : List Char} (hskip : skip false p cs = (q, [])) :
    scan p cs = .ok [⟨.endOfInput, q⟩] := by
  rw [scan]
  split
  · next hother =>
      rw [hskip] at hother
      cases hother
      rfl
  · next hother =>
      rw [hskip] at hother
      cases hother

theorem scan_of_fault {p q : Position} {cs rest : List Char} {c : Char} {fault : SyntaxFault}
    (hskip : skip false p cs = (q, c :: rest)) (hscan : scanLexeme c rest = .error fault) :
    scan p cs = .error ⟨fault, q⟩ := by
  rw [scan]
  split
  · next hother =>
      rw [hskip] at hother
      cases hother
  · next hother =>
      rw [hskip] at hother
      cases hother
      split
      · next hfault =>
          rw [hscan] at hfault
          cases hfault
          rfl
      · next hlexeme =>
          rw [hscan] at hlexeme
          cases hlexeme

theorem scan_of_lexeme {p q : Position} {cs rest after : List Char} {c : Char} {lexeme : Lexeme}
    (hskip : skip false p cs = (q, c :: rest)) (hscan : scanLexeme c rest = .ok (lexeme, after)) :
    scan p cs =
      (scan (q.advance lexeme.text) after).map fun tokens => ⟨lexeme.kind, q⟩ :: tokens := by
  rw [scan]
  split
  · next hother =>
      rw [hskip] at hother
      cases hother
  · next hother =>
      rw [hskip] at hother
      cases hother
      split
      · next hfault =>
          rw [hscan] at hfault
          cases hfault
      · next hlexeme =>
          rw [hscan] at hlexeme
          cases hlexeme
          rfl

/-- Texts that go on alike behind what is passed over have the same tokens. -/
theorem scan_of_skip_eq {p p' : Position} {cs cs' : List Char}
    (h : skip false p cs = skip false p' cs') : scan p cs = scan p' cs' := by
  rcases hrest : skip false p' cs' with ⟨q, left⟩
  rw [hrest] at h
  cases left with
  | nil => rw [scan_of_end h, scan_of_end hrest]
  | cons c rest =>
      cases hscan : scanLexeme c rest with
      | error fault => rw [scan_of_fault h hscan, scan_of_fault hrest hscan]
      | ok result =>
          rcases result with ⟨lexeme, after⟩
          rw [scan_of_lexeme h hscan, scan_of_lexeme hrest hscan]

theorem scan_space (p : Position) (cs : List Char) : scan p (' ' :: cs) = scan (p.after ' ') cs :=
  scan_of_skip_eq rfl

/-!
# Between lexemes
-/

theorem skip_comment (p : Position) (c : Char) (rest : List Char) :
    skip true p (c :: rest) = skip (c != '\n') (p.after c) rest :=
  if_pos rfl

theorem skip_blank {c : Char} (h : Text.isBlank c = true) (p : Position) (rest : List Char) :
    skip false p (c :: rest) = skip false (p.after c) rest := by
  rw [skip, if_neg Bool.false_ne_true, if_pos h]

theorem skip_minus {rest : List Char} (h : rest.head? = some '-') (p : Position) :
    skip false p ('-' :: rest) = skip true (p.after '-') rest := by
  rw [skip, if_neg Bool.false_ne_true, if_neg (by decide), if_pos ⟨rfl, h⟩]

theorem skip_start {c : Char} {rest : List Char} (hblank : Text.isBlank c = false)
    (hcomment : ¬ (c = '-' ∧ rest.head? = some '-')) (p : Position) :
    skip false p (c :: rest) = (p, c :: rest) := by
  rw [skip, if_neg Bool.false_ne_true, if_neg (by rw [hblank]; exact Bool.false_ne_true),
    if_neg hcomment]

/-- A text that was passed over up to a lexeme goes on with neither a blank nor a comment. -/
theorem skip_stops {inComment : Bool} {p q : Position} {cs rest : List Char} {c : Char}
    (h : skip inComment p cs = (q, c :: rest)) :
    Text.isBlank c = false ∧ ¬ (c = '-' ∧ rest.head? = some '-') := by
  induction cs generalizing inComment p with
  | nil => cases h
  | cons d others ih =>
      unfold skip at h
      split at h
      · exact ih h
      · split at h
        · exact ih h
        · next hblank =>
            split at h
            · exact ih h
            · next hstart =>
                cases h
                exact ⟨Bool.not_eq_true _ ▸ hblank, hstart⟩

/-!
# Characters
-/

theorem isAlpha_iff {c : Char} :
    c.isAlpha = true <->
      (0x41 <= c.toNat ∧ c.toNat <= 0x5A) ∨ (0x61 <= c.toNat ∧ c.toNat <= 0x7A) := by
  show (decide ('A'.val <= c.val ∧ c.val <= 'Z'.val) ||
    decide ('a'.val <= c.val) && decide (c.val <= 'z'.val)) = true <-> _
  simp only [Bool.or_eq_true, Bool.and_eq_true, decide_eq_true_eq]
  exact Iff.rfl

theorem isDigit_iff {c : Char} : c.isDigit = true <-> 0x30 <= c.toNat ∧ c.toNat <= 0x39 := by
  show (decide ('0'.val <= c.val) && decide (c.val <= '9'.val)) = true <-> _
  simp only [Bool.and_eq_true, decide_eq_true_eq]
  exact Iff.rfl

theorem range_of_isWordPart {c : Char} (h : isWordPart c = true) :
    0x30 <= c.toNat ∧ c.toNat <= 0x7A := by
  unfold isWordPart Char.isAlphanum at h
  rw [Bool.or_eq_true, Bool.or_eq_true, isAlpha_iff, isDigit_iff, beq_iff_eq] at h
  rcases h with (hletter | hdigit) | hunderscore
  · omega
  · omega
  · rw [hunderscore]
    decide

theorem isBlank_eq_false {c : Char} (hlow : 0x21 <= c.toNat) (hhigh : c.toNat <= 0x7F) :
    Text.isBlank c = false := by
  simp only [Text.isBlank, Bool.or_eq_false_iff, Bool.and_eq_false_iff, decide_eq_false_iff_not,
    beq_eq_false_iff_ne]
  omega

theorem isBlank_of_isWordPart {c : Char} (h : isWordPart c = true) : Text.isBlank c = false := by
  have hrange := range_of_isWordPart h
  exact isBlank_eq_false (by omega) (by omega)

theorem isDigit_eq_false_of_isWordStart {c : Char} (h : isWordStart c = true) :
    c.isDigit = false := by
  rw [Bool.eq_false_iff]
  intro hdigit
  unfold isWordStart at h
  rw [isDigit_iff] at hdigit
  rw [Bool.or_eq_true, isAlpha_iff, beq_iff_eq] at h
  rcases h with hletter | hunderscore
  · omega
  · rw [hunderscore] at hdigit
    exact absurd hdigit.2 (by decide)

theorem isWordPart_of_isDigit {c : Char} (h : c.isDigit = true) : isWordPart c = true := by
  unfold isWordPart Char.isAlphanum
  rw [h, Bool.or_true, Bool.true_or]

/-- No character follows that could belong to a word, an integer or a quoted text before it. -/
def Detached (rest : List Char) : Prop :=
  forall c, rest.head? = some c -> isWordPart c = false ∧ c ≠ Text.Quoted.quote

theorem detached_nil : Detached [] := by
  intro c hc
  cases hc

theorem detached_cons {c : Char} (hpart : isWordPart c = false) (hquote : c ≠ Text.Quoted.quote)
    (rest : List Char) : Detached (c :: rest) := by
  intro d hd
  cases hd
  exact ⟨hpart, hquote⟩

theorem Detached.stops {rest : List Char} (h : Detached rest) {p : Char -> Bool}
    (hpart : forall c, p c = true -> isWordPart c = true) :
    forall c, rest.head? = some c -> p c = false := by
  intro c hc
  apply Bool.eq_false_iff.mpr
  intro hp
  have hfalse := (h c hc).1
  rw [hpart c hp] at hfalse
  cases hfalse

theorem Detached.head?_ne_quote {rest : List Char} (h : Detached rest) :
    rest.head? ≠ some Text.Quoted.quote := by
  intro hhead
  exact (h _ hhead).2 rfl

/-- A run of characters ends where another character follows. -/
theorem takeWhile_append {p : Char -> Bool} {run rest : List Char}
    (hrun : forall c, c ∈ run -> p c = true) (hrest : forall c, rest.head? = some c -> p c = false) :
    (run ++ rest).takeWhile p = run ∧ (run ++ rest).dropWhile p = rest := by
  rw [List.takeWhile_append_of_pos hrun, List.dropWhile_append_of_pos hrun]
  cases rest with
  | nil => exact ⟨List.append_nil run, rfl⟩
  | cons c others =>
      have hc : ¬ p c = true := Bool.eq_false_iff.mp (hrest c rfl)
      rw [List.takeWhile_cons_of_neg hc, List.dropWhile_cons_of_neg hc, List.append_nil]
      exact ⟨rfl, rfl⟩

/-!
# Symbols, integers and quoted texts
-/

/-- Only an equals or a greater sign makes a symbol longer. -/
theorem symbol?_short {c : Char} {rest : List Char}
    (h : c ∈ ['<', '>', '!'] -> rest.head? ≠ some '=' ∧ rest.head? ≠ some '>') :
    symbol? (c :: rest) = symbol? [c] := by
  unfold symbol?
  split <;> simp_all

theorem symbol?_pair {d : Char} (h : d = '=' ∨ d = '>') (c : Char) (rest : List Char) :
    symbol? (c :: d :: rest) = symbol? [c, d] := by
  by_cases hc : c ∈ ['<', '>', '!']
  · simp only [List.mem_cons, List.not_mem_nil, or_false] at hc
    rcases h with rfl | rfl <;> rcases hc with rfl | rfl | rfl <;> rfl
  · have hshort : forall rest : List Char, symbol? (c :: rest) = symbol? [c] :=
      fun rest => symbol?_short fun hmem => absurd hmem hc
    rw [hshort (d :: rest), hshort [d]]

/-- Where a quoted text ends depends on the next character only. -/
theorem span_behind {rest body after : List Char}
    (h : Text.Quoted.span rest = some (body, after)) :
    after.head? ≠ some Text.Quoted.quote ∧
      forall after' : List Char, after'.head? ≠ some Text.Quoted.quote ->
        Text.Quoted.span (body ++ Text.Quoted.quote :: after') = some (body, after') := by
  have hclose : forall after : List Char, after.head? ≠ some Text.Quoted.quote ->
      Text.Quoted.span (Text.Quoted.quote :: after) = some ([], after) :=
    fun _ => Text.Quoted.span_encode []
  fun_induction Text.Quoted.span rest generalizing body after with
  | case1 => cases h
  | case2 =>
      cases h
      exact ⟨(Option.some_ne_none _).symm, hclose⟩
  | case3 => cases h
  | case4 others ih =>
      rcases Option.map_eq_some_iff.mp h with ⟨⟨b, a⟩, hspan, hpair⟩
      cases hpair
      rcases ih hspan with ⟨hafter, hbody⟩
      refine ⟨hafter, ?_⟩
      intro after' hafter'
      rw [List.cons_append, List.cons_append, Text.Quoted.span, if_pos rfl, if_pos rfl,
        hbody after' hafter']
      rfl
  | case5 d others hd =>
      cases h
      exact ⟨fun hquote => hd (Option.some.inj hquote), hclose⟩
  | case6 c d others hc ih =>
      rcases Option.map_eq_some_iff.mp h with ⟨⟨b, a⟩, hspan, hpair⟩
      cases hpair
      rcases ih hspan with ⟨hafter, hbody⟩
      refine ⟨hafter, ?_⟩
      intro after' hafter'
      rw [List.cons_append, Text.Quoted.span_cons_of_ne hc, hbody after' hafter']
      rfl

theorem numberLexeme_kind {negative : Bool} {digits : List Char} {lexeme : Lexeme}
    (h : numberLexeme negative digits = .ok lexeme) : exists n, lexeme.kind = .number n := by
  simp only [numberLexeme] at h
  split at h
  · next n _ =>
      cases h
      exact ⟨n, rfl⟩
  · cases h

theorem scanLexeme_kind {c : Char} {rest after : List Char} {lexeme : Lexeme}
    (h : scanLexeme c rest = .ok (lexeme, after)) :
    (exists s, lexeme.kind = .text s) ∨ (exists n, lexeme.kind = .number n) ∨
      (exists symbol, lexeme.kind = .symbol symbol) ∨
      isWordStart c = true ∧
        lexeme.kind = TokenKind.ofWord ((c :: rest).takeWhile isWordPart) := by
  rcases scanLexeme_cases h with ⟨_, _, _, hkind, _⟩ | ⟨_, hnumber, _⟩ | ⟨_, _, hnumber, _⟩ |
    ⟨hstart, hkind, htext, _⟩ | ⟨_, _, _, hkind, _⟩
  · exact Or.inl ⟨_, hkind⟩
  · exact Or.inr (Or.inl (numberLexeme_kind hnumber))
  · exact Or.inr (Or.inl (numberLexeme_kind hnumber))
  · rw [htext] at hkind
    exact Or.inr (Or.inr (Or.inr ⟨hstart, hkind⟩))
  · exact Or.inr (Or.inr (Or.inl ⟨_, hkind⟩))

theorem scanLexeme_quote (rest : List Char) :
    scanLexeme Text.Quoted.quote rest =
      match Text.Quoted.span rest with
      | some (body, after) =>
          .ok (⟨.text (String.ofList (Text.Quoted.decode body)),
            Text.Quoted.quote :: body ++ [Text.Quoted.quote]⟩, after)
      | none => .error .unterminatedText :=
  if_pos rfl

/-!
# Lexemes
-/

/-- In front of this rest the lexeme is what a scan takes off. -/
def Lexeme.Scans (lexeme : Lexeme) (rest : List Char) : Prop :=
  forall p, scan p (lexeme.text ++ rest) =
    (scan (p.advance lexeme.text) rest).map fun tokens => ⟨lexeme.kind, p⟩ :: tokens

theorem scans_of_scanLexeme {lexeme : Lexeme} {c : Char} {body rest : List Char}
    (htext : lexeme.text = c :: body) (hlow : 0x21 <= c.toNat) (hhigh : c.toNat <= 0x7F)
    (hcomment : ¬ (c = '-' ∧ (body ++ rest).head? = some '-'))
    (hscan : scanLexeme c (body ++ rest) = .ok (lexeme, rest)) : lexeme.Scans rest := by
  intro p
  have hskip := skip_start (isBlank_eq_false hlow hhigh) hcomment p
  have hstep := scan_of_lexeme hskip hscan
  rw [htext] at hstep ⊢
  exact hstep

theorem scans_word {lexeme : Lexeme} {c : Char} {body rest : List Char}
    (htext : lexeme.text = c :: body) (hkind : lexeme.kind = TokenKind.ofWord lexeme.text)
    (hstart : isWordStart c = true) (hbody : forall d, d ∈ body -> isWordPart d = true)
    (hstop : forall d, rest.head? = some d -> isWordPart d = false) : lexeme.Scans rest := by
  have hpart := isWordPart_of_isWordStart hstart
  have hrange := range_of_isWordPart hpart
  have hquote : c ≠ Text.Quoted.quote := by
    intro hc
    rw [hc] at hpart
    cases hpart
  have hminus : c ≠ '-' := by
    intro hc
    rw [hc] at hpart
    cases hpart
  have hrun := takeWhile_append (List.forall_mem_cons.mpr ⟨hpart, hbody⟩) hstop
  refine scans_of_scanLexeme htext (by omega) (by omega) (fun h => hminus h.1) ?_
  unfold scanLexeme
  rw [if_neg hquote, if_neg (Bool.eq_false_iff.mp (isDigit_eq_false_of_isWordStart hstart)),
    if_neg (fun h => hminus h.1), if_pos hstart]
  rw [List.cons_append] at hrun
  simp only [hrun.1, hrun.2]
  rw [← htext, ← hkind]

theorem scans_text (s : String) {rest : List Char}
    (hrest : rest.head? ≠ some Text.Quoted.quote) : (Lexeme.literal (.text s)).Scans rest := by
  have hspan := Text.Quoted.span_encode s.toList hrest
  have htext : (Lexeme.literal (.text s)).text =
      Text.Quoted.quote :: (Text.Quoted.encode s.toList ++ [Text.Quoted.quote]) := rfl
  refine scans_of_scanLexeme htext (by decide) (by decide) ?_ ?_
  · intro h
    exact absurd h.1 (by decide)
  · unfold scanLexeme
    rw [if_pos rfl, List.append_assoc, List.singleton_append, hspan]
    simp only [Text.Quoted.decode_encode, String.ofList_toList]
    rfl

/-- The digits of a number, read back behind its sign. -/
theorem numberLexeme_toDigits (n : Int64) :
    numberLexeme (decide (n.toInt < 0)) (Nat.toDigits 10 n.toInt.natAbs) =
      .ok (Lexeme.literal (.integer n)) := by
  have hsize : (if decide (n.toInt < 0) then -(n.toInt.natAbs : Int) else n.toInt.natAbs) =
      n.toInt := by
    by_cases hsign : n.toInt < 0
    · simp only [hsign, decide_true, if_true]
      omega
    · simp only [hsign, decide_false, Bool.false_eq_true, if_false]
      omega
  unfold numberLexeme
  simp only [Text.digitsValue_toDigits, hsize, Text.toWord_toInt]
  by_cases hsign : n.toInt < 0
  · simp [hsign, Lexeme.literal, Text.decimal]
  · simp [hsign, Lexeme.literal, Text.decimal]

/-- Digits are read together with the sign before them, as far as they go. -/
theorem exists_scanLexeme_signed {negative : Bool} {digits rest : List Char} (hne : digits ≠ [])
    (hdigits : forall d, d ∈ digits -> d.isDigit = true)
    (hstop : forall d, rest.head? = some d -> d.isDigit = false) (p : Position) :
    exists c body, (if negative then '-' :: digits else digits) = c :: body ∧
      skip false p (c :: (body ++ rest)) = (p, c :: (body ++ rest)) ∧
      scanLexeme c (body ++ rest) = (numberLexeme negative digits).map fun lexeme => (lexeme, rest) := by
  have hrun := takeWhile_append hdigits hstop
  rcases List.exists_cons_of_ne_nil hne with ⟨c, body, rfl⟩
  have hc : c.isDigit = true := hdigits c List.mem_cons_self
  have hrange := range_of_isWordPart (isWordPart_of_isDigit hc)
  cases negative with
  | true =>
      refine ⟨'-', c :: body, rfl, ?_, ?_⟩
      · apply skip_start (by decide)
        intro h
        have hminus : c = '-' := Option.some.inj h.2
        rw [hminus] at hc
        cases hc
      · have hhead : (c :: body ++ rest).head?.any Char.isDigit = true := hc
        unfold scanLexeme
        rw [if_neg (by decide), if_neg (by decide), if_pos ⟨rfl, hhead⟩, hrun.1, hrun.2]
  | false =>
      have hquote : c ≠ Text.Quoted.quote := by
        intro hsame
        rw [hsame] at hc
        cases hc
      refine ⟨c, body, rfl, ?_, ?_⟩
      · apply skip_start (isBlank_eq_false (by omega) (by omega))
        intro h
        rw [h.1] at hc
        cases hc
      · unfold scanLexeme
        rw [List.cons_append] at hrun
        rw [if_neg hquote, if_pos hc, hrun.1, hrun.2]

theorem scans_signed {negative : Bool} {digits rest : List Char} {lexeme : Lexeme}
    (hne : digits ≠ []) (hdigits : forall d, d ∈ digits -> d.isDigit = true)
    (hnumber : numberLexeme negative digits = .ok lexeme)
    (hstop : forall d, rest.head? = some d -> d.isDigit = false) : lexeme.Scans rest := by
  intro p
  rcases exists_scanLexeme_signed hne hdigits hstop p with ⟨c, body, htext, hskip, hscan⟩
  rw [hnumber] at hscan
  rw [← numberLexeme_text hnumber] at htext
  have hstep := scan_of_lexeme hskip hscan
  rw [← List.cons_append, ← htext] at hstep
  exact hstep

theorem scans_number (n : Int64) {rest : List Char}
    (hstop : forall d, rest.head? = some d -> d.isDigit = false) :
    (Lexeme.literal (.integer n)).Scans rest :=
  scans_signed Nat.toDigits_ne_nil
    (fun _ hd => Nat.isDigit_of_mem_toDigits (by decide) (by decide) hd) (numberLexeme_toDigits n)
    hstop

/-- The symbols that statements are spelled with; none of them starts a longer one. -/
def Symbol.plain : List Symbol :=
  [equal, leftParen, rightParen, comma, semicolon, dot, star]

theorem scans_symbol {s : Symbol} (h : s ∈ Symbol.plain) (rest : List Char) :
    (Lexeme.symbol s).Scans rest := by
  unfold Symbol.plain at h
  simp only [List.mem_cons, List.not_mem_nil, or_false] at h
  have hcomment : forall c : Char, c ≠ '-' ->
      ¬ (c = '-' ∧ ([] ++ rest : List Char).head? = some '-') := fun c hc h => hc h.1
  rcases h with rfl | rfl | rfl | rfl | rfl | rfl | rfl <;>
    exact scans_of_scanLexeme rfl (by decide) (by decide) (hcomment _ (by decide)) rfl

/-!
# Sound lexemes
-/

/-- A lexeme scans back in front of a detached rest; a symbol does in front of any, and what stands
before it is detached. -/
structure Lexeme.Sound (lexeme : Lexeme) : Prop where
  scans : forall rest, lexeme.isSymbol = true ∨ Detached rest -> lexeme.Scans rest
  detaches : lexeme.isSymbol = true -> forall rest, Detached (lexeme.text ++ rest)

theorem Lexeme.sound_of_detached {lexeme : Lexeme} (hsymbol : lexeme.isSymbol = false)
    (hscans : forall rest, Detached rest -> lexeme.Scans rest) : lexeme.Sound where
  scans := by
    intro rest hrest
    rcases hrest with hisSymbol | hdetached
    · rw [hsymbol] at hisSymbol
      cases hisSymbol
    · exact hscans rest hdetached
  detaches := by
    intro hisSymbol
    rw [hsymbol] at hisSymbol
    cases hisSymbol

/-- A reserved word is a keyword or a truth value. -/
theorem TokenKind.ofWord?_cases {word : String} {kind : TokenKind} (h : ofWord? word = some kind) :
    (exists b, kind = .boolean b) ∨ exists k, kind = .keyword k := by
  simp only [ofWord?] at h
  split at h
  · cases h
    exact Or.inl ⟨true, rfl⟩
  · split at h
    · cases h
      exact Or.inl ⟨false, rfl⟩
    · rcases Option.map_eq_some_iff.mp h with ⟨k, _, hk⟩
      exact Or.inr ⟨k, hk.symm⟩

theorem TokenKind.ofWord_cases (word : List Char) :
    (exists b, ofWord word = .boolean b) ∨ (exists k, ofWord word = .keyword k) ∨
      exists s, ofWord word = .name s := by
  simp only [ofWord]
  cases hreserved : ofWord? (String.ofList word) with
  | none => exact Or.inr (Or.inr ⟨_, rfl⟩)
  | some kind =>
      rw [Option.getD_some]
      exact (ofWord?_cases hreserved).imp_right Or.inl

theorem TokenKind.ofWord_ne_symbol (word : List Char) (s : Symbol) : ofWord word ≠ .symbol s := by
  intro h
  rcases ofWord_cases word with ⟨b, hb⟩ | ⟨k, hk⟩ | ⟨name, hname⟩
  · rw [hb] at h
    cases h
  · rw [hk] at h
    cases h
  · rw [hname] at h
    cases h

theorem Lexeme.sound_word {lexeme : Lexeme} {c : Char} {body : List Char}
    (htext : lexeme.text = c :: body) (hkind : lexeme.kind = TokenKind.ofWord lexeme.text)
    (hstart : isWordStart c = true) (hbody : forall d, d ∈ body -> isWordPart d = true) :
    lexeme.Sound := by
  apply sound_of_detached
  · unfold isSymbol
    split
    · next s hsymbol =>
        rw [hkind] at hsymbol
        exact absurd hsymbol (TokenKind.ofWord_ne_symbol _ s)
    · rfl
  · intro rest hrest
    exact scans_word htext hkind hstart hbody (hrest.stops fun _ hd => hd)

theorem Lexeme.kind_name (s : String) : (Lexeme.name s).kind = TokenKind.ofWord s.toList := by
  simp only [name]

theorem Lexeme.sound_name {s : String} (h : PrintableName s) : (Lexeme.name s).Sound := by
  rcases h.word with ⟨c, rest, hs, hstart, hrest⟩
  have htext : (Lexeme.name s).text = c :: rest := hs
  exact sound_word htext (kind_name s) hstart hrest

/-- A reserved word is spelled so that it is read as the word it is. -/
theorem Lexeme.sound_reserved {lexeme : Lexeme}
    (hstart : lexeme.text.head?.any isWordStart = true)
    (hbody : lexeme.text.tail.all isWordPart = true)
    (hkind : lexeme.kind = TokenKind.ofWord lexeme.text) : lexeme.Sound := by
  cases htext : lexeme.text with
  | nil =>
      rw [htext] at hstart
      cases hstart
  | cons c body =>
      rw [htext] at hstart hbody
      exact sound_word htext hkind hstart (List.all_eq_true.mp hbody)

theorem Lexeme.sound_keyword (k : Keyword) : (Lexeme.keyword k).Sound := by
  have hshape : (Lexeme.keyword k).text.head?.any isWordStart = true ∧
      (Lexeme.keyword k).text.tail.all isWordPart = true ∧
      (Lexeme.keyword k).kind = TokenKind.ofWord (Lexeme.keyword k).text := by
    cases k <;> decide
  exact sound_reserved hshape.1 hshape.2.1 hshape.2.2

theorem Lexeme.sound_literal (v : Value) : (Lexeme.literal v).Sound := by
  cases v with
  | integer n =>
      exact sound_of_detached rfl fun _ hrest =>
        scans_number n (hrest.stops fun _ => isWordPart_of_isDigit)
  | text s => exact sound_of_detached rfl fun _ hrest => scans_text s hrest.head?_ne_quote
  | boolean b =>
      cases b with
      | true => exact sound_reserved (by decide) (by decide) (by decide)
      | false => exact sound_reserved (by decide) (by decide) (by decide)
  | null => exact sound_keyword .NULL

theorem Lexeme.sound_symbol {s : Symbol} (h : s ∈ Symbol.plain) : (Lexeme.symbol s).Sound where
  scans := fun rest _ => scans_symbol h rest
  detaches := by
    intro _ rest
    unfold Symbol.plain at h
    simp only [List.mem_cons, List.not_mem_nil, or_false] at h
    rcases h with rfl | rfl | rfl | rfl | rfl | rfl | rfl <;>
      exact detached_cons (by decide) (by decide) rest

/-!
# Texts of lexemes
-/

theorem spellAll_cons (layout : Layout) (first : Lexeme) (rest : List Lexeme) :
    exists more, spellAll layout (first :: rest) = first.text ++ more := by
  cases rest with
  | nil => exact ⟨[], (List.append_nil _).symm⟩
  | cons second others =>
      refine ⟨gap layout first second ++ spellAll layout (second :: others), ?_⟩
      rw [spellAll, List.append_assoc]

/-- The text of sound lexemes scans to their kinds and an end mark. -/
theorem scan_spellAll (layout : Layout) {lexemes : List Lexeme}
    (h : forall lexeme, lexeme ∈ lexemes -> lexeme.Sound) (p : Position) :
    exists tokens, scan p (spellAll layout lexemes) = .ok tokens ∧
      tokens.map Token.kind = lexemes.map Lexeme.kind ++ [.endOfInput] := by
  have hend : forall q, scan q [] = .ok [⟨.endOfInput, q⟩] := fun q => scan_of_end rfl
  induction lexemes using spellAll.induct generalizing p with
  | case1 => exact ⟨_, hend p, rfl⟩
  | case2 last =>
      have hlast := (h last List.mem_cons_self).scans [] (Or.inr detached_nil) p
      rw [List.append_nil, hend] at hlast
      exact ⟨_, hlast, rfl⟩
  | case3 first second rest ih =>
      rcases List.forall_mem_cons.mp h with ⟨hfirst, hrest⟩
      rcases spellAll_cons layout second rest with ⟨more, hmore⟩
      rw [spellAll, List.append_assoc]
      -- Without a space one of the two is a symbol, and a symbol parts them as well.
      by_cases htight : ((first.isSymbol || second.isSymbol) && layout first second) = true
      · have hparted : first.isSymbol = true ∨ Detached (spellAll layout (second :: rest)) := by
          rw [Bool.and_eq_true, Bool.or_eq_true] at htight
          rcases htight.1 with hsymbol | hsymbol
          · exact Or.inl hsymbol
          · rw [hmore]
            exact Or.inr ((hrest second List.mem_cons_self).detaches hsymbol more)
        have hstep := hfirst.scans _ hparted p
        rcases ih hrest (p.advance first.text) with ⟨tokens, htokens, hkinds⟩
        rw [htokens] at hstep
        refine ⟨⟨first.kind, p⟩ :: tokens, ?_, congrArg (first.kind :: ·) hkinds⟩
        unfold gap
        rw [if_pos htight]
        exact hstep
      · have hspace : Detached (' ' :: spellAll layout (second :: rest)) :=
          detached_cons (by decide) (by decide) _
        have hstep := hfirst.scans _ (Or.inr hspace) p
        rcases ih hrest ((p.advance first.text).after ' ') with ⟨tokens, htokens, hkinds⟩
        rw [scan_space, htokens] at hstep
        refine ⟨⟨first.kind, p⟩ :: tokens, ?_, congrArg (first.kind :: ·) hkinds⟩
        unfold gap
        rw [if_neg htight]
        exact hstep

end Sql
end Tabula
