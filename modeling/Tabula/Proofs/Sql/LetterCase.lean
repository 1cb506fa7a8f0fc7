import Tabula.Proofs.Result
import Tabula.Proofs.Sql.Scan
import Tabula.Proofs.Text.Case

/-!
# Letter case in the text of a statement

The letters of a text are folded to small ones outside its quoted literals, so two texts with the same
folded form differ at most in the case of ASCII letters outside literals.  Scanning does not see the
difference but for the names among the tokens, and those it reads in the folded form.
-/

namespace Tabula

/-!
# Names
-/

/-- A text with A to Z replaced by a to z. -/
def Text.folded (s : String) : String :=
  String.ofList (fold s)

theorem Text.toLower_toLower (c : Char) : c.toLower.toLower = c.toLower :=
  apply_toLower Char.toLower rfl c

theorem Text.fold_folded (s : String) : fold (folded s) = fold s := by
  unfold folded fold
  rw [String.toList_ofList, List.map_map]
  apply List.map_congr_left
  intro c _
  exact toLower_toLower c

theorem Text.alike_folded (s : String) : alike (folded s) s = true :=
  alike_iff.mpr (fold_folded s)

theorem Text.lowercase_folded (s : String) : lowercase (folded s) = lowercase s :=
  lowercase_eq_of_alike (alike_folded s)

theorem Text.folded_folded (s : String) : folded (folded s) = folded s :=
  congrArg String.ofList (fold_folded s)

theorem Text.folded_append (a b : String) : folded (a ++ b) = folded a ++ folded b := by
  unfold folded fold
  rw [String.toList_append, List.map_append, String.ofList_append]

theorem Text.alike_iff_folded {a b : String} : alike a b = true <-> folded a = folded b := by
  rw [alike_iff]
  constructor
  · intro h
    exact congrArg String.ofList h
  · intro h
    rw [← fold_folded a, h, fold_folded b]

namespace Sql

/-!
# Texts
-/

/-- A text with A to Z replaced by a to z, except within quoted literals.  No literal begins within a
comment, and a quote without a partner begins none. -/
def foldCase (inComment : Bool) : List Char -> List Char
  | [] => []
  | c :: rest =>
      if inComment then
        c.toLower :: foldCase (c != '\n') rest
      else if c = Text.Quoted.quote then
        match _ : Text.Quoted.span rest with
        | some (body, after) => c :: (body ++ Text.Quoted.quote :: foldCase false after)
        | none => c :: rest.map Char.toLower
      else
        c.toLower :: foldCase (c = '-' ∧ rest.head? = some '-') rest
termination_by cs => cs.length
decreasing_by
  · exact Nat.lt_succ_self _
  · have hlength := congrArg List.length (Text.Quoted.span_eq ‹_›)
    simp at hlength ⊢
    omega
  · exact Nat.lt_succ_self _

theorem foldCase_nil (inComment : Bool) : foldCase inComment [] = [] := by
  rw [foldCase]

theorem foldCase_comment (c : Char) (rest : List Char) :
    foldCase true (c :: rest) = c.toLower :: foldCase (c != '\n') rest := by
  rw [foldCase]
  exact if_pos rfl

theorem foldCase_literal {rest body after : List Char}
    (h : Text.Quoted.span rest = some (body, after)) :
    foldCase false (Text.Quoted.quote :: rest) =
      Text.Quoted.quote :: (body ++ Text.Quoted.quote :: foldCase false after) := by
  rw [foldCase, if_neg Bool.false_ne_true, if_pos rfl]
  split
  · next hother =>
      rw [h] at hother
      cases hother
      rfl
  · next hother =>
      rw [h] at hother
      cases hother

theorem foldCase_unterminated {rest : List Char} (h : Text.Quoted.span rest = none) :
    foldCase false (Text.Quoted.quote :: rest) = Text.Quoted.quote :: rest.map Char.toLower := by
  rw [foldCase, if_neg Bool.false_ne_true, if_pos rfl]
  split
  · next hother =>
      rw [h] at hother
      cases hother
  · rfl

theorem foldCase_cons {c : Char} (h : c ≠ Text.Quoted.quote) (rest : List Char) :
    foldCase false (c :: rest) =
      c.toLower :: foldCase (c = '-' ∧ rest.head? = some '-') rest := by
  rw [foldCase, if_neg Bool.false_ne_true, if_neg h]

/-- A character that is no letter is told from the folded form of a character. -/
theorem toLower_eq_iff {mark : Char}
    (h : Text.capitals.all (fun c => c.toLower != mark && c != mark) = true) (c : Char) :
    c.toLower = mark <-> c = mark := by
  rcases Text.toLower_cases c with hsame | hcapital
  · rw [hsame]
  · have hc := List.all_eq_true.mp h c hcapital
    rw [Bool.and_eq_true, bne_iff_ne, bne_iff_ne] at hc
    exact iff_of_false hc.1 hc.2

theorem toLower_eq_quote_iff (c : Char) :
    c.toLower = Text.Quoted.quote <-> c = Text.Quoted.quote :=
  toLower_eq_iff rfl c

theorem toLower_eq_minus_iff (c : Char) : c.toLower = '-' <-> c = '-' :=
  toLower_eq_iff rfl c

theorem toLower_eq_newline_iff (c : Char) : c.toLower = '\n' <-> c = '\n' :=
  toLower_eq_iff rfl c

/-- Folding changes nothing but the case of letters. -/
theorem map_toLower_foldCase (inComment : Bool) (cs : List Char) :
    (foldCase inComment cs).map Char.toLower = cs.map Char.toLower := by
  induction inComment, cs using foldCase.induct with
  | case1 inComment => rw [foldCase_nil]
  | case2 c rest ih =>
      rw [foldCase_comment, List.map_cons, List.map_cons, Text.toLower_toLower, ih]
  | case3 inComment rest hcomment body after hspan ih =>
      rw [Bool.not_eq_true] at hcomment
      rw [hcomment, foldCase_literal hspan, Text.Quoted.span_eq hspan]
      simp only [List.map_cons, List.map_append, ih]
  | case4 inComment rest hcomment hspan =>
      rw [Bool.not_eq_true] at hcomment
      rw [hcomment, foldCase_unterminated hspan, List.map_cons, List.map_cons, List.map_map]
      exact congrArg _ (List.map_congr_left fun c _ => Text.toLower_toLower c)
  | case5 inComment c rest hcomment hquote ih =>
      rw [Bool.not_eq_true] at hcomment
      rw [hcomment, foldCase_cons hquote, List.map_cons, List.map_cons, Text.toLower_toLower, ih]

/-- The first character of a folded text is the first one of the text, folded. -/
theorem head?_foldCase (inComment : Bool) (cs : List Char) :
    (foldCase inComment cs).head? = cs.head?.map Char.toLower := by
  cases cs with
  | nil => rw [foldCase_nil]; rfl
  | cons c rest =>
      cases inComment with
      | true => rw [foldCase_comment]; rfl
      | false =>
          by_cases hc : c = Text.Quoted.quote
          · subst hc
            cases hspan : Text.Quoted.span rest with
            | none => rw [foldCase_unterminated hspan]; rfl
            | some pair => rw [foldCase_literal hspan]; rfl
          · rw [foldCase_cons hc]
            rfl

theorem head?_foldCase_eq_minus_iff (inComment : Bool) (cs : List Char) :
    (foldCase inComment cs).head? = some '-' <-> cs.head? = some '-' := by
  rw [head?_foldCase]
  cases cs with
  | nil => exact iff_of_false nofun nofun
  | cons c rest =>
      rw [List.head?_cons, Option.map_some, Option.some.injEq, Option.some.injEq]
      exact toLower_eq_minus_iff c

/-- Characters that neither begin a literal nor a comment are folded one by one. -/
theorem foldCase_append {word : List Char}
    (h : forall c, c ∈ word -> c ≠ Text.Quoted.quote ∧ c ≠ '-') (rest : List Char) :
    foldCase false (word ++ rest) = word.map Char.toLower ++ foldCase false rest := by
  induction word with
  | nil => rfl
  | cons c others ih =>
      rcases List.forall_mem_cons.mp h with ⟨hc, hothers⟩
      have hminus : decide (c = '-' ∧ (others ++ rest).head? = some '-') = false :=
        decide_eq_false fun hcomment => hc.2 hcomment.1
      rw [List.cons_append, foldCase_cons hc.1, hminus, ih hothers]
      rfl

/-- A run of characters that is told by a property that is blind to case. -/
theorem span_foldCase {property : Char -> Bool}
    (hplain : forall c, property c = true -> c ≠ Text.Quoted.quote ∧ c ≠ '-')
    (hblind : forall c : Char, property c.toLower = property c) (cs : List Char) :
    (foldCase false cs).takeWhile property = (cs.takeWhile property).map Char.toLower ∧
      (foldCase false cs).dropWhile property = foldCase false (cs.dropWhile property) := by
  have hrun : forall c, c ∈ cs.takeWhile property -> property c = true :=
    List.all_eq_true.mp List.all_takeWhile
  have hfolded : foldCase false cs =
      (cs.takeWhile property).map Char.toLower ++ foldCase false (cs.dropWhile property) := by
    rw [← foldCase_append fun c hc => hplain c (hrun c hc), List.takeWhile_append_dropWhile]
  have hmapped : forall c, c ∈ (cs.takeWhile property).map Char.toLower -> property c = true := by
    intro c hc
    rcases List.mem_map.mp hc with ⟨d, hd, rfl⟩
    rw [hblind]
    exact hrun d hd
  have hstop : forall c, (foldCase false (cs.dropWhile property)).head? = some c ->
      property c = false := by
    intro c hc
    rw [head?_foldCase] at hc
    rcases Option.map_eq_some_iff.mp hc with ⟨d, hd, rfl⟩
    rw [hblind]
    have hdrop := List.head?_dropWhile_not property cs
    rw [hd] at hdrop
    exact hdrop
  rw [hfolded, List.takeWhile_append_of_pos hmapped, List.dropWhile_append_of_pos hmapped]
  cases hrest : foldCase false (cs.dropWhile property) with
  | nil => exact ⟨List.append_nil _, rfl⟩
  | cons c others =>
      have hc := hstop c (by rw [hrest]; rfl)
      rw [List.takeWhile_cons_of_neg (by rw [hc]; exact Bool.false_ne_true),
        List.dropWhile_cons_of_neg (by rw [hc]; exact Bool.false_ne_true)]
      exact ⟨List.append_nil _, rfl⟩

/-!
# Positions
-/

theorem Position.after_toLower (p : Position) (c : Char) : p.after c.toLower = p.after c := by
  unfold Position.after
  simp only [toLower_eq_newline_iff]

theorem Position.advance_toLower (p : Position) (cs : List Char) :
    p.advance (cs.map Char.toLower) = p.advance cs := by
  induction cs generalizing p with
  | nil => rfl
  | cons c rest ih =>
      rw [List.map_cons, advance_cons, advance_cons, after_toLower, ih]

/-!
# Between lexemes
-/

theorem isBlank_toLower (c : Char) : Text.isBlank c.toLower = Text.isBlank c :=
  Text.apply_toLower Text.isBlank rfl c

/-- Where a lexeme starts, one starts in the folded text. -/
theorem skip_foldCase_start {c : Char} {rest : List Char} (hblank : Text.isBlank c = false)
    (hcomment : ¬ (c = '-' ∧ rest.head? = some '-')) (p : Position) :
    skip false p (foldCase false (c :: rest)) = (p, foldCase false (c :: rest)) := by
  have hfolded : Text.isBlank c.toLower = false := (isBlank_toLower c).trans hblank
  by_cases hc : c = Text.Quoted.quote
  · subst hc
    have hminus : forall cs : List Char, ¬ (Text.Quoted.quote = '-' ∧ cs.head? = some '-') := by
      intro cs h
      cases h.1
    cases hspan : Text.Quoted.span rest with
    | none =>
        rw [foldCase_unterminated hspan]
        exact skip_start hblank (hminus _) p
    | some pair =>
        rw [foldCase_literal hspan]
        exact skip_start hblank (hminus _) p
  · rw [foldCase_cons hc]
    apply skip_start hfolded
    rw [toLower_eq_minus_iff, head?_foldCase_eq_minus_iff]
    exact hcomment

theorem skip_foldCase (inComment : Bool) (p : Position) (cs : List Char) :
    skip inComment p (foldCase inComment cs) =
      ((skip inComment p cs).1, foldCase false (skip inComment p cs).2) := by
  induction cs generalizing inComment p with
  | nil => rw [foldCase_nil, skip, foldCase_nil]
  | cons c rest ih =>
      cases inComment with
      | true =>
          have hend : (c.toLower != '\n') = (c != '\n') := by
            rw [Bool.eq_iff_iff, bne_iff_ne, bne_iff_ne, ne_eq, ne_eq, toLower_eq_newline_iff]
          rw [foldCase_comment, skip_comment, skip_comment, Position.after_toLower, hend, ih]
      | false =>
          by_cases hblank : Text.isBlank c = true
          · have hquote : c ≠ Text.Quoted.quote := by
              intro hc
              rw [hc] at hblank
              cases hblank
            have hminus : decide (c = '-' ∧ rest.head? = some '-') = false := by
              apply decide_eq_false
              intro hcomment
              rw [hcomment.1] at hblank
              cases hblank
            rw [foldCase_cons hquote, hminus, skip_blank hblank,
              skip_blank ((isBlank_toLower c).trans hblank), Position.after_toLower, ih]
          · rw [Bool.not_eq_true] at hblank
            by_cases hcomment : c = '-' ∧ rest.head? = some '-'
            · rcases hcomment with ⟨hc, hhead⟩
              subst hc
              have hfolded := (head?_foldCase_eq_minus_iff true rest).mpr hhead
              rw [foldCase_cons (by decide), decide_eq_true ⟨rfl, hhead⟩]
              exact (skip_minus hfolded p).trans ((ih true _).trans (by rw [skip_minus hhead]))
            · rw [skip_foldCase_start hblank hcomment, skip_start hblank hcomment]

/-!
# Symbols
-/

theorem symbol?_foldCase (c : Char) (rest : List Char) :
    symbol? (c.toLower :: foldCase false rest) = symbol? (c :: rest) := by
  have hmark : forall d, d = '=' ∨ d = '>' -> ((foldCase false rest).head? = some d <->
      rest.head? = some d) := by
    intro d hd
    rw [head?_foldCase]
    cases rest with
    | nil => exact iff_of_false nofun nofun
    | cons e others =>
        rw [List.head?_cons, Option.map_some, Option.some.injEq, Option.some.injEq]
        rcases hd with rfl | rfl
        · exact toLower_eq_iff rfl e
        · exact toLower_eq_iff rfl e
  have hpair : forall d others, d = '=' ∨ d = '>' -> rest = d :: others ->
      symbol? (c.toLower :: foldCase false rest) = symbol? (c :: rest) := by
    intro d others hd hrest
    subst hrest
    have hfirst : symbol? [c.toLower, d] = symbol? [c, d] := by
      rcases hd with rfl | rfl
      · exact Text.apply_toLower (fun c => symbol? [c, '=']) rfl c
      · exact Text.apply_toLower (fun c => symbol? [c, '>']) rfl c
    cases hfolded : foldCase false (d :: others) with
    | nil =>
        have hhead := (hmark d hd).mpr rfl
        rw [hfolded] at hhead
        cases hhead
    | cons e more =>
        have hhead := (hmark d hd).mpr rfl
        rw [hfolded, List.head?_cons, Option.some.injEq] at hhead
        rw [hhead, symbol?_pair hd c.toLower, hfirst, symbol?_pair hd c others]
  by_cases hequal : rest.head? = some '='
  · rcases List.head?_eq_some_iff.mp hequal with ⟨others, hrest⟩
    exact hpair '=' others (Or.inl rfl) hrest
  · by_cases hgreater : rest.head? = some '>'
    · rcases List.head?_eq_some_iff.mp hgreater with ⟨others, hrest⟩
      exact hpair '>' others (Or.inr rfl) hrest
    · have hlower : symbol? [c.toLower] = symbol? [c] :=
        Text.apply_toLower (fun c => symbol? [c]) rfl c
      rw [symbol?_short fun _ => ⟨hequal, hgreater⟩, symbol?_short, hlower]
      intro _
      exact ⟨fun h => hequal ((hmark '=' (Or.inl rfl)).mp h),
        fun h => hgreater ((hmark '>' (Or.inr rfl)).mp h)⟩

/-!
# Tokens
-/

/-- A name in the folded form; other tokens are told without their case, or keep it. -/
def TokenKind.folded : TokenKind -> TokenKind
  | .name s => .name (Text.folded s)
  | kind => kind

def Token.folded (token : Token) : Token :=
  ⟨token.kind.folded, token.position⟩

theorem TokenKind.folded_ofWord? {word : String} {kind : TokenKind} (h : ofWord? word = some kind) :
    kind.folded = kind := by
  rcases ofWord?_cases h with ⟨b, rfl⟩ | ⟨k, rfl⟩
  · rfl
  · rfl

theorem TokenKind.ofWord_toLower (word : List Char) :
    ofWord (word.map Char.toLower) = (ofWord word).folded := by
  have hfolded : String.ofList (word.map Char.toLower) = Text.folded (String.ofList word) := by
    unfold Text.folded Text.fold
    rw [String.toList_ofList]
  have hreserved : ofWord? (Text.folded (String.ofList word)) = ofWord? (String.ofList word) := by
    unfold ofWord?
    rw [Text.lowercase_folded]
  simp only [ofWord]
  rw [hfolded, hreserved]
  cases hword : ofWord? (String.ofList word) with
  | none => rfl
  | some kind => exact (folded_ofWord? hword).symm

/-- What is scanned off a text and off the folded text: a fault of both, or a token of each, up to the
case of a name, with the same extent. -/
inductive ScanAlike : Except SyntaxFault (Lexeme × List Char) ->
    Except SyntaxFault (Lexeme × List Char) -> Prop where
  | fault (fault fault' : SyntaxFault) : ScanAlike (.error fault) (.error fault')
  | lexeme {lexeme lexeme' : Lexeme} (after : List Char) (hkind : lexeme'.kind = lexeme.kind.folded)
      (htext : forall p : Position, p.advance lexeme'.text = p.advance lexeme.text) :
      ScanAlike (.ok (lexeme, after)) (.ok (lexeme', foldCase false after))

theorem numberLexeme_scanAlike (negative : Bool) (digits after : List Char) :
    ScanAlike ((numberLexeme negative digits).map fun lexeme => (lexeme, after))
      ((numberLexeme negative digits).map fun lexeme => (lexeme, foldCase false after)) := by
  cases hnumber : numberLexeme negative digits with
  | error fault => exact .fault fault fault
  | ok lexeme =>
      have hkind : lexeme.kind.folded = lexeme.kind := by
        rcases numberLexeme_kind hnumber with ⟨n, hn⟩
        rw [hn]
        rfl
      exact .lexeme after hkind.symm fun _ => rfl

theorem isDigit_toLower (c : Char) : c.toLower.isDigit = c.isDigit :=
  Text.apply_toLower Char.isDigit rfl c

theorem isWordStart_toLower (c : Char) : isWordStart c.toLower = isWordStart c :=
  Text.apply_toLower isWordStart rfl c

theorem isWordPart_toLower (c : Char) : isWordPart c.toLower = isWordPart c :=
  Text.apply_toLower isWordPart rfl c

theorem plain_of_isWordPart {c : Char} (h : isWordPart c = true) :
    c ≠ Text.Quoted.quote ∧ c ≠ '-' := by
  constructor
  · intro hc
    rw [hc] at h
    cases h
  · intro hc
    rw [hc] at h
    cases h

theorem toLower_of_isDigit {c : Char} (h : c.isDigit = true) : c.toLower = c := by
  rcases Text.toLower_cases c with hsame | hcapital
  · exact hsame
  · have hletters : Text.capitals.all (fun d => !d.isDigit) = true := rfl
    have hc := List.all_eq_true.mp hletters c hcapital
    rw [h] at hc
    cases hc

theorem span_digits_foldCase (cs : List Char) :
    (foldCase false cs).takeWhile Char.isDigit = cs.takeWhile Char.isDigit ∧
      (foldCase false cs).dropWhile Char.isDigit = foldCase false (cs.dropWhile Char.isDigit) := by
  have hspan := span_foldCase (fun c hc => plain_of_isWordPart (isWordPart_of_isDigit hc))
    isDigit_toLower cs
  have hsame : (cs.takeWhile Char.isDigit).map Char.toLower = cs.takeWhile Char.isDigit := by
    rw [List.map_congr_left fun c hc =>
      toLower_of_isDigit (List.all_eq_true.mp List.all_takeWhile c hc)]
    exact List.map_id' _
  rw [hsame] at hspan
  exact hspan

/-!
# Lexemes
-/

theorem span_toLower_eq_none {rest : List Char} (h : Text.Quoted.span rest = none) :
    Text.Quoted.span (rest.map Char.toLower) = none := by
  fun_induction Text.Quoted.span rest with
  | case1 => rfl
  | case2 => cases h
  | case3 c hc =>
      rw [List.map_singleton, Text.Quoted.span, if_neg (mt (toLower_eq_quote_iff c).mp hc)]
  | case4 others ih =>
      have hothers := ih (Option.map_eq_none_iff.mp h)
      show (Text.Quoted.span (others.map Char.toLower)).map _ = none
      rw [hothers]
      rfl
  | case5 => cases h
  | case6 c d others hc ih =>
      have hothers := ih (Option.map_eq_none_iff.mp h)
      rw [List.map_cons, Text.Quoted.span_cons_of_ne (mt (toLower_eq_quote_iff c).mp hc), hothers]
      rfl

theorem scanLexeme_quote_foldCase (rest : List Char) :
    exists rest', foldCase false (Text.Quoted.quote :: rest) = Text.Quoted.quote :: rest' ∧
      ScanAlike (scanLexeme Text.Quoted.quote rest) (scanLexeme Text.Quoted.quote rest') := by
  cases hspan : Text.Quoted.span rest with
  | none =>
      refine ⟨_, foldCase_unterminated hspan, ?_⟩
      rw [scanLexeme_quote, scanLexeme_quote, hspan, span_toLower_eq_none hspan]
      exact .fault _ _
  | some pair =>
      rcases pair with ⟨body, after⟩
      rcases span_behind hspan with ⟨hafter, hbody⟩
      have hfolded : (foldCase false after).head? ≠ some Text.Quoted.quote := by
        rw [head?_foldCase]
        cases after with
        | nil => nofun
        | cons c others =>
            intro hquote
            exact hafter (congrArg some ((toLower_eq_quote_iff c).mp (Option.some.inj hquote)))
      refine ⟨_, foldCase_literal hspan, ?_⟩
      rw [scanLexeme_quote, scanLexeme_quote, hspan, hbody _ hfolded]
      exact .lexeme after rfl fun _ => rfl

theorem wordLexeme_scanAlike (word after : List Char) :
    ScanAlike (.ok (⟨TokenKind.ofWord word, word⟩, after))
      (.ok (⟨TokenKind.ofWord (word.map Char.toLower), word.map Char.toLower⟩,
        foldCase false after)) :=
  .lexeme after (TokenKind.ofWord_toLower word) fun p => p.advance_toLower word

theorem symbol?_plain {cs : List Char} {symbol : Symbol} {size : Nat}
    (h : symbol? cs = some (symbol, size)) :
    size <= cs.length ∧
      forall c, c ∈ cs.take size -> c ≠ Text.Quoted.quote ∧ c ≠ '-' := by
  unfold symbol? at h
  split at h <;> cases h <;> exact ⟨by simp, by simp [Text.Quoted.quote]⟩

theorem symbolLexeme_scanAlike {cs : List Char} {symbol : Symbol} {size : Nat}
    (h : symbol? cs = some (symbol, size)) :
    ScanAlike (.ok (⟨.symbol symbol, cs.take size⟩, cs.drop size))
      (.ok (⟨.symbol symbol, (foldCase false cs).take size⟩, (foldCase false cs).drop size)) := by
  rcases symbol?_plain h with ⟨hsize, hplain⟩
  have hfolded := foldCase_append hplain (cs.drop size)
  have hlength : ((cs.take size).map Char.toLower).length = size := by
    rw [List.length_map, List.length_take_of_le hsize]
  rw [List.take_append_drop] at hfolded
  rw [hfolded, List.take_left' hlength, List.drop_left' hlength]
  exact .lexeme _ rfl fun p => p.advance_toLower _

/-- Off the folded text a scan takes what it takes off the text. -/
theorem scanLexeme_foldCase {c : Char} {rest : List Char}
    (hcomment : ¬ (c = '-' ∧ rest.head? = some '-')) :
    exists c' rest', foldCase false (c :: rest) = c' :: rest' ∧
      ScanAlike (scanLexeme c rest) (scanLexeme c' rest') := by
  by_cases hquote : c = Text.Quoted.quote
  · subst hquote
    exact ⟨_, scanLexeme_quote_foldCase rest⟩
  · have hquote' : ¬ c.toLower = Text.Quoted.quote := by
      rw [toLower_eq_quote_iff]
      exact hquote
    have hfolded : foldCase false (c :: rest) = c.toLower :: foldCase false rest := by
      rw [foldCase_cons hquote, decide_eq_false hcomment]
    refine ⟨_, _, hfolded, ?_⟩
    unfold scanLexeme
    rw [if_neg hquote, if_neg hquote', isDigit_toLower, isWordStart_toLower, symbol?_foldCase,
      ← hfolded, (span_digits_foldCase rest).1, (span_digits_foldCase rest).2,
      (span_digits_foldCase (c :: rest)).1, (span_digits_foldCase (c :: rest)).2]
    by_cases hdigit : c.isDigit = true
    · rw [if_pos hdigit, if_pos hdigit]
      exact numberLexeme_scanAlike false _ _
    · rw [if_neg hdigit, if_neg hdigit]
      have hnumber : (c.toLower = '-' ∧ (foldCase false rest).head?.any Char.isDigit = true) <->
          (c = '-' ∧ rest.head?.any Char.isDigit = true) := by
        rw [toLower_eq_minus_iff, head?_foldCase]
        cases rest with
        | nil => rfl
        | cons d others =>
            show _ ∧ d.toLower.isDigit = true <-> _ ∧ d.isDigit = true
            rw [isDigit_toLower]
      by_cases hminus : c = '-' ∧ rest.head?.any Char.isDigit = true
      · rw [if_pos hminus, if_pos (hnumber.mpr hminus)]
        exact numberLexeme_scanAlike true _ _
      · rw [if_neg hminus, if_neg (mt hnumber.mp hminus)]
        by_cases hword : isWordStart c = true
        · rw [if_pos hword, if_pos hword]
          have hspan := span_foldCase (fun c hc => plain_of_isWordPart hc) isWordPart_toLower
            (c :: rest)
          rw [hspan.1, hspan.2]
          exact wordLexeme_scanAlike _ _
        · rw [if_neg hword, if_neg hword]
          cases hsymbol : symbol? (c :: rest) with
          | none => exact .fault _ _
          | some pair =>
              rcases pair with ⟨symbol, size⟩
              exact symbolLexeme_scanAlike hsymbol

/-!
# Scanning
-/

/-- The folded text has the tokens of the text, up to the case of names, at the same places, or a
fault at the same place. -/
theorem scan_foldCase (p : Position) (cs : List Char) :
    (scan p (foldCase false cs)).mapError SyntaxError.position =
      ((scan p cs).map (List.map Token.folded)).mapError SyntaxError.position := by
  have hskip := skip_foldCase false p cs
  rcases hrest : skip false p cs with ⟨q, left⟩
  rw [hrest] at hskip
  cases left with
  | nil =>
      rw [foldCase_nil] at hskip
      rw [scan_of_end hrest, scan_of_end hskip]
      rfl
  | cons c rest =>
      rcases scanLexeme_foldCase (skip_stops hrest).2 with ⟨c', rest', hfolded, halike⟩
      simp only [hfolded] at hskip
      cases hscan : scanLexeme c rest with
      | error fault =>
          cases hscan' : scanLexeme c' rest' with
          | error fault' =>
              rw [scan_of_fault hrest hscan, scan_of_fault hskip hscan']
              rfl
          | ok result =>
              rw [hscan, hscan'] at halike
              cases halike
      | ok result =>
          rcases result with ⟨lexeme, after⟩
          cases hscan' : scanLexeme c' rest' with
          | error fault' =>
              rw [hscan, hscan'] at halike
              cases halike
          | ok result' =>
              rw [hscan, hscan'] at halike
              cases halike with
              | lexeme _ hkind htext =>
                  have ih := scan_foldCase (q.advance lexeme.text) after
                  rw [Result.mapError_map] at ih
                  rw [scan_of_lexeme hrest hscan, scan_of_lexeme hskip hscan', htext, hkind,
                    Result.mapError_map, Result.mapError_map, Result.mapError_map, ih,
                    Result.map_map, Result.map_map]
                  rfl
termination_by cs.length
decreasing_by exact scan_shorter hrest hscan

/-- The text of a statement in the folded form. -/
def foldedText (sql : String) : String :=
  String.ofList (foldCase false sql.toList)

theorem alike_foldedText (sql : String) : Text.alike (foldedText sql) sql = true := by
  rw [Text.alike_iff]
  unfold foldedText Text.fold
  rw [String.toList_ofList]
  exact map_toLower_foldCase false sql.toList

theorem tokenize_foldedText (sql : String) :
    (tokenize (foldedText sql)).mapError SyntaxError.position =
      ((tokenize sql).map (List.map Token.folded)).mapError SyntaxError.position := by
  unfold tokenize foldedText
  rw [String.toList_ofList]
  exact scan_foldCase Position.start sql.toList

end Sql
end Tabula
