import Tabula.Proofs.Sql.Blanks
import Tabula.Proofs.Sql.Positions

/-!
# Names pasted into statements

A text that is put behind `DESCRIBE` is read as the name of a table if it is a word.  Another text may
be read too, one with a blank at its end for instance, but then as the name of another table.

## Main statements

- `parse_describe_of_isWord`: a word stands for a table of that name, in whatever letter case.
- `exists_of_parse_describe`: nothing but a DESCRIBE statement is read.
- `isWord_of_parse_describe`: no other text stands for a table of its own name.
-/

namespace Tabula
namespace Sql

open Grammar (Ident)

/-!
# Words
-/

/-- A word, be it a reserved one. -/
def IsWord (s : String) : Prop :=
  exists c rest, s.toList = c :: rest ∧ isWordStart c = true ∧
    forall d, d ∈ rest -> isWordPart d = true

theorem isWord_iff {s : String} :
    IsWord s <-> s.toList.head?.any isWordStart = true ∧ s.toList.tail.all isWordPart = true := by
  unfold IsWord
  cases s.toList with
  | nil => simp
  | cons c rest => simp

instance (s : String) : Decidable (IsWord s) :=
  decidable_of_iff' _ isWord_iff

theorem IsWord.isAscii {s : String} (h : IsWord s) : Text.IsAscii s := by
  rcases h with ⟨c, rest, hs, hstart, hrest⟩
  have hword : forall d, d ∈ c :: rest -> isWordPart d = true :=
    List.forall_mem_cons.mpr ⟨isWordPart_of_isWordStart hstart, hrest⟩
  rw [← String.ofList_toList (s := s), hs]
  exact isAscii_of_isWordPart hword

theorem PrintableName.isWord {s : String} (h : PrintableName s) : IsWord s :=
  h.word

/-!
# Names
-/

theorem Grammar.Ident.spelling_of_word? {d : Ident} {s : String} (h : d.kind.word? = some s) :
    d.spelling = s := by
  cases d with
  | name _ => cases h
  | keyword k =>
      cases h
      rfl
  | boolean b =>
      cases b with
      | true =>
          cases h
          rfl
      | false =>
          cases h
          rfl

theorem exists_ident_of_ofWord (word : List Char) : exists d : Ident, d.kind = TokenKind.ofWord word := by
  simp only [TokenKind.ofWord]
  cases hreserved : TokenKind.ofWord? (String.ofList word) with
  | none => exact ⟨.name (String.ofList word), rfl⟩
  | some kind =>
      rcases TokenKind.ofWord?_cases hreserved with ⟨b, rfl⟩ | ⟨k, rfl⟩
      · exact ⟨.boolean b, rfl⟩
      · exact ⟨.keyword k, rfl⟩

/-- A name is written as a word that differs from it in letter case at most. -/
theorem Spelling.of_ident {d : Ident} {text : List Char} (h : Spelling d.kind text) :
    IsWord (String.ofList text) ∧
      Text.lowercase d.spelling = Text.lowercase (String.ofList text) := by
  generalize hkind : d.kind = kind at h
  cases h with
  | @reserved _ s _ hs hword =>
      rcases exists_word_of_reserved hs hword with ⟨c, body, rfl, hstart, hbody⟩
      rw [← hkind] at hs
      refine ⟨⟨c, body, String.toList_ofList, hstart, hbody⟩, ?_⟩
      have hfolded : d.spelling = Text.folded (String.ofList (c :: body)) := by
        unfold Text.folded Text.fold
        rw [d.spelling_of_word? hs, String.toList_ofList, hword, String.ofList_toList]
      rw [hfolded, Text.lowercase_folded]
  | name hstart hrest _ =>
      refine ⟨⟨_, _, String.toList_ofList, hstart, hrest⟩, ?_⟩
      cases d with
      | name s =>
          cases hkind
          rfl
      | keyword k => cases hkind
      | boolean b => cases hkind
  | number _ _ _ => cases d <;> cases hkind
  | text s => cases d <;> cases hkind
  | symbol s => cases d <;> cases hkind
  | unequal => cases d <;> cases hkind

/-!
# Behind DESCRIBE
-/

theorem tokenize_describe (s : String) :
    tokenize ("DESCRIBE " ++ s) = (scan ⟨1, 10⟩ s.toList).map fun tokens =>
      ⟨.keyword .DESCRIBE, Position.start⟩ :: tokens := by
  have hspelling : Spelling (.keyword .DESCRIBE) "DESCRIBE".toList :=
    .reserved rfl (by decide)
  have hparted : Parted (' ' :: s.toList) := by
    intro c hc
    cases hc
    exact Or.inl (by decide)
  have htext : ("DESCRIBE " ++ s).toList = "DESCRIBE".toList ++ ' ' :: s.toList := by
    rw [String.toList_append]
    rfl
  unfold tokenize
  rw [htext]
  have hscan := hspelling.scans (hparted.ends _) Position.start
  dsimp only at hscan
  rw [hscan, scan_space]
  rfl

theorem Spelling.ne_endOfInput {kind : TokenKind} {text : List Char} (h : Spelling kind text) :
    kind ≠ .endOfInput := by
  intro hkind
  subst hkind
  cases h with
  | reserved hword _ => cases hword

/-- The tokens of a text: those of its spellings, and an end mark. -/
theorem kinds_of_scan {p : Position} {cs : List Char} {tokens : List Token}
    (h : scan p cs = .ok tokens) :
    exists pieces ending, cs = assemble pieces ending ∧
      (forall piece, piece ∈ pieces -> piece.Valid) ∧ Gap true ending ∧
      tokens.map Token.kind = (pieces.map fun piece => piece.lexeme.kind) ++ [.endOfInput] ∧
      .endOfInput ∉ pieces.map fun piece => piece.lexeme.kind := by
  rcases exists_pieces_of_scan h with ⟨pieces, ending, hcs, hpieces, hending, rfl⟩
  refine ⟨pieces, ending, hcs, hpieces.valid, hending, map_kind_placed p pieces ending, ?_⟩
  intro hmem
  rcases List.mem_map.mp hmem with ⟨piece, hpiece, hkind⟩
  exact (hpieces.valid piece hpiece).spelling.ne_endOfInput hkind

namespace Statement

/-- What may stand behind the name in a DESCRIBE statement. -/
def Closing (last : List TokenKind) : Prop :=
  last = [] ∨ last = [.symbol .semicolon]

theorem derives_describe_iff {table : String} {kinds : List TokenKind} :
    (exists d : Grammar.Derivation, d.Derives (.keyword .DESCRIBE :: kinds) ∧
        d.statement = .describe table) <->
      exists (d : Ident) (last : List TokenKind), kinds = d.kind :: last ∧ Closing last ∧
        d.spelling = table := by
  constructor
  · rintro ⟨d, hderives, hstatement⟩
    cases d with
    | describe d =>
        cases hstatement
        rcases hderives with hkinds | hkinds
        · cases hkinds
          exact ⟨d, [], rfl, Or.inl rfl, rfl⟩
        · cases hkinds
          exact ⟨d, _, rfl, Or.inr rfl, rfl⟩
    | _ => cases hstatement
  · rintro ⟨d, last, rfl, hlast | hlast, rfl⟩
    · subst hlast
      exact ⟨.describe d, Or.inl rfl, rfl⟩
    · subst hlast
      exact ⟨.describe d, Or.inr rfl, rfl⟩

/-- Behind DESCRIBE a word stands for a table of that name. -/
theorem parse_describe_of_isWord {s : String} (h : IsWord s) :
    exists table, parse ("DESCRIBE " ++ s) = .ok (.describe table) ∧
      Text.lowercase table = Text.lowercase s := by
  rcases exists_ident_of_ofWord s.toList with ⟨d, hkind⟩
  have hspelling : Spelling d.kind s.toList := by
    rcases h with ⟨c, rest, hs, hstart, hrest⟩
    rw [hkind, hs]
    exact spelling_word hstart hrest
  let piece : Piece := ⟨[], ⟨d.kind, s.toList⟩⟩
  have hpieces : Munched [] [piece] := .cons ⟨.nil, hspelling⟩ nofun .nil
  have hscan := scan_assemble hpieces .nil ⟨1, 10⟩
  have htext : assemble [piece] [] = s.toList := List.append_nil _
  rw [htext] at hscan
  have htokens := tokenize_describe s
  rw [hscan] at htokens
  have hname := hspelling.of_ident.2
  rw [String.ofList_toList] at hname
  refine ⟨d.spelling, parse_eq_ok_iff.mpr ⟨_, htokens, ?_⟩, hname⟩
  have hinside : .endOfInput ∉ [.keyword .DESCRIBE, d.kind] := by
    intro hmem
    rcases List.mem_cons.mp hmem with hhead | htail
    · cases hhead
    · exact hspelling.ne_endOfInput (List.mem_singleton.mp htail).symm
  apply (ofTokens_eq_ok_iff_of_kinds rfl hinside).mpr
  exact derives_describe_iff.mpr ⟨d, [], rfl, Or.inl rfl, rfl⟩

/-- A text behind DESCRIBE that is read is made of pieces, which derive a statement. -/
theorem derives_of_parse_describe {s : String} {statement : Statement}
    (h : parse ("DESCRIBE " ++ s) = .ok statement) :
    exists pieces ending, s.toList = assemble pieces ending ∧
      (forall piece, piece ∈ pieces -> piece.Valid) ∧
      exists d : Grammar.Derivation,
        d.Derives (.keyword .DESCRIBE :: pieces.map fun piece => piece.lexeme.kind) ∧
          d.statement = statement := by
  rcases parse_eq_ok_iff.mp h with ⟨tokens, htokens, hresult⟩
  rw [tokenize_describe] at htokens
  rcases exists_of_map_eq_ok htokens with ⟨others, hscan, rfl⟩
  rcases kinds_of_scan hscan with ⟨pieces, ending, hs, hpieces, hending, hkinds, hinside⟩
  have hown : (⟨.keyword .DESCRIBE, Position.start⟩ :: others : List Token).map Token.kind =
      (.keyword .DESCRIBE :: pieces.map fun piece => piece.lexeme.kind) ++ [.endOfInput] :=
    congrArg (List.cons _) hkinds
  have hfree : .endOfInput ∉ (.keyword .DESCRIBE :: pieces.map fun piece => piece.lexeme.kind) := by
    intro hmem
    rcases List.mem_cons.mp hmem with hhead | htail
    · cases hhead
    · exact hinside htail
  exact ⟨pieces, ending, hs, hpieces, (ofTokens_eq_ok_iff_of_kinds hown hfree).mp hresult⟩

/-- Whatever stands behind DESCRIBE, no other statement is read. -/
theorem exists_of_parse_describe {s : String} {statement : Statement}
    (h : parse ("DESCRIBE " ++ s) = .ok statement) : exists table, statement = .describe table := by
  rcases derives_of_parse_describe h with ⟨_, _, _, _, d, hderives, hstatement⟩
  cases d with
  | describe d => exact ⟨d.spelling, hstatement.symm⟩
  | _ => rcases hderives with hkinds | hkinds <;> cases hkinds

/-- If a text behind DESCRIBE stands for a table of the same name, it is a word. -/
theorem isWord_of_parse_describe {s table : String}
    (hparse : parse ("DESCRIBE " ++ s) = .ok (.describe table))
    (hname : Text.lowercase table = Text.lowercase s) : IsWord s := by
  rcases derives_of_parse_describe hparse with ⟨pieces, ending, hs, hpieces, hderivation⟩
  rcases derives_describe_iff.mp hderivation with ⟨d, last, hpiecesKinds, _, hd⟩
  rcases List.map_eq_cons_iff.mp hpiecesKinds with ⟨piece, rest, rfl, hkind, _⟩
  rcases (hpieces piece List.mem_cons_self) with ⟨hgap, hspelling⟩
  rw [hkind] at hspelling
  rcases hspelling.of_ident with ⟨hword, hlower⟩
  -- The name is as long as its word in lowercase, so nothing stands beside the word.
  have hlength := Text.length_le_lowercase s
  rw [← hname, ← hd, hlower, hword.isAscii.lowercase_eq, String.toList_ofList, Text.length_fold,
    String.toList_ofList, hs, assemble, List.length_append, List.length_append] at hlength
  have hfront : piece.gap = [] := List.length_eq_zero_iff.mp (by omega)
  have hback : assemble rest ending = [] := List.length_eq_zero_iff.mp (by omega)
  rw [assemble, hfront, hback, List.nil_append, List.append_nil] at hs
  rw [← hs, String.ofList_toList] at hword
  exact hword

end Statement
end Sql
end Tabula
