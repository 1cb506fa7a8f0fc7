import Tabula.Proofs.Sql.Acceptance
import Tabula.Proofs.Sql.Scan
import Tabula.Sql.Statement.Render

/-!
# Statements that are read are printable

A name among the tokens of a text is a word, and a reserved word only if it is in lowercase; a derived
list has an item; and a derived column has no constraint twice.  So whatever statement a text spells
can be spelled.
-/

namespace Tabula
namespace Sql

/-!
# Names
-/

theorem PrintableName.isWordPart_of_mem {s : String} (h : PrintableName s) {c : Char}
    (hc : c ∈ s.toList) : isWordPart c = true := by
  rcases h.word with ⟨first, rest, hs, hfirst, hrest⟩
  rw [hs] at hc
  rcases List.mem_cons.mp hc with hsame | htail
  · rw [hsame]
    exact isWordPart_of_isWordStart hfirst
  · exact hrest c htail

theorem PrintableName.dot_not_mem {s : String} (h : PrintableName s) : '.' ∉ s.toList := by
  intro hdot
  exact absurd (h.isWordPart_of_mem hdot) (by decide)

/-- A reserved word in lowercase is a name. -/
theorem printableName_of_reserved {s : String} {c : Char} {rest : List Char} {kind : TokenKind}
    (hs : s.toList = c :: rest) (hfirst : isWordStart c = true)
    (hrest : rest.all isWordPart = true) (hkind : TokenKind.ofWord? s = some kind)
    (hword : kind.word? = some s) : PrintableName s := by
  refine ⟨⟨c, rest, hs, hfirst, List.all_eq_true.mp hrest⟩, ?_⟩
  intro other hother
  rw [hkind] at hother
  rw [← Option.some.inj hother]
  exact hword

theorem Keyword.ofWord?_word (k : Keyword) : TokenKind.ofWord? k.word = some (.keyword k) := by
  cases k <;> decide

theorem Keyword.printableName_word (k : Keyword) : PrintableName k.word := by
  have hshape : k.word.toList.head?.any isWordStart = true ∧
      k.word.toList.tail.all isWordPart = true := by
    cases k <;> decide
  cases hs : k.word.toList with
  | nil =>
      rw [hs] at hshape
      cases hshape.1
  | cons c rest =>
      rw [hs] at hshape
      exact printableName_of_reserved hs hshape.1 hshape.2 k.ofWord?_word rfl

theorem printableName_boolean (b : Bool) : PrintableName (if b then "true" else "false") := by
  cases b with
  | true => exact printableName_of_reserved rfl rfl (by decide) (by decide : _ = some (.boolean true)) rfl
  | false => exact printableName_of_reserved rfl rfl (by decide) (by decide : _ = some (.boolean false)) rfl

/-!
# Tokens
-/

/-- If a token is a name, the name can be printed. -/
def Token.Printable (token : Token) : Prop :=
  forall s, token.kind = .name s -> PrintableName s

theorem TokenKind.name_of_ofWord {word : List Char} {s : String}
    (h : TokenKind.ofWord word = .name s) :
    s = String.ofList word ∧ TokenKind.ofWord? s = none := by
  simp only [TokenKind.ofWord] at h
  cases hreserved : TokenKind.ofWord? (String.ofList word) with
  | none =>
      rw [hreserved] at h
      cases h
      exact ⟨rfl, hreserved⟩
  | some kind =>
      rw [hreserved, Option.getD_some] at h
      rcases ofWord?_cases hreserved with ⟨b, hb⟩ | ⟨k, hk⟩
      · rw [hb] at h
        cases h
      · rw [hk] at h
        cases h

theorem scanLexeme_name {c : Char} {rest after : List Char} {lexeme : Lexeme} {s : String}
    (h : scanLexeme c rest = .ok (lexeme, after)) (hkind : lexeme.kind = .name s) :
    PrintableName s := by
  rcases scanLexeme_kind h with ⟨_, htext⟩ | ⟨_, hnumber⟩ | ⟨_, hsymbol⟩ | ⟨hstart, hword⟩
  · rw [htext] at hkind
    cases hkind
  · rw [hnumber] at hkind
    cases hkind
  · rw [hsymbol] at hkind
    cases hkind
  · rw [hword] at hkind
    rcases TokenKind.name_of_ofWord hkind with ⟨hs, hfree⟩
    rw [List.takeWhile_cons_of_pos (isWordPart_of_isWordStart hstart)] at hs
    constructor
    · refine ⟨c, rest.takeWhile isWordPart, ?_, hstart, ?_⟩
      · rw [hs, String.toList_ofList]
      · exact List.all_eq_true.mp List.all_takeWhile
    · intro kind hreserved
      rw [hfree] at hreserved
      cases hreserved

/-!
# Texts
-/

theorem scan_printable {p : Position} {cs : List Char} {tokens : List Token}
    (h : scan p cs = .ok tokens) : forall token, token ∈ tokens -> token.Printable := by
  induction p, cs using scan.induct generalizing tokens with
  | case1 p cs q hskip =>
      rw [scan_of_end hskip] at h
      cases h
      intro token htoken s hkind
      rw [List.mem_singleton.mp htoken] at hkind
      cases hkind
  | case2 p cs q c rest hskip fault hscan =>
      rw [scan_of_fault hskip hscan] at h
      cases h
  | case3 p cs q c rest hskip lexeme after hscan ih =>
      rw [scan_of_lexeme hskip hscan] at h
      rcases exists_of_map_eq_ok h with ⟨others, hothers, htokens⟩
      rw [← htokens]
      intro token htoken
      rcases List.mem_cons.mp htoken with hhead | hrest
      · rw [hhead]
        intro s hkind
        exact scanLexeme_name hscan hkind
      · exact ih hothers token hrest

theorem tokenize_printable {sql : String} {tokens : List Token} (h : tokenize sql = .ok tokens) :
    forall token, token ∈ tokens -> token.Printable :=
  scan_printable h

/-!
# Derivations
-/

/-- The names among the kinds of tokens can be printed. -/
def Named (kinds : List TokenKind) : Prop :=
  forall s, .name s ∈ kinds -> PrintableName s

theorem Named.of_subset {kinds kinds' : List TokenKind} (h : Named kinds)
    (hsub : forall kind, kind ∈ kinds' -> kind ∈ kinds) : Named kinds' :=
  fun s hs => h s (hsub _ hs)

theorem named_cons {kind : TokenKind} {kinds : List TokenKind} :
    Named (kind :: kinds) <-> Named [kind] ∧ Named kinds := by
  constructor
  · intro h
    exact ⟨h.of_subset (by simp), h.of_subset fun _ => List.mem_cons_of_mem _⟩
  · intro h s hs
    rcases List.mem_cons.mp hs with hs | hs
    · exact h.1 s (List.mem_singleton.mpr hs)
    · exact h.2 s hs

theorem named_append {kinds kinds' : List TokenKind} :
    Named (kinds ++ kinds') <-> Named kinds ∧ Named kinds' := by
  constructor
  · intro h
    exact ⟨h.of_subset fun _ => List.mem_append_left _, h.of_subset fun _ => List.mem_append_right _⟩
  · intro h s hs
    rcases List.mem_append.mp hs with hs | hs
    · exact h.1 s hs
    · exact h.2 s hs

theorem named_of_printable {tokens : List Token}
    (h : forall token, token ∈ tokens -> token.Printable) : Named (tokens.map Token.kind) := by
  intro s hs
  rcases List.mem_map.mp hs with ⟨token, htoken, hkind⟩
  exact h token htoken s hkind

namespace Grammar

theorem Ident.printableName_spelling {d : Ident} (h : Named [d.kind]) :
    PrintableName d.spelling := by
  cases d with
  | name s => exact h s (List.mem_singleton.mpr rfl)
  | keyword k => exact k.printableName_word
  | boolean b => cases b with
    | true => exact printableName_boolean true
    | false => exact printableName_boolean false

theorem Separated.printable {τ α : Type} {kinds : τ -> List TokenKind} {tree : τ -> α}
    {property : α -> Prop} (hitem : forall d, Named (kinds d) -> property (tree d))
    {list : Separated τ} (h : Named (list.kinds kinds)) :
    NonEmptyOf property (list.values tree) := by
  rcases named_append.mp h with ⟨hfirst, hrest⟩
  refine ⟨List.cons_ne_nil _ _, List.forall_mem_cons.mpr ⟨hitem _ hfirst, ?_⟩⟩
  intro a ha
  rcases List.mem_map.mp ha with ⟨d, hd, rfl⟩
  apply hitem d
  apply hrest.of_subset
  intro kind hkind
  exact List.mem_flatMap.mpr ⟨d, hd, List.mem_cons_of_mem _ hkind⟩

theorem Separated.named_of_parenthesized {τ : Type} {kinds : τ -> List TokenKind}
    {list : Separated τ} (h : Named (list.parenthesized kinds)) : Named (list.kinds kinds) :=
  (named_append.mp (named_cons.mp h).2).1

theorem nodup_eraseDups (declared : List Constraint) : declared.eraseDups.Nodup := by
  have hlength : forall n (declared : List Constraint), declared.length <= n ->
      declared.eraseDups.Nodup := by
    intro n
    induction n with
    | zero =>
        intro declared hn
        rw [List.eq_nil_of_length_eq_zero (Nat.le_zero.mp hn)]
        exact List.nodup_nil
    | succ n ih =>
        intro declared hn
        cases declared with
        | nil => exact List.nodup_nil
        | cons constraint more =>
            rw [List.eraseDups_cons, List.nodup_cons]
            constructor
            · rw [List.mem_eraseDups, List.mem_filter]
              simp
            · apply ih
              exact Nat.le_trans (List.length_filter_le _ _) (Nat.le_of_succ_le_succ hn)
  exact hlength _ declared (Nat.le_refl _)

theorem ColumnDef.printable {d : ColumnDef} (h : Named d.kinds) : PrintableColumn d.column where
  name := Ident.printableName_spelling (named_cons.mp h).1
  constraints_nodup := nodup_eraseDups d.constraints

theorem ColRef.printable {d : ColRef} (h : Named d.kinds) : d.tree.Printable := by
  rcases d with ⟨first, second⟩
  rcases named_cons.mp h with ⟨hfirst, hsecond⟩
  cases second with
  | none => exact ⟨nofun, Ident.printableName_spelling hfirst⟩
  | some column =>
      refine ⟨?_, Ident.printableName_spelling (named_cons.mp hsecond).2⟩
      intro table htable
      cases htable
      exact Ident.printableName_spelling hfirst

theorem Columns.printable {d : Columns} (h : Named d.kinds) : d.tree.Printable := by
  cases d with
  | all => trivial
  | only refs => exact Separated.printable (fun _ => ColRef.printable) h

theorem Join.printable {d : Option Join} (h : Named (optional Join.kinds d)) :
    forall clause, d.map Join.tree = some clause -> clause.Printable := by
  intro clause hclause
  rcases Option.map_eq_some_iff.mp hclause with ⟨d, rfl, rfl⟩
  rcases named_cons.mp (named_cons.mp (named_cons.mp h).2).2 with ⟨htable, hrest⟩
  rcases named_append.mp (named_cons.mp hrest).2 with ⟨hleft, hright⟩
  exact ⟨Ident.printableName_spelling htable, ColRef.printable hleft,
    ColRef.printable (named_cons.mp hright).2⟩

theorem Where.printable {d : Option Where} (h : Named (optional Where.kinds d)) :
    PrintableCondition (d.map Where.tree) := by
  intro c hc
  rcases Option.map_eq_some_iff.mp hc with ⟨d, rfl, rfl⟩
  exact ColRef.printable (named_append.mp (named_cons.mp h).2).1

/-- What a derivation stands for can be printed if the names that it derives can. -/
theorem Derivation.printable {d : Derivation} (h : Named d.kinds) : d.statement.Printable := by
  cases d with
  | createTable table columns =>
      rcases named_cons.mp (named_cons.mp (named_cons.mp h).2).2 with ⟨htable, hcolumns⟩
      exact ⟨Ident.printableName_spelling htable, Separated.printable (fun _ => ColumnDef.printable)
        (Separated.named_of_parenthesized hcolumns)⟩
  | insert table columns values =>
      rcases named_cons.mp (named_cons.mp (named_cons.mp h).2).2 with ⟨htable, hlists⟩
      have hcolumns := Separated.named_of_parenthesized (named_append.mp hlists).1
      exact ⟨Ident.printableName_spelling htable,
        Separated.printable (fun _ => Ident.printableName_spelling) hcolumns, List.cons_ne_nil _ _⟩
  | select columns table join c =>
      rcases named_append.mp (named_cons.mp h).2 with ⟨hcolumns, hrest⟩
      rcases named_cons.mp (named_cons.mp hrest).2 with ⟨htable, hclauses⟩
      rcases named_append.mp hclauses with ⟨hjoin, hcondition⟩
      exact ⟨Columns.printable hcolumns, Ident.printableName_spelling htable, Join.printable hjoin,
        Where.printable hcondition⟩
  | update table assignments c =>
      rcases named_cons.mp (named_cons.mp h).2 with ⟨htable, hrest⟩
      rcases named_append.mp (named_cons.mp hrest).2 with ⟨hassignments, hcondition⟩
      have hlist : NonEmptyOf (fun pair : String × Value => PrintableName pair.1)
          (assignments.values Assignment.pair) := by
        apply Separated.printable _ hassignments
        intro a ha
        exact Ident.printableName_spelling (named_cons.mp ha).1
      exact ⟨Ident.printableName_spelling htable, hlist, Where.printable hcondition⟩
  | delete table c =>
      rcases named_cons.mp (named_cons.mp (named_cons.mp h).2).2 with ⟨htable, hcondition⟩
      exact ⟨Ident.printableName_spelling htable, Where.printable hcondition⟩
  | showTables => trivial
  | describe table => exact Ident.printableName_spelling (named_cons.mp h).2

end Grammar

theorem Reader.complete_printable {tokens rest : List Token} {result : Statement}
    (hprintable : forall token, token ∈ tokens -> token.Printable)
    (hread : complete tokens = .ok (result, rest)) : result.Printable := by
  rcases bind_eq_ok hread with ⟨first, middle, hfirst, hrest⟩
  rcases bind_eq_ok hrest with ⟨_, behind, _, hend⟩
  rcases bind_eq_ok hend with ⟨left, _, _, hresult⟩
  split at hresult
  · cases hresult
    rcases parses_statement.sound tokens result middle hfirst with ⟨d, own, htokens, hown, hd⟩
    rw [← hd]
    apply Grammar.Derivation.printable
    rw [← hown]
    apply named_of_printable
    intro token htoken
    apply hprintable
    rw [htokens]
    exact List.mem_append_left _ htoken
  · cases hresult

/-- A statement that a text spells can be printed. -/
theorem Statement.parse_printable {sql : String} {result : Statement}
    (h : Statement.parse sql = .ok result) : result.Printable := by
  unfold Statement.parse at h
  cases htokens : tokenize sql with
  | error e =>
      rw [htokens] at h
      cases h
  | ok tokens =>
      rw [htokens] at h
      simp only [Except.bind] at h
      unfold Statement.ofTokens at h
      cases hread : Reader.complete tokens with
      | error refusal =>
          rw [hread] at h
          cases h
      | ok pair =>
          rw [hread] at h
          cases h
          exact Reader.complete_printable (tokenize_printable htokens) hread

end Sql
end Tabula
