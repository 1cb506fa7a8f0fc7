import Tabula.Proofs.Sql.Printable

/-!
# Statements are read back

A statement that can be printed is what its text is parsed as, whatever the layout and with or without
a semicolon.  Its lexemes scan back, and the kinds of their tokens have a derivation that stands for
the statement.
-/

namespace Tabula
namespace Sql

open Grammar

/-!
# Spelled derivations
-/

/-- The lexemes scan back, and their kinds have a derivation that stands for `a`. -/
structure Spells {τ α : Type} (kinds : τ -> List TokenKind) (tree : τ -> α) (lexemes : List Lexeme)
    (a : α) : Prop where
  sound : forall lexeme, lexeme ∈ lexemes -> lexeme.Sound
  derived : exists d, kinds d = lexemes.map Lexeme.kind ∧ tree d = a

variable {τ α : Type} {kinds : τ -> List TokenKind} {tree : τ -> α}

/-!
# Single tokens
-/

theorem exists_ident {s : String} (h : PrintableName s) :
    exists d : Ident, d.kind = (Lexeme.name s).kind ∧ d.spelling = s := by
  have hkind : (Lexeme.name s).kind = (TokenKind.ofWord? s).getD (.name s) := by
    simp only [Lexeme.kind_name, TokenKind.ofWord, String.ofList_toList]
  rw [hkind]
  cases hreserved : TokenKind.ofWord? s with
  | none => exact ⟨.name s, rfl, rfl⟩
  | some kind =>
      have hlower := h.lower kind hreserved
      rcases TokenKind.ofWord?_cases hreserved with ⟨b, hb⟩ | ⟨k, hk⟩
      · subst hb
        refine ⟨.boolean b, rfl, ?_⟩
        cases b <;> exact Option.some.inj hlower
      · subst hk
        exact ⟨.keyword k, rfl, Option.some.inj hlower⟩

theorem exists_literal (v : Value) :
    exists d : Literal, d.kind = (Lexeme.literal v).kind ∧ d.value = v := by
  cases v with
  | integer n => exact ⟨.number n, rfl, rfl⟩
  | text s => exact ⟨.text s, rfl, rfl⟩
  | boolean b => cases b with
    | true => exact ⟨.boolean true, rfl, rfl⟩
    | false => exact ⟨.boolean false, rfl, rfl⟩
  | null => exact ⟨.null, rfl, rfl⟩

theorem spells_name {s : String} (h : PrintableName s) :
    Spells (fun d => [Ident.kind d]) Ident.spelling [.name s] s := by
  rcases exists_ident h with ⟨d, hkind, hspelling⟩
  exact ⟨List.forall_mem_singleton.mpr (Lexeme.sound_name h), d, congrArg List.singleton hkind,
    hspelling⟩

theorem spells_literal (v : Value) :
    Spells (fun d => [Literal.kind d]) Literal.value [.literal v] v := by
  rcases exists_literal v with ⟨d, hkind, hvalue⟩
  exact ⟨List.forall_mem_singleton.mpr (Lexeme.sound_literal v), d, congrArg List.singleton hkind,
    hvalue⟩

theorem sound_columnType (type : ColumnType) : (Lexeme.columnType type).Sound := by
  cases type <;> exact Lexeme.sound_keyword _

theorem kind_columnType (type : ColumnType) : (Lexeme.columnType type).kind = typeKind type := by
  cases type <;> rfl

/-!
# Lists
-/

theorem spells_commaList {spell : α -> List Lexeme} {items : List α} (hne : items ≠ [])
    (h : forall a, a ∈ items -> Spells kinds tree (spell a) a) :
    Spells (Separated.kinds kinds) (Separated.values tree) (Lexemes.commaList spell items) items := by
  induction items using Lexemes.commaList.induct with
  | case1 => exact absurd rfl hne
  | case2 last =>
      have hlast := h last List.mem_cons_self
      rcases hlast.derived with ⟨d, hkinds, htree⟩
      refine ⟨hlast.sound, ⟨d, []⟩, ?_, congrArg (fun a => [a]) htree⟩
      rw [Separated.kinds_singleton]
      exact hkinds
  | case3 first second rest ih =>
      rcases List.forall_mem_cons.mp h with ⟨hfirst, hothers⟩
      have hrest := ih (List.cons_ne_nil _ _) hothers
      rcases hfirst.derived with ⟨d, hkinds, htree⟩
      rcases hrest.derived with ⟨list, hlist, hvalues⟩
      constructor
      · rw [Lexemes.commaList, List.forall_mem_append, List.forall_mem_cons]
        exact ⟨hfirst.sound, Lexeme.sound_symbol (by decide), hrest.sound⟩
      · refine ⟨⟨d, list.first :: list.rest⟩, ?_, congrArg₂ List.cons htree hvalues⟩
        rw [Separated.kinds_cons, Lexemes.commaList, List.map_append, List.map_cons, hkinds,
          hlist]
        rfl

theorem spells_parenthesized {spell : α -> List Lexeme} {items : List α} (hne : items ≠ [])
    (h : forall a, a ∈ items -> Spells kinds tree (spell a) a) :
    Spells (Separated.parenthesized kinds) (Separated.values tree)
      (Lexemes.parenthesized spell items) items := by
  have hlist := spells_commaList hne h
  rcases hlist.derived with ⟨list, hkinds, hvalues⟩
  constructor
  · rw [Lexemes.parenthesized, List.forall_mem_cons, List.forall_mem_append,
      List.forall_mem_singleton]
    exact ⟨Lexeme.sound_symbol (by decide), hlist.sound, Lexeme.sound_symbol (by decide)⟩
  · refine ⟨list, ?_, hvalues⟩
    rw [Separated.parenthesized, Lexemes.parenthesized, List.map_cons, List.map_append, hkinds]
    rfl

/-!
# Parts of statements
-/

theorem map_kind_constraints (declared : List Constraint) :
    (declared.flatMap Lexemes.constraint).map Lexeme.kind = declared.flatMap constraintKinds := by
  rw [List.map_flatMap]
  apply List.flatMap_congr
  intro constraint _
  cases constraint <;> rfl

theorem eraseDups_eq_self {declared : List Constraint} (h : declared.Nodup) :
    declared.eraseDups = declared := by
  induction declared with
  | nil => rfl
  | cons constraint more ih =>
      rcases List.nodup_cons.mp h with ⟨hnew, hmore⟩
      have hkept : more.filter (fun other => !other == constraint) = more := by
        apply List.filter_eq_self.mpr
        intro other hother
        have hne : other ≠ constraint := fun hsame => hnew (hsame ▸ hother)
        simpa using hne
      rw [List.eraseDups_cons, hkept, ih hmore]

theorem spells_columnDefinition {column : Column} (h : PrintableColumn column) :
    Spells ColumnDef.kinds ColumnDef.column (Lexemes.columnDefinition column) column := by
  rcases exists_ident h.name with ⟨name, hkind, hspelling⟩
  constructor
  · rw [Lexemes.columnDefinition, List.forall_mem_cons, List.forall_mem_cons]
    refine ⟨Lexeme.sound_name h.name, sound_columnType _, ?_⟩
    intro lexeme hlexeme
    rcases List.mem_flatMap.mp hlexeme with ⟨constraint, _, hown⟩
    cases constraint with
    | primaryKey =>
        rcases List.mem_pair.mp hown with hfirst | hlast
        · rw [hfirst]
          exact Lexeme.sound_keyword .PRIMARY
        · rw [hlast]
          exact Lexeme.sound_keyword .KEY
    | unique =>
        rw [List.mem_singleton.mp hown]
        exact Lexeme.sound_keyword .UNIQUE
  · refine ⟨⟨name, column.type, column.constraints⟩, ?_, ?_⟩
    · rw [Lexemes.columnDefinition, List.map_cons, List.map_cons, map_kind_constraints,
        kind_columnType, ← hkind]
      rfl
    · rw [ColumnDef.column, hspelling, eraseDups_eq_self h.constraints_nodup]

theorem spells_columnRef {ref : ColumnRef} (h : ref.Printable) :
    Spells ColRef.kinds ColRef.tree (Lexemes.columnRef ref) ref := by
  rcases ref with ⟨table, column⟩
  rcases exists_ident h.column with ⟨second, hsecond, hcolumn⟩
  cases table with
  | none =>
      refine ⟨List.forall_mem_singleton.mpr (Lexeme.sound_name h.column), ⟨second, none⟩, ?_, ?_⟩
      · exact congrArg List.singleton hsecond
      · rw [ColRef.tree, hcolumn]
  | some table =>
      have htable := h.table table rfl
      rcases exists_ident htable with ⟨first, hfirst, hspelling⟩
      refine ⟨?_, ⟨first, some second⟩, ?_, ?_⟩
      · simp only [Lexemes.columnRef, List.forall_mem_cons]
        exact ⟨Lexeme.sound_name htable, Lexeme.sound_symbol (by decide),
          Lexeme.sound_name h.column, List.forall_mem_nil _⟩
      · simp only [ColRef.kinds, hfirst, hsecond]
        rfl
      · simp only [ColRef.tree, hspelling, hcolumn]

theorem spells_assignment {pair : String × Value} (h : PrintableName pair.1) :
    Spells Assignment.kinds Assignment.pair (Lexemes.assignment pair) pair := by
  rcases exists_ident h with ⟨column, hcolumn, hspelling⟩
  rcases exists_literal pair.2 with ⟨v, hv, hvalue⟩
  refine ⟨?_, ⟨column, v⟩, ?_, ?_⟩
  · simp only [Lexemes.assignment, List.forall_mem_cons]
    exact ⟨Lexeme.sound_name h, Lexeme.sound_symbol (by decide), Lexeme.sound_literal _,
      List.forall_mem_nil _⟩
  · rw [Assignment.kinds, hcolumn, hv]
    rfl
  · rw [Assignment.pair, hspelling, hvalue]

theorem spells_condition {c : Option Condition} (h : PrintableCondition c) :
    Spells (optional Where.kinds) (Option.map Where.tree) (Lexemes.condition c) c := by
  cases c with
  | none => exact ⟨List.forall_mem_nil _, none, rfl, rfl⟩
  | some c =>
      have hcolumn := spells_columnRef (h c rfl)
      rcases hcolumn.derived with ⟨column, hkinds, htree⟩
      rcases exists_literal c.value with ⟨v, hv, hvalue⟩
      refine ⟨?_, some ⟨column, v⟩, ?_, ?_⟩
      · simp only [Lexemes.condition, List.forall_mem_cons, List.forall_mem_append]
        exact ⟨Lexeme.sound_keyword _, hcolumn.sound, Lexeme.sound_symbol (by decide),
          Lexeme.sound_literal _, List.forall_mem_nil _⟩
      · rw [Lexemes.condition, List.map_cons, List.map_append, ← hkinds]
        simp only [List.map_cons, ← hv]
        rfl
      · rw [Option.map_some, Where.tree, htree, hvalue]

theorem spells_joinClause {join : Option JoinClause}
    (h : forall clause, join = some clause -> clause.Printable) :
    Spells (optional Join.kinds) (Option.map Join.tree) (Lexemes.joinClause join) join := by
  cases join with
  | none => exact ⟨List.forall_mem_nil _, none, rfl, rfl⟩
  | some clause =>
      have hclause := h clause rfl
      have hleft := spells_columnRef hclause.left
      have hright := spells_columnRef hclause.right
      rcases exists_ident hclause.table with ⟨table, htable, hspelling⟩
      rcases hleft.derived with ⟨left, hkinds, htree⟩
      rcases hright.derived with ⟨right, hkinds', htree'⟩
      refine ⟨?_, some ⟨table, left, right⟩, ?_, ?_⟩
      · simp only [Lexemes.joinClause, List.forall_mem_cons, List.forall_mem_append]
        exact ⟨Lexeme.sound_keyword _, Lexeme.sound_keyword _, Lexeme.sound_name hclause.table,
          Lexeme.sound_keyword _, hleft.sound, Lexeme.sound_symbol (by decide), hright.sound⟩
      · simp only [Lexemes.joinClause, List.map_cons, List.map_append, ← hkinds, ← hkinds', ← htable]
        rfl
      · rw [Option.map_some, Join.tree, hspelling, htree, htree']

theorem spells_projection {columns : Projection} (h : columns.Printable) :
    Spells Columns.kinds Columns.tree (Lexemes.projection columns) columns := by
  cases columns with
  | all =>
      exact ⟨List.forall_mem_singleton.mpr (Lexeme.sound_symbol (by decide)), .all, rfl, rfl⟩
  | only refs =>
      have hrefs := spells_commaList h.ne_nil fun ref href => spells_columnRef (h.all ref href)
      rcases hrefs.derived with ⟨list, hkinds, hvalues⟩
      exact ⟨hrefs.sound, .only list, hkinds, congrArg Projection.only hvalues⟩

/-!
# Statements
-/

theorem spells_statement {statement : Statement} (h : statement.Printable) :
    Spells Derivation.kinds Derivation.statement statement.lexemes statement := by
  cases statement with
  | createTable table columns =>
      rcases h with ⟨htable, hcolumns⟩
      rcases exists_ident htable with ⟨d, hkind, hspelling⟩
      have hlist := spells_parenthesized hcolumns.ne_nil
        fun column hcolumn => spells_columnDefinition (hcolumns.all column hcolumn)
      rcases hlist.derived with ⟨list, hkinds, hvalues⟩
      refine ⟨?_, .createTable d list, ?_, ?_⟩
      · simp only [Statement.lexemes, List.forall_mem_cons]
        exact ⟨Lexeme.sound_keyword _, Lexeme.sound_keyword _, Lexeme.sound_name htable, hlist.sound⟩
      · simp only [Statement.lexemes, List.map_cons, ← hkinds, ← hkind]
        rfl
      · rw [Derivation.statement, hspelling, hvalues]
  | insert table columns values =>
      rcases h with ⟨htable, hcolumns, hvalues⟩
      rcases exists_ident htable with ⟨d, hkind, hspelling⟩
      have hnames := spells_parenthesized hcolumns.ne_nil
        fun column hcolumn => spells_name (hcolumns.all column hcolumn)
      have hliterals := spells_parenthesized hvalues fun v _ => spells_literal v
      rcases hnames.derived with ⟨names, hkinds, hcolumns'⟩
      rcases hliterals.derived with ⟨literals, hkinds', hvalues'⟩
      refine ⟨?_, .insert d names literals, ?_, ?_⟩
      · simp only [Statement.lexemes, List.forall_mem_cons, List.forall_mem_append]
        exact ⟨Lexeme.sound_keyword _, Lexeme.sound_keyword _, Lexeme.sound_name htable,
          hnames.sound, Lexeme.sound_keyword _, hliterals.sound⟩
      · simp only [Statement.lexemes, List.map_cons, List.map_append, ← hkinds, ← hkinds', ← hkind]
        rfl
      · rw [Derivation.statement, hspelling, hcolumns', hvalues']
  | select columns table join c =>
      rcases h with ⟨hcolumns, htable, hjoin, hcondition⟩
      rcases exists_ident htable with ⟨d, hkind, hspelling⟩
      have hlist := spells_projection hcolumns
      have hclause := spells_joinClause hjoin
      have hwhere := spells_condition hcondition
      rcases hlist.derived with ⟨list, hkinds, htree⟩
      rcases hclause.derived with ⟨clause, hkinds', htree'⟩
      rcases hwhere.derived with ⟨filter, hkinds'', htree''⟩
      refine ⟨?_, .select list d clause filter, ?_, ?_⟩
      · simp only [Statement.lexemes, List.forall_mem_cons, List.forall_mem_append]
        exact ⟨Lexeme.sound_keyword _, hlist.sound, Lexeme.sound_keyword _,
          Lexeme.sound_name htable, hclause.sound, hwhere.sound⟩
      · simp only [Statement.lexemes, List.map_cons, List.map_append, ← hkinds, ← hkinds', ← hkinds'',
          ← hkind]
        rfl
      · rw [Derivation.statement, hspelling, htree, htree', htree'']
  | update table assignments c =>
      rcases h with ⟨htable, hassignments, hcondition⟩
      rcases exists_ident htable with ⟨d, hkind, hspelling⟩
      have hlist := spells_commaList hassignments.ne_nil
        fun pair hpair => spells_assignment (hassignments.all pair hpair)
      have hwhere := spells_condition hcondition
      rcases hlist.derived with ⟨list, hkinds, hpairs⟩
      rcases hwhere.derived with ⟨filter, hkinds', htree⟩
      refine ⟨?_, .update d list filter, ?_, ?_⟩
      · simp only [Statement.lexemes, List.forall_mem_cons, List.forall_mem_append]
        exact ⟨Lexeme.sound_keyword _, Lexeme.sound_name htable, Lexeme.sound_keyword _, hlist.sound,
          hwhere.sound⟩
      · simp only [Statement.lexemes, List.map_cons, List.map_append, ← hkinds, ← hkinds', ← hkind]
        rfl
      · rw [Derivation.statement, hspelling, hpairs, htree]
  | delete table c =>
      rcases h with ⟨htable, hcondition⟩
      rcases exists_ident htable with ⟨d, hkind, hspelling⟩
      have hwhere := spells_condition hcondition
      rcases hwhere.derived with ⟨filter, hkinds, htree⟩
      refine ⟨?_, .delete d filter, ?_, ?_⟩
      · simp only [Statement.lexemes, List.forall_mem_cons]
        exact ⟨Lexeme.sound_keyword _, Lexeme.sound_keyword _, Lexeme.sound_name htable, hwhere.sound⟩
      · simp only [Statement.lexemes, List.map_cons, ← hkinds, ← hkind]
        rfl
      · rw [Derivation.statement, hspelling, htree]
  | showTables =>
      refine ⟨?_, .showTables, rfl, rfl⟩
      simp only [Statement.lexemes, List.forall_mem_cons]
      exact ⟨Lexeme.sound_keyword _, Lexeme.sound_keyword _, List.forall_mem_nil _⟩
  | describe table =>
      rcases exists_ident h with ⟨d, hkind, hspelling⟩
      refine ⟨?_, .describe d, ?_, ?_⟩
      · simp only [Statement.lexemes, List.forall_mem_cons]
        exact ⟨Lexeme.sound_keyword _, Lexeme.sound_name h, List.forall_mem_nil _⟩
      · simp only [Statement.lexemes, List.map_cons, ← hkind]
        rfl
      · rw [Derivation.statement, hspelling]

/-- A statement, perhaps a semicolon and the end mark are read as the statement. -/
theorem Reader.complete_eq_ok {result : Statement} (h : result.Printable) (semicolon : Bool)
    {tokens : List Token}
    (hkinds : tokens.map Token.kind = (result.ended semicolon).map Lexeme.kind ++ [.endOfInput]) :
    exists rest, complete tokens = .ok (result, rest) := by
  rcases (spells_statement h).derived with ⟨d, hd, hstatement⟩
  rcases List.map_eq_append_iff.mp hkinds with ⟨own, last, htokens, hown, hlast⟩
  rcases List.map_eq_singleton_iff.mp hlast with ⟨⟨kind, position⟩, hsingle, hkind⟩
  simp only at hkind
  subst hkind hsingle htokens
  have hderives : d.Derives (own.map Token.kind) := by
    rw [hown, Statement.ended, List.map_append, ← hd]
    cases semicolon with
    | true => exact Or.inr rfl
    | false => exact Or.inl (List.append_nil _)
  rw [complete_of_derives hderives, hstatement]
  exact ⟨_, rfl⟩

namespace Statement

theorem sound_of_mem_ended {statement : Statement} (h : statement.Printable) (semicolon : Bool) :
    forall lexeme, lexeme ∈ statement.ended semicolon -> lexeme.Sound := by
  intro lexeme hlexeme
  rcases List.mem_append.mp hlexeme with hown | hlast
  · exact (spells_statement h).sound lexeme hown
  · cases semicolon with
    | true =>
        rw [List.mem_singleton.mp hlast]
        exact Lexeme.sound_symbol (by decide)
    | false => cases hlast

theorem parse_render {statement : Statement} (h : statement.Printable) (layout : Layout)
    (semicolon : Bool) : parse (statement.render layout semicolon) = .ok statement := by
  rcases scan_spellAll layout (sound_of_mem_ended h semicolon) Position.start with
    ⟨tokens, htokens, hkinds⟩
  rcases Reader.complete_eq_ok h semicolon hkinds with ⟨rest, hcomplete⟩
  unfold parse tokenize render
  rw [String.toList_ofList, htokens]
  show (ofTokens tokens).mapError Error.malformed = _
  unfold ofTokens
  rw [hcomplete]
  rfl

/-- Parsing undoes rendering.  A printable statement is what its text is parsed as, and a statement
that any text is parsed as is printable, so it is parsed back from its own text. -/
theorem parse_undoes_render (statement : Statement) (sql : String) (layout : Layout)
    (semicolon : Bool) :
    (statement.Printable -> parse (statement.render layout semicolon) = .ok statement) ∧
      (parse sql = .ok statement ->
        statement.Printable ∧ parse (statement.render layout semicolon) = .ok statement) := by
  constructor
  · intro h
    exact parse_render h layout semicolon
  · intro hparse
    have h := parse_printable hparse
    exact ⟨h, parse_render h layout semicolon⟩

/-- A table and a column with reserved names, the least integer, and a text with a quote, a line end
and what would be a comment. -/
def sampleInsert : Statement :=
  .insert "select" ["true", "_x1"] [.integer Int64.minValue, .text "it's -- a\nday"]

theorem parse_undoes_render_sample :
    sampleInsert.Printable ∧
      sampleInsert.render (fun _ _ => false) true =
        "INSERT INTO select ( true , _x1 ) VALUES ( -9223372036854775808 , 'it''s -- a\nday' ) ;" ∧
      parse (sampleInsert.render (fun _ _ => false) true) = .ok sampleInsert ∧
      parse (sampleInsert.render (fun _ _ => true) false) = .ok sampleInsert := by
  have hparse : parse "insert into SELECT (TRUE, _x1) values (-9223372036854775808, 'it''s -- a\nday')" =
      .ok sampleInsert := by decide +kernel
  rcases (parse_undoes_render sampleInsert _ (fun _ _ => true) false).2 hparse with
    ⟨hprintable, htight⟩
  have hspaced := (parse_undoes_render sampleInsert "" (fun _ _ => false) true).1 hprintable
  exact ⟨hprintable, by decide +kernel, hspaced, htight⟩

end Statement
end Sql
end Tabula
