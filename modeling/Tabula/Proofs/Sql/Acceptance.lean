import Tabula.Error
import Tabula.Proofs.Sql.Parsing

/-!
# The statements that are read

The reader of each production parses it, and so the texts that are accepted are those that the grammar
derives, each in one way.
-/

namespace Tabula
namespace Sql
namespace Reader

open Grammar

variable {α : Type}

/-!
# Columns
-/

/-- Not the beginning of a constraint. -/
def EndsColumn (kind : TokenKind) : Prop :=
  kind ≠ .keyword .UNIQUE ∧ kind ≠ .keyword .PRIMARY

theorem endsColumn_symbol (s : Symbol) : EndsColumn (.symbol s) := by
  constructor
  · intro hsame
    cases hsame
  · intro hsame
    cases hsame

theorem constraints_of_stop {column : Column} {rest : List Token} (h : EndsColumn (nextKind rest)) :
    constraints column rest = .ok (column, rest) := by
  rw [constraints]
  · intro position behind hrest
    rw [hrest] at h
    exact h.1 rfl
  · intro position position' behind hrest
    rw [hrest] at h
    exact h.2 rfl
  · intro position behind hrest
    rw [hrest] at h
    exact h.2 rfl

theorem constraints_complete (declared : List Constraint) (column : Column)
    {tokens rest : List Token}
    (hkinds : tokens.map Token.kind = declared.flatMap constraintKinds)
    (hrest : EndsColumn (nextKind rest)) :
    constraints column (tokens ++ rest) = .ok (declared.foldl Column.declare column, rest) := by
  induction declared generalizing column tokens with
  | nil =>
      rw [List.map_eq_nil_iff.mp hkinds]
      exact constraints_of_stop hrest
  | cons constraint more ih =>
      cases constraint with
      | primaryKey =>
          rcases List.map_eq_cons_iff.mp hkinds with ⟨⟨kind, position⟩, keys, htokens, hkind, hkeys⟩
          rcases List.map_eq_cons_iff.mp hkeys with ⟨⟨kind', position'⟩, others, hcons, hkind', hmore⟩
          simp only at hkind hkind'
          subst hkind hkind' htokens hcons
          rw [List.cons_append, List.cons_append, constraints]
          exact ih (column.declare .primaryKey) hmore
      | unique =>
          rcases List.map_eq_cons_iff.mp hkinds with ⟨⟨kind, position⟩, others, htokens, hkind, hmore⟩
          simp only at hkind
          subst hkind htokens
          rw [List.cons_append, constraints]
          exact ih (column.declare .unique) hmore

theorem constraints_sound {column found : Column} {tokens rest : List Token}
    (hread : constraints column tokens = .ok (found, rest)) :
    exists (declared : List Constraint) (own : List Token), tokens = own ++ rest ∧
      own.map Token.kind = declared.flatMap constraintKinds ∧
      declared.foldl Column.declare column = found := by
  induction column, tokens using constraints.induct with
  | case1 column position behind ih =>
      simp only [constraints] at hread
      rcases ih hread with ⟨declared, own, hbehind, hown, hfound⟩
      refine ⟨.unique :: declared, ⟨.keyword .UNIQUE, position⟩ :: own, ?_, ?_, hfound⟩
      · rw [hbehind]
        rfl
      · rw [List.map_cons, hown]
        rfl
  | case2 column position position' behind ih =>
      simp only [constraints] at hread
      rcases ih hread with ⟨declared, own, hbehind, hown, hfound⟩
      refine ⟨.primaryKey :: declared,
        ⟨.keyword .PRIMARY, position⟩ :: ⟨.keyword .KEY, position'⟩ :: own, ?_, ?_, hfound⟩
      · rw [hbehind]
        rfl
      · rw [List.map_cons, List.map_cons, hown]
        rfl
  | case3 column position behind hnoKey =>
      rw [constraints] at hread
      · cases hread
      · exact hnoKey
  | case4 column tokens hnoUnique hnoPrimaryKey hnoPrimary =>
      rw [constraints] at hread
      · cases hread
        exact ⟨[], [], rfl, rfl, rfl⟩
      · exact hnoUnique
      · exact hnoPrimaryKey
      · exact hnoPrimary

theorem constraints_unambiguous (declared declared' : List Constraint)
    (hsame : declared.flatMap constraintKinds = declared'.flatMap constraintKinds) :
    declared = declared' := by
  induction declared generalizing declared' with
  | nil =>
      rcases declared' with _ | ⟨_ | _, more'⟩
      · rfl
      · cases hsame
      · cases hsame
  | cons constraint more ih =>
      rcases constraint with _ | _
      · rcases declared' with _ | ⟨_ | _, more'⟩
        · cases hsame
        · rw [ih more' (List.cons.inj (List.cons.inj hsame).2).2]
        · cases (List.cons.inj hsame).1
      · rcases declared' with _ | ⟨_ | _, more'⟩
        · cases hsame
        · cases (List.cons.inj hsame).1
        · rw [ih more' (List.cons.inj hsame).2]

theorem parses_constraints (column : Column) :
    Parses (constraints column) (List.flatMap constraintKinds) (List.foldl Column.declare column)
      EndsColumn where
  complete := fun declared _ _ hkinds hrest => constraints_complete declared column hkinds hrest
  sound := fun _ _ _ hread => constraints_sound hread
  unambiguous := constraints_unambiguous
  inside := by
    intro declared hmem
    rcases List.mem_flatMap.mp hmem with ⟨constraint, _, hkind⟩
    cases constraint <;> simp [constraintKinds] at hkind
  ends := fun _ => ⟨nofun, nofun⟩

/-- A constraint that is declared again adds nothing. -/
theorem foldl_declare (declared : List Constraint) (column : Column) :
    declared.foldl Column.declare column = { column with
      constraints := column.constraints ++
        (declared.filter fun constraint => constraint ∉ column.constraints).eraseDups } := by
  induction declared generalizing column with
  | nil => simp
  | cons constraint more ih =>
      rw [List.foldl_cons, ih]
      unfold Column.declare
      by_cases hold : constraint ∈ column.constraints
      · rw [if_pos hold, List.filter_cons_of_neg (by simpa using hold)]
      · rw [if_neg hold, List.filter_cons_of_pos (by simpa using hold), List.eraseDups_cons,
          List.filter_filter]
        simp [and_comm, List.mem_append, not_or, beq_eq_decide]

theorem parses_columnDefinition :
    Parses columnDefinition ColumnDef.kinds ColumnDef.column EndsColumn := by
  apply Parses.of_surjective fun d : Ident × ColumnType × List Constraint =>
    ColumnDef.mk d.1 d.2.1 d.2.2
  · apply parses_bind
      (fun name d => List.foldl Column.declare ⟨name.spelling, d.1, []⟩ d.2) parses_name
    · intro name
      apply parses_bind
        (fun type => List.foldl Column.declare ⟨name.spelling, type, []⟩) parses_columnType
      · intro type
        exact parses_constraints _
      · intro _ _ _
        trivial
    · intro _ _ _
      trivial
  · intro d
    exact ⟨(d.name, d.type, d.constraints), rfl⟩
  · intro _
    rfl
  · intro d
    rw [foldl_declare]
    simp [ColumnDef.column]

/-!
# What may follow
-/

/-- What may follow a statement. -/
def EndsStatement (kind : TokenKind) : Prop :=
  kind = .symbol .semicolon ∨ kind = .endOfInput

/-- What may follow a join clause. -/
def EndsJoin (kind : TokenKind) : Prop :=
  kind = .keyword .WHERE ∨ EndsStatement kind

theorem EndsStatement.ne_keyword {kind : TokenKind} (h : EndsStatement kind) (k : Keyword) :
    kind ≠ .keyword k := by
  rcases h with hsemicolon | hend
  · rw [hsemicolon]
    nofun
  · rw [hend]
    nofun

theorem EndsJoin.ne_inner {kind : TokenKind} (h : EndsJoin kind) : kind ≠ .keyword .INNER := by
  rcases h with hwhere | hend
  · rw [hwhere]
    nofun
  · exact hend.ne_keyword _

theorem EndsJoin.ne_symbol {kind : TokenKind} (h : EndsJoin kind) {s : Symbol}
    (hs : s ≠ .semicolon) : kind ≠ .symbol s := by
  rcases h with hwhere | hsemicolon | hend
  · rw [hwhere]
    nofun
  · rw [hsemicolon]
    intro hsame
    exact hs (TokenKind.symbol.inj hsame).symm
  · rw [hend]
    nofun

/-- A condition or the end follows: a reader of what may stand before a condition stops there. -/
theorem endsJoin_condition (clause : Option Where) {kind : TokenKind} (h : EndsStatement kind) :
    EndsJoin (headKind (optional Where.kinds clause) kind) := by
  cases clause with
  | none => exact Or.inr h
  | some clause => exact Or.inl rfl

/-!
# Parts of statements
-/

theorem parses_columnRef :
    Parses columnRef ColRef.kinds ColRef.tree fun kind => kind ≠ .symbol .dot := by
  apply Parses.of_surjective fun d : Ident × (Ident ⊕ Unit) =>
    ColRef.mk d.1 (d.2.elim some fun _ => none)
  · apply parses_bind
      (fun first => Sum.elim
        (fun column => { table := some first.spelling, column := Ident.spelling column })
        fun _ => { column := first.spelling }) parses_name
    · intro first
      apply parses_choice
      · nofun
      · exact (parses_map parses_name _).imp (fun _ _ => trivial) nofun
      · exact (parses_pure _).imp (fun _ _ => trivial) nofun
      · intro _ behind hbehind
        exact hbehind
    · intro _ _ _
      trivial
  · rintro ⟨first, _ | column⟩
    · exact ⟨(first, Sum.inr ()), rfl⟩
    · exact ⟨(first, Sum.inl column), rfl⟩
  · rintro ⟨first, _ | _⟩ <;> rfl
  · rintro ⟨first, _ | _⟩ <;> rfl

theorem parses_assignment : Parses assignment Assignment.kinds Assignment.pair Any := by
  apply Parses.of_surjective fun d : Ident × Literal => Assignment.mk d.1 d.2
  · apply parses_bind (fun column v => (column.spelling, Literal.value v)) parses_name
    · intro column
      exact parses_symbol (parses_map parses_literal _)
    · intro _ _ _
      trivial
  · intro d
    exact ⟨(d.column, d.value), rfl⟩
  · intro _
    rfl
  · intro _
    rfl

theorem parses_condition :
    Parses condition (optional Where.kinds) (Option.map Where.tree) EndsStatement := by
  apply parses_optional
  · nofun
  · apply Parses.of_surjective fun d : ColRef × Literal => Where.mk d.1 d.2
    · apply parses_bind (fun column v => some ⟨column.tree, Literal.value v⟩) parses_columnRef
      · intro column
        exact parses_symbol
          ((parses_map parses_literal _).imp (fun _ _ => trivial) (Or.inr rfl))
      · intro _ _ _
        nofun
    · intro d
      exact ⟨(d.column, d.value), rfl⟩
    · intro _
      rfl
    · intro _
      rfl
  · rfl
  · intro _ hbehind
    exact hbehind.ne_keyword _
  · exact Or.inr rfl

theorem parses_joinClause :
    Parses joinClause (optional Join.kinds) (Option.map Join.tree) EndsJoin := by
  apply parses_optional
  · nofun
  · apply parses_keyword
    apply Parses.of_surjective fun d : Ident × ColRef × ColRef => Join.mk d.1 d.2.1 d.2.2
    · apply parses_bind (fun table d => some ⟨table.spelling, ColRef.tree d.1, ColRef.tree d.2⟩)
        parses_name
      · intro table
        apply parses_keyword
        apply parses_bind
          (fun left right : ColRef => some (JoinClause.mk table.spelling left.tree right.tree))
          parses_columnRef
        · intro left
          exact parses_symbol ((parses_map parses_columnRef _).imp
            (fun _ hbehind => hbehind.ne_symbol nofun) (Or.inr (Or.inr rfl)))
        · intro _ _ _
          nofun
      · intro _ _ _
        trivial
    · intro d
      exact ⟨(d.table, d.left, d.right), rfl⟩
    · intro _
      rfl
    · intro _
      rfl
  · rfl
  · intro _ hbehind
    exact hbehind.ne_inner
  · exact Or.inr (Or.inr rfl)

theorem parses_projection :
    Parses projection Columns.kinds Columns.tree fun kind =>
      kind ≠ .symbol .dot ∧ kind ≠ .symbol .comma := by
  apply Parses.of_surjective (Sum.elim (fun _ : Unit => Columns.all) Columns.only)
  · apply parses_choice
    · nofun
    · exact (parses_pure _).imp (fun _ _ => trivial) ⟨nofun, nofun⟩
    · exact parses_map (parses_commaList shrinks_columnRef parses_columnRef nofun) _
    · intro list _ _
      show list.first.first.kind ≠ _
      cases list.first.first <;> nofun
  · rintro (_ | refs)
    · exact ⟨Sum.inl (), rfl⟩
    · exact ⟨Sum.inr refs, rfl⟩
  · rintro (_ | _) <;> rfl
  · rintro (_ | _) <;> rfl

/-!
# Statements
-/

theorem parses_createTable :
    Parses createTable
      (fun d : Ident × Separated ColumnDef => (Derivation.createTable d.1 d.2).kinds)
      (fun d => (Derivation.createTable d.1 d.2).statement) EndsStatement := by
  apply parses_keyword
  apply parses_keyword
  apply Parses.of_eq
  · apply parses_bind (fun table columns => (Derivation.createTable table columns).statement)
      parses_name
    · intro table
      have hlist := parses_parenthesized shrinks_columnDefinition parses_columnDefinition
        (endsColumn_symbol _) (endsColumn_symbol _)
      exact (parses_map hlist _).imp (fun _ _ => trivial) (Or.inr rfl)
    · intro _ _ _
      trivial
  · intro _
    rfl
  · intro _
    rfl

theorem parses_insert :
    Parses insert
      (fun d : Ident × Separated Ident × Separated Literal =>
        (Derivation.insert d.1 d.2.1 d.2.2).kinds)
      (fun d => (Derivation.insert d.1 d.2.1 d.2.2).statement) EndsStatement := by
  apply parses_keyword
  apply parses_keyword
  apply Parses.of_eq
  · apply parses_bind
      (fun table (d : Separated Ident × Separated Literal) =>
        (Derivation.insert table d.1 d.2).statement) parses_name
    · intro table
      have hnames := parses_parenthesized shrinks_name parses_name trivial trivial
      apply parses_bind (fun columns values => (Derivation.insert table columns values).statement)
        hnames
      · intro columns
        have hvalues := parses_parenthesized shrinks_literal parses_literal trivial trivial
        exact parses_keyword
          ((parses_map hvalues _).imp (fun _ _ => trivial) (Or.inr rfl))
      · intro _ _ _
        trivial
    · intro _ _ _
      trivial
  · intro _
    rfl
  · intro _
    rfl

theorem parses_select :
    Parses select
      (fun d : Columns × Ident × Option Join × Option Where =>
        (Derivation.select d.1 d.2.1 d.2.2.1 d.2.2.2).kinds)
      (fun d => (Derivation.select d.1 d.2.1 d.2.2.1 d.2.2.2).statement) EndsStatement := by
  apply parses_keyword
  apply Parses.of_eq
  · apply parses_bind
      (fun columns (d : Ident × Option Join × Option Where) =>
        (Derivation.select columns d.1 d.2.1 d.2.2).statement) parses_projection
    · intro columns
      apply parses_keyword
      apply parses_bind
        (fun table (d : Option Join × Option Where) =>
          (Derivation.select columns table d.1 d.2).statement) parses_name
      · intro table
        apply parses_bind (fun join c => (Derivation.select columns table join c).statement)
          parses_joinClause
        · intro join
          exact parses_map parses_condition _
        · intro c _ hbehind
          exact endsJoin_condition c hbehind
      · intro _ _ _
        trivial
    · intro _ _ _
      exact ⟨nofun, nofun⟩
  · intro _
    rfl
  · intro _
    rfl

theorem parses_update :
    Parses update
      (fun d : Ident × Separated Assignment × Option Where =>
        (Derivation.update d.1 d.2.1 d.2.2).kinds)
      (fun d => (Derivation.update d.1 d.2.1 d.2.2).statement) EndsStatement := by
  apply parses_keyword
  apply Parses.of_eq
  · apply parses_bind
      (fun table (d : Separated Assignment × Option Where) =>
        (Derivation.update table d.1 d.2).statement) parses_name
    · intro table
      apply parses_keyword
      apply parses_bind (fun assignments c => (Derivation.update table assignments c).statement)
        (parses_commaList shrinks_assignment parses_assignment trivial)
      · intro assignments
        exact parses_map parses_condition _
      · intro c _ hbehind
        exact ⟨trivial, (endsJoin_condition c hbehind).ne_symbol nofun⟩
    · intro _ _ _
      trivial
  · intro _
    rfl
  · intro _
    rfl

theorem parses_delete :
    Parses delete (fun d : Ident × Option Where => (Derivation.delete d.1 d.2).kinds)
      (fun d => (Derivation.delete d.1 d.2).statement) EndsStatement := by
  apply parses_keyword
  apply parses_keyword
  apply Parses.of_eq
  · apply parses_bind (fun table c => (Derivation.delete table c).statement) parses_name
    · intro table
      exact parses_map parses_condition _
    · intro _ _ _
      trivial
  · intro _
    rfl
  · intro _
    rfl

theorem parses_showTables :
    Parses showTables (fun _ : Unit => Derivation.showTables.kinds)
      (fun _ => Derivation.showTables.statement) EndsStatement :=
  parses_keyword (parses_keyword ((parses_pure _).imp (fun _ _ => trivial) (Or.inr rfl)))

theorem parses_describe :
    Parses describe (fun d => (Derivation.describe d).kinds)
      (fun d => (Derivation.describe d).statement) EndsStatement :=
  parses_keyword ((parses_map parses_name _).imp (fun _ _ => trivial) (Or.inr rfl))

/-- The keyword in front of a derivation says which rule reads it. -/
theorem statement_complete {d : Derivation} {tokens rest : List Token}
    (hkinds : tokens.map Token.kind = d.kinds) (hrest : EndsStatement (nextKind rest)) :
    statement (tokens ++ rest) = .ok (d.statement, rest) := by
  have hnext : nextKind (tokens ++ rest) = .keyword d.keyword := by
    rcases d.exists_kinds_eq with ⟨others, hd⟩
    rw [nextKind_append hkinds, hd]
    rfl
  unfold statement
  rw [hnext]
  cases d with
  | createTable table columns => exact parses_createTable.complete (table, columns) _ _ hkinds hrest
  | insert table columns values =>
      exact parses_insert.complete (table, columns, values) _ _ hkinds hrest
  | select columns table join c =>
      exact parses_select.complete (columns, table, join, c) _ _ hkinds hrest
  | update table assignments c =>
      exact parses_update.complete (table, assignments, c) _ _ hkinds hrest
  | delete table c => exact parses_delete.complete (table, c) _ _ hkinds hrest
  | showTables => exact parses_showTables.complete () _ _ hkinds hrest
  | describe table => exact parses_describe.complete table _ _ hkinds hrest

theorem statement_sound {tokens rest : List Token} {result : Statement}
    (hread : statement tokens = .ok (result, rest)) :
    exists d : Derivation, exists own, tokens = own ++ rest ∧ own.map Token.kind = d.kinds ∧
      d.statement = result := by
  unfold statement at hread
  split at hread
  · rcases parses_createTable.sound _ _ _ hread with ⟨d, hd⟩
    exact ⟨.createTable d.1 d.2, hd⟩
  · rcases parses_insert.sound _ _ _ hread with ⟨d, hd⟩
    exact ⟨.insert d.1 d.2.1 d.2.2, hd⟩
  · rcases parses_select.sound _ _ _ hread with ⟨d, hd⟩
    exact ⟨.select d.1 d.2.1 d.2.2.1 d.2.2.2, hd⟩
  · rcases parses_update.sound _ _ _ hread with ⟨d, hd⟩
    exact ⟨.update d.1 d.2.1 d.2.2, hd⟩
  · rcases parses_delete.sound _ _ _ hread with ⟨d, hd⟩
    exact ⟨.delete d.1 d.2, hd⟩
  · rcases parses_showTables.sound _ _ _ hread with ⟨d, hd⟩
    exact ⟨.showTables, hd⟩
  · rcases parses_describe.sound _ _ _ hread with ⟨d, hd⟩
    exact ⟨.describe d, hd⟩
  · cases hread

theorem kinds_unambiguous {d d' : Derivation} (hsame : d.kinds = d'.kinds) : d = d' := by
  have hkeyword : d.keyword = d'.keyword := by
    rcases d.exists_kinds_eq with ⟨rest, hd⟩
    rcases d'.exists_kinds_eq with ⟨rest', hd'⟩
    rw [hd, hd'] at hsame
    exact TokenKind.keyword.inj (List.cons.inj hsame).1
  cases d with
  | createTable table columns =>
      cases d' with
      | createTable table' columns' =>
          cases parses_createTable.unambiguous (table, columns) (table', columns') hsame
          rfl
      | _ => cases hkeyword
  | insert table columns values =>
      cases d' with
      | insert table' columns' values' =>
          cases parses_insert.unambiguous (table, columns, values) (table', columns', values') hsame
          rfl
      | _ => cases hkeyword
  | select columns table join c =>
      cases d' with
      | select columns' table' join' c' =>
          cases parses_select.unambiguous (columns, table, join, c) (columns', table', join', c')
            hsame
          rfl
      | _ => cases hkeyword
  | update table assignments c =>
      cases d' with
      | update table' assignments' c' =>
          cases parses_update.unambiguous (table, assignments, c) (table', assignments', c') hsame
          rfl
      | _ => cases hkeyword
  | delete table c =>
      cases d' with
      | delete table' c' =>
          cases parses_delete.unambiguous (table, c) (table', c') hsame
          rfl
      | _ => cases hkeyword
  | showTables =>
      cases d' with
      | showTables => rfl
      | _ => cases hkeyword
  | describe table =>
      cases d' with
      | describe table' =>
          cases parses_describe.unambiguous table table' hsame
          rfl
      | _ => cases hkeyword

/-- The first keyword leads to the reader of its statement. -/
theorem parses_statement :
    Parses statement Derivation.kinds Derivation.statement EndsStatement where
  complete := fun _ _ _ hkinds hrest => statement_complete hkinds hrest
  sound := fun _ _ _ hread => statement_sound hread
  unambiguous := fun _ _ hsame => kinds_unambiguous hsame
  inside := by
    intro d
    cases d with
    | createTable table columns => exact parses_createTable.inside (table, columns)
    | insert table columns values => exact parses_insert.inside (table, columns, values)
    | select columns table join c => exact parses_select.inside (columns, table, join, c)
    | update table assignments c => exact parses_update.inside (table, assignments, c)
    | delete table c => exact parses_delete.inside (table, c)
    | showTables => exact parses_showTables.inside ()
    | describe table => exact parses_describe.inside table
  ends := fun _ => Or.inr rfl

/-!
# Whole texts
-/

/-- A statement, perhaps a semicolon and the end mark are read as the statement. -/
theorem complete_of_derives {d : Derivation} {tokens : List Token}
    (h : d.Derives (tokens.map Token.kind)) (position : Position) :
    complete (tokens ++ [⟨.endOfInput, position⟩]) = .ok (d.statement, [⟨.endOfInput, position⟩]) := by
  unfold complete
  rcases h with hkinds | hkinds
  · rw [bind_eq_of_ok (parses_statement.complete d tokens _ hkinds (Or.inr rfl))]
    rfl
  · rcases List.map_eq_append_iff.mp hkinds with ⟨own, last, htokens, hown, hlast⟩
    rcases List.map_eq_singleton_iff.mp hlast with ⟨⟨kind, place⟩, hsingle, hkind⟩
    simp only at hkind
    subst hkind hsingle htokens
    rw [List.append_assoc, bind_eq_of_ok (parses_statement.complete d own _ hown (Or.inl rfl))]
    rfl

/-- What stands in front of an end mark is the same however the tokens are parted. -/
theorem eq_of_append_end {tokens own behind : List Token} {last : Token}
    (htokens : forall token, token ∈ tokens -> token.kind ≠ .endOfInput)
    (hown : .endOfInput ∉ own.map Token.kind) (hlast : last.kind = .endOfInput)
    (hbehind : nextKind behind = .endOfInput) (hsame : tokens ++ [last] = own ++ behind) :
    tokens = own := by
  let inner (token : Token) : Bool := token.kind ≠ .endOfInput
  have hinner : forall token : Token, token ∈ own -> inner token = true := by
    intro token htoken
    apply decide_eq_true
    intro hkind
    exact hown (List.mem_map.mpr ⟨token, htoken, hkind⟩)
  have htaken := congrArg (List.takeWhile inner) hsame
  have hend : [last].takeWhile inner = [] :=
    List.takeWhile_cons_of_neg (by simp [inner, hlast])
  have hrest : behind.takeWhile inner = [] := by
    cases behind with
    | nil => rfl
    | cons token more => exact List.takeWhile_cons_of_neg (by simpa [inner, nextKind] using hbehind)
  rw [List.takeWhile_append_of_pos fun token htoken => decide_eq_true (htokens token htoken),
    List.takeWhile_append_of_pos hinner, hend, hrest, List.append_nil, List.append_nil] at htaken
  exact htaken

/-- Only derivations are read. -/
theorem derives_of_complete {tokens rest : List Token} {last : Token} {result : Statement}
    (htokens : forall token, token ∈ tokens -> token.kind ≠ .endOfInput)
    (hlast : last.kind = .endOfInput)
    (hread : complete (tokens ++ [last]) = .ok (result, rest)) :
    exists d : Derivation, d.Derives (tokens.map Token.kind) ∧ d.statement = result := by
  rcases bind_eq_ok hread with ⟨first, middle, hfirst, hread⟩
  rcases bind_eq_ok hread with ⟨semicolon, behind, haccept, hread⟩
  rcases bind_eq_ok hread with ⟨left, same, hget, hread⟩
  cases hget
  split at hread
  · next hnext =>
      cases hread
      rcases parses_statement.sound _ _ _ hfirst with ⟨d, own, hsplit, hown, hresult⟩
      have hinside := parses_statement.inside d
      rw [← hown] at hinside
      refine ⟨d, ?_, hresult⟩
      rcases accept_eq_ok haccept with ⟨_, position, hmiddle⟩ | ⟨_, hmiddle⟩
      · rw [hmiddle, List.append_cons own] at hsplit
        have hsame : tokens = own ++ [⟨.symbol .semicolon, position⟩] := by
          apply eq_of_append_end htokens _ hlast hnext hsplit
          rw [List.map_append]
          intro hmem
          rcases List.mem_append.mp hmem with hmem | hmem
          · exact hinside hmem
          · cases List.mem_singleton.mp hmem
        rw [hsame, List.map_append, hown]
        exact Or.inr rfl
      · rw [hmiddle] at hsplit
        rw [eq_of_append_end htokens hinside hlast hnext hsplit]
        exact Or.inl hown
  · cases hread

end Reader

namespace Statement

open Grammar

theorem derivation_unique {d d' : Derivation} {kinds : List TokenKind} (h : d.Derives kinds)
    (h' : d'.Derives kinds) : d = d' := by
  have hstop : forall last : List TokenKind, last = [] ∨ last = [.symbol .semicolon] ->
      Reader.EndsStatement (Reader.headKind last .endOfInput) := by
    rintro last (hlast | hlast)
    · rw [hlast]
      exact Or.inr rfl
    · rw [hlast]
      exact Or.inl rfl
  have hlast : forall d : Derivation, d.Derives kinds -> exists last,
      (last = [] ∨ last = [.symbol .semicolon]) ∧ kinds = d.kinds ++ last := by
    rintro d (hkinds | hkinds)
    · exact ⟨[], Or.inl rfl, by rw [hkinds, List.append_nil]⟩
    · exact ⟨_, Or.inr rfl, hkinds⟩
  rcases hlast d h with ⟨last, hends, hkinds⟩
  rcases hlast d' h' with ⟨last', hends', hkinds'⟩
  rw [hkinds] at hkinds'
  exact (Reader.parses_statement.append_inj hkinds' (hstop _ hends) (hstop _ hends')).1

theorem ofTokens_eq_ok_iff {tokens : List Token} {position : Position} {result : Statement}
    (htokens : forall token, token ∈ tokens -> token.kind ≠ .endOfInput) :
    ofTokens (tokens ++ [⟨.endOfInput, position⟩]) = .ok result <->
      exists d : Derivation, d.Derives (tokens.map Token.kind) ∧ d.statement = result := by
  unfold ofTokens
  constructor
  · intro h
    cases hread : Reader.complete (tokens ++ [⟨.endOfInput, position⟩]) with
    | error refusal =>
        rw [hread] at h
        cases h
    | ok pair =>
        rw [hread] at h
        cases h
        exact Reader.derives_of_complete htokens rfl hread
  · intro h
    rcases h with ⟨d, hd, hresult⟩
    rw [Reader.complete_of_derives hd, hresult]

/-- Only the kinds of the tokens count. -/
theorem ofTokens_eq_ok_iff_of_kinds {tokens : List Token} {own : List TokenKind}
    (hkinds : tokens.map Token.kind = own ++ [.endOfInput]) (hown : .endOfInput ∉ own)
    {result : Statement} :
    ofTokens tokens = .ok result <-> exists d : Derivation, d.Derives own ∧ d.statement = result := by
  rcases List.map_eq_append_iff.mp hkinds with ⟨front, last, htokens, hfront, hlast⟩
  rcases List.map_eq_singleton_iff.mp hlast with ⟨⟨kind, position⟩, hsingle, hkind⟩
  simp only at hkind
  subst hkind hsingle htokens hfront
  apply ofTokens_eq_ok_iff
  intro token htoken hend
  exact hown (List.mem_map.mpr ⟨token, htoken, hend⟩)

/-- Tokens in front of an end mark are read as a statement exactly if the grammar derives them, a
semicolon at the end set aside, and then as the tree of their one derivation.  All other tokens are
refused with a syntax error. -/
theorem grammar_is_accepted (tokens : List Token) (position : Position)
    (htokens : forall token, token ∈ tokens -> token.kind ≠ .endOfInput) :
    (forall result, ofTokens (tokens ++ [⟨.endOfInput, position⟩]) = .ok result <->
        exists d : Derivation, d.Derives (tokens.map Token.kind) ∧ d.statement = result) ∧
      (forall d d' : Derivation, d.Derives (tokens.map Token.kind) ->
        d'.Derives (tokens.map Token.kind) -> d = d') ∧
      ((¬ exists d : Derivation, d.Derives (tokens.map Token.kind)) ->
        exists e place, (ofTokens (tokens ++ [⟨.endOfInput, position⟩])).mapError Error.malformed =
            .error e ∧ e.kind = .syntaxError place) := by
  refine ⟨fun _ => ofTokens_eq_ok_iff htokens, fun _ _ => derivation_unique, ?_⟩
  intro hnone
  cases hread : ofTokens (tokens ++ [⟨.endOfInput, position⟩]) with
  | error e => exact ⟨.malformed e, e.position, rfl, rfl⟩
  | ok result =>
      rcases (ofTokens_eq_ok_iff htokens).mp hread with ⟨d, hd, _⟩
      exact absurd ⟨d, hd⟩ hnone

/-- A table and a column with reserved names, and a constraint that is given twice. -/
def sampleDerivation : Derivation :=
  .createTable (.keyword .TABLE)
    ⟨⟨.boolean true, .int, [.unique, .primaryKey, .unique]⟩, [⟨.name "b", .text, []⟩]⟩

theorem grammar_is_accepted_sample :
    (forall token, token ∈ Reader.tokensOf sampleDerivation.kinds -> token.kind ≠ .endOfInput) ∧
      ofTokens (Reader.tokensOf sampleDerivation.kinds ++ [⟨.endOfInput, ⟨1, 60⟩⟩]) =
        .ok (.createTable "table" [⟨"true", .int, [.unique, .primaryKey]⟩, ⟨"b", .text, []⟩]) := by
  have htokens : forall token, token ∈ Reader.tokensOf sampleDerivation.kinds ->
      token.kind ≠ .endOfInput := by decide
  refine ⟨htokens, ((grammar_is_accepted _ ⟨1, 60⟩ htokens).1 _).mpr ⟨sampleDerivation, ?_, ?_⟩⟩
  · exact Or.inl (Reader.kinds_tokensOf _)
  · decide

end Statement
end Sql
end Tabula
