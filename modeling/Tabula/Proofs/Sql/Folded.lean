import Tabula.Proofs.Sql.LetterCase
import Tabula.Proofs.Sql.Parsing

/-!
# Statements in the folded form

A statement is folded by folding its names.  A reader goes the same way on folded tokens: it takes as
many of them, refuses at the same place, and reads the folded part of a statement.  So the folded text
of a statement spells the folded statement, and where a text spells none, its folded form spells none
at the same place.
-/

namespace Tabula

/-!
# Trees
-/

def Column.folded (column : Column) : Column :=
  { column with name := Text.folded column.name }

namespace Sql

def ColumnRef.folded (ref : ColumnRef) : ColumnRef :=
  ⟨ref.table.map Text.folded, Text.folded ref.column⟩

def Projection.folded : Projection -> Projection
  | .all => .all
  | .only refs => .only (refs.map ColumnRef.folded)

def JoinClause.folded (clause : JoinClause) : JoinClause :=
  ⟨Text.folded clause.table, clause.left.folded, clause.right.folded⟩

def Condition.folded (condition : Condition) : Condition :=
  ⟨condition.column.folded, condition.value⟩

/-- An assignment to a column given by name. -/
def foldedAssignment (assignment : String × Value) : String × Value :=
  (Text.folded assignment.1, assignment.2)

def Statement.folded : Statement -> Statement
  | .createTable table columns => .createTable (Text.folded table) (columns.map Column.folded)
  | .insert table columns values =>
      .insert (Text.folded table) (columns.map Text.folded) values
  | .select projection table join condition =>
      .select projection.folded (Text.folded table) (join.map JoinClause.folded)
        (condition.map Condition.folded)
  | .update table assignments condition =>
      .update (Text.folded table) (assignments.map foldedAssignment)
        (condition.map Condition.folded)
  | .delete table condition => .delete (Text.folded table) (condition.map Condition.folded)
  | .showTables => .showTables
  | .describe table => .describe (Text.folded table)

/-!
# Folding a reading
-/

def Refusal.folded (refusal : Refusal) : Refusal :=
  ⟨refusal.expected, refusal.rest.map Token.folded⟩

namespace Reader

variable {α β γ δ : Type}

/-- What a reader makes of folded tokens, told from what it makes of the tokens. -/
def foldedReading (f : α -> β) (reading : Except Refusal (α × List Token)) :
    Except Refusal (β × List Token) :=
  match reading with
  | .ok (a, rest) => .ok (f a, rest.map Token.folded)
  | .error refusal => .error refusal.folded

/-- On folded tokens the second reader reads the image of what the first one reads on the tokens. -/
def Folds (f : α -> β) (reader : Reader α) (reader' : Reader β) : Prop :=
  forall tokens : List Token, reader' (tokens.map Token.folded) = foldedReading f (reader tokens)

theorem folds_pure (f : α -> β) (a : α) : Folds f (pure a) (pure (f a)) :=
  fun _ => rfl

theorem folds_refuse (f : α -> β) (expected : Expectation) :
    Folds f (refuse expected) (refuse expected) :=
  fun _ => rfl

theorem folds_bind {f : α -> β} {g : γ -> δ} {first : Reader α} {first' : Reader β}
    {next : α -> Reader γ} {next' : β -> Reader δ} (h : Folds f first first')
    (hnext : forall a, Folds g (next a) (next' (f a))) :
    Folds g (first >>= next) (first' >>= next') := by
  intro tokens
  have hfirst := h tokens
  simp only [bind, StateT.bind, Except.bind]
  rw [hfirst]
  cases first tokens with
  | error refusal => rfl
  | ok result => exact hnext result.1 result.2

theorem folds_get : Folds (List.map Token.folded) (get : Reader (List Token)) get :=
  fun _ => rfl

/-!
# Single tokens
-/

theorem nextKind_folded (tokens : List Token) :
    nextKind (tokens.map Token.folded) = (nextKind tokens).folded := by
  cases tokens with
  | nil => rfl
  | cons token rest => rfl

/-- A token that is no name is told from the folded token. -/
def CaseBlind (kind : TokenKind) : Prop :=
  forall other : TokenKind, other.folded = kind <-> other = kind

theorem caseBlind_keyword (k : Keyword) : CaseBlind (.keyword k) := by
  intro other
  cases other with
  | name s => exact iff_of_false nofun nofun
  | _ => exact Iff.rfl

theorem caseBlind_symbol (s : Symbol) : CaseBlind (.symbol s) := by
  intro other
  cases other with
  | name s => exact iff_of_false nofun nofun
  | _ => exact Iff.rfl

theorem caseBlind_endOfInput : CaseBlind .endOfInput := by
  intro other
  cases other with
  | name s => exact iff_of_false nofun nofun
  | _ => exact Iff.rfl

theorem folds_accept {kind : TokenKind} (h : CaseBlind kind) :
    Folds id (accept kind) (accept kind) := by
  intro tokens
  cases tokens with
  | nil => rfl
  | cons token rest =>
      show (if token.kind.folded = kind then _ else _) = foldedReading id (if _ then _ else _)
      by_cases hkind : token.kind = kind
      · rw [if_pos hkind, if_pos ((h _).mpr hkind)]
        rfl
      · rw [if_neg hkind, if_neg (mt (h _).mp hkind)]
        rfl

theorem folds_expect {kind : TokenKind} (h : CaseBlind kind) :
    Folds id (expect kind) (expect kind) := by
  refine folds_bind (folds_accept h) fun found => ?_
  cases found with
  | true => exact folds_pure id ()
  | false => exact folds_refuse id _

theorem folds_keyword {f : α -> β} {k : Keyword} {next : Unit -> Reader α}
    {next' : Unit -> Reader β} (h : Folds f (next ()) (next' ())) :
    Folds f (expect (.keyword k) >>= next) (expect (.keyword k) >>= next') :=
  folds_bind (folds_expect (caseBlind_keyword k)) fun _ => h

theorem folds_symbol {f : α -> β} {s : Symbol} {next : Unit -> Reader α}
    {next' : Unit -> Reader β} (h : Folds f (next ()) (next' ())) :
    Folds f (expect (.symbol s) >>= next) (expect (.symbol s) >>= next') :=
  folds_bind (folds_expect (caseBlind_symbol s)) fun _ => h

/-- Reserved words are spelled in the folded form. -/
theorem folded_word (k : Keyword) : Text.folded k.word = k.word := by
  cases k <;> rfl

theorem folds_name : Folds Text.folded name name := by
  intro tokens
  rcases tokens with _ | ⟨⟨kind, position⟩, rest⟩
  · rfl
  · cases kind with
    | keyword k => exact congrArg (fun word => Except.ok (word, _)) (folded_word k).symm
    | boolean b => cases b <;> rfl
    | _ => rfl

theorem folds_literal : Folds id literal literal := by
  intro tokens
  rcases tokens with _ | ⟨⟨kind, position⟩, rest⟩
  · rfl
  · cases kind with
    | keyword k => cases k <;> rfl
    | _ => rfl

theorem folds_columnType : Folds id columnType columnType := by
  intro tokens
  rcases tokens with _ | ⟨⟨kind, position⟩, rest⟩
  · rfl
  · cases kind with
    | keyword k => cases k <;> rfl
    | _ => rfl

/-!
# Lists
-/

theorem commaList_folded {f : α -> β} {item : Reader α} {item' : Reader β}
    (h : Folds f item item') (shrinks : Shrinks item) (shrinks' : Shrinks item')
    (tokens : List Token) :
    commaList item' shrinks' (tokens.map Token.folded) =
      foldedReading (List.map f) (commaList item shrinks tokens) := by
  have hitem' := h tokens
  cases hitem : item tokens with
  | error refusal =>
      rw [hitem] at hitem'
      rw [commaList_of_error shrinks hitem, commaList_of_error shrinks' hitem']
      rfl
  | ok result =>
      rcases result with ⟨a, rest⟩
      rw [hitem] at hitem'
      by_cases hcomma : nextKind rest = .symbol .comma
      · rcases rest with _ | ⟨⟨kind, position⟩, behind⟩
        · cases hcomma
        · cases hcomma
          have ih := commaList_folded h shrinks shrinks' behind
          rw [commaList_step shrinks hitem, commaList_step shrinks' hitem', ih]
          cases commaList item shrinks behind with
          | error refusal => rfl
          | ok more => rfl
      · have hlast : nextKind (rest.map Token.folded) ≠ .symbol .comma := by
          rw [nextKind_folded]
          exact mt (caseBlind_symbol .comma _).mp hcomma
        rw [commaList_of_last shrinks hitem hcomma, commaList_of_last shrinks' hitem' hlast]
        rfl
termination_by tokens.length
decreasing_by exact Nat.lt_of_succ_lt (shrinks _ _ _ hitem)

theorem folds_commaList {f : α -> β} {item : Reader α} {item' : Reader β} (h : Folds f item item')
    (shrinks : Shrinks item) (shrinks' : Shrinks item') :
    Folds (List.map f) (commaList item shrinks : Reader (List α)) (commaList item' shrinks') :=
  commaList_folded h shrinks shrinks'

theorem folds_parenthesized {f : α -> β} {item : Reader α} {item' : Reader β}
    (h : Folds f item item') (shrinks : Shrinks item) (shrinks' : Shrinks item') :
    Folds (List.map f) (parenthesized item shrinks) (parenthesized item' shrinks') := by
  refine folds_symbol (folds_bind (folds_commaList h shrinks shrinks') fun items => ?_)
  exact folds_symbol (folds_pure _ items)

theorem declare_folded (column : Column) (constraint : Constraint) :
    column.folded.declare constraint = (column.declare constraint).folded := by
  unfold Column.declare
  by_cases hmem : constraint ∈ column.constraints
  · rw [if_pos hmem]
    exact if_pos hmem
  · rw [if_neg hmem]
    exact if_neg hmem

theorem eq_cons_of_map_folded {kind : TokenKind} (h : CaseBlind kind) {position : Position}
    {tokens rest' : List Token} (htokens : tokens.map Token.folded = ⟨kind, position⟩ :: rest') :
    exists rest, tokens = ⟨kind, position⟩ :: rest ∧ rest.map Token.folded = rest' := by
  rcases List.map_eq_cons_iff.mp htokens with ⟨⟨own, place⟩, rest, rfl, hown, hrest⟩
  rcases Token.mk.inj hown with ⟨hkind, rfl⟩
  rw [(h own).mp hkind]
  exact ⟨rest, rfl, hrest⟩

theorem folds_constraints (column : Column) :
    Folds Column.folded (constraints column : Reader Column) (constraints column.folded) := by
  intro tokens
  induction column, tokens using constraints.induct with
  | case1 column position rest ih =>
      rw [← declare_folded] at ih
      exact ih
  | case2 column position position' rest ih =>
      rw [← declare_folded] at ih
      exact ih
  | case3 column position rest hnoKey =>
      rw [List.map_cons]
      show constraints column.folded (⟨.keyword .PRIMARY, position⟩ :: rest.map Token.folded) = _
      rw [constraints, constraints]
      · rfl
      · exact hnoKey
      · intro position' behind hrest
        rcases eq_cons_of_map_folded (caseBlind_keyword .KEY) hrest with ⟨behind, hbehind, _⟩
        exact hnoKey position' behind hbehind
  | case4 column tokens hnoUnique hnoPrimaryKey hnoPrimary =>
      rw [constraints, constraints]
      · rfl
      · exact hnoUnique
      · exact hnoPrimaryKey
      · exact hnoPrimary
      · intro position rest htokens
        rcases eq_cons_of_map_folded (caseBlind_keyword .UNIQUE) htokens with ⟨rest, hrest, _⟩
        exact hnoUnique position rest hrest
      · intro position position' rest htokens
        rcases eq_cons_of_map_folded (caseBlind_keyword .PRIMARY) htokens with ⟨rest, hrest, _⟩
        exact hnoPrimary position rest hrest
      · intro position rest htokens
        rcases eq_cons_of_map_folded (caseBlind_keyword .PRIMARY) htokens with ⟨rest, hrest, _⟩
        exact hnoPrimary position rest hrest

/-!
# Parts of statements
-/

theorem folds_columnDefinition : Folds Column.folded columnDefinition columnDefinition := by
  refine folds_bind folds_name fun name => folds_bind folds_columnType fun type => ?_
  exact folds_constraints { name, type }

theorem folds_columnRef : Folds ColumnRef.folded columnRef columnRef := by
  refine folds_bind folds_name fun first =>
    folds_bind (folds_accept (caseBlind_symbol .dot)) fun dotted => ?_
  cases dotted with
  | true =>
      exact folds_bind folds_name fun column =>
        folds_pure ColumnRef.folded { table := some first, column }
  | false => exact folds_pure ColumnRef.folded { column := first }

theorem folds_assignment : Folds foldedAssignment assignment assignment := by
  refine folds_bind folds_name fun column => folds_symbol (folds_bind folds_literal fun value => ?_)
  exact folds_pure foldedAssignment (column, value)

theorem folds_condition : Folds (Option.map Condition.folded) condition condition := by
  refine folds_bind (folds_accept (caseBlind_keyword .WHERE)) fun found => ?_
  cases found with
  | true =>
      refine folds_bind folds_columnRef fun column =>
        folds_symbol (folds_bind folds_literal fun value => ?_)
      exact folds_pure (Option.map Condition.folded) (some { column, value })
  | false => exact folds_pure (Option.map Condition.folded) none

theorem folds_joinClause : Folds (Option.map JoinClause.folded) joinClause joinClause := by
  refine folds_bind (folds_accept (caseBlind_keyword .INNER)) fun found => ?_
  cases found with
  | true =>
      refine folds_keyword (folds_bind folds_name fun table => folds_keyword
        (folds_bind folds_columnRef fun left => folds_symbol
          (folds_bind folds_columnRef fun right => ?_)))
      exact folds_pure (Option.map JoinClause.folded) (some { table, left, right })
  | false => exact folds_pure (Option.map JoinClause.folded) none

theorem folds_projection : Folds Projection.folded projection projection := by
  refine folds_bind (folds_accept (caseBlind_symbol .star)) fun found => ?_
  cases found with
  | true => exact folds_pure Projection.folded .all
  | false =>
      refine folds_bind (folds_commaList folds_columnRef shrinks_columnRef shrinks_columnRef)
        fun refs => ?_
      exact folds_pure Projection.folded (.only refs)

/-!
# Statements
-/

theorem folds_createTable : Folds Statement.folded createTable createTable := by
  refine folds_keyword (folds_keyword (folds_bind folds_name fun table => ?_))
  refine folds_bind (folds_parenthesized folds_columnDefinition shrinks_columnDefinition
    shrinks_columnDefinition) fun columns => ?_
  exact folds_pure Statement.folded (.createTable table columns)

theorem folds_insert : Folds Statement.folded insert insert := by
  refine folds_keyword (folds_keyword (folds_bind folds_name fun table => ?_))
  refine folds_bind (folds_parenthesized folds_name shrinks_name shrinks_name) fun columns => ?_
  refine folds_keyword (folds_bind
    (folds_parenthesized folds_literal shrinks_literal shrinks_literal) fun values => ?_)
  have hsame : Statement.folded (.insert table columns values) =
      .insert (Text.folded table) (columns.map Text.folded) (values.map id) := by
    rw [List.map_id]
    rfl
  exact hsame ▸ folds_pure Statement.folded (.insert table columns values)

theorem folds_select : Folds Statement.folded select select := by
  refine folds_keyword (folds_bind folds_projection fun projection => folds_keyword
    (folds_bind folds_name fun table => folds_bind folds_joinClause fun join =>
      folds_bind folds_condition fun condition => ?_))
  exact folds_pure Statement.folded (.select projection table join condition)

theorem folds_update : Folds Statement.folded update update := by
  refine folds_keyword (folds_bind folds_name fun table => folds_keyword
    (folds_bind (folds_commaList folds_assignment shrinks_assignment shrinks_assignment)
      fun assignments => folds_bind folds_condition fun condition => ?_))
  exact folds_pure Statement.folded (.update table assignments condition)

theorem folds_delete : Folds Statement.folded delete delete := by
  refine folds_keyword (folds_keyword (folds_bind folds_name fun table =>
    folds_bind folds_condition fun condition => ?_))
  exact folds_pure Statement.folded (.delete table condition)

theorem folds_showTables : Folds Statement.folded showTables showTables :=
  folds_keyword (folds_keyword (folds_pure Statement.folded .showTables))

theorem folds_describe : Folds Statement.folded describe describe :=
  folds_keyword (folds_bind folds_name fun table => folds_pure Statement.folded (.describe table))

theorem folds_statement : Folds Statement.folded statement statement := by
  intro tokens
  unfold statement
  rw [nextKind_folded]
  cases hkind : nextKind tokens with
  | keyword k =>
      cases k with
      | CREATE => exact folds_createTable tokens
      | INSERT => exact folds_insert tokens
      | SELECT => exact folds_select tokens
      | UPDATE => exact folds_update tokens
      | DELETE => exact folds_delete tokens
      | SHOW => exact folds_showTables tokens
      | DESCRIBE => exact folds_describe tokens
      | _ => rfl
  | _ => rfl

theorem folds_complete : Folds Statement.folded complete complete := by
  refine folds_bind folds_statement fun result =>
    folds_bind (folds_accept (caseBlind_symbol .semicolon)) fun _ => ?_
  refine folds_bind folds_get fun rest => ?_
  rw [nextKind_folded]
  by_cases hend : nextKind rest = .endOfInput
  · rw [if_pos hend, if_pos ((caseBlind_endOfInput _).mpr hend)]
    exact folds_pure Statement.folded result
  · rw [if_neg hend, if_neg (mt (caseBlind_endOfInput _).mp hend)]
    exact folds_refuse Statement.folded .endOfStatement

end Reader

/-!
# Texts
-/

theorem endPosition_folded (tokens : List Token) :
    endPosition (tokens.map Token.folded) = endPosition tokens := by
  unfold endPosition
  rw [List.getLast?_map]
  cases tokens.getLast? with
  | none => rfl
  | some token => rfl

theorem Refusal.position_folded (refusal : Refusal) (finish : Position) :
    (refusal.folded.toSyntaxError finish).position = (refusal.toSyntaxError finish).position := by
  rcases refusal with ⟨expected, rest⟩
  cases rest with
  | nil => rfl
  | cons token rest => rfl

theorem Statement.ofTokens_folded (tokens : List Token) :
    (ofTokens (tokens.map Token.folded)).mapError SyntaxError.position =
      ((ofTokens tokens).map Statement.folded).mapError SyntaxError.position := by
  unfold ofTokens
  rw [Reader.folds_complete tokens, endPosition_folded]
  cases Reader.complete tokens with
  | ok result => rfl
  | error refusal => exact congrArg Except.error (refusal.position_folded _)

/-- The kind of a syntax error is its position. -/
theorem mapError_kind_malformed {α : Type} (result : Except SyntaxError α) :
    (result.mapError Error.malformed).mapError Error.kind =
      (result.mapError SyntaxError.position).mapError ErrorKind.syntaxError := by
  cases result with
  | error error => rfl
  | ok a => rfl

/-- The folded text spells the folded statement, or its fault is at the same place. -/
theorem Statement.parse_foldedText (sql : String) :
    (parse (foldedText sql)).mapError Error.kind =
      ((parse sql).map Statement.folded).mapError Error.kind := by
  have htokens := tokenize_foldedText sql
  have hread : ((tokenize (foldedText sql)).bind ofTokens).mapError SyntaxError.position =
      (((tokenize sql).bind ofTokens).map Statement.folded).mapError SyntaxError.position := by
    cases hfolded : tokenize (foldedText sql) with
    | error error =>
        cases hplain : tokenize sql with
        | error error' =>
            rw [hfolded, hplain] at htokens
            exact congrArg Except.error (Except.error.inj htokens)
        | ok tokens =>
            rw [hfolded, hplain] at htokens
            cases htokens
    | ok tokens' =>
        cases hplain : tokenize sql with
        | error error =>
            rw [hfolded, hplain] at htokens
            cases htokens
        | ok tokens =>
            rw [hfolded, hplain] at htokens
            cases htokens
            exact ofTokens_folded tokens
  unfold parse
  rw [Result.mapError_map] at hread ⊢
  rw [mapError_kind_malformed, mapError_kind_malformed, hread]
  exact Result.mapError_map _ _ _

end Sql
end Tabula
