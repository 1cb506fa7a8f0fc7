import Tabula.Proofs.Sql.EndMark
import Tabula.Sql.Statement.Cursor

/-!
# Reading under a cursor

A cursor does what a reader does with the tokens from its place on, as long as an end mark stands at its
place or behind it.  No production steps over an end mark, for it looks for tokens of other kinds only.
So the cursor never comes to step off the last token, its loops end with the tokens in front of the end
mark, and no place outside the list is looked at.

## Main statements

- `loop_eq`: a loop is its first round with the rest of the loop behind it.
- `follows_complete`: the cursor of whole statements does what their reader does.
- `reading_keeps_inside`: every list of tokens is read to an answer, and the answer is that of the
  tokens up to the first end mark.
-/

namespace Tabula
namespace Sql

theorem TokenKind.keyword_ne_end (k : Keyword) : TokenKind.keyword k ≠ .endOfInput := by
  intro h
  cases h

theorem TokenKind.symbol_ne_end (s : Symbol) : TokenKind.symbol s ≠ .endOfInput := by
  intro h
  cases h

namespace Cursor

variable {α β : Type} {tokens behind : List Token} {place : Nat} {token : Token}

/-!
# Outcomes
-/

theorem outcome_bind_of_ok {cursor : Cursor α} {a : α} {next : α -> Cursor β} {place' : Nat}
    (h : cursor.outcome tokens place = .some (.ok (a, place'))) :
    (cursor >>= next).outcome tokens place = (next a).outcome tokens place' := by
  show Part.bind (cursor.outcome tokens place) _ = _
  rw [h, Part.bind_some]
  rfl

theorem outcome_bind_of_error {cursor : Cursor α} {stop : Stop} {next : α -> Cursor β}
    (h : cursor.outcome tokens place = .some (.error stop)) :
    (cursor >>= next).outcome tokens place = .some (.error stop) := by
  show Part.bind (cursor.outcome tokens place) _ = _
  rw [h, Part.bind_some]
  rfl

theorem outcome_bind_of_none {cursor : Cursor α} {next : α -> Cursor β}
    (h : cursor.outcome tokens place = .none) :
    (cursor >>= next).outcome tokens place = .none := by
  show Part.bind (cursor.outcome tokens place) _ = _
  rw [h, Part.bind_none]

theorem outcome_current (h : tokens[place]? = some token) :
    current.outcome tokens place = .some (.ok (token, place)) := by
  have hplace : (get : Cursor Nat).outcome tokens place = .some (.ok (place, place)) := rfl
  have hread : (read : Cursor (List Token)).outcome tokens place = .some (.ok (tokens, place)) := rfl
  unfold current
  rw [outcome_bind_of_ok hplace, outcome_bind_of_ok hread, h]
  rfl

theorem outcome_advance (h : place + 1 < tokens.length) :
    advance.outcome tokens place = .some (.ok ((), place + 1)) := by
  have hread : (read : Cursor (List Token)).outcome tokens place = .some (.ok (tokens, place)) := rfl
  unfold advance
  rw [outcome_bind_of_ok hread]
  show Part.some (Except.ok ((), if place + 1 < tokens.length then place + 1 else place)) = _
  rw [if_pos h]

theorem outcome_refuse (expected : Expectation) (h : tokens[place]? = some token) :
    (refuse expected : Cursor α).outcome tokens place =
      .some (.error (.malformed ⟨.unexpectedToken expected token.kind, token.position⟩)) := by
  unfold refuse
  rw [outcome_bind_of_ok (outcome_current h)]
  exact Part.bind_some _ _

/-!
# In front of an end mark
-/

/-- An end mark stands at a place or behind it. -/
def Guarded (tokens : List Token) (place : Nat) : Prop :=
  exists token, token ∈ tokens.drop place ∧ token.kind = .endOfInput

theorem Guarded.exists_current (h : Guarded tokens place) :
    exists token behind, tokens.drop place = token :: behind ∧ tokens[place]? = some token := by
  rcases h with ⟨mark, hmark, _⟩
  cases hdrop : tokens.drop place with
  | nil =>
      rw [hdrop] at hmark
      cases hmark
  | cons token behind =>
      refine ⟨token, behind, rfl, ?_⟩
      rw [← List.head?_drop, hdrop]
      rfl

/-- A token that is no end mark is not the last one, and the end mark stands behind it. -/
theorem Guarded.step (h : Guarded tokens place) (hdrop : tokens.drop place = token :: behind)
    (hkind : token.kind ≠ .endOfInput) :
    place + 1 < tokens.length ∧ tokens.drop (place + 1) = behind ∧ Guarded tokens (place + 1) := by
  have hbehind : tokens.drop (place + 1) = behind := by
    rw [← List.tail_drop, hdrop]
    rfl
  rcases h with ⟨mark, hmark, hend⟩
  rw [hdrop] at hmark
  rcases List.mem_cons.mp hmark with hsame | hlater
  · exact absurd (hsame ▸ hend) hkind
  · rw [← hbehind] at hlater
    refine ⟨?_, hbehind, mark, hlater, hend⟩
    have hlength := List.length_pos_of_mem hlater
    rw [List.length_drop] at hlength
    omega

/-!
# Cursors and readers
-/

/-- The outcome of a cursor beside that of a reader: both have read the same and the cursor still
stands in front of an end mark, or both are refused at one token. -/
inductive Agrees (tokens : List Token) :
    Part (Except Stop (α × Nat)) -> Except Refusal (α × List Token) -> Prop where
  | read (a : α) {place : Nat} (hguarded : Guarded tokens place) :
      Agrees tokens (.some (.ok (a, place))) (.ok (a, tokens.drop place))
  | refused (expected : Expectation) (token : Token) (behind : List Token) :
      Agrees tokens
        (.some (.error (.malformed ⟨.unexpectedToken expected token.kind, token.position⟩)))
        (.error ⟨expected, token :: behind⟩)

/-- A cursor does from its place on what a reader does with the tokens from there on. -/
def Follows (cursor : Cursor α) (reader : Reader α) : Prop :=
  forall tokens place, Guarded tokens place ->
    Agrees tokens (cursor.outcome tokens place) (reader (tokens.drop place))

theorem Agrees.of_ok {out : Part (Except Stop (α × Nat))} {a : α} {rest : List Token}
    (h : Agrees tokens out (.ok (a, rest))) :
    exists place, out = .some (.ok (a, place)) ∧ tokens.drop place = rest ∧ Guarded tokens place := by
  cases h with
  | read _ hguarded => exact ⟨_, rfl, rfl, hguarded⟩

theorem follows_pure (a : α) : Follows (pure a) (pure a) := by
  intro tokens place hguarded
  exact .read a hguarded

theorem follows_refuse (expected : Expectation) :
    Follows (refuse expected : Cursor α) (Reader.refuse expected) := by
  intro tokens place hguarded
  rcases hguarded.exists_current with ⟨token, behind, hdrop, hget⟩
  rw [outcome_refuse expected hget, hdrop]
  exact .refused expected token behind

theorem follows_bind {cursor : Cursor α} {next : α -> Cursor β} {reader : Reader α}
    {next' : α -> Reader β} (h : Follows cursor reader) (hnext : forall a, Follows (next a) (next' a)) :
    Follows (cursor >>= next) (reader >>= next') := by
  intro tokens place hguarded
  have hfirst := h tokens place hguarded
  generalize hout : cursor.outcome tokens place = out at hfirst
  generalize hread : reader (tokens.drop place) = result at hfirst
  cases hfirst with
  | read a hmiddle =>
      rw [outcome_bind_of_ok hout, Reader.bind_eq_of_ok hread]
      exact hnext a tokens _ hmiddle
  | refused expected token behind =>
      rw [outcome_bind_of_error hout, Reader.bind_eq_of_error hread]
      exact .refused expected token behind

/-!
# Single tokens
-/

theorem outcome_accept_of_eq {kind : TokenKind} {position : Position} (h : Guarded tokens place)
    (hdrop : tokens.drop place = ⟨kind, position⟩ :: behind) (hkind : kind ≠ .endOfInput) :
    (accept kind).outcome tokens place = .some (.ok (true, place + 1)) := by
  rcases h.exists_current with ⟨token, _, hsame, hget⟩
  cases hdrop.symm.trans hsame
  unfold accept
  rw [outcome_bind_of_ok (outcome_current hget), if_pos rfl,
    outcome_bind_of_ok (outcome_advance (h.step hdrop hkind).1)]
  rfl

theorem outcome_accept_of_ne {kind : TokenKind} (h : Guarded tokens place)
    (hkind : Reader.nextKind (tokens.drop place) ≠ kind) :
    (accept kind).outcome tokens place = .some (.ok (false, place)) := by
  rcases h.exists_current with ⟨token, _, hdrop, hget⟩
  rw [hdrop] at hkind
  unfold accept
  rw [outcome_bind_of_ok (outcome_current hget), if_neg (show token.kind ≠ kind from hkind)]
  rfl

theorem follows_accept {kind : TokenKind} (hkind : kind ≠ .endOfInput) :
    Follows (accept kind) (Reader.accept kind) := by
  intro tokens place hguarded
  by_cases hnext : Reader.nextKind (tokens.drop place) = kind
  · rcases Reader.exists_cons_of_nextKind hkind hnext with ⟨position, behind, hdrop⟩
    rcases hguarded.step hdrop hkind with ⟨_, hbehind, hlater⟩
    rw [outcome_accept_of_eq hguarded hdrop hkind, hdrop, Reader.accept_of_eq, ← hbehind]
    exact .read true hlater
  · rw [outcome_accept_of_ne hguarded hnext, Reader.accept_of_ne hnext]
    exact .read false hguarded

theorem follows_choice {kind : TokenKind} {next : Bool -> Cursor α} {next' : Bool -> Reader α}
    (hkind : kind ≠ .endOfInput) (hyes : Follows (next true) (next' true))
    (hno : Follows (next false) (next' false)) :
    Follows (accept kind >>= next) (Reader.accept kind >>= next') := by
  apply follows_bind (follows_accept hkind)
  intro found
  cases found with
  | true => exact hyes
  | false => exact hno

theorem follows_expect {kind : TokenKind} (hkind : kind ≠ .endOfInput) :
    Follows (expect kind) (Reader.expect kind) :=
  follows_choice hkind (follows_pure ()) (follows_refuse _)

theorem outcome_expect_of_ne {kind : TokenKind} (h : Guarded tokens place)
    (hdrop : tokens.drop place = token :: behind) (hkind : token.kind ≠ kind) :
    (expect kind).outcome tokens place =
      .some (.error (.malformed ⟨.unexpectedToken (.exactly kind) token.kind, token.position⟩)) := by
  rcases h.exists_current with ⟨_, _, hsame, hget⟩
  cases hdrop.symm.trans hsame
  have hnext : Reader.nextKind (tokens.drop place) ≠ kind := by
    rw [hdrop]
    exact hkind
  unfold expect
  rw [outcome_bind_of_ok (outcome_accept_of_ne h hnext)]
  exact outcome_refuse _ hget

theorem follows_keyword {k : Keyword} {next : Unit -> Cursor α} {next' : Unit -> Reader α}
    (h : Follows (next ()) (next' ())) :
    Follows (expect (.keyword k) >>= next) (Reader.expect (.keyword k) >>= next') :=
  follows_bind (follows_expect (TokenKind.keyword_ne_end k)) fun _ => h

theorem follows_symbol {s : Symbol} {next : Unit -> Cursor α} {next' : Unit -> Reader α}
    (h : Follows (next ()) (next' ())) :
    Follows (expect (.symbol s) >>= next) (Reader.expect (.symbol s) >>= next') :=
  follows_bind (follows_expect (TokenKind.symbol_ne_end s)) fun _ => h

theorem follows_take {expected : Expectation} {meaning : TokenKind -> Option α} {reader : Reader α}
    (hread : forall token behind, reader (token :: behind) =
      match meaning token.kind with
      | some a => .ok (a, behind)
      | none => .error ⟨expected, token :: behind⟩)
    (hend : meaning .endOfInput = none) : Follows (take expected meaning) reader := by
  intro tokens place hguarded
  rcases hguarded.exists_current with ⟨token, behind, hdrop, hget⟩
  unfold take
  rw [outcome_bind_of_ok (outcome_current hget), hdrop, hread]
  cases hmeaning : meaning token.kind with
  | none =>
      simp only
      rw [outcome_refuse expected hget]
      exact .refused expected token behind
  | some a =>
      have hkind : token.kind ≠ .endOfInput := by
        intro hkind
        rw [hkind, hend] at hmeaning
        cases hmeaning
      rcases hguarded.step hdrop hkind with ⟨hroom, hbehind, hlater⟩
      simp only
      rw [outcome_bind_of_ok (outcome_advance hroom), ← hbehind]
      exact .read a hlater

theorem follows_name : Follows name Reader.name := by
  apply follows_take
  · rintro ⟨kind, position⟩ behind
    cases kind with
    | boolean b => cases b <;> rfl
    | _ => rfl
  · rfl

theorem follows_literal : Follows literal Reader.literal := by
  apply follows_take
  · rintro ⟨kind, position⟩ behind
    cases kind with
    | keyword k => cases k <;> rfl
    | _ => rfl
  · rfl

theorem follows_columnType : Follows columnType Reader.columnType := by
  apply follows_take
  · rintro ⟨kind, position⟩ behind
    cases kind with
    | keyword k => cases k <;> rfl
    | _ => rfl
  · rfl

/-!
# Loops
-/

/-- A loop is one round, and the loop once more unless the round has ended it. -/
theorem loop_eq (start : α) (round : α -> Cursor (β ⊕ α)) :
    loop start round =
      (do
        match <- round start with
        | .inl b => return b
        | .inr a => loop a round) := by
  funext tokens place
  show PFun.fix _ (start, place) = Cursor.outcome _ tokens place
  rcases Part.eq_none_or_eq_some ((round start).outcome tokens place) with hround | ⟨result, hround⟩
  · rw [outcome_bind_of_none hround]
    apply Part.eq_none_iff.mpr
    intro b hb
    have hdom : ((round start).outcome tokens place).Dom := PFun.dom_of_mem_fix hb
    rw [hround] at hdom
    exact hdom
  · have hresult := Part.mem_map proceed (Part.eq_some_iff.mp hround)
    rcases result with stop | ⟨b | a, place'⟩
    · rw [outcome_bind_of_error hround]
      exact Part.eq_some_iff.mpr (PFun.fix_stop hresult)
    · rw [outcome_bind_of_ok hround]
      exact Part.eq_some_iff.mpr (PFun.fix_stop hresult)
    · rw [outcome_bind_of_ok hround]
      exact PFun.fix_fwd_eq hresult

theorem loop_more (item : Cursor α) (items : List α) :
    loop items (more item) =
      (do
        if <- accept (.symbol .comma) then
          let a <- item
          loop (items ++ [a]) (more item)
        else
          return items) := by
  rw [loop_eq]
  unfold more
  rw [bind_assoc]
  congr 1
  funext found
  cases found with
  | true => simp only [if_true, bind_assoc, pure_bind]
  | false => simp only [Bool.false_eq_true, if_false, pure_bind]

/-- What a loop reads behind the items of a list that it has read already.  The loop ends, for every
item takes a token and every comma is one. -/
theorem follows_more {item : Cursor α} {reader : Reader α} (shrinks : Reader.Shrinks reader)
    (h : Follows item reader) (items : List α) :
    Follows (item >>= fun a => loop (items ++ [a]) (more item))
      ((Reader.commaList reader shrinks : Reader (List α)) >>= fun others =>
        pure (items ++ others)) := by
  intro tokens place hguarded
  generalize hrest : tokens.drop place = rest
  -- The reader reads the rest of a list first, the loop has the front already: each comma moves one
  -- item over, so the induction is over all fronts.
  induction rest using Reader.commaList.induct reader shrinks generalizing place items with
  | case1 rest refusal hitem =>
      have hfirst := h tokens place hguarded
      rw [hrest, hitem] at hfirst
      rw [Reader.bind_eq_of_error (Reader.commaList_of_error shrinks hitem)]
      generalize hout : item.outcome tokens place = out at hfirst
      cases hfirst with
      | refused expected token behind =>
          rw [outcome_bind_of_error hout]
          exact .refused expected token behind
  | case2 rest a position behind hitem ih =>
      have hfirst := h tokens place hguarded
      rw [hrest, hitem] at hfirst
      rcases hfirst.of_ok with ⟨comma, hout, hdrop, hcomma⟩
      rcases hcomma.step hdrop (TokenKind.symbol_ne_end _) with ⟨_, hbehind, hlater⟩
      have hothers := ih (items ++ [a]) (comma + 1) hlater hbehind
      have hstep := Reader.commaList_step shrinks hitem
      rw [outcome_bind_of_ok hout, loop_more,
        outcome_bind_of_ok (outcome_accept_of_eq hcomma hdrop (TokenKind.symbol_ne_end _)), if_pos rfl]
      cases hlist : Reader.commaList reader shrinks behind with
      | error refusal =>
          rw [hlist] at hstep
          rw [Reader.bind_eq_of_error hlist] at hothers
          rw [Reader.bind_eq_of_error hstep]
          exact hothers
      | ok result =>
          rcases result with ⟨others, last⟩
          rw [hlist] at hstep
          rw [Reader.bind_eq_of_ok hlist, List.append_assoc] at hothers
          rw [Reader.bind_eq_of_ok hstep]
          exact hothers
  | case3 rest a last hno hitem =>
      have hfirst := h tokens place hguarded
      rw [hrest, hitem] at hfirst
      rcases hfirst.of_ok with ⟨next, hout, hdrop, hnext⟩
      have hkind : Reader.nextKind last ≠ .symbol .comma :=
        Reader.nextKind_ne (TokenKind.symbol_ne_end _) hno
      rw [Reader.bind_eq_of_ok (Reader.commaList_of_last shrinks hitem hkind),
        outcome_bind_of_ok hout, loop_more]
      rw [← hdrop] at hkind ⊢
      rw [outcome_bind_of_ok (outcome_accept_of_ne hnext hkind)]
      exact .read (items ++ [a]) hnext

theorem follows_commaList {item : Cursor α} {reader : Reader α} (shrinks : Reader.Shrinks reader)
    (h : Follows item reader) : Follows (commaList item) (Reader.commaList reader shrinks) := by
  have hlist := follows_more shrinks h []
  rw [show (fun others : List α => (pure ([] ++ others) : Reader (List α))) = pure from rfl,
    bind_pure] at hlist
  exact hlist

theorem follows_parenthesized {item : Cursor α} {reader : Reader α}
    (shrinks : Reader.Shrinks reader) (h : Follows item reader) :
    Follows (parenthesized item) (Reader.parenthesized reader shrinks) := by
  apply follows_symbol
  apply follows_bind (follows_commaList shrinks h)
  intro items
  exact follows_symbol (follows_pure items)

theorem constraints_eq (column : Column) :
    constraints column =
      (do
        if <- accept (.keyword .PRIMARY) then
          expect (.keyword .KEY)
          constraints (column.declare .primaryKey)
        else if <- accept (.keyword .UNIQUE) then
          constraints (column.declare .unique)
        else
          return column) := by
  unfold constraints
  rw [loop_eq, bind_assoc]
  congr 1
  funext primary
  cases primary with
  | true => simp only [if_true, bind_assoc, pure_bind]
  | false =>
      simp only [Bool.false_eq_true, if_false, bind_assoc]
      congr 1
      funext unique
      cases unique with
      | true => simp only [if_true, pure_bind]
      | false => simp only [Bool.false_eq_true, if_false, pure_bind]

/-- The loop of constraints ends, for every constraint takes a token. -/
theorem follows_constraints (column : Column) :
    Follows (constraints column) (Reader.constraints column) := by
  have hend : forall k, TokenKind.keyword k ≠ .endOfInput := TokenKind.keyword_ne_end
  intro tokens place hguarded
  generalize hrest : tokens.drop place = rest
  induction column, rest using Reader.constraints.induct generalizing place with
  | case1 column position behind ih =>
      rcases hguarded.step hrest (hend _) with ⟨_, hbehind, hlater⟩
      have hno : Reader.nextKind (tokens.drop place) ≠ .keyword .PRIMARY := by
        rw [hrest]
        show TokenKind.keyword .UNIQUE ≠ .keyword .PRIMARY
        decide
      rw [Reader.constraints, constraints_eq, outcome_bind_of_ok (outcome_accept_of_ne hguarded hno),
        if_neg Bool.false_ne_true,
        outcome_bind_of_ok (outcome_accept_of_eq hguarded hrest (hend _)), if_pos rfl]
      exact ih (place + 1) hlater hbehind
  | case2 column position position' behind ih =>
      rcases hguarded.step hrest (hend _) with ⟨_, hkey, hmiddle⟩
      rcases hmiddle.step hkey (hend _) with ⟨_, hbehind, hlater⟩
      have hexpect : (expect (.keyword .KEY)).outcome tokens (place + 1) =
          .some (.ok ((), place + 1 + 1)) :=
        outcome_bind_of_ok (outcome_accept_of_eq hmiddle hkey (hend _))
      rw [Reader.constraints, constraints_eq,
        outcome_bind_of_ok (outcome_accept_of_eq hguarded hrest (hend _)), if_pos rfl,
        outcome_bind_of_ok hexpect]
      exact ih (place + 1 + 1) hlater hbehind
  | case3 column position behind hnoKey =>
      rcases hguarded.step hrest (hend _) with ⟨_, hbehind, hlater⟩
      have hkind : Reader.nextKind behind ≠ .keyword .KEY := Reader.nextKind_ne (hend _) hnoKey
      rcases hlater.exists_current with ⟨token, more, hdrop, _⟩
      rw [← hbehind, hdrop] at hkind ⊢
      rw [Reader.constraints_of_no_key hkind, constraints_eq,
        outcome_bind_of_ok (outcome_accept_of_eq hguarded hrest (hend _)), if_pos rfl,
        outcome_bind_of_error (outcome_expect_of_ne hlater hdrop hkind)]
      exact .refused _ token more
  | case4 column rest hnoUnique hnoPrimaryKey hnoPrimary =>
      have hunique : Reader.nextKind (tokens.drop place) ≠ .keyword .UNIQUE := by
        rw [hrest]
        exact Reader.nextKind_ne (hend _) hnoUnique
      have hprimary : Reader.nextKind (tokens.drop place) ≠ .keyword .PRIMARY := by
        rw [hrest]
        exact Reader.nextKind_ne (hend _) hnoPrimary
      rw [constraints_eq, outcome_bind_of_ok (outcome_accept_of_ne hguarded hprimary),
        if_neg Bool.false_ne_true, outcome_bind_of_ok (outcome_accept_of_ne hguarded hunique),
        Reader.constraints]
      · rw [← hrest]
        exact .read column hguarded
      · exact hnoUnique
      · exact hnoPrimaryKey
      · exact hnoPrimary

theorem follows_columnDefinition : Follows columnDefinition Reader.columnDefinition := by
  apply follows_bind follows_name
  intro name
  apply follows_bind follows_columnType
  intro type
  exact follows_constraints _

/-!
# Parts of statements
-/

theorem follows_columnRef : Follows columnRef Reader.columnRef := by
  apply follows_bind follows_name
  intro first
  apply follows_choice
  · exact TokenKind.symbol_ne_end _
  · exact follows_bind follows_name fun _ => follows_pure _
  · exact follows_pure _

theorem follows_assignment : Follows assignment Reader.assignment := by
  apply follows_bind follows_name
  intro column
  exact follows_symbol (follows_bind follows_literal fun _ => follows_pure _)

theorem follows_condition : Follows condition Reader.condition := by
  apply follows_choice
  · exact TokenKind.keyword_ne_end _
  · apply follows_bind follows_columnRef
    intro column
    exact follows_symbol (follows_bind follows_literal fun _ => follows_pure _)
  · exact follows_pure _

theorem follows_joinClause : Follows joinClause Reader.joinClause := by
  apply follows_choice
  · exact TokenKind.keyword_ne_end _
  · apply follows_keyword
    apply follows_bind follows_name
    intro table
    apply follows_keyword
    apply follows_bind follows_columnRef
    intro left
    exact follows_symbol (follows_bind follows_columnRef fun _ => follows_pure _)
  · exact follows_pure _

theorem follows_projection : Follows projection Reader.projection := by
  apply follows_choice
  · exact TokenKind.symbol_ne_end _
  · exact follows_pure _
  · exact follows_bind (follows_commaList _ follows_columnRef) fun _ => follows_pure _

/-!
# Statements
-/

theorem follows_createTable : Follows createTable Reader.createTable := by
  apply follows_keyword
  apply follows_keyword
  apply follows_bind follows_name
  intro table
  exact follows_bind (follows_parenthesized _ follows_columnDefinition) fun _ => follows_pure _

theorem follows_insert : Follows insert Reader.insert := by
  apply follows_keyword
  apply follows_keyword
  apply follows_bind follows_name
  intro table
  apply follows_bind (follows_parenthesized _ follows_name)
  intro columns
  apply follows_keyword
  exact follows_bind (follows_parenthesized _ follows_literal) fun _ => follows_pure _

theorem follows_select : Follows select Reader.select := by
  apply follows_keyword
  apply follows_bind follows_projection
  intro columns
  apply follows_keyword
  apply follows_bind follows_name
  intro table
  apply follows_bind follows_joinClause
  intro join
  exact follows_bind follows_condition fun _ => follows_pure _

theorem follows_update : Follows update Reader.update := by
  apply follows_keyword
  apply follows_bind follows_name
  intro table
  apply follows_keyword
  apply follows_bind (follows_commaList _ follows_assignment)
  intro assignments
  exact follows_bind follows_condition fun _ => follows_pure _

theorem follows_delete : Follows delete Reader.delete := by
  apply follows_keyword
  apply follows_keyword
  apply follows_bind follows_name
  intro table
  exact follows_bind follows_condition fun _ => follows_pure _

theorem follows_showTables : Follows showTables Reader.showTables :=
  follows_keyword (follows_keyword (follows_pure _))

theorem follows_describe : Follows describe Reader.describe :=
  follows_keyword (follows_bind follows_name fun _ => follows_pure _)

theorem follows_statement : Follows statement Reader.statement := by
  intro tokens place hguarded
  rcases hguarded.exists_current with ⟨token, behind, hdrop, hget⟩
  have hnext : Reader.nextKind (tokens.drop place) = token.kind := by
    rw [hdrop]
    rfl
  unfold statement Reader.statement
  rw [outcome_bind_of_ok (outcome_current hget), hnext]
  generalize token.kind = kind
  cases kind with
  | keyword k =>
      cases k with
      | CREATE => exact follows_createTable tokens place hguarded
      | INSERT => exact follows_insert tokens place hguarded
      | SELECT => exact follows_select tokens place hguarded
      | UPDATE => exact follows_update tokens place hguarded
      | DELETE => exact follows_delete tokens place hguarded
      | SHOW => exact follows_showTables tokens place hguarded
      | DESCRIBE => exact follows_describe tokens place hguarded
      | _ => exact follows_refuse _ tokens place hguarded
  | _ => exact follows_refuse _ tokens place hguarded

/-- Behind a statement the cursor looks at one token more. -/
theorem follows_finish (result : Statement) :
    Follows
      (do
        if (<- current).kind = .endOfInput then
          return result
        else
          refuse .endOfStatement)
      (Reader.finish result) := by
  intro tokens place hguarded
  rcases hguarded.exists_current with ⟨token, behind, hdrop, hget⟩
  have hnext : Reader.nextKind (tokens.drop place) = token.kind := by
    rw [hdrop]
    rfl
  rw [outcome_bind_of_ok (outcome_current hget)]
  by_cases hend : token.kind = .endOfInput
  · rw [if_pos hend, Reader.finish_of_end (hnext.trans hend)]
    exact .read result hguarded
  · rw [if_neg hend, Reader.finish_of_ne (hnext ▸ hend)]
    exact follows_refuse _ tokens place hguarded

theorem follows_complete : Follows complete Reader.complete := by
  apply follows_bind follows_statement
  intro result
  exact follows_choice (TokenKind.symbol_ne_end _) (follows_finish result) (follows_finish result)

/-!
# Whole lists
-/

theorem guarded_ended (tokens : List Token) : Guarded (ended tokens) 0 := by
  unfold ended
  split
  · next hlast =>
      rcases Option.map_eq_some_iff.mp hlast with ⟨token, hget, hkind⟩
      exact ⟨token, List.mem_of_getLast? hget, hkind⟩
  · exact ⟨_, List.mem_append_right tokens List.mem_cons_self, rfl⟩

end Cursor

namespace Statement

theorem ofTokens_ended (tokens : List Token) : ofTokens (ended tokens) = ofTokens tokens := by
  unfold ended
  split
  · rfl
  · exact ofTokens_marked tokens

/-- The cursor comes to the answer of the reader: it comes to an end, and never looks outside. -/
theorem walk_eq (tokens : List Token) :
    walk tokens = .some ((ofTokens tokens).mapError .malformed) := by
  have hfollows := Cursor.follows_complete (ended tokens) 0 (Cursor.guarded_ended tokens)
  rw [List.drop_zero] at hfollows
  rw [← ofTokens_ended]
  unfold walk ofTokens
  generalize Cursor.complete.outcome (ended tokens) 0 = out at hfollows
  generalize Reader.complete (ended tokens) = result at hfollows
  cases hfollows with
  | read result _ => rfl
  | refused expected token behind => rfl

/-- Reading is safe on every list of tokens, however long and wherever its end marks stand.  A cursor
over the tokens comes to an answer and looks at no place outside the list, and its answer, a statement
or an error with its place, is that of the reader.  Nothing behind an end mark makes a difference, and
a list without one ends at the place of its last token, or where a text starts. -/
theorem reading_keeps_inside (tokens : List Token) :
    walk tokens = .some ((ofTokens tokens).mapError .malformed) ∧
      (forall front behind position, ofTokens (front ++ ⟨.endOfInput, position⟩ :: behind) =
        ofTokens (front ++ [⟨.endOfInput, position⟩])) ∧
      ofTokens tokens =
        ofTokens (tokens ++
          [⟨.endOfInput, (tokens.getLast?.map Token.position).getD ⟨1, 1⟩⟩]) := by
  have hfinish : (tokens.getLast?.map Token.position).getD ⟨1, 1⟩ = endPosition tokens := by
    unfold endPosition
    cases tokens.getLast? with
    | none => rfl
    | some token => rfl
  rw [hfinish]
  exact ⟨walk_eq tokens, ofTokens_of_mark, (ofTokens_marked tokens).symm⟩

/-- A list that breaks off behind its only keyword, without an end mark. -/
example :
    walk [⟨.keyword .SHOW, ⟨2, 3⟩⟩] =
      .some (.error (.malformed
        ⟨.unexpectedToken (.exactly (.keyword .TABLES)) .endOfInput, ⟨2, 3⟩⟩)) := by
  rw [walk_eq]
  rfl

end Statement
end Sql
end Tabula
