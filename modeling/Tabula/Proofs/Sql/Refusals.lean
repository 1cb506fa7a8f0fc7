import Tabula.Proofs.Result
import Tabula.Proofs.Sql.Acceptance

/-!
# Refusals

A reader that parses a production from left to right, with one token of lookahead, refuses at the first
token that cannot go on.  What stands in front of that token is the beginning of a derivation, so the
reader is not early; and whatever is put behind the token, the reader refuses again, so it is not late.

The readers are built from few parts, and so is what is said about them: a refusal of a sequence is one
of its first part or of its second, and the first part has then taken a derivation of its own.
-/

namespace Tabula
namespace Sql
namespace Reader

open Grammar

/-!
# One token of lookahead
-/

/-- A reader of a production that looks at one token behind those it takes, and refuses where no
derivation goes on. -/
structure Pinpoints {τ α : Type} (reader : Reader α) (kinds : τ -> List TokenKind) : Prop where
  derivable : Nonempty τ
  taken : forall tokens a rest, reader tokens = .ok (a, rest) ->
    exists own, tokens = own ++ rest ∧
      forall rest', nextKind rest' = nextKind rest -> reader (own ++ rest') = .ok (a, rest')
  refused : forall tokens refusal, reader tokens = .error refusal ->
    exists front, tokens = front ++ refusal.rest ∧
      (exists d more, kinds d = front.map Token.kind ++ more) ∧
      forall rest', nextKind rest' = nextKind refusal.rest ->
        reader (front ++ rest') = .error ⟨refusal.expected, rest'⟩

variable {τ τ' α β : Type} {kinds : τ -> List TokenKind} {kinds' : τ' -> List TokenKind}
  {tree : τ -> α} {stops : TokenKind -> Prop} {reader : Reader α}

theorem nextKind_append_congr {rest rest' : List Token} (own : List Token)
    (h : nextKind rest' = nextKind rest) : nextKind (own ++ rest') = nextKind (own ++ rest) := by
  cases own with
  | nil => exact h
  | cons token others => rfl

theorem bind_eq_of_error {first : Reader α} {next : α -> Reader β} {tokens : List Token}
    {refusal : Refusal} (h : first tokens = .error refusal) :
    (first >>= next) tokens = .error refusal := by
  simp only [bind, StateT.bind, Except.bind]
  rw [h]

theorem bind_eq_error {first : Reader α} {next : α -> Reader β} {tokens : List Token}
    {refusal : Refusal} (h : (first >>= next) tokens = .error refusal) :
    first tokens = .error refusal ∨
      exists a middle, first tokens = .ok (a, middle) ∧ next a middle = .error refusal := by
  simp only [bind, StateT.bind, Except.bind] at h
  split at h
  · next hfirst =>
      cases h
      exact Or.inl hfirst
  · next pair hfirst => exact Or.inr ⟨pair.1, pair.2, hfirst, h⟩

/-- A reader of a part that another production may have too. -/
theorem Pinpoints.imp (h : Pinpoints reader kinds) (hkinds : forall d, exists d', kinds' d' = kinds d) :
    Pinpoints reader kinds' where
  derivable := by
    rcases h.derivable with ⟨d⟩
    rcases hkinds d with ⟨d', _⟩
    exact ⟨d'⟩
  taken := h.taken
  refused := by
    intro tokens refusal hread
    rcases h.refused tokens refusal hread with ⟨front, htokens, ⟨d, more, hd⟩, hhopeless⟩
    rcases hkinds d with ⟨d', hd'⟩
    exact ⟨front, htokens, ⟨d', more, hd'.trans hd⟩, hhopeless⟩

/-!
# Sequences
-/

theorem pinpoints_pure (a : α) : Pinpoints (pure a : Reader α) (fun _ : Unit => []) where
  derivable := ⟨()⟩
  taken := by
    intro tokens b rest hread
    cases hread
    exact ⟨[], rfl, fun _ _ => rfl⟩
  refused := by
    intro tokens refusal hread
    cases hread

theorem pinpoints_refuse (d : τ) (kinds : τ -> List TokenKind) (expected : Expectation) :
    Pinpoints (refuse expected : Reader α) kinds where
  derivable := ⟨d⟩
  taken := by
    intro tokens a rest hread
    cases hread
  refused := by
    intro tokens refusal hread
    cases hread
    exact ⟨[], rfl, ⟨d, kinds d, rfl⟩, fun _ _ => rfl⟩

theorem pinpoints_bind {next : α -> Reader β} (hparses : Parses reader kinds tree stops)
    (h : Pinpoints reader kinds) (hnext : forall d, Pinpoints (next (tree d)) kinds') :
    Pinpoints (reader >>= next) (fun d : τ × τ' => kinds d.1 ++ kinds' d.2) where
  derivable := by
    rcases h.derivable with ⟨d⟩
    rcases (hnext d).derivable with ⟨d'⟩
    exact ⟨(d, d')⟩
  taken := by
    intro tokens b rest hread
    rcases bind_eq_ok hread with ⟨a, middle, hfirst, hlast⟩
    rcases hparses.sound tokens a middle hfirst with ⟨d, _, _, _, rfl⟩
    rcases h.taken tokens _ middle hfirst with ⟨own, rfl, hown⟩
    rcases (hnext d).taken middle b rest hlast with ⟨others, rfl, hothers⟩
    refine ⟨own ++ others, (List.append_assoc _ _ _).symm, ?_⟩
    intro rest' hrest'
    rw [List.append_assoc, bind_eq_of_ok (hown _ (nextKind_append_congr others hrest'))]
    exact hothers rest' hrest'
  refused := by
    intro tokens refusal hread
    rcases bind_eq_error hread with hfirst | ⟨a, middle, hfirst, hlast⟩
    · -- Any derivation of the second part completes what was begun of the first.
      rcases h.refused tokens refusal hfirst with ⟨front, htokens, ⟨d, more, hd⟩, hhopeless⟩
      rcases (hnext d).derivable with ⟨d'⟩
      refine ⟨front, htokens, ⟨(d, d'), more ++ kinds' d', ?_⟩, ?_⟩
      · rw [hd, List.append_assoc]
      · intro rest' hrest'
        exact bind_eq_of_error (hhopeless rest' hrest')
    · rcases hparses.sound tokens a middle hfirst with ⟨d, own, htokens, hown, rfl⟩
      rcases h.taken tokens _ middle hfirst with ⟨same, hsame, htaken⟩
      rcases (hnext d).refused middle refusal hlast with ⟨front, rfl, ⟨d', more, hd'⟩, hhopeless⟩
      cases List.append_cancel_right (htokens.symm.trans hsame)
      refine ⟨own ++ front, ?_, ⟨(d, d'), more, ?_⟩, ?_⟩
      · rw [htokens, List.append_assoc]
      · rw [← hown, hd', List.map_append, List.append_assoc]
      · intro rest' hrest'
        rw [List.append_assoc, bind_eq_of_ok (htaken _ (nextKind_append_congr front hrest'))]
        exact hhopeless rest' hrest'

theorem pinpoints_map (hparses : Parses reader kinds tree stops) (h : Pinpoints reader kinds)
    (f : α -> β) : Pinpoints (reader >>= fun a => pure (f a)) kinds := by
  apply (pinpoints_bind hparses h fun d => pinpoints_pure (f (tree d))).imp
  intro d
  exact ⟨d.1, (List.append_nil _).symm⟩

/-!
# Single tokens
-/

/-- A reader of one token that refuses at once is told what to do by the kind of that token. -/
theorem pinpoints_single {kind : τ -> TokenKind} {expected : Expectation} (first : τ)
    (hparses : Parses reader (fun d => [kind d]) tree Any)
    (hrefuse : forall tokens refusal, reader tokens = .error refusal -> refusal = ⟨expected, tokens⟩) :
    Pinpoints reader fun d => [kind d] where
  derivable := ⟨first⟩
  taken := by
    intro tokens a rest hread
    rcases hparses.sound tokens a rest hread with ⟨d, own, htokens, hown, rfl⟩
    exact ⟨own, htokens, fun rest' _ => hparses.complete d own rest' hown trivial⟩
  refused := by
    intro tokens refusal hread
    cases hrefuse tokens refusal hread
    refine ⟨[], rfl, ⟨first, [kind first], rfl⟩, ?_⟩
    intro rest' hrest'
    rw [List.nil_append]
    cases hother : reader rest' with
    | error refusal => rw [hrefuse rest' refusal hother]
    | ok pair =>
        -- The token that is read here would have been read there.
        rcases hparses.sound rest' pair.1 pair.2 hother with ⟨d', own, htaken, hown, _⟩
        rw [htaken, nextKind_append hown] at hrest'
        cases tokens with
        | nil => exact absurd (List.mem_singleton.mpr hrest'.symm) (hparses.inside d')
        | cons token others =>
            have hkind : [token].map Token.kind = [kind d'] := congrArg (fun k => [k]) hrest'.symm
            have hagain := hparses.complete d' [token] others hkind trivial
            rw [List.singleton_append, hread] at hagain
            cases hagain

theorem pinpoints_expect {kind : TokenKind} (hkind : kind ≠ .endOfInput) :
    Pinpoints (expect kind) fun _ : Unit => [kind] := by
  apply pinpoints_single () (parses_expect hkind)
  intro tokens refusal hread
  rcases bind_eq_error hread with haccept | ⟨found, middle, haccept, hlast⟩
  · unfold accept at haccept
    split at haccept
    · split at haccept <;> cases haccept
    · cases haccept
  · rcases accept_eq_ok haccept with ⟨rfl, _, _⟩ | ⟨rfl, rfl⟩
    · cases hlast
    · cases hlast
      rfl

theorem pinpoints_after {kind : TokenKind} {next : Unit -> Reader α}
    (hkind : kind ≠ .endOfInput) (h : Pinpoints (next ()) kinds) :
    Pinpoints (expect kind >>= next) fun d => kind :: kinds d :=
  (pinpoints_bind (parses_expect hkind) (pinpoints_expect hkind) fun _ => h).imp fun d =>
    ⟨d.2, rfl⟩

theorem pinpoints_keyword {k : Keyword} {next : Unit -> Reader α}
    (h : Pinpoints (next ()) kinds) :
    Pinpoints (expect (.keyword k) >>= next) fun d => .keyword k :: kinds d :=
  pinpoints_after nofun h

theorem pinpoints_symbol {s : Symbol} {next : Unit -> Reader α}
    (h : Pinpoints (next ()) kinds) :
    Pinpoints (expect (.symbol s) >>= next) fun d => .symbol s :: kinds d :=
  pinpoints_after nofun h

theorem exists_cons_of_nextKind {kind : TokenKind} {tokens : List Token}
    (hkind : kind ≠ .endOfInput) (h : nextKind tokens = kind) :
    exists position others, tokens = ⟨kind, position⟩ :: others := by
  cases tokens with
  | nil => exact absurd h.symm hkind
  | cons token others =>
      cases h
      exact ⟨token.position, others, rfl⟩

/-- The next token tells which of two productions follows, and so does any other of its kind. -/
theorem pinpoints_choice {kind : TokenKind} {next : Bool -> Reader α} (hkind : kind ≠ .endOfInput)
    (hyes : Pinpoints (next true) kinds) (hno : Pinpoints (next false) kinds') :
    Pinpoints (accept kind >>= next) (Sum.elim (fun d => kind :: kinds d) kinds') where
  derivable := by
    rcases hyes.derivable with ⟨d⟩
    exact ⟨Sum.inl d⟩
  taken := by
    intro tokens a rest hread
    by_cases hnext : nextKind tokens = kind
    · rcases exists_cons_of_nextKind hkind hnext with ⟨position, others, rfl⟩
      rw [bind_eq_of_ok (accept_of_eq position others)] at hread
      rcases hyes.taken others a rest hread with ⟨own, rfl, hown⟩
      refine ⟨⟨kind, position⟩ :: own, rfl, ?_⟩
      intro rest' hrest'
      rw [List.cons_append, bind_eq_of_ok (accept_of_eq position _)]
      exact hown rest' hrest'
    · rw [bind_eq_of_ok (accept_of_ne hnext)] at hread
      rcases hno.taken tokens a rest hread with ⟨own, rfl, hown⟩
      refine ⟨own, rfl, ?_⟩
      intro rest' hrest'
      rw [← nextKind_append_congr own hrest'] at hnext
      rw [bind_eq_of_ok (accept_of_ne hnext)]
      exact hown rest' hrest'
  refused := by
    intro tokens refusal hread
    by_cases hnext : nextKind tokens = kind
    · rcases exists_cons_of_nextKind hkind hnext with ⟨position, others, rfl⟩
      rw [bind_eq_of_ok (accept_of_eq position others)] at hread
      rcases hyes.refused others refusal hread with ⟨front, htokens, ⟨d, more, hd⟩, hhopeless⟩
      refine ⟨⟨kind, position⟩ :: front, congrArg (List.cons _) htokens, ⟨Sum.inl d, more, ?_⟩, ?_⟩
      · exact congrArg (List.cons kind) hd
      · intro rest' hrest'
        rw [List.cons_append, bind_eq_of_ok (accept_of_eq position _)]
        exact hhopeless rest' hrest'
    · rw [bind_eq_of_ok (accept_of_ne hnext)] at hread
      rcases hno.refused tokens refusal hread with ⟨front, htokens, ⟨d, more, hd⟩, hhopeless⟩
      refine ⟨front, htokens, ⟨Sum.inr d, more, hd⟩, ?_⟩
      intro rest' hrest'
      rw [htokens, ← nextKind_append_congr front hrest'] at hnext
      rw [bind_eq_of_ok (accept_of_ne hnext)]
      exact hhopeless rest' hrest'

theorem pinpoints_optional {kind : TokenKind} {next : Bool -> Reader (Option α)}
    (hkind : kind ≠ .endOfInput) (h : Pinpoints (next true) kinds) (hnone : next false = pure none) :
    Pinpoints (accept kind >>= next) (optional fun d => kind :: kinds d) := by
  have hpure : Pinpoints (next false) fun _ : Unit => [] := by
    rw [hnone]
    exact pinpoints_pure none
  apply (pinpoints_choice hkind h hpure).imp
  rintro (d | _)
  · exact ⟨some d, rfl⟩
  · exact ⟨none, rfl⟩

theorem pinpoints_name : Pinpoints name fun d => [Ident.kind d] := by
  apply pinpoints_single (.boolean true) parses_name
  intro tokens refusal hread
  unfold name at hread
  split at hread <;> cases hread
  rfl

theorem pinpoints_literal : Pinpoints literal fun d => [Literal.kind d] := by
  apply pinpoints_single .null parses_literal
  intro tokens refusal hread
  unfold literal at hread
  split at hread <;> cases hread
  rfl

theorem pinpoints_columnType : Pinpoints columnType fun d => [typeKind d] := by
  apply pinpoints_single .int parses_columnType
  intro tokens refusal hread
  unfold columnType at hread
  split at hread <;> cases hread
  rfl

/-!
# Lists
-/

theorem nextKind_ne {kind : TokenKind} {tokens : List Token} (hkind : kind ≠ .endOfInput)
    (h : forall position rest, tokens ≠ ⟨kind, position⟩ :: rest) : nextKind tokens ≠ kind := by
  intro hnext
  rcases exists_cons_of_nextKind hkind hnext with ⟨position, rest, htokens⟩
  exact h position rest htokens

section

variable {item : Reader α} (shrinks : Shrinks item) (hparses : Parses item kinds tree stops)
  (h : Pinpoints item kinds)
include h

theorem commaList_taken {tokens rest : List Token} {items : List α}
    (hread : commaList item shrinks tokens = .ok (items, rest)) :
    exists own, tokens = own ++ rest ∧ forall rest', nextKind rest' = nextKind rest ->
      commaList item shrinks (own ++ rest') = .ok (items, rest') := by
  induction tokens using commaList.induct item shrinks generalizing items with
  | case1 tokens refusal hitem =>
      rw [commaList_of_error shrinks hitem] at hread
      cases hread
  | case2 tokens a position behind hitem ih =>
      rw [commaList_step shrinks hitem] at hread
      rcases exists_of_map_eq_ok hread with ⟨⟨more, left⟩, hmore, hpair⟩
      cases hpair
      rcases h.taken tokens a _ hitem with ⟨own, rfl, hown⟩
      rcases ih hmore with ⟨others, rfl, hothers⟩
      refine ⟨own ++ ⟨.symbol .comma, position⟩ :: others, ?_, ?_⟩
      · rw [List.append_assoc]
        rfl
      · intro rest' hrest'
        rw [List.append_assoc]
        exact commaList_of_comma shrinks (hown _ rfl) (hothers rest' hrest')
  | case3 tokens a behind hno hitem =>
      have hnext : nextKind behind ≠ .symbol .comma := nextKind_ne (by decide) hno
      rw [commaList_of_last shrinks hitem hnext] at hread
      cases hread
      rcases h.taken tokens a _ hitem with ⟨own, rfl, hown⟩
      refine ⟨own, rfl, ?_⟩
      intro rest' hrest'
      apply commaList_of_last shrinks (hown rest' hrest')
      rw [hrest']
      exact hnext

include hparses

/-- A list is refused at one of its items, behind the items before it and their commas. -/
theorem commaList_refused {tokens : List Token} {refusal : Refusal}
    (hread : commaList item shrinks tokens = .error refusal) :
    exists front, tokens = front ++ refusal.rest ∧
      (exists (list : Separated τ) (more : List TokenKind),
        list.kinds kinds = front.map Token.kind ++ more) ∧
      forall rest', nextKind rest' = nextKind refusal.rest ->
        commaList item shrinks (front ++ rest') = .error ⟨refusal.expected, rest'⟩ := by
  induction tokens using commaList.induct item shrinks with
  | case1 tokens refusal hitem =>
      rw [commaList_of_error shrinks hitem] at hread
      cases hread
      rcases h.refused tokens refusal hitem with ⟨front, htokens, ⟨d, more, hd⟩, hhopeless⟩
      refine ⟨front, htokens, ⟨⟨d, []⟩, more, ?_⟩, ?_⟩
      · rw [Separated.kinds_singleton]
        exact hd
      · intro rest' hrest'
        exact commaList_of_error shrinks (hhopeless rest' hrest')
  | case2 tokens a position behind hitem ih =>
      rw [commaList_step shrinks hitem] at hread
      rcases ih (Result.map_eq_error_iff.mp hread) with ⟨front, rfl, ⟨list, more, hlist⟩, hhopeless⟩
      rcases hparses.sound tokens a _ hitem with ⟨d, own, htokens, hown, rfl⟩
      rcases h.taken tokens _ _ hitem with ⟨same, hsame, htaken⟩
      cases List.append_cancel_right (htokens.symm.trans hsame)
      refine ⟨own ++ ⟨.symbol .comma, position⟩ :: front, ?_,
        ⟨⟨d, list.first :: list.rest⟩, more, ?_⟩, ?_⟩
      · rw [htokens, List.append_assoc]
        rfl
      · rw [Separated.kinds_cons, hlist, List.map_append, hown, List.map_cons, List.append_assoc]
        rfl
      · intro rest' hrest'
        have hitem' := htaken (⟨.symbol .comma, position⟩ :: (front ++ rest')) rfl
        rw [List.append_assoc, List.cons_append, commaList_step shrinks hitem',
          hhopeless rest' hrest']
        rfl
  | case3 tokens a behind hno hitem =>
      have hnext : nextKind behind ≠ .symbol .comma := nextKind_ne (by decide) hno
      rw [commaList_of_last shrinks hitem hnext] at hread
      cases hread

theorem pinpoints_commaList : Pinpoints (commaList item shrinks) (Separated.kinds kinds) where
  derivable := by
    rcases h.derivable with ⟨d⟩
    exact ⟨⟨d, []⟩⟩
  taken := fun _ _ _ hread => commaList_taken shrinks h hread
  refused := fun _ _ hread => commaList_refused shrinks hparses h hread

theorem pinpoints_parenthesized (hcomma : stops (.symbol .comma)) :
    Pinpoints (parenthesized item shrinks) (Separated.parenthesized kinds) := by
  apply pinpoints_symbol
  apply Pinpoints.imp
  · apply pinpoints_bind (parses_commaList shrinks hparses hcomma)
      (pinpoints_commaList shrinks hparses h)
    intro list
    exact pinpoints_symbol (pinpoints_pure _)
  · intro list
    exact ⟨list.1, rfl⟩

end

/-!
# Columns
-/

theorem constraints_taken {column found : Column} {tokens rest : List Token}
    (hread : constraints column tokens = .ok (found, rest)) :
    exists own, tokens = own ++ rest ∧ forall rest', nextKind rest' = nextKind rest ->
      constraints column (own ++ rest') = .ok (found, rest') := by
  induction column, tokens using constraints.induct with
  | case1 column position behind ih =>
      simp only [constraints] at hread
      rcases ih hread with ⟨own, rfl, hown⟩
      refine ⟨⟨.keyword .UNIQUE, position⟩ :: own, rfl, ?_⟩
      intro rest' hrest'
      rw [List.cons_append, constraints]
      exact hown rest' hrest'
  | case2 column position position' behind ih =>
      simp only [constraints] at hread
      rcases ih hread with ⟨own, rfl, hown⟩
      refine ⟨⟨.keyword .PRIMARY, position⟩ :: ⟨.keyword .KEY, position'⟩ :: own, rfl, ?_⟩
      intro rest' hrest'
      rw [List.cons_append, List.cons_append, constraints]
      exact hown rest' hrest'
  | case3 column position behind hnoKey =>
      rw [constraints] at hread
      · cases hread
      · exact hnoKey
  | case4 column tokens hnoUnique hnoPrimaryKey hnoPrimary =>
      rw [constraints] at hread
      · cases hread
        refine ⟨[], rfl, ?_⟩
        intro rest' hrest'
        apply constraints_of_stop
        rw [List.nil_append, hrest']
        exact ⟨nextKind_ne (by decide) hnoUnique, nextKind_ne (by decide) hnoPrimary⟩
      · exact hnoUnique
      · exact hnoPrimaryKey
      · exact hnoPrimary

theorem constraints_of_no_key {column : Column} {position : Position} {rest : List Token}
    (h : nextKind rest ≠ .keyword .KEY) :
    constraints column (⟨.keyword .PRIMARY, position⟩ :: rest) =
      .error ⟨.exactly (.keyword .KEY), rest⟩ := by
  rw [constraints]
  intro position' behind hrest
  rw [hrest] at h
  exact h rfl

/-- Constraints are refused only behind `PRIMARY`, where no `KEY` follows. -/
theorem constraints_refused {column : Column} {tokens : List Token} {refusal : Refusal}
    (hread : constraints column tokens = .error refusal) :
    exists front, tokens = front ++ refusal.rest ∧
      (exists (declared : List Constraint) (more : List TokenKind),
        declared.flatMap constraintKinds = front.map Token.kind ++ more) ∧
      forall rest', nextKind rest' = nextKind refusal.rest ->
        constraints column (front ++ rest') = .error ⟨refusal.expected, rest'⟩ := by
  induction column, tokens using constraints.induct with
  | case1 column position behind ih =>
      simp only [constraints] at hread
      rcases ih hread with ⟨front, hbehind, ⟨declared, more, hdeclared⟩, hhopeless⟩
      refine ⟨⟨.keyword .UNIQUE, position⟩ :: front, congrArg (List.cons _) hbehind,
        ⟨.unique :: declared, more, ?_⟩, ?_⟩
      · rw [List.flatMap_cons, hdeclared]
        rfl
      · intro rest' hrest'
        rw [List.cons_append, constraints]
        exact hhopeless rest' hrest'
  | case2 column position position' behind ih =>
      simp only [constraints] at hread
      rcases ih hread with ⟨front, rfl, ⟨declared, more, hdeclared⟩, hhopeless⟩
      refine ⟨⟨.keyword .PRIMARY, position⟩ :: ⟨.keyword .KEY, position'⟩ :: front, rfl,
        ⟨.primaryKey :: declared, more, ?_⟩, ?_⟩
      · rw [List.flatMap_cons, hdeclared]
        rfl
      · intro rest' hrest'
        rw [List.cons_append, List.cons_append, constraints]
        exact hhopeless rest' hrest'
  | case3 column position behind hnoKey =>
      have hnext : nextKind behind ≠ .keyword .KEY := nextKind_ne (by decide) hnoKey
      rw [constraints_of_no_key hnext] at hread
      cases hread
      refine ⟨[⟨.keyword .PRIMARY, position⟩], rfl, ⟨[.primaryKey], [.keyword .KEY], rfl⟩, ?_⟩
      intro rest' hrest'
      apply constraints_of_no_key
      show nextKind rest' ≠ _
      rw [hrest']
      exact hnext
  | case4 column tokens hnoUnique hnoPrimaryKey hnoPrimary =>
      rw [constraints] at hread
      · cases hread
      · exact hnoUnique
      · exact hnoPrimaryKey
      · exact hnoPrimary

theorem pinpoints_constraints (column : Column) :
    Pinpoints (constraints column) (List.flatMap constraintKinds) where
  derivable := ⟨[]⟩
  taken := fun _ _ _ hread => constraints_taken hread
  refused := fun _ _ hread => constraints_refused hread

theorem pinpoints_columnDefinition : Pinpoints columnDefinition ColumnDef.kinds := by
  apply Pinpoints.imp
  · apply pinpoints_bind parses_name pinpoints_name
    intro name
    apply pinpoints_bind parses_columnType pinpoints_columnType
    intro type
    exact pinpoints_constraints _
  · intro d
    exact ⟨⟨d.1, d.2.1, d.2.2⟩, rfl⟩

/-!
# Parts of statements
-/

theorem pinpoints_columnRef : Pinpoints columnRef ColRef.kinds := by
  apply Pinpoints.imp
  · apply pinpoints_bind parses_name pinpoints_name
    intro first
    apply pinpoints_choice
    · nofun
    · exact pinpoints_map parses_name pinpoints_name _
    · exact pinpoints_pure _
  · rintro ⟨first, column | _⟩
    · exact ⟨⟨first, some column⟩, rfl⟩
    · exact ⟨⟨first, none⟩, rfl⟩

theorem pinpoints_assignment : Pinpoints assignment Assignment.kinds := by
  apply Pinpoints.imp
  · apply pinpoints_bind parses_name pinpoints_name
    intro column
    exact pinpoints_symbol (pinpoints_map parses_literal pinpoints_literal _)
  · intro d
    exact ⟨⟨d.1, d.2⟩, rfl⟩

theorem pinpoints_condition : Pinpoints condition (optional Where.kinds) := by
  apply pinpoints_optional
  · nofun
  · apply Pinpoints.imp
    · apply pinpoints_bind parses_columnRef pinpoints_columnRef
      intro column
      exact pinpoints_symbol (pinpoints_map parses_literal pinpoints_literal _)
    · intro d
      exact ⟨⟨d.1, d.2⟩, rfl⟩
  · rfl

theorem pinpoints_joinClause : Pinpoints joinClause (optional Join.kinds) := by
  apply pinpoints_optional
  · nofun
  · apply pinpoints_keyword
    apply Pinpoints.imp
    · apply pinpoints_bind parses_name pinpoints_name
      intro table
      apply pinpoints_keyword
      apply pinpoints_bind parses_columnRef pinpoints_columnRef
      intro left
      exact pinpoints_symbol (pinpoints_map parses_columnRef pinpoints_columnRef _)
    · intro d
      exact ⟨⟨d.1, d.2.1, d.2.2⟩, rfl⟩
  · rfl

theorem pinpoints_projection : Pinpoints projection Columns.kinds := by
  apply Pinpoints.imp
  · apply pinpoints_choice
    · nofun
    · exact pinpoints_pure _
    · exact pinpoints_map (parses_commaList shrinks_columnRef parses_columnRef nofun)
        (pinpoints_commaList shrinks_columnRef parses_columnRef pinpoints_columnRef) _
  · rintro (_ | refs)
    · exact ⟨.all, rfl⟩
    · exact ⟨.only refs, rfl⟩

/-!
# Statements
-/

theorem pinpoints_createTable : Pinpoints createTable Derivation.kinds := by
  apply Pinpoints.imp
  · apply pinpoints_keyword
    apply pinpoints_keyword
    apply pinpoints_bind parses_name pinpoints_name
    intro table
    exact pinpoints_map (parses_parenthesized shrinks_columnDefinition parses_columnDefinition
        (endsColumn_symbol _) (endsColumn_symbol _))
      (pinpoints_parenthesized shrinks_columnDefinition parses_columnDefinition
        pinpoints_columnDefinition (endsColumn_symbol _)) _
  · intro d
    exact ⟨.createTable d.1 d.2, rfl⟩

theorem pinpoints_insert : Pinpoints insert Derivation.kinds := by
  apply Pinpoints.imp
  · apply pinpoints_keyword
    apply pinpoints_keyword
    apply pinpoints_bind parses_name pinpoints_name
    intro table
    apply pinpoints_bind (parses_parenthesized shrinks_name parses_name trivial trivial)
      (pinpoints_parenthesized shrinks_name parses_name pinpoints_name trivial)
    intro columns
    apply pinpoints_keyword
    exact pinpoints_map (parses_parenthesized shrinks_literal parses_literal trivial trivial)
      (pinpoints_parenthesized shrinks_literal parses_literal pinpoints_literal trivial) _
  · intro d
    exact ⟨.insert d.1 d.2.1 d.2.2, rfl⟩

theorem pinpoints_select : Pinpoints select Derivation.kinds := by
  apply Pinpoints.imp
  · apply pinpoints_keyword
    apply pinpoints_bind parses_projection pinpoints_projection
    intro columns
    apply pinpoints_keyword
    apply pinpoints_bind parses_name pinpoints_name
    intro table
    apply pinpoints_bind parses_joinClause pinpoints_joinClause
    intro join
    exact pinpoints_map parses_condition pinpoints_condition _
  · intro d
    exact ⟨.select d.1 d.2.1 d.2.2.1 d.2.2.2, rfl⟩

theorem pinpoints_update : Pinpoints update Derivation.kinds := by
  apply Pinpoints.imp
  · apply pinpoints_keyword
    apply pinpoints_bind parses_name pinpoints_name
    intro table
    apply pinpoints_keyword
    apply pinpoints_bind (parses_commaList shrinks_assignment parses_assignment trivial)
      (pinpoints_commaList shrinks_assignment parses_assignment pinpoints_assignment)
    intro assignments
    exact pinpoints_map parses_condition pinpoints_condition _
  · intro d
    exact ⟨.update d.1 d.2.1 d.2.2, rfl⟩

theorem pinpoints_delete : Pinpoints delete Derivation.kinds := by
  apply Pinpoints.imp
  · apply pinpoints_keyword
    apply pinpoints_keyword
    apply pinpoints_bind parses_name pinpoints_name
    intro table
    exact pinpoints_map parses_condition pinpoints_condition _
  · intro d
    exact ⟨.delete d.1 d.2, rfl⟩

theorem pinpoints_showTables : Pinpoints showTables Derivation.kinds := by
  apply Pinpoints.imp
  · apply pinpoints_keyword
    apply pinpoints_keyword
    exact pinpoints_pure _
  · intro _
    exact ⟨.showTables, rfl⟩

theorem pinpoints_describe : Pinpoints describe Derivation.kinds := by
  apply Pinpoints.imp
  · apply pinpoints_keyword
    exact pinpoints_map parses_name pinpoints_name _
  · intro d
    exact ⟨.describe d, rfl⟩

/-- One reader reads all lists that begin with a token of one kind. -/
theorem exists_reader_of_statement (kind : TokenKind) :
    exists reader : Reader Statement, Pinpoints reader Derivation.kinds ∧
      forall tokens, nextKind tokens = kind -> statement tokens = reader tokens := by
  have hrefuse : Pinpoints (refuse .statement : Reader Statement) Derivation.kinds :=
    pinpoints_refuse .showTables _ _
  unfold statement
  cases kind with
  | keyword k =>
      cases k with
      | CREATE => exact ⟨createTable, pinpoints_createTable, fun tokens h => by rw [h]⟩
      | INSERT => exact ⟨insert, pinpoints_insert, fun tokens h => by rw [h]⟩
      | SELECT => exact ⟨select, pinpoints_select, fun tokens h => by rw [h]⟩
      | UPDATE => exact ⟨update, pinpoints_update, fun tokens h => by rw [h]⟩
      | DELETE => exact ⟨delete, pinpoints_delete, fun tokens h => by rw [h]⟩
      | SHOW => exact ⟨showTables, pinpoints_showTables, fun tokens h => by rw [h]⟩
      | DESCRIBE => exact ⟨describe, pinpoints_describe, fun tokens h => by rw [h]⟩
      | _ => exact ⟨refuse .statement, hrefuse, fun tokens h => by rw [h]⟩
  | _ => exact ⟨refuse .statement, hrefuse, fun tokens h => by rw [h]⟩

theorem pinpoints_statement : Pinpoints statement Derivation.kinds where
  derivable := ⟨.showTables⟩
  taken := by
    intro tokens result rest hread
    rcases exists_reader_of_statement (nextKind tokens) with ⟨reader, hreader, hstatement⟩
    rw [hstatement tokens rfl] at hread
    rcases hreader.taken tokens result rest hread with ⟨own, htokens, hown⟩
    refine ⟨own, htokens, ?_⟩
    intro rest' hrest'
    rw [hstatement _ (by rw [htokens, nextKind_append_congr own hrest'])]
    exact hown rest' hrest'
  refused := by
    intro tokens refusal hread
    rcases exists_reader_of_statement (nextKind tokens) with ⟨reader, hreader, hstatement⟩
    rw [hstatement tokens rfl] at hread
    rcases hreader.refused tokens refusal hread with ⟨front, htokens, hbegun, hhopeless⟩
    refine ⟨front, htokens, hbegun, ?_⟩
    intro rest' hrest'
    rw [hstatement _ (by rw [htokens, nextKind_append_congr front hrest'])]
    exact hhopeless rest' hrest'

/-!
# Whole texts
-/

/-- Nothing may follow. -/
def finish (result : Statement) : Reader Statement := do
  if nextKind (<- get) = .endOfInput then
    return result
  else
    refuse .endOfStatement

theorem finish_of_end {result : Statement} {tokens : List Token}
    (h : nextKind tokens = .endOfInput) : finish result tokens = .ok (result, tokens) := by
  show (if nextKind tokens = .endOfInput then pure result else refuse .endOfStatement :
    Reader Statement) tokens = _
  rw [if_pos h]
  rfl

theorem finish_of_ne {result : Statement} {tokens : List Token}
    (h : nextKind tokens ≠ .endOfInput) : finish result tokens = .error ⟨.endOfStatement, tokens⟩ := by
  show (if nextKind tokens = .endOfInput then pure result else refuse .endOfStatement :
    Reader Statement) tokens = _
  rw [if_neg h]
  rfl

theorem pinpoints_finish (result : Statement) : Pinpoints (finish result) fun _ : Unit => [] where
  derivable := ⟨()⟩
  taken := by
    intro tokens a rest hread
    by_cases hend : nextKind tokens = .endOfInput
    · rw [finish_of_end hend] at hread
      cases hread
      exact ⟨[], rfl, fun rest' hrest' => finish_of_end (hrest'.trans hend)⟩
    · rw [finish_of_ne hend] at hread
      cases hread
  refused := by
    intro tokens refusal hread
    by_cases hend : nextKind tokens = .endOfInput
    · rw [finish_of_end hend] at hread
      cases hread
    · rw [finish_of_ne hend] at hread
      cases hread
      refine ⟨[], rfl, ⟨(), [], rfl⟩, ?_⟩
      intro rest' hrest'
      apply finish_of_ne
      show nextKind rest' ≠ _
      rw [hrest']
      exact hend

theorem pinpoints_complete :
    Pinpoints complete fun d : Derivation × (Unit ⊕ Unit) =>
      d.1.kinds ++ Sum.elim (fun _ => [.symbol .semicolon]) (fun _ => []) d.2 := by
  apply pinpoints_bind parses_statement pinpoints_statement
  intro d
  exact pinpoints_choice nofun (pinpoints_finish _) (pinpoints_finish _)

theorem derives_of_kinds (d : Derivation × (Unit ⊕ Unit)) :
    d.1.Derives (d.1.kinds ++ Sum.elim (fun _ => [.symbol .semicolon]) (fun _ => []) d.2) := by
  rcases d with ⟨d, _ | _⟩
  · exact Or.inr rfl
  · exact Or.inl (List.append_nil _)

theorem not_mem_of_derives {d : Derivation} {kinds : List TokenKind} (h : d.Derives kinds) :
    .endOfInput ∉ kinds := by
  have hinside := parses_statement.inside d
  rcases h with rfl | rfl
  · exact hinside
  · intro hmem
    rcases List.mem_append.mp hmem with hmem | hmem
    · exact hinside hmem
    · cases List.mem_singleton.mp hmem

end Reader

namespace Statement

open Grammar

theorem ofTokens_eq_error_iff {tokens : List Token} {e : SyntaxError} :
    ofTokens tokens = .error e <-> exists refusal, Reader.complete tokens = .error refusal ∧
      refusal.toSyntaxError (endPosition tokens) = e := by
  unfold ofTokens
  constructor
  · intro h
    split at h
    · cases h
    · next refusal hcomplete => exact ⟨refusal, hcomplete, Except.error.inj h⟩
  · rintro ⟨refusal, hcomplete, rfl⟩
    rw [hcomplete]

/-- A syntax error is at the first token that cannot go on: what stands in front of it begins some
statement, and no tokens that begin with it and what stands in front of it are one. -/
theorem errors_are_at_the_first_wrong_token (tokens : List Token) (position : Position)
    (e : SyntaxError) (herror : ofTokens (tokens ++ [⟨.endOfInput, position⟩]) = .error e) :
    exists front token behind, tokens ++ [⟨.endOfInput, position⟩] = front ++ token :: behind ∧
      (exists expected, e = ⟨.unexpectedToken expected token.kind, token.position⟩) ∧
      (exists more, (forall token, token ∈ more -> token.kind ≠ .endOfInput) ∧
        forall place, exists result,
          ofTokens (front ++ more ++ [⟨.endOfInput, place⟩]) = .ok result) ∧
      forall behind' result, ofTokens (front ++ token :: behind') ≠ .ok result := by
  rcases ofTokens_eq_error_iff.mp herror with ⟨⟨expected, rest⟩, hcomplete, rfl⟩
  rcases Reader.pinpoints_complete.refused _ _ hcomplete with
    ⟨front, hsplit, ⟨d, more, hkinds⟩, hhopeless⟩
  have hderives := Reader.derives_of_kinds d
  rw [hkinds] at hderives
  have hinside := Reader.not_mem_of_derives hderives
  cases rest with
  | nil =>
      -- The front would hold the end mark, which no derivation does.
      rw [List.append_nil] at hsplit
      rw [← hsplit] at hinside
      simp at hinside
  | cons token behind =>
      have hmore : forall token, token ∈ front ++ Reader.tokensOf more ->
          token.kind ≠ .endOfInput := by
        intro token htoken hend
        rw [← Reader.kinds_tokensOf more, ← List.map_append] at hinside
        exact hinside (List.mem_map.mpr ⟨token, htoken, hend⟩)
      refine ⟨front, token, behind, hsplit, ⟨expected, rfl⟩, ⟨Reader.tokensOf more, ?_, ?_⟩, ?_⟩
      · intro token htoken
        exact hmore token (List.mem_append_right _ htoken)
      · intro place
        refine ⟨d.1.statement, (ofTokens_eq_ok_iff hmore).mpr ⟨d.1, ?_, rfl⟩⟩
        rw [List.map_append, Reader.kinds_tokensOf]
        exact hderives
      · intro behind' result hok
        have hagain := ofTokens_eq_error_iff.mpr ⟨_, hhopeless (token :: behind') rfl, rfl⟩
        rw [hok] at hagain
        cases hagain

/-- A join that is given up behind its first keyword. -/
theorem errors_are_at_the_first_wrong_token_sample :
    let tokens : List Token :=
      [⟨.keyword .SELECT, ⟨1, 1⟩⟩, ⟨.symbol .star, ⟨1, 8⟩⟩, ⟨.keyword .FROM, ⟨1, 10⟩⟩,
        ⟨.name "t", ⟨1, 15⟩⟩, ⟨.keyword .INNER, ⟨1, 17⟩⟩, ⟨.keyword .WHERE, ⟨2, 1⟩⟩,
        ⟨.name "a", ⟨2, 7⟩⟩]
    ofTokens (tokens ++ [⟨.endOfInput, ⟨2, 8⟩⟩]) =
        .error ⟨.unexpectedToken (.exactly (.keyword .JOIN)) (.keyword .WHERE), ⟨2, 1⟩⟩ ∧
      exists front token behind, tokens ++ [⟨.endOfInput, ⟨2, 8⟩⟩] = front ++ token :: behind ∧
        token.position = ⟨2, 1⟩ ∧
        (exists more, forall place, exists result,
          ofTokens (front ++ more ++ [⟨.endOfInput, place⟩]) = .ok result) ∧
        forall behind' result, ofTokens (front ++ token :: behind') ≠ .ok result := by
  intro tokens
  have herror : ofTokens (tokens ++ [⟨.endOfInput, ⟨2, 8⟩⟩]) =
      .error ⟨.unexpectedToken (.exactly (.keyword .JOIN)) (.keyword .WHERE), ⟨2, 1⟩⟩ :=
    rfl
  rcases errors_are_at_the_first_wrong_token tokens ⟨2, 8⟩ _ herror with
    ⟨front, token, behind, hsplit, ⟨expected, he⟩, ⟨more, _, haccepted⟩, hhopeless⟩
  have hposition : token.position = ⟨2, 1⟩ := (congrArg SyntaxError.position he).symm
  exact ⟨herror, front, token, behind, hsplit, hposition, ⟨more, haccepted⟩, hhopeless⟩

end Statement
end Sql
end Tabula
