import Mathlib.Data.List.Basic
import Tabula.Proofs.Sql.Grammar
import Tabula.Sql.Statement.Read

/-!
# Readers parse the grammar

The statements that are read are those of the grammar.  A reader parses a production if it takes the
tokens of each derivation, and nothing more, whenever the next token is one that stops it, and takes
no other tokens.  That one token of lookahead is enough makes the derivations unambiguous too: what
stands behind a part is what its reader leaves.
-/

namespace Tabula
namespace Sql
namespace Reader

open Grammar

/-!
# Parsing a production
-/

/-- Every token stops a reader that looks at none behind its own. -/
abbrev Any (_ : TokenKind) : Prop :=
  True

/-- The first of the kinds in front of another. -/
def headKind (kinds : List TokenKind) (behind : TokenKind) : TokenKind :=
  kinds.headD behind

structure Parses {τ α : Type} (reader : Reader α) (kinds : τ -> List TokenKind) (tree : τ -> α)
    (stops : TokenKind -> Prop) : Prop where
  complete : forall d tokens rest, tokens.map Token.kind = kinds d -> stops (nextKind rest) ->
    reader (tokens ++ rest) = .ok (tree d, rest)
  sound : forall tokens a rest, reader tokens = .ok (a, rest) ->
    exists d own, tokens = own ++ rest ∧ own.map Token.kind = kinds d ∧ tree d = a
  unambiguous : forall d d', kinds d = kinds d' -> d = d'
  inside : forall d, .endOfInput ∉ kinds d
  ends : τ -> stops .endOfInput

variable {τ τ' σ α β : Type} {kinds : τ -> List TokenKind} {kinds' : τ' -> List TokenKind}
  {tree : τ -> α} {stops stops' : TokenKind -> Prop} {reader : Reader α}

theorem nextKind_append {tokens rest : List Token} {own : List TokenKind}
    (h : tokens.map Token.kind = own) :
    nextKind (tokens ++ rest) = headKind own (nextKind rest) := by
  subst h
  cases tokens with
  | nil => rfl
  | cons token others => rfl

theorem bind_eq_of_ok {first : Reader α} {next : α -> Reader β} {tokens middle : List Token} {a : α}
    (h : first tokens = .ok (a, middle)) : (first >>= next) tokens = next a middle := by
  simp only [bind, StateT.bind, Except.bind]
  rw [h]

theorem Parses.imp (h : Parses reader kinds tree stops)
    (hstops : forall kind, stops' kind -> stops kind) (hends : stops' .endOfInput) :
    Parses reader kinds tree stops' where
  complete := fun d tokens rest hkinds hrest => h.complete d tokens rest hkinds (hstops _ hrest)
  sound := h.sound
  unambiguous := h.unambiguous
  inside := h.inside
  ends := fun _ => hends

/-- The derivations of a production are those of another under a different name. -/
theorem Parses.of_surjective {kinds' : σ -> List TokenKind} {tree' : σ -> α} (f : τ -> σ)
    (h : Parses reader kinds tree stops) (hf : forall d', exists d, f d = d')
    (hkinds : forall d, kinds' (f d) = kinds d) (htree : forall d, tree' (f d) = tree d) :
    Parses reader kinds' tree' stops where
  complete := by
    intro d' tokens rest hown hrest
    rcases hf d' with ⟨d, rfl⟩
    rw [htree]
    exact h.complete d tokens rest (hown.trans (hkinds d)) hrest
  sound := by
    intro tokens a rest hread
    rcases h.sound tokens a rest hread with ⟨d, own, htokens, hown, ha⟩
    exact ⟨f d, own, htokens, hown.trans (hkinds d).symm, (htree d).trans ha⟩
  unambiguous := by
    intro d' e' hsame
    rcases hf d' with ⟨d, rfl⟩
    rcases hf e' with ⟨e, rfl⟩
    rw [hkinds, hkinds] at hsame
    rw [h.unambiguous d e hsame]
  inside := by
    intro d'
    rcases hf d' with ⟨d, rfl⟩
    rw [hkinds]
    exact h.inside d
  ends := by
    intro d'
    rcases hf d' with ⟨d, _⟩
    exact h.ends d

theorem Parses.of_eq {kinds' : τ -> List TokenKind} {tree' : τ -> α}
    (h : Parses reader kinds tree stops) (hkinds : forall d, kinds' d = kinds d)
    (htree : forall d, tree' d = tree d) : Parses reader kinds' tree' stops :=
  Parses.of_surjective id h (fun d => ⟨d, rfl⟩) hkinds htree

/-- Tokens of given kinds, all at the start of a text. -/
def tokensOf (kinds : List TokenKind) : List Token :=
  kinds.map fun kind => ⟨kind, Position.start⟩

theorem kinds_tokensOf (own : List TokenKind) : (tokensOf own).map Token.kind = own := by
  unfold tokensOf
  rw [List.map_map]
  exact List.map_id own

/-- What stands behind a derivation is what the reader leaves, so it is the same behind every
derivation of the same kinds. -/
theorem Parses.append_inj (h : Parses reader kinds tree stops) {d d' : τ}
    {behind behind' : List TokenKind} (hsame : kinds d ++ behind = kinds d' ++ behind')
    (hstop : stops (headKind behind .endOfInput)) (hstop' : stops (headKind behind' .endOfInput)) :
    d = d' ∧ behind = behind' := by
  have hread : forall (e : τ) (back : List TokenKind), stops (headKind back .endOfInput) ->
      reader (tokensOf (kinds e ++ back)) = .ok (tree e, tokensOf back) := by
    intro e back hback
    have hnext : nextKind (tokensOf back ++ []) = headKind back .endOfInput :=
      nextKind_append (kinds_tokensOf back)
    rw [List.append_nil] at hnext
    have happend : tokensOf (kinds e ++ back) = tokensOf (kinds e) ++ tokensOf back :=
      List.map_append
    rw [happend]
    apply h.complete e _ _ (kinds_tokensOf _)
    rw [hnext]
    exact hback
  have hrests : tokensOf behind = tokensOf behind' := by
    have hleft := hread d behind hstop
    rw [hsame, hread d' behind' hstop'] at hleft
    exact (Prod.mk.inj (Except.ok.inj hleft)).2.symm
  have hbehind := congrArg (List.map Token.kind) hrests
  rw [kinds_tokensOf, kinds_tokensOf] at hbehind
  subst hbehind
  exact ⟨h.unambiguous d d' (List.append_cancel_right hsame), rfl⟩

/-!
# Sequences
-/

theorem parses_pure (a : α) : Parses (pure a : Reader α) (fun _ : Unit => []) (fun _ => a) Any where
  complete := by
    intro d tokens rest hkinds _
    rw [List.map_eq_nil_iff.mp hkinds]
    rfl
  sound := by
    intro tokens b rest hread
    cases hread
    exact ⟨(), [], rfl, rfl, rfl⟩
  unambiguous := fun _ _ _ => rfl
  inside := fun _ => List.not_mem_nil
  ends := fun _ => trivial

theorem parses_bind {next : α -> Reader β} (tree' : τ -> τ' -> β)
    (h : Parses reader kinds tree stops)
    (hnext : forall d, Parses (next (tree d)) kinds' (tree' d) stops')
    (hstops : forall d' kind, stops' kind -> stops (headKind (kinds' d') kind)) :
    Parses (reader >>= next) (fun d : τ × τ' => kinds d.1 ++ kinds' d.2)
      (fun d => tree' d.1 d.2) stops' where
  complete := by
    intro d tokens rest hkinds hrest
    rcases List.map_eq_append_iff.mp hkinds with ⟨own, others, htokens, hown, hothers⟩
    have hstop : stops (nextKind (others ++ rest)) := by
      rw [nextKind_append hothers]
      exact hstops _ _ hrest
    rw [htokens, List.append_assoc, bind_eq_of_ok (h.complete d.1 own _ hown hstop)]
    exact (hnext d.1).complete d.2 others rest hothers hrest
  sound := by
    intro tokens b rest hread
    rcases bind_eq_ok hread with ⟨a, middle, hfirst, hlast⟩
    rcases h.sound tokens a middle hfirst with ⟨d, own, htokens, hown, rfl⟩
    rcases (hnext d).sound middle b rest hlast with ⟨d', others, hmiddle, hothers, hb⟩
    refine ⟨(d, d'), own ++ others, ?_, ?_, hb⟩
    · rw [htokens, hmiddle, List.append_assoc]
    · rw [List.map_append, hown, hothers]
  unambiguous := by
    intro d e hsame
    have hends := (hnext d.1).ends d.2
    rcases h.append_inj hsame (hstops _ _ hends) (hstops _ _ hends) with ⟨hfirst, hlast⟩
    exact Prod.ext hfirst ((hnext d.1).unambiguous _ _ hlast)
  inside := by
    intro d hmem
    rcases List.mem_append.mp hmem with hfirst | hlast
    · exact h.inside d.1 hfirst
    · exact (hnext d.1).inside d.2 hlast
  ends := fun d => (hnext d.1).ends d.2

/-- The tree of the last part makes up the whole. -/
theorem parses_map (h : Parses reader kinds tree stops) (f : α -> β) :
    Parses (reader >>= fun a => pure (f a)) kinds (fun d => f (tree d)) stops where
  complete := by
    intro d tokens rest hkinds hrest
    rw [bind_eq_of_ok (h.complete d tokens rest hkinds hrest)]
    rfl
  sound := by
    intro tokens b rest hread
    rcases bind_eq_ok hread with ⟨a, middle, hfirst, hlast⟩
    cases hlast
    rcases h.sound tokens a rest hfirst with ⟨d, own, htokens, hown, rfl⟩
    exact ⟨d, own, htokens, hown, rfl⟩
  unambiguous := h.unambiguous
  inside := h.inside
  ends := h.ends

/-!
# Single tokens
-/

theorem parses_single {kind : τ -> TokenKind}
    (hread : forall d position rest, reader (⟨kind d, position⟩ :: rest) = .ok (tree d, rest))
    (hsound : forall tokens a rest, reader tokens = .ok (a, rest) ->
      exists d position, tokens = ⟨kind d, position⟩ :: rest ∧ tree d = a)
    (hinj : forall d d', kind d = kind d' -> d = d') (hend : forall d, kind d ≠ .endOfInput) :
    Parses reader (fun d => [kind d]) tree Any where
  complete := by
    intro d tokens rest hkinds _
    rcases List.map_eq_singleton_iff.mp hkinds with ⟨⟨own, position⟩, htokens, hown⟩
    simp only at hown
    rw [htokens, hown]
    exact hread d position rest
  sound := by
    intro tokens a rest h
    rcases hsound tokens a rest h with ⟨d, position, htokens, ha⟩
    exact ⟨d, [⟨kind d, position⟩], htokens, rfl, ha⟩
  unambiguous := fun d d' hsame => hinj d d' (List.singleton_inj.mp hsame)
  inside := fun d hmem => hend d (List.mem_singleton.mp hmem).symm
  ends := fun _ => trivial

theorem accept_of_eq {kind : TokenKind} (position : Position) (rest : List Token) :
    accept kind (⟨kind, position⟩ :: rest) = .ok (true, rest) :=
  if_pos rfl

theorem accept_of_ne {kind : TokenKind} {tokens : List Token} (h : nextKind tokens ≠ kind) :
    accept kind tokens = .ok (false, tokens) := by
  cases tokens with
  | nil => rfl
  | cons token rest => exact if_neg h

theorem accept_eq_ok {kind : TokenKind} {tokens rest : List Token} {found : Bool}
    (h : accept kind tokens = .ok (found, rest)) :
    (found = true ∧ exists position, tokens = ⟨kind, position⟩ :: rest) ∨
      (found = false ∧ tokens = rest) := by
  unfold accept at h
  split at h
  · next token behind =>
      split at h
      · next hkind =>
          cases h
          refine Or.inl ⟨rfl, token.position, ?_⟩
          rw [← hkind]
      · cases h
        exact Or.inr ⟨rfl, rfl⟩
  · cases h
    exact Or.inr ⟨rfl, rfl⟩

theorem parses_expect {kind : TokenKind} (hkind : kind ≠ .endOfInput) :
    Parses (expect kind) (fun _ : Unit => [kind]) id Any := by
  apply parses_single
  · intro _ position rest
    exact bind_eq_of_ok (accept_of_eq position rest)
  · intro tokens _ rest hread
    rcases bind_eq_ok hread with ⟨found, middle, haccept, hlast⟩
    rcases accept_eq_ok haccept with ⟨hfound, position, htokens⟩ | ⟨hfound, _⟩
    · subst hfound
      cases hlast
      exact ⟨(), position, htokens, rfl⟩
    · subst hfound
      cases hlast
  · intro _ _ _
    rfl
  · intro _
    exact hkind

/-- A token of one kind in front. -/
theorem parses_after {kind : TokenKind} {next : Unit -> Reader α} (hkind : kind ≠ .endOfInput)
    (h : Parses (next ()) kinds tree stops) :
    Parses (expect kind >>= next) (fun d => kind :: kinds d) tree stops := by
  have hpair := parses_bind (fun _ => tree) (parses_expect hkind) (fun _ => h) fun _ _ _ => trivial
  apply Parses.of_surjective Prod.snd hpair
  · intro d
    exact ⟨((), d), rfl⟩
  · intro _
    rfl
  · intro _
    rfl

theorem parses_keyword {k : Keyword} {next : Unit -> Reader α}
    (h : Parses (next ()) kinds tree stops) :
    Parses (expect (.keyword k) >>= next) (fun d => .keyword k :: kinds d) tree stops :=
  parses_after nofun h

theorem parses_symbol {s : Symbol} {next : Unit -> Reader α}
    (h : Parses (next ()) kinds tree stops) :
    Parses (expect (.symbol s) >>= next) (fun d => .symbol s :: kinds d) tree stops :=
  parses_after nofun h

/-- The next token tells which of two productions follows. -/
theorem parses_choice {kind : TokenKind} {next : Bool -> Reader α} {tree' : τ' -> α}
    (hkind : kind ≠ .endOfInput) (hyes : Parses (next true) kinds tree stops)
    (hno : Parses (next false) kinds' tree' stops)
    (hother : forall d' behind, stops behind -> headKind (kinds' d') behind ≠ kind) :
    Parses (accept kind >>= next) (Sum.elim (fun d => kind :: kinds d) kinds')
      (Sum.elim tree tree') stops where
  complete := by
    intro d tokens rest hkinds hrest
    cases d with
    | inl d =>
        rcases List.map_eq_cons_iff.mp hkinds with ⟨⟨own, position⟩, others, htokens, hown, hothers⟩
        simp only at hown
        rw [htokens, hown, List.cons_append, bind_eq_of_ok (accept_of_eq position _)]
        exact hyes.complete d others rest hothers hrest
    | inr d' =>
        have hnext : nextKind (tokens ++ rest) ≠ kind := by
          rw [nextKind_append hkinds]
          exact hother d' _ hrest
        rw [bind_eq_of_ok (accept_of_ne hnext)]
        exact hno.complete d' tokens rest hkinds hrest
  sound := by
    intro tokens a rest hread
    rcases bind_eq_ok hread with ⟨found, middle, haccept, hlast⟩
    rcases accept_eq_ok haccept with ⟨hfound, position, htokens⟩ | ⟨hfound, htokens⟩
    · subst hfound
      rcases hyes.sound middle a rest hlast with ⟨d, own, hmiddle, hown, ha⟩
      refine ⟨Sum.inl d, ⟨kind, position⟩ :: own, ?_, congrArg (List.cons kind) hown, ha⟩
      rw [htokens, hmiddle]
      rfl
    · subst hfound htokens
      rcases hno.sound tokens a rest hlast with ⟨d', own, htokens, hown, ha⟩
      exact ⟨Sum.inr d', own, htokens, hown, ha⟩
  unambiguous := by
    have hapart : forall d d', kind :: kinds d ≠ kinds' d' := by
      intro d d' hsame
      apply hother d' .endOfInput (hyes.ends d)
      rw [← hsame]
      rfl
    intro d e hsame
    cases d with
    | inl d =>
        cases e with
        | inl e => rw [hyes.unambiguous d e (List.cons.inj hsame).2]
        | inr e' => exact absurd hsame (hapart d e')
    | inr d' =>
        cases e with
        | inl e => exact absurd hsame.symm (hapart e d')
        | inr e' => rw [hno.unambiguous d' e' hsame]
  inside := by
    intro d
    cases d with
    | inl d =>
        intro hmem
        rcases List.mem_cons.mp hmem with hhead | hrest
        · exact hkind hhead.symm
        · exact hyes.inside d hrest
    | inr d' => exact hno.inside d'
  ends := by
    intro d
    cases d with
    | inl d => exact hyes.ends d
    | inr d' => exact hno.ends d'

/-- A part that begins with a token of one kind may be left out. -/
theorem parses_optional {kind : TokenKind} {next : Bool -> Reader (Option α)}
    (hkind : kind ≠ .endOfInput) (h : Parses (next true) kinds (fun d => some (tree d)) stops)
    (hnone : next false = pure none) (hstops : forall behind, stops behind -> behind ≠ kind)
    (hends : stops .endOfInput) :
    Parses (accept kind >>= next) (optional fun d => kind :: kinds d) (Option.map tree) stops := by
  have hpure : Parses (next false) (fun _ : Unit => []) (fun _ => none) stops := by
    rw [hnone]
    exact (parses_pure none).imp (fun _ _ => trivial) hends
  apply Parses.of_surjective (Sum.elim some fun _ => none)
    (parses_choice hkind h hpure fun _ => hstops)
  · intro d
    cases d with
    | none => exact ⟨Sum.inr (), rfl⟩
    | some d => exact ⟨Sum.inl d, rfl⟩
  · rintro (_ | _) <;> rfl
  · rintro (_ | _) <;> rfl

theorem parses_name : Parses name (fun d => [Ident.kind d]) Ident.spelling Any := by
  apply parses_single
  · intro d position rest
    cases d with
    | name s => rfl
    | keyword k => rfl
    | boolean b => cases b <;> rfl
  · intro tokens a rest hread
    unfold name at hread
    split at hread
    · cases hread
      exact ⟨.name _, _, rfl, rfl⟩
    · cases hread
      exact ⟨.keyword _, _, rfl, rfl⟩
    · cases hread
      exact ⟨.boolean true, _, rfl, rfl⟩
    · cases hread
      exact ⟨.boolean false, _, rfl, rfl⟩
    · cases hread
  · intro d d' hsame
    cases d <;> cases d' <;> cases hsame <;> rfl
  · intro d hsame
    cases d <;> cases hsame

theorem parses_literal : Parses literal (fun d => [Literal.kind d]) Literal.value Any := by
  apply parses_single
  · intro d position rest
    cases d <;> rfl
  · intro tokens a rest hread
    unfold literal at hread
    split at hread
    · cases hread
      exact ⟨.number _, _, rfl, rfl⟩
    · cases hread
      exact ⟨.text _, _, rfl, rfl⟩
    · cases hread
      exact ⟨.boolean _, _, rfl, rfl⟩
    · cases hread
      exact ⟨.null, _, rfl, rfl⟩
    · cases hread
  · intro d d' hsame
    cases d <;> cases d' <;> cases hsame <;> rfl
  · intro d hsame
    cases d <;> cases hsame

theorem parses_columnType : Parses columnType (fun d => [typeKind d]) id Any := by
  apply parses_single
  · intro d position rest
    cases d <;> rfl
  · intro tokens a rest hread
    unfold columnType at hread
    split at hread
    · cases hread
      exact ⟨.int, _, rfl, rfl⟩
    · cases hread
      exact ⟨.text, _, rfl, rfl⟩
    · cases hread
      exact ⟨.bool, _, rfl, rfl⟩
    · cases hread
  · intro d d' hsame
    cases d <;> cases d' <;> cases hsame <;> rfl
  · intro d hsame
    cases d <;> cases hsame

/-!
# Lists
-/

theorem commaList_of_error {item : Reader α} (shrinks : Shrinks item) {tokens : List Token}
    {refusal : Refusal} (hitem : item tokens = .error refusal) :
    commaList item shrinks tokens = .error refusal := by
  rw [commaList]
  split
  · next hother =>
      rw [hitem] at hother
      cases hother
      rfl
  · next hother =>
      rw [hitem] at hother
      cases hother
  · next hother =>
      rw [hitem] at hother
      cases hother

theorem commaList_step {item : Reader α} (shrinks : Shrinks item)
    {tokens behind : List Token} {a : α} {position : Position}
    (hitem : item tokens = .ok (a, ⟨.symbol .comma, position⟩ :: behind)) :
    commaList item shrinks tokens =
      (commaList item shrinks behind).map fun (more, rest) => (a :: more, rest) := by
  rw [commaList]
  split
  · next hother =>
      rw [hitem] at hother
      cases hother
  · next hother =>
      rw [hitem] at hother
      cases hother
      rfl
  · next hno hother =>
      rw [hitem] at hother
      cases hother
      exact absurd rfl (hno _ _)

theorem commaList_of_comma {item : Reader α} (shrinks : Shrinks item)
    {tokens behind rest : List Token} {a : α} {more : List α} {position : Position}
    (hitem : item tokens = .ok (a, ⟨.symbol .comma, position⟩ :: behind))
    (hmore : commaList item shrinks behind = .ok (more, rest)) :
    commaList item shrinks tokens = .ok (a :: more, rest) := by
  rw [commaList_step shrinks hitem, hmore]
  rfl

theorem commaList_of_last {item : Reader α} (shrinks : Shrinks item) {tokens rest : List Token}
    {a : α} (hitem : item tokens = .ok (a, rest)) (hrest : nextKind rest ≠ .symbol .comma) :
    commaList item shrinks tokens = .ok ([a], rest) := by
  rw [commaList]
  split
  · next hother =>
      rw [hitem] at hother
      cases hother
  · next hother =>
      rw [hitem] at hother
      cases hother
      exact absurd rfl hrest
  · next hother =>
      rw [hitem] at hother
      cases hother
      rfl

/-- A list that was read is its first item, and after a comma the rest of the list. -/
theorem commaList_eq_ok {item : Reader α} {shrinks : Shrinks item} {tokens rest : List Token}
    {items : List α} (h : commaList item shrinks tokens = .ok (items, rest)) :
    exists a middle, item tokens = .ok (a, middle) ∧
      ((exists position behind more, middle = ⟨.symbol .comma, position⟩ :: behind ∧
          commaList item shrinks behind = .ok (more, rest) ∧ items = a :: more) ∨
        (items = [a] ∧ rest = middle)) := by
  rw [commaList] at h
  split at h
  · cases h
  · next a position behind hitem =>
      rcases exists_of_map_eq_ok h with ⟨⟨more, left⟩, hmore, hpair⟩
      cases hpair
      exact ⟨a, _, hitem, Or.inl ⟨position, behind, more, rfl, hmore, rfl⟩⟩
  · next hitem =>
      cases h
      exact ⟨_, _, hitem, Or.inr ⟨rfl, rfl⟩⟩

section

variable {item : Reader α} (shrinks : Shrinks item) (h : Parses item kinds tree stops)
include h

theorem commaList_complete (hcomma : stops (.symbol .comma)) (list : Separated τ)
    {tokens rest : List Token} (hkinds : tokens.map Token.kind = list.kinds kinds)
    (hrest : stops (nextKind rest)) (hlast : nextKind rest ≠ .symbol .comma) :
    commaList item shrinks (tokens ++ rest) = .ok (list.values tree, rest) := by
  rcases list with ⟨first, more⟩
  induction more generalizing first tokens with
  | nil =>
      rw [Separated.kinds_singleton] at hkinds
      exact commaList_of_last shrinks (h.complete first tokens rest hkinds hrest) hlast
  | cons second others ih =>
      -- The comma stops the first item and sends the list on to the others.
      rw [Separated.kinds_cons] at hkinds
      rcases List.map_eq_append_iff.mp hkinds with ⟨own, behind, htokens, hown, hbehind⟩
      rcases List.map_eq_cons_iff.mp hbehind with ⟨⟨kind, position⟩, left, hcons, hkind, hleft⟩
      simp only at hkind
      subst hkind
      have hitem := h.complete first own (behind ++ rest) hown (by rw [hcons]; exact hcomma)
      rw [hcons] at hitem
      rw [htokens, hcons, List.append_assoc]
      exact commaList_of_comma shrinks hitem (ih second hleft)

theorem commaList_sound {tokens rest : List Token} {items : List α}
    (hread : commaList item shrinks tokens = .ok (items, rest)) :
    exists (list : Separated τ) (own : List Token), tokens = own ++ rest ∧
      own.map Token.kind = list.kinds kinds ∧ list.values tree = items := by
  induction items generalizing tokens with
  | nil =>
      rcases commaList_eq_ok hread with ⟨_, _, _, ⟨_, _, _, _, _, hitems⟩ | ⟨hitems, _⟩⟩
      · cases hitems
      · cases hitems
  | cons a others ih =>
      rcases commaList_eq_ok hread with ⟨b, middle, hitem, hrest⟩
      rcases h.sound tokens b middle hitem with ⟨d, own, htokens, hown, hb⟩
      rcases hrest with ⟨position, behind, more, hcomma, hmore, hitems⟩ | ⟨hitems, hrest⟩
      · cases hitems
        rcases ih hmore with ⟨list, left, hbehind, hleft, hothers⟩
        refine ⟨⟨d, list.first :: list.rest⟩, own ++ ⟨.symbol .comma, position⟩ :: left, ?_, ?_, ?_⟩
        · rw [htokens, hcomma, hbehind, List.append_assoc]
          rfl
        · rw [Separated.kinds_cons, List.map_append, List.map_cons, hown, hleft]
        · exact congrArg₂ List.cons hb hothers
      · cases hitems
        subst hrest
        refine ⟨⟨d, []⟩, own, htokens, ?_, congrArg (fun c => [c]) hb⟩
        rw [Separated.kinds_singleton]
        exact hown

theorem separated_unambiguous (hcomma : stops (.symbol .comma)) (list list' : Separated τ)
    (hsame : list.kinds kinds = list'.kinds kinds) : list = list' := by
  let commas (more : List τ) : List TokenKind := more.flatMap fun d => .symbol .comma :: kinds d
  have hstop : forall more : List τ, stops (headKind (commas more) .endOfInput) := by
    intro more
    cases more with
    | nil => exact h.ends list.first
    | cons d _ => exact hcomma
  have htails : forall more more' : List τ, commas more = commas more' -> more = more' := by
    intro more
    induction more with
    | nil =>
        intro more' htail
        cases more' with
        | nil => rfl
        | cons d' rest' => cases htail
    | cons d rest ih =>
        intro more' htail
        cases more' with
        | nil => cases htail
        | cons d' rest' =>
            have hlists : kinds d ++ commas rest = kinds d' ++ commas rest' :=
              (List.cons.inj htail).2
            rcases h.append_inj hlists (hstop rest) (hstop rest') with ⟨hd, hrest⟩
            rw [hd, ih rest' hrest]
  rcases h.append_inj hsame (hstop list.rest) (hstop list'.rest) with ⟨hfirst, hmore⟩
  rcases list with ⟨first, more⟩
  rcases list' with ⟨first', more'⟩
  exact congrArg₂ Separated.mk hfirst (htails more more' hmore)

theorem parses_commaList (hcomma : stops (.symbol .comma)) :
    Parses (commaList item shrinks) (Separated.kinds kinds) (Separated.values tree)
      fun kind => stops kind ∧ kind ≠ .symbol .comma where
  complete := fun list _ _ hkinds hrest =>
    commaList_complete shrinks h hcomma list hkinds hrest.1 hrest.2
  sound := fun _ _ _ hread => commaList_sound shrinks h hread
  unambiguous := separated_unambiguous h hcomma
  inside := by
    intro list hmem
    rcases List.mem_append.mp hmem with hfirst | hrest
    · exact h.inside _ hfirst
    · rcases List.mem_flatMap.mp hrest with ⟨d, _, hd⟩
      rcases List.mem_cons.mp hd with hsymbol | hitem
      · cases hsymbol
      · exact h.inside d hitem
  ends := fun list => ⟨h.ends list.first, nofun⟩

theorem parses_parenthesized (hcomma : stops (.symbol .comma))
    (hparen : stops (.symbol .rightParen)) :
    Parses (parenthesized item shrinks) (Separated.parenthesized kinds) (Separated.values tree)
      Any := by
  apply parses_symbol
  apply Parses.of_surjective Prod.fst
  · apply parses_bind (fun list _ => list.values tree) (parses_commaList shrinks h hcomma)
    · intro list
      exact parses_symbol (parses_pure _)
    · intro _ _ _
      exact ⟨hparen, nofun⟩
  · intro list
    exact ⟨(list, ()), rfl⟩
  · intro _
    rfl
  · intro _
    rfl

end

end Reader
end Sql
end Tabula
