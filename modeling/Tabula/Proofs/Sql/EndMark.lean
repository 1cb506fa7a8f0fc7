import Tabula.Proofs.Sql.Refusals

/-!
# What stands behind an end mark

A reader of whole statements looks at one token behind those that it takes, and it takes no end mark.
So an end mark ends a list of tokens wherever it stands: no token behind it makes a difference.  And a
list without one is read as if an end mark stood behind its last token, at the place of this token.
-/

namespace Tabula
namespace Sql
namespace Reader

theorem parses_finish (result : Statement) :
    Parses (finish result) (fun _ : Unit => []) (fun _ => result) fun kind => kind = .endOfInput where
  complete := by
    intro _ tokens rest hkinds hrest
    rw [List.map_eq_nil_iff.mp hkinds]
    exact finish_of_end hrest
  sound := by
    intro tokens a rest hread
    by_cases hend : nextKind tokens = .endOfInput
    · rw [finish_of_end hend] at hread
      cases hread
      exact ⟨(), [], rfl, rfl, rfl⟩
    · rw [finish_of_ne hend] at hread
      cases hread
  unambiguous := fun _ _ _ => rfl
  inside := fun _ => List.not_mem_nil
  ends := fun _ => rfl

theorem parses_complete :
    Parses complete
      (fun d : Grammar.Derivation × (Unit ⊕ Unit) =>
        d.1.kinds ++ Sum.elim (fun _ => [.symbol .semicolon]) (fun _ => []) d.2)
      (fun d => Sum.elim (fun _ => d.1.statement) (fun _ => d.1.statement) d.2)
      fun kind => kind = .endOfInput := by
  apply parses_bind (fun d => Sum.elim (fun _ => d.statement) fun _ => d.statement) parses_statement
  · intro d
    apply parses_choice
    · nofun
    · exact parses_finish _
    · exact parses_finish _
    · intro _ behind hbehind hsemicolon
      cases hbehind.symm.trans hsemicolon
  · rintro (_ | _) kind hkind
    · exact Or.inl rfl
    · exact Or.inr hkind

/-- A reader of whole statements has taken a part without end marks when it answers, and whatever
stands in the place of the rest, a next token of the same kind gives the same answer. -/
theorem exists_front (tokens : List Token) :
    exists own rest, tokens = own ++ rest ∧ .endOfInput ∉ own.map Token.kind ∧
      ((exists result, forall rest', nextKind rest' = nextKind rest ->
          complete (own ++ rest') = .ok (result, rest')) ∨
        exists expected, forall rest', nextKind rest' = nextKind rest ->
          complete (own ++ rest') = .error ⟨expected, rest'⟩) := by
  cases hread : complete tokens with
  | ok answer =>
      rcases answer with ⟨result, rest⟩
      rcases pinpoints_complete.taken tokens result rest hread with ⟨own, htokens, htaken⟩
      rcases parses_complete.sound tokens result rest hread with ⟨d, same, hsame, hkinds, _⟩
      cases List.append_cancel_right (htokens.symm.trans hsame)
      exact ⟨own, rest, htokens, hkinds ▸ parses_complete.inside d, Or.inl ⟨result, htaken⟩⟩
  | error refusal =>
      rcases pinpoints_complete.refused tokens refusal hread with
        ⟨front, htokens, ⟨d, more, hkinds⟩, hhopeless⟩
      have hinside := parses_complete.inside d
      rw [hkinds] at hinside
      refine ⟨front, refusal.rest, htokens, ?_, Or.inr ⟨refusal.expected, hhopeless⟩⟩
      intro hmem
      exact hinside (List.mem_append_left more hmem)

end Reader

/-- The place of the next token, or of the end. -/
def nextPosition (tokens : List Token) (finish : Position) : Position :=
  (tokens.head?.map Token.position).getD finish

theorem Refusal.toSyntaxError_eq (refusal : Refusal) (finish : Position) :
    refusal.toSyntaxError finish =
      ⟨.unexpectedToken refusal.expected (Reader.nextKind refusal.rest),
        nextPosition refusal.rest finish⟩ := by
  rcases refusal with ⟨expected, _ | ⟨token, rest⟩⟩
  · rfl
  · rfl

/-- What is in front of an end mark is what was taken and more. -/
theorem exists_more_of_append {own rest front behind : List Token} {position : Position}
    (h : front ++ ⟨.endOfInput, position⟩ :: behind = own ++ rest)
    (hown : .endOfInput ∉ own.map Token.kind) :
    exists more, front = own ++ more ∧ rest = more ++ ⟨.endOfInput, position⟩ :: behind := by
  rcases List.append_eq_append_iff.mp h with ⟨more, htaken, hbehind⟩ | ⟨more, hfront, hrest⟩
  · cases more with
    | nil =>
        rw [List.append_nil] at htaken
        exact ⟨[], by rw [htaken, List.append_nil], hbehind.symm⟩
    | cons mark others =>
        cases hbehind
        rw [htaken, List.map_append] at hown
        exact absurd (List.mem_append_right _ List.mem_cons_self) hown
  · exact ⟨more, hfront, hrest⟩

namespace Statement

theorem exists_front (tokens : List Token) :
    exists own rest, tokens = own ++ rest ∧ .endOfInput ∉ own.map Token.kind ∧
      forall rest', Reader.nextKind rest' = Reader.nextKind rest ->
        nextPosition rest' (endPosition (own ++ rest')) = nextPosition rest (endPosition tokens) ->
          ofTokens (own ++ rest') = ofTokens tokens := by
  rcases Reader.exists_front tokens with ⟨own, rest, htokens, hown, hanswer⟩
  refine ⟨own, rest, htokens, hown, ?_⟩
  intro rest' hkind hposition
  rcases hanswer with ⟨result, hok⟩ | ⟨expected, herror⟩
  · have hthere := hok rest rfl
    rw [← htokens] at hthere
    unfold ofTokens
    rw [hok rest' hkind, hthere]
  · have hthere := herror rest rfl
    rw [← htokens] at hthere
    unfold ofTokens
    rw [herror rest' hkind, hthere]
    simp only [Refusal.toSyntaxError_eq, hkind, hposition]

/-- No token behind an end mark makes a difference. -/
theorem ofTokens_of_mark (front behind : List Token) (position : Position) :
    ofTokens (front ++ ⟨.endOfInput, position⟩ :: behind) =
      ofTokens (front ++ [⟨.endOfInput, position⟩]) := by
  rcases exists_front (front ++ ⟨.endOfInput, position⟩ :: behind) with
    ⟨own, rest, htokens, hown, hanswer⟩
  rcases exists_more_of_append htokens hown with ⟨more, rfl, rfl⟩
  have hsame := hanswer (more ++ [⟨.endOfInput, position⟩])
  rw [← List.append_assoc] at hsame
  symm
  cases more with
  | nil => exact hsame rfl rfl
  | cons token others => exact hsame rfl rfl

/-- A list ends as if an end mark stood at the place of its last token. -/
theorem ofTokens_marked (tokens : List Token) :
    ofTokens (tokens ++ [⟨.endOfInput, endPosition tokens⟩]) = ofTokens tokens := by
  rcases exists_front tokens with ⟨own, rest, htokens, _, hanswer⟩
  have hsame := hanswer (rest ++ [⟨.endOfInput, endPosition tokens⟩])
  rw [← List.append_assoc, ← htokens] at hsame
  cases rest with
  | nil => exact hsame rfl rfl
  | cons token others => exact hsame rfl rfl

end Statement
end Sql
end Tabula
