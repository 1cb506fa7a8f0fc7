import Tabula.Proofs.Database.Reachable
import Tabula.Proofs.Session.Running
import Tabula.Proofs.Sql.Blanks
import Tabula.Shell.Basic

/-!
# Statements typed to a shell

A shell collects lines until one ends with a semicolon and then executes what it has collected.

## Main statements

- `run_readLines`: the lines of one statement are executed together.
- `typed_statement_is_executed`: a text of one statement is executed as it is in a session.
- `lines_are_misread`: the texts that are not.
-/

namespace Tabula
namespace Shell

open Sql (Statement Token TokenKind tokenize)

/-!
# Printing
-/

/-- What is printed of the result of a statement, piece by piece. -/
def reply (mode : OutputMode) : Except Error Outcome -> List Printed
  | .error error => [.error ("Error: " ++ error.message ++ "\n")]
  | .ok (.rows set) =>
      match mode with
      | .table => (Grid.draw set).map fun line => .output (line ++ "\n")
      | .json => [.output (jsonRows set ++ "\n")]
  | .ok outcome => [.output (outcome.message?.getD "" ++ "\n")]

def printing (shell : Shell) (pieces : List Printed) : Shell :=
  { shell with printed := pieces.reverse ++ shell.printed }

variable {m : Type -> Type} [Monad m]

theorem run_print (piece : Printed) (shell : Shell) :
    (print (m := m) piece).run shell = pure ((), shell.printing [piece]) := rfl

variable [LawfulMonad m]

theorem run_forM_printLine (lines : List String) (shell : Shell) :
    (lines.forM (printLine (m := m))).run shell =
      pure ((), shell.printing (lines.map fun line => .output (line ++ "\n"))) := by
  induction lines generalizing shell with
  | nil => rfl
  | cons line rest ih =>
      show (printLine (m := m) line >>= fun _ => rest.forM printLine).run shell = _
      rw [StateT.run_bind, printLine, run_print, pure_bind, ih]
      simp [printing]

theorem run_printOutcome (outcome : Outcome) (shell : Shell) :
    (printOutcome (m := m) outcome).run shell =
      pure ((), shell.printing (reply shell.mode (.ok outcome))) := by
  unfold printOutcome
  rw [StateT.run_bind, StateT.run_get, pure_bind]
  cases outcome with
  | rows set =>
      cases hmode : shell.mode with
      | table => exact run_forM_printLine (Grid.draw set) shell
      | json => rfl
  | _ => rfl

theorem run_finish {shell : Shell} (hshell : shell.statement = "") :
    (finish (m := m)).run shell = pure ((), shell) := by
  unfold finish
  rw [StateT.run_bind, StateT.run_get, pure_bind, if_neg (not_not_intro hshell)]
  rfl

/-- An action on the session of the shell leaves the rest of the shell alone. -/
theorem run_onSession {α : Type} (action : SessionM m α) (shell : Shell) :
    (onSession action).run.run shell =
      action.run.run shell.session >>= fun (result, session) =>
        pure (result.mapError .failed, { shell with session }) := by
  unfold onSession
  simp only [ExceptT.run_mk, StateT.run_bind, StateT.run_get, StateT.run_monadLift, StateT.run_modify,
    monadLift_self, pure_bind, bind_assoc]
  rfl

variable [Host m]

/-- A statement is executed on the session of the shell, and its result is printed. -/
theorem run_runStatement (sql : String) (shell : Shell) :
    (runStatement (m := m) sql).run shell =
      (Session.execute sql).run.run shell.session >>= fun (result, session) =>
        pure ((), { shell with session }.printing (reply shell.mode result)) := by
  unfold runStatement
  rw [StateT.run_bind, run_onSession, bind_assoc]
  apply bind_congr
  intro answer
  rcases answer with ⟨result, session⟩
  rw [pure_bind]
  cases result with
  | error error => rfl
  | ok outcome => exact run_printOutcome outcome _

/-- A statement leaves nothing to be warned of behind. -/
theorem run_runStatement_finish {shell : Shell} (hshell : shell.statement = "") (sql : String) :
    ((runStatement (m := m) sql).run shell >>= fun answer => finish.run answer.2) =
      (runStatement sql).run shell := by
  rw [run_runStatement, bind_assoc]
  apply bind_congr
  intro answer
  rw [pure_bind]
  exact run_finish hshell

/-- Texts of one statement are executed alike. -/
theorem run_runStatement_congr {sql sql' : String} {statement : Statement}
    (h : Statement.parse sql = .ok statement) (h' : Statement.parse sql' = .ok statement)
    (shell : Shell) :
    (runStatement (m := m) sql').run shell = (runStatement sql).run shell := by
  have hexecute : Session.execute (m := m) sql' = Session.execute sql := by
    unfold Session.execute
    rw [h, h']
  rw [run_runStatement, run_runStatement, hexecute]

/-!
# Lines
-/

theorem run_readLine (line : List Char) (shell : Shell) :
    (readLine (m := m) line).run shell =
      if shell.statement = "" ∧ (Text.trim line).head? = some '.' then
        (runCommand (Text.trim line)).run shell
      else if Text.trim line = [] then
        pure (true, shell)
      else if (Text.trim line).getLast? = some ';' then
        (runStatement (shell.statement ++ String.ofList (Text.trim line) ++ "\n")).run
            { shell with statement := "" } >>= fun (_, shell) => pure (true, shell)
      else
        pure (true, { shell with
          statement := shell.statement ++ String.ofList (Text.trim line) ++ "\n" }) := by
  unfold readLine
  rw [StateT.run_bind, StateT.run_get, pure_bind]
  dsimp only
  split
  · rfl
  · split
    · rfl
    · split
      · rw [StateT.run_bind, StateT.run_modify, pure_bind, StateT.run_bind]
        rfl
      · rw [StateT.run_bind, StateT.run_modify, pure_bind, StateT.run_pure]

theorem append_line (statement : String) (part rest : List Char) :
    statement ++ String.ofList part ++ "\n" ++ String.ofList rest =
      statement ++ String.ofList (part ++ '\n' :: rest) := by
  apply String.toList_inj.mp
  simp

theorem append_line_ne_empty (statement : String) (part : List Char) :
    statement ++ String.ofList part ++ "\n" ≠ "" := by
  intro hempty
  have hlist := congrArg String.toList hempty
  simp at hlist

/-- Lines of which the last one alone ends with a semicolon are one statement. -/
theorem run_readLines {front : List (List Char)} {last : List Char} {shell : Shell}
    (hstart : shell.statement ≠ "" ∨ (Text.collected (front ++ [last])).head? ≠ some '.')
    (hfront : forall line, line ∈ front -> (Text.trim line).getLast? ≠ some ';')
    (hlast : (Text.trim last).getLast? = some ';') :
    (readLines (m := m) false (front ++ [last])).run shell =
      (runStatement (shell.statement ++ String.ofList (Text.collected (front ++ [last])))).run
        { shell with statement := "" } := by
  induction front generalizing shell with
  | nil =>
      have hpart : Text.trim last ≠ [] := List.ne_nil_of_mem (List.mem_of_getLast? hlast)
      rw [List.nil_append, Text.collected, if_neg hpart] at hstart ⊢
      rw [List.head?_append_of_ne_nil _ hpart] at hstart
      show (readLine last >>= fun more => if more = true then readLines false [] else pure ()).run
        shell = _
      rw [StateT.run_bind, run_readLine, if_neg (not_and_or.mpr hstart), if_neg hpart, if_pos hlast,
        bind_assoc, Text.collected, ← append_line, String.ofList_nil, String.append_empty]
      apply Eq.trans _ (bind_pure _)
      apply bind_congr
      intro answer
      rw [pure_bind]
      rfl
  | cons line rest ih =>
      have hrest := fun later hlater => hfront later (List.mem_cons_of_mem line hlater)
      show (readLine line >>= fun more =>
        if more = true then readLines false (rest ++ [last]) else pure ()).run shell = _
      rw [List.cons_append, Text.collected] at hstart ⊢
      rw [StateT.run_bind, run_readLine]
      by_cases hblank : Text.trim line = []
      · have hcommand : ¬ (shell.statement = "" ∧ (Text.trim line).head? = some '.') := by
          simp [hblank]
        rw [if_pos hblank] at hstart
        rw [if_neg hcommand, if_pos hblank, if_pos hblank, pure_bind]
        exact ih hstart hrest
      · rw [if_neg hblank, List.head?_append_of_ne_nil _ hblank] at hstart
        have hcollecting := append_line_ne_empty shell.statement (Text.trim line)
        rw [if_neg (not_and_or.mpr hstart), if_neg hblank, if_neg (hfront line List.mem_cons_self),
          if_neg hblank, pure_bind, if_pos rfl, ih (Or.inl hcollecting) hrest, append_line]

/-!
# Texts
-/

/-- A text that can be typed line by line: it ends with a semicolon, no line before the last one
does, and no quoted text in it has a blank beside a line feed. -/
structure Typable (sql : String) : Prop where
  ends : sql.toList.getLast? = some ';'
  goesOn : forall line, line ∈ (Text.lines sql.toList).dropLast ->
    (Text.trim line).getLast? ≠ some ';'
  tight : exists tokens, tokenize sql = .ok tokens ∧
    forall s, .text s ∈ tokens.map Token.kind -> Text.Tight s.toList

/-- The lines of a typed text are the text of one statement. -/
theorem run_readText {sql : String} {statement : Statement} {shell : Shell} (hsql : Typable sql)
    (hparse : Statement.parse sql = .ok statement) (hshell : shell.statement = "") :
    (readText (m := m) false (sql ++ "\n")).run shell = (runStatement sql).run shell := by
  rcases hsql.tight with ⟨tokens, htokens, htight⟩
  rcases Text.getLast?_lines hsql.ends (by decide) with ⟨front, last, hsplit, hlast⟩
  have hlines := Text.lines_append_newline hsql.ends (by decide)
  have hcollected := Statement.parse_collected htokens htight hparse
  rw [hlines, hsplit] at hcollected
  have hhead := Statement.head?_ne_dot_of_parse hcollected
  rw [String.toList_ofList] at hhead
  have hfront := hsql.goesOn
  rw [hsplit, List.dropLast_concat] at hfront
  have hend := Text.getLast?_trim hlast (by decide)
  have hclean : { shell with statement := "" } = shell := by
    rw [← hshell]
  have htext : (sql ++ "\n").toList = sql.toList ++ ['\n'] := String.toList_append
  unfold readText
  rw [htext, hlines, hsplit, StateT.run_bind, run_readLines (Or.inr hhead) hfront hend, hclean,
    hshell, String.empty_append, run_runStatement_finish hshell,
    run_runStatement_congr hparse hcollected]

/-- A statement that can be executed can be typed: the shell then executes it, once, and prints its
outcome. -/
theorem typed_statement_is_executed {World : Type} [Host (StateM World)] {sql : String}
    (hsql : Typable sql) {shell : Shell} (hshell : shell.statement = "") {world world' : World}
    {outcome : Outcome} {session : Session}
    (hexecute : ((Session.execute (m := StateM World) sql).run.run shell.session).run world =
      ((.ok outcome, session), world')) :
    (readText (m := StateM World) false (sql ++ "\n")).run shell = (runStatement sql).run shell ∧
      ((readText (m := StateM World) false (sql ++ "\n")).run shell).run world =
        (((), { shell with session }.printing (reply shell.mode (.ok outcome))), world') := by
  have hparse : exists statement, Statement.parse sql = .ok statement := by
    cases hresult : Statement.parse sql with
    | ok statement => exact ⟨statement, rfl⟩
    | error error =>
        unfold Session.execute at hexecute
        rw [hresult] at hexecute
        cases hexecute
  rcases hparse with ⟨statement, hparse⟩
  have hread := run_readText (m := StateM World) hsql hparse hshell
  constructor
  · exact hread
  · rw [hread, run_runStatement, StateT.run_bind, hexecute]
    rfl

/-- A statement over several lines, with a comment and a quoted text that goes over two of them. -/
def typedText : String :=
  "INSERT INTO pets (id, name) -- a pair; it shares a row

  VALUES (8, 'Tim
Tom');"

def sampleSession : Session where
  database := { tables := [("pets", Database.sampleTable)] }

/-- The session with one more row. -/
def sampleResult (name : String) : Session where
  database := { tables := [("pets", {
    schema := Database.sampleTable.schema
    rows := Database.sampleTable.rows ++ [⟨2, [.integer 8, .text name]⟩]
    nextRowId := 3
    indexes := [some { column := "Id", entries := [(.integer 7, [1]), (.integer 8, [2])] }, none] })] }

def sampleKinds (name : String) : List TokenKind :=
  [.keyword .INSERT, .keyword .INTO, .name "pets", .symbol .leftParen, .name "id", .symbol .comma,
    .name "name", .symbol .rightParen, .keyword .VALUES, .symbol .leftParen, .number 8,
    .symbol .comma, .text name, .symbol .rightParen, .symbol .semicolon, .endOfInput]

theorem typed_statement_is_executed_sample :
    Typable typedText ∧
      ((Session.execute (m := StateM Disk) typedText).run.run sampleSession).run {} =
        ((.ok (.inserted "Pets"), sampleResult "Tim\nTom"), {}) ∧
      ((readText (m := StateM Disk) false (typedText ++ "\n")).run { session := sampleSession }).run
          {} =
        (((), { session := sampleResult "Tim\nTom"
                printed := [.output "Inserted 1 row into Pets\n"] }), {}) := by
  have htokens : (tokenize typedText).map (fun tokens => tokens.map Token.kind) =
      .ok (sampleKinds "Tim\nTom") := by decide +kernel
  have htyped : Typable typedText := by
    constructor
    · decide +kernel
    · decide +kernel
    · rcases Sql.exists_of_map_eq_ok htokens with ⟨tokens, hscan, hkinds⟩
      refine ⟨tokens, hscan, ?_⟩
      intro s hs
      rw [hkinds] at hs
      have htext : s = "Tim\nTom" := by simpa [sampleKinds] using hs
      rw [htext]
      unfold Text.Tight
      decide
  have hparse : Statement.parse typedText =
      .ok (.insert "pets" ["id", "name"] [.integer 8, .text "Tim\nTom"]) := by decide +kernel
  have hexecute : ((Session.execute (m := StateM Disk) typedText).run.run sampleSession).run {} =
      ((.ok (.inserted "Pets"), sampleResult "Tim\nTom"), {}) := by
    apply (@Session.runOn_execute_quiet sampleSession rfl _ _ hparse {}).trans
    exact Prod.ext (by decide +kernel) rfl
  have hread := @typed_statement_is_executed Disk _ _ htyped { session := sampleSession } rfl _ _ _ _
    hexecute
  exact ⟨htyped, hexecute, hread.2⟩

/-!
# Misread lines

A quoted text keeps its lines as they are in a session, but a shell cuts off the blanks at their
ends.  A shell breaks a statement off at a line that ends with a semicolon, be the semicolon part of
a quoted text or of a comment.
-/

/-- A text of one statement that gives its row a name in a session, but not in a shell. -/
def Misread (text name : String) : Prop :=
  (tokenize text).map (fun tokens => tokens.map Token.kind) = .ok (sampleKinds name) ∧
    text.toList.getLast? = some ';' ∧
    (((Session.execute (m := StateM Disk) text).run.run sampleSession).run {}).1 =
      (.ok (.inserted "Pets"), sampleResult name) ∧
    (((readText (m := StateM Disk) false (text ++ "\n")).run
      { session := sampleSession }).run {}).1.2.session.database ≠ (sampleResult name).database

theorem lines_are_misread :
    Misread "INSERT INTO pets (id, name) VALUES (8, 'Tim \nTom');" "Tim \nTom" ∧
      Misread "INSERT INTO pets (id, name) VALUES (8, 'Tim;\nTom');" "Tim;\nTom" ∧
      Misread "INSERT INTO pets (id, name) -- both;\nVALUES (8, 'Tim');" "Tim" := by
  unfold Misread
  decide +kernel

end Shell
end Tabula
