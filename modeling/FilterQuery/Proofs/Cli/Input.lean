import FilterQuery.Cli.Command
import FilterQuery.Proofs.Compiler.Source
import FilterQuery.Proofs.Lexing.Trailing

/-!
# Where a query comes from

A query can be given as an argument or on standard input, where the blanks at its end are cut off.
Blanks at the end belong to no token, so that the two are read as the same query or not at all
(`parseQuery_trimEnd`). What a command prints depends on the text of the query only through what is
read from it, whatever the mode, the fields and the limit.

When both fail the errors may differ: a backslash at the end of a string that is not closed is an
invalid escape if a blank follows, and part of an unterminated string if not.
-/

namespace FilterQuery

/-! ### Results that are the same if there are any -/

/-- Both succeed with the same result, or neither succeeds. -/
def SucceedAlike {ε α : Type} (x y : Except ε α) : Prop := ∀ a, x = .ok a ↔ y = .ok a

namespace SucceedAlike

variable {ε ε' α β : Type} {x y : Except ε α}

theorem refl (x : Except ε α) : SucceedAlike x x := fun _ => Iff.rfl

theorem error (e e' : ε) : SucceedAlike (.error e : Except ε α) (.error e') :=
  fun _ => ⟨nofun, nofun⟩

theorem cases (h : SucceedAlike x y) :
    (∃ a, x = .ok a ∧ y = .ok a) ∨ ∃ e e', x = .error e ∧ y = .error e' := by
  cases x with
  | ok a => exact .inl ⟨a, rfl, (h a).1 rfl⟩
  | error e =>
    cases y with
    | ok a => cases (h a).2 rfl
    | error e' => exact .inr ⟨e, e', rfl, rfl⟩

theorem mapError (h : SucceedAlike x y) (f : ε → ε') :
    SucceedAlike (x.mapError f) (y.mapError f) := by
  rcases h.cases with ⟨a, rfl, rfl⟩ | ⟨e, e', rfl, rfl⟩
  · exact refl _
  · exact error _ _

/-- What is done with the results may succeed alike as well. -/
theorem bind {f g : α → Except ε β} (h : SucceedAlike x y) (hfg : ∀ a, SucceedAlike (f a) (g a)) :
    SucceedAlike (x >>= f) (y >>= g) := by
  rcases h.cases with ⟨a, rfl, rfl⟩ | ⟨e, e', rfl, rfl⟩
  · exact hfg a
  · exact error _ _

end SucceedAlike

/-! ### Texts that are read alike -/

/-- Trimmed or not, a text is read as the same query, or not at all. -/
theorem parseQuery_trimEnd (s : String) :
    SucceedAlike (parseQuery (Text.trimEnd s) 0) (parseQuery s 0) := by
  intro q
  simp only [parseQuery_eq_ok_iff, Lexer.tokens_trimEnd_eq_iff]

section

variable {s s' : String} (h : SucceedAlike (parseQuery s 0) (parseQuery s' 0))
include h

theorem Cli.check_alike : SucceedAlike (check s) (check s') :=
  (h.mapError _).bind fun _ => .refl _

variable [Pattern.Engine]

theorem Compiler.plain_alike (c : Compiler) (fields : Fields) :
    SucceedAlike (c.plain fields s) (c.plain fields s') := by
  rcases h.cases with ⟨q, hs, hs'⟩ | ⟨e, e', hs, hs'⟩
  · rw [plain_of_parseQuery_ok hs, plain_of_parseQuery_ok hs']
    exact .refl _
  · rw [plain_of_parseQuery_error hs, plain_of_parseQuery_error hs']
    exact .error _ _

theorem Cli.compileParams_alike (c : Compiler) (fields : Fields) :
    SucceedAlike (compileParams c fields s) (compileParams c fields s') := by
  unfold compileParams
  rcases h.cases with ⟨q, hs, hs'⟩ | ⟨e, e', hs, hs'⟩
  · rw [Compiler.sql_of_parseQuery_ok hs, Compiler.sql_of_parseQuery_ok hs']
    exact .refl _
  · rw [Compiler.sql_of_parseQuery_error hs, Compiler.sql_of_parseQuery_error hs']
    exact .error _ _

/-- Texts that are read alike are compiled alike. -/
theorem Cli.compile_alike (r : Request) :
    SucceedAlike (compile { r with query := s }) (compile { r with query := s' }) := by
  unfold compile
  apply (SucceedAlike.refl _).bind
  intro fields
  cases r.mode with
  | literal => exact ((Compiler.plain_alike h _ fields).mapError _).bind fun _ => .refl _
  | inline => exact (compileParams_alike h _ fields).bind fun _ => .refl _
  | escaped => exact (compileParams_alike h _ fields).bind fun _ => .refl _

end

/-! ### Commands -/

namespace Cli

section

variable [Pattern.Engine] {i : Inputs} {s : String}

theorem run_check_of_query {query : Option String} (h : i.query query = .ok s) :
    Command.run i (.check query) = check s >>= fun _ => .ok "Syntax is valid" := by
  rw [Command.run, h]
  rfl

/-- To compile a query is to read the file of its fields, if one is named, and then to compile the
query itself. -/
theorem run_compile_of_query {command : CompileCommand} (h : i.query command.query = .ok s) :
    Command.run i (.compile command) =
      (command.policies.elim (.ok none) fun _ => (i.file.mapError .file).map some) >>= fun table =>
        compile ⟨s, table, command.specs, ⟨command.maxFilters⟩, command.mode⟩ >>= fun output =>
          .ok (output.text command.pretty) := by
  rw [Command.run]
  cases command.policies with
  | none =>
    simp only [h]
    rfl
  | some path =>
    simp only [h]
    rfl

theorem run_check_stdin (i : Inputs) (s : String) :
    SucceedAlike (Command.run { i with stdin := some s } (.check none))
      (Command.run i (.check (some s))) := by
  have hpiped : Inputs.query { i with stdin := some s } none = .ok (Text.trimEnd s) := rfl
  have hgiven : i.query (some s) = .ok s := rfl
  rw [run_check_of_query hpiped, run_check_of_query hgiven]
  exact (check_alike (parseQuery_trimEnd s)).bind fun _ => .refl _

theorem run_compile_stdin (i : Inputs) (command : CompileCommand) (s : String) :
    SucceedAlike (Command.run { i with stdin := some s } (.compile { command with query := none }))
      (Command.run i (.compile { command with query := some s })) := by
  have hpiped : Inputs.query { i with stdin := some s } none = .ok (Text.trimEnd s) := rfl
  have hgiven : i.query (some s) = .ok s := rfl
  rw [run_compile_of_query hpiped, run_compile_of_query hgiven]
  apply (SucceedAlike.refl _).bind
  intro table
  have hcompile := compile_alike (parseQuery_trimEnd s)
    ⟨s, table, command.specs, ⟨command.maxFilters⟩, command.mode⟩
  exact hcompile.bind fun _ => .refl _

end

/-- A query on standard input means the same as one that is given as an argument. Cutting off the
blanks at the end of a text changes neither whether it is read nor what is read, so that checking
and compiling it succeed with it exactly if they succeed without, and give the same. -/
theorem piped_query_means_same [Pattern.Engine] (s : String) :
    (∃ blanks, s.toList = (Text.trimEnd s).toList ++ blanks ∧
      (∀ c ∈ blanks, Text.isBlank c = true) ∧
      ∀ c ∈ (Text.trimEnd s).toList.getLast?, Text.isBlank c = false) ∧
    SucceedAlike (parseQuery (Text.trimEnd s) 0) (parseQuery s 0) ∧
    SucceedAlike (check (Text.trimEnd s)) (check s) ∧
    (∀ r : Request,
      SucceedAlike (compile { r with query := Text.trimEnd s }) (compile { r with query := s })) ∧
    ∀ i : Inputs,
      SucceedAlike (Command.run { i with stdin := some s } (.check none))
        (Command.run i (.check (some s))) ∧
      ∀ command : CompileCommand,
        SucceedAlike
          (Command.run { i with stdin := some s } (.compile { command with query := none }))
          (Command.run i (.compile { command with query := some s })) := by
  have hparse := parseQuery_trimEnd s
  refine ⟨Text.exists_blanks_trimEnd s, hparse, check_alike hparse, compile_alike hparse, ?_⟩
  intro i
  exact ⟨run_check_stdin i s, fun command => run_compile_stdin i command s⟩

/-- A line end and a wide space behind a query that is piped in do not matter. -/
theorem piped_query_means_same_of_line_end :
    let s := "a : x \u2003\n"
    let i : Inputs := ⟨.error "No file", some s⟩
    let c : Condition := .filter ⟨"a", "default", .string "x"⟩
    parseQuery s 0 = .ok (some c) ∧ Command.run i (.check none) = .ok "Syntax is valid" := by
  intro s i c
  let d : Grammar.QueryTree := .condition ⟨⟨⟨"a", none, .word "x"⟩, []⟩, []⟩
  have htrimmed : parseQuery (Text.trimEnd s) 0 = .ok (some c) := by
    have hsource : Text.trimEnd s = String.ofList (Token.spaced d.tokens) := by decide +kernel
    rw [hsource]
    exact parseQuery_spaced (d := d) (by decide)
  obtain ⟨-, hparse, -, -, hrun⟩ := piped_query_means_same s
  have hs : parseQuery s 0 = .ok (some c) := (hparse _).1 htrimmed
  have hgiven : Command.run i (.check (some s)) = .ok "Syntax is valid" := by
    rw [run_check_of_query rfl, check_of_parseQuery_ok hs]
    rfl
  exact ⟨hs, ((hrun i).1 _).2 hgiven⟩

end Cli

end FilterQuery
