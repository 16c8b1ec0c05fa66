/-
# Help

The help for a grammar: what the program or command is for, how it is called, and its commands, positional values
and options in two columns.
-/

import Calibration.CommandLine.Request

namespace Calibration
namespace CommandLine

/-- An option in the left column. -/
def OptionForm.column (form : OptionForm) : String :=
  let letter := match form.short? with
    | some c => String.ofList ['-', c, ',', ' ']
    | none => "    "
  letter ++ "--" ++ form.long ++ (if form.placeholder = "" then "" else " <" ++ form.placeholder ++ ">")

/-- A positional value in the left column. -/
def Position.column (p : Position) : String :=
  if p.isRepeatable then "[" ++ p.placeholder ++ "]..." else "<" ++ p.placeholder ++ ">"

/-- Rows of two columns below a title; without rows there is no title either. -/
def table (title : String) (rows : List (String × String)) : List String :=
  if rows.isEmpty then []
  else
    let width := rows.foldl (fun w row => max w row.1.length) 0
    "" :: (title ++ ":") :: rows.map fun (left, right) =>
      "  " ++ left ++ String.ofList (List.replicate (width - left.length) ' ') ++ "  " ++ right

/-- The lines of the help for a grammar. -/
def Grammar.help (g : Grammar) (program : String) : List String :=
  let options := if g.options.isEmpty then "" else " [OPTIONS]"
  let command := if g.commands.isEmpty then "" else " <COMMAND>"
  let places := String.join (g.positions.map fun p => " " ++ p.column)
  [g.about, "", "Usage: " ++ program ++ options ++ places ++ command] ++ table "Commands" g.commands ++
    table "Arguments" (g.positions.map fun p => (p.column, p.about)) ++
    table "Options" (g.options.map fun form => (form.column, form.about))

/-- The help for the program or one of its commands. -/
def helpLines : Option String → List String
  | none => mainGrammar.help "lumen"
  | some name => (commandGrammar name).help ("lumen " ++ name)

end CommandLine
end Calibration
