import Abacus.Text.Quoted

/-!
# Options of the command

The options, their spellings, why arguments are refused, and what the command says about itself.
-/

namespace Abacus.CommandLine

open Text

/-! ## Options -/

/-- The options. -/
inductive Flag where
  | help | expression | tree | debug
  deriving DecidableEq, Repr

namespace Flag

/-- All spellings of options. -/
def spellings : List (String × Flag) :=
  [("-h", .help), ("--help", .help), ("-c", .expression), ("--tree", .tree), ("--debug", .debug)]

/-- The option with exactly this spelling. -/
def ofSpelling? (text : List Char) : Option Flag :=
  (spellings.find? (fun (spelling, _) => spelling.toList = text)).map Prod.snd

/-- The options with a spelling that starts with the given text, each with that spelling. -/
def startingWith (start : List Char) : List (String × Flag) :=
  spellings.filter fun (spelling, _) => start.isPrefixOf spelling.toList

/-- The name of an option in messages. -/
def label : Flag → String
  | .help => "-h/--help"
  | .expression => "-c"
  | .tree => "--tree"
  | .debug => "--debug"

end Flag

/-! ## Refusals -/

/-- Why the arguments are refused. -/
inductive Misuse where
  /-- An option that takes a value has none. -/
  | missingValue (flag : Flag)
  /-- An option that takes no value has one. -/
  | unwantedValue (flag : Flag) (value : List Char)
  /-- A shortened option could be any of these. -/
  | ambiguous (given : String) (candidates : List String)
  /-- Arguments that were not used. -/
  | unrecognized (arguments : List String)
  deriving DecidableEq, Repr

/-- What is said of arguments that are refused. -/
def Misuse.message : Misuse → String
  | .missingValue flag => "argument " ++ flag.label ++ ": expected one argument"
  | .unwantedValue flag value =>
    "argument " ++ flag.label ++ ": ignored explicit argument "
      ++ String.ofList (Quoted.encode value)
  | .ambiguous given candidates =>
    "ambiguous option: " ++ given ++ " could match " ++ ", ".intercalate candidates
  | .unrecognized arguments => "unrecognized arguments: " ++ " ".intercalate arguments

/-! ## Texts -/

/-- How the command is used. -/
def usage : String :=
  "usage: mono [-h] [-c EXPRESSION] [--tree] [--debug]\n"

/-- The answer to a request for help. -/
def helpText : String :=
  usage ++
    "\n" ++
    "options:\n" ++
    "  -h, --help     show this help message and exit\n" ++
    "  -c EXPRESSION  evaluate and exit\n" ++
    "  --tree         print the parsed tree before its value\n" ++
    "  --debug        trace every evaluation step\n"

/-- The answer to arguments that are refused. -/
def refusalText (misuse : Misuse) : String :=
  usage ++ "mono: error: " ++ misuse.message ++ "\n"

end Abacus.CommandLine
