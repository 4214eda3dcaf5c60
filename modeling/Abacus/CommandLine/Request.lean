import Abacus.CommandLine.Argument

/-!
# Requests to the command

Once all arguments are sorted, they are used from left to right, until help is asked for or one
cannot be used. A value may stand in the argument after its option, and options of one letter
without a value may be followed by more letters in the same argument. Stray texts are refused last.
-/

namespace Abacus.CommandLine

/-- What a command asks for. -/
structure Options where
  expression : Option String := none
  showTree : Bool := false
  debug : Bool := false
  deriving DecidableEq, Repr

/-- The outcome of reading the arguments. -/
inductive Request where
  | evaluate (options : Options)
  | help
  | refuse (misuse : Misuse)
  deriving DecidableEq, Repr

/-- What came of an option and the text attached to it. -/
inductive Use where
  | help | showTree | debug
  | evaluate (source : String)
  /-- The value stands in the next argument. -/
  | wantsValue
  /-- Help was asked for, but the value of a later option has to stand in the next argument. -/
  | helpBeforeValue
  | refused (misuse : Misuse)
  deriving DecidableEq, Repr

/-- The use of an option that stands in one argument after one that asks for help. Help wins, unless
something in that argument is refused. -/
def Use.afterHelp : Use → Use
  | .refused misuse => .refused misuse
  | .wantsValue | .helpBeforeValue => .helpBeforeValue
  | _ => .help

/-- The use of an option by itself. -/
def Flag.use : Flag → Use
  | .help => .help
  | .expression => .wantsValue
  | .tree => .showTree
  | .debug => .debug

/-- Uses an option with the text in its own argument. The text is the value of an option that takes
one. After any other option of one dash, each letter has to be such an option as well, up to one
that takes a value. An equals sign or a dash among them is a letter like any other. -/
def Flag.useWith (flag : Flag) (oneDash : Bool) (text : List Char) : Use :=
  if flag = .expression then .evaluate (String.ofList text)
  else if !oneDash then .refused (.unwantedValue flag text)
  else
    match text with
    | [] => .refused (.unwantedValue flag [])
    | letter :: rest =>
      match Flag.ofSpelling? ['-', letter] with
      | none => .refused (.unwantedValue flag (letter :: rest))
      | some next => (if rest.isEmpty then next.use else next.useWith true rest).afterHelp

/-- Uses the arguments from left to right, collecting those that have no use. -/
def useArguments : List Argument → Options → List String → Request
  | [], options, [] => .evaluate options
  | [], _, unused => .refuse (.unrecognized unused)
  | .plain text :: rest, options, unused => useArguments rest options (unused ++ [text])
  | .stray text :: rest, options, unused => useArguments rest options (unused ++ [text])
  | .flag flag oneDash attached :: rest, options, unused =>
    match attached.elim flag.use (flag.useWith oneDash) with
    | .refused misuse => .refuse misuse
    | .help => .help
    | .showTree => useArguments rest { options with showTree := true } unused
    | .debug => useArguments rest { options with debug := true } unused
    | .evaluate source => useArguments rest { options with expression := some source } unused
    | .wantsValue =>
      match rest with
      | .plain source :: after =>
        useArguments after { options with expression := some source } unused
      | _ => .refuse (.missingValue .expression)
    | .helpBeforeValue =>
      match rest with
      | .plain _ :: _ => .help
      | _ => .refuse (.missingValue .expression)

/-- What the arguments of a command ask for. -/
def request (arguments : List String) : Request :=
  match sortArguments arguments with
  | .error misuse => .refuse misuse
  | .ok sorted => useArguments sorted {} []

end Abacus.CommandLine
