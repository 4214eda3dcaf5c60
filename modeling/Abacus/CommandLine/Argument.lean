import Abacus.CommandLine.Flag
import Abacus.Text.Numeric

/-!
# Arguments of the command

Each argument is an option, a value of an option or a stray text. An option may be shortened as long
as it is clear which one is meant, and its value may stand in the same argument. An option that
could be two is refused as soon as arguments are sorted.
-/

namespace Abacus.CommandLine

open Text

/-- What an argument is. -/
inductive Argument where
  /-- An option, whether it was spelled with one dash or two, and the text that stands in the same
  argument, without an equals sign that separates the two. -/
  | flag (flag : Flag) (oneDash : Bool) (attached : Option (List Char))
  /-- A text that may be the value of an option. -/
  | plain (text : String)
  /-- A text that looks like an option but is none, or the mark after which there are none. -/
  | stray (text : String)
  deriving DecidableEq, Repr

/-- A dash and decimal digits, with or without a point before the last of them. A line end after
them does not count. -/
def isNegativeNumber (text : List Char) : Bool :=
  match text with
  | '-' :: rest =>
    let digits := if rest.getLast? = some '\n' then rest.dropLast else rest
    match digits.dropWhile isDecimal with
    | [] => !digits.isEmpty
    | '.' :: fraction => !fraction.isEmpty && fraction.all isDecimal
    | _ => false
  | _ => false

/-- Cuts a text at its first equals sign, if it has one. -/
def cutAtEquals (text : List Char) : List Char × Option (List Char) :=
  match text.dropWhile (· != '=') with
  | [] => (text, none)
  | _ :: value => (text.takeWhile (· != '='), some value)

/-- The options that an argument without an exact spelling may stand for. After two dashes a
spelling may be shortened; after one dash a letter may be followed by more text. -/
def candidates (text : List Char) : List (String × Argument) :=
  match text with
  | '-' :: '-' :: _ =>
    let (start, attached) := cutAtEquals text
    (Flag.startingWith start).map fun (spelling, flag) =>
      (spelling, .flag flag false attached)
  | '-' :: letter :: rest =>
    match Flag.ofSpelling? ['-', letter] with
    | some flag => [(String.ofList ['-', letter], .flag flag true (some rest))]
    | none => []
  | _ => []

/-- Whether an option is spelled with one dash. -/
def isOneDash : List Char → Bool
  | '-' :: '-' :: _ => false
  | _ => true

/-- What an argument before the mark that ends options is. -/
def sortArgument (given : String) : Except Misuse Argument :=
  let text := given.toList
  if text.head? ≠ some '-' then .ok (.plain given)
  else
    match Flag.ofSpelling? text with
    | some flag => .ok (.flag flag (isOneDash text) none)
    | none =>
      if text.length = 1 then .ok (.plain given)
      else
        let (spelling, attached) := cutAtEquals text
        match Flag.ofSpelling? spelling, attached with
        | some flag, some value => .ok (.flag flag (isOneDash spelling) (some value))
        | _, _ =>
          match candidates text with
          | [(_, argument)] => .ok argument
          | [] =>
            if isNegativeNumber text || text.contains ' ' then .ok (.plain given)
            else .ok (.stray given)
          | several => .error (.ambiguous given (several.map Prod.fst))

/-- What all arguments are. After two dashes alone there are no options. -/
def sortArguments : List String → Except Misuse (List Argument)
  | [] => .ok []
  | given :: rest =>
    if given = "--" then .ok (.stray given :: rest.map .plain)
    else
      match sortArgument given with
      | .error misuse => .error misuse
      | .ok argument => (sortArguments rest).map (argument :: ·)

end Abacus.CommandLine
