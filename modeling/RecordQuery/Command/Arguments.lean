/-!
# Command lines

The program checks a query or filters documents by it.  The first argument names the
command.  After it come the query and the options in any order: `-i` or `--input` with a
text of documents, and for filtering `-p` or `--pretty`.  The value of an option is the
next argument or is attached, short options without a value can be joined, each option may
stand once, and after `--` every argument is a query.
-/

set_option autoImplicit false

namespace RecordQuery

/-- What the program is asked to do.  Without an input the documents are read from outside. -/
inductive Command where
  | check (query : String) (input? : Option String)
  | filter (query : String) (input? : Option String) (pretty : Bool)
deriving DecidableEq, Repr

namespace Command

/-- The arguments of a command so far. -/
structure Arguments where
  query? : Option String := none
  input? : Option String := none
  pretty : Bool := false
deriving DecidableEq, Repr

namespace Arguments

/-- Adds a query, if there is none yet. -/
def addQuery (arguments : Arguments) (query : String) : Option Arguments :=
  if arguments.query?.isSome then none else some { arguments with query? := some query }

/-- Adds an input, if there is none yet. -/
def addInput (arguments : Arguments) (input : String) : Option Arguments :=
  if arguments.input?.isSome then none else some { arguments with input? := some input }

/-- Asks for pretty output, if that is allowed and was not asked for yet. -/
def addPretty (allowed : Bool) (arguments : Arguments) : Option Arguments :=
  if allowed && !arguments.pretty then some { arguments with pretty := true } else none

/-- The arguments after `--`. -/
def addQueries (arguments : Arguments) (queries : List String) : Option Arguments :=
  queries.foldlM addQuery arguments

end Arguments

/-- The effect of one option: on the arguments, or on the value that follows. -/
inductive OptionEffect where
  | done (arguments : Arguments)
  | needsValue (arguments : Arguments)

/-- Short options joined behind one dash.  What follows an `i` is its value, with or without
an equals sign. -/
def shortOptions (prettyAllowed : Bool) (arguments : Arguments) :
    List Char → Option OptionEffect
  | [] => some (.done arguments)
  | 'p' :: letters => do shortOptions prettyAllowed (← arguments.addPretty prettyAllowed) letters
  | 'i' :: [] => some (.needsValue arguments)
  | 'i' :: '=' :: value => (arguments.addInput (String.ofList value)).map .done
  | 'i' :: value => (arguments.addInput (String.ofList value)).map .done
  | _ => none

/-- A long option, without its two dashes. -/
def longOption (prettyAllowed : Bool) (arguments : Arguments) (option : List Char) :
    Option OptionEffect :=
  if option = "input".toList then some (.needsValue arguments)
  else if option = "pretty".toList then (arguments.addPretty prettyAllowed).map .done
  else if "input=".toList.isPrefixOf option then
    (arguments.addInput (String.ofList (option.drop 6))).map .done
  else none

/-- One argument that is not the value of an option: its effect, or nothing if it is not
allowed. -/
def oneArgument (prettyAllowed : Bool) (arguments : Arguments) (argument : String) :
    Option OptionEffect :=
  match argument.toList with
  | '-' :: '-' :: option => longOption prettyAllowed arguments option
  | '-' :: c :: letters => shortOptions prettyAllowed arguments (c :: letters)
  | _ => (arguments.addQuery argument).map .done

/-- A text that may be the value of an option as an argument of its own. -/
def isValue (argument : String) : Bool :=
  argument = "-" || !"-".toList.isPrefixOf argument.toList

/-- Takes in the arguments behind the name of the command. -/
def readArguments (prettyAllowed : Bool) (arguments : Arguments) :
    List String → Option Arguments
  | [] => some arguments
  | "--" :: queries => arguments.addQueries queries
  | argument :: others =>
    match oneArgument prettyAllowed arguments argument with
    | none => none
    | some (.done arguments) => readArguments prettyAllowed arguments others
    | some (.needsValue arguments) =>
      match others with
      | value :: others =>
        if isValue value then do
          readArguments prettyAllowed (← arguments.addInput value) others
        else none
      | [] => none

/-- The command that a command line asks for. -/
def ofArguments? : List String → Option Command
  | "check" :: arguments => do
    let arguments ← readArguments false {} arguments
    return .check (← arguments.query?) arguments.input?
  | "filter" :: arguments => do
    let arguments ← readArguments true {} arguments
    return .filter (← arguments.query?) arguments.input? arguments.pretty
  | _ => none

end Command

end RecordQuery
