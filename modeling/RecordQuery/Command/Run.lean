import RecordQuery.Command.Arguments
import RecordQuery.Json.Printer
import RecordQuery.Json.Reader
import RecordQuery.Query.Predicate
import RecordQuery.Record.Document

/-!
# Checking and filtering documents

A text of documents is one JSON document; if that is an array, its items are the documents.
A query is compiled for the type that is inferred from them.  Checking tells the type,
filtering gives the documents that the query holds of.
-/

set_option autoImplicit false

namespace RecordQuery

/-- Why a command fails. -/
inductive CommandFault where
  | query (error : CompileError)
  | documents (fault : Json.Fault)
  | noDocuments

/-- The text of a fault. -/
def CommandFault.message : CommandFault → String
  | .query error => error.report
  | .documents fault => "Invalid JSON: " ++ fault.message
  | .noDocuments => "No input provided. Use --input or pipe JSON to stdin."

/-- What a program leaves: its exit code, its output and its error output. -/
structure Outcome where
  exitCode : Nat
  output : String
  errors : String
deriving DecidableEq, Repr

namespace Command

/-- The documents of a text. -/
def documents (input? : Option String) : Except CommandFault (List Json) := do
  let some input := input? | throw .noDocuments
  match Json.ofText input with
  | .ok (.array items) => return items
  | .ok document => return [document]
  | .error fault => throw (.documents fault)

/-- Compiles a query for the type of some documents. -/
def compileFor (now : DateTime) (query : String) (documents : List Json) :
    Except CommandFault (Predicate Json Json) :=
  (Predicate.compile now (Document.inferSchema documents) query).mapError .query

/-- The type of the documents for which a query is valid. -/
def checkDocuments (now : DateTime) (query : String) (input? : Option String) :
    Except CommandFault (ValueType Json) := do
  let predicate ← compileFor now query (← documents input?)
  return predicate.schema.type

/-- The documents that a query holds of. -/
def filterDocuments (now : DateTime) (query : String) (input? : Option String) :
    Except CommandFault (List Json) := do
  let documents ← documents input?
  let predicate ← compileFor now query documents
  return predicate.filter documents

/-- The line that a command prints.  `piped` is the text of documents from outside. -/
def print (now : DateTime) (piped : Option String) : Command → Except CommandFault String
  | .check query input? => do
    let type ← checkDocuments now query (input? <|> piped)
    return "Query is valid for " ++ type.display
  | .filter query input? pretty => do
    let kept := .array (← filterDocuments now query (input? <|> piped))
    return if pretty then Json.pretty 0 kept else Json.compact kept

/-- Runs a command. -/
def run (now : DateTime) (piped : Option String) (command : Command) : Outcome :=
  match command.print now piped with
  | .ok line => ⟨0, line ++ "\n", ""⟩
  | .error fault => ⟨1, "", fault.message ++ "\n"⟩

/-- What the program says when its command line is not understood. -/
def usage : String :=
  "Usage: rq check QUERY [-i|--input JSON]\n" ++
    "       rq filter QUERY [-i|--input JSON] [-p|--pretty]\n"

/-- Runs the program with a command line. -/
def answer (now : DateTime) (piped : Option String) (arguments : List String) : Outcome :=
  match ofArguments? arguments with
  | some command => command.run now piped
  | none => ⟨2, "", usage⟩

end Command

end RecordQuery
