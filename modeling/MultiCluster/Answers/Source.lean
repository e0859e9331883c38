/-
Where answers come from: an answers document, a values document and single settings, each overriding
those before it. An answers document maps keys to single values. A values document may be nested; each
of its single values is an answer under the path that leads to it, as in `image.tag` or `hosts[0]`.
-/
import MultiCluster.Answers.Scoped
import MultiCluster.Command.Fault
import MultiCluster.Files
import MultiCluster.Yaml.Document
namespace MultiCluster

/-- The sources named on a command line: two files and settings `KEY=VALUE`. -/
structure AnswerSources where
  answers : Option String := none
  values : Option String := none
  settings : List String := []
  deriving DecidableEq

namespace AnswerSources

open Yaml (Value)

/-- The text of a single value. Null is an empty text. -/
def scalarText? : Value → Option String
  | .null => some ""
  | .bool b => some (if b then "true" else "false")
  | .number n => some n.render
  | .text s => some s
  | .sequence _ => none
  | .mapping _ => none
  | .tagged _ v => scalarText? v

/-- The text of a key, which is a single value and not empty. -/
def keyText (key : Value) : Except CommandFault String :=
  match (scalarText? key).filter fun k => !k.isEmpty with
  | some k => .ok k
  | none => .error (.invalidArgument ("invalid answer key: " ++ key.shown))

def readDocument (text : String) : Except CommandFault Value :=
  match Value.read? text with
  | some v => .ok v
  | none => .error (.invalidArgument "invalid JSON or YAML")

/-! ## Answers documents -/

def readEntry (e : Value × Value) : Except CommandFault (String × String) := do
  let key ← keyText e.1
  match scalarText? e.2 with
  | some value => return (key, value)
  | none => throw (.invalidArgument ("answer '" ++ key ++ "' must be a single value"))

/-- The entries of an answers document; an empty document has none. -/
def entries : Value → Except CommandFault (List (String × String))
  | .null => .ok []
  | .mapping es => es.mapM readEntry
  | _ => .error (.invalidArgument "answers file must be a map of key to value")

def parseAnswers (text : String) : Except CommandFault FlatAnswers := do
  return Dict.ofList (← entries (← readDocument text))

/-! ## Values documents -/

/-- A step into a value. -/
inductive Step where
  | key (k : String)
  | index (i : Nat)
  deriving DecidableEq

/-- The text of a path: keys with dots between them, positions in brackets. -/
def pathText : List Step → String
  | [] => ""
  | s :: r => first s ++ more r
where
  first : Step → String
    | .key k => k
    | .index i => "[" ++ toString i ++ "]"
  more : List Step → String
    | [] => ""
    | .key k :: r => "." ++ k ++ more r
    | .index i :: r => "[" ++ toString i ++ "]" ++ more r

/-- A single value at the end of a path; it cannot be the whole document. -/
def leaf (path : List Step) (text : String) : Except CommandFault (List (List Step × String)) :=
  if path.isEmpty then .error (.invalidArgument "values file must be a map") else .ok [(path, text)]

mutual
/-- The single values below a path, each with its own path; nulls are left out. -/
def leaves (path : List Step) : Value → Except CommandFault (List (List Step × String))
  | .null => .ok []
  | .bool b => leaf path (if b then "true" else "false")
  | .number n => leaf path n.render
  | .text s => leaf path s
  | .sequence xs => leavesOfItems path 0 xs
  | .mapping es => leavesOfEntries path es
  | .tagged _ v => leaves path v

def leavesOfItems (path : List Step) (i : Nat) : List Value → Except CommandFault (List (List Step × String))
  | [] => .ok []
  | x :: r => do
    let these ← leaves (path ++ [.index i]) x
    return these ++ (← leavesOfItems path (i + 1) r)

def leavesOfEntries (path : List Step) : List (Value × Value) → Except CommandFault (List (List Step × String))
  | [] => .ok []
  | (k, x) :: r => do
    let key ← keyText k
    let these ← leaves (path ++ [.key key]) x
    return these ++ (← leavesOfEntries path r)
end

def flatten (v : Value) : Except CommandFault FlatAnswers := do
  return Dict.ofList ((← leaves [] v).map fun l => (pathText l.1, l.2))

def parseValues (text : String) : Except CommandFault FlatAnswers := do flatten (← readDocument text)

/-! ## Settings -/

/-- Splits a setting at its first equals sign; the key may not be empty. -/
def parseSetting (s : String) : Except CommandFault (String × String) :=
  match Text.cut? '=' s.toList with
  | some (k :: key, value) => .ok (String.ofList (k :: key), String.ofList value)
  | _ => .error (.invalidArgument ("invalid --set '" ++ s ++ "', expected KEY=VALUE"))

/-! ## All sources -/

def readFile (files : Files) (what path : String) : Except CommandFault String :=
  (files.readText path).mapError fun e =>
    .invalidArgument ("failed to read " ++ what ++ " file '" ++ path ++ "': " ++ e.message)

/-- The answers of a file, none where none is named. -/
def fromFile (files : Files) (what : String) (parse : String → Except CommandFault FlatAnswers) :
    Option String → Except CommandFault FlatAnswers
  | none => .ok ∅
  | some path => do parse (← readFile files what path)

/-- The answers of the sources over those of `seed`. -/
def collect (files : Files) (seed : FlatAnswers) (sources : AnswerSources) : Except CommandFault FlatAnswers := do
  let answers ← fromFile files "answers" parseAnswers sources.answers
  let values ← fromFile files "values" parseValues sources.values
  let settings ← sources.settings.mapM parseSetting
  return ((seed.insertMany answers.toList).insertMany values.toList).insertMany settings

end AnswerSources

end MultiCluster
