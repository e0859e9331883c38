/-
What a command line asks for: a command with its arguments, and where and how to run it. Options for
the latter may stand before and behind the command; behind it they count more, and both count more
than the environment.
-/
import MultiCluster.Answers.Source
import MultiCluster.CommandLine.Grammar
import MultiCluster.Report.Listing
namespace MultiCluster

structure InstallRequest where
  template : String
  name : String
  sources : AnswerSources := {}
  version : Option String := none
  /-- Defaults stand for unanswered questions. -/
  noPrompt : Bool := false
  targets : List String := []
  /-- Seconds to wait for the app. -/
  timeout : Nat := 60
  deriving DecidableEq

structure UpgradeRequest where
  app : String
  version : Option String := none
  sources : AnswerSources := {}
  showVersions : Bool := false
  targets : List String := []
  deriving DecidableEq

structure RollbackRequest where
  app : String
  revision : Option String := none
  showRevisions : Bool := false
  deriving DecidableEq

inductive Command where
  | ls (quiet : Bool)
  | delete (apps : List String)
  | install (request : InstallRequest)
  | upgrade (request : UpgradeRequest)
  | rollback (request : RollbackRequest)
  | listTemplates (catalog : Option String)
  | showTemplate (template : String)
  | showApp (app : String)
  deriving DecidableEq

structure Invocation where
  server : Option String := none
  token : Option String := none
  project : Option String := none
  config : Option String := none
  format : Format := .table
  /-- Without a command apps are listed. -/
  command : Option Command := none
  deriving DecidableEq

namespace Invocation

open Grammar (Parameter Need Given Outcome)

/-! ## The grammar -/

/-- The options that stand before or behind a command. -/
def globals : List Parameter :=
  [{ name := "server", short := some 's', variableName := some "MCAPP_SERVER" },
   { name := "token", variableName := some "MCAPP_TOKEN" },
   { name := "project", short := some 'p', variableName := some "MCAPP_PROJECT" },
   { name := "config", short := some 'c', form := .path, variableName := some "MCAPP_CONFIG" },
   { name := "format", short := some 'f', form := .oneOf ["table", "json"] }]

def sourceOptions : List Parameter :=
  [{ name := "answers", short := some 'a', form := .path },
   { name := "values", form := .path },
   { name := "set", arity := .many }]

def target : Parameter := { name := "target", short := some 't', arity := .many }

/-- The commands. -/
inductive Verb where
  | ls
  | delete
  | install
  | upgrade
  | rollback
  | listTemplates
  | showTemplate
  | showApp
  | help
  deriving DecidableEq

/-- The commands by their names. -/
def verbs : List (String × Verb) :=
  [("ls", .ls), ("delete", .delete), ("install", .install), ("upgrade", .upgrade), ("rollback", .rollback),
   ("list-templates", .listTemplates), ("lt", .listTemplates), ("show-template", .showTemplate),
   ("st", .showTemplate), ("show-app", .showApp), ("sa", .showApp), ("help", .help)]

def top : Grammar := { options := globals, commands := verbs.map Prod.fst, hasVersion := true }

def always (name : String) : Parameter × Need := ({ name }, .always)

def Verb.grammar : Verb → Grammar
  | ls => { options := globals ++ [{ name := "quiet", short := some 'q', arity := .flag }] }
  | delete => { options := globals, positions := [({ name := "apps", arity := .many }, .always)] }
  | install =>
    { options := globals ++ sourceOptions ++
        [{ name := "version" }, { name := "no-prompt", arity := .flag }, target,
          { name := "timeout", form := .natural }]
      positions := [always "template", always "name"] }
  | upgrade =>
    { options := globals ++ sourceOptions ++ [{ name := "show-versions", short := some 'v', arity := .flag }, target]
      positions := [always "app", ({ name := "version" }, .unless "show-versions")] }
  | rollback =>
    { options := globals ++ [{ name := "show-revisions", short := some 'r', arity := .flag }]
      positions := [always "app", ({ name := "revision" }, .unless "show-revisions")] }
  | listTemplates => { options := globals ++ [{ name := "catalog" }] }
  | showTemplate => { options := globals, positions := [always "template"] }
  | showApp => { options := globals, positions := [always "app"] }
  | help => {}

/-! ## Reading -/

def value? (g : Given) (name : String) : Option String := (g.find? fun p => p.1 == name).map Prod.snd

def value (g : Given) (name : String) : String := (value? g name).getD ""

def values (g : Given) (name : String) : List String := (g.filter fun p => p.1 == name).map Prod.snd

def isGiven (g : Given) (name : String) : Bool := g.any fun p => p.1 == name

def sourcesOf (g : Given) : AnswerSources := ⟨value? g "answers", value? g "values", values g "set"⟩

/-- The command of a verb with the arguments given. -/
def Verb.command? (g : Given) : Verb → Option Command
  | ls => some (.ls (isGiven g "quiet"))
  | delete => some (.delete (values g "apps"))
  | install => some (.install {
      template := value g "template", name := value g "name", sources := sourcesOf g, version := value? g "version",
      noPrompt := isGiven g "no-prompt", targets := values g "target",
      timeout := ((value? g "timeout").bind Grammar.natural?).getD 60 })
  | upgrade => some (.upgrade {
      app := value g "app", version := value? g "version", sources := sourcesOf g,
      showVersions := isGiven g "show-versions", targets := values g "target" })
  | rollback => some (.rollback {
      app := value g "app", revision := value? g "revision", showRevisions := isGiven g "show-revisions" })
  | listTemplates => some (.listTemplates (value? g "catalog"))
  | showTemplate => some (.showTemplate (value g "template"))
  | showApp => some (.showApp (value g "app"))
  | help => none

/-- What the help command says about the words behind it. -/
def helpOn : List String → UsageFault
  | [] => .displayHelp
  | [name] => if (verbs.lookup name).isSome then .displayHelp else .invalidSubcommand
  | _ => .invalidSubcommand

/-- The value of a global option: from behind the command, from before it, from the environment. -/
def global? (outer inner : Outcome) (name : String) : Option String :=
  (value? inner.given name).or ((value? outer.given name).or
    ((value? inner.environment name).or (value? outer.environment name)))

def ofOutcomes (outer inner : Outcome) (command : Option Command) : Invocation where
  server := global? outer inner "server"
  token := global? outer inner "token"
  project := global? outer inner "project"
  config := global? outer inner "config"
  format := if global? outer inner "format" = some "json" then .json else .table
  command

/-- Reads the words of a command line. -/
def parse (environment : Dict String) (words : List String) : Except UsageFault Invocation := do
  match ← top.read words {} with
  | (r, none) =>
    let outer ← top.finish environment r
    return ofOutcomes outer ⟨[], []⟩ none
  | (r, some (name, rest)) =>
    match verbs.lookup name with
    | none => throw .invalidSubcommand
    | some .help => throw (helpOn rest)
    | some verb =>
      -- faults behind the command count before those of the options in front of it
      let (r', _) ← verb.grammar.read rest {}
      let inner ← verb.grammar.finish environment r'
      let outer ← top.finish environment r
      return ofOutcomes outer inner (verb.command? inner.given)

end Invocation

end MultiCluster
