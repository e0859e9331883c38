/-
The grammar of command lines: options with a long and maybe a short name, and positions. An option's
value stands behind an equals sign, right behind a short name, or in the next word; short names may be
joined in one word; behind `--` every word is at a position. A value is checked when its option is
complete, which is when the next option or position begins or the words end.
-/
import MultiCluster.Dict
import MultiCluster.Text.Cut
namespace MultiCluster

/-- Why a command line is not obeyed. The last two are requests. -/
inductive UsageFault where
  | unknownArgument
  | missingRequiredArgument
  | invalidValue
  | valueValidation
  | argumentConflict
  | tooManyValues
  | invalidSubcommand
  | displayHelp
  | displayVersion
  deriving DecidableEq

namespace UsageFault

def exitCode : UsageFault → Nat
  | displayHelp => 0
  | displayVersion => 0
  | _ => 2

end UsageFault

namespace Grammar

/-- What may be given as a value. -/
inductive Form where
  | text
  /-- A file's path; it is not empty. -/
  | path
  /-- A natural number of 64 bits. -/
  | natural
  | oneOf (words : List String)

/-- How often an option or a position may be given, and whether with a value. -/
inductive Arity where
  | flag
  | once
  | many
  deriving DecidableEq

/-- An option or a position. -/
structure Parameter where
  name : String
  short : Option Char := none
  arity : Arity := .once
  form : Form := .text
  /-- The environment variable that stands in for it. -/
  variableName : Option String := none

/-- When a position has to be filled. -/
inductive Need where
  | always
  | unless (flag : String)

end Grammar

open Grammar in
structure Grammar where
  options : List Parameter := []
  positions : List (Parameter × Need) := []
  /-- The commands that may follow, by all their names. -/
  commands : List String := []
  hasVersion : Bool := false

namespace Grammar

def maxNatural : Nat := Nat.pow 2 64 - 1

/-- The natural number that digits write, with or without a plus sign. -/
def natural? (s : String) : Option Nat :=
  let digits := match s.toList with
    | '+' :: r => r
    | r => r
  if digits.isEmpty ∨ ¬ digits.all fun c => '0' ≤ c && c ≤ '9' then none
  else (some (digits.foldl (fun v c => v * 10 + (c.toNat - 48)) 0)).filter (· ≤ maxNatural)

def Form.check (form : Form) (value : String) : Except UsageFault Unit :=
  match form with
  | .text => .ok ()
  | .path => if value.isEmpty then .error .invalidValue else .ok ()
  | .natural => if (natural? value).isSome then .ok () else .error .valueValidation
  | .oneOf words => if value ∈ words then .ok () else .error .invalidValue

/-- What was read: names with their values in order, a flag's value being empty. -/
abbrev Given := List (String × String)

structure Reading where
  given : Given := []
  /-- The option or position that is not complete, with the values it has. -/
  pending : Option (Parameter × List String) := none
  /-- Positions filled. -/
  position : Nat := 0
  /-- Behind `--`. -/
  trailing : Bool := false

namespace Reading

def has (r : Reading) (name : String) : Bool := r.given.any fun g => g.1 == name

/-- The option before has no value yet. -/
def awaiting (r : Reading) : Bool :=
  match r.pending with
  | some (_, []) => true
  | _ => false

def checkAll (p : Parameter) : List String → Except UsageFault Unit
  | [] => .ok ()
  | v :: vs => do
    p.form.check v
    checkAll p vs

/-- Enters a complete option or position. -/
def enter (p : Parameter) (values : List String) (r : Reading) : Except UsageFault Reading := do
  match p.arity with
  | .flag =>
    if r.has p.name then throw .argumentConflict
    return { r with given := r.given ++ [(p.name, "")] }
  | .once =>
    if values.isEmpty then throw .invalidValue
    if r.has p.name then throw .argumentConflict
    checkAll p values
    return { r with given := r.given ++ values.map fun v => (p.name, v) }
  | .many =>
    if values.isEmpty then throw .invalidValue
    checkAll p values
    return { r with given := r.given ++ values.map fun v => (p.name, v) }

/-- Completes what is pending. -/
def settle (r : Reading) : Except UsageFault Reading :=
  match r.pending with
  | none => .ok r
  | some (p, values) => enter p values { r with pending := none }

/-- Takes an option that wants a value, with the one attached to it if there is one. -/
def take (p : Parameter) (attached : Option String) (r : Reading) : Except UsageFault Reading := do
  let r ← r.settle
  match attached with
  | some v => enter p [v] r
  | none => return { r with pending := some (p, []) }

def takeFlag (p : Parameter) (r : Reading) : Except UsageFault Reading := do enter p [] (← r.settle)

/-- Takes a word at a position. -/
def takeWord (p : Parameter) (word : String) (r : Reading) : Except UsageFault Reading := do
  match p.arity, r.pending with
  | .many, some (q, values) =>
    if q.name = p.name then return { r with pending := some (q, values ++ [word]) }
    return { ← r.settle with pending := some (p, [word]) }
  | .many, none => return { r with pending := some (p, [word]) }
  | _, _ => return { ← r.settle with pending := some (p, [word]), position := r.position + 1 }

end Reading

/-- A word by its looks. -/
inductive Word where
  | escape
  | long (name : String) (value : Option String)
  | short (names : List Char)
  | plain

def Word.ofChars : List Char → Word
  | ['-', '-'] => .escape
  | '-' :: '-' :: r =>
    match Text.cut? '=' r with
    | some (name, value) => .long (String.ofList name) (some (String.ofList value))
    | none => .long (String.ofList r) none
  | ['-'] => .plain
  | '-' :: r => .short r
  | _ => .plain

/-- The request for help or for the version, made when all before it is in order. -/
def request (fault : UsageFault) (r : Reading) : Except UsageFault Reading := do
  let _ ← r.settle
  throw fault

def readLong (g : Grammar) (name : String) (value : Option String) (r : Reading) : Except UsageFault Reading :=
  match g.options.find? fun p => p.name == name with
  | some p =>
    match p.arity, value with
    | .flag, some _ => .error .tooManyValues
    | .flag, none => r.takeFlag p
    | _, v => r.take p v
  | none =>
    if name = "help" ∨ (name = "version" ∧ g.hasVersion) then
      if value.isSome then .error .tooManyValues
      else request (if name = "help" then .displayHelp else .displayVersion) r
    else .error .unknownArgument

/-- Reads the short names joined in a word. -/
def readShort (g : Grammar) : List Char → Reading → Except UsageFault Reading
  | [], r => .ok r
  | c :: rest, r =>
    match g.options.find? fun p => p.short == some c with
    | some p =>
      if p.arity = .flag then
        match r.takeFlag p with
        | .ok r => readShort g rest r
        | .error e => .error e
      else r.take p (match rest with
        | [] => none
        | '=' :: v => some (String.ofList v)
        | v => some (String.ofList v))
    | none =>
      if c = 'h' then request .displayHelp r
      else if c = 'V' ∧ g.hasVersion then request .displayVersion r
      else .error .unknownArgument

def readPosition (g : Grammar) (word : String) (r : Reading) : Except UsageFault Reading :=
  match g.positions[r.position]? with
  | some (p, _) => r.takeWord p word
  | none =>
    -- behind the escape a command's name is a stray argument
    if g.commands.isEmpty ∨ (r.trailing ∧ word ∈ g.commands) then .error .unknownArgument
    else .error .invalidSubcommand

def readWord (g : Grammar) (word : String) (r : Reading) : Except UsageFault Reading :=
  if r.trailing then readPosition g word r
  else match Word.ofChars word.toList with
    | .escape => .ok { r with trailing := true }
    | .long name value => readLong g name value r
    | .short names => readShort g names r
    | .plain =>
      match r.pending with
      | some (p, []) => .ok { r with pending := some (p, [word]) }
      | _ => readPosition g word r

/-- Reads the words up to a command, which is given with the words behind it. -/
def read (g : Grammar) : List String → Reading → Except UsageFault (Reading × Option (String × List String))
  | [], r => .ok (r, none)
  | w :: ws, r =>
    -- a word that an option waits for is its value, even if a command has that name
    if ¬ r.trailing ∧ ¬ r.awaiting ∧ w ∈ g.commands then .ok (r, some (w, ws))
    else match readWord g w r with
      | .ok r => read g ws r
      | .error e => .error e

/-- The values that the environment gives for options that the words do not give. -/
def fromEnvironment (environment : Dict String) (r : Reading) : List Parameter → Except UsageFault Given
  | [] => .ok []
  | p :: ps => do
    let rest := fromEnvironment environment r ps
    match p.variableName.bind environment.get? with
    | some v =>
      -- where the words give a value, that of the environment is not judged
      if r.has p.name then rest
      else do
        p.form.check v
        return (p.name, v) :: (← rest)
    | none => rest

def Need.isMet (need : Need) (p : Parameter) (r : Reading) : Bool :=
  r.has p.name ||
  match need with
  | .always => false
  | .unless flag => r.has flag

/-- What the words give, and what the environment gives beside them. -/
structure Outcome where
  given : Given
  environment : Given

def finish (g : Grammar) (environment : Dict String) (r : Reading) : Except UsageFault Outcome := do
  let r ← r.settle
  let fromEnv ← fromEnvironment environment r g.options
  if g.positions.all fun p => p.2.isMet p.1 r then return ⟨r.given, fromEnv⟩
  else throw .missingRequiredArgument

end Grammar

end MultiCluster
