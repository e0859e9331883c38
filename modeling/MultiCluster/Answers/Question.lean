/-
Asking a template's questions. A question is asked line by line until a line is acceptable: a blank
line where the question has a default or may stay open, or a text that is one of its options if it has
any. Questions that are answered already are not asked.
-/
import MultiCluster.Answers.Scoped
import MultiCluster.Command.Fault
import MultiCluster.Files
namespace MultiCluster

/-- What is typed and not read yet, and what was shown. -/
structure Terminal where
  input : Bytes := []
  shown : String := ""

namespace Terminal

/-- The first line, with its newline if it has one, and the lines behind it. -/
def takeLine : Bytes → Bytes × Bytes
  | [] => ([], [])
  | b :: r => if b = 10 then ([b], r) else (b :: (takeLine r).1, (takeLine r).2)

theorem takeLine_append (bs : Bytes) : (takeLine bs).1 ++ (takeLine bs).2 = bs := by
  induction bs with
  | nil => rfl
  | cons b r ih => by_cases h : b = 10 <;> simp [takeLine, h, ih]

/-- Taking a line makes progress. -/
theorem length_takeLine_lt (b : UInt8) (r : Bytes) : (takeLine (b :: r)).2.length < (b :: r).length := by
  have h := congrArg List.length (takeLine_append (b :: r))
  have : 0 < (takeLine (b :: r)).1.length := by
    unfold takeLine
    split <;> simp
  simp only [List.length_append] at h
  omega

end Terminal

namespace Question

/-- The text before the colon: label and key, type, options and default, where there are any. -/
def title (q : Question) : String :=
  (if q.label.isEmpty then q.key else q.label ++ " (" ++ q.key ++ ")") ++
  (if q.type.isEmpty then "" else " [" ++ q.type ++ "]") ++
  (if q.options.isEmpty then "" else " \x7b" ++ Text.commaList "|" q.options ++ "\x7d") ++
  (if q.default.isEmpty then "" else " (default: " ++ q.default ++ ")")

def prompt (q : Question) : String :=
  (if q.description.isEmpty then "" else q.description ++ "\n") ++ q.title ++ ": "

/-- What a blank line means; a required question without a default has to be answered. -/
def fallback? (q : Question) : Option String :=
  if q.default ≠ "" ∨ ¬ q.required then some q.default else none

/-- The answer that a line gives, or the complaint about it. -/
def judge (q : Question) (line : String) : Except String String :=
  let text := String.ofList (Text.trim line.toList)
  if text.isEmpty then
    match q.fallback? with
    | some d => .ok d
    | none => .error "A value is required."
  else if q.options ≠ [] ∧ text ∉ q.options then .error ("Must be one of: " ++ Text.commaList ", " q.options)
  else .ok text

def unanswered (q : Question) : CommandFault :=
  .invalidArgument ("no answer given for required question '" ++ q.key ++ "'")

/-- Asks until a line is acceptable or the input ends, where a blank line is meant. -/
def askFrom (q : Question) (input : Bytes) (shown : String) : Except CommandFault String × Terminal :=
  match input with
  | [] =>
    match q.fallback? with
    | some d => (.ok d, ⟨[], shown ++ q.prompt ++ "\n"⟩)
    | none => (.error q.unanswered, ⟨[], shown ++ q.prompt ++ "\n"⟩)
  | b :: r =>
    match Text.decode? (Terminal.takeLine (b :: r)).1 with
    | none => (.error (.io ReadFault.notText.message), ⟨(Terminal.takeLine (b :: r)).2, shown ++ q.prompt⟩)
    | some line =>
      match q.judge line with
      | .ok answer => (.ok answer, ⟨(Terminal.takeLine (b :: r)).2, shown ++ q.prompt⟩)
      | .error complaint =>
        askFrom q (Terminal.takeLine (b :: r)).2 (shown ++ q.prompt ++ complaint ++ "\n")
termination_by input.length
decreasing_by exact Terminal.length_takeLine_lt b r

def ask (q : Question) : Attempt CommandFault Terminal String := fun t => q.askFrom t.input t.shown

end Question

/-- Answers in the making, at a terminal. -/
structure Interview where
  terminal : Terminal := {}
  answers : FlatAnswers := ∅

namespace Interview

/-- The value for an open question: asked for, or its default where nobody can be asked. -/
def value (prompting : Bool) (q : Question) : Attempt CommandFault Interview String :=
  if prompting then q.ask.within Interview.terminal fun t i => { i with terminal := t }
  else return q.default

/-- Answers one question if it is open. An empty value leaves it so. -/
def answer (prompting : Bool) (q : Question) : Attempt CommandFault Interview Unit := do
  if q.key.isEmpty || (← Attempt.get).answers.contains q.key then return ()
  else
    let v ← value prompting q
    if v.isEmpty then return ()
    else Attempt.modify fun i => { i with answers := i.answers.insert q.key v }

def answerAll (prompting : Bool) : List Question → Attempt CommandFault Interview Unit
  | [] => return ()
  | q :: r => do
    answer prompting q
    answerAll prompting r

end Interview

end MultiCluster
