/-
One question, asked at a terminal. What is typed comes in lines (`Text.lines`), and whatever the text is
its bytes are taken line by line (`takeLine_bytesOf`). Each line is accepted or objected to
(`judge_of_accepts`, `judge_of_not_accepts`), so the lines up to the first that is accepted are read, or
all of them if there is none, and what the question gets is what that line or the end of the input means
(`ask_reads_first_accepted`).
-/
import MultiCluster.Answers.Question
import MultiCluster.Proofs.Except
import MultiCluster.Proofs.Text.Utf8
import Mathlib
namespace MultiCluster

/-! ## Lines -/

/-- The lines of a text, each with its newline if it has one. -/
def Text.lines : List Char → List (List Char)
  | [] => []
  | c :: r =>
    if c = '\n' then [c] :: lines r
    else match lines r with
      | [] => [[c]]
      | l :: ls => (c :: l) :: ls

theorem Text.flatten_lines (s : List Char) : (lines s).flatten = s := by
  induction s with
  | nil => rfl
  | cons c s ih =>
    unfold lines
    split
    · rw [List.flatten_cons, ih]
      rfl
    · split
      · rename_i hl
        rw [hl] at ih
        rw [← ih]
        rfl
      · rename_i hl
        rw [hl] at ih
        rw [← ih]
        rfl

open Url (bytesOf bytesOf_append)

namespace Terminal

theorem takeLine_append_of_notMem {a : Bytes} (h : (10 : UInt8) ∉ a) (b : Bytes) :
    takeLine (a ++ b) = (a ++ (takeLine b).1, (takeLine b).2) := by
  induction a with
  | nil => rfl
  | cons x a ih =>
    obtain ⟨hx, ha⟩ := not_or.1 (List.mem_cons.not.1 h)
    rw [List.cons_append, takeLine, if_neg (Ne.symm hx), ih ha]
    rfl

/-- The first line of what is typed is the first line of the text. -/
theorem takeLine_bytesOf (c : Char) (s : List Char) : ∃ line rest, Text.lines (c :: s) = line :: Text.lines rest ∧
    takeLine (bytesOf (c :: s)) = (bytesOf line, bytesOf rest) := by
  induction s generalizing c with
  | nil =>
    refine ⟨[c], [], ?_, ?_⟩
    · unfold Text.lines
      split <;> rfl
    · by_cases hc : c = '\n'
      · subst hc
        rfl
      · rw [Text.bytesOf_cons, takeLine_append_of_notMem (Text.newline_notMem_utf8 hc)]
        rfl
  | cons d s ih =>
    by_cases hc : c = '\n'
    · subst hc
      exact ⟨['\n'], d :: s, rfl, rfl⟩
    · obtain ⟨line, rest, hlines, htake⟩ := ih d
      refine ⟨c :: line, rest, ?_, ?_⟩
      · rw [Text.lines, if_neg hc, hlines]
      · rw [Text.bytesOf_cons, takeLine_append_of_notMem (Text.newline_notMem_utf8 hc), htake, Text.bytesOf_cons]

end Terminal

namespace Question

variable (q : Question)

/-! ## One line -/

/-- There need not be an answer: the question has a default, or it is not required. -/
def Optional : Prop := q.default ≠ "" ∨ q.required = false

/-- The line without the blanks around it. -/
def trimmed (line : List Char) : String := String.ofList (Text.trim line)

/-- A blank line is accepted if there need not be an answer, another text if it is one of the options,
where there are any. -/
def Accepts (t : String) : Prop := t = "" ∧ q.Optional ∨ t ≠ "" ∧ (q.options = [] ∨ t ∈ q.options)

/-- The answer that an accepted line gives. -/
def reply (t : String) : String := if t = "" then q.default else t

def objection (t : String) : String :=
  if t = "" then "A value is required." else "Must be one of: " ++ Text.commaList ", " q.options

theorem fallback?_of_optional (h : q.Optional) : q.fallback? = some q.default := by
  unfold fallback?
  rw [if_pos]
  simpa [Optional] using h

theorem fallback?_of_not_optional (h : ¬ q.Optional) : q.fallback? = none := by
  unfold fallback?
  rw [if_neg]
  simpa [Optional] using h

theorem judge_of_accepts {line : List Char} (h : q.Accepts (trimmed line)) :
    q.judge (String.ofList line) = .ok (q.reply (trimmed line)) := by
  unfold judge reply
  rw [String.toList_ofList]
  unfold trimmed at h ⊢
  generalize String.ofList (Text.trim line) = t at h ⊢
  dsimp only
  rcases h with ⟨rfl, hopt⟩ | ⟨ht, hopt⟩
  · rw [fallback?_of_optional q hopt]
    rfl
  · rw [if_neg (by simpa using ht), if_neg ht, if_neg]
    rintro ⟨hne, hnot⟩
    exact hopt.elim hne hnot

theorem judge_of_not_accepts {line : List Char} (h : ¬ q.Accepts (trimmed line)) :
    q.judge (String.ofList line) = .error (q.objection (trimmed line)) := by
  unfold judge objection
  rw [String.toList_ofList]
  unfold trimmed at h ⊢
  generalize String.ofList (Text.trim line) = t at h ⊢
  dsimp only
  by_cases ht : t = ""
  · subst ht
    have hopt : ¬ q.Optional := fun hopt => h (.inl ⟨rfl, hopt⟩)
    rw [fallback?_of_not_optional q hopt]
    rfl
  · rw [if_neg (by simpa using ht), if_neg ht, if_pos]
    constructor
    · intro hnil
      exact h (.inr ⟨ht, .inl hnil⟩)
    · intro hmem
      exact h (.inr ⟨ht, .inr hmem⟩)

/-! ## Line after line -/

/-- What is shown for lines that are not accepted: the prompt and what is wrong, for each of them. -/
def objections : List (List Char) → String
  | [] => ""
  | l :: ls => q.prompt ++ q.objection (trimmed l) ++ "\n" ++ objections ls

variable {q}

/-- At the end of the input a blank line is meant. -/
theorem askFrom_nil_of_optional (h : q.Optional) (shown : String) :
    q.askFrom [] shown = (.ok q.default, ⟨[], shown ++ q.prompt ++ "\n"⟩) := by
  rw [askFrom, fallback?_of_optional q h]

theorem askFrom_nil_of_not_optional (h : ¬ q.Optional) (shown : String) :
    q.askFrom [] shown = (.error q.unanswered, ⟨[], shown ++ q.prompt ++ "\n"⟩) := by
  rw [askFrom, fallback?_of_not_optional q h]

section Step

variable {s line rest : List Char} (hs : s ≠ []) (htake : Terminal.takeLine (bytesOf s) = (bytesOf line, bytesOf rest))
include hs htake

theorem exists_typed : ∃ b r, bytesOf s = b :: r ∧ Terminal.takeLine (b :: r) = (bytesOf line, bytesOf rest) := by
  cases hb : bytesOf s with
  | nil =>
    have hnil : bytesOf [] = [] := rfl
    exact absurd (Url.bytesOf_injective (hb.trans hnil.symm)) hs
  | cons b r => exact ⟨b, r, rfl, hb ▸ htake⟩

/-- An accepted line is the last that is read. -/
theorem askFrom_accepted (h : q.Accepts (trimmed line)) (shown : String) :
    q.askFrom (bytesOf s) shown = (.ok (q.reply (trimmed line)), ⟨bytesOf rest, shown ++ q.prompt⟩) := by
  obtain ⟨b, r, hb, htake⟩ := exists_typed hs htake
  rw [hb, askFrom, htake]
  simp only [Text.decode?_bytesOf, judge_of_accepts q h]

/-- After any other line the question is asked again. -/
theorem askFrom_objected (h : ¬ q.Accepts (trimmed line)) (shown : String) : q.askFrom (bytesOf s) shown =
    q.askFrom (bytesOf rest) (shown ++ q.prompt ++ q.objection (trimmed line) ++ "\n") := by
  obtain ⟨b, r, hb, htake⟩ := exists_typed hs htake
  rw [hb, askFrom, htake]
  simp only [Text.decode?_bytesOf, judge_of_not_accepts q h]

end Step

theorem askFrom_lines {before after : List (List Char)} {line s : List Char}
    (h : Text.lines s = before ++ line :: after) (hbefore : ∀ l ∈ before, ¬ q.Accepts (trimmed l))
    (hline : q.Accepts (trimmed line)) (shown : String) :
    q.askFrom (bytesOf s) shown =
      (.ok (q.reply (trimmed line)), ⟨bytesOf after.flatten, shown ++ q.objections before ++ q.prompt⟩) := by
  -- on the lines that are objected to; each of them leaves the text behind it as what is typed
  induction before generalizing s shown with
  | nil =>
    cases s with
    | nil => cases h
    | cons c s =>
      obtain ⟨first, rest, hlines, htake⟩ := Terminal.takeLine_bytesOf c s
      rw [hlines] at h
      cases h
      rw [askFrom_accepted (List.cons_ne_nil c s) htake hline, Text.flatten_lines]
      simp [objections]
  | cons l before ih =>
    cases s with
    | nil => cases h
    | cons c s =>
      obtain ⟨first, rest, hlines, htake⟩ := Terminal.takeLine_bytesOf c s
      rw [hlines] at h
      obtain ⟨rfl, hrest⟩ := List.cons.inj h
      obtain ⟨hl, hbefore⟩ := List.forall_mem_cons.1 hbefore
      rw [askFrom_objected (List.cons_ne_nil c s) htake hl, ih hrest hbefore]
      simp [objections, String.append_assoc]

theorem askFrom_none {s : List Char} (h : ∀ l ∈ Text.lines s, ¬ q.Accepts (trimmed l)) (shown : String) :
    q.askFrom (bytesOf s) shown = q.askFrom [] (shown ++ q.objections (Text.lines s)) := by
  generalize hls : Text.lines s = ls at h ⊢
  induction ls generalizing s shown with
  | nil =>
    cases s with
    | nil => simp [objections, bytesOf]
    | cons c s =>
      obtain ⟨first, rest, hlines, -⟩ := Terminal.takeLine_bytesOf c s
      rw [hlines] at hls
      cases hls
  | cons l ls ih =>
    cases s with
    | nil => cases hls
    | cons c s =>
      obtain ⟨first, rest, hlines, htake⟩ := Terminal.takeLine_bytesOf c s
      rw [hlines] at hls
      obtain ⟨rfl, hrest⟩ := List.cons.inj hls
      obtain ⟨hl, hls⟩ := List.forall_mem_cons.1 h
      rw [askFrom_objected (List.cons_ne_nil c s) htake hl, ih _ hrest hls]
      simp [objections, String.append_assoc]

/-- A question, asked of any text: the lines up to the first that is accepted are read, no more and no
less, and the answer is that line's, a blank one standing for the default. Where no line is accepted all
are read, and the answer is the default, or there is none where there has to be one. So what a question
with options gets is an option or its default. -/
theorem ask_reads_first_accepted (q : Question) (text shown : String) :
    (∀ before line after, Text.lines text.toList = before ++ line :: after → (∀ l ∈ before, ¬ q.Accepts (trimmed l)) →
      q.Accepts (trimmed line) → q.ask.run ⟨bytesOf text.toList, shown⟩ =
        (.ok (q.reply (trimmed line)), ⟨bytesOf after.flatten, shown ++ q.objections before ++ q.prompt⟩)) ∧
    ((∀ l ∈ Text.lines text.toList, ¬ q.Accepts (trimmed l)) →
      (q.ask.run ⟨bytesOf text.toList, shown⟩).2 =
        ⟨[], shown ++ q.objections (Text.lines text.toList) ++ q.prompt ++ "\n"⟩ ∧
      (q.Optional → (q.ask.run ⟨bytesOf text.toList, shown⟩).1 = .ok q.default) ∧
      (¬ q.Optional → (q.ask.run ⟨bytesOf text.toList, shown⟩).1 = .error q.unanswered)) ∧
    ∀ answer t, q.ask.run ⟨bytesOf text.toList, shown⟩ = (.ok answer, t) → q.options ≠ [] →
      answer ∈ q.options ∨ answer = q.default := by
  have hfirst : ∀ before line after, Text.lines text.toList = before ++ line :: after →
      (∀ l ∈ before, ¬ q.Accepts (trimmed l)) → q.Accepts (trimmed line) → q.ask.run ⟨bytesOf text.toList, shown⟩ =
        (.ok (q.reply (trimmed line)), ⟨bytesOf after.flatten, shown ++ q.objections before ++ q.prompt⟩) :=
    fun before line after h hbefore hline => askFrom_lines h hbefore hline shown
  have hnone : (∀ l ∈ Text.lines text.toList, ¬ q.Accepts (trimmed l)) → q.ask.run ⟨bytesOf text.toList, shown⟩ =
      q.askFrom [] (shown ++ q.objections (Text.lines text.toList)) := fun h => askFrom_none h shown
  refine ⟨hfirst, ?_, ?_⟩
  · intro h
    rw [hnone h]
    by_cases hopt : q.Optional
    · rw [askFrom_nil_of_optional hopt]
      exact ⟨rfl, fun _ => rfl, absurd hopt⟩
    · rw [askFrom_nil_of_not_optional hopt]
      exact ⟨rfl, fun h => absurd h hopt, fun _ => rfl⟩
  · intro answer t h hoptions
    rcases first_or_forall (fun l => q.Accepts (trimmed l)) (Text.lines text.toList) with hsome | hall
    · obtain ⟨before, line, after, hlines, hbefore, hline⟩ := hsome
      rw [hfirst before line after hlines hbefore hline] at h
      cases h
      unfold reply
      rcases hline with ⟨ht, -⟩ | ⟨ht, hopt⟩
      · rw [if_pos ht]
        exact .inr rfl
      · rw [if_neg ht]
        exact .inl (hopt.resolve_left hoptions)
    · rw [hnone hall] at h
      by_cases hopt : q.Optional
      · rw [askFrom_nil_of_optional hopt] at h
        cases h
        exact .inr rfl
      · rw [askFrom_nil_of_not_optional hopt] at h
        cases h

def deployment : Question := { key := "mode", required := true, options := ["sharded", "single"] }

/-- A blank line and one that is no option are read before the first option, and the line behind it is
not; a required question gets nothing from blank lines. -/
theorem ask_reads_first_accepted_deployment :
    (deployment.ask.run ⟨bytesOf "\ncluster\n single\r\nsharded".toList, ""⟩).1 = .ok "single" ∧
    (deployment.ask.run ⟨bytesOf "\ncluster\n single\r\nsharded".toList, ""⟩).2.input = bytesOf "sharded".toList ∧
    (deployment.ask.run ⟨bytesOf "\n ".toList, ""⟩).1 = .error deployment.unanswered := by
  have hopt : ¬ deployment.Optional := by simp [Optional, deployment]
  have hblank : ∀ {l}, trimmed l = "" → ¬ deployment.Accepts (trimmed l) := by
    intro l hl h
    rw [hl] at h
    rcases h with ⟨-, h⟩ | ⟨h, -⟩
    · exact hopt h
    · exact h rfl
  have hcluster : ¬ deployment.Accepts (trimmed "cluster\n".toList) := by
    rw [show trimmed "cluster\n".toList = "cluster" by cbv]
    simp [Accepts, deployment]
  have hsingle : trimmed " single\r\n".toList = "single" := by cbv
  obtain ⟨hfirst, -⟩ := ask_reads_first_accepted deployment "\ncluster\n single\r\nsharded" ""
  have hrun := hfirst [['\n'], "cluster\n".toList] " single\r\n".toList ["sharded".toList] (by cbv)
    (by simpa using ⟨hblank (by cbv), hcluster⟩) (by rw [hsingle]; simp [Accepts, deployment])
  obtain ⟨-, hnone, -⟩ := ask_reads_first_accepted deployment "\n " ""
  obtain ⟨-, -, hunanswered⟩ := hnone (by
    rw [show Text.lines "\n ".toList = [['\n'], [' ']] by cbv]
    simpa using ⟨hblank (by cbv), hblank (by cbv)⟩)
  refine ⟨?_, ?_, hunanswered hopt⟩
  · rw [hrun, hsingle]
    rfl
  · rw [hrun]
    rfl

end Question

end MultiCluster
