/-
Interviews. A question is asked only if it is open, and what it gets goes under its own key
(`run_answer_of_ok`). So an interview adds to the answers and takes none away (`Fills`), and one that
fails leaves what it had when it came to the question that failed (`run_answerAll_eq_error`). With nobody
to ask, the open questions get their defaults (`run_answerAll_unprompted`); out of blank lines they get
the same, as long as none of them has to be answered and has no default (`run_answerAll_blank`).
-/
import MultiCluster.Proofs.Answers.Prompting
import MultiCluster.Proofs.Keeps
import Mathlib
namespace MultiCluster

/-- The second map has all that the first one has. -/
def FlatAnswers.Within (flat flat' : FlatAnswers) : Prop := ∀ k v, flat.get? k = some v → flat'.get? k = some v

namespace Interview

open Question (trimmed)
open Url (bytesOf)

/-- A question that is asked: it has a key, and there is no answer under it yet. -/
def Open (q : Question) (answers : FlatAnswers) : Prop := q.key ≠ "" ∧ answers.get? q.key = none

instance (q : Question) (answers : FlatAnswers) : Decidable (Open q answers) := inferInstanceAs (Decidable (_ ∧ _))

/-- The answers with a value under a key; an empty value adds nothing. -/
def put (answers : FlatAnswers) (key value : String) : FlatAnswers :=
  if value = "" then answers else answers.insert key value

theorem get?_put (answers : FlatAnswers) (key value k : String) :
    (put answers key value).get? k = if key = k ∧ value ≠ "" then some value else answers.get? k := by
  unfold put
  by_cases hv : value = "" <;> simp [hv, Dict.get?_insert]

/-! ## One question -/

section Single

variable {prompting : Bool} {q : Question} {i j : Interview}

theorem open_iff (q : Question) (answers : FlatAnswers) :
    Open q answers ↔ ¬ (q.key.isEmpty || answers.contains q.key) = true := by
  simp [Open, Dict.contains]

theorem answers_value (prompting : Bool) (q : Question) (i : Interview) :
    ((value prompting q).run i).2.answers = i.answers := by
  unfold value
  split <;> rfl

theorem run_answer_of_not_open (h : ¬ Open q i.answers) : (answer prompting q).run i = (.ok (), i) := by
  rw [open_iff, not_not] at h
  unfold answer
  rw [Attempt.run_bind_ok (Attempt.run_get i), if_pos h]
  rfl

section IsOpen

variable (h : Open q i.answers)
include h

theorem run_answer_of_ok {v : String} (hv : (value prompting q).run i = (.ok v, j)) :
    (answer prompting q).run i = (.ok (), { j with answers := put i.answers q.key v }) := by
  have hj := answers_value prompting q i
  rw [hv] at hj
  rw [open_iff] at h
  unfold answer put
  rw [Attempt.run_bind_ok (Attempt.run_get i), if_neg h, Attempt.run_bind_ok hv, ← hj]
  by_cases hempty : v = "" <;> simp [hempty]

theorem run_answer_of_error {e : CommandFault} (hv : (value prompting q).run i = (.error e, j)) :
    (answer prompting q).run i = (.error e, j) := by
  rw [open_iff] at h
  unfold answer
  rw [Attempt.run_bind_ok (Attempt.run_get i), if_neg h, Attempt.run_bind_error hv]

end IsOpen

/-! ## What is added -/

/-- The later answers are the earlier ones and others, none of them empty, that are under keys of the
questions. -/
structure Fills (questions : List Question) (a b : FlatAnswers) : Prop where
  within : a.Within b
  added : ∀ k v, b.get? k = some v → a.get? k = none → v ≠ "" ∧ k ≠ "" ∧ ∃ q ∈ questions, q.key = k

instance (questions : List Question) : IsPreorder FlatAnswers (Fills questions) where
  refl _ := ⟨fun _ _ h => h, fun _ _ h hn => by simp [hn] at h⟩
  trans a b c h h' := by
    refine ⟨fun k v hk => h'.within k v (h.within k v hk), fun k v hk hn => ?_⟩
    cases hb : b.get? k with
    | none => exact h'.added k v hk hb
    | some w =>
      obtain rfl : w = v := Option.some.inj ((h'.within k w hb).symm.trans hk)
      exact h.added k w hb hn

theorem fills_put {questions : List Question} {a : FlatAnswers} (hq : q ∈ questions) (h : Open q a) (v : String) :
    Fills questions a (put a q.key v) := by
  constructor
  · intro k w hk
    rw [get?_put, if_neg, hk]
    rintro ⟨rfl, -⟩
    simp [h.2] at hk
  · intro k w hk hn
    rw [get?_put] at hk
    split at hk
    · rename_i hput
      obtain ⟨rfl, hv⟩ := hput
      cases hk
      exact ⟨hv, h.1, q, hq, rfl⟩
    · simp [hn] at hk

theorem fills_answer {questions : List Question} (hq : q ∈ questions) :
    (answer prompting q).Keeps answers (Fills questions) := by
  intro i
  by_cases h : Open q i.answers
  · have hanswers := answers_value prompting q i
    rcases hv : (value prompting q).run i with ⟨e | v, j⟩
    · rw [hv] at hanswers
      rw [run_answer_of_error h hv, show j.answers = i.answers from hanswers]
      exact Std.Refl.refl _
    · rw [run_answer_of_ok h hv]
      exact fills_put hq h v
  · rw [run_answer_of_not_open h]
    exact Std.Refl.refl _

end Single

theorem fills_answerAll (prompting : Bool) (questions : List Question) :
    (answerAll prompting questions).Keeps answers (Fills questions) := by
  -- the questions that are left are among those of the whole interview
  suffices h : ∀ asked : List Question, (∀ q ∈ asked, q ∈ questions) →
      (answerAll prompting asked).Keeps answers (Fills questions) from h questions fun _ hq => hq
  intro asked hasked
  induction asked with
  | nil => exact .pure _
  | cons q asked ih =>
    obtain ⟨hq, hrest⟩ := List.forall_mem_cons.1 hasked
    exact (fills_answer hq).bind fun _ => ih hrest

theorem within_answerAll (prompting : Bool) (questions : List Question) (i : Interview) :
    i.answers.Within ((answerAll prompting questions).run i).2.answers :=
  (fills_answerAll prompting questions i).within

/-! ## Where an interview fails -/

theorem run_answer_eq_error {prompting : Bool} {q : Question} {i j : Interview} {e : CommandFault}
    (h : (answer prompting q).run i = (.error e, j)) :
    prompting = true ∧ Open q i.answers ∧ q.ask.run i.terminal = (.error e, j.terminal) ∧ j.answers = i.answers := by
  by_cases hopen : Open q i.answers
  · rcases hv : (value prompting q).run i with ⟨e' | v, j'⟩
    · rw [run_answer_of_error hopen hv] at h
      cases h
      cases prompting with
      | false => cases hv
      | true =>
        have hask : (value true q).run i =
            ((q.ask.run i.terminal).1, { i with terminal := (q.ask.run i.terminal).2 }) := rfl
        obtain ⟨hresult, rfl⟩ := Prod.mk.inj (hask.symm.trans hv)
        exact ⟨rfl, hopen, Prod.ext hresult rfl, rfl⟩
    · rw [run_answer_of_ok hopen hv] at h
      cases h
  · rw [run_answer_of_not_open hopen] at h
    cases h

/-- An interview that fails has come to a question that was open and was not answered, and has the answers
up to it. -/
theorem run_answerAll_eq_error {prompting : Bool} {questions : List Question} {i j : Interview} {e : CommandFault}
    (h : (answerAll prompting questions).run i = (.error e, j)) :
    ∃ before q after m, questions = before ++ q :: after ∧ (answerAll prompting before).run i = (.ok (), m) ∧
      prompting = true ∧ Open q m.answers ∧ q.ask.run m.terminal = (.error e, j.terminal) ∧ j.answers = m.answers := by
  induction questions generalizing i with
  | nil => cases h
  | cons q questions ih =>
    rw [answerAll, Attempt.run_bind] at h
    rcases hq : (answer prompting q).run i with ⟨e' | u, m⟩ <;> rw [hq] at h
    · cases h
      exact ⟨[], q, questions, i, rfl, rfl, run_answer_eq_error hq⟩
    · obtain ⟨before, q', after, m', rfl, hbefore, hfailed⟩ := ih h
      refine ⟨q :: before, q', after, m', rfl, ?_, hfailed⟩
      rw [answerAll, Attempt.run_bind_ok hq, hbefore]

/-! ## Nobody to ask -/

/-- The answers with the default of a question, if it is open. -/
def withDefault (q : Question) (answers : FlatAnswers) : FlatAnswers :=
  if Open q answers then put answers q.key q.default else answers

/-- The answers with the defaults of the questions that are open, one question after the other. -/
def withDefaults : List Question → FlatAnswers → FlatAnswers
  | [], answers => answers
  | q :: r, answers => withDefaults r (withDefault q answers)

theorem run_answerAll_unprompted (questions : List Question) (i : Interview) :
    (answerAll false questions).run i = (.ok (), { i with answers := withDefaults questions i.answers }) := by
  induction questions generalizing i with
  | nil => rfl
  | cons q questions ih =>
    rw [answerAll, withDefaults, withDefault]
    by_cases h : Open q i.answers
    · rw [Attempt.run_bind_ok (run_answer_of_ok h rfl), ih, if_pos h]
    · rw [Attempt.run_bind_ok (run_answer_of_not_open h), ih, if_neg h]

/-- The question has a default for this key. -/
def Offers (k : String) (q : Question) : Prop := q.key = k ∧ q.default ≠ ""

theorem get?_withDefault (q : Question) (answers : FlatAnswers) (k v : String) :
    (withDefault q answers).get? k = some v ↔
      answers.get? k = some v ∨ answers.get? k = none ∧ k ≠ "" ∧ Offers k q ∧ q.default = v := by
  unfold withDefault
  split
  · rename_i h
    rw [get?_put]
    split
    · rename_i hput
      obtain ⟨rfl, hv⟩ := hput
      simp [h.2, h.1, hv, Offers]
    · rename_i hput
      simp [Offers, hput]
  · rename_i h
    have hno : ¬ (answers.get? k = none ∧ k ≠ "" ∧ Offers k q ∧ q.default = v) := by
      rintro ⟨hnone, hne, ⟨rfl, -⟩, -⟩
      exact h ⟨hne, hnone⟩
    simp [hno]

/-- A key gets the first default that a question offers for it, where it has no answer yet. -/
theorem get?_withDefaults (questions : List Question) (answers : FlatAnswers) (k v : String) :
    (withDefaults questions answers).get? k = some v ↔ answers.get? k = some v ∨ answers.get? k = none ∧ k ≠ "" ∧
      First (fun q => ¬ Offers k q) (fun q => Offers k q ∧ q.default = v) questions := by
  induction questions generalizing answers with
  | nil => simp [withDefaults, not_first_nil]
  | cons q questions ih =>
    have hstep := get?_withDefault q answers k
    rw [withDefaults, ih, hstep, first_cons]
    cases hk : answers.get? k with
    | some w =>
      have hw : (withDefault q answers).get? k = some w := (hstep w).2 (.inl hk)
      simp [hw]
    | none =>
      by_cases hq : k ≠ "" ∧ Offers k q
      · have hw : (withDefault q answers).get? k = some q.default := (hstep _).2 (.inr ⟨hk, hq.1, hq.2, rfl⟩)
        simp [hw, hq]
      · have hw : (withDefault q answers).get? k = none := by
          refine Option.eq_none_iff_forall_ne_some.2 fun w hw => ?_
          rcases (hstep w).1 hw with h | ⟨-, hne, hoffers, -⟩
          · simp [hk] at h
          · exact hq ⟨hne, hoffers⟩
        simp only [hw, true_and]
        grind

/-! ## Blank lines -/

/-- All lines are blank. -/
def Blank (s : List Char) : Prop := ∀ l ∈ Text.lines s, trimmed l = ""

/-- From blank lines a question that need not be answered gets its default, and takes at most one line. -/
theorem run_ask_blank {q : Question} (h : q.Optional) {s : List Char} (hs : Blank s) (shown : String) :
    ∃ rest shown', Blank rest ∧ q.ask.run ⟨bytesOf s, shown⟩ = (.ok q.default, ⟨bytesOf rest, shown'⟩) := by
  cases s with
  | nil => exact ⟨[], _, hs, Question.askFrom_nil_of_optional h shown⟩
  | cons c s =>
    obtain ⟨line, rest, hlines, htake⟩ := Terminal.takeLine_bytesOf c s
    unfold Blank at hs
    rw [hlines] at hs
    obtain ⟨hline, hrest⟩ := List.forall_mem_cons.1 hs
    have haccepts : q.Accepts (trimmed line) := .inl ⟨hline, h⟩
    have hrun := Question.askFrom_accepted (List.cons_ne_nil c s) htake haccepts shown
    rw [hline] at hrun
    exact ⟨rest, _, hrest, hrun⟩

theorem run_answerAll_blank {questions : List Question} {answers : FlatAnswers} {s : List Char} (hs : Blank s)
    (h : ∀ q ∈ questions, answers.get? q.key = none → q.Optional) (shown : String) :
    ∃ t, (answerAll true questions).run ⟨⟨bytesOf s, shown⟩, answers⟩ =
      (.ok (), ⟨t, withDefaults questions answers⟩) := by
  induction questions generalizing answers s shown with
  | nil => exact ⟨_, rfl⟩
  | cons q questions ih =>
    obtain ⟨hq, hquestions⟩ := List.forall_mem_cons.1 h
    rw [answerAll, withDefaults, withDefault]
    by_cases hopen : Open q answers
    · obtain ⟨rest, shown', hrest, hask⟩ := run_ask_blank (hq hopen.2) hs shown
      have hvalue : (value true q).run ⟨⟨bytesOf s, shown⟩, answers⟩ =
          (.ok q.default, ⟨⟨bytesOf rest, shown'⟩, answers⟩) :=
        congrArg (fun r => (r.1, (⟨r.2, answers⟩ : Interview))) hask
      rw [Attempt.run_bind_ok (run_answer_of_ok hopen hvalue), if_pos hopen]
      -- a question that is open after this one was open before
      refine ih hrest (fun q' hq' hnone => hquestions q' hq' ?_) shown'
      have hwithin := (fills_put (List.mem_cons_self ..) hopen q.default : Fills [q] _ _).within q'.key
      cases hk : answers.get? q'.key with
      | none => rfl
      | some v => simp [hwithin v hk] at hnone
    · rw [Attempt.run_bind_ok (run_answer_of_not_open hopen), if_neg hopen]
      exact ih hs hquestions shown

/-! ## The whole interview -/

/-- Whatever is typed, and however it ends, an interview takes no answer away and adds none that is empty or
that no question is about; if it fails, at a question that was still open, it leaves just what the questions
before that one made of the answers. With nobody to ask it never fails, and each key gets the first default there
is for it; blank lines give the same answers, if every open question has a default or may stay open. -/
theorem answerAll_fills_gaps (questions : List Question) (seed : FlatAnswers) :
    (∀ prompting t r i, (answerAll prompting questions).run ⟨t, seed⟩ = (r, i) →
      (∀ k v, seed.get? k = some v → i.answers.get? k = some v) ∧
      (∀ k v, i.answers.get? k = some v → seed.get? k = none → v ≠ "" ∧ k ≠ "" ∧ ∃ q ∈ questions, q.key = k) ∧
      ∀ e, r = .error e → ∃ before q after m, questions = before ++ q :: after ∧
        (answerAll prompting before).run ⟨t, seed⟩ = (.ok (), m) ∧ prompting = true ∧ Open q m.answers ∧
        q.ask.run m.terminal = (.error e, i.terminal) ∧ i.answers = m.answers) ∧
    ∀ t, ∃ i, (answerAll false questions).run ⟨t, seed⟩ = (.ok (), i) ∧
      (∀ k v, i.answers.get? k = some v ↔ seed.get? k = some v ∨ seed.get? k = none ∧ k ≠ "" ∧
        First (fun q => ¬ Offers k q) (fun q => Offers k q ∧ q.default = v) questions) ∧
      ((∀ q ∈ questions, seed.get? q.key = none → q.Optional) → ∀ text shown : String, Blank text.toList →
        ∃ t', (answerAll true questions).run ⟨⟨bytesOf text.toList, shown⟩, seed⟩ = (.ok (), ⟨t', i.answers⟩)) := by
  constructor
  · intro prompting t r i hrun
    have hfills : Fills questions seed i.answers := (fills_answerAll prompting questions).of_run hrun
    refine ⟨hfills.within, hfills.added, ?_⟩
    rintro e rfl
    exact run_answerAll_eq_error hrun
  · intro t
    refine ⟨_, run_answerAll_unprompted questions ⟨t, seed⟩, get?_withDefaults questions seed, ?_⟩
    intro hoptional text shown hblank
    exact run_answerAll_blank hblank hoptional shown

/-- A question with a default, then one that has to be answered. -/
def survey : List Question := [{ key := "size", default := "3" }, Question.deployment]

/-- An empty line answers the first question of the survey and the second one fails, which leaves the answer to
the first. Where the second has its answer already, blank lines do as well as nobody to ask. -/
theorem answerAll_fills_gaps_survey :
    (∃ i, (answerAll true survey).run ⟨⟨bytesOf "\n".toList, ""⟩, Dict.ofList [("note", "x")]⟩ =
        (.error Question.deployment.unanswered, i) ∧ i.answers.get? "note" = some "x" ∧
      ∃ before q after m, survey = before ++ q :: after ∧
        (answerAll true before).run ⟨⟨bytesOf "\n".toList, ""⟩, Dict.ofList [("note", "x")]⟩ = (.ok (), m) ∧
        Open q m.answers ∧ i.answers = m.answers) ∧
    Blank "\n \n".toList ∧
    ∃ i t', (answerAll false survey).run ⟨{}, Dict.ofList [("mode", "single")]⟩ = (.ok (), i) ∧
      i.answers.get? "size" = some "3" ∧
      (answerAll true survey).run ⟨⟨bytesOf "\n \n".toList, ""⟩, Dict.ofList [("mode", "single")]⟩ =
        (.ok (), ⟨t', i.answers⟩) := by
  have hblank : Blank "\n \n".toList := by
    rw [Blank, show Text.lines "\n \n".toList = [['\n'], [' ', '\n']] by cbv]
    exact List.forall_mem_cons.2 ⟨by cbv, List.forall_mem_singleton.2 (by cbv)⟩
  refine ⟨?_, hblank, ?_⟩
  · obtain ⟨hrun, -⟩ := answerAll_fills_gaps survey (Dict.ofList [("note", "x")])
    have hfailed : (answerAll true survey).run ⟨⟨bytesOf "\n".toList, ""⟩, Dict.ofList [("note", "x")]⟩ =
        (.error Question.deployment.unanswered, _) := Prod.ext (by cbv) rfl
    obtain ⟨hkept, -, hfails⟩ := hrun _ _ _ _ hfailed
    obtain ⟨before, q, after, m, hsplit, hbefore, -, hopen, -, hanswers⟩ := hfails _ rfl
    exact ⟨_, hfailed, hkept "note" "x" (by cbv), before, q, after, m, hsplit, hbefore, hopen, hanswers⟩
  · obtain ⟨-, hdefaults⟩ := answerAll_fills_gaps survey (Dict.ofList [("mode", "single")])
    obtain ⟨i, hrun, hget, hprompted⟩ := hdefaults {}
    have hmode : (Dict.ofList [("mode", "single")]).get? "mode" = some "single" := by cbv
    have hoptional : ∀ q ∈ survey, (Dict.ofList [("mode", "single")]).get? q.key = none → q.Optional :=
      List.forall_mem_cons.2 ⟨fun _ => .inl (by decide), List.forall_mem_singleton.2 fun h =>
        absurd (hmode.symm.trans h) (Option.some_ne_none _)⟩
    obtain ⟨t', hrun'⟩ := hprompted hoptional "\n \n" "" hblank
    refine ⟨i, t', hrun, (hget _ _).2 (.inr ⟨by cbv, by decide, ?_⟩), hrun'⟩
    exact first_cons.2 (.inl ⟨⟨rfl, by decide⟩, rfl⟩)

end Interview

end MultiCluster
