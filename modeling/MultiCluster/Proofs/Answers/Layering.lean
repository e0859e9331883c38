/-
Which source an answer comes from. The sources are layers, each of which gives a key a text or nothing
(`layers`), and an answer is what the foremost layer that gives its key anything gives it (`Foremost`).
The sources cannot be collected if one of them cannot be read, and the fault is that of the first
(`Refused`). All of it is put together in `collect_layers`.
-/
import MultiCluster.Proofs.Answers.Reading
import Mathlib
namespace MultiCluster

/-! ## Layers -/

/-- The foremost layer that gives the key anything gives it the text. -/
inductive Foremost (k t : String) : List (String → String → Prop) → Prop
  | here {gives : String → String → Prop} {r : List (String → String → Prop)} : gives k t → Foremost k t (gives :: r)
  | under {gives : String → String → Prop} {r : List (String → String → Prop)} :
      (∀ t', ¬ gives k t') → Foremost k t r → Foremost k t (gives :: r)

section Foremost

variable {k t : String} {gives : String → String → Prop} {r : List (String → String → Prop)}

theorem not_foremost_nil : ¬ Foremost k t [] := by
  rintro ⟨⟩

theorem foremost_cons : Foremost k t (gives :: r) ↔ gives k t ∨ (∀ t', ¬ gives k t') ∧ Foremost k t r := by
  constructor
  · intro h
    cases h with
    | here h => exact .inl h
    | under hnone h => exact .inr ⟨hnone, h⟩
  · rintro (h | ⟨hnone, h⟩)
    · exact .here h
    · exact .under hnone h

/-- A key has an answer if some layer gives it one. -/
theorem exists_foremost : (∃ t, Foremost k t r) ↔ ∃ gives ∈ r, ∃ t, gives k t := by
  induction r with
  | nil => simp [not_foremost_nil]
  | cons gives r ih =>
    simp only [foremost_cons, exists_or, List.exists_mem_cons_iff, exists_and_left, ih]
    by_cases hg : ∃ t, gives k t
    · exact iff_of_true (.inl hg) (.inl hg)
    · exact or_congr_right ⟨And.right, fun h => ⟨fun t' ht' => hg ⟨t', ht'⟩, h⟩⟩

end Foremost

open Yaml (Value)

namespace AnswerSources

/-! ## All sources -/

variable (files : Files) (sources : AnswerSources)

/-- There are answers in the answers file, if one is named. -/
def AnswersReadable : Prop := ∀ path ∈ sources.answers, ∃ v, files.Holds path v ∧ IsAnswers v

/-- There are values in the values file, if one is named. -/
def ValuesReadable : Prop := ∀ path ∈ sources.values, ∃ v, files.Holds path v ∧ IsValues v

/-- Why the sources are refused: the fault of the first that cannot be read. -/
inductive Refused : CommandFault → Prop
  | answers {path : String} {e : CommandFault} : path ∈ sources.answers →
      FileFault files "answers" path AnswersFault e → Refused e
  | values {path : String} {e : CommandFault} : AnswersReadable files sources → path ∈ sources.values →
      FileFault files "values" path (LeavesFault []) e → Refused e
  | setting {e : CommandFault} : AnswersReadable files sources → ValuesReadable files sources →
      First IsSetting (fun s => ¬ IsSetting s ∧
        e = .invalidArgument ("invalid --set '" ++ s ++ "', expected KEY=VALUE")) sources.settings → Refused e

/-- What gives answers, the foremost first: the settings, the values file, the answers file and what
there was before. -/
def layers (seed : FlatAnswers) : List (String → String → Prop) :=
  [LastGiven Sets sources.settings,
    fun k t => ∃ path ∈ sources.values, ∃ v, files.Holds path v ∧ LastLeaf v k t,
    fun k t => ∃ path ∈ sources.answers, ∃ v, files.Holds path v ∧ Answers v k t,
    fun k t => seed.get? k = some t]

variable {files sources}

theorem answers_isOk_iff : (∃ d, fromFile files "answers" parseAnswers sources.answers = .ok d) ↔
    AnswersReadable files sources := by
  simp only [fromFile_isOk_iff parseAnswers_bind, answersOf_isOk_iff]
  rfl

theorem values_isOk_iff : (∃ d, fromFile files "values" parseValues sources.values = .ok d) ↔
    ValuesReadable files sources := by
  simp only [fromFile_isOk_iff parseValues_bind, flatten_isOk_iff]
  rfl

theorem settings_isOk_iff :
    (∃ es, sources.settings.mapM parseSetting = .ok es) ↔ ∀ s ∈ sources.settings, IsSetting s := by
  simp only [exists_mapM_eq_ok, parseSetting_isOk_iff]

theorem collect_isOk_iff {seed : FlatAnswers} : (∃ d, collect files seed sources = .ok d) ↔
    AnswersReadable files sources ∧ ValuesReadable files sources ∧ ∀ s ∈ sources.settings, IsSetting s := by
  rw [← answers_isOk_iff, ← values_isOk_iff, ← settings_isOk_iff, collect]
  constructor
  · rintro ⟨d, h⟩
    obtain ⟨answers, hanswers, h⟩ := bind_eq_ok h
    obtain ⟨values, hvalues, h⟩ := bind_eq_ok h
    obtain ⟨settings, hsettings, -⟩ := bind_eq_ok h
    exact ⟨⟨answers, hanswers⟩, ⟨values, hvalues⟩, settings, hsettings⟩
  · rintro ⟨⟨answers, hanswers⟩, ⟨values, hvalues⟩, settings, hsettings⟩
    rw [hanswers, hvalues, hsettings]
    exact ⟨_, rfl⟩

theorem collect_eq_error {seed : FlatAnswers} {e : CommandFault} :
    collect files seed sources = .error e ↔ Refused files sources e := by
  have hvalues : fromFile files "values" parseValues sources.values = .error e ↔
      ∃ path ∈ sources.values, FileFault files "values" path (LeavesFault []) e :=
    fromFile_eq_error parseValues_bind fun _ _ => flatten_eq_error
  have hsettings : sources.settings.mapM parseSetting = .error e ↔ First IsSetting (fun s => ¬ IsSetting s ∧
      e = .invalidArgument ("invalid --set '" ++ s ++ "', expected KEY=VALUE")) sources.settings := by
    rw [mapM_eq_error]
    simp only [parseSetting_isOk_iff, parseSetting_eq_error]
  rw [collect, bind_eq_error, fromFile_eq_error parseAnswers_bind fun _ _ => answersOf_eq_error]
  constructor
  · rintro (⟨path, hpath, h⟩ | ⟨answers, hanswers, h⟩)
    · exact .answers hpath h
    · have hreadable := answers_isOk_iff.1 ⟨answers, hanswers⟩
      rcases bind_eq_error.1 h with h | ⟨values, hok, h⟩
      · obtain ⟨path, hpath, h⟩ := hvalues.1 h
        exact .values hreadable hpath h
      · rcases bind_eq_error.1 h with h | ⟨_, -, h⟩
        · exact .setting hreadable (values_isOk_iff.1 ⟨values, hok⟩) (hsettings.1 h)
        · cases h
  · intro h
    cases h with
    | answers hpath h => exact .inl ⟨_, hpath, h⟩
    | values hreadable hpath h =>
      obtain ⟨answers, hanswers⟩ := answers_isOk_iff.2 hreadable
      exact .inr ⟨answers, hanswers, bind_eq_error.2 (.inl (hvalues.2 ⟨_, hpath, h⟩))⟩
    | setting hreadable hreadable' h =>
      obtain ⟨answers, hanswers⟩ := answers_isOk_iff.2 hreadable
      obtain ⟨values, hok⟩ := values_isOk_iff.2 hreadable'
      exact .inr ⟨answers, hanswers, bind_eq_error.2 (.inr ⟨values, hok, bind_eq_error.2 (.inl (hsettings.2 h))⟩)⟩

theorem get?_collect {seed d : FlatAnswers} (h : collect files seed sources = .ok d) (k t : String) :
    d.get? k = some t ↔ Foremost k t (layers files sources seed) := by
  obtain ⟨answers, hanswers, h⟩ := bind_eq_ok h
  obtain ⟨values, hvalues, h⟩ := bind_eq_ok h
  obtain ⟨settings, hsettings, h⟩ := bind_eq_ok h
  cases h
  have hset : ∀ t, LastGiven Pairs settings k t ↔ LastGiven Sets sources.settings k t := fun t =>
    lastGiven_mapM hsettings fun _ _ => pairs_parseSetting
  have hvalue := get?_fromFile parseValues_bind (fun _ _ => get?_flatten) hvalues k
  have hanswer := get?_fromFile parseAnswers_bind (fun _ _ => get?_answersOf) hanswers k
  simp only [layers, foremost_cons, not_foremost_nil, and_false, or_false, Dict.get?_insertMany_eq_some,
    Dict.lastGiven_toList, hset, hvalue, hanswer]

/-- Sources can be collected if the answers file has a map of keys to single values or nothing, the
values file can be flattened, and every setting has something before its first equals sign; else the
first that is not so is told. The answers are then those of the foremost layer that has the key, and the
keys are those of all layers. -/
theorem collect_layers (files : Files) (seed : FlatAnswers) (sources : AnswerSources) :
    ((∃ d, collect files seed sources = .ok d) ↔
      AnswersReadable files sources ∧ ValuesReadable files sources ∧ ∀ s ∈ sources.settings, IsSetting s) ∧
    (∀ e, collect files seed sources = .error e ↔ Refused files sources e) ∧
    ∀ d, collect files seed sources = .ok d →
      (∀ k, k ∈ d ↔ ∃ gives ∈ layers files sources seed, ∃ t, gives k t) ∧
      ∀ k t, d.get? k = some t ↔ Foremost k t (layers files sources seed) := by
  refine ⟨collect_isOk_iff, fun e => collect_eq_error, fun d h => ⟨fun k => ?_, get?_collect h⟩⟩
  rw [Dict.mem_iff_exists, ← exists_foremost]
  simp only [get?_collect h]

def layeredValues : Value :=
  .mapping [(.text "size", .number (.int 3)), (.text "image", .mapping [(.text "tag", .text "v1")])]

/-- Files with an answers document and a values document. -/
def layered : FileTree :=
  .ofList [("answers.yaml", "size: 2\n".toUTF8.toList), ("values.yaml", "size: 3\nimage:\n  tag: v1\n".toUTF8.toList)]

def layeredSources (settings : List String) : AnswerSources :=
  { answers := some "answers.yaml", values := some "values.yaml", settings }

theorem holds_layeredAnswers : layered.files.Holds "answers.yaml" (.mapping [(.text "size", .number (.int 2))]) :=
  ⟨"size: 2\n", by cbv, by cbv⟩

theorem holds_layeredValues : layered.files.Holds "values.yaml" layeredValues :=
  ⟨"size: 3\nimage:\n  tag: v1\n", by cbv, by cbv⟩

theorem flatten_layeredValues : flatten layeredValues = .ok (Dict.ofList [("size", "3"), ("image.tag", "v1")]) := by cbv

/-- Both files and all settings give `size`, and the last setting, which has a further equals sign, has
its way. A setting without a key is refused. -/
theorem collect_layers_size :
    (∃ d, collect layered.files (Dict.ofList [("size", "1")]) (layeredSources ["size=4", "size=a=b"]) = .ok d ∧
      d.get? "size" = some "a=b" ∧ d.get? "image.tag" = some "v1") ∧
    collect layered.files ∅ (layeredSources ["size=4", "=b", "c"]) =
      .error (.invalidArgument "invalid --set '=b', expected KEY=VALUE") := by
  have hreadable : ∀ settings, AnswersReadable layered.files (layeredSources settings) := by
    rintro settings path ⟨⟩
    refine ⟨_, holds_layeredAnswers, .map ?_⟩
    simp [IsEntry, IsKey, scalarText?]
  have hreadable' : ∀ settings, ValuesReadable layered.files (layeredSources settings) := by
    rintro settings path ⟨⟩
    exact ⟨_, holds_layeredValues, flatten_isOk_iff.1 ⟨_, flatten_layeredValues⟩⟩
  have hsets : Sets "size=4" "size" "4" ∧ Sets "size=a=b" "size" "a=b" := by
    constructor <;> exact ⟨rfl, by decide⟩
  obtain ⟨hok, -, hgives⟩ :=
    collect_layers layered.files (Dict.ofList [("size", "1")]) (layeredSources ["size=4", "size=a=b"])
  obtain ⟨d, hd⟩ := hok.2 ⟨hreadable _, hreadable' _, by
    simpa [layeredSources] using ⟨⟨_, _, hsets.1, by decide⟩, _, _, hsets.2, by decide⟩⟩
  obtain ⟨-, hget⟩ := hgives d hd
  refine ⟨⟨d, hd, (hget _ _).2 (.here ?_), (hget _ _).2 (.under ?_ (.here ?_))⟩, ?_⟩
  · exact ⟨["size=4"], "size=a=b", [], rfl, hsets.2, by simp⟩
  · rw [not_lastGiven_iff]
    intro s hs t h
    simp only [layeredSources, List.mem_cons, List.not_mem_nil, or_false] at hs
    rcases hs with rfl | rfl
    · exact absurd (hsets.1.unique h).1 (by decide)
    · exact absurd (hsets.2.unique h).1 (by decide)
  · exact ⟨_, rfl, _, holds_layeredValues, (get?_flatten flatten_layeredValues _ _).1 (by cbv)⟩
  · refine ((collect_layers _ _ _).2.1 _).2 (.setting (hreadable _) (hreadable' _) ?_)
    refine ⟨["size=4"], "=b", ["c"], rfl, ?_, ?_, rfl⟩
    · simpa using ⟨_, _, hsets.1, by decide⟩
    · rintro ⟨k, t, h, hne⟩
      have hempty : Sets "=b" "" "b" := ⟨rfl, by decide⟩
      exact hne (hempty.unique h).1.symm

end AnswerSources

end MultiCluster
