/-
Reading a URL whose front is known. Up to its authority a URL is read from its front alone (`front?_append`), so the
URLs that name places under one front differ only behind it (`asked_under`); what is asked for there has the segments
at its end, in the path, or in the query where the front has one (`asked_readRest`).
-/
import Mathlib.Data.List.TakeWhile
import MultiCluster.Proofs.Url.Path
namespace MultiCluster.Url

/-! ## Trimming -/

section Fronts

variable {α : Type} {p : α → Bool} {s : List α}

theorem dropWhile_of_head (h : ∀ c ∈ s.head?, p c = false) : s.dropWhile p = s := by
  cases s with
  | nil => rfl
  | cons c s => exact List.dropWhile_cons_of_neg (Bool.eq_false_iff.1 (h c rfl))

/-- What is dropped stands in front where the text behind begins with something that is kept. -/
theorem dropWhile_append_of_head (h : ∀ c ∈ s.head?, p c = false) (r : List α) :
    (r ++ s).dropWhile p = r.dropWhile p ++ s := by
  rw [List.dropWhile_append]
  split
  · rename_i hr
    rw [dropWhile_of_head h, List.isEmpty_iff.1 hr, List.nil_append]
  · rfl

theorem takeWhile_append_of_head (h : ∀ c ∈ s.head?, p c = false) (r : List α) :
    (r ++ s).takeWhile p = r.takeWhile p := by
  have hs : s.takeWhile p = [] := by
    cases s with
    | nil => rfl
    | cons c s => exact List.takeWhile_cons_of_neg (Bool.eq_false_iff.1 (h c rfl))
  rw [List.takeWhile_append, hs, List.append_nil]
  split
  · rename_i hr
    exact (List.IsPrefix.eq_of_length (List.takeWhile_prefix p) hr).symm
  · rfl

theorem drop_length_takeWhile (p : α → Bool) (s : List α) : s.drop (s.takeWhile p).length = s.dropWhile p :=
  calc s.drop (s.takeWhile p).length
      = (s.takeWhile p ++ s.dropWhile p).drop (s.takeWhile p).length := by rw [List.takeWhile_append_dropWhile]
    _ = s.dropWhile p := List.drop_left ..

end Fronts

/-- What counts of a text that others follow. -/
def trimmedFront (s : List Char) : List Char :=
  (s.dropWhile fun c => c ≤ ' ').filter fun c => !(c == '\t' || c == '\n' || c == '\r')

/-- All of a text counts that stands behind another one, if both its ends are visible and no tab or line break is in
it. -/
theorem trimmed_append (r : List Char) {s : List Char} (hfirst : ∀ c ∈ s.head?, ' ' < c)
    (hlast : ∀ c ∈ s.getLast?, ' ' < c) (hmarks : ∀ c ∈ s, c ∉ ['\t', '\n', '\r']) (hs : s ≠ []) :
    trimmed (r ++ s) = trimmedFront r ++ s := by
  have hdrop : (r ++ s).dropWhile (fun c => c ≤ ' ') = r.dropWhile (fun c => c ≤ ' ') ++ s :=
    dropWhile_append_of_head (fun c hc => decide_eq_false (Char.not_le.2 (hfirst c hc))) r
  have hend : ∀ t : List Char, ((t ++ s).reverse.dropWhile fun c => c ≤ ' ').reverse = t ++ s := fun t => by
    rw [dropWhile_of_head, List.reverse_reverse]
    intro c hc
    rw [List.head?_reverse, List.getLast?_append_of_ne_nil _ hs] at hc
    exact decide_eq_false (Char.not_le.2 (hlast c hc))
  show (((r ++ s).dropWhile fun c => c ≤ ' ').reverse.dropWhile fun c => c ≤ ' ').reverse.filter _ = _
  rw [hdrop, hend, List.filter_append]
  refine congrArg _ (List.filter_eq_self.2 fun c hc => ?_)
  simpa [and_assoc] using hmarks c hc

/-! ## Schemes -/

theorem scheme_readTail (s : List Char) (u : Url) : (readTail s u).scheme = u.scheme := by
  unfold readTail
  split <;> rfl

theorem scheme_readRest (s : List Char) (u : Url) : (readRest s u).scheme = u.scheme := scheme_readTail ..

theorem scheme_readAuthority {scheme s : List Char} {u : Url} (h : readAuthority scheme s = some u) :
    u.scheme = scheme := by
  unfold readAuthority at h
  split at h
  all_goals
    dsimp only at h
    split at h
    · split at h
      · cases h
      · cases h
        rfl
    · split at h
      all_goals
        obtain ⟨host, -, h⟩ := Option.bind_eq_some_iff.1 h
        obtain ⟨number, -, h⟩ := Option.bind_eq_some_iff.1 h
        cases h
        rfl

theorem scheme_readAfterSlashes {scheme s : List Char} {u : Url} (h : readAfterSlashes scheme s = some u) :
    u.scheme = scheme := by
  obtain ⟨u₀, hauthority, h⟩ := Option.bind_eq_some_iff.1 h
  cases h
  rw [scheme_readRest, scheme_readAuthority hauthority]

theorem scheme_readFile {scheme s : List Char} {u : Url} (h : readFile scheme s = some u) : u.scheme = scheme := by
  unfold readFile at h
  split at h
  · split at h
    · obtain ⟨host, -, h⟩ := Option.bind_eq_some_iff.1 h
      cases h
      exact scheme_readRest ..
    · cases h
      exact scheme_readRest ..
  · cases h
    exact scheme_readRest ..

theorem scheme_readBody {scheme s : List Char} {u : Url} (h : readBody scheme s = some u) : u.scheme = scheme := by
  unfold readBody at h
  split at h
  · exact scheme_readFile h
  · split at h
    · exact scheme_readAfterSlashes h
    · split at h
      · exact scheme_readAfterSlashes h
      · cases h
        exact scheme_readRest ..
      · cases h
        exact scheme_readTail ..

/-- What HTTP uses. -/
def IsHttp (scheme : List Char) : Prop := scheme = "http".toList ∨ scheme = "https".toList

theorem IsHttp.isSpecial {scheme : List Char} (h : IsHttp scheme) : isSpecial scheme = true := by
  rcases h with rfl | rfl <;> rfl

theorem IsHttp.not_isFile {scheme : List Char} (h : IsHttp scheme) : isFile scheme = false := by
  rcases h with rfl | rfl <;> rfl

/-! ## Fronts -/

/-- The authority of a URL that HTTP uses, and what stands behind it. -/
def front? (s : List Char) : Option (Url × List Char) := do
  let (scheme, rest) ← readScheme s
  let rest := rest.dropWhile isSlash
  let u ← readAuthority scheme (rest.takeWhile fun c => !endsAuthority true c)
  return (u, rest.dropWhile fun c => !endsAuthority true c)

/-- A URL that HTTP uses is read from its front and from what stands behind it. -/
theorem parse?_eq_some {s : String} {u : Url} (h : parse? s = some u) (hhttp : IsHttp u.scheme) :
    ∃ u₀ rest, front? (trimmed s.toList) = some (u₀, rest) ∧ u = readRest rest u₀ ∧ IsHttp u₀.scheme := by
  obtain ⟨⟨scheme, rest⟩, hscheme, hbody⟩ := Option.bind_eq_some_iff.1 h
  dsimp only at hbody
  obtain rfl : u.scheme = scheme := scheme_readBody hbody
  unfold readBody at hbody
  rw [if_neg (by simp [hhttp.not_isFile]), if_pos hhttp.isSpecial] at hbody
  obtain ⟨u₀, hauthority, hrest⟩ := Option.bind_eq_some_iff.1 hbody
  rw [hhttp.isSpecial] at hauthority hrest
  rw [drop_length_takeWhile] at hrest
  refine ⟨u₀, _, Option.bind_eq_some_iff.2 ⟨_, hscheme, Option.bind_eq_some_iff.2 ⟨u₀, hauthority, rfl⟩⟩, ?_, ?_⟩
  · exact (Option.some.inj hrest).symm
  · rw [scheme_readAuthority hauthority]
    exact hhttp

/-- The scheme is read from what stands before a slash. -/
theorem readScheme_append {r t scheme rest : List Char} (h : readScheme (r ++ '/' :: t) = some (scheme, rest)) :
    ∃ b, rest = b ++ '/' :: t ∧ ∀ t', readScheme (r ++ '/' :: t') = some (scheme, b ++ '/' :: t') := by
  obtain ⟨⟨a, b₀⟩, hcut, h⟩ := Option.bind_eq_some_iff.1 h
  obtain ⟨first, hfirst, h⟩ := Option.bind_eq_some_iff.1 h
  split at h
  · rename_i hchars
    cases h
    obtain ⟨heq, hcolon⟩ := Text.cut?_eq_some_iff.1 hcut
    have hslash : '/' ∉ a := fun hmem =>
      absurd (List.all_eq_true.1 (Bool.and_eq_true_iff.1 hchars).2 '/' hmem) (by decide)
    rcases List.append_eq_append_iff.1 heq with ⟨d, rfl, hd⟩ | ⟨d, rfl, hd⟩
    · -- the colon does not stand behind the slash
      cases d with
      | nil => cases hd
      | cons x d =>
        cases hd
        exact absurd (List.mem_append_right r (List.mem_cons_self ..)) hslash
    · cases d with
      | nil => cases hd
      | cons x b =>
        cases hd
        refine ⟨b, rfl, fun t' => ?_⟩
        have hcut' : Text.cut? ':' (a ++ ':' :: b ++ '/' :: t') = some (a, b ++ '/' :: t') :=
          Text.cut?_eq_some_iff.2 ⟨by rw [List.append_assoc, List.cons_append], hcolon⟩
        exact Option.bind_eq_some_iff.2 ⟨_, hcut', Option.bind_eq_some_iff.2 ⟨first, hfirst, if_pos hchars⟩⟩
  · cases h

/-- The front is read from what stands before a slash, unless there are only slashes before. -/
theorem front?_append {r s rest : List Char} {u₀ : Url} (hs : ∀ c ∈ s.head?, c = '/')
    (h : front? (r ++ '/' :: 'v' :: '3' :: s) = some (u₀, rest)) :
    ∃ p, rest = p ++ s ∧ front? (r ++ "/v3".toList) = some (u₀, p) := by
  obtain ⟨⟨scheme, rest₁⟩, hscheme, h⟩ := Option.bind_eq_some_iff.1 h
  obtain ⟨b, rfl, hscheme'⟩ := readScheme_append hscheme
  have hslashes : ∀ t, (b ++ '/' :: 'v' :: t).dropWhile isSlash = (b ++ ['/']).dropWhile isSlash ++ 'v' :: t :=
    fun t => by
    rw [← dropWhile_append_of_head (by rintro _ ⟨⟩; decide), List.append_assoc, List.singleton_append]
  have hend : ∀ c ∈ s.head?, (!endsAuthority true c) = false := fun c hc => by
    rw [hs c hc]
    decide
  dsimp only at h
  have hfront : (b ++ ['/']).dropWhile isSlash ++ 'v' :: '3' :: s =
      ((b ++ ['/']).dropWhile isSlash ++ ['v', '3']) ++ s := by
    rw [List.append_assoc]
    rfl
  rw [hslashes, hfront, takeWhile_append_of_head hend, dropWhile_append_of_head hend] at h
  obtain ⟨u, hauthority, h⟩ := Option.bind_eq_some_iff.1 h
  cases h
  refine ⟨_, rfl, Option.bind_eq_some_iff.2 ⟨_, hscheme' ['v', '3'], ?_⟩⟩
  dsimp only
  rw [hslashes]
  exact Option.bind_eq_some_iff.2 ⟨_, hauthority, rfl⟩

/-- What stands behind a front begins where the authority ends, and is the end of the text. -/
theorem front?_rest {s p : List Char} {u₀ : Url} (h : front? s = some (u₀, p)) :
    (∀ c ∈ p.head?, endsAuthority true c = true) ∧ p <:+ s := by
  obtain ⟨⟨scheme, rest⟩, hscheme, h⟩ := Option.bind_eq_some_iff.1 h
  obtain ⟨u, -, h⟩ := Option.bind_eq_some_iff.1 h
  cases h
  constructor
  · intro c hc
    have hends := List.head?_dropWhile_not (fun c => !endsAuthority true c) (rest.dropWhile isSlash)
    rw [hc] at hends
    simpa using hends
  · obtain ⟨⟨a, b⟩, hcut, hscheme⟩ := Option.bind_eq_some_iff.1 hscheme
    obtain ⟨first, -, hscheme⟩ := Option.bind_eq_some_iff.1 hscheme
    split at hscheme
    · cases hscheme
      obtain ⟨rfl, -⟩ := Text.cut?_eq_some_iff.1 hcut
      exact ((List.dropWhile_suffix _).trans (List.dropWhile_suffix _)).trans
        ((List.suffix_cons ':' rest).trans (List.suffix_append a _))
    · cases hscheme

/-! ## Sites -/

/-- What is asked for: the path and the query. -/
def asked (u : Url) : List Char := u.path ++ (u.query.map fun q => '?' :: q).getD []

/-- Where the places under a URL are: what is asked for begins with `front`, of what follows it keeps what `keep` says,
and pairs stand behind `mark`, which a pair does not have in it. -/
structure Site where
  front : List Char
  keep : Char → Bool
  mark : Char
  printable : ∀ c, keep c = true → isPrintable c = true
  mark_ne_slash : mark ≠ '/'
  mark_not_mem : ∀ k v, mark ∉ formPairs [(k, v)]

/-- The site of what stands behind the authority: in its query if it has one, and else in its path. -/
def siteOf (p : List Char) : Site :=
  match Text.cut? '?' p with
  | none =>
    { front := place p, keep := keptInPath, mark := '?'
      printable := fun _ => isPrintable_of_keptInPath
      mark_ne_slash := by decide
      mark_not_mem := fun _ _ h => absurd (mem_formPairs_singleton h) (by decide) }
  | some (a, b) =>
    { front := readPath true a ++ '?' :: percentText (keptInQuery true) b, keep := keptInQuery true, mark := '&'
      printable := fun _ h => (Bool.and_eq_true_iff.1 h).1
      mark_ne_slash := by decide
      mark_not_mem := fun _ _ h => absurd (mem_formPairs_singleton h) (by decide) }

/-- Pairs behind their mark, if there are some. -/
def pairsBehind (mark : Char) : Option (List (String × String)) → List Char
  | none => []
  | some [] => []
  | some (p :: ps) => mark :: formPairs (p :: ps)

/-- The URL with pairs, if there are to be some. -/
def withPairs? (pairs : Option (List (String × String))) (u : Url) : Url :=
  match pairs with
  | some ps => u.withPairs ps
  | none => u

theorem formPairs_ne_nil (p : String × String) (ps : List (String × String)) : formPairs (p :: ps) ≠ [] := by
  cases ps <;> simp [formPairs]

theorem asked_withPairs?_of_none {u : Url} (h : u.query = none) (pairs : Option (List (String × String))) :
    asked (withPairs? pairs u) = u.path ++ pairsBehind '?' pairs := by
  match pairs with
  | none => simp [withPairs?, asked, h, pairsBehind]
  | some [] => simp [withPairs?, withPairs, asked, h, pairsBehind, formPairs]
  | some (p :: ps) =>
    have hne := formPairs_ne_nil p ps
    simp [withPairs?, withPairs, asked, h, pairsBehind, hne]

theorem asked_withPairs?_of_some {u : Url} {q : List Char} (h : u.query = some q) (hq : q ≠ [])
    (pairs : Option (List (String × String))) :
    asked (withPairs? pairs u) = u.path ++ '?' :: q ++ pairsBehind '&' pairs := by
  match pairs with
  | none => simp [withPairs?, asked, h, pairsBehind]
  | some [] => simp [withPairs?, withPairs, asked, h, pairsBehind, hq]
  | some (p :: ps) => simp [withPairs?, withPairs, asked, h, pairsBehind, hq]

theorem takeWhile_path {s : List Char} (hquery : '?' ∉ s) (hfragment : '#' ∉ s) :
    (s.takeWhile fun c => !endsPath c) = s := by
  refine List.takeWhile_eq_self_iff.2 fun c hc => ?_
  simp only [endsPath, Bool.not_eq_true', Bool.or_eq_false_iff, beq_eq_false_iff_ne]
  exact ⟨fun h => hquery (h ▸ hc), fun h => hfragment (h ▸ hc)⟩

/-- Behind an authority that no query follows stands a path. -/
theorem readRest_path {s : List Char} {u : Url} (hspecial : isSpecial u.scheme = true) (hquery : '?' ∉ s)
    (hfragment : '#' ∉ s) : readRest s u = { u with path := readPath true s, query := none } := by
  unfold readRest
  dsimp only
  rw [takeWhile_path hquery hfragment, hspecial, List.drop_length]
  simp [readTail, readTail.query?, Text.cut?]

/-- A query stands behind the first question mark. -/
theorem readRest_query {a b : List Char} {u : Url} (hspecial : isSpecial u.scheme = true) (hquery : '?' ∉ a)
    (hfragment : '#' ∉ a ++ b) :
    readRest (a ++ '?' :: b) u =
      { u with path := readPath true a, query := some (percentText (keptInQuery true) b) } := by
  obtain ⟨hfragment, hfragment'⟩ := not_or.1 (List.mem_append.not.1 hfragment)
  have hpath : ((a ++ '?' :: b).takeWhile fun c => !endsPath c) = a := by
    rw [takeWhile_append_of_head (by rintro _ ⟨⟩; decide), takeWhile_path hquery hfragment]
  have hcut : Text.cut? '#' ('?' :: b) = none :=
    Text.cut?_eq_none_iff.2 (by simp [hfragment'])
  unfold readRest
  dsimp only
  rw [hpath, hspecial, List.drop_left, readTail, hcut]
  simp [readTail.query?, hspecial]

theorem not_mem_under {l : List (List Char)} (hsegments : ∀ s ∈ l, IsSegment s) {c : Char} (hc : c ∈ marks)
    (hslash : c ≠ '/') : c ∉ under l := fun h => by
  obtain ⟨s, hs, hc'⟩ := List.mem_flatMap.1 h
  rcases List.mem_cons.1 hc' with hc' | hc'
  · exact hslash hc'
  · exact (hsegments s hs).not_mem hc hc'

theorem percentText_under {keep : Char → Bool} (hkeep : keep '/' = true) (l : List (List Char)) :
    percentText keep (under l) = under (l.map (percentText keep)) := by
  induction l with
  | nil => rfl
  | cons s l ih =>
    rw [List.map_cons, under_cons, under_cons, percentText_cons, if_pos hkeep, percentText_append, ih]
    rfl

theorem asked_readRest {p : List Char} {u₀ : Url} (hspecial : isSpecial u₀.scheme = true) (hp : '#' ∉ p)
    (hends : ∀ c ∈ p.head?, endsAuthority true c = true) {l : List (List Char)} (hl : l ≠ [])
    (hsegments : ∀ s ∈ l, IsSegment s) (pairs : Option (List (String × String))) :
    asked (withPairs? pairs (readRest (p ++ under l) u₀)) =
      (siteOf p).front ++ under (l.map (percentText (siteOf p).keep)) ++ pairsBehind (siteOf p).mark pairs := by
  have hquestion : '?' ∉ under l := not_mem_under hsegments (by decide) (by decide)
  have hhash : '#' ∉ under l := not_mem_under hsegments (by decide) (by decide)
  unfold siteOf
  cases hcut : Text.cut? '?' p with
  | none =>
    have hpath : '?' ∉ p := Text.cut?_eq_none_iff.1 hcut
    have hslash : ∀ c ∈ p.head?, isSlash c = true := fun c hc => by
      have hmem : c ∈ p := List.mem_of_mem_head? hc
      have h : ((c = '/' ∨ c = '?') ∨ c = '#') ∨ c = '\\' := by simpa [endsAuthority] using hends c hc
      rcases h with ((rfl | rfl) | rfl) | rfl
      · rfl
      · exact absurd hmem hpath
      · exact absurd hmem hp
      · rfl
    rw [readRest_path hspecial (by simp [hpath, hquestion]) (by simp [hp, hhash]), asked_withPairs?_of_none rfl]
    show readPath true (p ++ under l) ++ _ = _
    rw [readPath_under hslash hl hsegments]
  | some ab =>
    obtain ⟨a, b⟩ := ab
    obtain ⟨rfl, ha⟩ := Text.cut?_eq_some_iff.1 hcut
    have hfragment : '#' ∉ a ++ (b ++ under l) := by simpa [hhash] using hp
    have hquery : percentText (keptInQuery true) (b ++ under l) =
        percentText (keptInQuery true) b ++ under (l.map (percentText (keptInQuery true))) := by
      rw [percentText_append, percentText_under (by decide)]
    have hne : percentText (keptInQuery true) (b ++ under l) ≠ [] := by
      rw [hquery]
      exact List.append_ne_nil_of_right_ne_nil _ (under_ne_nil (by simpa using hl))
    rw [List.append_assoc, List.cons_append, readRest_query hspecial ha hfragment,
      asked_withPairs?_of_some rfl hne, hquery]
    simp

/-! ## Reading under a root -/

theorem getLast?_under {l : List (List Char)} (hl : l ≠ []) (hsegments : ∀ s ∈ l, IsSegment s) :
    ∀ c ∈ (under l).getLast?, ' ' < c := by
  intro c hc
  have hs := hsegments _ (List.getLast_mem hl)
  rw [← List.dropLast_append_getLast hl, under_append, under_cons, under_nil, List.append_nil, ← List.singleton_append,
    ← List.append_assoc, List.getLast?_append_of_ne_nil _ hs.ne_nil] at hc
  have hends := hs.ends
  rw [hc] at hends
  simpa using hends

/-- The site of a URL under which others are. -/
def rootSite? (r : List Char) : Option Site := (front? (trimmedFront r ++ "/v3".toList)).map fun p => siteOf p.2

/-- What is asked for under a root stands at its site. -/
theorem asked_under {r : List Char} (hr : '#' ∉ r) {l : List (List Char)} (hl : l ≠ [])
    (hsegments : ∀ s ∈ l, IsSegment s) {address : String} (haddress : address.toList = r ++ "/v3".toList ++ under l)
    {u : Url} (hu : parse? address = some u) (hhttp : IsHttp u.scheme) (pairs : Option (List (String × String))) :
    ∃ site, rootSite? r = some site ∧
      asked (withPairs? pairs u) = site.front ++ under (l.map (percentText site.keep)) ++
        pairsBehind site.mark pairs := by
  have hslash : ∀ c ∈ (under l).head?, c = '/' := fun c hc => by
    obtain ⟨s, l, rfl⟩ := List.exists_cons_of_ne_nil hl
    exact (Option.some.inj hc).symm
  have htrimmed : trimmed address.toList = trimmedFront r ++ '/' :: 'v' :: '3' :: under l := by
    rw [haddress, List.append_assoc]
    refine trimmed_append r (s := '/' :: 'v' :: '3' :: under l) ?_ ?_ ?_ (List.cons_ne_nil _ _)
    · rintro _ ⟨⟩
      decide
    · show ∀ c ∈ ("/v3".toList ++ under l).getLast?, _
      rw [List.getLast?_append_of_ne_nil _ (under_ne_nil hl)]
      exact getLast?_under hl hsegments
    · intro c hc hbreak
      have hmarks : c ∈ marks ∧ c ∉ ['/', 'v', '3'] := by
        simp only [List.mem_cons, List.not_mem_nil, or_false] at hbreak
        rcases hbreak with rfl | rfl | rfl <;> decide
      rcases List.mem_append.1 (show c ∈ ['/', 'v', '3'] ++ under l from hc) with hc | hc
      · exact hmarks.2 hc
      · exact not_mem_under hsegments hmarks.1 (fun h => hmarks.2 (h ▸ List.mem_cons_self ..)) hc
  obtain ⟨u₀, rest, hfront, rfl, hhttp₀⟩ := parse?_eq_some hu hhttp
  rw [htrimmed] at hfront
  obtain ⟨p, rfl, hroot⟩ := front?_append hslash hfront
  obtain ⟨hends, hsuffix⟩ := front?_rest hroot
  have hp : '#' ∉ p := fun h => by
    rcases List.mem_append.1 (hsuffix.mem h) with h | h
    · exact hr ((List.dropWhile_suffix _).mem (List.mem_of_mem_filter h))
    · exact absurd h (by decide)
  exact ⟨siteOf p, by rw [rootSite?, hroot]; rfl, asked_readRest hhttp₀.isSpecial hp hends hl hsegments pairs⟩

end MultiCluster.Url
