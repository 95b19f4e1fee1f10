import Mathlib.Data.String.Basic
import Sidecar.Proofs.TextOrder
import Sidecar.Metrics.Buckets
/-! # Histogram buckets by name pattern

A pattern stands for the texts obtained by replacing each `*` in it by any text, possibly empty,
every other character standing for itself (`Glob.Matches`). The matcher does not search that
set: it splits the pattern at its stars, takes the first part as a prefix, finds each middle part
at its leftmost place in what remains, and takes the last part as a suffix of the rest. It
accepts exactly the names the pattern stands for (`Glob.accepts_iff`). The leftmost search loses
nothing because every part after a middle one sits behind a star, which takes in whatever the
search passed over (`Glob.Matches.star_append`); and the prefix, middle parts and suffix never
overlap, since each is matched in what the one before left.

A histogram takes the buckets of the least pattern in byte order that its name matches, and the
default buckets when it matches none (`histogram_buckets`). -/
namespace Sidecar.Metrics

namespace Glob

/-! ## The texts a pattern stands for -/

/-- The texts a pattern stands for: each `*` replaced by any text, possibly empty, and every
other character kept as it is. -/
inductive Matches : List Char → List Char → Prop
  | nil : Matches [] []
  | star {p n : List Char} (u : List Char) : Matches p n → Matches ('*' :: p) (u ++ n)
  | char {p n : List Char} {c : Char} : c ≠ '*' → Matches p n → Matches (c :: p) (c :: n)

theorem matches_nil_iff {n : List Char} : Matches [] n ↔ n = [] := by
  constructor
  · intro h
    cases h
    rfl
  · rintro rfl
    exact .nil

theorem matches_star_iff {p n : List Char} :
    Matches ('*' :: p) n ↔ ∃ u v, n = u ++ v ∧ Matches p v := by
  constructor
  · intro h
    cases h with
    | star u h => exact ⟨u, _, rfl, h⟩
    | char hc _ => exact absurd rfl hc
  · rintro ⟨u, v, rfl, h⟩
    exact .star u h

theorem matches_char_iff {c : Char} {p n : List Char} (hc : c ≠ '*') :
    Matches (c :: p) n ↔ ∃ r, n = c :: r ∧ Matches p r := by
  constructor
  · intro h
    cases h with
    | star u h => exact absurd rfl hc
    | char _ h => exact ⟨_, rfl, h⟩
  · rintro ⟨r, rfl, h⟩
    exact .char hc h

/-- A part without a star matches itself and nothing else. -/
theorem matches_append_iff {part p n : List Char} (h : '*' ∉ part) :
    Matches (part ++ p) n ↔ ∃ r, n = part ++ r ∧ Matches p r := by
  induction part generalizing n with
  | nil => simp
  | cons c part ih =>
    have hc : c ≠ '*' := fun hc => h (hc ▸ List.mem_cons_self)
    have hpart : '*' ∉ part := fun hm => h (List.mem_cons_of_mem c hm)
    rw [List.cons_append, matches_char_iff hc]
    constructor
    · rintro ⟨r, rfl, hr⟩
      obtain ⟨r', rfl, hr'⟩ := (ih hpart).1 hr
      exact ⟨r', rfl, hr'⟩
    · rintro ⟨r, rfl, hr⟩
      exact ⟨part ++ r, rfl, (ih hpart).2 ⟨r, rfl, hr⟩⟩

theorem matches_iff_eq {part n : List Char} (h : '*' ∉ part) : Matches part n ↔ n = part := by
  have := @matches_append_iff part [] n h
  simp only [List.append_nil, matches_nil_iff, exists_eq_right] at this
  exact this

/-- A leading star takes in any text put in front. -/
theorem Matches.star_append {p v : List Char} (h : Matches ('*' :: p) v) (w : List Char) :
    Matches ('*' :: p) (w ++ v) := by
  obtain ⟨u, v', rfl, hp⟩ := matches_star_iff.1 h
  rw [← List.append_assoc]
  exact .star _ hp

/-! ## The matcher's steps -/

theorem dropPrefix?_eq_some_iff {p t r : List Char} : dropPrefix? p t = some r ↔ t = p ++ r := by
  induction p generalizing t with
  | nil => simp [dropPrefix?, eq_comm]
  | cons c p ih =>
    cases t with
    | nil => simp [dropPrefix?]
    | cons d t =>
      by_cases h : c = d
      · subst h
        simp [dropPrefix?, ih]
      · simp [dropPrefix?, h, Ne.symm h]

theorem dropPrefix?_append (p r : List Char) : dropPrefix? p (p ++ r) = some r :=
  dropPrefix?_eq_some_iff.2 rfl

theorem endsWith_iff {t part : List Char} : endsWith t part = true ↔ ∃ u, t = u ++ part := by
  rw [endsWith, Option.isSome_iff_exists]
  constructor
  · rintro ⟨x, hx⟩
    refine ⟨x.reverse, ?_⟩
    rw [← List.reverse_reverse t, dropPrefix?_eq_some_iff.1 hx]
    simp
  · rintro ⟨u, rfl⟩
    exact ⟨u.reverse, dropPrefix?_eq_some_iff.2 (by simp)⟩

/-- What the search leaves follows an occurrence of the part. -/
theorem eq_of_afterFirst? {part t r : List Char} (h : afterFirst? part t = some r) :
    ∃ u, t = u ++ part ++ r := by
  induction t with
  | nil => exact ⟨[], by simpa using dropPrefix?_eq_some_iff.1 h⟩
  | cons c t ih =>
    rw [afterFirst?] at h
    split at h
    · next rest hr =>
      cases h
      exact ⟨[], by simpa using dropPrefix?_eq_some_iff.1 hr⟩
    · obtain ⟨u, rfl⟩ := ih h
      exact ⟨c :: u, rfl⟩

/-- The search finds the leftmost occurrence: what it leaves ends with what follows any
occurrence. -/
theorem afterFirst?_of_eq {part u v : List Char} :
    ∀ {t : List Char}, t = u ++ part ++ v → ∃ w, afterFirst? part t = some (w ++ v) := by
  intro t
  induction t generalizing u with
  | nil =>
    intro ht
    obtain ⟨rfl, rfl, rfl⟩ : u = [] ∧ part = [] ∧ v = [] := by simpa using ht.symm
    exact ⟨[], rfl⟩
  | cons c t ih =>
    intro ht
    rw [afterFirst?]
    split
    · next rest hr =>
      -- the part found first ends no later than the given one, so `v` ends what it leaves
      have hx := dropPrefix?_eq_some_iff.1 hr
      have hv : v <:+ rest := by
        apply List.suffix_of_suffix_length_le
        · exact ⟨u ++ part, ht.symm⟩
        · exact ⟨part, hx.symm⟩
        · have := congrArg List.length (ht.symm.trans hx)
          simp at this
          omega
      obtain ⟨w, rfl⟩ := hv
      exact ⟨w, rfl⟩
    · next hr =>
      cases u with
      | nil =>
        rw [List.nil_append] at ht
        rw [ht, dropPrefix?_append] at hr
        cases hr
      | cons d u =>
        simp only [List.cons_append, List.cons.injEq] at ht
        exact ih ht.2

/-! ## Matching is membership -/

/-- The parts after the first star, each behind its star. -/
theorem matchRest_iff {parts : List (List Char)} (hparts : ∀ q ∈ parts, '*' ∉ q) (t : List Char) :
    matchRest parts t = true ↔ Matches (parts.flatMap ('*' :: ·)) t := by
  induction parts generalizing t with
  | nil => simp [matchRest, matches_nil_iff]
  | cons q qs ih =>
    have hq : '*' ∉ q := hparts q List.mem_cons_self
    have hqs : ∀ q' ∈ qs, '*' ∉ q' := fun q' hm => hparts q' (List.mem_cons_of_mem q hm)
    cases qs with
    | nil =>
      rw [matchRest, endsWith_iff, List.flatMap_singleton, matches_star_iff]
      simp only [matches_iff_eq hq, exists_eq_right]
    | cons q' qs' =>
      have hstar : (q' :: qs').flatMap ('*' :: ·) = '*' :: (q' ++ qs'.flatMap ('*' :: ·)) := by
        simp
      rw [matchRest.eq_3 t q (q' :: qs') nofun, List.flatMap_cons, List.cons_append,
        matches_star_iff]
      constructor
      · intro h
        split at h
        · next r hr =>
          obtain ⟨u, rfl⟩ := eq_of_afterFirst? hr
          exact ⟨u, q ++ r, by simp, (matches_append_iff hq).2 ⟨r, rfl, (ih hqs r).1 h⟩⟩
        · cases h
      · rintro ⟨u, v, rfl, hv⟩
        obtain ⟨r, rfl, hr⟩ := (matches_append_iff hq).1 hv
        obtain ⟨w, hw⟩ := @afterFirst?_of_eq q u r _ (List.append_assoc u q r).symm
        rw [hw]
        -- the later parts begin with a star, which takes in what the leftmost search passed over
        rw [hstar] at hr
        have hwr := hr.star_append w
        rw [← hstar] at hwr
        exact (ih hqs (w ++ r)).2 hwr

/-- No part of a text split at its stars holds a star. -/
theorem not_mem_of_mem_splitOn {cs q : List Char} (h : q ∈ cs.splitOn '*') : '*' ∉ q := by
  induction cs generalizing q with
  | nil =>
    rw [List.splitOn_nil, List.mem_singleton] at h
    subst h
    exact List.not_mem_nil
  | cons c cs ih =>
    rw [List.splitOn_cons_eq_if_modifyHead] at h
    split at h
    · rcases List.mem_cons.1 h with rfl | hm
      · exact List.not_mem_nil
      · exact ih hm
    · next hc =>
      obtain ⟨first, rest, hs⟩ := List.exists_cons_of_ne_nil (List.splitOn_ne_nil '*' cs)
      rw [hs, List.modifyHead_cons] at h
      rcases List.mem_cons.1 h with rfl | hm
      · have hfirst := @ih first (hs ▸ List.mem_cons_self)
        simp only [beq_iff_eq] at hc
        simp [Ne.symm hc, hfirst]
      · exact ih (hs ▸ List.mem_cons_of_mem first hm)

/-- A text is its first part followed by every later part behind its star. -/
theorem eq_flatMap_of_splitOn {cs first : List Char} {parts : List (List Char)}
    (h : cs.splitOn '*' = first :: parts) : cs = first ++ parts.flatMap ('*' :: ·) := by
  have hcs : ['*'].intercalate (cs.splitOn '*') = cs := List.intercalate_splitOn '*'
  rw [h] at hcs
  rw [← hcs]
  clear h hcs
  induction parts generalizing first with
  | nil => simp
  | cons q qs ih => simp [List.intercalate_cons_cons, ih]

/-- The matcher accepts exactly the names the pattern stands for. -/
theorem accepts_iff (pattern name : String) :
    accepts pattern name = true ↔ Matches pattern.toList name.toList := by
  obtain ⟨first, parts, hs⟩ := List.exists_cons_of_ne_nil (List.splitOn_ne_nil '*' pattern.toList)
  have hfirst : '*' ∉ first := not_mem_of_mem_splitOn (hs ▸ List.mem_cons_self)
  have hparts : ∀ q ∈ parts, '*' ∉ q :=
    fun q hq => not_mem_of_mem_splitOn (hs ▸ List.mem_cons_of_mem first hq)
  rw [accepts, hs, eq_flatMap_of_splitOn hs, matches_append_iff hfirst]
  dsimp only
  constructor
  · intro h
    split at h
    · next r hr => exact ⟨r, dropPrefix?_eq_some_iff.1 hr, (matchRest_iff hparts r).1 h⟩
    · cases h
  · rintro ⟨r, hr, hm⟩
    rw [dropPrefix?_eq_some_iff.2 hr]
    exact (matchRest_iff hparts r).2 hm

example : accepts "http_*_ms" "http_request_latency_ms" = true := by decide

example : accepts "a*b*c" "acb" = false := by decide

end Glob

namespace BucketConfig

/-! ## Buckets -/

/-- Patterns are tried in byte order. -/
theorem pairwise_ordered (c : BucketConfig) :
    c.ordered.Pairwise fun a b => Text.utf8Bytes a.1 ≤ Text.utf8Bytes b.1 := by
  have hsorted : c.ordered.Pairwise fun a b => decide (a.1 ≤ b.1) = true :=
    List.pairwise_mergeSort
      (fun a b c hab hbc => by simp only [decide_eq_true_eq] at *; exact le_trans hab hbc)
      (fun a b => by simpa using le_total a.1 b.1) c.byPattern
  refine hsorted.imp fun {a b} hab => ?_
  simp only [decide_eq_true_eq] at hab
  rw [← List.not_lt, ← Text.lt_iff_utf8Bytes_lt]
  exact not_lt.2 hab

/-- A histogram takes the buckets of the least pattern in byte order that its name matches, and
the default buckets when it matches none. -/
theorem bucketsFor_least_match (c : BucketConfig) (name : String) :
    (∃ e ∈ c.byPattern, Glob.Matches e.1.toList name.toList ∧
        (∀ e' ∈ c.byPattern, Glob.Matches e'.1.toList name.toList →
          Text.utf8Bytes e.1 ≤ Text.utf8Bytes e'.1) ∧
        c.bucketsFor name = e.2) ∨
      ((∀ e ∈ c.byPattern, ¬ Glob.Matches e.1.toList name.toList) ∧
        c.bucketsFor name = c.defaultBuckets) := by
  unfold bucketsFor
  cases hf : c.ordered.find? (fun e => Glob.accepts e.1 name) with
  | some e =>
    obtain ⟨he, before, after, hsplit, hbefore⟩ := List.find?_eq_some_iff_append.1 hf
    have hmem : e ∈ c.byPattern := by
      rw [← List.mem_mergeSort]
      exact hsplit ▸ List.mem_append_right before List.mem_cons_self
    refine .inl ⟨e, hmem, (Glob.accepts_iff _ _).1 he, fun e' he' hm => ?_, rfl⟩
    have hpair := c.pairwise_ordered
    rw [hsplit, List.pairwise_append, List.pairwise_cons] at hpair
    have hin : e' ∈ before ++ e :: after := hsplit ▸ List.mem_mergeSort.2 he'
    rcases List.mem_append.1 hin with hb | ha
    · have := hbefore e' hb
      rw [(Glob.accepts_iff _ _).2 hm] at this
      cases this
    · rcases List.mem_cons.1 ha with rfl | ha
      · exact List.le_refl _
      · exact hpair.2.1.1 e' ha
  | none =>
    refine .inr ⟨fun e he hm => ?_, rfl⟩
    have := List.find?_eq_none.1 hf e (List.mem_mergeSort.2 he)
    rw [(Glob.accepts_iff _ _).2 hm] at this
    exact this rfl

/-- Histogram buckets by name: the matcher accepts exactly the names a pattern stands for, and a
histogram takes the buckets of the least matching pattern in byte order, or the default ones. -/
theorem histogram_buckets (c : BucketConfig) (name : String) :
    (∀ pattern n, Glob.accepts pattern n = true ↔ Glob.Matches pattern.toList n.toList) ∧
    ((∃ e ∈ c.byPattern, Glob.Matches e.1.toList name.toList ∧
        (∀ e' ∈ c.byPattern, Glob.Matches e'.1.toList name.toList →
          Text.utf8Bytes e.1 ≤ Text.utf8Bytes e'.1) ∧
        c.bucketsFor name = e.2) ∨
      ((∀ e ∈ c.byPattern, ¬ Glob.Matches e.1.toList name.toList) ∧
        c.bucketsFor name = c.defaultBuckets)) :=
  ⟨Glob.accepts_iff, bucketsFor_least_match c name⟩

end BucketConfig

end Sidecar.Metrics
