import Mathlib.Data.List.TakeWhile
import Mathlib.Data.Nat.ModEq
import Mathlib.Tactic.Positivity
import Mathlib.Tactic.Ring
import Sidecar.Duration.Parse
/-! # The grammar of duration texts

Once blanks are trimmed and one leading `+` is dropped, a duration text is read as a bare `0`
or as a nonempty run of segments `whole[.fraction]unit` (`Piece`). The reader accepts exactly
these texts whose segments sum to at most `signedMax`, and gives that sum
(`parse?_eq_some_iff_segments`).

A segment counts its whole part times its unit plus the floor of its fraction times its unit,
but only the first twenty fraction digits take part (`Piece.nanos`). From nanoseconds to
seconds the unit divides `10^20` and the cut loses nothing; for minutes and hours a fraction
of more than twenty digits can lose the one nanosecond its later digits carry
(`Piece.exactNanos_eq`). The text `.000000000001111111119h` is worth 4 ns read in full and is
read as 3 ns (`parse?_cut_hour_fraction`). -/
namespace Sidecar.Duration

/-! ## Units -/

/-- The units a segment may name, one constructor per spelling: micro has three. -/
inductive TimeUnit where
  | nanosecond
  | microsecond
  /-- `µs`, with the micro sign U+00B5. -/
  | microsecondSign
  /-- `μs`, with the Greek small letter mu U+03BC. -/
  | microsecondMu
  | millisecond
  | second
  | minute
  | hour
deriving DecidableEq, Repr

namespace TimeUnit

def text : TimeUnit → List Char
  | nanosecond => ['n', 's']
  | microsecond => ['u', 's']
  | microsecondSign => ['µ', 's']
  | microsecondMu => ['μ', 's']
  | millisecond => ['m', 's']
  | second => ['s']
  | minute => ['m']
  | hour => ['h']

def nanos : TimeUnit → Nat
  | nanosecond => 1
  | microsecond | microsecondSign | microsecondMu => 1000
  | millisecond => 1000000
  | second => 1000000000
  | minute => 60000000000
  | hour => 3600000000000

theorem unitNanos?_text (u : TimeUnit) : unitNanos? u.text = some u.nanos := by
  cases u <;> rfl

/-- The reader knows a unit exactly when it is the spelling of a `TimeUnit`. -/
theorem exists_of_unitNanos? {cs : List Char} {n : Nat} (h : unitNanos? cs = some n) :
    ∃ u : TimeUnit, u.text = cs ∧ u.nanos = n := by
  unfold unitNanos? at h
  split at h
  · exact ⟨nanosecond, rfl, Option.some.inj h⟩
  · exact ⟨microsecond, rfl, Option.some.inj h⟩
  · exact ⟨microsecondSign, rfl, Option.some.inj h⟩
  · exact ⟨microsecondMu, rfl, Option.some.inj h⟩
  · exact ⟨millisecond, rfl, Option.some.inj h⟩
  · exact ⟨second, rfl, Option.some.inj h⟩
  · exact ⟨minute, rfl, Option.some.inj h⟩
  · exact ⟨hour, rfl, Option.some.inj h⟩
  · cases h

theorem isUnitChar_of_mem_text (u : TimeUnit) : ∀ c ∈ u.text, isUnitChar c = true :=
  List.all_eq_true.1 (by cases u <;> rfl)

theorem exists_text_eq_cons (u : TimeUnit) : ∃ c r, u.text = c :: r ∧ isUnitChar c = true := by
  cases u <;> exact ⟨_, _, rfl, by decide⟩

theorem nanos_pos (u : TimeUnit) : 0 < u.nanos := by
  cases u <;> decide

theorem nanos_le (u : TimeUnit) : u.nanos ≤ 10 ^ fractionPlaces := by
  cases u <;> simp [nanos, fractionPlaces]

/-- Every unit but the minute and the hour divides `10^20` nanoseconds. -/
theorem nanos_dvd_or (u : TimeUnit) : u.nanos ∣ 10 ^ fractionPlaces ∨ u = minute ∨ u = hour := by
  cases u <;> simp [nanos, fractionPlaces]

end TimeUnit

/-! ## Decimal digits -/

theorem digit_lt {c : Char} (h : c.isDigit = true) : c.toNat - '0'.toNat < 10 := by
  simp only [Char.isDigit, Bool.and_eq_true, decide_eq_true_eq] at h
  have h9 : c.toNat ≤ 57 := UInt32.le_iff_toNat_le.1 h.2
  show c.toNat - 48 < 10
  omega

theorem foldl_digitsValue (acc : Nat) (ds : List Char) :
    ds.foldl (fun acc c => 10 * acc + (c.toNat - '0'.toNat)) acc =
      acc * 10 ^ ds.length + digitsValue ds := by
  induction ds generalizing acc with
  | nil => simp [digitsValue]
  | cons c ds ih =>
    simp only [List.foldl_cons, List.length_cons, digitsValue]
    rw [ih, ih]
    ring

theorem digitsValue_append (a b : List Char) :
    digitsValue (a ++ b) = digitsValue a * 10 ^ b.length + digitsValue b := by
  rw [digitsValue, List.foldl_append, foldl_digitsValue]
  rfl

theorem digitsValue_lt {ds : List Char} (h : ∀ c ∈ ds, c.isDigit = true) :
    digitsValue ds < 10 ^ ds.length := by
  induction ds with
  | nil => simp [digitsValue]
  | cons c ds ih =>
    have hc := digit_lt (h c (by simp))
    have hds := ih fun c hc => h c (by simp [hc])
    have hcons : digitsValue (c :: ds) =
        (c.toNat - '0'.toNat) * 10 ^ ds.length + digitsValue ds := by
      simpa [digitsValue] using digitsValue_append [c] ds
    have hmul := Nat.mul_le_mul_right (10 ^ ds.length) (Nat.le_of_lt_succ hc)
    rw [hcons, List.length_cons, Nat.pow_succ]
    omega

/-! ## Segments -/

/-- The text of an optional fraction: nothing, or a point and its digits. -/
def pointText : Option (List Char) → List Char
  | none => []
  | some f => '.' :: f

/-- One segment of a duration text, `whole[.fraction]unit`: decimal digits, an optional point
with decimal digits after it, and a unit, with a digit on at least one side of the point. -/
structure Piece where
  whole : List Char
  fraction : Option (List Char)
  unit : TimeUnit
  whole_digits : ∀ c ∈ whole, c.isDigit = true
  fraction_digits : ∀ c ∈ fraction.getD [], c.isDigit = true
  has_digit : whole ≠ [] ∨ fraction.getD [] ≠ []

theorem getD_map_take (o : Option (List Char)) (n : Nat) :
    (o.map (List.take n)).getD [] = (o.getD []).take n := by
  cases o <;> simp

namespace Piece

def digits (p : Piece) : List Char := p.fraction.getD []

def text (p : Piece) : List Char := p.whole ++ pointText p.fraction ++ p.unit.text

/-- What a segment stands for with its fraction read in full: the whole part times the unit,
plus the floor of the fraction times the unit. -/
def exactNanos (p : Piece) : Nat :=
  digitsValue p.whole * p.unit.nanos + digitsValue p.digits * p.unit.nanos / 10 ^ p.digits.length

/-- The segment with its fraction cut after `fractionPlaces` digits. -/
def cut (p : Piece) : Piece where
  whole := p.whole
  fraction := p.fraction.map (List.take fractionPlaces)
  unit := p.unit
  whole_digits := p.whole_digits
  fraction_digits c hc := p.fraction_digits c (List.mem_of_mem_take (getD_map_take _ _ ▸ hc))
  has_digit := p.has_digit.imp id fun h => by simpa [getD_map_take, fractionPlaces] using h

/-- What the reader counts a segment for: the exact value of the segment cut after twenty
fraction digits. -/
def nanos (p : Piece) : Nat := p.cut.exactNanos

theorem digits_cut (p : Piece) : p.cut.digits = p.digits.take fractionPlaces :=
  getD_map_take _ _

/-- A segment starts with a digit or a point, so it cannot continue the unit before it. -/
theorem exists_text_eq_cons (p : Piece) : ∃ c r, p.text = c :: r ∧ isUnitChar c = false := by
  cases hw : p.whole with
  | cons c r =>
    have hc := p.whole_digits c (by simp [hw])
    exact ⟨c, r ++ (pointText p.fraction ++ p.unit.text), by simp [text, hw],
      by simp [isUnitChar, hc]⟩
  | nil =>
    have hd := p.has_digit
    cases hf : p.fraction with
    | none => simp [hw, hf] at hd
    | some f => exact ⟨'.', f ++ p.unit.text, by simp [text, hw, hf, pointText], by decide⟩

end Piece

/-! ## Reading one segment -/

/-- What may follow a segment: nothing, or a character that cannot continue its unit. -/
def UnitStop (r : List Char) : Prop := ∀ c ∈ r.head?, isUnitChar c = false

theorem unitStop_flatten (ps : List Piece) : UnitStop (ps.map Piece.text).flatten := by
  cases ps with
  | nil => simp [UnitStop]
  | cons p ps =>
    obtain ⟨c, r, hp, hc⟩ := p.exists_text_eq_cons
    simp [UnitStop, hp, hc]

theorem takeWhile_append_stop {p : Char → Bool} {l r : List Char} (hl : ∀ c ∈ l, p c = true)
    (hr : ∀ c ∈ r.head?, p c = false) :
    (l ++ r).takeWhile p = l ∧ (l ++ r).dropWhile p = r := by
  rw [List.takeWhile_append_of_pos hl, List.dropWhile_append_of_pos hl]
  cases r with
  | nil => simp
  | cons c r =>
    have hc : ¬p c = true := by simpa using hr c rfl
    rw [List.takeWhile_cons_of_neg hc, List.dropWhile_cons_of_neg hc, List.append_nil]
    exact ⟨rfl, rfl⟩

theorem splitFraction_of_isUnitChar {c : Char} {r : List Char} (h : isUnitChar c = true) :
    Segment.splitFraction (c :: r) = ([], c :: r) := by
  have hc : c ≠ '.' := by
    rintro rfl
    cases h
  simp [Segment.splitFraction, hc]

theorem splitFraction_pointText (p : Piece) {r : List Char} :
    Segment.splitFraction (pointText p.fraction ++ p.unit.text ++ r) = (p.digits, p.unit.text ++ r) := by
  obtain ⟨c, us, hu, hc⟩ := p.unit.exists_text_eq_cons
  have hstop : ∀ d ∈ (p.unit.text ++ r).head?, d.isDigit = false := by
    simp only [hu, List.cons_append, List.head?_cons, Option.mem_def, Option.some.injEq]
    rintro d rfl
    exact (by simpa [isUnitChar] using hc : c.isDigit = false ∧ c ≠ '.').1
  cases hf : p.fraction with
  | none =>
    simp only [pointText, List.nil_append, hu, List.cons_append, Piece.digits, hf]
    exact splitFraction_of_isUnitChar hc
  | some f =>
    have hdig : ∀ d ∈ f, d.isDigit = true := by simpa [hf] using p.fraction_digits
    have hsplit := takeWhile_append_stop hdig hstop
    simp only [pointText, List.cons_append, Segment.splitFraction, List.append_assoc, hsplit,
      Piece.digits, hf, Option.getD_some]

/-- The reader splits a segment's text off whatever may follow it, and reads its parts back. -/
theorem split?_text (p : Piece) {rest : List Char} (h : UnitStop rest) :
    Segment.split? (p.text ++ rest) = some (⟨p.whole, p.digits, p.unit.text⟩, rest) := by
  obtain ⟨c, us, hu, hc⟩ := p.unit.exists_text_eq_cons
  have hafter : ∀ d ∈ (pointText p.fraction ++ p.unit.text ++ rest).head?, d.isDigit = false := by
    cases p.fraction <;> simp_all [pointText, isUnitChar]
  have hwhole := takeWhile_append_stop p.whole_digits hafter
  have hunit := takeWhile_append_stop p.unit.isUnitChar_of_mem_text h
  have hdigit : (p.whole.isEmpty && p.digits.isEmpty) = false := by
    rcases p.has_digit with hw | hd
    · simp [hw]
    · simp [Piece.digits, hd]
  have htext : p.text ++ rest = p.whole ++ (pointText p.fraction ++ p.unit.text ++ rest) := by
    simp [Piece.text]
  rw [htext]
  unfold Segment.split?
  simp only [hwhole.1, hwhole.2, splitFraction_pointText, hdigit, hunit.1, hunit.2]
  rfl

theorem nanos?_parts (p : Piece) :
    Segment.nanos? ⟨p.whole, p.digits, p.unit.text⟩ = some p.nanos := by
  simp [Segment.nanos?, TimeUnit.unitNanos?_text, Piece.nanos, Piece.exactNanos, Piece.digits_cut]
  rfl

theorem splitFraction_eq (cs : List Char) :
    ∃ o : Option (List Char), cs = pointText o ++ (Segment.splitFraction cs).2 ∧
      (Segment.splitFraction cs).1 = o.getD [] ∧
      ∀ c ∈ (Segment.splitFraction cs).1, c.isDigit = true := by
  unfold Segment.splitFraction
  split
  · next r =>
    exact ⟨some (r.takeWhile Char.isDigit), by simp [pointText, List.takeWhile_append_dropWhile],
      rfl, fun c hc => List.mem_takeWhile_imp hc⟩
  · exact ⟨none, rfl, rfl, by simp⟩

/-- What the reader splits off a text, with a unit it knows, is the text of a segment worth
what the reader counts. -/
theorem exists_piece_of_split? {cs rest : List Char} {s : Segment} {a : Nat}
    (hs : Segment.split? cs = some (s, rest)) (ha : s.nanos? = some a) :
    ∃ p : Piece, cs = p.text ++ rest ∧ p.nanos = a := by
  obtain ⟨o, hcs, hf, hdig⟩ := splitFraction_eq (cs.dropWhile Char.isDigit)
  unfold Segment.split? at hs
  generalize Segment.splitFraction (cs.dropWhile Char.isDigit) = fr at hs hcs hf hdig
  obtain ⟨f, r⟩ := fr
  dsimp only at hs hcs hf hdig
  split at hs
  · cases hs
  · next hne =>
    simp only [Option.some.injEq, Prod.mk.injEq] at hs
    obtain ⟨rfl, rfl⟩ := hs
    obtain ⟨n, hn, -⟩ := Option.map_eq_some_iff.1 ha
    obtain ⟨u, hu, -⟩ := TimeUnit.exists_of_unitNanos? hn
    have hdigit : cs.takeWhile Char.isDigit ≠ [] ∨ o.getD [] ≠ [] := by
      rw [← hf, ← not_and_or]
      simpa using hne
    let p : Piece := ⟨cs.takeWhile Char.isDigit, o, u, fun c hc => List.mem_takeWhile_imp hc,
      hf ▸ hdig, hdigit⟩
    refine ⟨p, ?_, ?_⟩
    · calc cs = cs.takeWhile Char.isDigit ++ (pointText o ++ r) := by
            rw [← hcs, List.takeWhile_append_dropWhile]
        _ = p.text ++ r.dropWhile isUnitChar := by
            simp [p, Piece.text, hu, List.takeWhile_append_dropWhile]
    · have hp := nanos?_parts p
      simp only [p, Piece.digits, ← hf, hu] at hp
      exact Option.some.inj (hp.symm.trans ha)

/-! ## Reading runs of segments -/

theorem segmentsNanos?_nil : segmentsNanos? [] = some 0 := by
  rw [segmentsNanos?]
  rfl

theorem segmentsNanos?_of_split? {cs rest : List Char} {s : Segment}
    (h : Segment.split? cs = some (s, rest)) :
    segmentsNanos? cs = s.nanos?.bind fun a => (segmentsNanos? rest).map (a + ·) := by
  have hne : cs.isEmpty = false := by
    cases cs with
    | nil => simp [Segment.split?, Segment.splitFraction] at h
    | cons => rfl
  rw [segmentsNanos?, if_neg (by simp [hne])]
  split
  · next hs => rw [hs] at h; cases h
  · next hs =>
    rw [hs] at h
    cases h
    cases s.nanos? <;> cases segmentsNanos? rest <;> rfl

/-- A run of segments is read as the sum of what each segment counts. -/
theorem segmentsNanos?_pieces (ps : List Piece) :
    segmentsNanos? (ps.map Piece.text).flatten = some (ps.map Piece.nanos).sum := by
  induction ps with
  | nil => exact segmentsNanos?_nil
  | cons p ps ih =>
    rw [List.map_cons, List.flatten_cons, segmentsNanos?_of_split? (split?_text p (unitStop_flatten ps)),
      nanos?_parts, ih]
    simp

/-- Whatever the reader accepts is a run of segments, and it gives their sum. -/
theorem exists_pieces_of_segmentsNanos? {cs : List Char} {n : Nat} (h : segmentsNanos? cs = some n) :
    ∃ ps : List Piece, cs = (ps.map Piece.text).flatten ∧ n = (ps.map Piece.nanos).sum := by
  induction cs using segmentsNanos?.induct generalizing n with
  | case1 cs hempty =>
    rw [List.isEmpty_iff.1 hempty, segmentsNanos?_nil] at h
    exact ⟨[], List.isEmpty_iff.1 hempty, (Option.some.inj h).symm⟩
  | case2 cs hne hnone =>
    rw [segmentsNanos?, if_neg hne] at h
    split at h
    · cases h
    · next hs => rw [hs] at hnone; cases hnone
  | case3 cs _ s rest hs _ ih =>
    rw [segmentsNanos?_of_split? hs] at h
    obtain ⟨a, ha, h⟩ := Option.bind_eq_some_iff.1 h
    obtain ⟨b, hb, rfl⟩ := Option.map_eq_some_iff.1 h
    obtain ⟨p, hcs, rfl⟩ := exists_piece_of_split? hs ha
    obtain ⟨ps, rfl, rfl⟩ := ih hb
    exact ⟨p :: ps, by simp [hcs], by simp⟩

/-! ## Reading a duration text -/

theorem flatten_text_ne {ps : List Piece} (h : ps ≠ []) :
    (ps.map Piece.text).flatten ≠ [] ∧ (ps.map Piece.text).flatten ≠ ['0'] := by
  obtain ⟨p, ps, rfl⟩ := List.exists_cons_of_ne_nil h
  obtain ⟨c, r, hu, hc⟩ := p.unit.exists_text_eq_cons
  have hmem : c ∈ ((p :: ps).map Piece.text).flatten := by simp [Piece.text, hu]
  constructor
  · intro he
    rw [he] at hmem
    cases hmem
  · intro he
    rw [he, List.mem_singleton] at hmem
    subst hmem
    exact absurd hc (by decide)

theorem parse?_of_zero {s : String} (h : body s = ['0']) : parse? s = some zero := by
  simp [parse?, h]

/-- A text that is a run of segments summing to at most `signedMax` reads as that sum. -/
theorem parse?_of_pieces {s : String} {d : Duration} {ps : List Piece} (hne : ps ≠ [])
    (hps : body s = (ps.map Piece.text).flatten)
    (hle : (ps.map Piece.nanos).sum ≤ signedMax.toNanos)
    (hd : d.toNanos = (ps.map Piece.nanos).sum) : parse? s = some d := by
  obtain ⟨hempty, hzero⟩ := flatten_text_ne hne
  unfold parse?
  dsimp only
  rw [if_neg (hps ▸ hzero), if_neg (hps ▸ hempty), hps, segmentsNanos?_pieces]
  dsimp only
  rw [dif_pos hle]
  obtain ⟨m, hm⟩ := d
  dsimp only at hd
  subst hd
  rfl

/-- Whatever the reader accepts is a bare `0`, or a run of segments within `signedMax` read as
its sum. -/
theorem exists_pieces_of_parse? {s : String} {d : Duration} (h : parse? s = some d) :
    (body s = ['0'] ∧ d = zero) ∨
      ∃ ps : List Piece, ps ≠ [] ∧ body s = (ps.map Piece.text).flatten ∧
        (ps.map Piece.nanos).sum ≤ signedMax.toNanos ∧ d.toNanos = (ps.map Piece.nanos).sum := by
  unfold parse? at h
  dsimp only at h
  split at h
  · next h0 => exact .inl ⟨h0, (Option.some.inj h).symm⟩
  split at h
  · cases h
  next he =>
  split at h
  · next n hn =>
    split at h
    · next hle =>
      cases h
      obtain ⟨ps, hps, rfl⟩ := exists_pieces_of_segmentsNanos? hn
      have hne : ps ≠ [] := by
        rintro rfl
        exact he hps
      exact .inr ⟨ps, hne, hps, hle, rfl⟩
    · cases h
  · cases h

/-- The reader accepts a duration text exactly when, trimmed and without one leading `+`, it is
a bare `0` or a nonempty run of segments whose values sum to at most `signedMax`, and it then
gives that sum. Each segment counts at `Piece.nanos`, with its fraction cut after twenty
digits. -/
theorem parse?_eq_some_iff_segments {s : String} {d : Duration} :
    parse? s = some d ↔
      (body s = ['0'] ∧ d = zero) ∨
        ∃ ps : List Piece, ps ≠ [] ∧ body s = (ps.map Piece.text).flatten ∧
          (ps.map Piece.nanos).sum ≤ signedMax.toNanos ∧ d.toNanos = (ps.map Piece.nanos).sum := by
  refine ⟨exists_pieces_of_parse?, ?_⟩
  rintro (⟨h0, rfl⟩ | ⟨ps, hne, hps, hle, hd⟩)
  · exact parse?_of_zero h0
  · exact parse?_of_pieces hne hps hle hd

/-! ## The twenty-digit cut -/

/-- Digits past the `n`-th of a fraction `a·10^k + b` over `10^(n+k)` add `b·u/10^k`, less than
`u`, to the numerator that the first `n` digits divide by `10^n`. -/
theorem shift_div (a b u n k : Nat) :
    (a * 10 ^ k + b) * u / 10 ^ (n + k) = (a * u + b * u / 10 ^ k) / 10 ^ n := by
  have hk : 0 < 10 ^ k := by positivity
  have hnum : (a * 10 ^ k + b) * u = b * u + a * u * 10 ^ k := by ring
  rw [hnum, pow_add, Nat.mul_comm (10 ^ n), ← Nat.div_div_eq_div_mul,
    Nat.add_mul_div_right _ _ hk, Nat.add_comm (b * u / 10 ^ k)]

/-- Adding less than `u` to a multiple of `u` never reaches the next multiple of a multiple of
`u`. -/
theorem mul_add_div_of_dvd (x : Nat) {e u c : Nat} (hdvd : u ∣ c) (he : e < u) :
    (x * u + e) / c = x * u / c := by
  obtain ⟨m, rfl⟩ := hdvd
  rcases Nat.eq_zero_or_pos m with rfl | hm
  · simp
  have hmod : x * u % (u * m) = u * (x % m) := by
    rw [Nat.mul_comm x u]
    exact Nat.mul_mod_mul_left u x m
  have hroom : u * (x % m) + u ≤ u * m := by
    have := Nat.mul_le_mul_left u (Nat.mod_lt x hm)
    rw [Nat.mul_succ] at this
    exact this
  have hum : u ≤ u * m := Nat.le_mul_of_pos_right u hm
  have hemod : e % (u * m) = e := Nat.mod_eq_of_lt (by omega)
  have hediv : e / (u * m) = 0 := Nat.div_eq_of_lt (by omega)
  rw [Nat.add_div_eq_of_add_mod_lt (by rw [hmod, hemod]; omega), hediv, Nat.add_zero]

theorem add_div_le_succ (x : Nat) {e c : Nat} (hc : 0 < c) (he : e ≤ c) :
    (x + e) / c ≤ x / c + 1 :=
  calc (x + e) / c ≤ (x + c) / c := Nat.div_le_div_right (by omega)
    _ = x / c + 1 := Nat.add_div_right x hc

namespace Piece

theorem exactNanos_eq_nanos_of_length_le {p : Piece} (h : p.digits.length ≤ fractionPlaces) :
    p.exactNanos = p.nanos := by
  rw [nanos, exactNanos, exactNanos, digits_cut, List.take_of_length_le h]
  rfl

theorem nanos_of_lt {p : Piece} (h : fractionPlaces < p.digits.length) :
    p.nanos = digitsValue p.whole * p.unit.nanos +
      digitsValue (p.digits.take fractionPlaces) * p.unit.nanos / 10 ^ fractionPlaces := by
  rw [nanos, exactNanos, digits_cut, List.length_take_of_le h.le]
  rfl

/-- Past twenty fraction digits, the later digits add less than one unit to the numerator that
the first twenty divide by `10^20`. -/
theorem exists_exactNanos_of_lt {p : Piece} (h : fractionPlaces < p.digits.length) :
    ∃ e < p.unit.nanos, p.exactNanos = digitsValue p.whole * p.unit.nanos +
      (digitsValue (p.digits.take fractionPlaces) * p.unit.nanos + e) / 10 ^ fractionPlaces := by
  have hval : digitsValue p.digits = digitsValue (p.digits.take fractionPlaces) *
      10 ^ (p.digits.drop fractionPlaces).length + digitsValue (p.digits.drop fractionPlaces) := by
    conv_lhs => rw [← List.take_append_drop fractionPlaces p.digits]
    exact digitsValue_append _ _
  have hlen : p.digits.length = fractionPlaces + (p.digits.drop fractionPlaces).length := by
    rw [List.length_drop]
    omega
  have hdrop : digitsValue (p.digits.drop fractionPlaces) <
      10 ^ (p.digits.drop fractionPlaces).length :=
    digitsValue_lt fun c hc => p.fraction_digits c (List.mem_of_mem_drop hc)
  refine ⟨digitsValue (p.digits.drop fractionPlaces) * p.unit.nanos /
      10 ^ (p.digits.drop fractionPlaces).length, ?_, ?_⟩
  · rw [Nat.div_lt_iff_lt_mul (by positivity), Nat.mul_comm p.unit.nanos]
    exact Nat.mul_lt_mul_of_pos_right hdrop p.unit.nanos_pos
  · rw [exactNanos, hval, hlen, shift_div]

/-- The reader counts a segment at its exact value, except that a minute or hour segment with
more than twenty fraction digits may lose the one nanosecond its later digits carry. -/
theorem exactNanos_eq (p : Piece) :
    p.exactNanos = p.nanos ∨
      (p.exactNanos = p.nanos + 1 ∧ (p.unit = .minute ∨ p.unit = .hour) ∧
        fractionPlaces < p.digits.length) := by
  by_cases hlen : p.digits.length ≤ fractionPlaces
  · exact .inl (exactNanos_eq_nanos_of_length_le hlen)
  have hlong : fractionPlaces < p.digits.length := by omega
  obtain ⟨e, he, hexact⟩ := exists_exactNanos_of_lt hlong
  rw [hexact, nanos_of_lt hlong]
  rcases p.unit.nanos_dvd_or with hdvd | hunit
  · -- the unit divides `10^20`, so the later digits never carry
    left
    rw [mul_add_div_of_dvd _ hdvd he]
  · have hup := add_div_le_succ (digitsValue (p.digits.take fractionPlaces) * p.unit.nanos)
      (by positivity : 0 < 10 ^ fractionPlaces) (he.le.trans p.unit.nanos_le)
    have hdown : digitsValue (p.digits.take fractionPlaces) * p.unit.nanos / 10 ^ fractionPlaces ≤
        (digitsValue (p.digits.take fractionPlaces) * p.unit.nanos + e) / 10 ^ fractionPlaces :=
      Nat.div_le_div_right (Nat.le_add_right _ _)
    rcases Nat.eq_or_lt_of_le hdown with hsame | hcarry
    · left
      rw [hsame]
    · right
      exact ⟨by omega, hunit, hlong⟩

end Piece

/-- Where no minute or hour segment has more than twenty fraction digits, the reader counts every
segment at its exact value. -/
theorem sum_nanos_eq_sum_exactNanos {ps : List Piece}
    (h : ∀ p ∈ ps, p.unit = .minute ∨ p.unit = .hour → p.digits.length ≤ fractionPlaces) :
    (ps.map Piece.nanos).sum = (ps.map Piece.exactNanos).sum := by
  rw [List.map_congr_left fun p hp => ?_]
  rcases p.exactNanos_eq with heq | ⟨-, hunit, hlong⟩
  · exact heq.symm
  · exact absurd (h p hp hunit) (by omega)

/-- `.000000000001111111119h` is one hour segment, worth 4 ns read in full, which the reader
counts as 3 ns: its twenty-first fraction digit carries the nanosecond that the cut drops. -/
theorem parse?_cut_hour_fraction :
    ∃ p : Piece, body ".000000000001111111119h" = p.text ∧ p.exactNanos = 4 ∧
      (parse? ".000000000001111111119h").map Duration.toNanos = some 3 := by
  let p : Piece :=
    ⟨[], some "000000000001111111119".toList, .hour, by simp, List.all_eq_true.1 rfl, by decide⟩
  have hbody : body ".000000000001111111119h" = ([p].map Piece.text).flatten := by decide
  have hread : parse? ".000000000001111111119h" = some ⟨3, by decide⟩ :=
    parse?_of_pieces (List.cons_ne_nil p []) hbody (by decide) (by decide)
  exact ⟨p, hbody, by decide, by rw [hread]; rfl⟩

end Sidecar.Duration
