import Sidecar.Duration.Wide
import Sidecar.Proofs.DurationText
/-! # Reading durations in 128-bit arithmetic

The reader keeps segment values and its running total in unsigned 128-bit integers
(`Wide.read`). Proved here (`reading_safety`):

* each pass of its loop takes off whole digits or a point with digits after it, then a unit:
  at least one byte, so the loop ends (`byteLength_rest_lt`);
* the fraction is cut at byte twenty or at its end, which is a character boundary, and keeps at
  most twenty digits of one byte each (`sliceBytes_of_digits`);
* the power of ten it is scaled by is at most `10^20`, and the unchecked product of the kept
  digits by the unit stays below `10^20` hours, itself below `2^128` (`kept_product_lt`);
* reading never panics, and a checked step that overflows makes the answer `none`, which is
  what exact arithmetic answers too (`read_eq_parse?`). -/
namespace Sidecar.Duration.Wide

/-! ## Checked steps -/

@[simp] theorem checked_eq_none_iff {n : Nat} : checked n = none ↔ limit ≤ n := by
  unfold checked
  split <;> simp <;> omega

theorem checked_of_lt {n : Nat} (h : n < limit) : checked n = some n := if_pos h

theorem checked_of_le {n : Nat} (h : limit ≤ n) : checked n = none := checked_eq_none_iff.2 h

theorem eq_of_checked_eq_some {n m : Nat} (h : checked n = some m) : n < limit ∧ n = m := by
  unfold checked at h
  split at h
  · exact ⟨‹_›, Option.some.inj h⟩
  · cases h

theorem unchecked_of_lt {n : Nat} (h : n < limit) : unchecked n = .ok n := if_pos h

/-- Reading digits into a 128-bit integer and multiplying by a unit, both checked, fail exactly when the
product does not fit: a number that does not fit gives a product that does not either. -/
theorem bind_checked_mul {n u : Nat} (hu : 0 < u) :
    (checked n).bind (fun w => checked (w * u)) = checked (n * u) := by
  by_cases hn : n < limit
  · rw [checked_of_lt hn]
    rfl
  · have hprod : limit ≤ n * u := Nat.le_trans (Nat.not_lt.1 hn) (Nat.le_mul_of_pos_right n hu)
    rw [checked_of_le (Nat.not_lt.1 hn), checked_of_le hprod]
    rfl

/-- Once the running total is past the limit, no later segment brings it back. -/
theorem bind_checked_of_le {x : Nat} (o : Option Nat) (h : limit ≤ x) :
    (o.bind fun n => checked (x + n)) = none := by
  cases o with
  | none => rfl
  | some n => exact checked_of_le (Nat.le_trans h (Nat.le_add_right x n))

theorem map_bind_checked (o : Option Nat) (acc a : Nat) :
    ((o.map (a + ·)).bind fun n => checked (acc + n)) = o.bind fun n => checked (acc + a + n) := by
  cases o with
  | none => rfl
  | some n => simp [Nat.add_assoc]

/-! ## Bytes -/

theorem length_le_byteLength (cs : List Char) : cs.length ≤ byteLength cs := by
  induction cs with
  | nil => simp
  | cons c cs ih =>
    have := c.utf8Size_pos
    simp only [byteLength_cons, List.length_cons]
    omega

theorem utf8Size_of_isDigit {c : Char} (h : c.isDigit = true) : c.utf8Size = 1 := by
  simp only [Char.isDigit, Bool.and_eq_true, decide_eq_true_eq] at h
  have h9 : c.toNat ≤ 57 := UInt32.le_iff_toNat_le.1 h.2
  exact Char.utf8Size_eq_one_iff.2 (UInt32.le_iff_toNat_le.2 (by simp; omega))

/-- Decimal digits are ASCII: a run of them has a byte for each digit. -/
theorem byteLength_of_digits {cs : List Char} (h : ∀ c ∈ cs, c.isDigit = true) :
    byteLength cs = cs.length := by
  induction cs with
  | nil => rfl
  | cons c cs ih =>
    have hc := utf8Size_of_isDigit (h c List.mem_cons_self)
    rw [byteLength_cons, hc, ih fun d hd => h d (List.mem_cons_of_mem c hd), List.length_cons,
      Nat.add_comm]

/-- In a run of digits every byte up to the end is a character boundary, so slicing there
keeps that many digits. -/
theorem sliceBytes_of_digits {cs : List Char} (h : ∀ c ∈ cs, c.isDigit = true) {k : Nat}
    (hk : k ≤ cs.length) : sliceBytes cs k = .ok (cs.take k) := by
  induction cs generalizing k with
  | nil =>
    rw [Nat.le_zero.1 hk]
    rfl
  | cons c cs ih =>
    cases k with
    | zero => rfl
    | succ k =>
      have hc := utf8Size_of_isDigit (h c List.mem_cons_self)
      have hrest := ih (fun d hd => h d (List.mem_cons_of_mem c hd)) (k := k)
        (by simpa using hk)
      rw [sliceBytes, if_pos (by omega), hc, Nat.add_sub_cancel, hrest]
      rfl

/-- The reader's cut of a fraction of digits, at byte twenty or at its end, keeps its first
twenty digits. -/
theorem sliceBytes_fraction {f : List Char} (hf : ∀ c ∈ f, c.isDigit = true) :
    sliceBytes f (min (byteLength f) fractionPlaces) = .ok (f.take fractionPlaces) := by
  rw [byteLength_of_digits hf, sliceBytes_of_digits hf (Nat.min_le_left _ _)]
  congr 1
  rw [List.take_eq_take_iff]
  omega

/-! ## The fraction's share -/

/-- Every unit the reader knows is at least a nanosecond and at most an hour. -/
theorem unitNanos?_bounds {cs : List Char} {u : Nat} (h : unitNanos? cs = some u) :
    0 < u ∧ u ≤ TimeUnit.hour.nanos := by
  obtain ⟨t, -, rfl⟩ := TimeUnit.exists_of_unitNanos? h
  exact ⟨t.nanos_pos, by cases t <;> decide⟩

theorem kept_value_lt {f : List Char} (hf : ∀ c ∈ f, c.isDigit = true) :
    digitsValue (f.take fractionPlaces) < 10 ^ fractionPlaces :=
  calc digitsValue (f.take fractionPlaces) < 10 ^ (f.take fractionPlaces).length :=
        digitsValue_lt fun c hc => hf c (List.mem_of_mem_take hc)
    _ ≤ 10 ^ fractionPlaces := Nat.pow_le_pow_right (by decide) (List.length_take_le _ _)

/-- The product the reader leaves unchecked: at most twenty digits times a unit, below `10^20`
hours. -/
theorem kept_product_lt {f : List Char} (hf : ∀ c ∈ f, c.isDigit = true) {u : Nat}
    (hle : u ≤ TimeUnit.hour.nanos) :
    digitsValue (f.take fractionPlaces) * u < 10 ^ fractionPlaces * TimeUnit.hour.nanos :=
  Nat.mul_lt_mul_of_lt_of_le (kept_value_lt hf) hle TimeUnit.hour.nanos_pos

theorem hours_lt_limit : 10 ^ fractionPlaces * TimeUnit.hour.nanos < limit := by decide

/-- A fraction of digits adds the share its first twenty digits give, and no unchecked step on
the way overflows. -/
theorem fractionShare_eq {f : List Char} (hf : ∀ c ∈ f, c.isDigit = true) {u : Nat}
    (hle : u ≤ TimeUnit.hour.nanos) :
    fractionShare f u = .ok (some (digitsValue (f.take fractionPlaces) * u /
      Nat.pow 10 (f.take fractionPlaces).length)) := by
  have hkept : ∀ c ∈ f.take fractionPlaces, c.isDigit = true :=
    fun c hc => hf c (List.mem_of_mem_take hc)
  have hlen : (f.take fractionPlaces).length ≤ fractionPlaces := List.length_take_le _ _
  have hscale : Nat.pow 10 (f.take fractionPlaces).length < limit :=
    Nat.lt_of_le_of_lt (Nat.pow_le_pow_right (by decide) hlen) (by decide)
  have hexp : byteLength (f.take fractionPlaces) % Nat.pow 2 32 = (f.take fractionPlaces).length := by
    rw [byteLength_of_digits hkept]
    exact Nat.mod_eq_of_lt (Nat.lt_of_le_of_lt hlen (by decide))
  have hvalue : digitsValue (f.take fractionPlaces) < limit :=
    Nat.lt_trans (kept_value_lt hf) (by decide)
  have hproduct := Nat.lt_trans (kept_product_lt hf hle) hours_lt_limit
  have hpos : Nat.pow 10 (f.take fractionPlaces).length ≠ 0 := Nat.pos_iff_ne_zero.1 (Nat.pow_pos (by decide))
  simp only [fractionShare, sliceBytes_fraction hf, hexp, unchecked_of_lt hscale,
    checked_of_lt hvalue, unchecked_of_lt hproduct, quotient, if_neg hpos, bind, Except.bind,
    Except.map_ok]

/-! ## Segments -/

/-- What one pass of the loop takes off: whole digits, an optional point with the fraction
digits after it, and the unit, with a digit on at least one side of the point. -/
theorem split?_parts {cs rest : List Char} {s : Segment} (h : Segment.split? cs = some (s, rest)) :
    (∃ o, cs = s.whole ++ pointText o ++ s.unit ++ rest ∧ s.fraction = o.getD []) ∧
      (∀ c ∈ s.whole ++ s.fraction, c.isDigit = true) ∧ (s.whole ≠ [] ∨ s.fraction ≠ []) := by
  obtain ⟨o, hcs, hf, hdig⟩ := splitFraction_eq (cs.dropWhile Char.isDigit)
  unfold Segment.split? at h
  generalize Segment.splitFraction (cs.dropWhile Char.isDigit) = fr at h hcs hf hdig
  obtain ⟨f, r⟩ := fr
  dsimp only at h hcs hf hdig
  split at h
  · cases h
  · next hne =>
    simp only [Option.some.injEq, Prod.mk.injEq] at h
    obtain ⟨rfl, rfl⟩ := h
    refine ⟨⟨o, ?_, hf⟩, ?_, ?_⟩
    · calc cs = cs.takeWhile Char.isDigit ++ (pointText o ++ r) := by
            rw [← hcs, List.takeWhile_append_dropWhile]
        _ = _ := by simp [List.takeWhile_append_dropWhile]
    · intro c hc
      rcases List.mem_append.1 hc with hw | hfr
      · exact List.mem_takeWhile_imp hw
      · exact hdig c hfr
    · rw [← not_and_or]
      simpa using hne

/-- Each pass of the loop consumes at least one byte. -/
theorem byteLength_rest_lt {cs rest : List Char} {s : Segment}
    (h : Segment.split? cs = some (s, rest)) : byteLength rest < byteLength cs := by
  obtain ⟨⟨o, hcs, hf⟩, -, hdigit⟩ := split?_parts h
  -- the first whole digit, or else the point, is a byte the pass takes
  have hfirst : 0 < byteLength s.whole + byteLength (pointText o) := by
    rcases hdigit with hw | hfr
    · have := length_le_byteLength s.whole
      have := List.length_pos_iff.2 hw
      omega
    · cases o with
      | none => exact absurd hf hfr
      | some f =>
        have := Char.utf8Size_pos '.'
        simp only [pointText, byteLength_cons]
        omega
  rw [hcs]
  simp only [byteLength_append]
  omega

theorem split?_fraction_digits {cs rest : List Char} {s : Segment}
    (h : Segment.split? cs = some (s, rest)) : ∀ c ∈ s.fraction, c.isDigit = true :=
  fun c hc => (split?_parts h).2.1 c (List.mem_append_right _ hc)

/-- A segment split off a text is worth what exact arithmetic gives, when that fits in 128
bits, and `none` otherwise; no step on the way panics. -/
theorem segmentNanos_eq {s : Segment} (hf : ∀ c ∈ s.fraction, c.isDigit = true) :
    segmentNanos s = .ok (s.nanos?.bind checked) := by
  unfold segmentNanos Segment.nanos?
  cases hu : unitNanos? s.unit with
  | none => rfl
  | some u =>
    obtain ⟨hpos, hle⟩ := unitNanos?_bounds hu
    have hwhole : (if s.whole.isEmpty then some 0
        else (checked (digitsValue s.whole)).bind fun w => checked (w * u)) =
        checked (digitsValue s.whole * u) := by
      cases hw : s.whole with
      | nil => simp [digitsValue, checked_of_lt (by decide : 0 < limit)]
      | cons c cs => exact bind_checked_mul hpos
    simp only [Option.map_some, Option.bind_some]
    rw [hwhole]
    cases hA : checked (digitsValue s.whole * u) with
    | none =>
      rw [checked_of_le (Nat.le_trans (checked_eq_none_iff.1 hA) (Nat.le_add_right _ _))]
      rfl
    | some w =>
      obtain ⟨hlt, rfl⟩ := eq_of_checked_eq_some hA
      dsimp only
      by_cases hfe : s.fraction.isEmpty
      · have hnil : s.fraction = [] := List.isEmpty_iff.1 hfe
        have hzero : digitsValue [] = 0 := rfl
        rw [if_pos hfe, hnil, List.take_nil, hzero, Nat.zero_mul, Nat.zero_div, Nat.add_zero,
          checked_of_lt hlt]
        rfl
      · rw [if_neg hfe, fractionShare_eq hf hle]
        rfl

/-! ## The loop -/

/-- One pass of the loop: the segment's value, added to the running total with a checked
addition. -/
theorem total_of_split? {cs rest : List Char} {s : Segment} (acc : Nat)
    (h : Segment.split? cs = some (s, rest)) :
    total acc cs = match segmentNanos s with
      | .error p => .error p
      | .ok none => pure none
      | .ok (some a) =>
        match checked (acc + a) with
        | none => pure none
        | some acc => total acc rest := by
  have hne : cs.isEmpty = false := by
    cases cs with
    | nil => simp [Segment.split?, Segment.splitFraction] at h
    | cons => rfl
  rw [total, if_neg (by simp [hne])]
  split
  · next hs => rw [hs] at h; cases h
  · next hs =>
    rw [hs] at h
    cases h
    rfl

/-- The loop from a running total that fits adds up exactly what the segments are worth, and
answers `none` where exact arithmetic passes `2^128 - 1`. -/
theorem total_eq {acc : Nat} (hacc : acc < limit) (cs : List Char) :
    total acc cs = .ok ((segmentsNanos? cs).bind fun n => checked (acc + n)) := by
  induction cs using segmentsNanos?.induct generalizing acc with
  | case1 cs hempty =>
    rw [List.isEmpty_iff.1 hempty, segmentsNanos?_nil, total, if_pos List.isEmpty_nil,
      Option.bind_some, Nat.add_zero, checked_of_lt hacc]
    rfl
  | case2 cs hne hnone =>
    have hread : segmentsNanos? cs = none := by
      rw [segmentsNanos?, if_neg hne]
      split
      · rfl
      · next hs => rw [hs] at hnone; cases hnone
    rw [hread, total, if_neg hne]
    split
    · rfl
    · next hs => rw [hs] at hnone; cases hnone
  | case3 cs _ s rest hs _ ih =>
    rw [total_of_split? acc hs, segmentNanos_eq (split?_fraction_digits hs),
      segmentsNanos?_of_split? hs]
    cases ha : s.nanos? with
    | none => rfl
    | some a =>
      simp only [Option.bind_some]
      by_cases hsum : acc + a < limit
      · have hfit : checked a = some a := checked_of_lt (by omega)
        rw [hfit]
        dsimp only
        rw [checked_of_lt hsum]
        dsimp only
        rw [ih hsum, map_bind_checked]
      · have hover := bind_checked_of_le (segmentsNanos? rest) (Nat.not_lt.1 hsum)
        rw [map_bind_checked, hover]
        cases hc : checked a with
        | none => rfl
        | some a' =>
          obtain ⟨-, rfl⟩ := eq_of_checked_eq_some hc
          dsimp only
          rw [checked_of_le (Nat.not_lt.1 hsum)]
          rfl

/-! ## Reading a text -/

/-- The total becomes a duration exactly when it is at most `signedMax`. -/
theorem ofTotal_eq_some_iff {n : Nat} {d : Duration} :
    ofTotal n = some d ↔ n ≤ signedMax.toNanos ∧ d.toNanos = n := by
  unfold ofTotal
  split
  · dsimp only
    split
    · next hle =>
      constructor
      · rintro ⟨⟩
        exact ⟨hle, rfl⟩
      · rintro ⟨-, hd⟩
        obtain ⟨m, hm⟩ := d
        dsimp only at hd
        subst hd
        rfl
    · next hgt => exact ⟨(fun h => by cases h), fun h => absurd h.1 hgt⟩
  · next hge =>
    exact ⟨(fun h => by cases h), fun h => absurd (Nat.lt_of_le_of_lt h.1 (by decide)) hge⟩

/-- Reading with 128-bit arithmetic never panics, and answers what exact arithmetic answers. -/
theorem read_eq_parse? (str : String) : read str = .ok (parse? str) := by
  unfold read parse?
  dsimp only
  split
  · rfl
  split
  · rfl
  rw [total_eq (by decide) (body str)]
  cases hn : segmentsNanos? (body str) with
  | none => rfl
  | some n =>
    simp only [Option.bind_some, Nat.zero_add]
    show Except.ok ((checked n).bind ofTotal) = _
    congr 1
    by_cases hle : n ≤ signedMax.toNanos
    · rw [checked_of_lt (Nat.lt_of_le_of_lt hle (by decide)), Option.bind_some, dif_pos hle]
      exact ofTotal_eq_some_iff.2 ⟨hle, rfl⟩
    · rw [dif_neg hle]
      cases hc : checked n with
      | none => rfl
      | some m =>
        obtain ⟨-, rfl⟩ := eq_of_checked_eq_some hc
        rw [Option.bind_some, Option.eq_none_iff_forall_ne_some]
        intro d hd
        exact hle (ofTotal_eq_some_iff.1 hd).1

/-! ## Safety of the reader -/

/-- What the reader's arithmetic and slicing guarantee on every text. -/
structure ReadingSafety : Prop where
  /-- Each pass of the loop takes off whole digits, or a point with digits after it, and then a
  unit: at least one byte. -/
  progress : ∀ {cs rest : List Char} {s : Segment}, Segment.split? cs = some (s, rest) →
    (∃ o, cs = s.whole ++ pointText o ++ s.unit ++ rest ∧ s.fraction = o.getD []) ∧
      (∀ c ∈ s.whole ++ s.fraction, c.isDigit = true) ∧ (s.whole ≠ [] ∨ s.fraction ≠ []) ∧
      byteLength rest < byteLength cs
  /-- The fraction is cut at byte twenty or at its end, a character boundary, and keeps at most
  twenty digits of one byte each. -/
  cut : ∀ {cs rest : List Char} {s : Segment}, Segment.split? cs = some (s, rest) →
    sliceBytes s.fraction (min (byteLength s.fraction) fractionPlaces) =
        .ok (s.fraction.take fractionPlaces) ∧
      byteLength (s.fraction.take fractionPlaces) = (s.fraction.take fractionPlaces).length ∧
      (s.fraction.take fractionPlaces).length ≤ fractionPlaces
  /-- For a unit the reader knows, the scale is at most `10^20` and the unchecked product of the
  kept digits by the unit stays below `10^20` hours, which is below `2^128`. -/
  product : ∀ {cs rest : List Char} {s : Segment} {u : Nat}, Segment.split? cs = some (s, rest) →
    unitNanos? s.unit = some u →
      10 ^ byteLength (s.fraction.take fractionPlaces) ≤ 10 ^ fractionPlaces ∧
      digitsValue (s.fraction.take fractionPlaces) * u < 10 ^ fractionPlaces * TimeUnit.hour.nanos ∧
      10 ^ fractionPlaces * TimeUnit.hour.nanos < limit
  /-- Reading never panics, and a checked step that overflows makes the answer `none`, never a
  wrapped value: the answer is the one exact arithmetic gives. -/
  exact : ∀ str, read str = .ok (parse? str)

/-- The duration reader ends on every text, cuts fractions on character boundaries, keeps its
unchecked arithmetic within 128 bits, and turns every overflow of a checked step into `none`. -/
theorem reading_safety : ReadingSafety where
  progress h := ⟨(split?_parts h).1, (split?_parts h).2.1, (split?_parts h).2.2,
    byteLength_rest_lt h⟩
  cut h := by
    have hf := split?_fraction_digits h
    refine ⟨sliceBytes_fraction hf, byteLength_of_digits fun c hc => hf c (List.mem_of_mem_take hc),
      List.length_take_le _ _⟩
  product h hu := by
    have hf := split?_fraction_digits h
    obtain ⟨hpos, hle⟩ := unitNanos?_bounds hu
    refine ⟨?_, kept_product_lt hf hle, hours_lt_limit⟩
    rw [byteLength_of_digits fun c hc => hf c (List.mem_of_mem_take hc)]
    exact Nat.pow_le_pow_right (by decide) (List.length_take_le _ _)
  exact := read_eq_parse?

end Sidecar.Duration.Wide
