import Sidecar.Metrics.Registry
/-! # The instrument table of a metrics registry

The factories for counters, gauges and histograms share one get-or-register step,
`Registry.register`. Proved here, for every run of registrations from any registry:

* a registration of a name that the table holds answers from the instrument it holds: it gets it
  back when the kinds agree and is refused with the held kind otherwise, and neither changes the
  registry, whatever help text and labels it gives;
* a registration of a name the table does not hold either binds the name to the instrument it
  makes, with the buckets `bucketsFor` gives a histogram of that name, or is refused and leaves
  the table as it was;
* so from its first successful registration on, a name keeps the instrument that registration
  made;
* a refused registration is forgotten: every later registration answers as if it had not been
  made. This rests on the exposition registry refusing without a trace, which it does unless the
  registration's id is the id of a collector of several descriptors (`Ledger.Unclashed`).

Main statement: `instrument_table`. -/

namespace Sidecar.Metrics

/-- A request to one of the factories: the kind of instrument, its name, help text and label
names. -/
structure Registration where
  kind : InstrumentKind
  name : String
  help : String
  labels : List String

namespace Registration

def descriptor (c : Registration) : Descriptor := ⟨c.name, c.help, c.labels, []⟩

/-- The instrument a successful registration makes under a bucket configuration. -/
def made (c : Registration) (config : BucketConfig) : Instrument :=
  ⟨c.kind, c.descriptor, if c.kind == .histogram then config.bucketsFor c.name else [], []⟩

theorem descriptor_id (c : Registration) : c.descriptor.id = descriptorId c.name [] := rfl

end Registration

namespace Ledger

/-- No name of `names` has the id of a collector that the ledger holds without holding a
descriptor of that id. Such a collector has several descriptors, its id being the wrapping sum of
theirs (the process collector's is one), and a descriptor that hits its id is refused only after
its dimensions have been recorded. -/
def Unclashed (l : Ledger) (names : List String) : Prop :=
  ∀ n ∈ names, descriptorId n [] ∈ l.collectorIds → descriptorId n [] ∈ l.descriptorIds

/-- Unclashed-ness reads only the two id lists. -/
theorem Unclashed.of_ids {l l' : Ledger} {names : List String} (h : l.Unclashed names)
    (hd : l'.descriptorIds = l.descriptorIds) (hc : l'.collectorIds = l.collectorIds) :
    l'.Unclashed names := by
  intro n hn
  rw [hd, hc]
  exact h n hn

/-- Admitting one more descriptor keeps the ledger unclashed. -/
theorem Unclashed.cons {l l' : Ledger} {names : List String} (h : l.Unclashed names) (x : UInt64)
    (hd : l'.descriptorIds = x :: l.descriptorIds) (hc : l'.collectorIds = x :: l.collectorIds) :
    l'.Unclashed names := by
  intro n hn hmem
  rw [hc, List.mem_cons] at hmem
  rw [hd, List.mem_cons]
  rcases hmem with heq | hmem
  · exact .inl heq
  · exact .inr (h n hn hmem)

/-- Everything admitting a collector of one descriptor can do: refuse it and stay as it is;
refuse it with the dimensions recorded, only when its id is a collector's id and no
descriptor's; or admit it, adding its id to the descriptors' and the collectors' ids. -/
theorem enroll_single (l : Ledger) (d : Descriptor) :
    (∃ f, l.enroll [d] = (l, .error f)) ∨
    (d.id ∈ l.collectorIds ∧ d.id ∉ l.descriptorIds ∧
      ∃ l' f, l.enroll [d] = (l', .error f) ∧ l'.descriptorIds = l.descriptorIds ∧
        l'.collectorIds = l.collectorIds) ∨
    (∃ l', l.enroll [d] = (l', .ok ()) ∧ l'.descriptorIds = d.id :: l.descriptorIds ∧
      l'.collectorIds = d.id :: l.collectorIds) := by
  unfold enroll enroll.go
  by_cases hd : d.id ∈ l.descriptorIds
  · exact .inl ⟨.alreadyRegistered, by simp [hd]⟩
  by_cases hdim : (l.dimensionsOf d.name).any (· != d.dimensions) = true
  · exact .inl ⟨.inconsistentDimensions d.debugText, by simp [hd, hdim]⟩
  -- the dimensions are recorded; the collector's id is then its one descriptor's id
  rw [Bool.not_eq_true] at hdim
  simp only [hd, hdim, Bool.false_eq_true, if_false, List.not_mem_nil, UInt64.zero_add]
  unfold enroll.go
  by_cases hc : d.id ∈ l.collectorIds
  · refine .inr (.inl ⟨hc, not_false, l.noteDimensions d.name d.dimensions, .alreadyRegistered,
      ?_, rfl, rfl⟩)
    simp only [noteDimensions, hc, if_true]
  · refine .inr (.inr ⟨{ l.noteDimensions d.name d.dimensions with
      descriptorIds := d.id :: l.descriptorIds, collectorIds := d.id :: l.collectorIds },
      ?_, rfl, rfl⟩)
    simp only [noteDimensions, hc, if_false, List.singleton_append]

end Ledger

namespace Registry

variable {r : Registry} {c : Registration} {names : List String}

def apply (r : Registry) (c : Registration) : Registry × Except MetricsError Unit :=
  r.register c.kind c.name c.help c.labels

def registerAll (r : Registry) (cs : List Registration) : Registry :=
  cs.foldl (fun r c => (r.apply c).1) r

@[simp] theorem registerAll_nil (r : Registry) : r.registerAll [] = r := rfl

@[simp] theorem registerAll_cons (r : Registry) (c : Registration) (cs : List Registration) :
    r.registerAll (c :: cs) = (r.apply c).1.registerAll cs := rfl

theorem registerAll_append (r : Registry) (cs ds : List Registration) :
    r.registerAll (cs ++ ds) = (r.registerAll cs).registerAll ds := List.foldl_append

/-- What holds of the start and is kept by every registration holds all along a run. -/
theorem registerAll_induction (P : Registry → Prop) (step : ∀ r c, P r → P (r.apply c).1) :
    ∀ (cs : List Registration) {r : Registry}, P r → P (r.registerAll cs)
  | [], _, h => h
  | c :: cs, r, h => registerAll_induction P step cs (step r c h)

/-! ## One registration -/

theorem find?_append_made (h : r.find? c.name = none) (n : String) :
    (r.instruments ++ [c.made r.config]).find? (·.desc.name == n) =
      if c.name = n then some (c.made r.config) else r.find? n := by
  rw [List.find?_append]
  by_cases hn : c.name = n
  · subst hn
    simp only [find?] at h
    simp [h, Registration.made, Registration.descriptor]
  · have hs : ((r.instruments).find? (·.desc.name == n)) = r.find? n := rfl
    simp [hs, hn, Registration.made, Registration.descriptor]

/-- Everything one registration can do. A name in the table answers from its instrument and
changes nothing. Otherwise the registration is refused, and the registry keeps its table and
its ids, and all of it when the name is unclashed; or the name is bound to the instrument the
registration makes, and its id is added to the ledger. -/
theorem apply_cases (r : Registry) (c : Registration) :
    (∃ i, r.find? c.name = some i ∧
      r.apply c = (r, if i.kind = c.kind then .ok () else .error (.kindMismatch c.name i.kind))) ∨
    (r.find? c.name = none ∧ ∃ l e, r.apply c = ({ r with ledger := l }, .error e) ∧
      l.descriptorIds = r.ledger.descriptorIds ∧ l.collectorIds = r.ledger.collectorIds ∧
      (r.ledger.Unclashed [c.name] → l = r.ledger)) ∨
    (r.find? c.name = none ∧ ∃ l, r.apply c =
      ({ r with ledger := l, instruments := r.instruments ++ [c.made r.config] }, .ok ()) ∧
      l.descriptorIds = c.descriptor.id :: r.ledger.descriptorIds ∧
      l.collectorIds = c.descriptor.id :: r.ledger.collectorIds) := by
  unfold apply register
  cases hf : r.find? c.name with
  | some i =>
    left
    refine ⟨i, rfl, ?_⟩
    by_cases hk : i.kind = c.kind <;> simp [hk]
  | none =>
    right
    cases hcheck : c.descriptor.check with
    | error f =>
      refine .inl ⟨rfl, r.ledger, .rejected f, ?_, rfl, rfl, fun _ => rfl⟩
      simp only [Registration.descriptor] at hcheck
      simp [hcheck]
    | ok u =>
      simp only [Registration.descriptor] at hcheck
      rcases Ledger.enroll_single r.ledger c.descriptor with
        ⟨f, he⟩ | ⟨hc, hnd, l, f, he, hld, hlc⟩ | ⟨l, he, hld, hlc⟩
      · refine .inl ⟨rfl, r.ledger, .rejected f, ?_, rfl, rfl, fun _ => rfl⟩
        simp only [Registration.descriptor] at he
        simp [hcheck, he]
      · -- refused after recording dimensions: an id clash the hypothesis rules out
        refine .inl ⟨rfl, l, .rejected f, ?_, hld, hlc, fun hu => ?_⟩
        · simp only [Registration.descriptor] at he
          simp [hcheck, he]
        · exact absurd (hu c.name (List.mem_singleton_self _) hc) hnd
      · refine .inr ⟨rfl, l, ?_, hld, hlc⟩
        simp only [Registration.descriptor] at he
        simp [hcheck, he, Registration.made, Registration.descriptor]

theorem config_apply (r : Registry) (c : Registration) : (r.apply c).1.config = r.config := by
  rcases apply_cases r c with ⟨i, -, he⟩ | ⟨-, l, e, he, -⟩ | ⟨-, l, he, -⟩ <;> rw [he]

@[simp] theorem config_registerAll (r : Registry) (cs : List Registration) :
    (r.registerAll cs).config = r.config :=
  registerAll_induction (fun r' => r'.config = r.config)
    (fun r' c h => (config_apply r' c).trans h) cs rfl

/-- Every registration keeps the ledger unclashed. -/
theorem unclashed_apply (h : r.ledger.Unclashed names) (c : Registration) :
    (r.apply c).1.ledger.Unclashed names := by
  rcases apply_cases r c with ⟨i, -, he⟩ | ⟨-, l, e, he, hd, hc, -⟩ | ⟨-, l, he, hd, hc⟩
  · rw [he]
    exact h
  · rw [he]
    exact h.of_ids hd hc
  · rw [he]
    exact h.cons _ hd hc

theorem unclashed_registerAll (h : r.ledger.Unclashed names) (cs : List Registration) :
    (r.registerAll cs).ledger.Unclashed names :=
  registerAll_induction (fun r => r.ledger.Unclashed names) (fun _ c h => unclashed_apply h c) cs h

/-- A refused registration leaves the table as it was. -/
theorem instruments_apply_of_error {e : MetricsError} (h : (r.apply c).2 = .error e) :
    (r.apply c).1.instruments = r.instruments := by
  rcases apply_cases r c with ⟨i, -, he⟩ | ⟨-, l, e', he, -⟩ | ⟨-, l, he, -⟩
  · rw [he]
  · rw [he]
  · rw [he] at h
    cases h

/-- A refused registration of an unclashed name leaves the whole registry as it was. -/
theorem apply_of_error {e : MetricsError} (hu : r.ledger.Unclashed [c.name])
    (h : (r.apply c).2 = .error e) : (r.apply c).1 = r := by
  rcases apply_cases r c with ⟨i, -, he⟩ | ⟨-, l, e', he, -, -, hl⟩ | ⟨-, l, he, -⟩
  · rw [he]
  · rw [he, hl hu]
  · rw [he] at h
    cases h

/-- A name in the table keeps its instrument through any registration. -/
theorem find?_apply_of_find? {n : String} {i : Instrument} (h : r.find? n = some i)
    (c : Registration) : (r.apply c).1.find? n = some i := by
  rcases apply_cases r c with ⟨j, -, he⟩ | ⟨-, l, e, he, -⟩ | ⟨hn, l, he, -⟩
  · rw [he]
    exact h
  · rw [he]
    exact h
  · rw [he]
    show (r.instruments ++ [c.made r.config]).find? (·.desc.name == n) = some i
    rw [find?_append_made hn]
    split
    · next heq =>
      rw [heq, h] at hn
      cases hn
    · exact h

theorem find?_registerAll_of_find? {n : String} {i : Instrument} (h : r.find? n = some i)
    (cs : List Registration) : (r.registerAll cs).find? n = some i :=
  registerAll_induction (fun r => r.find? n = some i) (fun _ c h => find?_apply_of_find? h c) cs h

/-- A registration that succeeds on a name not in the table binds it to the instrument it
makes. -/
theorem find?_apply_of_ok (hn : r.find? c.name = none) (h : (r.apply c).2 = .ok ()) :
    (r.apply c).1.find? c.name = some (c.made r.config) := by
  rcases apply_cases r c with ⟨j, hj, -⟩ | ⟨-, l, e, he, -⟩ | ⟨-, l, he, -⟩
  · rw [hn] at hj
    cases hj
  · rw [he] at h
    cases h
  · rw [he]
    show (r.instruments ++ [c.made r.config]).find? (·.desc.name == c.name) = _
    rw [find?_append_made hn, if_pos rfl]

/-! ## Runs -/

/-- The rules the instrument table follows over every run of registrations from `r0`, where a
refusal is forgotten for the registrations of names in `names`. -/
structure TableDiscipline (r0 : Registry) (names : List String) : Prop where
  /-- A registration of a name in the table, whatever its help text and labels, gets the held
  instrument back when the kinds agree and is refused with the held kind otherwise; neither
  changes the registry. -/
  known : ∀ pre c i, (r0.registerAll pre).find? c.name = some i →
    (r0.registerAll pre).apply c = (r0.registerAll pre,
      if i.kind = c.kind then .ok () else .error (.kindMismatch c.name i.kind))
  /-- A registration of a name not in the table binds the name to the instrument it makes, or
  is refused. -/
  unknown : ∀ pre c, (r0.registerAll pre).find? c.name = none →
    (((r0.registerAll pre).apply c).2 = .ok () ∧
      ((r0.registerAll pre).apply c).1.instruments =
        (r0.registerAll pre).instruments ++ [c.made r0.config]) ∨
    ∃ e, ((r0.registerAll pre).apply c).2 = .error e
  /-- A successful registration hands out the instrument bound to the name. -/
  handle : ∀ pre c, ((r0.registerAll pre).apply c).2 = .ok () →
    ((r0.registerAll pre).apply c).1.handle? c.name c.kind =
      ((r0.registerAll pre).apply c).1.find? c.name
  /-- A refused registration leaves the table as it was. -/
  refusedKeepsTable : ∀ pre c e, ((r0.registerAll pre).apply c).2 = .error e →
    ((r0.registerAll pre).apply c).1.instruments = (r0.registerAll pre).instruments
  /-- From its first successful registration on, a name is bound to the instrument that
  registration made: of its kind, help text and labels, and with the buckets `bucketsFor` gives
  its name when it is a histogram. -/
  firstSuccess : ∀ pre c, (r0.registerAll pre).find? c.name = none →
    ((r0.registerAll pre).apply c).2 = .ok () →
      ∀ post, (r0.registerAll (pre ++ c :: post)).find? c.name = some (c.made r0.config)
  /-- A refused registration of a name in `names` is forgotten: every later registration
  answers, and leaves the registry, as if it had not been made. -/
  forgets : ∀ pre c e, c.name ∈ names → ((r0.registerAll pre).apply c).2 = .error e →
    ∀ mid d, (r0.registerAll (pre ++ c :: mid)).apply d = (r0.registerAll (pre ++ mid)).apply d

theorem instrument_table {r0 : Registry} {names : List String}
    (h0 : r0.ledger.Unclashed names) : TableDiscipline r0 names where
  known pre c i h := by
    rcases apply_cases (r0.registerAll pre) c with ⟨j, hj, he⟩ | ⟨hn, -⟩ | ⟨hn, -⟩
    · rw [h] at hj
      cases hj
      exact he
    · rw [h] at hn
      cases hn
    · rw [h] at hn
      cases hn
  unknown pre c hn := by
    rcases apply_cases (r0.registerAll pre) c with ⟨j, hj, -⟩ | ⟨-, l, e, he, -⟩ | ⟨-, l, he, -⟩
    · rw [hn] at hj
      cases hj
    · exact .inr ⟨e, by rw [he]⟩
    · left
      rw [he, config_registerAll]
      exact ⟨rfl, rfl⟩
  handle pre c h := by
    rcases apply_cases (r0.registerAll pre) c with ⟨i, hi, he⟩ | ⟨-, l, e, he, -⟩ | ⟨hn, l, he, -⟩
    · rw [he] at h ⊢
      by_cases hk : i.kind = c.kind
      · simp [handle?, hi, hk]
      · simp [hk] at h
    · rw [he] at h
      cases h
    · have hb := find?_apply_of_ok hn (by rw [he])
      simp [handle?, hb, Registration.made]
  refusedKeepsTable _ _ _ h := instruments_apply_of_error h
  firstSuccess pre c hn h post := by
    have hbound := find?_apply_of_ok hn h
    rw [config_registerAll] at hbound
    rw [registerAll_append, registerAll_cons]
    exact find?_registerAll_of_find? hbound post
  forgets pre c e hc h mid d := by
    -- the ledger stays unclashed for `c`'s name up to `c`, so `c` changes nothing
    have hu : (r0.registerAll pre).ledger.Unclashed [c.name] := by
      intro n hn
      rw [List.mem_singleton.1 hn]
      exact unclashed_registerAll h0 pre c.name hc
    rw [registerAll_append, registerAll_append, registerAll_cons, apply_of_error hu h]

/-- The registry a service named `checkout` starts with is unclashed for a counter named
`requests_total`. -/
theorem instrument_table_checkout :
    ∃ r0, Registry.create ⟨"checkout", "1.2.3"⟩ .standard = .ok r0 ∧
      r0.ledger.Unclashed ["requests_total"] ∧ TableDiscipline r0 ["requests_total"] := by
  refine ⟨_, rfl, ?_, instrument_table ?_⟩ <;>
  · intro n hn
    rw [List.mem_singleton.1 hn]
    decide

end Registry

end Sidecar.Metrics
