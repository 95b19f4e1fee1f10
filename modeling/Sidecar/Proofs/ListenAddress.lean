import Mathlib.Data.List.Induction
import Mathlib.Data.Nat.Digits.Defs
import Mathlib.Tactic.Ring
import Sidecar.Proofs.Trimming
import Sidecar.Server.Address
/-! # Listen addresses

A listen address is read after trimming: it must split at its last colon into a host and a
port, the port must be what the standard library reads as an unsigned 16-bit number
(`U16Text`), and a host with a colon must be bracketed. An empty host stands for every
interface and is spelled out as `0.0.0.0`; any other accepted text is kept as trimmed, and every
refusal carries the trimmed text (`listen_address_normalization`).

Normalizing an address it gave changes nothing: a kept text is already trimmed, and the
spelled-out wildcard ends in a digit of its port and has a host without a colon. -/
namespace Sidecar.Server

/-! ## The last colon -/

theorem takeWhile_ne_colon_of_not_mem {cs : List Char} (h : ':' ∉ cs) :
    cs.takeWhile (· ≠ ':') = cs := by
  rw [List.takeWhile_eq_self_iff]
  intro c hc
  simp only [ne_eq, decide_eq_true_eq]
  rintro rfl
  exact h hc

/-- A text cut after its last colon is split there. -/
theorem splitLastColon_append {host port : List Char} (h : ':' ∉ port) :
    splitLastColon (host ++ ':' :: port) = some (host, port) := by
  have hall : ∀ c ∈ port.reverse, decide (c ≠ ':') = true := by
    intro c hc
    simp only [ne_eq, decide_eq_true_eq]
    rintro rfl
    exact h (List.mem_reverse.1 hc)
  have htake : ((host ++ ':' :: port).reverse.takeWhile (· ≠ ':')).reverse = port := by
    rw [List.reverse_append, List.reverse_cons, List.append_assoc, List.takeWhile_append_of_pos hall]
    simp
  have hlen : host.length + (port.length + 1) - port.length - 1 = host.length := by omega
  simp only [splitLastColon, htake]
  rw [if_pos (by simp only [List.length_append, List.length_cons]; omega)]
  simp [hlen, List.take_left']

theorem colon_not_mem_takeWhile (cs : List Char) : ':' ∉ cs.takeWhile (· ≠ ':') := by
  intro hm
  simpa using List.mem_takeWhile_imp hm

/-- Taking from the end that stops short of the start stopped at a colon: the text is what lies
before that colon, the colon, then what was taken. -/
theorem exists_eq_append_takeWhile {cs : List Char}
    (hlt : (cs.reverse.takeWhile (· ≠ ':')).length < cs.length) :
    ∃ rest, cs = rest ++ ':' :: (cs.reverse.takeWhile (· ≠ ':')).reverse := by
  generalize ht : cs.reverse.takeWhile (· ≠ ':') = t at hlt ⊢
  have hsplit := @List.takeWhile_append_dropWhile _ (fun c => decide (c ≠ ':')) cs.reverse
  rw [ht] at hsplit
  obtain ⟨d, rest, hd⟩ : ∃ d rest, cs.reverse.dropWhile (· ≠ ':') = d :: rest := by
    apply List.exists_cons_of_ne_nil
    intro hnil
    rw [hnil, List.append_nil] at hsplit
    have := congrArg List.length hsplit
    simp only [List.length_reverse] at this hlt
    omega
  have hcolon : d = ':' := by
    have := List.head?_dropWhile_not (fun c => decide (c ≠ ':')) cs.reverse
    rw [hd] at this
    simpa using this
  subst hcolon
  rw [hd] at hsplit
  refine ⟨rest.reverse, ?_⟩
  rw [← List.reverse_reverse cs, ← hsplit]
  simp

/-- A split text is the host, the colon, then the port, which has no colon. -/
theorem eq_of_splitLastColon {cs host port : List Char} (h : splitLastColon cs = some (host, port)) :
    cs = host ++ ':' :: port ∧ ':' ∉ port := by
  unfold splitLastColon at h
  dsimp only at h
  split at h
  · next hlt =>
    simp only [Option.some.injEq, Prod.mk.injEq] at h
    obtain ⟨rfl, rfl⟩ := h
    obtain ⟨rest, hcs⟩ := exists_eq_append_takeWhile (by simpa using hlt)
    have hnot : ':' ∉ (cs.reverse.takeWhile (· ≠ ':')).reverse := by
      simpa using colon_not_mem_takeWhile cs.reverse
    refine ⟨?_, hnot⟩
    generalize (cs.reverse.takeWhile (· ≠ ':')).reverse = port at hcs hnot ⊢
    have hlen : rest.length + (port.length + 1) - port.length - 1 = rest.length := by omega
    subst hcs
    simp [hlen]
  · cases h

theorem splitLastColon_eq_none_iff (cs : List Char) : splitLastColon cs = none ↔ ':' ∉ cs := by
  have hpre := List.takeWhile_prefix (fun c => decide (c ≠ ':')) (l := cs.reverse)
  unfold splitLastColon
  dsimp only
  constructor
  · intro h hm
    split at h
    · cases h
    · next hle =>
      have heq := hpre.eq_of_length (by have := hpre.length_le; simp at hle this ⊢; omega)
      have hm' : ':' ∈ cs.reverse.takeWhile (· ≠ ':') := by
        rw [heq]
        exact List.mem_reverse.2 hm
      exact colon_not_mem_takeWhile cs.reverse hm'
  · intro h
    rw [takeWhile_ne_colon_of_not_mem (by simpa using h)]
    simp

/-! ## Ports -/

def digitValue (c : Char) : Nat := c.toNat - '0'.toNat

/-- What the standard library reads as an unsigned 16-bit number: an optional `+`, then one or
more ASCII digits, leading zeros allowed, whose value is at most 65535. -/
def U16Text (port : List Char) : Prop :=
  ∃ ds : List Char, (port = ds ∨ port = '+' :: ds) ∧ ds ≠ [] ∧ (∀ c ∈ ds, c.isDigit = true) ∧
    Nat.ofDigits 10 (ds.reverse.map digitValue) ≤ 65535

theorem decimalValue_eq_ofDigits (ds : List Char) :
    decimalValue ds = Nat.ofDigits 10 (ds.reverse.map digitValue) := by
  induction ds using List.reverseRecOn with
  | nil => rfl
  | append_singleton ds c ih =>
    rw [decimalValue, List.foldl_append, ← decimalValue, ih]
    simp [Nat.ofDigits_cons, digitValue]
    ring

/-- The digits after an optional `+` read as a port when they are ASCII digits, at least one,
of value below `2^16`. -/
theorem digits_isSome_iff (ds : List Char) :
    (if ds.isEmpty || !ds.all Char.isDigit then none
      else if decimalValue ds < Nat.pow 2 16 then some (decimalValue ds) else none).isSome ↔
      ds ≠ [] ∧ (∀ c ∈ ds, c.isDigit = true) ∧ Nat.ofDigits 10 (ds.reverse.map digitValue) ≤ 65535 := by
  rw [← decimalValue_eq_ofDigits]
  have h16 : Nat.pow 2 16 = 65536 := rfl
  by_cases hd : ds.isEmpty || !ds.all Char.isDigit
  · simp only [hd, if_true, Option.isSome_none, Bool.false_eq_true, false_iff]
    simp only [Bool.or_eq_true, List.isEmpty_iff, Bool.not_eq_true', List.all_eq_false] at hd
    rintro ⟨hne, hall, -⟩
    rcases hd with rfl | ⟨c, hc, hnd⟩
    · exact hne rfl
    · simp [hall c hc] at hnd
  · have hds : ds ≠ [] ∧ ∀ c ∈ ds, c.isDigit = true := by
      simpa [List.isEmpty_iff] using hd
    rw [if_neg hd, h16]
    rw [and_iff_right hds.1, and_iff_right hds.2]
    by_cases hv : decimalValue ds < 65536
    · simp only [if_pos hv, Option.isSome_some, true_iff]
      omega
    · simp only [if_neg hv, Option.isSome_none, Bool.false_eq_true, false_iff]
      omega

theorem portValue?_isSome_iff (port : List Char) : (portValue? port).isSome ↔ U16Text port := by
  unfold portValue?
  dsimp only
  split
  · next ds =>
    rw [digits_isSome_iff]
    constructor
    · intro h
      exact ⟨ds, .inr rfl, h⟩
    · rintro ⟨ds', hp | hp, h⟩
      · subst hp
        simp at h
      · simp only [List.cons.injEq, true_and] at hp
        exact hp ▸ h
  · next hplus =>
    rw [digits_isSome_iff]
    constructor
    · intro h
      exact ⟨port, .inl rfl, h⟩
    · rintro ⟨ds', hp | hp, h⟩
      · exact hp ▸ h
      · exact absurd hp (hplus ds')

/-! ## Normalization -/

variable {a r : String} {host port : List Char}

theorem normalizeAddress_of_no_colon (h : ':' ∉ (Text.trim a).toList) :
    normalizeAddress a = .error (.invalidAddress (Text.trim a)) := by
  simp only [normalizeAddress, (splitLastColon_eq_none_iff _).2 h]

/-- Normalization refuses only with the trimmed text. -/
theorem eq_invalidAddress_of_normalizeAddress {e : ServerError}
    (h : normalizeAddress a = .error e) : e = .invalidAddress (Text.trim a) := by
  unfold normalizeAddress at h
  dsimp only at h
  split at h
  · cases h; rfl
  · split at h
    · cases h; rfl
    · split at h
      · cases h
      · split at h
        · cases h; rfl
        · cases h

/-- The texts normalization accepts, and what it makes of them. -/
theorem normalizeAddress_eq_ok_iff :
    normalizeAddress a = .ok r ↔
      ∃ host port, (Text.trim a).toList = host ++ ':' :: port ∧ ':' ∉ port ∧ U16Text port ∧
        ((host = [] ∧ r = "0.0.0.0:" ++ String.ofList port) ∨
          (host ≠ [] ∧ (':' ∉ host ∨ host.head? = some '[') ∧ r = Text.trim a)) := by
  constructor
  · intro h
    unfold normalizeAddress at h
    dsimp only at h
    split at h
    · cases h
    · next host port hs =>
      obtain ⟨ht, hport⟩ := eq_of_splitLastColon hs
      split at h
      · cases h
      · next v hv =>
        have hu : U16Text port := (portValue?_isSome_iff port).1 (by simp [hv])
        refine ⟨host, port, ht, hport, hu, ?_⟩
        split at h
        · next he => exact .inl ⟨List.isEmpty_iff.1 he, (Except.ok.inj h).symm⟩
        · next he =>
          split at h
          · cases h
          · next hb =>
            refine .inr ⟨fun hn => he (List.isEmpty_iff.2 hn), ?_, (Except.ok.inj h).symm⟩
            simp only [Bool.and_eq_true, bne_iff_ne, ne_eq, not_and, Decidable.not_not] at hb
            by_cases hc : ':' ∈ host
            · exact .inr (hb (List.contains_iff_mem.2 hc))
            · exact .inl hc
  · rintro ⟨host, port, ht, hport, hu, hr⟩
    obtain ⟨v, hv⟩ := Option.isSome_iff_exists.1 ((portValue?_isSome_iff port).2 hu)
    unfold normalizeAddress
    simp only [ht, splitLastColon_append hport, hv]
    rcases hr with ⟨rfl, rfl⟩ | ⟨hne, hhost, rfl⟩
    · rfl
    · have he : host.isEmpty = false := List.isEmpty_eq_false_iff.2 hne
      rw [if_neg (by simp [he])]
      split
      · next hb =>
        simp only [Bool.and_eq_true, List.contains_iff_mem, bne_iff_ne, ne_eq] at hb
        rcases hhost with hc | hc
        · exact absurd hb.1 hc
        · exact absurd hc hb.2
      · rfl

/-- A port ends in a digit. -/
theorem U16Text.exists_getLast? (hu : U16Text port) :
    ∃ c, port.getLast? = some c ∧ c.isDigit = true := by
  obtain ⟨ds, hp, hne, hall, -⟩ := hu
  obtain ⟨c, hc⟩ := Option.isSome_iff_exists.1 (List.getLast?_isSome.2 hne)
  refine ⟨c, ?_, hall c (List.mem_of_getLast? hc)⟩
  rcases hp with rfl | rfl
  · exact hc
  · rw [← List.singleton_append, List.getLast?_append, hc]
    rfl

/-- The wildcard address of a port has nothing to trim. -/
theorem trim_wildcard (hu : U16Text port) :
    Text.trim ("0.0.0.0:" ++ String.ofList port) = "0.0.0.0:" ++ String.ofList port := by
  obtain ⟨d, hd, hdigit⟩ := hu.exists_getLast?
  have htrimmed : Text.Trimmed ("0.0.0.0:" ++ String.ofList port).toList := by
    simp only [String.toList_append, String.toList_ofList]
    refine ⟨fun c hc => ?_, fun c hc => ?_⟩
    · cases hc
      decide
    · rw [List.getLast?_append, hd] at hc
      cases hc
      exact Text.isBlank_of_isDigit hdigit
  rw [Text.trim, Text.trimChars_eq_self htrimmed, String.ofList_toList]

/-- Normalizing a normalized address gives it back. -/
theorem normalizeAddress_normalizeAddress (h : normalizeAddress a = .ok r) :
    normalizeAddress r = .ok r := by
  obtain ⟨host, port, ht, hport, hu, hr⟩ := normalizeAddress_eq_ok_iff.1 h
  rcases hr with ⟨-, rfl⟩ | ⟨hne, hhost, rfl⟩
  · refine normalizeAddress_eq_ok_iff.2
      ⟨"0.0.0.0".toList, port, ?_, hport, hu, .inr ⟨by decide, .inl (by decide), (trim_wildcard hu).symm⟩⟩
    rw [trim_wildcard hu]
    simp
  · refine normalizeAddress_eq_ok_iff.2
      ⟨host, port, ?_, hport, hu, .inr ⟨hne, hhost, (Text.trim_trim a).symm⟩⟩
    rw [Text.trim_trim]
    exact ht

/-- Listen-address normalization: the trimmed text must split at its last colon into a host and
a port the standard library reads as a 16-bit number; an empty host becomes `0.0.0.0`, a host
with a colon must start with `[`, and anything else is refused with the trimmed text. Every
address it gives normalizes to itself. -/
theorem listen_address_normalization (a : String) :
    (∀ r, normalizeAddress a = .ok r ↔
      ∃ host port, (Text.trim a).toList = host ++ ':' :: port ∧ ':' ∉ port ∧ U16Text port ∧
        ((host = [] ∧ r = "0.0.0.0:" ++ String.ofList port) ∨
          (host ≠ [] ∧ (':' ∉ host ∨ host.head? = some '[') ∧ r = Text.trim a))) ∧
    (∀ e, normalizeAddress a = .error e → e = .invalidAddress (Text.trim a)) ∧
    ∀ r, normalizeAddress a = .ok r → normalizeAddress r = .ok r :=
  ⟨fun _ => normalizeAddress_eq_ok_iff, fun _ => eq_invalidAddress_of_normalizeAddress,
    fun _ => normalizeAddress_normalizeAddress⟩

example : normalizeAddress " :+08080 " = .ok "0.0.0.0:+08080" := by rfl

example : normalizeAddress "::1:0" = .error (.invalidAddress "::1:0") := by rfl

end Sidecar.Server
