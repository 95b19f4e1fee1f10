import Mathlib.Data.List.TakeWhile
import Sidecar.Text.Blank
/-! # Trimming

Trimming drops the blank characters at both ends of a text and keeps everything between them.
Its result has no blank at either end (`trimmed_trimChars`), and a text with no blank at either
end is its own trim (`trimChars_eq_self`); so trimming twice trims once (`trim_trim`), and a text
is blank exactly when its trim is empty (`isBlankText_iff_trim_eq`). -/
namespace Sidecar.Text

/-- Neither end of a character list is blank: trimming has nothing to remove. -/
def Trimmed (cs : List Char) : Prop :=
  (∀ c ∈ cs.head?, isBlank c = false) ∧ ∀ c ∈ cs.getLast?, isBlank c = false

theorem isBlank_of_isDigit {c : Char} (h : c.isDigit = true) : isBlank c = false := by
  simp only [Char.isDigit, Bool.and_eq_true, decide_eq_true_eq] at h
  have h1 : 48 ≤ c.toNat := h.1
  have h2 : c.toNat ≤ 57 := h.2
  simp only [isBlank, Bool.or_eq_false_iff, Bool.and_eq_false_iff, decide_eq_false_iff_not,
    beq_eq_false_iff_ne]
  omega

theorem dropWhile_of_head {p : Char → Bool} {cs : List Char} (h : ∀ c ∈ cs.head?, p c = false) :
    cs.dropWhile p = cs := by
  cases cs with
  | nil => rfl
  | cons c r => simp [h c rfl]

theorem head_dropWhile (p : Char → Bool) (cs : List Char) :
    ∀ c ∈ (cs.dropWhile p).head?, p c = false := by
  intro c hc
  have := List.head?_dropWhile_not p cs
  rw [Option.mem_def.1 hc] at this
  exact this

/-- What `dropWhile` leaves ends where the list ends. -/
theorem getLast?_dropWhile (p : Char → Bool) (cs : List Char) :
    ∀ c ∈ (cs.dropWhile p).getLast?, c ∈ cs.getLast? := by
  intro c hc
  obtain ⟨t, ht⟩ : cs.dropWhile p <:+ cs := List.dropWhile_suffix p
  rw [← ht, List.getLast?_append, Option.mem_def.1 hc]
  rfl

theorem trimChars_eq_self {cs : List Char} (h : Trimmed cs) : trimChars cs = cs := by
  have hl : ∀ c ∈ cs.reverse.head?, isBlank c = false := by
    simpa [List.head?_reverse] using h.2
  simp [trimChars, dropWhile_of_head h.1, dropWhile_of_head hl]

theorem trimmed_trimChars (cs : List Char) : Trimmed (trimChars cs) := by
  constructor
  · intro c hc
    simp only [trimChars, List.head?_reverse] at hc
    have := getLast?_dropWhile isBlank _ c hc
    rw [List.getLast?_reverse] at this
    exact head_dropWhile isBlank cs c this
  · intro c hc
    simp only [trimChars, List.getLast?_reverse] at hc
    exact head_dropWhile isBlank _ c hc

theorem trimChars_trimChars (cs : List Char) : trimChars (trimChars cs) = trimChars cs :=
  trimChars_eq_self (trimmed_trimChars cs)

theorem trim_trim (s : String) : trim (trim s) = trim s := by
  simp only [trim, String.toList_ofList, trimChars_trimChars]

theorem trimChars_eq_nil_iff (cs : List Char) :
    trimChars cs = [] ↔ ∀ c ∈ cs, isBlank c = true := by
  rw [← List.dropWhile_eq_nil_iff]
  constructor
  · intro h
    by_contra hne
    -- the first pass stops at a character that is not blank, and the second pass keeps it
    obtain ⟨c, r, hcr⟩ := List.exists_cons_of_ne_nil hne
    have hc := head_dropWhile isBlank cs c (by simp [hcr])
    have : trimChars cs ≠ [] := by
      simp only [trimChars, ne_eq, List.reverse_eq_nil_iff, hcr, List.reverse_cons]
      rw [List.dropWhile_append]
      split <;> simp [hc]
    exact this h
  · intro h
    simp [trimChars, h]

theorem isBlankText_iff_trim_eq (s : String) : isBlankText s = true ↔ trim s = "" := by
  rw [isBlankText, List.all_eq_true, trim, ← trimChars_eq_nil_iff, ← String.toList_inj]
  simp

end Sidecar.Text
