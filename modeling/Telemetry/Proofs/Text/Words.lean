import Telemetry.Proofs.Text.Framing
import Telemetry.Text.Classes

/-!
# Words and numerals

What a statement writes without quotes: identifiers, numbers, and the few words of the language
itself. None of them holds a blank, a bracket, a quote or a mark of comparison, so they end where
one of those follows. Numerals differ when their numbers do.
-/

namespace Telemetry.Text

def isWord (c : Char) : Bool := isAlphanumeric c || c == '_'

/-- A letter or an underscore, then letters, digits and underscores. -/
def isIdentifier (text : String) : Bool :=
  match text.toList with
  | [] => false
  | c :: rest => (isAlphabetic c || c == '_') && rest.all isWord

/-- A character of a word or of a number. -/
def isBare (c : Char) : Bool := isWord c || c == '-'

theorem isBare_of_isWord {c : Char} (h : isWord c = true) : isBare c = true := by
  simp [isBare, h]

theorem word_of_identifier {text : String} (h : isIdentifier text = true) :
    ∀ c ∈ text.toList, isWord c = true := by
  unfold isIdentifier at h
  cases letters : text.toList with
  | nil => simp
  | cons first rest =>
    simp only [letters, Bool.and_eq_true, Bool.or_eq_true, List.all_eq_true] at h
    obtain ⟨start, later⟩ := h
    intro c hc
    rcases List.mem_cons.mp hc with rfl | hc
    · rcases start with start | start <;> simp [isWord, isAlphanumeric, start]
    · exact later c hc

/-- An identifier is not empty. -/
theorem exists_of_identifier {text : String} (h : isIdentifier text = true) :
    ∃ first rest, text.toList = first :: rest ∧ isWord first = true := by
  cases letters : text.toList with
  | nil => simp [isIdentifier, letters] at h
  | cons first rest => exact ⟨first, rest, rfl, word_of_identifier h first (by simp [letters])⟩

theorem not_mem_identifier {text : String} (h : isIdentifier text = true) {c : Char}
    (other : isWord c = false) : c ∉ text.toList :=
  fun mem => Bool.false_ne_true (other.symm.trans (word_of_identifier h c mem))

theorem isWord_of_isDigit {c : Char} (h : c.isDigit = true) : isWord c = true := by
  have bound : c.toNat < 0x80 := by
    simp only [Char.isDigit, Bool.and_eq_true, decide_eq_true_eq] at h
    have upper : c.toNat ≤ 57 := h.2
    omega
  simp [isWord, isAlphanumeric, isNumeric, bound, h]

/-- A digit or the sign of a number. -/
def isNumeral (c : Char) : Bool := c.isDigit || c == '-'

theorem isBare_of_isNumeral {c : Char} (h : isNumeral c = true) : isBare c = true := by
  rcases Bool.or_eq_true_iff.mp h with digit | sign
  · exact isBare_of_isWord (isWord_of_isDigit digit)
  · simp [isBare, sign]

theorem digit_of_mem_toString (n : Nat) : ∀ c ∈ (toString n).toList, c.isDigit = true := by
  intro c hc
  rw [Nat.toString_eq_repr, Nat.toList_repr] at hc
  exact Nat.isDigit_of_mem_toDigits (by decide) (by decide) hc

theorem toString_nat_injective {m n : Nat} (h : toString m = toString n) : m = n := by
  have digits : Nat.toDigits 10 m = Nat.toDigits 10 n := by
    rw [← Nat.toList_repr, ← Nat.toList_repr]
    exact congrArg String.toList h
  rw [← Nat.ofDigitChars_ten_toDigits (n := m), digits, Nat.ofDigitChars_ten_toDigits]

theorem toString_int_of_nonneg {n : Int} (h : 0 ≤ n) : toString n = toString n.toNat := by
  rw [Int.toString_eq_repr, Int.repr_eq_if, if_pos h, Nat.toString_eq_repr]

theorem toString_int_of_neg {n : Int} (h : n < 0) : toString n = "-" ++ toString (-n).toNat := by
  rw [Int.toString_eq_repr, Int.repr_eq_if, if_neg (by omega), Nat.toString_eq_repr]

/-- The sign is no digit, so it is read first. -/
theorem toString_nat_ne_negative (m n : Nat) : toString m ≠ "-" ++ toString n := by
  intro h
  have sign : '-' ∈ (toString m).toList := by
    rw [h, String.toList_append]
    exact List.mem_append_left _ (List.mem_singleton_self _)
  exact absurd (digit_of_mem_toString m '-' sign) (by decide)

theorem toString_int_injective {m n : Int} (h : toString m = toString n) : m = n := by
  rcases Int.lt_or_le m 0 with hm | hm <;> rcases Int.lt_or_le n 0 with hn | hn
  · rw [toString_int_of_neg hm, toString_int_of_neg hn] at h
    have same := toString_nat_injective ((String.append_right_inj "-").mp h)
    omega
  · rw [toString_int_of_neg hm, toString_int_of_nonneg hn] at h
    exact absurd h.symm (toString_nat_ne_negative _ _)
  · rw [toString_int_of_nonneg hm, toString_int_of_neg hn] at h
    exact absurd h (toString_nat_ne_negative _ _)
  · rw [toString_int_of_nonneg hm, toString_int_of_nonneg hn] at h
    have same := toString_nat_injective h
    omega

theorem numeral_of_mem_toString (n : Int) : ∀ c ∈ (toString n).toList, isNumeral c = true := by
  have digits (m : Nat) : ∀ c ∈ (toString m).toList, isNumeral c = true := fun c hc => by
    simp [isNumeral, digit_of_mem_toString m c hc]
  intro c hc
  rcases Int.lt_or_le n 0 with neg | nonneg
  · rw [toString_int_of_neg neg, String.toList_append] at hc
    rcases List.mem_append.mp hc with hc | hc
    · rw [List.mem_singleton.mp hc]
      rfl
    · exact digits _ c hc
  · rw [toString_int_of_nonneg nonneg] at hc
    exact digits _ c hc

theorem bare_of_mem_toString (n : Int) : ∀ c ∈ (toString n).toList, isBare c = true :=
  fun c hc => isBare_of_isNumeral (numeral_of_mem_toString n c hc)

/-- A numeral ends in a digit. -/
theorem exists_last_digit (n : Int) :
    ∃ before last, (toString n).toList = before ++ [last] ∧ last.isDigit = true := by
  have natural (m : Nat) :
      ∃ before last, (toString m).toList = before ++ [last] ∧ last.isDigit = true := by
    have digits := digit_of_mem_toString m
    rcases List.eq_nil_or_concat (toString m).toList with empty | ⟨before, last, ends⟩
    · rw [Nat.toString_eq_repr, Nat.toList_repr] at empty
      exact absurd empty Nat.toDigits_ne_nil
    · rw [List.concat_eq_append] at ends
      have mem : last ∈ (toString m).toList := ends ▸ List.mem_concat_self
      exact ⟨before, last, ends, digits last mem⟩
  rcases Int.lt_or_le n 0 with neg | nonneg
  · obtain ⟨before, last, ends, digit⟩ := natural (-n).toNat
    refine ⟨'-' :: before, last, ?_, digit⟩
    rw [toString_int_of_neg neg, String.toList_append, ends]
    rfl
  · rw [toString_int_of_nonneg nonneg]
    exact natural _

end Telemetry.Text
