import Mathlib.Data.Nat.Digits.Lemmas

/-! # Numerals — numbers written with the letters of an alphabet

    A numeral is a string of letters, the most significant digit first.  `write`
    gives every number its shortest numeral, and so 0 the empty one; `value` reads
    any numeral, also one that begins with zeros.

    * `value_write` — a number is recovered from its numeral, so no two numbers have
      the same one (`write_injective`);
    * `length_write_le_iff` — how long a numeral is. -/

namespace Numerals

/-- At least two letters, each of them once: a letter's place is its digit. -/
structure Alphabet (α : Type) where
  letters : List α
  nodup : letters.Nodup
  two_le : 2 ≤ letters.length

namespace Alphabet

variable {α : Type} (A : Alphabet α)

def base : Nat := A.letters.length

theorem one_lt_base : 1 < A.base := A.two_le

theorem base_pos : 0 < A.base := Nat.lt_of_lt_of_le Nat.zero_lt_two A.two_le

/-- The letter of a digit, which counts modulo the base. -/
def letter (d : Nat) : α := A.letters.get ⟨d % A.base, Nat.mod_lt d A.base_pos⟩

/-- The numeral of a number. -/
def write (n : Nat) : List α := ((Nat.digits A.base n).map A.letter).reverse

theorem letter_mem (d : Nat) : A.letter d ∈ A.letters := List.get_mem _ _

@[simp] theorem write_zero : A.write 0 = [] := by
  rw [write, Nat.digits_zero]
  rfl

/-- The last letter is that of the last digit; the others are the numeral of what is
    left without it. -/
theorem write_of_pos {n : Nat} (h : 0 < n) : A.write n = A.write (n / A.base) ++ [A.letter n] := by
  have hlast : A.letter (n % A.base) = A.letter n := by simp [letter]
  rw [write, Nat.digits_def' A.one_lt_base h, List.map_cons, List.reverse_cons, hlast]
  rfl

/-- Only letters are written. -/
theorem mem_of_mem_write {n : Nat} {a : α} (h : a ∈ A.write n) : a ∈ A.letters := by
  rw [write, List.mem_reverse] at h
  obtain ⟨d, -, rfl⟩ := List.mem_map.mp h
  exact A.letter_mem d

/-- A numeral has at most `k` letters exactly if its number is below the power. -/
theorem length_write_le_iff {n k : Nat} : (A.write n).length ≤ k ↔ n < A.base ^ k := by
  rw [write, List.length_reverse, List.length_map, Nat.digits_length_le_iff A.one_lt_base]

variable [DecidableEq α]

/-- The digit of a letter. -/
def digit (a : α) : Nat := A.letters.idxOf a

/-- The number that a numeral stands for. -/
def value (s : List α) : Nat := Nat.ofDigits A.base (s.reverse.map A.digit)

theorem digit_letter (d : Nat) : A.digit (A.letter d) = d % A.base :=
  A.nodup.idxOf_getElem _ _

/-- The digits of the letters that are written are the digits of the number. -/
theorem map_digit_write (n : Nat) : (A.write n).reverse.map A.digit = Nat.digits A.base n := by
  have hdigit : ∀ d ∈ Nat.digits A.base n, (A.digit ∘ A.letter) d = id d := by
    intro d hd
    show A.digit (A.letter d) = d
    rw [digit_letter]
    exact Nat.mod_eq_of_lt (Nat.digits_lt_base A.one_lt_base hd)
  rw [write, List.reverse_reverse, List.map_map, List.map_congr_left hdigit, List.map_id]

/-- **A number is recovered from its numeral.** -/
theorem value_write (n : Nat) : A.value (A.write n) = n := by
  rw [value, map_digit_write, Nat.ofDigits_digits]

theorem write_injective : Function.Injective A.write :=
  Function.LeftInverse.injective A.value_write

end Alphabet

end Numerals
