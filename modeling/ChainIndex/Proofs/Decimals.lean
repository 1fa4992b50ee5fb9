import ChainIndex.Decimal
import Mathlib.Data.List.Induction
import Mathlib.Data.List.TakeDrop

/-!
# Decimal notation is read back

The digits of a number, padded or not, have the number as their value, and all digits are those of a number
behind zeros. A scan for digits takes all of them and nothing of a text that goes on with something else.
-/

set_option autoImplicit false

namespace ChainIndex.Decimal

variable {n width : Nat} {c : Char} {ds rest : List Char}

theorem isDigit_iff : isDigit c = true ↔ c.isDigit = true := by
  simp [isDigit, Char.isDigit, Char.le_def, UInt32.le_iff_toNat_le]

/-! ### Digits of a number -/

@[simp] theorem value_chars (n : Nat) : value (chars n) = n :=
  Nat.ofDigitChars_toDigits (by omega) (by omega)

theorem isDigit_of_mem_chars (h : c ∈ chars n) : isDigit c = true :=
  isDigit_iff.mpr (Nat.isDigit_of_mem_toDigits (by omega) (by omega) h)

theorem chars_ne_nil (n : Nat) : chars n ≠ [] := Nat.toDigits_ne_nil

/-- Only zero is written with a zero in front. -/
theorem eq_nil_of_chars_zero (n : Nat) {ds : List Char} (h : chars n = '0' :: ds) : ds = [] := by
  induction n using Nat.strongRecOn generalizing ds with
  | ind n ih =>
    rcases Nat.lt_or_ge n 10 with small | large
    · rw [chars, Nat.toDigits_of_lt_base small] at h
      simp_all
    · rw [chars, Nat.toDigits_of_base_le (by omega) large, ← chars] at h
      cases front : chars (n / 10) with
      | nil => exact absurd front (chars_ne_nil _)
      | cons first start =>
        rw [front] at h
        injection h with head tail
        subst head
        -- in front of the last digit stands the notation of zero, but this part of a large number is not zero
        obtain rfl := ih (n / 10) (by omega) front
        have zero := value_chars (n / 10)
        rw [front] at zero
        simp [value, digitValue] at zero
        omega

/-! ### Zeros in front -/

theorem value_append (ds more : List Char) :
    value (ds ++ more) = more.foldl (fun n c => 10 * n + digitValue c) (value ds) := by
  rw [value, List.foldl_append, ← value]

theorem value_replicate_zero : ∀ count : Nat, value (List.replicate count '0') = 0
  | 0 => rfl
  | count + 1 => by
    rw [List.replicate_succ', value_append, value_replicate_zero count]
    rfl

@[simp] theorem value_zeros_append_chars (zeros n : Nat) : value (List.replicate zeros '0' ++ chars n) = n := by
  rw [value_append, value_replicate_zero, ← value, value_chars]

theorem isDigit_of_mem_zeros_append_chars {zeros : Nat} (h : c ∈ List.replicate zeros '0' ++ chars n) :
    isDigit c = true := by
  rcases List.mem_append.mp h with h | h
  · rw [List.eq_of_mem_replicate h]
    rfl
  · exact isDigit_of_mem_chars h

theorem digitValue_of_isDigit (h : isDigit c = true) : digitValue c < 10 ∧ Nat.digitChar (digitValue c) = c := by
  have table : ∀ n < 10, Nat.digitChar n = Char.ofNat (n + 48) := by decide
  have range : 48 ≤ c.toNat ∧ c.toNat ≤ 57 := by
    simpa [isDigit, Char.le_def, UInt32.le_iff_toNat_le] using h
  have small : digitValue c < 10 := by
    unfold digitValue
    omega
  refine ⟨small, ?_⟩
  rw [table _ small, digitValue, Nat.sub_add_cancel range.1, Char.ofNat_toNat]

theorem chars_of_isDigit (h : isDigit c = true) : chars (digitValue c) = [c] := by
  obtain ⟨small, same⟩ := digitValue_of_isDigit h
  rw [chars, Nat.toDigits_of_lt_base small, same]

theorem chars_snoc (pos : 0 < n) (h : isDigit c = true) : chars (10 * n + digitValue c) = chars n ++ [c] := by
  obtain ⟨small, same⟩ := digitValue_of_isDigit h
  have quotient : (10 * n + digitValue c) / 10 = n := by omega
  have remainder : (10 * n + digitValue c) % 10 = digitValue c := by omega
  rw [chars, Nat.toDigits_of_base_le (by omega) (by omega), quotient, remainder, same, chars]

/-- Digits are the notation of a number behind some zeros. -/
theorem exists_eq_zeros_append_chars (ne : ds ≠ []) (all : ∀ c ∈ ds, isDigit c = true) :
    ∃ zeros n, ds = List.replicate zeros '0' ++ chars n := by
  induction ds using List.reverseRecOn with
  | nil => exact absurd rfl ne
  | append_singleton ds c ih =>
    have digit : isDigit c = true := all c (by simp)
    by_cases front : ds = []
    · exact ⟨0, digitValue c, by rw [front, chars_of_isDigit digit]; rfl⟩
    obtain ⟨zeros, n, eq⟩ := ih front fun d hd => all d (by simp [hd])
    rcases Nat.eq_zero_or_pos n with zero | pos
    · -- the notation of zero is one more zero in front of the last digit
      refine ⟨zeros + 1, digitValue c, ?_⟩
      rw [eq, zero, chars_of_isDigit digit, List.replicate_succ', show chars 0 = ['0'] from rfl]
    · exact ⟨zeros, 10 * n + digitValue c, by rw [eq, chars_snoc pos digit, List.append_assoc]⟩

@[simp] theorem value_padded (width n : Nat) : value (padded width n) = n := value_zeros_append_chars _ n

theorem isDigit_of_mem_padded (h : c ∈ padded width n) : isDigit c = true := isDigit_of_mem_zeros_append_chars h

theorem padded_eq_cons (width n : Nat) : ∃ c ds, padded width n = c :: ds ∧ isDigit c = true := by
  cases e : padded width n with
  | nil => simp [padded, chars_ne_nil] at e
  | cons c ds => exact ⟨c, ds, rfl, isDigit_of_mem_padded (by rw [e]; exact List.mem_cons_self)⟩

theorem length_padded (wide : 0 < width) (h : n < Nat.pow 10 width) : (padded width n).length = width := by
  have := (Nat.length_toDigits_le_iff (by omega) wide).mpr h
  rw [padded, List.length_append, List.length_replicate, chars]
  omega

/-! ### Scanning -/

/-- The text does not go on with a digit. -/
def Stops (rest : List Char) : Prop := ∀ c ∈ rest.head?, isDigit c = false

theorem Stops.nil : Stops [] := nofun

theorem Stops.cons (h : isDigit c = false) : Stops (c :: rest) := by
  rintro d ⟨⟩
  exact h

theorem takeWhile_append (all : ∀ c ∈ ds, isDigit c = true) (stops : Stops rest) :
    (ds ++ rest).takeWhile isDigit = ds := by
  rw [List.takeWhile_append_of_pos all]
  cases rest with
  | nil => simp
  | cons c more => rw [List.takeWhile_cons_of_neg (by simp [stops c rfl]), List.append_nil]

theorem digits_append (all : ∀ c ∈ ds, isDigit c = true) (stops : Stops rest) :
    digits (ds ++ rest) = (ds, rest) := by
  rw [digits, List.span_eq_takeWhile_dropWhile, takeWhile_append all stops,
    List.dropWhile_append_of_pos all]
  cases rest with
  | nil => simp
  | cons c more => rw [List.dropWhile_cons_of_neg (by simp [stops c rfl])]

theorem digits_append_right {text more : List Char} (h : digits text = (ds, more)) (stops : Stops rest) :
    digits (text ++ rest) = (ds, more ++ rest) := by
  rw [digits, List.span_eq_takeWhile_dropWhile] at h
  obtain ⟨rfl, rfl⟩ := Prod.mk.inj h
  have later : Stops (text.dropWhile isDigit ++ rest) := by
    cases left : text.dropWhile isDigit with
    | nil => exact stops
    | cons c tail =>
      have := List.head?_dropWhile_not isDigit text
      rw [left] at this
      exact .cons (by simpa using this)
  conv_lhs => rw [← List.takeWhile_append_dropWhile (p := isDigit) (l := text), List.append_assoc]
  exact digits_append (List.all_eq_true.mp List.all_takeWhile) later

end ChainIndex.Decimal
