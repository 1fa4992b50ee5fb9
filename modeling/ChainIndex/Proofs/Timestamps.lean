import ChainIndex.Proofs.Decimals
import ChainIndex.Time.Timestamp

/-!
# Timestamps are read back

The text of a timestamp is read as the timestamp, with every nanosecond of it and also in a leap
second: each part is written with so many digits that the reader of the part takes all of them.
-/

set_option autoImplicit false

namespace ChainIndex.Timestamp

open Decimal (Stops isDigit padded)

variable {width n : Nat} {c : Char} {rest : List Char}

theorem not_blank_of_isDigit (h : isDigit c = true) : Text.isBlank c = false := by
  obtain ⟨low, high⟩ : '0' ≤ c ∧ c ≤ '9' := by simpa [isDigit] using h
  have : 48 ≤ c.toNat := low
  have : c.toNat ≤ 57 := high
  simp [Text.isBlank]
  omega

theorem trimLeft_of_not_blank (h : Text.isBlank c = false) : Text.trimLeft (c :: rest) = c :: rest := by
  rw [Text.trimLeft, List.dropWhile_cons_of_neg (by simp [h])]

theorem trimLeft_padded (width n : Nat) (rest : List Char) :
    Text.trimLeft (padded width n ++ rest) = padded width n ++ rest := by
  obtain ⟨c, ds, e, digit⟩ := Decimal.padded_eq_cons width n
  rw [e, List.cons_append, trimLeft_of_not_blank (not_blank_of_isDigit digit)]

theorem number?_padded (wide : 0 < width) (h : n < Nat.pow 10 width) (rest : List Char) :
    number? width (padded width n ++ rest) = some (n, rest) := by
  have length := Decimal.length_padded wide h
  have all : ∀ c ∈ padded width n, isDigit c = true := fun c => Decimal.isDigit_of_mem_padded
  have digits := Decimal.takeWhile_append all Stops.nil
  rw [List.append_nil] at digits
  obtain ⟨c, ds, e, -⟩ := Decimal.padded_eq_cons width n
  simp only [number?, trimLeft_padded, List.take_left' length, digits, Decimal.value_padded, List.drop_left]
  simp [e]

theorem separator?_self (h : Text.isBlank c = false) (rest : List Char) : separator? c (c :: rest) = some rest := by
  simp [separator?, trimLeft_of_not_blank h]

/-! ### The parts -/

theorem signed_padded (n : Nat) (stops : Stops rest) : year?.signed (padded 4 n ++ rest) = some (n, rest) := by
  obtain ⟨c, ds, e, -⟩ := Decimal.padded_eq_cons 4 n
  have value := Decimal.value_padded 4 n
  rw [e] at value
  unfold year?.signed
  rw [Decimal.digits_append (fun c => Decimal.isDigit_of_mem_padded) stops, e]
  simp [value]

theorem year?_yearChars (year : Int) (stops : Stops rest) : year? (yearChars year ++ rest) = some (year, rest) := by
  unfold yearChars
  split
  · next plain =>
    obtain ⟨n, rfl⟩ := Int.eq_ofNat_of_zero_le plain.1
    have number : number? 4 (padded 4 n ++ rest) = some (n, rest) := number?_padded (by omega) (by simp; omega) rest
    obtain ⟨c, ds, e, digit⟩ := Decimal.padded_eq_cons 4 n
    rw [Int.toNat_natCast, year?.eq_def, trimLeft_padded]
    split
    · next minus =>
      cases (List.cons.inj (e ▸ minus)).1
      simp [isDigit] at digit
    · next plus =>
      cases (List.cons.inj (e ▸ plus)).1
      simp [isDigit] at digit
    · rw [number]
      rfl
  · split
    · next negative =>
      rw [List.cons_append, year?, trimLeft_of_not_blank rfl]
      simp only [signed_padded _ stops, Option.map_some]
      exact congrArg (fun year => some (year, rest)) (by omega)
    · next positive =>
      rw [List.cons_append, year?, trimLeft_of_not_blank rfl]
      simp only [signed_padded _ stops, Option.map_some]
      exact congrArg (fun year => some (year, rest)) (by omega)

theorem fraction?_padded (wide : 0 < width) (narrow : width ≤ 9) (h : n < Nat.pow 10 width) (stops : Stops rest) :
    fraction? ('.' :: (padded width n ++ rest)) = some (n * Nat.pow 10 (9 - width), rest) := by
  have length := Decimal.length_padded wide h
  obtain ⟨c, ds, e, -⟩ := Decimal.padded_eq_cons width n
  have value := Decimal.value_padded width n
  rw [fraction?, Decimal.digits_append (fun c => Decimal.isDigit_of_mem_padded) stops]
  rw [e] at value length ⊢
  simp only [List.take_of_length_le (length ▸ narrow), value, length]

theorem fraction?_fractionChars (nanosecond : Fin 1000000000) (rest : List Char) :
    fraction? (fractionChars nanosecond.val ++ 'Z' :: rest) = some (nanosecond.val, 'Z' :: rest) := by
  have stops : Stops ('Z' :: rest) := .cons rfl
  have bound := nanosecond.isLt
  unfold fractionChars
  split
  · next none =>
    rw [none]
    rfl
  · split
    · next milli =>
      rw [List.cons_append, fraction?_padded (by omega) (by omega) (by simp; omega) stops]
      simp
      omega
    · split
      · next micro =>
        rw [List.cons_append, fraction?_padded (by omega) (by omega) (by simp; omega) stops]
        simp
        omega
      · rw [List.cons_append, fraction?_padded (by omega) (by omega) (by simp) stops]
        simp

theorem ofLocal?_utc (t : Timestamp) :
    ofLocal? t.date t.hour.val t.minute.val t.second.val t.nanosecond.val 0 = some t := by
  have := t.hour.isLt
  have := t.minute.isLt
  have here : shift? t.date (t.hour.val * 60 + t.minute.val) 0 = some (t.date, t.hour.val * 60 + t.minute.val) := by
    rw [shift?, if_neg (by omega), if_neg (by omega)]
    simp only [Int.sub_zero, Int.toNat_natCast]
  have hour : Fin.ofNat 24 ((t.hour.val * 60 + t.minute.val) / 60) = t.hour := Fin.ext (by simp; omega)
  have minute : Fin.ofNat 60 ((t.hour.val * 60 + t.minute.val) % 60) = t.minute := Fin.ext (by simp)
  rw [ofLocal?, if_pos (by simp), here]
  simp only [hour, minute, t.second.isLt, t.nanosecond.isLt, and_self, dite_true]

theorem daysIn_le (year : Int) (month : Nat) : Date.daysIn year month ≤ 31 := by
  unfold Date.daysIn
  split
  · split <;> omega
  · split <;> omega

theorem ofChars?_chars (t : Timestamp) : ofChars? t.chars = some t := by
  have twoDigits {n : Nat} (h : n < 100) : n < Nat.pow 10 2 := h
  have month := twoDigits (Nat.lt_of_le_of_lt t.date.month_range.2 (by omega))
  have day := twoDigits
    (Nat.lt_of_le_of_lt (Nat.le_trans t.date.day_range.2 (daysIn_le t.date.year t.date.month)) (by omega))
  have hour := twoDigits (Nat.lt_trans t.hour.isLt (by omega))
  have minute := twoDigits (Nat.lt_trans t.minute.isLt (by omega))
  have second := twoDigits (Nat.lt_trans t.second.isLt (by omega))
  have wide : 0 < 2 := by omega
  -- one step for each part of the text, with what the reader of the part finds and what it leaves
  have step {α β : Type} {read : Option α} {next : α → Option β} {a : α} {b : β} (found : read = some a)
      (rest : next a = some b) : read.bind next = some b := Option.bind_eq_some_iff.mpr ⟨a, found, rest⟩
  simp only [chars, List.append_assoc, List.cons_append]
  refine step (year?_yearChars _ (.cons rfl)) ?_
  refine step (separator?_self rfl _) (step (number?_padded wide month _) ?_)
  refine step (separator?_self rfl _) (step (number?_padded wide day _) ?_)
  refine step (number?_padded wide hour _) ?_
  refine step (separator?_self rfl _) (step (number?_padded wide minute _) ?_)
  refine step (separator?_self rfl _) (step (number?_padded wide second _) ?_)
  refine step (fraction?_fractionChars t.nanosecond []) ?_
  refine step rfl ?_
  exact step t.date.ofFields?_fields t.ofLocal?_utc

/-- A timestamp is what its text is read as. -/
theorem ofText?_text (t : Timestamp) : ofText? t.text = some t := by
  rw [ofText?, text, String.toList_ofList, ofChars?_chars]

end ChainIndex.Timestamp
