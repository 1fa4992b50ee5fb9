import ChainIndex.Json.Parser
import ChainIndex.Json.Printer
import ChainIndex.Proofs.Decimals

/-!
# Numbers and strings of JSON are read back

An integer is read back from its digits. The reader of numbers stops where a list, an object or the text
goes on, so what stands there does not change what it reads (`Json.Local`); a string ends at its quote,
since a quote inside it is escaped.
-/

set_option autoImplicit false

namespace ChainIndex

open Decimal (Stops isDigit)

/-! ### Integers -/

namespace Number

theorem le_foldl (ds : List Char) (read : Nat) :
    read ≤ ds.foldl (fun n c => 10 * n + Decimal.digitValue c) read := by
  induction ds generalizing read with
  | nil => exact Nat.le_refl read
  | cons c ds ih => exact Nat.le_trans (show read ≤ 10 * read + Decimal.digitValue c by omega) (ih _)

theorem takeWhole_of_lt {ds : List Char} {read : Nat}
    (h : ds.foldl (fun n c => 10 * n + Decimal.digitValue c) read < UInt64.size) :
    takeWhole read 0 ds = (ds.foldl (fun n c => 10 * n + Decimal.digitValue c) read, 0) := by
  induction ds generalizing read with
  | nil => rfl
  | cons c ds ih =>
    rw [takeWhole, if_pos ⟨rfl, Nat.lt_of_le_of_lt (le_foldl ds _) h⟩]
    exact ih h

theorem takeWhole_chars {n : Nat} (h : n < UInt64.size) : takeWhole 0 0 (Decimal.chars n) = (n, 0) := by
  have value := Decimal.value_chars n
  rw [Decimal.value] at value
  rw [takeWhole_of_lt (by rw [value]; exact h), value]

end Number

namespace Json

variable {rest : List Char}

theorem digits1?_chars (n : Nat) : digits1? (Decimal.chars n) = some (Decimal.chars n, []) := by
  have scan := Decimal.digits_append (fun _ => Decimal.isDigit_of_mem_chars (n := n)) Stops.nil
  rw [List.append_nil] at scan
  unfold digits1?
  split
  · next empty =>
    rw [scan] at empty
    exact absurd (congrArg Prod.fst empty) (Decimal.chars_ne_nil n)
  · rw [scan]

theorem wholePart?_chars (n : Nat) : wholePart? (Decimal.chars n) = some (Decimal.chars n, []) := by
  unfold wholePart?
  split
  · next found =>
    rw [digits1?_chars] at found
    injection found with found
    exact absurd (Decimal.eq_nil_of_chars_zero n (congrArg Prod.fst found)) (by simp)
  · exact digits1?_chars n

theorem unsignedNumber?_chars (negative : Bool) (n : Nat) :
    unsignedNumber? negative (Decimal.chars n) =
      (Number.ofLiteral? ⟨negative, Decimal.chars n, none, none⟩).map fun x => (x, []) := by
  rw [unsignedNumber?, wholePart?_chars, Option.map_eq_bind]
  rfl

theorem number?_nil : number? [] = none := rfl

theorem number?_of_ne {c : Char} (h : c ≠ '-') (text : List Char) :
    number? (c :: text) = unsignedNumber? false (c :: text) := by
  rw [number?.eq_2]
  rintro _ ⟨⟩
  exact h rfl

theorem number?_natural (n : UInt64) : number? (Decimal.chars n.toNat) = some (.natural n, []) := by
  have unsigned := unsignedNumber?_chars false n.toNat
  cases digits : Decimal.chars n.toNat with
  | nil => exact absurd digits (Decimal.chars_ne_nil _)
  | cons c more =>
    have digit : isDigit c = true := Decimal.isDigit_of_mem_chars (by rw [digits]; exact List.mem_cons_self)
    rw [number?_of_ne (by rintro rfl; simp [isDigit] at digit), ← digits, unsigned]
    simp [Number.ofLiteral?, Number.takeWhole_chars n.toNat_lt]

theorem number?_negative (n : Fin 9223372036854775808) :
    number? ('-' :: Decimal.chars (n.val + 1)) = some (.negative n, []) := by
  have small : n.val + 1 < UInt64.size := by
    have := n.isLt
    have : UInt64.size = 18446744073709551616 := rfl
    omega
  have fits : 0 < n.val + 1 ∧ n.val + 1 ≤ 9223372036854775808 := ⟨n.val.succ_pos, n.isLt⟩
  rw [number?, unsignedNumber?_chars]
  simp only [Number.ofLiteral?, Number.takeWhole_chars small, Bool.true_eq_false, if_false, dif_pos fits]
  rfl

/-! ### Numbers before other text -/

/-- Nothing follows, or what stands after a value in a list or in an object. -/
def Ends (rest : List Char) : Prop := ∀ c ∈ rest.head?, c = ',' ∨ c = ']' ∨ c = '\x7d'

theorem Ends.nil : Ends [] := nofun

theorem Ends.comma (rest : List Char) : Ends (',' :: rest) := by simp [Ends]

theorem Ends.bracket (rest : List Char) : Ends (']' :: rest) := by simp [Ends]

theorem Ends.brace (rest : List Char) : Ends ('\x7d' :: rest) := by simp [Ends]

theorem Ends.ne {c : Char} {tail : List Char} (h : Ends (c :: tail)) :
    isDigit c = false ∧ c ≠ '.' ∧ c ≠ 'e' ∧ c ≠ 'E' := by
  rcases h c rfl with rfl | rfl | rfl <;> decide

theorem Ends.stops (h : Ends rest) : Stops rest := by
  cases rest with
  | nil => exact .nil
  | cons c tail => exact .cons h.ne.1

/-- A reader that stops at the end of a value reads the same whatever stands after it. -/
def Local {α : Type} (read : List Char → Option (α × List Char)) : Prop :=
  ∀ text a more rest, Ends rest → read text = some (a, more) →
    read (text ++ rest) = some (a, more ++ rest)

namespace Local
variable {α β : Type} {read : List Char → Option (α × List Char)}

theorem bind {next : α → List Char → Option (β × List Char)} (h : Local read) (g : ∀ a, Local (next a)) :
    Local fun text => (read text).bind fun (a, more) => next a more := by
  intro text b left rest ends found
  obtain ⟨⟨a, more⟩, first, second⟩ := Option.bind_eq_some_iff.mp found
  simp only [h _ _ _ _ ends first, Option.bind_some]
  exact g a _ _ _ _ ends second

theorem map (h : Local read) (f : α → β) : Local fun text => (read text).map fun (a, more) => (f a, more) := by
  intro text b left rest ends found
  obtain ⟨⟨a, more⟩, first, second⟩ := Option.map_eq_some_iff.mp found
  cases second
  simp only [h _ _ _ _ ends first, Option.map_some]

theorem lift (a? : Option α) : Local fun text => a?.bind fun a => some (a, text) := by
  rintro text a left rest - found
  obtain ⟨b, rfl, second⟩ := Option.bind_eq_some_iff.mp found
  cases second
  rfl

end Local

theorem local_digits1? : Local digits1? := by
  intro text ds more rest ends h
  unfold digits1? at h ⊢
  obtain ⟨⟨found, left⟩, scan⟩ : ∃ result, Decimal.digits text = result := ⟨_, rfl⟩
  rw [scan] at h
  rw [Decimal.digits_append_right scan ends.stops]
  cases found with
  | nil => simp at h
  | cons c cs =>
    cases h
    rfl

theorem local_wholePart? : Local wholePart? := by
  intro text ds more rest ends h
  unfold wholePart? at h ⊢
  cases found : digits1? text with
  | none => simp [found] at h
  | some read =>
    obtain ⟨whole, left⟩ := read
    rw [found] at h
    rw [local_digits1? _ _ _ _ ends found]
    split at h
    · simp at h
    · cases h
      split
      · simp_all
      · rfl

theorem fractionPart?_of_ne {c : Char} (h : c ≠ '.') (text : List Char) :
    fractionPart? (c :: text) = some (none, c :: text) := by
  rw [fractionPart?.eq_2]
  rintro _ ⟨⟩
  exact h rfl

theorem local_fractionPart? : Local fractionPart? := by
  intro text fraction more rest ends h
  cases text with
  | nil =>
    cases h
    cases rest with
    | nil => rfl
    | cons c tail => exact fractionPart?_of_ne ends.ne.2.1 tail
  | cons c tail =>
    by_cases point : c = '.'
    · subst point
      exact local_digits1?.map some _ _ _ _ ends h
    · rw [fractionPart?_of_ne point] at h
      cases h
      exact fractionPart?_of_ne point _

theorem local_exponentDigits? (sign : Int) : Local (exponentDigits? sign) :=
  local_digits1?.map fun digits => some (sign * (Decimal.value digits : Int))

theorem local_exponentPart? : Local exponentPart? := by
  intro text exponent more rest ends h
  cases text with
  | nil =>
    cases h
    cases rest with
    | nil => rfl
    | cons c tail => simp [exponentPart?, ends.ne]
  | cons c tail =>
    -- after the letter there is a sign or not, and the digits after it are read alike
    by_cases e : c = 'e' ∨ c = 'E'
    · simp only [exponentPart?, List.cons_append, if_pos e] at h ⊢
      cases tail with
      | nil => simp [exponentDigits?, digits1?, Decimal.digits] at h
      | cons d tail =>
        split at h
        · next found =>
          cases found
          exact local_exponentDigits? 1 _ _ _ _ ends h
        · next found =>
          cases found
          exact local_exponentDigits? (-1) _ _ _ _ ends h
        · next plus minus =>
          split
          · next found => cases found; exact absurd rfl (plus tail)
          · next found => cases found; exact absurd rfl (minus tail)
          · exact local_exponentDigits? 1 _ _ _ _ ends h
    · simp only [exponentPart?, List.cons_append, if_neg e] at h ⊢
      cases h
      rfl

theorem local_unsignedNumber? (negative : Bool) : Local (unsignedNumber? negative) :=
  local_wholePart?.bind fun whole => local_fractionPart?.bind fun fraction =>
    local_exponentPart?.bind fun exponent =>
      .lift (Number.ofLiteral? ⟨negative, whole, fraction, exponent⟩)

theorem local_number? : Local number? := by
  intro text n more rest ends h
  cases text with
  | nil => simp [number?_nil] at h
  | cons c tail =>
    by_cases minus : c = '-'
    · subst minus
      exact local_unsignedNumber? true _ _ _ _ ends h
    · rw [number?_of_ne minus] at h
      rw [List.cons_append, number?_of_ne minus]
      exact local_unsignedNumber? false _ _ _ _ ends h

/-- A text that stands for a number begins with a sign or with a digit. -/
theorem start_of_number? {text : List Char} {n : Number} {more : List Char}
    (h : number? text = some (n, more)) : ∃ c tail, text = c :: tail ∧ (c = '-' ∨ isDigit c = true) := by
  cases text with
  | nil => simp [number?_nil] at h
  | cons c tail =>
    refine ⟨c, tail, rfl, ?_⟩
    by_contra other
    obtain ⟨minus, digit⟩ := not_or.mp other
    rw [number?_of_ne minus] at h
    simp [unsignedNumber?, wholePart?, digits1?, Decimal.digits, List.span_eq_takeWhile_dropWhile, digit] at h

/-! ### Strings -/

/-- What the reader of a string gives back once it has put a character in front. -/
def pushed (c : Char) (read : Option (List Char × List Char)) : Option (List Char × List Char) :=
  read.map fun (more, rest) => (c :: more, rest)

theorem bind_pushed (c : Char) (read : Option (List Char × List Char)) :
    (read.bind fun (more, rest) => some (c :: more, rest)) = pushed c read := by
  cases read <;> rfl

theorem stringBody?_simpleEscape {e c : Char} (h : simpleEscape? e = some c) (text : List Char) :
    stringBody? ('\\' :: e :: text) = pushed c (stringBody? text) := by
  have other : e ≠ 'u' := by
    rintro rfl
    simp [simpleEscape?] at h
  rw [stringBody?.eq_4 _ _ (fun _ _ _ _ _ _ _ _ _ he => absurd he other) (fun _ _ _ _ _ he => absurd he other), h]
  exact bind_pushed c _

theorem stringBody?_codeUnit {a b c d : Char} {unit : Nat} (h : hex4? a b c d = some unit)
    (high : isHighSurrogate unit = false) (low : isLowSurrogate unit = false) (text : List Char) :
    stringBody? ('\\' :: 'u' :: a :: b :: c :: d :: text) = pushed (Char.ofNat unit) (stringBody? text) := by
  -- a code unit may stand after this one, and is read on its own since this one is no surrogate
  by_cases pair : ∃ a' b' c' d' later, text = '\\' :: 'u' :: a' :: b' :: c' :: d' :: later
  · obtain ⟨a', b', c', d', later, rfl⟩ := pair
    rw [stringBody?.eq_2, h]
    simp only [bind, Option.bind_some, high, low, Bool.false_eq_true, if_false]
    exact bind_pushed _ _
  · rw [stringBody?.eq_3 _ _ _ _ _ fun a' b' c' d' later e => pair ⟨a', b', c', d', later, e⟩, h]
    simp only [bind, Option.bind_some, high, low, Bool.or_self, Bool.false_eq_true, if_false]
    exact bind_pushed _ _

theorem stringBody?_plain {c : Char} (quote : c ≠ '"') (backslash : c ≠ '\\') (printable : ¬ c.toNat < 32)
    (text : List Char) : stringBody? (c :: text) = pushed c (stringBody? text) := by
  rw [stringBody?.eq_5 _ _ quote (fun _ _ _ _ _ _ _ _ _ h => absurd h backslash)
    (fun _ _ _ _ _ h => absurd h backslash) (fun _ _ h => absurd h backslash), if_neg (by simp [printable, backslash])]
  exact bind_pushed c _

theorem hexValue?_hexDigit : ∀ n, n < 16 → hexValue? (hexDigit n) = some n := by decide

theorem hex4?_control {n : Nat} (h : n < 32) : hex4? '0' '0' (hexDigit (n / 16)) (hexDigit (n % 16)) = some n := by
  rw [hex4?, hexValue?_hexDigit (n / 16) (by omega), hexValue?_hexDigit (n % 16) (by omega)]
  simp [hexValue?]
  omega

theorem stringBody?_escapeChar (c : Char) (text : List Char) :
    stringBody? (escapeChar c ++ text) = pushed c (stringBody? text) := by
  by_cases named : c ∈ ['"', '\\', '\n', '\r', '\t', '\x08', '\x0c']
  · simp only [List.mem_cons, List.not_mem_nil, or_false] at named
    rcases named with rfl | rfl | rfl | rfl | rfl | rfl | rfl <;>
      exact stringBody?_simpleEscape rfl text
  · simp only [List.mem_cons, List.not_mem_nil, or_false, not_or] at named
    obtain ⟨quote, backslash, named⟩ := named
    by_cases control : c.toNat < 32
    · have unit := stringBody?_codeUnit (hex4?_control control) (by simp [isHighSurrogate]; omega)
        (by simp [isLowSurrogate]; omega) text
      simpa [escapeChar, quote, backslash, named, control, Char.ofNat_toNat] using unit
    · simpa [escapeChar, quote, backslash, named, control] using
        stringBody?_plain quote backslash control text

theorem stringBody?_escaped (s rest : List Char) :
    stringBody? (s.flatMap escapeChar ++ '"' :: rest) = some (s, rest) := by
  induction s with
  | nil => simp [stringBody?]
  | cons c s ih => rw [List.flatMap_cons, List.append_assoc, stringBody?_escapeChar, ih]; rfl

end Json

end ChainIndex
