import ChainIndex.Indexed.Id
import ChainIndex.Proofs.Decimals

/-!
# Texts around a mark

Ids are made of texts with a mark between them. Where the mark does not stand in the first text this is told from
the whole, and so is what stands behind it; where it does not stand in the last one, so are that and what stands in
front of it. Addresses have no mark, and the number of an event is written in digits, so ids are equal only where
their parts are (`Indexed.ids_told_apart`).
-/

set_option autoImplicit false

namespace ChainIndex

namespace Text

variable {mark : Char}

theorem takeWhile_append_mark {p : List Char} (h : mark ∉ p) (x : List Char) :
    (p ++ mark :: x).takeWhile (· ≠ mark) = p := by
  rw [List.takeWhile_append_of_pos, List.takeWhile_cons_of_neg, List.append_nil]
  · simp
  · intro c hc
    simpa using fun same : c = mark => h (same ▸ hc)

theorem append_mark_inj {p q x y : List Char} (hp : mark ∉ p) (hq : mark ∉ q)
    (h : p ++ mark :: x = q ++ mark :: y) : p = q ∧ x = y := by
  have first : p = q := by
    rw [← takeWhile_append_mark hp x, h, takeWhile_append_mark hq]
  subst first
  exact ⟨rfl, (List.cons.inj (List.append_cancel_left h)).2⟩

end Text

/-- Text in front of the first dot is told from the text behind it. -/
theorem append_dot_inj {p q x y : String} (hp : '.' ∉ p.toList) (hq : '.' ∉ q.toList)
    (h : p ++ "." ++ x = q ++ "." ++ y) : p = q ∧ x = y := by
  have lists := congrArg String.toList h
  simp only [String.toList_append, List.append_assoc, show ".".toList = ['.'] from rfl, List.singleton_append] at lists
  obtain ⟨front, behind⟩ := Text.append_mark_inj hp hq lists
  exact ⟨String.toList_inj.mp front, String.toList_inj.mp behind⟩

/-- What stands in front of the last dot of a text, and behind it, is told from the text. -/
theorem append_lastDot_inj {p q x y : String} (hx : '.' ∉ x.toList) (hy : '.' ∉ y.toList)
    (h : p ++ "." ++ x = q ++ "." ++ y) : p = q ∧ x = y := by
  let backwards (s : String) : String := String.ofList s.toList.reverse
  have back {s t : String} (same : backwards s = backwards t) : s = t :=
    String.toList_inj.mp (List.reverse_inj.mp (String.ofList_inj.mp same))
  have reversed : backwards x ++ "." ++ backwards p = backwards y ++ "." ++ backwards q := by
    have lists := congrArg (fun s : String => s.toList.reverse) h
    apply String.toList_inj.mp
    simpa [backwards] using lists
  obtain ⟨last, first⟩ := append_dot_inj (by simpa [backwards] using hx) (by simpa [backwards] using hy) reversed
  exact ⟨back first, back last⟩

/-! ### Addresses, paths and numbers -/

theorem Address.mark_notMem_prefixed {mark : Char} {address : String} (other : mark ∉ ['0', 'x'])
    (h : mark ∉ address.toList) : mark ∉ (prefixed address).toList := by
  unfold prefixed
  split
  · exact h
  · rw [String.toList_append, List.mem_append, not_or]
    exact ⟨other, h⟩

theorem dotless_prefixed {address : String} (h : '.' ∉ address.toList) : '.' ∉ (Address.prefixed address).toList :=
  Address.mark_notMem_prefixed (by decide) h

theorem PathDomain.slash_notMem_text (d : PathDomain) : '/' ∉ d.text.toList := by
  cases d <;> decide

theorem PathDomain.text_inj {d d' : PathDomain} (h : d.text = d'.text) : d = d' := by
  cases d <;> cases d' <;> first | rfl | exact absurd h (by decide)

namespace Decimal

theorem dot_notMem_text (n : Nat) : '.' ∉ (text n).toList := by
  rw [text, String.toList_ofList]
  intro dot
  cases isDigit_of_mem_chars dot

theorem text_inj {m n : Nat} (h : text m = text n) : m = n := by
  rw [← value_chars m, String.ofList_inj.mp h, value_chars]

end Decimal

/-! ### Ids -/

section
open Indexed (keyId contractId storageItemId)

theorem keyId_prefixed (address publicKey : String) :
    keyId (Address.prefixed address) publicKey = keyId address publicKey := by
  rw [keyId, Address.prefixed_prefixed, keyId]

theorem contractId_prefixed (address name : String) :
    contractId (Address.prefixed address) name = contractId address name := by
  rw [contractId, Address.prefixed_prefixed, contractId]

theorem storageItemId_prefixed (address : String) (domain : PathDomain) (identifier : String) :
    storageItemId (Address.prefixed address) domain identifier = storageItemId address domain identifier := by
  rw [storageItemId, Address.prefixed_prefixed, storageItemId]

end

namespace Indexed

variable {address address' : String}

theorem eventId_inj {id id' : String} {i i' : UInt32} (same : eventId id i = eventId id' i') : id = id' ∧ i = i' := by
  obtain ⟨ids, numbers⟩ := append_lastDot_inj (Decimal.dot_notMem_text _) (Decimal.dot_notMem_text _) same
  exact ⟨ids, UInt32.toNat_inj.mp (Decimal.text_inj numbers)⟩

/-- The id of a key or of a contract tells the account and the name, if addresses have no dots. -/
theorem under_address_inj {name name' : String} (h : '.' ∉ address.toList) (h' : '.' ∉ address'.toList)
    (same : Address.prefixed address ++ "." ++ name = Address.prefixed address' ++ "." ++ name') :
    Address.prefixed address = Address.prefixed address' ∧ name = name' :=
  append_dot_inj (dotless_prefixed h) (dotless_prefixed h') same

/-- Items of accounts whose addresses have no slash have one id only if they stand under one path of one account. -/
theorem storageItemId_inj {identifier identifier' : String} {domain domain' : PathDomain}
    (h : '/' ∉ address.toList) (h' : '/' ∉ address'.toList)
    (same : storageItemId address domain identifier = storageItemId address' domain' identifier') :
    Address.prefixed address = Address.prefixed address' ∧ domain = domain' ∧ identifier = identifier' := by
  have lists := congrArg String.toList same
  simp only [storageItemId, String.toList_append, List.append_assoc, show "/".toList = ['/'] from rfl,
    List.singleton_append] at lists
  obtain ⟨accounts, rest⟩ := Text.append_mark_inj (Address.mark_notMem_prefixed (by decide) h)
    (Address.mark_notMem_prefixed (by decide) h') lists
  obtain ⟨domains, identifiers⟩ := Text.append_mark_inj domain.slash_notMem_text domain'.slash_notMem_text rest
  exact ⟨String.toList_inj.mp accounts, PathDomain.text_inj (String.toList_inj.mp domains),
    String.toList_inj.mp identifiers⟩

/-- Ids are equal only if their parts are, whatever else stands in a transaction's id, in a public key, in the name
of a contract or in the identifier of an item. An address may come with its prefix or without it. -/
theorem ids_told_apart :
    (∀ (id id' : String) (i i' : UInt32), eventId id i = eventId id' i' ↔ id = id' ∧ i = i') ∧
    (∀ address address' : String, '.' ∉ address.toList → '.' ∉ address'.toList → ∀ name name' : String,
      (keyId address name = keyId address' name' ↔
        Address.prefixed address = Address.prefixed address' ∧ name = name') ∧
      (contractId address name = contractId address' name' ↔
        Address.prefixed address = Address.prefixed address' ∧ name = name')) ∧
    (∀ address address' : String, '/' ∉ address.toList → '/' ∉ address'.toList →
      ∀ (domain domain' : PathDomain) (identifier identifier' : String),
        storageItemId address domain identifier = storageItemId address' domain' identifier' ↔
          Address.prefixed address = Address.prefixed address' ∧ domain = domain' ∧ identifier = identifier') ∧
    ∀ (address name : String) (domain : PathDomain),
      keyId (Address.prefixed address) name = keyId address name ∧
      contractId (Address.prefixed address) name = contractId address name ∧
      storageItemId (Address.prefixed address) domain name = storageItemId address domain name := by
  refine ⟨fun id id' i i' => ⟨eventId_inj, ?_⟩, fun address address' h h' name name' => ?_,
    fun address address' h h' domain domain' identifier identifier' => ⟨storageItemId_inj h h', ?_⟩,
    fun address name domain => ?_⟩
  · rintro ⟨rfl, rfl⟩
    rfl
  · -- keys and contracts have ids of one form
    refine ⟨⟨under_address_inj h h', ?_⟩, ⟨under_address_inj h h', ?_⟩⟩
    · rintro ⟨accounts, rfl⟩
      rw [keyId, accounts, keyId]
    · rintro ⟨accounts, rfl⟩
      rw [contractId, accounts, contractId]
  · rintro ⟨accounts, rfl, rfl⟩
    rw [storageItemId, accounts, storageItemId]
  · exact ⟨keyId_prefixed address name, contractId_prefixed address name, storageItemId_prefixed address domain name⟩

/-- Marks in the other parts of ids are not taken for those between the parts. -/
theorem ids_told_apart_marked :
    '.' ∉ "01".toList ∧ '.' ∉ "0x01".toList ∧ '/' ∉ "01".toList ∧ '/' ∉ "0x01".toList ∧
      eventId "t.1" 2 ≠ eventId "t" 12 ∧ keyId "01" "a.b" = keyId "0x01" "a.b" ∧
      contractId "01" "A" ≠ contractId "0x01" "01.A" ∧
      storageItemId "01" .storagePath "public/x" ≠ storageItemId "0x01" .publicPath "x" := by
  obtain ⟨events, named, items, -⟩ := ids_told_apart
  have dotless : '.' ∉ "01".toList ∧ '.' ∉ "0x01".toList := by decide
  have slashless : '/' ∉ "01".toList ∧ '/' ∉ "0x01".toList := by decide
  refine ⟨dotless.1, dotless.2, slashless.1, slashless.2, fun same => ?_,
    (named _ _ dotless.1 dotless.2 _ _).1.mpr ⟨rfl, rfl⟩, fun same => ?_, fun same => ?_⟩
  · exact absurd ((events _ _ _ _).mp same).1 (by decide)
  · exact absurd ((named _ _ dotless.1 dotless.2 _ _).2.mp same).2 (by decide)
  · exact absurd ((items _ _ slashless.1 slashless.2 _ _ _ _).mp same).2.1 (by decide)

end Indexed

end ChainIndex
