import ChainIndex.Index.Document
import ChainIndex.Proofs.Forms
import ChainIndex.Proofs.Records
import ChainIndex.Proofs.Tables

/-!
# Documents answer like records

An index of documents and an index of records that are called alike answer alike. Between the calls the
documents are the encoded records (`Documents.Mirrors`), which every call keeps, so what decoding a
stored document gives is the record that was written, with its patches.
-/

set_option autoImplicit false

namespace ChainIndex

open Indexed (Entity)

variable {α π σ : Type}

/-- The doubles of the value are read back from their digits. -/
def Json.Survives (j : Json) : Prop := ∀ x ∈ j.doubles, x.Survives

instance (j : Json) : Decidable j.Survives := inferInstanceAs (Decidable (∀ x ∈ j.doubles, x.Survives))

/-- The value is nested no deeper than a text can be read. -/
def Json.isShallow (j : Json) : Bool := j.nesting ≤ maxDepth

theorem Json.isShallow_iff {j : Json} : j.isShallow = true ↔ j.nesting ≤ maxDepth := decide_eq_true_iff

/-- What is found in place of a document that cannot be decoded. -/
def Documents.malformed : Error := .decode "malformed document"

/-! ### Calls to an index -/

inductive Operation (α π : Type) where
  | create (a : α)
  | update (id : String) (patch : π)
  | upsert (a : α)
  | delete (id : String)
  | find (id : String)
  | findAll
  /-- The index is closed and opened again. -/
  | reopen

inductive Answer (α : Type) where
  | done
  | found (a : Option α)
  | listed (l : List α)

namespace Operation

/-- What a write answers, and the index after it: a write that fails leaves the index as it is. -/
def written (s : σ) : Except Error σ → Except Error (Answer α) × σ
  | .ok s => (.ok .done, s)
  | .error e => (.error e, s)

def onRecords [Entity α π] : Operation α π → Table String α → Except Error (Answer α) × Table String α
  | create a, t => written t (Index.create a t)
  | update id patch, t => written t (Index.update id patch t)
  | upsert a, t => (.ok .done, Index.upsert a t)
  | delete id, t => (.ok .done, Index.delete id t)
  | find id, t => (.ok (.found (t.get? id)), t)
  | findAll, t => (.ok (.listed t.values), t)
  | reopen, t => (.ok .done, t)

def onDocuments [Entity α π] [JsonForm α] : Operation α π → Documents → Except Error (Answer α) × Documents
  | create a, d => written d (d.create a)
  | update id patch, d => written d (Documents.update α id patch d)
  | upsert a, d => (.ok .done, d.upsert a)
  | delete id, d => (.ok .done, d.delete id)
  | find id, d => ((d.find α id).map .found, d)
  | findAll, d => ((d.findAll α).map .listed, d)
  | reopen, d => (.ok .done, d)

/-- The answers to some calls, one after the other, and the index after them. -/
def run (step : Operation α π → σ → Except Error (Answer α) × σ) :
    List (Operation α π) → σ → List (Except Error (Answer α)) × σ
  | [], s => ([], s)
  | op :: ops, s =>
    let (answer, s) := step op s
    let (answers, s) := run step ops s
    (answer :: answers, s)

/-- What the call hands over is such a value. -/
def Carries (p : Json → Prop) [JsonForm α] [JsonForm π] : Operation α π → Prop
  | create a | upsert a => p (toJson a)
  | update _ patch => p (toJson patch)
  | delete _ | find _ | findAll | reopen => True

/-- The records that the call has to read. -/
def reads : Operation α π → Table String α → List α
  | update id _, t | find id, t => (t.get? id).toList
  | findAll, t => t.values
  | create _, _ | upsert _, _ | delete _, _ | reopen, _ => []

/-- None of the records that the call has to read is nested too deep. -/
def legible [JsonForm α] (op : Operation α π) (t : Table String α) : Bool :=
  (op.reads t).all fun a => (toJson a).isShallow

/-- A call to an index of records that cannot read all of them: if there is one among the records it has to read the
call fails, and leaves the index as it is. -/
def onLegible [Entity α π] [JsonForm α] (op : Operation α π) (t : Table String α) :
    Except Error (Answer α) × Table String α :=
  match op.legible t with
  | true => op.onRecords t
  | false => (.error Documents.malformed, t)

/-- Along these calls to an index of records each has to read only records that are not nested too deep. -/
def Legible [Entity α π] [JsonForm α] : List (Operation α π) → Table String α → Prop
  | [], _ => True
  | op :: ops, t => op.legible t = true ∧ Legible ops (op.onRecords t).2

end Operation

/-! ### One call -/

/-- Records that are read back from their JSON form, and last also after a patch. -/
class Archived (α : Type) {π : outParam Type} [Entity α π] [JsonForm α] [JsonForm π] : Prop
    extends LawfulForm α where
  patch {depth : Nat} {p : π} {a : α} : (toJson p).Durable depth → (toJson a).Durable depth →
    (toJson (Entity.patch p a)).Durable depth

namespace Documents

/-- A record is what its document is decoded to, if the document is nested no deeper than a text can be read; else
the document is not decoded. -/
theorem decode_encode [JsonForm α] [LawfulForm α] {a : α} (survives : (toJson a).Survives) :
    decode α (encode a) = if (toJson a).isShallow then .ok a else .error malformed := by
  unfold decode
  cases found : (Json.parse? (encode a)).bind (ofJson? (α := α)) with
  | none =>
    have deep : ¬ (toJson a).isShallow = true := fun shallow => by
      have read := JsonForm.ofText?_text (a := a) ⟨Json.isShallow_iff.mp shallow, survives⟩
      cases found.symm.trans read
    rw [if_neg deep]
    rfl
  | some b =>
    obtain ⟨rfl, shallow⟩ := JsonForm.eq_of_ofText? survives found
    rw [if_pos (Json.isShallow_iff.mpr shallow)]

/-- The documents are the records of a table as text. -/
structure Mirrors [JsonForm α] (d : Documents) (t : Table String α) : Prop where
  texts : d = t.mapValues encode
  survives : t.All fun _ a => (toJson a).Survives

namespace Mirrors
variable {d : Documents} {t : Table String α} {a : α} [JsonForm α]

theorem empty : Mirrors (.empty : Documents) (.empty : Table String α) := ⟨rfl, Table.all_empty⟩

theorem insert (h : d.Mirrors t) (survives : (toJson a).Survives) (id : String) :
    Mirrors (Table.insert d id (encode a)) (t.insert id a) where
  texts := by rw [h.texts, Table.mapValues_insert]
  survives := h.survives.insert survives

theorem erase (h : d.Mirrors t) (id : String) : Mirrors (Table.erase d id) (t.erase id) where
  texts := by rw [h.texts, Table.mapValues_erase]
  survives := h.survives.erase id

theorem get? (h : d.Mirrors t) (id : String) : Table.get? d id = (t.get? id).map encode := by
  rw [h.texts, Table.get?_mapValues]

variable [LawfulForm α]

theorem findAll (h : d.Mirrors t) :
    d.findAll α = if t.values.all fun a => (toJson a).isShallow then .ok t.values else .error malformed := by
  have decoded : ∀ l : List α, (∀ a ∈ l, (toJson a).Survives) → (l.map encode).mapM (decode α) =
      if l.all fun a => (toJson a).isShallow then .ok l else .error malformed := by
    intro l survive
    induction l with
    | nil => rfl
    | cons a rest ih =>
      obtain ⟨first, others⟩ := List.forall_mem_cons.mp survive
      rw [List.map_cons, List.mapM_cons, decode_encode first, ih others, List.all_cons]
      cases (toJson a).isShallow <;> cases rest.all fun a => (toJson a).isShallow <;> rfl
  rw [Documents.findAll, h.texts, Table.values_mapValues]
  refine decoded _ fun a ha => ?_
  obtain ⟨id, found⟩ := (t.mem_values_iff a).mp ha
  exact h.survives id a found

end Mirrors

end Documents

namespace Operation

section
variable {t : Table String α}

/-- What a call has to read is stored. -/
theorem get?_of_mem_reads {op : Operation α π} {a : α} (h : a ∈ op.reads t) : ∃ id, t.get? id = some a := by
  cases op with
  | update id _ | find id => exact ⟨id, by simpa [reads] using h⟩
  | findAll => exact (t.mem_values_iff a).mp h
  | _ => cases h

variable [Entity α π]

/-- An index of records that has read something does not answer that a text is malformed. -/
theorem onRecords_ne_malformed {op : Operation α π} {a : α} (h : a ∈ op.reads t) :
    (op.onRecords t).1 ≠ .error Documents.malformed := by
  cases op with
  | update id patch =>
    have found : t.get? id = some a := by simpa [reads] using h
    rw [onRecords, Index.update, found]
    exact nofun
  | find id => exact nofun
  | findAll => exact nofun
  | _ => cases h

/-- A call to an index of records fails only if a record is created twice or a missing one is updated. -/
theorem error_of_onRecords {op : Operation α π} {e : Error} (failed : (op.onRecords t).1 = .error e) :
    ∃ id, e = .alreadyExists (Index.describe α id) ∨ e = .notFound (Index.describe α id) := by
  cases op with
  | create a =>
    simp only [onRecords, Index.create] at failed
    split at failed
    · exact ⟨_, .inl (Except.error.inj failed).symm⟩
    · cases failed
  | update id patch =>
    simp only [onRecords, Index.update] at failed
    split at failed
    · cases failed
    · exact ⟨_, .inr (Except.error.inj failed).symm⟩
  | _ => cases failed

variable [JsonForm α]

/-- An index that cannot read all records answers as one that can, exactly as long as it does not have to. -/
theorem answers_onLegible_iff (ops : List (Operation α π)) (t : Table String α) :
    (run onLegible ops t).1 = (run onRecords ops t).1 ↔ Legible ops t := by
  induction ops generalizing t with
  | nil => exact ⟨fun _ => trivial, fun _ => rfl⟩
  | cons op ops ih =>
    simp only [run, List.cons.injEq, Legible]
    rw [onLegible]
    cases legible : op.legible t with
    | true => exact and_congr (iff_of_true rfl rfl) (ih _)
    | false =>
      refine iff_of_false (fun same => ?_) (fun both => nomatch both.1)
      obtain ⟨a, read, -⟩ := List.all_eq_false.mp legible
      exact onRecords_ne_malformed read same.1.symm

theorem run_onLegible_of_legible {ops : List (Operation α π)} (h : Legible ops t) :
    run onLegible ops t = run onRecords ops t := by
  induction ops generalizing t with
  | nil => rfl
  | cons op ops ih =>
    simp only [run, onLegible, h.1, ih h.2]

theorem error_of_mem_run {ops : List (Operation α π)} {e : Error} (failed : .error e ∈ (run onLegible ops t).1) :
    e = Documents.malformed ∨
      ∃ id, e = .alreadyExists (Index.describe α id) ∨ e = .notFound (Index.describe α id) := by
  induction ops generalizing t with
  | nil => cases failed
  | cons op ops ih =>
    rcases List.mem_cons.mp failed with here | later
    · have here : (op.onLegible t).1 = .error e := here.symm
      unfold onLegible at here
      split at here
      · exact .inr (error_of_onRecords here)
      · exact .inl (Except.error.inj here).symm
    · exact ih later

end

variable [Entity α π] [JsonForm α] [JsonForm π] [Archived α]

/-- A record is as good as what it was made of: it survives as text if that does. -/
theorem survives_patch {p : π} {a : α} (hp : (toJson p).Survives) (ha : (toJson a).Survives) :
    (toJson (Entity.patch p a)).Survives := by
  have durable : (toJson (Entity.patch p a)).Durable (max (toJson p).nesting (toJson a).nesting) :=
    Archived.patch ⟨Nat.le_max_left _ _, hp⟩ ⟨Nat.le_max_right _ _, ha⟩
  exact durable.survive

theorem step_mirrors (op : Operation α π) (survives : op.Carries Json.Survives) {d : Documents} {t : Table String α}
    (h : d.Mirrors t) :
    (op.onDocuments d).1 = (op.onLegible t).1 ∧ (op.onDocuments d).2.Mirrors (op.onLegible t).2 := by
  cases op with
  | create a =>
    have taken : Table.contains d (Entity.id a) = t.contains (Entity.id a) := by
      rw [h.texts, Table.contains_mapValues]
    have whole : onLegible (.create a) t = written t (Index.create a t) := rfl
    rw [whole, onDocuments, Documents.create, Index.create, taken]
    split
    · exact ⟨rfl, h⟩
    · exact ⟨rfl, h.insert survives _⟩
  | update id patch =>
    rw [onLegible, legible, reads, onDocuments, onRecords, Documents.update, Index.update, h.get?]
    cases found : t.get? id with
    | none => exact ⟨rfl, h⟩
    | some a =>
      have stored := h.survives id a found
      simp only [Option.map_some, Option.toList_some, List.all_cons, List.all_nil, Bool.and_true,
        Documents.decode_encode stored]
      cases (toJson a).isShallow with
      | true => exact ⟨rfl, h.insert (survives_patch survives stored) id⟩
      | false => exact ⟨rfl, h⟩
  | upsert a => exact ⟨rfl, h.insert survives _⟩
  | delete id => exact ⟨rfl, h.erase id⟩
  | find id =>
    rw [onLegible, legible, reads, onDocuments, onRecords, Documents.find, h.get?]
    cases found : t.get? id with
    | none => exact ⟨rfl, h⟩
    | some a =>
      simp only [Option.map_some, Option.toList_some, List.all_cons, List.all_nil, Bool.and_true,
        Documents.decode_encode (h.survives id a found)]
      cases (toJson a).isShallow <;> exact ⟨rfl, h⟩
  | findAll =>
    rw [onLegible, legible, reads, onDocuments, onRecords, h.findAll]
    cases t.values.all fun a => (toJson a).isShallow <;> exact ⟨rfl, h⟩
  | reopen => exact ⟨rfl, h⟩

/-! ### Runs of calls -/

theorem run_mirrors (ops : List (Operation α π)) (survive : ∀ op ∈ ops, op.Carries Json.Survives) {d : Documents}
    {t : Table String α} (h : d.Mirrors t) :
    (run onDocuments ops d).1 = (run onLegible ops t).1 ∧
      (run onDocuments ops d).2.Mirrors (run onLegible ops t).2 := by
  induction ops generalizing d t with
  | nil => exact ⟨rfl, h⟩
  | cons op ops ih =>
    obtain ⟨answer, mirrors⟩ := op.step_mirrors (survive op List.mem_cons_self) h
    obtain ⟨answers, last⟩ := ih (fun op' hop => survive op' (List.mem_cons_of_mem _ hop)) mirrors
    exact ⟨by simp only [run, answer, answers], last⟩

/-- An index of records that last, to which such records are handed over, keeps to them. -/
theorem onRecords_durable {op : Operation α π} {t : Table String α} (durable : op.Carries (Json.Durable Json.maxDepth))
    (h : t.All fun _ a => (toJson a).Durable Json.maxDepth) :
    (op.onRecords t).2.All fun _ a => (toJson a).Durable Json.maxDepth := by
  cases op with
  | create a =>
    simp only [onRecords, Index.create]
    split
    · exact h
    · exact h.insert durable
  | update id patch =>
    simp only [onRecords, Index.update]
    cases found : t.get? id with
    | none => exact h
    | some a => exact h.insert (Archived.patch durable (h id a found))
  | upsert a => exact h.insert durable
  | delete id => exact h.erase id
  | _ => exact h

/-- Where only records that last are handed over every call can read what it has to. -/
theorem legible_of_durable {ops : List (Operation α π)} (durable : ∀ op ∈ ops, op.Carries (Json.Durable Json.maxDepth))
    {t : Table String α} (h : t.All fun _ a => (toJson a).Durable Json.maxDepth) : Legible ops t := by
  induction ops generalizing t with
  | nil => trivial
  | cons op ops ih =>
    obtain ⟨here, later⟩ := List.forall_mem_cons.mp durable
    refine ⟨List.all_eq_true.mpr fun a ha => ?_, ih later (onRecords_durable here h)⟩
    obtain ⟨id, found⟩ := get?_of_mem_reads ha
    exact Json.isShallow_iff.mpr (h id a found).shallow

omit [JsonForm π] [Archived α] in
theorem legible_of_shallow (shallow : ∀ a : α, (toJson a).nesting ≤ Json.maxDepth) (ops : List (Operation α π))
    (t : Table String α) : Legible ops t := by
  induction ops generalizing t with
  | nil => trivial
  | cons op ops ih => exact ⟨List.all_eq_true.mpr fun a _ => Json.isShallow_iff.mpr (shallow a), ih _⟩

end Operation

/-! ### The seven kinds -/

/-- What an update of a record of a kind carries. -/
def Kind.Patch : Kind → Type
  | .transaction => Indexed.TransactionStatus
  | kind => kind.Record

namespace Kind

instance : (kind : Kind) → Entity kind.Record kind.Patch
  | .block => inferInstanceAs (Entity Indexed.Block _)
  | .transaction => inferInstanceAs (Entity Indexed.Transaction _)
  | .event => inferInstanceAs (Entity Indexed.Event _)
  | .account => inferInstanceAs (Entity Indexed.Account _)
  | .key => inferInstanceAs (Entity Indexed.AccountKey _)
  | .contract => inferInstanceAs (Entity Indexed.Contract _)
  | .storageItem => inferInstanceAs (Entity Indexed.StorageItem _)

instance : (kind : Kind) → JsonForm kind.Record
  | .block => inferInstanceAs (JsonForm Indexed.Block)
  | .transaction => inferInstanceAs (JsonForm Indexed.Transaction)
  | .event => inferInstanceAs (JsonForm Indexed.Event)
  | .account => inferInstanceAs (JsonForm Indexed.Account)
  | .key => inferInstanceAs (JsonForm Indexed.AccountKey)
  | .contract => inferInstanceAs (JsonForm Indexed.Contract)
  | .storageItem => inferInstanceAs (JsonForm Indexed.StorageItem)

instance : (kind : Kind) → JsonForm kind.Patch
  | .transaction => inferInstanceAs (JsonForm Indexed.TransactionStatus)
  | .block => inferInstanceAs (JsonForm Indexed.Block)
  | .event => inferInstanceAs (JsonForm Indexed.Event)
  | .account => inferInstanceAs (JsonForm Indexed.Account)
  | .key => inferInstanceAs (JsonForm Indexed.AccountKey)
  | .contract => inferInstanceAs (JsonForm Indexed.Contract)
  | .storageItem => inferInstanceAs (JsonForm Indexed.StorageItem)

instance : (kind : Kind) → Archived kind.Record
  | .block => { read := (LawfulForm.read (α := Indexed.Block)), patch := fun h _ => h }
  | .transaction =>
    { read := LawfulForm.read (α := Indexed.Transaction)
      patch := fun {_ status _} _ h => Indexed.Transaction.durable_withStatus status h }
  | .event => { read := LawfulForm.read (α := Indexed.Event), patch := fun h _ => h }
  | .account => { read := LawfulForm.read (α := Indexed.Account), patch := fun h _ => h }
  | .key => { read := LawfulForm.read (α := Indexed.AccountKey), patch := fun h _ => h }
  | .contract => { read := LawfulForm.read (α := Indexed.Contract), patch := fun h _ => h }
  | .storageItem => { read := LawfulForm.read (α := Indexed.StorageItem), patch := fun h _ => h }

end Kind

namespace Operation

/-- What was created is found, in an index of documents if it can be read. -/
theorem answers_create_find (kind : Kind) (a : kind.Record) (survives : (toJson a).Survives) :
    (run onRecords [.create a, .find (Entity.id a)] .empty).1 = [.ok .done, .ok (.found (some a))] ∧
      (run onDocuments [.create a, .find (Entity.id a)] .empty).1 =
        [.ok .done, if (toJson a).isShallow then .ok (.found (some a)) else .error Documents.malformed] := by
  refine ⟨?_, ?_⟩
  · show [Except.ok Answer.done, .ok (.found ((Table.insert .empty (Entity.id a) a).get? (Entity.id a)))] = _
    rw [Table.get?_insert_self]
  · show [Except.ok Answer.done,
      (Documents.find kind.Record (Entity.id a) (Table.insert .empty (Entity.id a) (Documents.encode a))).map .found] = _
    rw [Documents.find, Table.get?_insert_self]
    simp only [Documents.decode_encode survives]
    split <;> rfl

/-- Records of accounts, of their keys and of their contracts are never nested too deep: only a record that holds data
of any form can be. -/
theorem legible_of_kind {kind : Kind} (plain : kind = .account ∨ kind = .key ∨ kind = .contract)
    (ops : List (Operation kind.Record kind.Patch)) (t : Table String kind.Record) : Legible ops t := by
  rcases plain with rfl | rfl | rfl
  · exact legible_of_shallow (fun a => (Indexed.durable_account a).shallow) ops t
  · exact legible_of_shallow (fun k => (Indexed.durable_accountKey k).shallow) ops t
  · exact legible_of_shallow (fun c => (Indexed.durable_contract c).shallow) ops t

/-- From empty indexes on, the documents answer every call as the records do if and only if none of the calls has to
read a record that is nested too deep for its text to be read, which no record of an account, a key or a contract is,
and none else that was handed over no deeper. In any case they answer as records would of which only the others can be
read, and what is stored is decoded to the record that was written, if it can be read. The doubles of what is handed
over are taken to be read back from their digits. -/
theorem documents_refine_records (kind : Kind) (ops : List (Operation kind.Record kind.Patch))
    (survive : ∀ op ∈ ops, op.Carries Json.Survives) :
    ((run onDocuments ops .empty).1 = (run onRecords ops .empty).1 ↔ Legible ops .empty) ∧
      (kind = .account ∨ kind = .key ∨ kind = .contract → Legible ops .empty) ∧
      ((∀ op ∈ ops, op.Carries fun j => j.isShallow = true) → Legible ops .empty) ∧
      (Legible ops .empty → run onLegible ops .empty = run onRecords ops .empty) ∧
      (run onDocuments ops .empty).1 = (run onLegible ops .empty).1 ∧
      (∀ e, .error e ∈ (run onDocuments ops .empty).1 → e = Documents.malformed ∨ ∃ id,
        e = .alreadyExists (Index.describe kind.Record id) ∨ e = .notFound (Index.describe kind.Record id)) ∧
      ∀ id, ((run onDocuments ops .empty).2.get? id).map (Documents.decode kind.Record) =
        ((run onLegible ops .empty).2.get? id).map fun a =>
          if (toJson a).isShallow then .ok a else .error Documents.malformed := by
  obtain ⟨answers, mirrors⟩ := run_mirrors ops survive .empty
  refine ⟨by rw [answers]; exact answers_onLegible_iff ops .empty, fun plain => legible_of_kind plain ops _,
    fun shallow => legible_of_durable (fun op hop => ?_) Table.all_empty, run_onLegible_of_legible, answers,
    fun e failed => error_of_mem_run (answers ▸ failed), fun id => ?_⟩
  · have survives := survive op hop
    have shallow := shallow op hop
    cases op with
    | create a | upsert a => exact ⟨Json.isShallow_iff.mp shallow, survives⟩
    | update id patch => exact ⟨Json.isShallow_iff.mp shallow, survives⟩
    | _ => trivial
  · rw [mirrors.get?]
    cases found : (run onLegible ops .empty).2.get? id with
    | none => rfl
    | some a => exact congrArg some (Documents.decode_encode (mirrors.survives id a found))

/-- A transaction whose argument is a list of the negative zero and an empty value. -/
def transfer : Indexed.Transaction where
  id := "t1"
  script := ""
  payer := "0x01"
  blockId := "b1"
  referenceBlockId := "b0"
  gasLimit := 9999
  authorizers := ["0x01"]
  arguments := [⟨"amount", "UFix64", .ofJson (.array [.number (.double (.zero true)), .null])⟩]
  proposalKey := ⟨"0x01", 0, 1⟩
  envelopeSignatures := []
  payloadSignatures := []
  status := ⟨.pending, 0, ""⟩

/-- It is created twice, sealed, found after the index was opened again, and deleted. -/
def transferCalls : List (Operation (Kind.Record .transaction) (Kind.Patch .transaction)) :=
  [.create transfer, .create transfer, .update "t2" transfer.status, .update "t1" ⟨.sealed, 1, "out of gas"⟩,
    .reopen, .find "t1", .delete "t1", .findAll]

theorem documents_refine_records_transfer :
    (∀ op ∈ transferCalls, op.Carries Json.Survives) ∧
    (run onDocuments transferCalls .empty).1 =
      [.ok .done, .error (.alreadyExists "transaction t1"), .error (.notFound "transaction t2"), .ok .done,
        .ok .done, .ok (.found (some { transfer with status := ⟨.sealed, 1, "out of gas"⟩ })), .ok .done,
        .ok (.listed [])] := by
  have created : (toJson transfer).Survives ∧ (toJson transfer).isShallow = true := by decide +kernel
  have patched (status : Indexed.TransactionStatus) : (toJson status).Durable Json.maxDepth := by
    simp [Json.maxDepth]
  have both : ∀ op ∈ transferCalls, op.Carries Json.Survives ∧ op.Carries fun j => j.isShallow = true := by
    simp only [transferCalls, List.forall_mem_cons, List.not_mem_nil, false_implies, implies_true, and_true]
    have patch (status : Indexed.TransactionStatus) : (toJson status).Survives ∧ (toJson status).isShallow = true :=
      ⟨(patched status).survive, Json.isShallow_iff.mpr (patched status).shallow⟩
    exact ⟨created, created, patch _, patch _, ⟨trivial, trivial⟩, ⟨trivial, trivial⟩, ⟨trivial, trivial⟩,
      ⟨trivial, trivial⟩⟩
  have survive : ∀ op ∈ transferCalls, op.Carries Json.Survives := fun op hop => (both op hop).1
  obtain ⟨same_iff, -, shallow, -⟩ := documents_refine_records .transaction transferCalls survive
  exact ⟨survive, (same_iff.mpr (shallow fun op hop => (both op hop).2)).trans rfl⟩

/-! ### An event that cannot be read -/

/-- A list in a list, and so on. -/
def nestedLists : Nat → Json
  | 0 => .array []
  | n + 1 => .array [nestedLists n]

/-- The data of the event are 127 lists, of which its record makes one level more. -/
def deepEvent : Kind.Record .event :=
  Indexed.Event.mk "t1.0" "A.01.Vault.Emptied" "t1" "b1" 0 0 (.ofJson (nestedLists 126))

def deepCalls : List (Operation (Kind.Record .event) (Kind.Patch .event)) := [.create deepEvent, .find "t1.0"]

/-- The event is stored, and then one index finds it and the other one cannot decode it. -/
theorem documents_lose_deepEvent : (∀ op ∈ deepCalls, op.Carries Json.Survives) ∧
    (run onRecords deepCalls .empty).1 = [.ok .done, .ok (.found (some deepEvent))] ∧
    (run onDocuments deepCalls .empty).1 = [.ok .done, .error Documents.malformed] := by
  have created : (toJson deepEvent).Survives ∧ (toJson deepEvent).isShallow = false := by decide +kernel
  have survive : ∀ op ∈ deepCalls, op.Carries Json.Survives := by
    simp only [deepCalls, List.forall_mem_cons, List.not_mem_nil, false_implies, implies_true, and_true]
    exact ⟨created.1, trivial⟩
  obtain ⟨records, documents⟩ := answers_create_find .event deepEvent created.1
  rw [created.2] at documents
  exact ⟨survive, records, documents⟩

end Operation

end ChainIndex
