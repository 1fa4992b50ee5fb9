import ChainIndex.Attempt
import ChainIndex.Chain.Node
import ChainIndex.Config
import ChainIndex.Reconcile
import ChainIndex.Store

/-!
# The world of an indexer

An indexer works on a node of the chain and on its store, through calls that may fail. An `Act` is a
piece of that work: it ends with a value or an error, and it leaves the world changed either way. The
outages of a world say which calls fail, counted from the beginning, and with which error; a call
that fails changes nothing else.
-/

set_option autoImplicit false

namespace ChainIndex

/-- A call to the store or to the node, with the id it is about. -/
inductive Call where
  | findAll (kind : Kind)
  | find (kind : Kind) (id : String)
  | create (kind : Kind) (id : String)
  | update (kind : Kind) (id : String)
  | upsert (kind : Kind) (id : String)
  | delete (kind : Kind) (id : String)
  | latestBlock
  | block (height : UInt64)
  | collection (id : String)
  | transaction (id : String)
  | status (id : String)
  | account (address : String)
  | storageItems (address : String)
  | subscribe (id : String)
  deriving DecidableEq

/-- How a status stream breaks off behind its first status. -/
inductive Break where
  | failed (e : Error)
  | ended
  deriving DecidableEq

/-- What goes wrong in the world. -/
structure Outages where
  /-- The error of the call with a number, if it fails. -/
  call : Nat → Call → Option Error
  /-- How the status stream of a transaction breaks off, if it does. -/
  stream : String → Option Break

/-- Nothing goes wrong. -/
def Outages.none : Outages := ⟨fun _ _ => .none, fun _ => .none⟩

/-- How far a watcher of a transaction has come. -/
inductive Stage where
  | spawned
  /-- The watcher has a subscription, which may break off. -/
  | subscribed (subscription : Chain.Node.Subscription) (breaks : Option Break)
  deriving DecidableEq

structure World where
  node : Chain.Node
  store : Store
  /-- The watchers that have not finished, by the ids of their transactions. -/
  watchers : Table String Stage
  phase : Phase
  /-- How many times the phase was set. -/
  phaseChanges : Nat
  /-- The time that is observed without a block. -/
  clock : Timestamp
  outages : Outages
  /-- The number of calls so far. -/
  calls : Nat

/-- The world at the start of an indexer. -/
def World.start (node : Chain.Node) (store : Store) (clock : Timestamp) : World where
  node
  store
  watchers := .empty
  phase := .idle
  phaseChanges := 0
  clock
  outages := .none
  calls := 0

def World.setPhase (phase : Phase) (w : World) : World :=
  { w with phase, phaseChanges := w.phaseChanges + 1 }

abbrev Act (α : Type) := Attempt World α

namespace Act

open Store (Shelved)
open Indexed (Entity)

variable {α π : Type}

/-- Makes a call: it fails if there is an outage, else `run` answers it. -/
def attempt (call : Call) (run : World → Except Error α × World) : Act α := fun w =>
  let counted := { w with calls := w.calls + 1 }
  match w.outages.call w.calls call with
  | some e => (.error e, counted)
  | none => run counted

/-- Asks the node. -/
def ask (call : Call) (answer : Chain.Node → Except Error α) : Act α :=
  attempt call fun w => (answer w.node, w)

/-- Reads an index. -/
def read (call : Call) (answer : Store → α) : Act α :=
  attempt call fun w => (.ok (answer w.store), w)

/-- Writes an index, unless the write is refused. -/
def write [Shelved α π] (call : Call) (change : Table String α → Except Error (Table String α)) :
    Act Unit :=
  attempt call fun w =>
    match change (Shelved.table w.store) with
    | .ok table => (.ok (), { w with store := Shelved.setTable table w.store })
    | .error e => (.error e, w)

def findAll (α : Type) {π : Type} [Shelved α π] : Act (List α) :=
  read (.findAll (Shelved.shelf α)) fun s => (Shelved.table s : Table String α).values

def find (α : Type) {π : Type} [Shelved α π] (id : String) : Act (Option α) :=
  read (.find (Shelved.shelf α) id) fun s => (Shelved.table s).get? id

def create [Shelved α π] (a : α) : Act Unit :=
  write (.create (Shelved.shelf α) (Entity.id a)) (Index.create a)

def update (α : Type) {π : Type} [Shelved α π] (id : String) (patch : π) : Act Unit :=
  write (.update (Shelved.shelf α) id) (Index.update (α := α) id patch)

def upsert [Shelved α π] (a : α) : Act Unit :=
  write (.upsert (Shelved.shelf α) (Entity.id a)) fun t => .ok (Index.upsert a t)

def delete (α : Type) {π : Type} [Shelved α π] (id : String) : Act Unit :=
  write (.delete (Shelved.shelf α) id) fun t => .ok (Index.delete (α := α) id t)

/-- Makes the operations of a diff of whole records on their index. -/
def applyDiff [Shelved α α] (d : Diff α) : StateM World Diff.Report :=
  Diff.apply create (fun a => update α (Entity.id a) a) (fun a => delete α (Entity.id a)) d

end Act

end ChainIndex
