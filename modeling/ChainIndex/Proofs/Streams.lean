import ChainIndex.Proofs.Node

/-!
# Status streams

Statuses are set and streams are opened and polled in any order, until the chain is closed. The record of what
happened, the latest first, tells alone what each poll answers (`due`): the first one the status as it is, a
later one the status as it is if it was set again, even to an equal one. So what a stream shows are statuses
that its transaction had, in their order, and the last one of them is the latest one wherever it waits.
-/

set_option autoImplicit false

namespace ChainIndex.Streaming

open Chain (Change Node TransactionStatus)
open Chain.Node (Poll Subscription)

/-- What happens to a chain and to the streams of its statuses. -/
inductive Happening where
  | change (c : Change)
  | opened (stream id : String)
  | polled (stream : String) (answer : Poll)

namespace Happening

/-- The status that a transaction is set to. -/
def sets? (id : String) : Happening → Option TransactionStatus
  | change (.transaction t status) => if t.id = id then some status else none
  | change (.status name status) => if name = id then some status else none
  | _ => none

/-- The status that a stream shows. -/
def shows? (stream : String) : Happening → Option TransactionStatus
  | polled name (.update status) => if name = stream then some status else none
  | _ => none

def stream? : Happening → Option String
  | change _ => none
  | opened name _ => some name
  | polled name _ => some name

def opens (stream : String) : Happening → Bool
  | opened name _ => name = stream
  | _ => false

def closes : Happening → Bool
  | change .close => true
  | _ => false

/-- A stream of a transaction has to do with it. -/
def concerns (stream id : String) (h : Happening) : Bool :=
  h.stream? = some stream || (h.sets? id).isSome || h.closes

/-- A poll without its answer. -/
def asked : Happening → Happening
  | polled name _ => polled name .pending
  | h => h

end Happening

/-- A chain with the streams that were opened. -/
structure State where
  node : Node
  streams : Table String Subscription

/-- A run with its record. A stream has a name of its own, and it is not polled any more when it has reported
that it is closed. -/
inductive Runs : List Happening → State → Prop where
  | start : Runs [] ⟨.empty, .empty⟩
  | change {record : List Happening} {s : State} (run : Runs record s) (alive : s.node.closed = false) (c : Change) :
      Runs (.change c :: record) { s with node := c.apply s.node }
  | opened {record : List Happening} {s : State} (run : Runs record s) (alive : s.node.closed = false)
      {stream id : String} {sub : Subscription} {n : Node} (fresh : s.streams.get? stream = none)
      (subscribed : s.node.subscribe id = .ok (sub, n)) :
      Runs (.opened stream id :: record) ⟨n, s.streams.insert stream sub⟩
  | polled {record : List Happening} {s : State} (run : Runs record s) {stream : String} {sub : Subscription}
      (found : s.streams.get? stream = some sub) (isOpen : .polled stream .closed ∉ record) :
      Runs (.polled stream (s.node.poll sub).1 :: record)
        { s with streams := s.streams.insert stream (s.node.poll sub).2 }

/-! ### What the record tells -/

/-- The status that was set last. -/
def current (id : String) (record : List Happening) : Option TransactionStatus := record.findSome? (·.sets? id)

/-- The statuses that a stream has shown. -/
def shown (stream : String) (record : List Happening) : List TransactionStatus := record.filterMap (·.shows? stream)

/-- The statuses that a transaction has had since the stream was opened. -/
def had (stream id : String) : List Happening → List TransactionStatus
  | [] => []
  | h :: record =>
    if h.opens stream then (current id record).toList else (h.sets? id).toList ++ had stream id record

/-- The status was set since the stream showed one. -/
def renewed (stream id : String) (record : List Happening) : Bool :=
  (record.takeWhile fun h => (h.shows? stream).isNone).any fun h => (h.sets? id).isSome

/-- The chain was closed. -/
def gone (record : List Happening) : Bool := record.any (·.closes)

/-- A stream has something to show: it has shown nothing yet, or there is something new. -/
def unseen (stream id : String) (record : List Happening) : Bool :=
  (shown stream record).isEmpty || renewed stream id record

/-- What a poll is to answer. -/
def due (stream id : String) (record : List Happening) : Poll :=
  match current id record with
  | some status => if unseen stream id record then .update status else if gone record then .closed else .pending
  | none => .closed

/-- Polls of a stream were answered as they were to be, and it showed nothing before it was opened. -/
def Regular (stream id : String) : List Happening → Prop
  | [] => True
  | h :: record => Regular stream id record ∧ (∀ answer, h = .polled stream answer → answer = due stream id record) ∧
      (h.opens stream = true → shown stream record = [])

section
variable {stream id : String} {h : Happening} {record : List Happening}

theorem current_cons (id : String) (h : Happening) (record : List Happening) :
    current id (h :: record) = (h.sets? id).or (current id record) := by
  rw [current, List.findSome?_cons]
  cases h.sets? id <;> rfl

theorem shown_cons (stream : String) (h : Happening) (record : List Happening) :
    shown stream (h :: record) = (h.shows? stream).toList ++ shown stream record := by
  rw [shown, List.filterMap_cons]
  cases h.shows? stream <;> rfl

theorem unseen_cons (stream id : String) (h : Happening) (record : List Happening) :
    unseen stream id (h :: record) =
      if (h.shows? stream).isSome then false else (h.sets? id).isSome || unseen stream id record := by
  rw [unseen, unseen, shown_cons, renewed, renewed, List.takeWhile_cons]
  cases h.shows? stream with
  | some status => rfl
  | none =>
    simp only [Option.isNone_none, if_true, List.any_cons, Option.toList_none, List.nil_append, Option.isSome_none,
      Bool.false_eq_true, if_false]
    exact Bool.or_left_comm _ _ _

/-- What has to do with another stream shows nothing on this one. -/
theorem shows?_of_ne (other : h.stream? ≠ some stream) : h.shows? stream = none := by
  cases h with
  | change c => rfl
  | opened name id => rfl
  | polled name answer =>
    cases answer with
    | update status => exact if_neg fun same => other (congrArg some same)
    | pending => rfl
    | closed => rfl

/-- A stream shows a status only where it is polled. -/
theorem shows?_eq_some {status : TransactionStatus} (shows : h.shows? stream = some status) :
    h = .polled stream (.update status) := by
  cases h with
  | change c => cases shows
  | opened name id => cases shows
  | polled name answer =>
    cases answer with
    | update status' =>
      obtain ⟨rfl, same⟩ := Option.ite_none_right_eq_some.mp shows
      rw [Option.some.inj same]
    | pending => cases shows
    | closed => cases shows

theorem opens_iff : h.opens stream = true ↔ ∃ id, h = .opened stream id := by
  cases h <;> simp [Happening.opens]

theorem head?_had : (had stream id record).head? = current id record := by
  induction record with
  | nil => rfl
  | cons h record ih =>
    rw [had, current_cons]
    split
    · next opens =>
      obtain ⟨_, rfl⟩ := opens_iff.mp opens
      cases current id record <;> rfl
    · cases sets : h.sets? id with
      | some status => rfl
      | none => exact ih

theorem due_eq_update {status : TransactionStatus} (h : due stream id record = .update status) :
    current id record = some status ∧ unseen stream id record = true := by
  unfold due at h
  split at h
  · next latest =>
    split at h
    · next fresh =>
      cases h
      exact ⟨latest, fresh⟩
    · split at h <;> cases h
  · cases h

/-- A stream shows statuses that the transaction had since it was opened, and has not shown the latest one where
it has something to show. -/
theorem Regular.shown_sublist (regular : Regular stream id record) :
    (shown stream record).Sublist (had stream id record) ∧
      (unseen stream id record = true → (shown stream record).Sublist (had stream id record).tail) := by
  induction record with
  | nil => exact ⟨.slnil, fun _ => .slnil⟩
  | cons h record ih =>
    obtain ⟨regular, answered, opened⟩ := regular
    obtain ⟨all, news⟩ := ih regular
    rw [unseen_cons, shown_cons, had]
    cases shows : h.shows? stream with
    | some status =>
      -- The poll was to show the latest status, which the stream has not shown yet.
      obtain rfl := shows?_eq_some shows
      obtain ⟨latest, fresh⟩ := due_eq_update (answered _ rfl).symm
      obtain ⟨rest, split⟩ := List.head?_eq_some_iff.mp (head?_had.trans latest)
      rw [split] at news
      refine ⟨?_, nofun⟩
      show (status :: shown stream record).Sublist (had stream id record)
      rw [split]
      exact (news fresh).cons_cons status
    | none =>
      simp only [Option.toList_none, List.nil_append, Option.isSome_none, Bool.false_eq_true, if_false]
      split
      · next opens =>
        rw [opened opens]
        exact ⟨List.nil_sublist _, fun _ => List.nil_sublist _⟩
      · cases sets : h.sets? id with
        | some status => exact ⟨all.cons status, fun _ => all⟩
        | none => exact ⟨all, news⟩

/-- A stream that has nothing to show has shown the latest status last. -/
theorem Regular.head?_shown (regular : Regular stream id record) (seen : unseen stream id record = false) :
    (shown stream record).head? = current id record := by
  induction record with
  | nil => cases seen
  | cons h record ih =>
    obtain ⟨regular, answered, -⟩ := regular
    rw [unseen_cons] at seen
    rw [shown_cons, current_cons]
    cases shows : h.shows? stream with
    | some status =>
      obtain rfl := shows?_eq_some shows
      exact (due_eq_update (answered _ rfl).symm).1.symm
    | none =>
      rw [shows, Option.isSome_none, if_neg Bool.false_ne_true, Bool.or_eq_false_iff] at seen
      rw [Option.isSome_eq_false_iff.mp seen.1 |> Option.isNone_iff_eq_none.mp]
      exact ih regular seen.2

end

/-! ### What does not concern a stream -/

section
variable {stream id : String} {h : Happening} {record : List Happening}

theorem sets?_of_not_concerns (out : h.concerns stream id = false) :
    h.stream? ≠ some stream ∧ h.sets? id = none ∧ h.closes = false := by
  simpa [Happening.concerns, Bool.or_eq_false_iff, and_assoc] using out

theorem due_filter (stream id : String) (record : List Happening) :
    due stream id (record.filter (·.concerns stream id)) = due stream id record := by
  have same : current id (record.filter (·.concerns stream id)) = current id record ∧
      unseen stream id (record.filter (·.concerns stream id)) = unseen stream id record ∧
      gone (record.filter (·.concerns stream id)) = gone record := by
    induction record with
    | nil => exact ⟨rfl, rfl, rfl⟩
    | cons h record ih =>
      obtain ⟨latest, fresh, closed⟩ := ih
      rw [List.filter_cons]
      split
      · refine ⟨?_, ?_, ?_⟩
        · rw [current_cons, current_cons, latest]
        · rw [unseen_cons, unseen_cons, fresh]
        · rw [gone, List.any_cons, ← gone, closed]
          rfl
      · next out =>
        obtain ⟨other, sets, closes⟩ := sets?_of_not_concerns (Bool.eq_false_iff.mpr out)
        refine ⟨?_, ?_, ?_⟩
        · rw [current_cons, sets, latest]
          rfl
        · rw [unseen_cons, shows?_of_ne other, sets, fresh]
          rfl
        · rw [closed, gone, gone, List.any_cons, closes]
          rfl
  unfold due
  rw [same.1, same.2.1, same.2.2]

theorem Regular.filter (regular : Regular stream id record) :
    Regular stream id (record.filter (·.concerns stream id)) := by
  induction record with
  | nil => trivial
  | cons h record ih =>
    obtain ⟨regular, answered, opened⟩ := regular
    rw [List.filter_cons]
    split
    · refine ⟨ih regular, fun answer same => (answered answer same).trans (due_filter ..).symm, fun opens => ?_⟩
      have less : (shown stream (record.filter (·.concerns stream id))).Sublist (shown stream record) :=
        List.filter_sublist.filterMap _
      rw [opened opens] at less
      exact List.sublist_nil.mp less
    · exact ih regular

/-- Where the same was asked, and it all concerns the stream, the same was answered. -/
theorem Regular.eq_of_asked {record' : List Happening} (regular : Regular stream id record)
    (regular' : Regular stream id record') (all : ∀ h ∈ record, h.concerns stream id = true)
    (same : record.map Happening.asked = record'.map Happening.asked) : record = record' := by
  induction record generalizing record' with
  | nil => exact (List.map_eq_nil_iff.mp same.symm).symm
  | cons h record ih =>
    obtain ⟨h', record', rfl, first, rest⟩ := List.map_eq_cons_iff.mp same.symm
    obtain ⟨regular, answered, -⟩ := regular
    obtain ⟨regular', answered', -⟩ := regular'
    obtain rfl := ih regular regular' (fun h hh => all h (List.mem_cons_of_mem _ hh)) rest.symm
    congr 1
    have concerns := all h List.mem_cons_self
    cases h with
    | change c =>
      cases h' <;> cases first
      rfl
    | opened name id =>
      cases h' <;> cases first
      rfl
    | polled name answer =>
      cases h' <;> cases first
      obtain rfl : name = stream := by
        simpa [Happening.concerns, Happening.stream?, Happening.sets?, Happening.closes] using concerns
      rw [answered _ rfl, answered' _ rfl]

end

/-! ### Runs -/

/-- How a change of the chain changes the status of a transaction. -/
theorem channel_apply (c : Change) (n : Node) (id : String) :
    ((Happening.change c).sets? id = none ∧ (c.apply n).channels.get? id = n.channels.get? id) ∨
      ∃ status version, (Happening.change c).sets? id = some status ∧
        (c.apply n).channels.get? id = some ⟨status, version⟩ ∧
        ∀ ch, n.channels.get? id = some ch → version = ch.version + 1 := by
  have set (n : Node) (name : String) (status : TransactionStatus) (happening : Happening)
      (sets : happening.sets? id = if name = id then some status else none) :
      (happening.sets? id = none ∧ (n.setStatus name status).channels.get? id = n.channels.get? id) ∨
        ∃ status' version, happening.sets? id = some status' ∧
          (n.setStatus name status).channels.get? id = some ⟨status', version⟩ ∧
          ∀ ch, n.channels.get? id = some ch → version = ch.version + 1 := by
    rw [sets]
    by_cases same : name = id
    · subst same
      refine .inr ⟨status, _, if_pos rfl, n.channels.get?_insert_self name _, fun ch found => ?_⟩
      rw [found]
    · exact .inl ⟨if_neg same, n.channels.get?_insert_of_ne (Ne.symm same) _⟩
  cases c with
  | transaction t status => exact set (n.putBody t) t.id status (.change (.transaction t status)) rfl
  | status name status => exact set n name status (.change (.status name status)) rfl
  | _ => exact .inl ⟨rfl, rfl⟩

theorem closed_apply (c : Change) (n : Node) : (c.apply n).closed = ((Happening.change c).closes || n.closed) := by
  cases c <;> rfl

/-- A stream stands as the record tells: it has seen the latest version exactly if it has nothing to show. -/
structure Follows (record : List Happening) (n : Node) (stream : String) (sub : Subscription) : Prop where
  channel : ∃ ch, n.channels.get? sub.id = some ch ∧ (∀ v, sub.seen = some v → v ≤ ch.version) ∧
    (sub.seen = some ch.version ↔ unseen stream sub.id record = false)
  ids : ∀ id, .opened stream id ∈ record → id = sub.id
  regular : Regular stream sub.id record

structure Tracks (record : List Happening) (s : State) : Prop where
  statuses : ∀ id, (s.node.channels.get? id).map (·.status) = current id record
  closed : s.node.closed = gone record
  streams : ∀ stream sub, s.streams.get? stream = some sub → Follows record s.node stream sub
  unused : ∀ stream, s.streams.get? stream = none → ∀ h ∈ record, h.stream? ≠ some stream

section
variable {record : List Happening} {s : State} {n n' : Node} {stream : String} {sub : Subscription} {h : Happening}

theorem Follows.ids_cons (follows : Follows record n stream sub) (other : ∀ id, h ≠ .opened stream id) :
    ∀ id, .opened stream id ∈ h :: record → id = sub.id := by
  intro id here
  rcases List.mem_cons.mp here with same | before
  · exact absurd same.symm (other id)
  · exact follows.ids id before

/-- What happens to other streams and transactions does not matter to a stream. -/
theorem Follows.other (follows : Follows record n stream sub) (other : h.stream? ≠ some stream)
    (sets : h.sets? sub.id = none) (same : n'.channels.get? sub.id = n.channels.get? sub.id) :
    Follows (h :: record) n' stream sub where
  channel := by
    obtain ⟨ch, found, bound, news⟩ := follows.channel
    refine ⟨ch, same.trans found, bound, ?_⟩
    rw [unseen_cons, shows?_of_ne other, sets]
    exact news
  ids := follows.ids_cons fun id same => other (same ▸ rfl)
  regular := by
    refine ⟨follows.regular, fun answer same => ?_, fun opens => ?_⟩
    · subst same
      exact absurd rfl other
    · obtain ⟨id, rfl⟩ := opens_iff.mp opens
      exact absurd rfl other

theorem Follows.change (follows : Follows record n stream sub) (c : Change) :
    Follows (.change c :: record) (c.apply n) stream sub := by
  rcases channel_apply c n sub.id with ⟨sets, same⟩ | ⟨status, version, sets, found', next⟩
  · exact follows.other nofun sets same
  · obtain ⟨ch, found, bound, -⟩ := follows.channel
    refine ⟨⟨⟨status, version⟩, found', fun v seen => ?_, ?_⟩, follows.ids_cons nofun, follows.regular, nofun, nofun⟩
    · rw [next ch found]
      exact Nat.le_succ_of_le (bound v seen)
    · -- The version is higher than any that was seen.
      rw [unseen_cons, sets]
      refine iff_of_false (fun seen => ?_) (by simp [Happening.shows?])
      have seen := bound _ seen
      rw [next ch found] at seen
      exact Nat.not_succ_le_self _ seen

theorem poll_cases {ch : Chain.Channel} (found : n.channels.get? sub.id = some ch) :
    (sub.seen = some ch.version ∧ n.poll sub = (if n.closed then .closed else .pending, sub)) ∨
      sub.seen ≠ some ch.version ∧ n.poll sub = (.update ch.status, { sub with seen := some ch.version }) := by
  unfold Node.poll
  rw [found]
  by_cases seen : sub.seen = some ch.version
  · exact .inl ⟨seen, if_pos seen⟩
  · exact .inr ⟨seen, if_neg seen⟩

/-- A poll is answered as the record tells, and the stream goes on as the record tells. -/
theorem Follows.polled (follows : Follows record s.node stream sub) (tracks : Tracks record s) :
    (s.node.poll sub).1 = due stream sub.id record ∧
      Follows (.polled stream (s.node.poll sub).1 :: record) s.node stream (s.node.poll sub).2 := by
  obtain ⟨ch, found, bound, news⟩ := follows.channel
  have latest := tracks.statuses sub.id
  rw [found, Option.map_some] at latest
  rcases poll_cases found with ⟨seen, run⟩ | ⟨unseen', run⟩
  · have answer : (if s.node.closed then .closed else .pending) = due stream sub.id record := by
      rw [due, ← latest, news.mp seen, ← tracks.closed]
      rfl
    rw [run]
    refine ⟨answer, ⟨ch, found, bound, ?_⟩, follows.ids_cons nofun, follows.regular, ?_, nofun⟩
    · rw [unseen_cons]
      cases s.node.closed <;> exact news
    · rintro _ ⟨⟩
      exact answer
  · have fresh : unseen stream sub.id record = true := by
      by_contra seen
      exact unseen' (news.mpr (Bool.eq_false_iff.mpr seen))
    have answer : .update ch.status = due stream sub.id record := by
      rw [due, ← latest, fresh]
      rfl
    rw [run]
    refine ⟨answer, ⟨ch, found, ?_, ?_⟩, follows.ids_cons nofun, follows.regular, ?_, nofun⟩
    · rintro _ ⟨⟩
      exact Nat.le_refl _
    · simp [unseen_cons, Happening.shows?]
    · rintro _ ⟨⟩
      exact answer

/-- What happens to one stream and to no status leaves the others as they are. -/
theorem Tracks.insert (tracks : Tracks record s) (about : h.stream? = some stream) (sets : ∀ id, h.sets? id = none)
    (closes : h.closes = false) (channels : n.channels = s.node.channels) (closed : n.closed = s.node.closed)
    (follows : Follows (h :: record) n stream sub) : Tracks (h :: record) ⟨n, s.streams.insert stream sub⟩ where
  statuses id := by
    rw [current_cons, sets, channels]
    exact tracks.statuses id
  closed := by
    rw [closed, tracks.closed, gone, gone, List.any_cons, closes]
    rfl
  streams name sub' found := by
    by_cases same : name = stream
    · subst same
      rw [Table.get?_insert_self] at found
      cases found
      exact follows
    · rw [Table.get?_insert_of_ne _ same] at found
      refine (tracks.streams name sub' found).other ?_ (sets _) (congrArg (Table.get? · sub'.id) channels)
      rw [about]
      exact fun eq => same (Option.some.inj eq).symm
  unused name free h' here := by
    have other : name ≠ stream := by
      rintro rfl
      rw [Table.get?_insert_self] at free
      cases free
    rw [Table.get?_insert_of_ne _ other] at free
    rcases List.mem_cons.mp here with rfl | before
    · rw [about]
      exact fun eq => other (Option.some.inj eq).symm
    · exact tracks.unused name free h' before

end

theorem subscribe_eq_ok {n n' : Node} {id : String} {sub : Subscription} (h : n.subscribe id = .ok (sub, n')) :
    ∃ ch, n.channels.get? id = some ch ∧ sub = ⟨id, none⟩ ∧ n' = { n with openCount := n.openCount + 1 } := by
  unfold Node.subscribe Node.status at h
  cases known : n.channels.get? id with
  | none =>
    rw [known] at h
    cases h
  | some ch =>
    rw [known] at h
    cases h
    exact ⟨ch, rfl, rfl, rfl⟩

/-- Nothing is shown by a stream that does not occur. -/
theorem regular_of_unused {record : List Happening} {stream : String} (id : String)
    (unused : ∀ h ∈ record, h.stream? ≠ some stream) : shown stream record = [] ∧ Regular stream id record := by
  induction record with
  | nil => exact ⟨rfl, trivial⟩
  | cons h record ih =>
    obtain ⟨quiet, regular⟩ := ih fun h' hh => unused h' (List.mem_cons_of_mem h hh)
    have other := unused h List.mem_cons_self
    refine ⟨by rw [shown_cons, shows?_of_ne other, quiet]; rfl, regular, ?_, fun _ => quiet⟩
    rintro answer rfl
    exact absurd rfl other

theorem Runs.tracks {record : List Happening} {s : State} (run : Runs record s) : Tracks record s := by
  induction run with
  | start =>
    exact ⟨fun id => rfl, rfl, nofun, fun _ _ _ here => absurd here List.not_mem_nil⟩
  | @change record s _ _ c ih =>
    refine ⟨fun id => ?_, ?_, fun stream sub found => (ih.streams stream sub found).change c,
      fun stream free h here => ?_⟩
    · rw [current_cons, ← ih.statuses]
      rcases channel_apply c s.node id with ⟨sets, same⟩ | ⟨status, version, sets, found, -⟩
      · rw [sets, same]
        rfl
      · rw [sets, found]
        rfl
    · rw [closed_apply, ih.closed]
      rfl
    · rcases List.mem_cons.mp here with rfl | before
      · nofun
      · exact ih.unused stream free h before
  | @opened record s _ _ stream id sub n fresh subscribed ih =>
    obtain ⟨ch, known, rfl, rfl⟩ := subscribe_eq_ok subscribed
    obtain ⟨quiet, regular⟩ := regular_of_unused id (ih.unused stream fresh)
    refine ih.insert rfl (fun _ => rfl) rfl rfl rfl
      ⟨⟨ch, known, nofun, ?_⟩, fun id' here => ?_, regular, nofun, fun _ => quiet⟩
    · rw [unseen_cons, unseen, quiet]
      simp [Happening.shows?]
    · rcases List.mem_cons.mp here with same | before
      · cases same
        rfl
      · exact absurd rfl (ih.unused stream fresh _ before)
  | @polled record s _ stream sub found _ ih =>
    exact ih.insert rfl (fun _ => rfl) rfl rfl rfl ((ih.streams stream sub found).polled ih).2

/-- What a stream answers to a poll. -/
structure Shows (stream id : String) (record : List Happening) (answer : Poll) : Prop where
  /-- The first time, and whenever the status was set since the last one, it is the status as it is. -/
  latest : shown stream record = [] ∨ renewed stream id record = true →
    ∃ status, current id record = some status ∧ answer = .update status
  /-- Else it waits, or it has ended with the chain, and the last one is the status as it is. -/
  still : shown stream record ≠ [] → renewed stream id record = false →
    answer = (if gone record then .closed else .pending) ∧ (shown stream record).head? = current id record

/-- In every run a stream of a transaction shows the latest status and misses no change: what it has shown are
statuses that the transaction had since the stream was opened, in their order, and its answers follow from what
was asked of it and set for the transaction. -/
theorem Runs.shows_latest {record : List Happening} {s : State} (run : Runs record s) {stream id : String}
    (opened : .opened stream id ∈ record) :
    ∃ sub, s.streams.get? stream = some sub ∧ sub.id = id ∧ Shows stream id record (s.node.poll sub).1 ∧
      (shown stream record).Sublist (had stream id record) ∧
      ∀ record' s', Runs record' s' → .opened stream id ∈ record' →
        (record.filter (·.concerns stream id)).map Happening.asked =
          (record'.filter (·.concerns stream id)).map Happening.asked →
        record.filter (·.concerns stream id) = record'.filter (·.concerns stream id) := by
  have follow {record : List Happening} {s : State} (run : Runs record s) (opened : .opened stream id ∈ record) :
      ∃ sub, s.streams.get? stream = some sub ∧ sub.id = id ∧ Follows record s.node stream sub := by
    cases found : s.streams.get? stream with
    | none => exact absurd rfl (run.tracks.unused stream found _ opened)
    | some sub =>
      have follows := run.tracks.streams stream sub found
      exact ⟨sub, rfl, (follows.ids id opened).symm, follows⟩
  obtain ⟨sub, found, rfl, follows⟩ := follow run opened
  obtain ⟨ch, known, -, -⟩ := follows.channel
  have status := run.tracks.statuses sub.id
  rw [known, Option.map_some] at status
  have answer := (follows.polled run.tracks).1
  rw [due, ← status] at answer
  refine ⟨sub, found, rfl, ⟨fun news => ⟨ch.status, status.symm, ?_⟩, fun some old => ?_⟩,
    follows.regular.shown_sublist.1, fun record' s' run' opened' same => ?_⟩
  · have fresh : unseen stream sub.id record = true := by simpa [unseen] using news
    rw [answer, fresh]
    rfl
  · have seen : unseen stream sub.id record = false := by simpa [unseen] using ⟨some, old⟩
    refine ⟨?_, follows.regular.head?_shown seen⟩
    rw [answer, seen]
    rfl
  · obtain ⟨sub', -, own, follows'⟩ := follow run' opened'
    exact follows.regular.filter.eq_of_asked (own ▸ follows'.regular).filter
      (fun h hh => (List.mem_filter.mp hh).2) same

/-! ### A change between the opening and the first poll, and one before the end -/

def executionStatus (status : ExecutionStatus) : TransactionStatus := ⟨status, 0, "", []⟩

def openedTransfer : State where
  node := { Node.empty.setStatus "t" (executionStatus .pending) with openCount := 1 }
  streams := Table.empty.insert "x" ⟨"t", none⟩

def polledTransfer : State where
  node := openedTransfer.node.setStatus "t" (executionStatus .executed)
  streams := openedTransfer.streams.insert "x" ⟨"t", some 1⟩

def endedTransfer : State :=
  { polledTransfer with node := (polledTransfer.node.setStatus "t" (executionStatus .sealed)).close }

def transferRecord : List Happening :=
  [.change .close, .change (.status "t" (executionStatus .sealed)), .polled "x" (.update (executionStatus .executed)),
    .change (.status "t" (executionStatus .executed)), .opened "x" "t",
    .change (.status "t" (executionStatus .pending))]

/-- The stream did not show that the transaction was pending, and it still is to show the last status. -/
theorem Runs.shows_latest_transfer :
    Runs transferRecord endedTransfer ∧ .opened "x" "t" ∈ transferRecord ∧
      shown "x" transferRecord = [executionStatus .executed] ∧
      ∃ sub, endedTransfer.streams.get? "x" = some sub ∧
        (endedTransfer.node.poll sub).1 = .update (executionStatus .sealed) := by
  have opened : Runs (.opened "x" "t" :: _) openedTransfer :=
    .opened (.change .start rfl (.status "t" (executionStatus .pending))) rfl rfl rfl
  have executed := opened.change rfl (.status "t" (executionStatus .executed))
  have found : openedTransfer.streams.get? "x" = some ⟨"t", none⟩ := by decide +kernel
  have answer : polledTransfer.node.poll ⟨"t", none⟩ = (.update (executionStatus .executed), ⟨"t", some 1⟩) := by
    decide +kernel
  have polled : Runs (.polled "x" (polledTransfer.node.poll ⟨"t", none⟩).1 :: _)
      ⟨polledTransfer.node, openedTransfer.streams.insert "x" (polledTransfer.node.poll ⟨"t", none⟩).2⟩ :=
    executed.polled found (by simp)
  rw [answer] at polled
  have run : Runs transferRecord endedTransfer :=
    (polled.change rfl (.status "t" (executionStatus .sealed))).change rfl .close
  have mem : .opened "x" "t" ∈ transferRecord := by simp [transferRecord]
  obtain ⟨sub, found, -, shows, -⟩ := run.shows_latest mem
  obtain ⟨status, current, answer⟩ := shows.latest (.inr (by decide +kernel))
  obtain rfl : executionStatus .sealed = status := Option.some.inj current
  exact ⟨run, mem, by decide +kernel, sub, found, answer⟩

end ChainIndex.Streaming
