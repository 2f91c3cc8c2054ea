import Mathlib.Data.List.Basic
import Gatehouse.Proofs.Chronology
import Gatehouse.Proofs.Store.Kind

/-! # Lists of the store

A list is made of the rows that a query selects. To put them in order loses and repeats nothing.
They are read all or none.
-/

namespace Gatehouse.Store

section Order

variable {α : Type}

private theorem orderBy_perm (column : α → String) (rows : List α) :
    (orderBy column rows).Perm rows :=
  List.mergeSort_perm ..

private theorem pairwise_orderBy (column : α → String) (rows : List α) :
    (orderBy column rows).Pairwise fun a b => column a ≤ column b := by
  have sorted : (orderBy column rows).Pairwise fun a b => decide (column a ≤ column b) = true := by
    refine List.pairwise_mergeSort ?_ ?_ rows
    · intro a b c first second
      exact decide_eq_true (String.le_trans (of_decide_eq_true first) (of_decide_eq_true second))
    · intro a b
      rw [Bool.or_eq_true, decide_eq_true_eq, decide_eq_true_eq]
      exact String.le_total ..
  exact sorted.imp of_decide_eq_true

/-- Two rows are put in order by one comparison. -/
theorem orderBy_pair (column : α → String) (a b : α) :
    orderBy column [a, b] = if column a ≤ column b then [a, b] else [b, a] := by
  simp [orderBy, List.mergeSort, List.MergeSort.Internal.splitInTwo, List.merge]

end Order

section Reading

variable {α : Type} {column : Nat} {time : α → Time} {time? : Option (Nat × (α → Time))}

/-- No record has a time that cannot be read. -/
def AllReadable (time? : Option (Nat × (α → Time))) (records : List α) : Prop :=
  ∀ column time, time? = some (column, time) → ∀ r ∈ records, (time r).Readable

private theorem readBack_of_allReadable {record : α} {records : List α} (listed : record ∈ records)
    (readable : AllReadable time? records) : readBack time? record = .ok record := by
  cases time? with
  | none => rfl
  | some timed => exact readBack_of_readable (readable timed.1 timed.2 rfl record listed)

private theorem mapM_readBack_of_readable {records : List α}
    (readable : AllReadable time? records) :
    records.mapM (readBack time?) = .ok records := by
  induction records with
  | nil => rfl
  | cons r rest ih =>
    have later := ih fun column time timed r listed =>
      readable column time timed r (List.mem_cons_of_mem _ listed)
    rw [List.mapM_cons, readBack_of_allReadable (List.mem_cons_self ..) readable, later]
    rfl

/-- One record that cannot be read is the fault of the whole list. -/
theorem mapM_readBack_of_unreadable {records : List α} {record : α} (listed : record ∈ records)
    (unreadable : ¬ (time record).Readable) :
    records.mapM (readBack (some (column, time))) = .error (.conversion column) := by
  induction records with
  | nil => cases listed
  | cons r rest ih =>
    rw [List.mapM_cons]
    by_cases first : (time r).Readable
    · have later : record ∈ rest := by
        rcases List.mem_cons.mp listed with rfl | later
        · exact absurd first unreadable
        · exact later
      rw [readBack_of_readable first, ih later]
      rfl
    · rw [readBack_of_unreadable first]
      rfl

end Reading

namespace Kind

variable {α ρ : Type} (k : Kind α ρ) {t : StoredTables}

private theorem readAll_write (records : List α) :
    readAll k.read (records.map k.write) = (records.mapM (readBack k.time?)).mapError .database := by
  have read : k.read ∘ k.write = readBack k.time? := funext k.read_write
  rw [readAll, List.mapM_map, read]

/-- Rows of records are written from a list of records. -/
theorem exists_records {rows : List ρ} (recorded : ∀ r ∈ rows, ∃ record, k.write record = r) :
    ∃ records : List α, rows = records.map k.write := by
  induction rows with
  | nil => exact ⟨[], rfl⟩
  | cons r rest ih =>
    obtain ⟨record, rfl⟩ := recorded r (List.mem_cons_self ..)
    obtain ⟨records, rfl⟩ := ih fun r stored => recorded r (List.mem_cons_of_mem _ stored)
    exact ⟨record :: records, rfl⟩

/-- The rows of a list are read as they were, or the whole list fails over a time. -/
theorem readAll_cases {rows : List ρ} (recorded : ∀ r ∈ rows, ∃ record, k.write record = r) :
    ∃ records : List α, rows = records.map k.write ∧
      (AllReadable k.time? records ∧ readAll k.read rows = .ok records ∨
        ∃ column time, k.time? = some (column, time) ∧ (∃ r ∈ records, ¬ (time r).Readable) ∧
          readAll k.read rows = .error (.database (.conversion column))) := by
  obtain ⟨records, rfl⟩ := k.exists_records recorded
  refine ⟨records, rfl, ?_⟩
  rw [k.readAll_write]
  by_cases readable : AllReadable k.time? records
  · left
    rw [mapM_readBack_of_readable readable]
    exact ⟨readable, rfl⟩
  · right
    simp only [AllReadable, not_forall] at readable
    obtain ⟨column, time, timed, r, listed, unreadable⟩ := readable
    refine ⟨column, time, timed, ⟨r, listed, unreadable⟩, ?_⟩
    rw [timed, mapM_readBack_of_unreadable listed unreadable]
    rfl

/-- The answer lists the selected rows of a table, each once, as the lookup for its id does. It is a
fault exactly if one of them has a time that cannot be read, and then the fault is its column. -/
structure Lists (t : StoredTables) (selected : ρ → Bool) (answer : Except StoreFault (List α)) :
    Prop where
  complete : ∀ records, answer = .ok records →
    (records.map k.write).Perm ((k.rows t).filter selected)
  once : ∀ records, answer = .ok records → (records.map k.id).Nodup
  same : ∀ records, answer = .ok records → ∀ r ∈ records, k.get t (k.id r) = .ok r
  fails : ∀ fault, answer = .error fault ↔ ∃ column time, k.time? = some (column, time) ∧
    fault = .database (.conversion column) ∧ ∃ record, k.write record ∈ k.rows t ∧
      selected (k.write record) = true ∧ ¬ (time record).Readable

/-- What is selected can be read if it is the same rows as those of records that can. -/
theorem readable_of_same_row {record r : α} {records : List α} (listed : r ∈ records)
    (readable : AllReadable k.time? records) (row : k.write r = k.write record) {column : Nat}
    {time : α → Time} (timed : k.time? = some (column, time)) : (time record).Readable := by
  have read : readBack k.time? record = .ok r := by
    rw [← k.read_write, ← row, k.read_write, readBack_of_allReadable listed readable]
  rw [timed] at read
  exact readable_of_readBack read

/-- To find the selected rows in any order and to read them lists them. -/
theorem lists (sound : t.Sound) {selected : ρ → Bool} {rows : List ρ}
    (perm : rows.Perm ((k.rows t).filter selected)) :
    k.Lists t selected (readAll k.read rows) := by
  have stored {r : ρ} (found : r ∈ rows) : r ∈ k.rows t ∧ selected r = true :=
    List.mem_filter.mp (perm.mem_iff.mp found)
  have keyed : (rows.map k.key).Nodup :=
    (perm.map k.key).nodup_iff.mpr ((k.keyed sound.keyed).sublist (List.filter_sublist.map k.key))
  obtain ⟨records, rfl, ⟨readable, read⟩ | ⟨column, time, timed, ⟨r, listed, unreadable⟩, read⟩⟩ :=
    k.readAll_cases fun r found => k.recorded sound.recorded r (stored found).1
  · -- All selected rows can be read.
    rw [read]
    constructor
    case complete =>
      rintro _ ⟨⟩
      exact perm
    case once =>
      rintro _ ⟨⟩
      have texts : ((records.map k.id).map Uuid.text).Nodup := by
        simpa only [List.map_map, Function.comp_def, k.key_write] using keyed
      exact Tables.nodup_of_key texts
    case same =>
      rintro _ ⟨⟩ r listed
      rw [k.get_of_stored sound (stored (List.mem_map_of_mem listed)).1,
        readBack_of_allReadable listed readable]
      rfl
    case fails =>
      intro fault
      constructor
      · rintro ⟨⟩
      · rintro ⟨column, time, timed, -, record, there, hit, unreadable⟩
        have found : k.write record ∈ records.map k.write :=
          perm.mem_iff.mpr (List.mem_filter.mpr ⟨there, hit⟩)
        obtain ⟨r, listed, row⟩ := List.mem_map.mp found
        exact absurd (k.readable_of_same_row listed readable row timed) unreadable
  · -- One of them cannot, and so the list fails.
    rw [read]
    constructor
    case complete | once | same => rintro _ ⟨⟩
    case fails =>
      intro fault
      constructor
      · rintro ⟨⟩
        obtain ⟨there, hit⟩ := stored (List.mem_map_of_mem listed)
        exact ⟨column, time, timed, rfl, r, there, hit, unreadable⟩
      · rintro ⟨column', time', timed', rfl, -⟩
        rw [timed] at timed'
        cases timed'
        rfl

variable {k} in
/-- Where a list is answered, its records can be read. -/
theorem Lists.readable {selected : ρ → Bool} {records : List α}
    (lists : k.Lists t selected (.ok records)) : AllReadable k.time? records := by
  intro column time timed r listed
  by_contra unreadable
  obtain ⟨there, hit⟩ := List.mem_filter.mp
    ((lists.complete records rfl).mem_iff.mp (List.mem_map_of_mem listed))
  have failed := (lists.fails _).mpr ⟨column, time, timed, rfl, r, there, hit, unreadable⟩
  cases failed

variable {k} in
/-- Where all selected rows can be read, the list is answered. -/
theorem Lists.answered {selected : ρ → Bool} {answer : Except StoreFault (List α)}
    (lists : k.Lists t selected answer)
    (legible : ∀ r ∈ (k.rows t).filter selected, (k.read r).isOk = true) :
    ∃ records, answer = .ok records := by
  cases answer with
  | ok records => exact ⟨records, rfl⟩
  | error fault =>
    obtain ⟨column, time, timed, -, record, there, hit, unreadable⟩ := (lists.fails fault).mp rfl
    have read := legible _ (List.mem_filter.mpr ⟨there, hit⟩)
    rw [k.read_write, timed, readBack_of_unreadable unreadable] at read
    cases read

/-- A list that is ordered by a column stands in the order of what the column says. -/
theorem in_order {κ : Type} (column : ρ → String) (key : α → κ) (text : κ → String)
    (written : ∀ r, column (k.write r) = text (key r)) {rows : List ρ}
    (recorded : ∀ r ∈ rows, ∃ record, k.write record = r) {answer : List α}
    (listed : readAll k.read (orderBy column rows) = .ok answer) :
    (answer.map key).Pairwise fun a b => text a ≤ text b := by
  obtain ⟨records, sorted, ⟨-, read⟩ | ⟨column, -, -, -, read⟩⟩ := k.readAll_cases fun r found =>
    recorded r ((orderBy_perm column rows).mem_iff.mp found)
  · rw [read] at listed
    obtain rfl : records = answer := Except.ok.inj listed
    have order := pairwise_orderBy column rows
    rw [sorted, List.pairwise_map] at order
    exact List.pairwise_map.mpr (order.imp fun {a b} le => by rwa [written, written] at le)
  · rw [read] at listed
    cases listed

end Kind

namespace Tables

variable {t : StoredTables}

/-- The user has a subscription to the server of the row. -/
def subscribedTo (t : StoredTables) (u : Uuid) (r : ServerRow String String) : Bool :=
  t.subscriptions.any fun m => m.userId = u.text && m.serverId = r.id

/-- The rows of servers that are joined to the subscriptions of a user. -/
def serversJoined (t : StoredTables) (u : Uuid) : List (ServerRow String String) :=
  (t.subscriptions.filter (·.userId = u.text)).flatMap fun m =>
    t.servers.filter (·.id = m.serverId)

/-- A user has one subscription to a server, so no server is joined twice. -/
theorem Sound.nodup_serversJoined (sound : t.Sound) (u : Uuid) :
    ((t.serversJoined u).map (·.id)).Nodup := by
  have ids : (t.serversJoined u).map (·.id) =
      (t.subscriptions.filter (·.userId = u.text)).map (·.serverId) :=
    map_key_joined sound.keyed.serverIds fun m own =>
      sound.linked.subscriptionServers m (List.mem_filter.mp own).1
  rw [ids]
  -- The pairs of server and user differ, and here the users are the same.
  have pairs := List.Pairwise.of_map _ (fun _ _ differ => differ) sound.keyed.subscriptionPairs
  refine List.pairwise_map.mpr ((pairs.filter _).imp_of_mem ?_)
  intro a b first second differ server
  have user : a.userId = u.text := of_decide_eq_true (List.mem_filter.mp first).2
  have user' : b.userId = u.text := of_decide_eq_true (List.mem_filter.mp second).2
  exact differ (Prod.ext server (user.trans user'.symm))

private theorem Sound.serversJoined_perm (sound : t.Sound) (u : Uuid) :
    (t.serversJoined u).Perm (t.servers.filter (t.subscribedTo u)) := by
  refine (List.perm_ext_iff_of_nodup (nodup_of_key (sound.nodup_serversJoined u))
    ((nodup_of_key sound.keyed.serverIds).filter _)).mpr fun r => ?_
  simp only [serversJoined, subscribedTo, List.mem_flatMap, List.mem_filter, List.any_eq_true,
    Bool.and_eq_true, decide_eq_true_eq]
  constructor
  · rintro ⟨m, ⟨there, own⟩, stored, named⟩
    exact ⟨stored, m, there, own, named.symm⟩
  · rintro ⟨stored, m, there, own, named⟩
    exact ⟨m, ⟨there, own⟩, stored, named.symm⟩

/-- Names in the order of their bytes. -/
def ByName (names : List String) : Prop := names.Pairwise fun a b => Text.bytes a ≤ Text.bytes b

/-- The lists under an id, which may be that of a server, a user or a channel. -/
structure ListsInFull (t : StoredTables) (id : Uuid) : Prop where
  roles : Kind.roles.Lists t (·.serverId = id.text) (t.listRoles id)
  channels : Kind.channels.Lists t (·.serverId = id.text) (t.listChannels id)
  servers : Kind.servers.Lists t (t.subscribedTo id) (t.listServersOf id)
  subscriptionsTo : Kind.subscriptions.Lists t (·.serverId = id.text) (t.listSubscriptionsTo id)
  subscriptionsOf : Kind.subscriptions.Lists t (·.userId = id.text) (t.listSubscriptionsOf id)
  assignments : Kind.assignments.Lists t (·.serverId = id.text) (t.listAssignments id)
  overrides : Kind.overrides.Lists t (·.channelId = id.text) (t.listOverrides id)
  grants : Kind.grants.Lists t (·.serverId = id.text) (t.listGrants id)
  rolesByName : ∀ roles, t.listRoles id = .ok roles → ByName (roles.map (·.name))
  channelsByName : ∀ channels, t.listChannels id = .ok channels → ByName (channels.map (·.name))
  serversByName : ∀ servers, t.listServersOf id = .ok servers → ByName (servers.map (·.name))

private theorem Sound.listsInFull (sound : t.Sound) (parent : Uuid) : t.ListsInFull parent := by
  have byName {names : List String} (order : names.Pairwise fun a b => id a ≤ id b) :
      ByName names := order.imp Text.bytes_le_iff.mpr
  constructor
  case roles => exact Kind.roles.lists sound (orderBy_perm ..)
  case channels => exact Kind.channels.lists sound (orderBy_perm ..)
  case servers =>
    exact Kind.servers.lists sound ((orderBy_perm ..).trans (sound.serversJoined_perm parent))
  case subscriptionsTo =>
    exact Kind.subscriptions.lists sound ((orderBy_perm ..).trans (orderBy_perm ..))
  case subscriptionsOf => exact Kind.subscriptions.lists sound (orderBy_perm ..)
  case assignments => exact Kind.assignments.lists sound (orderBy_perm ..)
  case overrides => exact Kind.overrides.lists sound (orderBy_perm ..)
  case grants => exact Kind.grants.lists sound (orderBy_perm ..)
  case rolesByName =>
    intro roles listed
    refine byName (Kind.roles.in_order (·.name) (·.name) id (fun _ => rfl) ?_ listed)
    exact fun r found => sound.recorded.roles r (List.mem_filter.mp found).1
  case channelsByName =>
    intro channels listed
    refine byName (Kind.channels.in_order (·.name) (·.name) id (fun _ => rfl) ?_ listed)
    exact fun r found => sound.recorded.channels r (List.mem_filter.mp found).1
  case serversByName =>
    intro servers listed
    refine byName (Kind.servers.in_order (·.name) (·.name) id (fun _ => rfl) ?_ listed)
    intro r found
    exact sound.recorded.servers r
      (List.mem_filter.mp ((sound.serversJoined_perm parent).mem_iff.mp found)).1

end Tables

/-- In reachable tables every list is complete, and those of records with names are ordered by
them. -/
theorem lists_lose_and_repeat_nothing {t : StoredTables} (reachable : Reachable t) (parent : Uuid) :
    t.ListsInFull parent := reachable.sound.listsInFull parent

namespace Sample

/-- The start of 2017. -/
def newYear : Time := ⟨1483228800, 0, by decide⟩

/-- The guest has come to the house in the leap second before it was founded, and founds a hut in the
year 10000. -/
def visiting : StoredTables :=
  Write.runAll [.createUser ⟨⟨1⟩, "owner", .epoch⟩, .createUser ⟨⟨2⟩, "guest", .epoch⟩,
    .createServer ⟨⟨7⟩, "house", ⟨1⟩, .epoch⟩ ⟨6⟩ newYear,
    .createSubscription ⟨⟨8⟩, ⟨7⟩, ⟨2⟩, leapSecond⟩,
    .createServer ⟨⟨5⟩, "hut", ⟨2⟩, .epoch⟩ ⟨4⟩ afterAll] Tables.empty

end Sample

/-- The subscriptions to the hut are not listed, since one of them cannot be read. The guest's servers
are listed, and those are both. -/
theorem hut_not_listed :
    Sample.visiting.listSubscriptionsTo ⟨5⟩ = .error (.database (.conversion 3)) ∧
      ∃ servers, Sample.visiting.listServersOf ⟨2⟩ = .ok servers ∧
        (servers.map storeServer).Perm Sample.visiting.servers := by
  have reachable : Reachable Sample.visiting := ⟨_, rfl⟩
  have hut := lists_lose_and_repeat_nothing reachable ⟨5⟩
  have guest := lists_lose_and_repeat_nothing reachable ⟨2⟩
  constructor
  · exact (hut.subscriptionsTo.fails _).mpr ⟨3, (·.createdAt), rfl, rfl,
      ⟨⟨4⟩, ⟨5⟩, ⟨2⟩, Sample.afterAll⟩, by decide +kernel⟩
  · obtain ⟨servers, listed⟩ := guest.servers.answered (by decide +kernel)
    have rows (t : StoredTables) : Kind.servers.rows t = t.servers := rfl
    have both : Sample.visiting.servers.filter (Sample.visiting.subscribedTo ⟨2⟩) =
        Sample.visiting.servers := by decide +kernel
    have complete := guest.servers.complete servers listed
    rw [rows, both] at complete
    exact ⟨servers, listed, complete⟩

/-- Of two subscriptions the one that comes first is not the later one. -/
def Chronological (subs : List Subscription) : Prop :=
  subs.Pairwise fun a b => ¬ b.createdAt.Before a.createdAt

/-- The order of readable times is the order of their texts. -/
theorem chronological_of_texts {subs : List Subscription}
    (readable : ∀ sub ∈ subs, sub.createdAt.Readable)
    (order : (subs.map (·.createdAt)).Pairwise fun a b => a.storedText ≤ b.storedText) :
    Chronological subs := by
  refine (List.pairwise_map.mp order).imp_of_mem ?_
  intro a b first second le before
  have less := (Time.storedText_lt_iff (readable b second) (readable a first)).mpr before
  exact le less

/-- The lists of subscriptions, which are ordered by texts, are in the order of time, since the texts
of readable times compare as the times do. -/
theorem membership_lists_chronological {t : StoredTables} (reachable : Reachable t) :
    (∀ serverId subs, t.listSubscriptionsTo serverId = .ok subs → Chronological subs) ∧
      (∀ userId subs, t.listSubscriptionsOf userId = .ok subs → Chronological subs) ∧
      ∀ a b : Time, a.Readable → b.Readable →
        (a.Before b ↔ Text.bytes a.storedText < Text.bytes b.storedText) ∧
          (a = b ↔ a.storedText = b.storedText) := by
  have sound := reachable.sound
  refine ⟨?servers, ?users, ?texts⟩
  case servers =>
    intro serverId subs listed
    have lists := (sound.listsInFull serverId).subscriptionsTo
    rw [listed] at lists
    refine chronological_of_texts (lists.readable 3 (·.createdAt) rfl) ?_
    refine Kind.subscriptions.in_order (·.createdAt) (·.createdAt) Time.storedText
      (fun _ => rfl) ?_ listed
    intro r found
    have there := (orderBy_perm _ _).mem_iff.mp found
    exact sound.recorded.subscriptions r (List.mem_filter.mp there).1
  case users =>
    intro userId subs listed
    have lists := (sound.listsInFull userId).subscriptionsOf
    rw [listed] at lists
    refine chronological_of_texts (lists.readable 3 (·.createdAt) rfl) ?_
    refine Kind.subscriptions.in_order (·.createdAt) (·.createdAt) Time.storedText
      (fun _ => rfl) ?_ listed
    exact fun r found => sound.recorded.subscriptions r (List.mem_filter.mp found).1
  case texts =>
    intro a b readable readable'
    rw [Text.bytes_lt_iff]
    exact ⟨(Time.storedText_lt_iff readable readable').symm,
      (Time.storedText_inj readable readable').symm⟩

namespace Sample

def guestJoins : Subscription := ⟨⟨8⟩, ⟨7⟩, ⟨2⟩, leapSecond⟩

def ownerJoins : Subscription := ⟨⟨6⟩, ⟨7⟩, ⟨1⟩, newYear⟩

end Sample

/-- In the house the guest is listed before the owner, as a leap second comes before the next one, as
a time and as bytes. -/
theorem guest_listed_first :
    (Sample.visiting.listSubscriptionsTo ⟨7⟩ = .ok [Sample.guestJoins, Sample.ownerJoins] ∧
        Chronological [Sample.guestJoins, Sample.ownerJoins]) ∧
      Sample.leapSecond.Before Sample.newYear ∧
      Text.bytes Sample.leapSecond.storedText < Text.bytes Sample.newYear.storedText := by
  have reachable : Reachable Sample.visiting := ⟨_, rfl⟩
  obtain ⟨servers, -, texts⟩ := membership_lists_chronological reachable
  have listed : Sample.visiting.listSubscriptionsTo ⟨7⟩ =
      .ok [Sample.guestJoins, Sample.ownerJoins] := by
    have rows : Sample.visiting.subscriptions.filter (·.serverId = Uuid.text ⟨7⟩) =
        [storeSubscription Sample.ownerJoins, storeSubscription Sample.guestJoins] := by
      decide +kernel
    rw [Tables.listSubscriptionsTo, rows, orderBy_pair, if_pos (by decide +kernel), orderBy_pair,
      if_neg (by decide +kernel)]
    decide +kernel
  have before : Sample.leapSecond.Before Sample.newYear := by decide
  exact ⟨⟨listed, servers ⟨7⟩ _ listed⟩, before,
    (texts _ _ (by decide +kernel) (by decide +kernel)).1.mp before⟩

end Gatehouse.Store
