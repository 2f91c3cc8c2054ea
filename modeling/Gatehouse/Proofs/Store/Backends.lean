import Gatehouse.Proofs.Authority.Sight
import Gatehouse.Proofs.Store.Exact
import Gatehouse.Proofs.Store.Replay
import Mathlib.Data.List.Basic

/-! # The two storages agree

Where the store holds the rows of the records in memory, every lookup is answered alike by both: the
store finds the row of the record that memory finds, and reads that record from it. Only the order of
the roles that a user holds may differ, and no decision sees that. So decisions over the two storages
ask the same and end the same.
-/

namespace Gatehouse

/-- The engine's decision on a request in its context, over a storage that answers every lookup after
this latency: how it ends, and what was asked. -/
def Context.decide (context : Context) (now : Time) (storage : Storage)
    (latency : Option Nat) (request : Request) : Ending Unit × Progress :=
  { Conditions.calm storage latency with deadline := context.deadline }.run
    (authorize now context.claims context.scope request) ⟨now, context.cancelled, []⟩

/-- Where lookups have like fates, decisions ask the same and end the same. -/
theorem run_authorize_eq {c c' : Conditions}
    (fates : ∀ q p, (c.guarded q p).Alike (Lookup.Like Eq) (c'.guarded q p)) (now : Time)
    (claims : Option Claims) (scope : Scope) (request : Request) (p : Progress) :
    c.run (authorize now claims scope request) p = c'.run (authorize now claims scope request) p := by
  obtain ⟨ends, progress⟩ := Conditions.run_alike fates (fun _ => rfl)
    (authorize_akin (fun _ => rfl) now claims scope request) p
  exact Prod.ext (Ending.eq_of_alike ends) progress

namespace Store

variable {users : List (UserRow String String)} {m : Memory} {t : StoredTables}

/-- What is found among the rows of records is what is found among the records. -/
theorem lookedUp_stored {α β : Type} {store : β → α} {read : α → Except DatabaseFault β}
    {records : List β} (exact : ∀ r ∈ records, read (store r) = .ok r) {p : α → Bool} {fits : β → Bool}
    (same : ∀ r, p (store r) = fits r) :
    lookedUp (readFound read ((records.map store).find? p)) = Memory.found (records.find? fits) := by
  have found : (records.map store).find? p = (records.find? fits).map store := by
    rw [List.find?_map]
    simp only [Function.comp_def, same]
  rw [found]
  cases hit : records.find? fits with
  | none => rfl
  | some r =>
    simp only [Option.map_some, readFound, exact r (List.mem_of_find?_eq_some hit)]
    rfl

/-- The store joins the roles that memory finds for the assignments of a user on a server. -/
theorem Mirrors.rolesJoined (mirrors : Mirrors users m t) (sound : t.Sound) (serverId userId : Uuid) :
    ((t.rolesJoined serverId userId).filterMap fun r => (readRole r).toOption) =
      (m.tables.assignments.filter fun a => a.serverId = serverId && a.userId = userId).filterMap
        fun a => m.tables.roles.find? (·.id = a.roleId) := by
  obtain ⟨rows, -, -, -, -, -⟩ := mirrors
  subst rows
  have texts : (m.tables.roles.map fun r => r.id.text).Nodup := by
    simpa only [Tables.stored, List.map_map, Function.comp_def, storeRole] using sound.keyed.roleIds
  have read (roles : List Role) : (roles.map storeRole).filterMap (fun r => (readRole r).toOption) =
      roles := by
    simp only [List.filterMap_map, Function.comp_def, readRole_storeRole, Except.toOption,
      List.filterMap_some]
  simp only [Tables.rolesJoined, Tables.stored, List.filter_map, Function.comp_def, storeAssignment,
    storeRole, Uuid.text_inj, List.flatMap_map, List.filterMap_flatMap,
    List.filterMap_eq_flatMap_toList fun a : Assignment => m.tables.roles.find? (·.id = a.roleId)]
  congr 1
  funext a
  exact (read _).trans (Tables.filter_id_eq_find? (nodup_ids_of_texts texts) a.roleId)

/-- Store and memory answer every lookup alike. -/
theorem Mirrors.agree (mirrors : Mirrors users m t) (sound : t.Sound) (q : Lookup) :
    q.Agree (t.storage q) (m.storage q) := by
  have joined := mirrors.rolesJoined sound
  obtain ⟨rows, servers, subscriptions, channels, working, -⟩ := mirrors
  subst rows
  have records : m.storage q = m.records q := by
    simp only [Memory.storage, working, Bool.false_eq_true, if_false]
  rw [records]
  have text_inj (a b : Uuid) : decide (a.text = b.text) = decide (a = b) := by
    simp only [Uuid.text_inj]
  cases q with
  | rolesHeld serverId userId =>
    have held := Tables.listRolesHeld_eq sound.recorded serverId userId
    rw [joined serverId userId] at held
    simp only [Tables.storage, held, lookedUp]
    exact .refl _
  | server id =>
    exact lookedUp_stored (fun r stored => readServer_of_readable (servers r stored))
      fun r => text_inj r.id id
  | subscription id =>
    exact lookedUp_stored (fun r stored => readSubscription_of_readable (subscriptions r stored))
      fun r => text_inj r.id id
  | membership serverId userId =>
    refine lookedUp_stored (fun r stored => readSubscription_of_readable (subscriptions r stored))
      fun r => ?_
    simp only [storeSubscription, Uuid.text_inj]
  | role id =>
    exact lookedUp_stored (fun r _ => readRole_storeRole r) fun r => text_inj r.id id
  | assignment id =>
    exact lookedUp_stored (fun r _ => readAssignment_storeAssignment r) fun r => text_inj r.id id
  | grantFor serverId userId =>
    refine lookedUp_stored (fun r _ => readGrant_storeGrant r) fun r => ?_
    simp only [storeGrant, Uuid.text_inj]
  | grant id =>
    exact lookedUp_stored (fun r _ => readGrant_storeGrant r) fun r => text_inj r.id id
  | channel id =>
    exact lookedUp_stored (fun r stored => readChannel_of_readable (channels r stored))
      fun r => text_inj r.id id
  | override id =>
    exact lookedUp_stored (fun r _ => readOverride_storeOverride r) fun r => text_inj r.id id

/-- No lookup and no decision tells the store from the memory. -/
structure Interchangeable (t : StoredTables) (m : Memory) : Prop where
  lookups : ∀ q : Lookup, q.Agree (t.storage q) (m.storage q)
  /-- Each storage takes its own time to answer. -/
  decisions : ∀ (context : Context) (now : Time) (request : Request),
    context.decide now t.storage latency request = context.decide now m.storage m.latency request
  /-- Whatever goes wrong, as long as it is the same with both. -/
  runs : ∀ (c : Conditions) (now : Time) (claims : Option Claims) (scope : Scope)
    (request : Request) (p : Progress),
    (c.withStorage t.storage).run (authorize now claims scope request) p =
      (c.withStorage m.storage).run (authorize now claims scope request) p

theorem Mirrors.interchangeable (mirrors : Mirrors users m t) (sound : t.Sound) :
    Interchangeable t m := by
  have fates := Conditions.guarded_alike (Q := Lookup.Like Eq)
    (fun q => (mirrors.agree sound q).like fun _ => rfl) (fun q failure => .refl (fun _ => rfl) q _)
  refine ⟨mirrors.agree sound, ?_, ?_⟩
  · intro context now request
    have prompt : latency.getD 0 = m.latency.getD 0 := by rw [mirrors.prompt]; rfl
    refine run_authorize_eq (fun q p => ?_) now _ _ request _
    -- without faults the latency only counts as a time, and here it is none
    have fate := fates { Conditions.calm poisoned latency with deadline := context.deadline } q p
    simp only [Conditions.guarded, Conditions.answer, Conditions.reply, Conditions.withStorage,
      Conditions.calm, Conditions.left, prompt] at fate ⊢
    exact fate
  · exact fun c => run_authorize_eq (fates c)

/-- The tables of a new database to which users were added. -/
def populated (rows : List User) : StoredTables :=
  Write.runAll (rows.map .createUser) Tables.empty

/-- Whatever history succeeds in the store can be replayed in memory, and then neither lookups nor
decisions tell the two apart. -/
theorem backends_agree (rows : List User) {history : List Write}
    (succeeds : History history (populated rows)) :
    ∃ m, Memory.empty.replayAll? history = some m ∧
      Interchangeable (Write.runAll history (populated rows)) m := by
  obtain ⟨users, mirrors⟩ := Mirrors.prepared rows
  have sound : (populated rows).Sound := Write.sound_runAll Tables.sound_empty _
  obtain ⟨m, replayed, mirrors⟩ := mirrors.history sound succeeds
  exact ⟨m, replayed, mirrors.interchangeable (Write.sound_runAll sound history)⟩

namespace Sample

def members : List User := [⟨⟨1⟩, "owner", .epoch⟩, ⟨⟨2⟩, "guest", .epoch⟩]

/-- Server 7 gets a guest with a role and a grant and a channel for this role; server 5 comes and
goes. -/
def chronicle : List Write :=
  [.createServer ⟨⟨7⟩, "house", ⟨1⟩, .epoch⟩ ⟨6⟩ .epoch,
    .createSubscription ⟨⟨8⟩, ⟨7⟩, ⟨2⟩, .epoch⟩,
    .createRole ⟨⟨9⟩, ⟨7⟩, "keys", ServerFlags.manageRoles.bits, 0, 0⟩,
    .createAssignment ⟨⟨10⟩, ⟨7⟩, ⟨2⟩, ⟨8⟩, ⟨9⟩⟩,
    .createGrant ⟨⟨11⟩, ⟨7⟩, ⟨2⟩, true, false, false⟩,
    .createChannel ⟨⟨12⟩, ⟨7⟩, "hall", true, .epoch⟩,
    .createOverride ⟨⟨13⟩, ⟨7⟩, ⟨12⟩, ⟨9⟩⟩,
    .createServer ⟨⟨5⟩, "hut", ⟨2⟩, .epoch⟩ ⟨4⟩ .epoch,
    .deleteServer ⟨5⟩]

private theorem chronicle_succeeds : History chronicle (populated members) := by decide +kernel

end Sample

/-- A history with all kinds of writes goes the same way in both. -/
theorem chronicle_replayed :
    History Sample.chronicle (populated Sample.members) ∧
      ∃ m, Memory.empty.replayAll? Sample.chronicle = some m ∧
        Interchangeable (Write.runAll Sample.chronicle (populated Sample.members)) m :=
  ⟨Sample.chronicle_succeeds, backends_agree Sample.members Sample.chronicle_succeeds⟩

end Store

end Gatehouse
