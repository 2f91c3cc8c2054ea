import Gatehouse.Proofs.Authority.Growth
import Gatehouse.Proofs.Store.Backends
import Mathlib.Data.Set.List

/-! # More rows revoke nothing

Records can grow: rows with new ids are added, roles get more bits, grants more flags. Servers keep
their owners, and what is there stays where it is. A storage that keeps the larger records knows and
grants what one with the smaller records does, so it allows what that one allows.
-/

namespace Gatehouse

namespace Store

/-- Every record has a counterpart with the same id in the same place that grants at least as much.
Servers have the same owners; names and times do not matter. -/
structure Tables.Grows (small large : Tables Uuid Time Int64 Bool) : Prop where
  servers : ∀ r ∈ small.servers, ∃ r' ∈ large.servers, r'.id = r.id ∧ r'.ownerId = r.ownerId
  subscriptions : ∀ r ∈ small.subscriptions, ∃ r' ∈ large.subscriptions,
    r'.id = r.id ∧ r'.serverId = r.serverId ∧ r'.userId = r.userId
  roles : ∀ r ∈ small.roles, ∃ r' ∈ large.roles, r'.id = r.id ∧ r'.serverId = r.serverId ∧
    Flags.contains r'.serverMask r.serverMask = true ∧ Flags.contains r'.subMask r.subMask = true
  assignments : ∀ r ∈ small.assignments, r ∈ large.assignments
  grants : ∀ r ∈ small.grants, ∃ r' ∈ large.grants,
    r'.id = r.id ∧ r'.serverId = r.serverId ∧ r'.userId = r.userId ∧
      ∀ family, r.covers family = true → r'.covers family = true
  channels : ∀ r ∈ small.channels, ∃ r' ∈ large.channels, r'.id = r.id ∧ r'.serverId = r.serverId
  overrides : ∀ r ∈ small.overrides, r ∈ large.overrides

/-- Ids are given once, and a user has at most one grant on a server. -/
structure Tables.Distinct (t : Tables Uuid Time Int64 Bool) : Prop where
  serverIds : (t.servers.map (·.id)).Nodup
  subscriptionIds : (t.subscriptions.map (·.id)).Nodup
  roleIds : (t.roles.map (·.id)).Nodup
  assignmentIds : (t.assignments.map (·.id)).Nodup
  grantIds : (t.grants.map (·.id)).Nodup
  grantPairs : (t.grants.map fun r => (r.serverId, r.userId)).Nodup
  channelIds : (t.channels.map (·.id)).Nodup
  overrideIds : (t.overrides.map (·.id)).Nodup

private theorem memory_found_eq_ok_iff {α : Type} {found : Option α} {row : α} :
    Memory.found found = .ok row ↔ found = some row := by
  cases found <;> simp [Memory.found]

/-- The counterpart of what is found under a key is found under the same key, if no other row has it. -/
theorem found_counterpart {α κ : Type} [DecidableEq κ] {rows rows' : List α} {key : α → κ}
    {P : α → α → Prop} (distinct : (rows'.map key).Nodup)
    (counterparts : ∀ r ∈ rows, ∃ r' ∈ rows', key r' = key r ∧ P r r') {k : κ} {p : α → Bool}
    (fits : ∀ r, p r = decide (key r = k)) {row : α}
    (found : Memory.found (rows.find? p) = .ok row) :
    ∃ row', Memory.found (rows'.find? p) = .ok row' ∧ key row' = key row ∧ P row row' := by
  obtain rfl : p = fun r => decide (key r = k) := funext fits
  have hit := memory_found_eq_ok_iff.mp found
  have named : key row = k := by simpa using List.find?_some hit
  obtain ⟨row', there, same, alike⟩ := counterparts row (List.mem_of_find?_eq_some hit)
  refine ⟨row', memory_found_eq_ok_iff.mpr ?_, same, alike⟩
  rw [← named, ← same, Tables.find?_id_eq_some distinct there]

section Memory

variable {small large : Tables Uuid Time Int64 Bool}

/-- The roles that a user holds have counterparts among those held later. -/
theorem Tables.Grows.rolesHeld (grows : small.Grows large) (distinct : large.Distinct)
    (latency latency' : Option Nat) (s u : Uuid) :
    ∀ r ∈ (Memory.mk small false latency).storage.rolesHeld s u,
      ∃ r' ∈ (Memory.mk large false latency').storage.rolesHeld s u,
        Flags.contains r'.serverMask r.serverMask = true ∧
          Flags.contains r'.subMask r.subMask = true := by
  intro r held
  obtain ⟨a, assigned, found⟩ := List.mem_filterMap.mp held
  obtain ⟨there, fits⟩ := List.mem_filter.mp assigned
  obtain ⟨r', found', -, -, more⟩ := found_counterpart distinct.roleIds grows.roles
    (fun _ => rfl) (congrArg Memory.found found)
  have assigned' : a ∈ large.assignments.filter fun a => a.serverId = s && a.userId = u :=
    List.mem_filter.mpr ⟨grows.assignments a there, fits⟩
  exact ⟨r', List.mem_filterMap.mpr ⟨a, assigned', memory_found_eq_ok_iff.mp found'⟩, more⟩

/-- What a memory with the smaller records knows and grants, one with the larger records does. -/
theorem Tables.Grows.storage (grows : small.Grows large) (distinct : large.Distinct)
    (latency latency' : Option Nat) :
    (Memory.mk small false latency).storage.Grows (Memory.mk large false latency').storage where
  server found := found_counterpart distinct.serverIds grows.servers (fun _ => rfl) found
  target {c id target} stored := by
    cases target with
    | server row =>
      obtain ⟨isClass, found⟩ := stored
      obtain ⟨row', found', same, -⟩ :=
        found_counterpart distinct.serverIds grows.servers (fun _ => rfl) found
      exact ⟨.server row', ⟨isClass, found'⟩, same.symm, rfl, rfl⟩
    | subscription row =>
      obtain ⟨isClass, found⟩ := stored
      obtain ⟨row', found', -, inside, user⟩ :=
        found_counterpart distinct.subscriptionIds grows.subscriptions (fun _ => rfl) found
      exact ⟨.subscription row', ⟨isClass, found'⟩, inside.symm, congrArg some user.symm, rfl⟩
    | role row =>
      obtain ⟨isClass, found⟩ := stored
      obtain ⟨row', found', -, inside, -⟩ :=
        found_counterpart distinct.roleIds grows.roles (fun _ => rfl) found
      exact ⟨.role row', ⟨isClass, found'⟩, inside.symm, rfl, rfl⟩
    | assignment row =>
      obtain ⟨isClass, found⟩ := stored
      obtain ⟨row', found', -, rfl⟩ := found_counterpart distinct.assignmentIds
        (fun r there => ⟨r, grows.assignments r there, rfl, rfl⟩) (fun _ => rfl) found
      exact ⟨.assignment row, ⟨isClass, found'⟩, rfl, rfl, rfl⟩
    | channel row =>
      obtain ⟨isClass, found⟩ := stored
      obtain ⟨row', found', same, inside⟩ :=
        found_counterpart distinct.channelIds grows.channels (fun _ => rfl) found
      exact ⟨.channel row', ⟨isClass, found'⟩, inside.symm, rfl, congrArg some same.symm⟩
    | override row =>
      obtain ⟨isClass, found⟩ := stored
      obtain ⟨row', found', -, rfl⟩ := found_counterpart distinct.overrideIds
        (fun r there => ⟨r, grows.overrides r there, rfl, rfl⟩) (fun _ => rfl) found
      exact ⟨.override row, ⟨isClass, found'⟩, rfl, rfl, rfl⟩
    | grant row =>
      obtain ⟨isClass, found⟩ := stored
      obtain ⟨row', found', -, inside, user, -⟩ :=
        found_counterpart distinct.grantIds grows.grants (fun _ => rfl) found
      exact ⟨.grant row', ⟨isClass, found'⟩, inside.symm, congrArg some user.symm, rfl⟩
  subscribed {s u} subscribed := by
    obtain ⟨row, found⟩ := subscribed
    have hit := memory_found_eq_ok_iff.mp found
    have fits : row.serverId = s ∧ row.userId = u := by simpa using List.find?_some hit
    obtain ⟨row', there, -, inside, user⟩ := grows.subscriptions row (List.mem_of_find?_eq_some hit)
    have found' : (large.subscriptions.find? fun r => r.serverId = s && r.userId = u).isSome := by
      refine List.find?_isSome.mpr ⟨row', there, ?_⟩
      simp [inside, user, fits]
    obtain ⟨other, hit'⟩ := Option.isSome_iff_exists.mp found'
    exact ⟨other, memory_found_eq_ok_iff.mpr hit'⟩
  granted {s u family} granted := by
    obtain ⟨row, found, covers⟩ := Storage.granted_iff_covers.mp granted
    have counterparts : ∀ r ∈ small.grants, ∃ r' ∈ large.grants,
        (r'.serverId, r'.userId) = (r.serverId, r.userId) ∧
          (r.covers family = true → r'.covers family = true) := by
      intro r there
      obtain ⟨r', there', -, inside, user, more⟩ := grows.grants r there
      exact ⟨r', there', Prod.ext inside user, more family⟩
    obtain ⟨row', found', -, more⟩ :=
      found_counterpart distinct.grantPairs counterparts (k := (s, u)) (fun r => by simp) found
    exact Storage.granted_iff_covers.mpr ⟨row', found', more covers⟩
  serverFlag {s u asked} held := by
    have more := Flags.contains_foldl RoleRow.serverMask fun r held =>
      (grows.rolesHeld distinct latency latency' s u r held).imp fun _ there => ⟨there.1, there.2.1⟩
    exact beq_iff_eq.mp (Flags.contains_trans more (beq_iff_eq.mpr held))
  subFlag {s u asked} held := by
    have more := Flags.contains_foldl RoleRow.subMask fun r held =>
      (grows.rolesHeld distinct latency latency' s u r held).imp fun _ there => ⟨there.1, there.2.2⟩
    exact beq_iff_eq.mp (Flags.contains_trans more (beq_iff_eq.mpr held))

end Memory

/-- A storage that never fails and is asked about these records: a memory, or a database that nothing
but writes have changed. -/
inductive Keeps (records : Tables Uuid Time Int64 Bool) : Storage → Prop
  | memory (latency : Option Nat) : Keeps records (Memory.mk records false latency).storage
  | database {users : List (UserRow String String)} {t : StoredTables} (reachable : Reachable t)
      (reliable : t.storage.Reliable) (rows : records.stored users = t) : Keeps records t.storage

section Database

variable {records : Tables Uuid Time Int64 Bool} {users : List (UserRow String String)}

/-- A database that never fails holds what a memory with its records does. -/
theorem mirrors_of_reliable (keyed : (records.stored users).Keyed)
    (reliable : (records.stored users).storage.Reliable) :
    Mirrors users ⟨records, false, none⟩ (records.stored users) where
  rows := rfl
  servers r there :=
    have ⟨_, known⟩ := read_of_reliable keyed.serverIds there (reliable (.server r.id))
    readable_of_readServer known
  subscriptions r there :=
    have ⟨_, known⟩ := read_of_reliable keyed.subscriptionIds there (reliable (.subscription r.id))
    readable_of_readSubscription known
  channels r there :=
    have ⟨_, known⟩ := read_of_reliable keyed.channelIds there (reliable (.channel r.id))
    readable_of_readChannel known
  working := rfl
  prompt := rfl

/-- Records are distinct if their rows have different keys. -/
theorem Tables.Keyed.distinct (keyed : (records.stored users).Keyed) : records.Distinct := by
  have ids {α β : Type} {rows : List β} {store : β → α} {key : α → String} {id : β → Uuid}
      (distinct : ((rows.map store).map key).Nodup) (named : ∀ r, key (store r) = (id r).text) :
      (rows.map id).Nodup := by
    refine nodup_ids_of_texts ?_
    simpa only [List.map_map, Function.comp_def, named] using distinct
  exact
    { serverIds := ids keyed.serverIds fun _ => rfl
      subscriptionIds := ids keyed.subscriptionIds fun _ => rfl
      roleIds := ids keyed.roleIds fun _ => rfl
      assignmentIds := ids keyed.assignmentIds fun _ => rfl
      grantIds := ids keyed.grantIds fun _ => rfl
      grantPairs := by
        have texts := keyed.grantPairs
        rw [Tables.stored, List.map_map] at texts
        have pairs : ((records.grants.map fun r => (r.serverId, r.userId)).map
            (Prod.map Uuid.text Uuid.text)).Nodup := by
          rw [List.map_map]
          exact texts
        exact nodup_of_key pairs
      channelIds := ids keyed.channelIds fun _ => rfl
      overrideIds := ids keyed.overrideIds fun _ => rfl }

end Database

/-- The rows are those of some records. -/
theorem Tables.Recorded.stored {t : StoredTables} (recorded : t.Recorded) :
    ∃ records : Tables Uuid Time Int64 Bool, records.stored t.users = t := by
  have back {α β : Type} {store : β → α} {rows : List α}
      (each : ∀ r ∈ rows, ∃ record, store record = r) : ∃ records : List β, records.map store = rows :=
    (Set.ext_iff.mp (Set.range_list_map store) rows).mpr each
  obtain ⟨servers, sameServers⟩ := back recorded.servers
  obtain ⟨subscriptions, sameSubscriptions⟩ := back recorded.subscriptions
  obtain ⟨roles, sameRoles⟩ := back recorded.roles
  obtain ⟨assignments, sameAssignments⟩ := back recorded.assignments
  obtain ⟨grants, sameGrants⟩ := back recorded.grants
  obtain ⟨channels, sameChannels⟩ := back recorded.channels
  obtain ⟨overrides, sameOverrides⟩ := back recorded.overrides
  refine ⟨⟨[], servers, subscriptions, roles, assignments, grants, channels, overrides⟩, ?_⟩
  simp only [Tables.stored, sameServers, sameSubscriptions, sameRoles, sameAssignments, sameGrants,
    sameChannels, sameOverrides]

/-- Every database that nothing but writes have changed keeps some records, as long as it never
fails. -/
theorem Reachable.keeps {t : StoredTables} (reachable : Reachable t)
    (reliable : t.storage.Reliable) :
    ∃ records : Tables Uuid Time Int64 Bool, Keeps records t.storage ∧ records.Distinct := by
  obtain ⟨records, rows⟩ := reachable.sound.recorded.stored
  refine ⟨records, .database reachable reliable rows, ?_⟩
  exact Tables.Keyed.distinct (rows.symm ▸ reachable.sound.keyed)

/-- Whichever storage keeps the records, the decisions are those over the memory. -/
theorem Keeps.decide_eq {records : Tables Uuid Time Int64 Bool} {σ : Storage}
    (keeps : Keeps records σ) (context : Context) (now : Time) (latency : Option Nat)
    (request : Request) :
    context.decide now σ latency request =
      context.decide now (Memory.mk records false none).storage latency request := by
  cases keeps with
  | memory _ => rfl
  | database reachable reliable rows =>
    subst rows
    have sound := reachable.sound
    have mirrors := mirrors_of_reliable sound.keyed reliable
    exact (mirrors.interchangeable sound).runs
      { Conditions.calm poisoned latency with deadline := context.deadline } now _ _ request _

/-- What is allowed over the smaller records is allowed over the larger ones, whichever storages keep
them. -/
theorem growth_revokes_nothing {small large : Tables Uuid Time Int64 Bool} {σ τ : Storage}
    (keeps : Keeps small σ) (keeps' : Keeps large τ) (grows : small.Grows large)
    (distinct : large.Distinct) (context : Context) (now : Time) (latency : Option Nat)
    (request : Request) (allowed : (context.decide now σ latency request).1 = .decided ()) :
    (context.decide now τ latency request).1 = .decided () := by
  rw [keeps.decide_eq] at allowed
  rw [keeps'.decide_eq]
  exact Conditions.allowed_of_grows
    (c := { Conditions.calm (Memory.mk small false none).storage latency with
      deadline := context.deadline })
    (grows.storage distinct none none) (Memory.reliable rfl) allowed

namespace Sample

open Gatehouse.Sample (house claimsOf deletion)

/-- The records of the house with a membership, a grant and a channel more, and with more flags on the
role. -/
def manor : Tables Uuid Time Int64 Bool where
  users := []
  servers := [⟨⟨7⟩, "manor", ⟨1⟩, .epoch⟩]
  subscriptions := [⟨⟨5⟩, ⟨7⟩, ⟨1⟩, .epoch⟩, ⟨⟨6⟩, ⟨7⟩, ⟨2⟩, .epoch⟩]
  roles := [⟨⟨8⟩, ⟨7⟩, "keys", 7, 0, 1⟩]
  assignments := [⟨⟨9⟩, ⟨7⟩, ⟨2⟩, ⟨6⟩, ⟨8⟩⟩]
  grants := [⟨⟨10⟩, ⟨7⟩, ⟨2⟩, true, false, false⟩]
  channels := [⟨⟨11⟩, ⟨7⟩, "hall", false, .epoch⟩]
  overrides := []

/-- A database with these records. -/
def manorRows : StoredTables :=
  Write.runAll
    [.createUser ⟨⟨1⟩, "owner", .epoch⟩, .createUser ⟨⟨2⟩, "guest", .epoch⟩,
      .createServer ⟨⟨7⟩, "manor", ⟨1⟩, .epoch⟩ ⟨5⟩ .epoch,
      .createSubscription ⟨⟨6⟩, ⟨7⟩, ⟨2⟩, .epoch⟩,
      .createRole ⟨⟨8⟩, ⟨7⟩, "keys", 7, 0, 1⟩,
      .createAssignment ⟨⟨9⟩, ⟨7⟩, ⟨2⟩, ⟨6⟩, ⟨8⟩⟩,
      .createGrant ⟨⟨10⟩, ⟨7⟩, ⟨2⟩, true, false, false⟩,
      .createChannel ⟨⟨11⟩, ⟨7⟩, "hall", false, .epoch⟩]
    Tables.empty

private theorem manorRows_reachable : Reachable manorRows := ⟨_, rfl⟩

private theorem manor_stored : manor.stored manorRows.users = manorRows := by decide +kernel

private theorem manor_kept : Keeps manor manorRows.storage := by
  have legible : manorRows.Legible := by constructor <;> decide +kernel
  have recorded := manorRows_reachable.sound.recorded
  exact .database manorRows_reachable (legible.reliable recorded) manor_stored

private theorem manor_distinct : manor.Distinct :=
  Tables.Keyed.distinct (manor_stored.symm ▸ manorRows_reachable.sound.keyed)

private theorem house_grows : house.tables.Grows manor where
  servers := by decide +kernel
  subscriptions := by decide +kernel
  roles := by decide +kernel
  assignments := by decide +kernel
  grants _ there := nomatch there
  channels := by decide +kernel
  overrides := by decide +kernel

/-- User 2 calls in server 7. -/
def visit : Context :=
  { Context.ofRequestId (.generated .nil) with claims := some (claimsOf ⟨2⟩), scope := .server ⟨7⟩ }

end Sample

/-- Who may delete the role of the house may still delete it in the manor. -/
theorem deletion_allowed_in_manor :
    (Sample.visit.decide .epoch Gatehouse.Sample.house.storage none Gatehouse.Sample.deletion).1 =
        .decided () ∧
      (Sample.visit.decide .epoch Sample.manorRows.storage none Gatehouse.Sample.deletion).1 =
        .decided () := by
  have allowed : (Sample.visit.decide .epoch Gatehouse.Sample.house.storage none
      Gatehouse.Sample.deletion).1 = .decided () := by decide +kernel
  exact ⟨allowed, growth_revokes_nothing (.memory none) Sample.manor_kept Sample.house_grows
    Sample.manor_distinct _ _ _ _ allowed⟩

end Store

end Gatehouse
