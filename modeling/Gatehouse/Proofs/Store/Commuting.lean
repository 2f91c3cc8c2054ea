import Gatehouse.Proofs.Store.Deletion
import Mathlib.Data.List.Basic

/-! # Deletions commute

A deletion keeps some rows of each table. Which rows it keeps depends on other rows only through the
partners that a row joins, and these are there as long as the row is. So other deletions, which come
first, do not change what a deletion keeps of the rows that are left to it: what is left in the end
are the rows that each deletion would keep if it came first, in whatever order they come.
-/

namespace Gatehouse.Store

namespace Tables

variable {ι τ μ β : Type}

/-- Which rows to keep of each table, all of them unless something else is said. -/
structure Selection (ι τ μ β : Type) where
  users : UserRow ι τ → Bool := fun _ => true
  servers : ServerRow ι τ → Bool := fun _ => true
  subscriptions : SubscriptionRow ι τ → Bool := fun _ => true
  roles : RoleRow ι μ → Bool := fun _ => true
  assignments : AssignmentRow ι → Bool := fun _ => true
  grants : GrantRow ι β → Bool := fun _ => true
  channels : ChannelRow ι β τ → Bool := fun _ => true
  overrides : OverrideRow ι → Bool := fun _ => true

/-- The rows that are kept, in their order. -/
def select (keep : Selection ι τ μ β) (t : Tables ι τ μ β) : Tables ι τ μ β where
  users := t.users.filter keep.users
  servers := t.servers.filter keep.servers
  subscriptions := t.subscriptions.filter keep.subscriptions
  roles := t.roles.filter keep.roles
  assignments := t.assignments.filter keep.assignments
  grants := t.grants.filter keep.grants
  channels := t.channels.filter keep.channels
  overrides := t.overrides.filter keep.overrides

private theorem select_comm (keep keep' : Selection ι τ μ β) (t : Tables ι τ μ β) :
    (t.select keep).select keep' = (t.select keep').select keep := by
  simp only [select, List.filter_comm]

private theorem select_part (keep : Selection ι τ μ β) (t : Tables ι τ μ β) :
    Part (t.select keep) t := by
  constructor <;> exact List.filter_sublist

variable [DecidableEq ι]

/-- What is kept when a user is deleted. -/
def sparing (u : ι) (t : Tables ι τ μ β) : Selection ι τ μ β :=
  let owned (s : ι) : Bool := t.servers.any fun r => r.ownerId = u && r.id = s
  let joined (id : ι) : Bool := t.subscriptions.any fun r => r.userId = u && r.id = id
  { users := (·.id ≠ u)
    servers := (·.ownerId ≠ u)
    subscriptions := fun r => r.userId ≠ u && !owned r.serverId
    roles := fun r => !owned r.serverId
    assignments := fun r => !joined r.subscriptionId && !owned r.serverId
    grants := fun r => r.userId ≠ u && !owned r.serverId
    channels := fun r => !owned r.serverId
    overrides := fun r => !owned r.serverId }

/-- A row that is there is looked up by its id among all rows or among some of them, with the same
result. -/
theorem any_part {α : Type} {rows rows' : List α} {key : α → ι} (distinct : (rows.map key).Nodup)
    (part : rows'.Sublist rows) (p : α → Bool) {id : ι} (there : ∃ a ∈ rows', key a = id) :
    (rows'.any fun r => p r && key r = id) = rows.any fun r => p r && key r = id := by
  obtain ⟨a, stored, rfl⟩ := there
  rw [any_partner (distinct.sublist (part.map key)) stored,
    any_partner distinct (part.subset stored)]

/-- Of a linked part of the tables, the deletion of a user keeps the rows that it keeps of the whole
tables. -/
theorem select_sparing_part {t t' : Tables ι τ μ β} (keyed : t.Keyed) (part : Part t' t)
    (linked : t'.Linked) (u : ι) : t'.select (t'.sparing u) = t'.select (t.sparing u) := by
  obtain ⟨-, -, assignmentServers, -, overrideServers⟩ :=
    Consistent.of_linked (keyed.part part) linked
  have owned {s : ι} (home : ∃ server ∈ t'.servers, server.id = s) :
      (t'.servers.any fun r => decide (r.ownerId = u) && r.id = s) =
        t.servers.any fun r => decide (r.ownerId = u) && r.id = s :=
    any_part keyed.serverIds part.servers (fun r => decide (r.ownerId = u)) home
  have joined (a : AssignmentRow ι) (stored : a ∈ t'.assignments) :
      (t'.subscriptions.any fun r => decide (r.userId = u) && r.id = a.subscriptionId) =
        t.subscriptions.any fun r => decide (r.userId = u) && r.id = a.subscriptionId := by
    obtain ⟨sub, there, named, -⟩ := linked.assignmentSubscriptions a stored
    exact any_part keyed.subscriptionIds part.subscriptions (fun r => decide (r.userId = u))
      ⟨sub, there, named⟩
  have subscriptions := List.filter_congr fun r stored =>
    congrArg (decide (r.userId ≠ u) && !·) (owned (linked.subscriptionServers r stored))
  have roles := List.filter_congr fun r stored =>
    congrArg (!·) (owned (linked.roleServers r stored))
  have assignments := List.filter_congr fun r stored =>
    congrArg₂ (!· && !·) (joined r stored) (owned (assignmentServers r stored))
  have grants := List.filter_congr fun r stored =>
    congrArg (decide (r.userId ≠ u) && !·) (owned (linked.grantServers r stored))
  have channels := List.filter_congr fun r stored =>
    congrArg (!·) (owned (linked.channelServers r stored))
  have overrides := List.filter_congr fun r stored =>
    congrArg (!·) (owned (overrideServers r stored))
  simp only [select, sparing, subscriptions, roles, assignments, grants, channels, overrides]

end Tables

namespace Write

variable {t t' : StoredTables} {write : Write}

/-- What a deletion keeps of the tables. -/
def spares (t : StoredTables) : Write → Tables.Selection String String Cell Cell
  | .deleteUser id => t.sparing id.text
  | .deleteServer id =>
    { servers := (·.id ≠ id.text), subscriptions := (·.serverId ≠ id.text),
      roles := (·.serverId ≠ id.text), assignments := (·.serverId ≠ id.text),
      grants := (·.serverId ≠ id.text), channels := (·.serverId ≠ id.text),
      overrides := (·.serverId ≠ id.text) }
  | .deleteSubscription id =>
    { subscriptions := (·.id ≠ id.text), assignments := (·.subscriptionId ≠ id.text) }
  | .deleteRole id =>
    { roles := (·.id ≠ id.text), assignments := (·.roleId ≠ id.text),
      overrides := (·.roleId ≠ id.text) }
  | .deleteAssignment id => { assignments := (·.id ≠ id.text) }
  | .deleteGrant id => { grants := (·.id ≠ id.text) }
  | .deleteChannel id => { channels := (·.id ≠ id.text), overrides := (·.channelId ≠ id.text) }
  | .deleteOverride id => { overrides := (·.id ≠ id.text) }
  | _ => {}

private theorem leaves_eq_select (t : StoredTables) (write : Write) :
    write.leaves t = t.select (write.spares t) := by
  cases write <;>
    simp only [leaves, spares, Tables.select, Tables.sparing, Tables.withoutUser, Tables.without,
      Tables.withoutSubscription, Tables.withoutRole, Tables.withoutChannel, List.filter_true]

/-- Of a sound part of the tables, a deletion keeps the rows that it keeps of the whole tables. -/
theorem apply_part (keyed : t.Keyed) (part : Tables.Part t' t) (sound : t'.Sound)
    (deletion : write.deletes = true) :
    (write.change.apply t').2 = t'.select (write.spares t) := by
  obtain ⟨existed, applied, -⟩ := write.apply_of_deletes sound deletion
  rw [applied, leaves_eq_select]
  cases write with
  | deleteUser id => exact Tables.select_sparing_part keyed part sound.linked id.text
  | _ => rfl

/-- After a batch of deletions, the rows are left that each of them keeps of the tables at the
start. -/
theorem runAll_deletions (keyed : t.Keyed) {batch : List Write}
    (deletions : ∀ write ∈ batch, write.deletes = true) (part : Tables.Part t' t)
    (sound : t'.Sound) :
    runAll batch t' = batch.foldl (fun left write => left.select (write.spares t)) t' := by
  induction batch generalizing t' with
  | nil => rfl
  | cons write rest ih =>
    obtain ⟨deletion, deletions⟩ := List.forall_mem_cons.mp deletions
    have applied := apply_part keyed part sound deletion
    have later :=
      ih deletions ((Tables.select_part _ _).trans part) (applied ▸ sound_apply sound write)
    rw [List.foldl_cons, ← later, ← applied]
    rfl

end Write

/-- In reachable tables two deletions, one after the other, leave the same in either order, and a
batch of deletions leaves the same in whatever order they come. -/
theorem deletions_commute {t : StoredTables} (reachable : Reachable t) :
    (∀ first second : Write, first.deletes = true → second.deletes = true →
      (second.change.apply (first.change.apply t).2).2 =
        (first.change.apply (second.change.apply t).2).2) ∧
    ∀ batch batch' : List Write, (∀ write ∈ batch, write.deletes = true) → batch.Perm batch' →
      Write.runAll batch t = Write.runAll batch' t := by
  have sound := reachable.sound
  have batches (batch batch' : List Write) (deletions : ∀ write ∈ batch, write.deletes = true)
      (perm : batch.Perm batch') : Write.runAll batch t = Write.runAll batch' t := by
    have deletions' : ∀ write ∈ batch', write.deletes = true := fun write listed =>
      deletions write (perm.mem_iff.mpr listed)
    have same : Tables.Part t t := by constructor <;> exact .refl _
    rw [Write.runAll_deletions sound.keyed deletions same sound,
      Write.runAll_deletions sound.keyed deletions' same sound]
    exact perm.foldl_eq' (fun first _ second _ left => Tables.select_comm _ _ left) t
  refine ⟨fun first second deletion deletion' => ?_, batches⟩
  refine batches [first, second] [second, first] ?_ (.swap second first [])
  simp [deletion, deletion']

/-- The guest, the guest's own server, the role of the other server and the guest's subscription to
it can be deleted in any order, though each takes some of what the others take. -/
theorem guest_cleared_away :
    let batch : List Write :=
      [.deleteUser ⟨2⟩, .deleteServer ⟨5⟩, .deleteRole ⟨9⟩, .deleteSubscription ⟨8⟩]
    let left := Write.runAll batch Sample.settled
    Write.runAll batch.reverse Sample.settled = left ∧
      left.servers.map (·.name) = ["house"] ∧ left.channels.map (·.name) = ["hall"] ∧
      left.roles = [] ∧ left.assignments = [] ∧ left.overrides = [] := by
  intro batch left
  have reachable : Reachable Sample.settled := ⟨_, rfl⟩
  obtain ⟨-, batches⟩ := deletions_commute reachable
  have same := batches batch.reverse batch (by decide) (List.reverse_perm batch)
  exact ⟨same, by decide +kernel⟩

end Gatehouse.Store
