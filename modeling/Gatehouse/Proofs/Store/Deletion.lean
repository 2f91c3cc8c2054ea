import Gatehouse.Proofs.Store.Cascade
import Gatehouse.Proofs.Store.Run

/-! # What a deletion leaves

A deletion follows references in steps, and a row may be reached on several ways at once. What is left
can be said without steps: of each table, the rows that do not belong to what is deleted. To a server
belongs what lives in it, to a user what lives in the user's servers and what is about the user, and
to a subscription, a role or a channel the rows that join it with another. That the steps come to this
takes consistent tables.
-/

namespace Gatehouse.Store

namespace Tables

variable {ι τ μ β : Type} [DecidableEq ι] {t : Tables ι τ μ β}

/-- The tables without a user, the user's servers and all that lives in them, and what is about the
user elsewhere: subscriptions, the roles assigned to them, and grants. -/
def withoutUser (u : ι) (t : Tables ι τ μ β) : Tables ι τ μ β :=
  let owned (s : ι) : Bool := t.servers.any fun r => r.ownerId = u && r.id = s
  let joined (id : ι) : Bool := t.subscriptions.any fun r => r.userId = u && r.id = id
  { users := t.users.filter (·.id ≠ u)
    servers := t.servers.filter (·.ownerId ≠ u)
    subscriptions := t.subscriptions.filter fun r => r.userId ≠ u && !owned r.serverId
    roles := t.roles.filter fun r => !owned r.serverId
    assignments := t.assignments.filter fun r => !joined r.subscriptionId && !owned r.serverId
    grants := t.grants.filter fun r => r.userId ≠ u && !owned r.serverId
    channels := t.channels.filter fun r => !owned r.serverId
    overrides := t.overrides.filter fun r => !owned r.serverId }

/-- The tables without a subscription and the roles assigned to it. -/
def withoutSubscription (id : ι) (t : Tables ι τ μ β) : Tables ι τ μ β :=
  { t with
    subscriptions := t.subscriptions.filter (·.id ≠ id)
    assignments := t.assignments.filter (·.subscriptionId ≠ id) }

/-- The tables without a role, its assignments and its overrides. -/
def withoutRole (id : ι) (t : Tables ι τ μ β) : Tables ι τ μ β :=
  { t with
    roles := t.roles.filter (·.id ≠ id)
    assignments := t.assignments.filter (·.roleId ≠ id)
    overrides := t.overrides.filter (·.roleId ≠ id) }

/-- The tables without a channel and its overrides. -/
def withoutChannel (id : ι) (t : Tables ι τ μ β) : Tables ι τ μ β :=
  { t with
    channels := t.channels.filter (·.id ≠ id)
    overrides := t.overrides.filter (·.channelId ≠ id) }

private theorem removeSubscriptions_eq_without (linked : t.Linked) (id : ι) :
    t.removeSubscriptions (·.id = id) = t.withoutSubscription id := by
  have assignments := filter_unreferred (fun a stored =>
    (linked.assignmentSubscriptions a stored).imp fun _ sub => ⟨sub.1, sub.2.1⟩) id
  simp only [removeSubscriptions, removeAssignments, withoutSubscription, assignments, decide_not]

private theorem removeRoles_eq_without (linked : t.Linked) (id : ι) :
    t.removeRoles (·.id = id) = t.withoutRole id := by
  have assignments := filter_unreferred (fun a stored =>
    (linked.assignmentRoles a stored).imp fun _ role => ⟨role.1, role.2.1⟩) id
  have overrides := filter_unreferred (fun o stored =>
    (linked.overrideRoles o stored).imp fun _ role => ⟨role.1, role.2.1⟩) id
  simp only [removeRoles, removeAssignments, removeOverrides, withoutRole, assignments, overrides,
    decide_not]

private theorem removeChannels_eq_without (linked : t.Linked) (id : ι) :
    t.removeChannels (·.id = id) = t.withoutChannel id := by
  have overrides := filter_unreferred (fun o stored =>
    (linked.overrideChannels o stored).imp fun _ channel => ⟨channel.1, channel.2.1⟩) id
  simp only [removeChannels, removeOverrides, withoutChannel, overrides, decide_not]

/-- Servers with what lives in them, as a cascade removes them. -/
theorem removeServers_eq_filter (keyed : t.Keyed) (linked : t.Linked) (p : ServerRow ι τ → Bool) :
    t.removeServers p =
      let gone (s : ι) : Bool := t.servers.any fun r => p r && r.id = s
      { users := t.users
        servers := t.servers.filter fun r => !p r
        subscriptions := t.subscriptions.filter fun r => !gone r.serverId
        roles := t.roles.filter fun r => !gone r.serverId
        assignments := t.assignments.filter fun r => !gone r.serverId
        grants := t.grants.filter fun r => !gone r.serverId
        channels := t.channels.filter fun r => !gone r.serverId
        overrides := t.overrides.filter fun r => !gone r.serverId } := by
  rw [removeServers_eq, emptied_eq keyed linked]
  rfl

/-- Which servers go is only asked of servers that are there. -/
theorem removeServers_congr (keyed : t.Keyed) (linked : t.Linked) {p q : ServerRow ι τ → Bool}
    (same : ∀ r ∈ t.servers, p r = q r) : t.removeServers p = t.removeServers q := by
  have gone (s : ι) : (t.servers.any fun r => p r && r.id = s) =
      t.servers.any fun r => q r && r.id = s := by
    rw [Bool.eq_iff_iff, List.any_eq_true, List.any_eq_true]
    exact exists_congr fun r => and_congr_right fun stored => by rw [same r stored]
  have kept : (t.servers.filter fun r => !p r) = t.servers.filter fun r => !q r :=
    List.filter_congr fun r stored => by rw [same r stored]
  simp only [removeServers_eq_filter keyed linked, gone, kept]

/-- A row joins another one, which is found by its id: to look for it among the rows of a kind is to
ask whether it is of that kind. -/
theorem any_partner {α : Type} {rows : List α} {key : α → ι} (distinct : (rows.map key).Nodup)
    {a : α} (there : a ∈ rows) (p : α → Bool) :
    (rows.any fun r => p r && key r = key a) = p a := by
  rw [Bool.eq_iff_iff]
  constructor
  · exact fun taken => hit_of_taken distinct taken there rfl
  · exact fun hit => List.any_eq_true.mpr ⟨a, there, by simp [hit]⟩

/-- To remove a user leaves exactly what has nothing to do with the user. -/
theorem removeUsers_eq_without (keyed : t.Keyed) (linked : t.Linked) (u : ι) :
    t.removeUsers (·.id = u) = t.withoutUser u := by
  rw [removeUsers_eq, abandoned, removeServers_congr keyed linked fun r stored =>
    any_id_eq (linked.owners r stored) u]
  generalize served : t.removeServers (fun r => decide (r.ownerId = u)) = rest
  have part : Part rest t := served ▸ removeServers_part _
  have linked' : rest.Linked := served ▸ linked.removeServers _
  let gone (id : ι) : Bool := t.users.any fun user => decide (user.id = u) && user.id = id
  have subscriptionUser : ∀ r ∈ rest.subscriptions, gone r.userId = decide (r.userId = u) :=
    fun r stored => any_id_eq (linked.subscriptionUsers r (part.subscriptions.subset stored)) u
  have grantUser : ∀ r ∈ rest.grants, gone r.userId = decide (r.userId = u) :=
    fun r stored => any_id_eq (linked.grantUsers r (part.grants.subset stored)) u
  -- what is assigned outside the user's servers is assigned to a subscription that is still there
  have joined : ∀ a ∈ rest.assignments,
      (rest.subscriptions.any fun r => gone r.userId && r.id = a.subscriptionId) =
        t.subscriptions.any fun r => decide (r.userId = u) && r.id = a.subscriptionId := by
    intro a assigned
    obtain ⟨sub, there, named, -⟩ := linked'.assignmentSubscriptions a assigned
    have before := part.subscriptions.subset there
    rw [← named, any_partner (keyed.part part).subscriptionIds there (fun r => gone r.userId),
      any_partner keyed.subscriptionIds before (fun r => decide (r.userId = u)),
      subscriptionUser sub there]
  have subscriptions : (rest.subscriptions.filter fun r => !gone r.userId) =
      rest.subscriptions.filter fun r => r.userId ≠ u :=
    List.filter_congr fun r stored => by rw [subscriptionUser r stored, decide_not]
  have grants : (rest.grants.filter fun r => !gone r.userId) =
      rest.grants.filter fun r => r.userId ≠ u :=
    List.filter_congr fun r stored => by rw [grantUser r stored, decide_not]
  have assignments := List.filter_congr fun a assigned => congrArg (!·) (joined a assigned)
  simp only [removeSubscriptions, removeAssignments, removeGrants, dropUsers]
  rw [subscriptions, grants, assignments, ← served, removeServers_eq_filter keyed linked]
  simp only [withoutUser, List.filter_filter, decide_not]

omit [DecidableEq ι] in
private theorem filter_of_none {α : Type} {rows : List α} {p : α → Bool}
    (none : ∀ r ∈ rows, p r = false) :
    (rows.filter fun r => !p r) = rows :=
  List.filter_eq_self.mpr fun r stored => by rw [none r stored, Bool.not_false]

/-- Where nothing is hit, nothing has the id of what is hit. -/
theorem any_of_none {α : Type} {rows : List α} {p : α → Bool} {key : α → ι}
    (none : ∀ r ∈ rows, p r = false) (id : ι) : (rows.any fun r => p r && key r = id) = false :=
  List.any_eq_false.mpr fun r stored => by simp [none r stored]

omit [DecidableEq ι] in
private theorem removeAssignments_of_none {p : AssignmentRow ι → Bool}
    (none : ∀ r ∈ t.assignments, p r = false) : t.removeAssignments p = t := by
  simp only [removeAssignments, filter_of_none none]

omit [DecidableEq ι] in
private theorem removeOverrides_of_none {p : OverrideRow ι → Bool}
    (none : ∀ r ∈ t.overrides, p r = false) :
    t.removeOverrides p = t := by
  simp only [removeOverrides, filter_of_none none]

omit [DecidableEq ι] in
private theorem removeGrants_of_none {p : GrantRow ι β → Bool}
    (none : ∀ r ∈ t.grants, p r = false) :
    t.removeGrants p = t := by
  simp only [removeGrants, filter_of_none none]

private theorem removeSubscriptions_of_none {p : SubscriptionRow ι τ → Bool}
    (none : ∀ r ∈ t.subscriptions, p r = false) : t.removeSubscriptions p = t := by
  simp only [removeSubscriptions, any_of_none none, removeAssignments_of_none fun _ _ => rfl,
    filter_of_none none]

private theorem removeRoles_of_none {p : RoleRow ι μ → Bool} (none : ∀ r ∈ t.roles, p r = false) :
    t.removeRoles p = t := by
  simp only [removeRoles, any_of_none none, removeAssignments_of_none fun _ _ => rfl,
    removeOverrides_of_none fun _ _ => rfl, filter_of_none none]

private theorem removeChannels_of_none {p : ChannelRow ι β τ → Bool}
    (none : ∀ r ∈ t.channels, p r = false) :
    t.removeChannels p = t := by
  simp only [removeChannels, any_of_none none, removeOverrides_of_none fun _ _ => rfl,
    filter_of_none none]

private theorem removeServers_of_none {p : ServerRow ι τ → Bool}
    (none : ∀ r ∈ t.servers, p r = false) :
    t.removeServers p = t := by
  have nowhere (id : ι) : (t.servers.any fun r => p r && r.id = id) = false := any_of_none none id
  simp only [removeServers, nowhere, removeSubscriptions_of_none fun _ _ => rfl,
    removeRoles_of_none fun _ _ => rfl, removeChannels_of_none fun _ _ => rfl,
    removeAssignments_of_none fun _ _ => rfl, removeGrants_of_none fun _ _ => rfl,
    removeOverrides_of_none fun _ _ => rfl, filter_of_none none]

private theorem removeUsers_of_none {p : UserRow ι τ → Bool} (none : ∀ r ∈ t.users, p r = false) :
    t.removeUsers p = t := by
  have nobody (id : ι) : (t.users.any fun r => p r && r.id = id) = false := any_of_none none id
  simp only [removeUsers, nobody, removeServers_of_none fun _ _ => rfl,
    removeSubscriptions_of_none fun _ _ => rfl, removeGrants_of_none fun _ _ => rfl,
    filter_of_none none]

end Tables

namespace Write

variable {t : StoredTables} {write : Write}

/-- What a deletion names is there. -/
def Hits (t : StoredTables) : Write → Prop
  | .deleteUser id => ∃ r ∈ t.users, r.id = id.text
  | .deleteServer id => ∃ r ∈ t.servers, r.id = id.text
  | .deleteSubscription id => ∃ r ∈ t.subscriptions, r.id = id.text
  | .deleteRole id => ∃ r ∈ t.roles, r.id = id.text
  | .deleteAssignment id => ∃ r ∈ t.assignments, r.id = id.text
  | .deleteGrant id => ∃ r ∈ t.grants, r.id = id.text
  | .deleteChannel id => ∃ r ∈ t.channels, r.id = id.text
  | .deleteOverride id => ∃ r ∈ t.overrides, r.id = id.text
  | _ => False

/-- The tables without what a deletion names and what belongs to it. -/
def leaves (t : StoredTables) : Write → StoredTables
  | .deleteUser id => t.withoutUser id.text
  | .deleteServer id => t.without id.text
  | .deleteSubscription id => t.withoutSubscription id.text
  | .deleteRole id => t.withoutRole id.text
  | .deleteAssignment id => { t with assignments := t.assignments.filter (·.id ≠ id.text) }
  | .deleteGrant id => { t with grants := t.grants.filter (·.id ≠ id.text) }
  | .deleteChannel id => t.withoutChannel id.text
  | .deleteOverride id => { t with overrides := t.overrides.filter (·.id ≠ id.text) }
  | _ => t

/-- A deletion answers whether what it names is there, and leaves what does not belong to it. -/
theorem apply_of_deletes (sound : t.Sound) (deletion : write.deletes = true) :
    ∃ existed, write.change.apply t = (.ok (.deleted existed), write.leaves t) ∧
      (existed = true ↔ write.Hits t) := by
  have there {α : Type} {rows : List α} {key : α → String} {id : String} :
      (rows.any fun r => key r = id) = true ↔ ∃ r ∈ rows, key r = id := by
    simp only [List.any_eq_true, decide_eq_true_eq]
  have left {existed : Bool} {t' t'' : StoredTables} (same : t' = t'') :
      ((.ok (.deleted existed), t') : Except StoreFault Written × StoredTables) =
        (.ok (.deleted existed), t'') := by rw [same]
  obtain ⟨keyed, linked, -⟩ := sound
  cases write with
  | deleteUser id => exact ⟨_, left (Tables.removeUsers_eq_without keyed linked _), there⟩
  | deleteServer id => exact ⟨_, left (Tables.removeServers_eq_without keyed linked _), there⟩
  | deleteSubscription id => exact ⟨_, left (Tables.removeSubscriptions_eq_without linked _), there⟩
  | deleteRole id => exact ⟨_, left (Tables.removeRoles_eq_without linked _), there⟩
  | deleteChannel id => exact ⟨_, left (Tables.removeChannels_eq_without linked _), there⟩
  | deleteAssignment id =>
    exact ⟨_, left (by simp only [Tables.removeAssignments, leaves, decide_not]), there⟩
  | deleteGrant id => exact ⟨_, left (by simp only [Tables.removeGrants, leaves, decide_not]), there⟩
  | deleteOverride id =>
    exact ⟨_, left (by simp only [Tables.removeOverrides, leaves, decide_not]), there⟩
  | _ => cases deletion

/-- To delete what is not there changes nothing. -/
theorem apply_of_not_hits (deletion : write.deletes = true) (misses : ¬ write.Hits t) :
    write.change.apply t = (.ok (.deleted false), t) := by
  have none {α : Type} {rows : List α} {key : α → String} {id : String}
      (misses : ¬ ∃ r ∈ rows, key r = id) : ∀ r ∈ rows, decide (key r = id) = false :=
    fun r stored => decide_eq_false fun named => misses ⟨r, stored, named⟩
  have absent {α : Type} {rows : List α} {key : α → String} {id : String}
      (misses : ¬ ∃ r ∈ rows, key r = id) : (rows.any fun r => key r = id) = false :=
    List.any_eq_false.mpr fun r stored => by rw [none misses r stored]; exact Bool.false_ne_true
  have unchanged {existed : Bool} {t' : StoredTables} (missing : existed = false) (same : t' = t) :
      ((.ok (.deleted existed), t') : Except StoreFault Written × StoredTables) =
        (.ok (.deleted false), t) := by rw [missing, same]
  cases write with
  | deleteUser id => exact unchanged (absent misses) (Tables.removeUsers_of_none (none misses))
  | deleteServer id => exact unchanged (absent misses) (Tables.removeServers_of_none (none misses))
  | deleteSubscription id =>
    exact unchanged (absent misses) (Tables.removeSubscriptions_of_none (none misses))
  | deleteRole id => exact unchanged (absent misses) (Tables.removeRoles_of_none (none misses))
  | deleteChannel id => exact unchanged (absent misses) (Tables.removeChannels_of_none (none misses))
  | deleteAssignment id =>
    exact unchanged (absent misses) (Tables.removeAssignments_of_none (none misses))
  | deleteGrant id =>
    exact unchanged (absent misses) (Tables.removeGrants_of_none (none misses))
  | deleteOverride id =>
    exact unchanged (absent misses) (Tables.removeOverrides_of_none (none misses))
  | _ => cases deletion

theorem not_hits_leaves (deletion : write.deletes = true) : ¬ write.Hits (write.leaves t) := by
  have gone {α : Type} {rows : List α} {key : α → String} {id : String} :
      ¬ ∃ r ∈ rows.filter (key · ≠ id), key r = id := by
    rintro ⟨r, kept, named⟩
    exact of_decide_eq_true (List.mem_filter.mp kept).2 named
  cases write with
  | deleteUser id | deleteServer id | deleteSubscription id | deleteRole id | deleteAssignment id
  | deleteGrant id | deleteChannel id | deleteOverride id => exact gone
  | _ => cases deletion

end Write

/-- In reachable tables a deletion removes exactly what it names and what belongs to it, and leaves
all other rows as they are, in their order. It answers whether what it names was there. To repeat it
answers that there is nothing and changes nothing. -/
theorem deletion_leaves_the_rest {t : StoredTables} (reachable : Reachable t) {write : Write}
    (deletion : write.deletes = true) :
    ∃ existed, write.change.apply t = (.ok (.deleted existed), write.leaves t) ∧
      (existed = true ↔ write.Hits t) ∧
      write.change.apply (write.leaves t) = (.ok (.deleted false), write.leaves t) := by
  obtain ⟨existed, applied, hits⟩ := write.apply_of_deletes reachable.sound deletion
  exact ⟨existed, applied, hits, write.apply_of_not_hits deletion (write.not_hits_leaves deletion)⟩

namespace Sample

/-- Two servers with an owner each; the owner of server 5 has a role, an override for this role and a
grant on server 7, and the owner of server 7 has subscribed to server 5. -/
def settling : List Write :=
  [.createUser ⟨⟨1⟩, "owner", .epoch⟩,
    .createUser ⟨⟨2⟩, "guest", .epoch⟩,
    .createServer ⟨⟨7⟩, "house", ⟨1⟩, .epoch⟩ ⟨6⟩ .epoch,
    .createServer ⟨⟨5⟩, "hut", ⟨2⟩, .epoch⟩ ⟨4⟩ .epoch,
    .createSubscription ⟨⟨8⟩, ⟨7⟩, ⟨2⟩, .epoch⟩,
    .createSubscription ⟨⟨3⟩, ⟨5⟩, ⟨1⟩, .epoch⟩,
    .createRole ⟨⟨9⟩, ⟨7⟩, "keys", 0, 0, 0⟩,
    .createAssignment ⟨⟨10⟩, ⟨7⟩, ⟨2⟩, ⟨8⟩, ⟨9⟩⟩,
    .createGrant ⟨⟨11⟩, ⟨7⟩, ⟨2⟩, true, false, false⟩,
    .createChannel ⟨⟨12⟩, ⟨7⟩, "hall", true, .epoch⟩,
    .createOverride ⟨⟨13⟩, ⟨7⟩, ⟨12⟩, ⟨9⟩⟩]

def settled : StoredTables := Write.runAll settling Tables.empty

end Sample

/-- With the guest go the guest's server, whoever has subscribed to it, and the guest's role and grant
elsewhere; the other server, its role and its override stay. -/
theorem guest_deleted :
    ∃ left, (Write.deleteUser ⟨2⟩).change.apply Sample.settled = (.ok (.deleted true), left) ∧
      (Write.deleteUser ⟨2⟩).change.apply left = (.ok (.deleted false), left) ∧
      left.servers.map (·.name) = ["house"] ∧
      left.subscriptions.map (·.id) = [Uuid.text ⟨6⟩] ∧
      left.assignments = [] ∧ left.grants = [] ∧
      left.roles = Sample.settled.roles ∧ left.overrides = Sample.settled.overrides := by
  have reachable : Reachable Sample.settled := ⟨_, rfl⟩
  have deletion : (Write.deleteUser ⟨2⟩).deletes = true := rfl
  obtain ⟨existed, applied, hits, again⟩ := deletion_leaves_the_rest reachable deletion
  have there : ∃ r ∈ Sample.settled.users, r.id = Uuid.text ⟨2⟩ := by decide +kernel
  obtain rfl : existed = true := hits.mpr there
  exact ⟨_, applied, again, by decide +kernel⟩

end Gatehouse.Store
