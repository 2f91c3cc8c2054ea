import Gatehouse.Proofs.Store.Listing
import Gatehouse.Proofs.Store.Replay
import Gatehouse.Proofs.Store.Tenant
import Mathlib.Data.List.Basic

/-! # Roles are held through a subscription

The list of the roles that a user holds on a server joins assignments and roles by the id of the
role. It looks neither at subscriptions nor at the server of a role. Yet in sound tables it is the
list of the roles that are assigned to the user's subscription, each once: an assignment is of the
server and the user of its subscription, a user has one subscription on a server, and no role is
assigned to it twice. So whoever has no subscription holds no role, and one who subscribes starts
with none.
-/

namespace Gatehouse.Store

variable {t t' : StoredTables} {s u : Uuid}

namespace Tables

/-- This is the list of the roles that are assigned to the user on the server, each once, and all of
that server. -/
structure Held (t : StoredTables) (s u : Uuid) (roles : List Role) : Prop where
  listed : t.listRolesHeld s u = .ok roles
  distinct : (roles.map (·.id)).Nodup
  inside : ∀ role ∈ roles, role.serverId = s
  assigned : ∀ role, role ∈ roles ↔ storeRole role ∈ t.roles ∧
    ∃ a ∈ t.assignments, a.serverId = s.text ∧ a.userId = u.text ∧ a.roleId = role.id.text

private theorem readRole_map_storeRole (roles : List Role) :
    (roles.map storeRole).filterMap (fun r => (Store.readRole r).toOption) = roles := by
  simp only [List.filterMap_map, Function.comp_def, readRole_storeRole, Except.toOption,
    List.filterMap_some]

private theorem storeRole_injective : Function.Injective storeRole := by
  intro a b same
  have read := readRole_storeRole a
  rw [same, readRole_storeRole] at read
  exact (Except.ok.inj read).symm

/-- What is joined are rows of records. -/
private theorem Recorded.exists_joined (recorded : t.Recorded) (s u : Uuid) :
    ∃ roles : List Role, t.rolesJoined s u = roles.map storeRole :=
  Kind.roles.exists_records fun r joined => recorded.roles r (mem_roles_of_joined joined)

/-- The list reads the rows that are joined, in their order. -/
theorem Recorded.listRolesHeld_eq_ok_iff (recorded : t.Recorded) {roles : List Role} :
    t.listRolesHeld s u = .ok roles ↔ t.rolesJoined s u = roles.map storeRole := by
  obtain ⟨joined, rows⟩ := recorded.exists_joined s u
  rw [listRolesHeld_eq recorded, Except.ok.injEq, rows, readRole_map_storeRole]
  refine ⟨congrArg (List.map storeRole), fun same => ?_⟩
  rw [← readRole_map_storeRole joined, same, readRole_map_storeRole]

/-- Every assignment is joined to one role. -/
theorem Sound.rolesJoined_ids (sound : t.Sound) (s u : Uuid) :
    (t.rolesJoined s u).map (·.id) =
      (t.assignments.filter fun a => a.serverId = s.text && a.userId = u.text).map (·.roleId) := by
  refine map_key_joined sound.keyed.roleIds fun a assigned => ?_
  obtain ⟨role, there, named, -⟩ := sound.linked.assignmentRoles a (List.mem_filter.mp assigned).1
  exact ⟨role, there, named⟩

/-- Two assignments of one user on one server are of one subscription. -/
theorem Sound.subscription_eq (sound : t.Sound) {a b : AssignmentRow String}
    (first : a ∈ t.assignments) (second : b ∈ t.assignments) (server : a.serverId = b.serverId)
    (user : a.userId = b.userId) : a.subscriptionId = b.subscriptionId := by
  obtain ⟨sub, there, named, inside, own⟩ := sound.linked.assignmentSubscriptions a first
  obtain ⟨sub', there', named', inside', own'⟩ := sound.linked.assignmentSubscriptions b second
  have pair : (sub.serverId, sub.userId) = (sub'.serverId, sub'.userId) := by
    rw [inside, own, inside', own', server, user]
  rw [← named, ← named', eq_of_key sound.keyed.subscriptionPairs there there' pair]

/-- No role is joined twice. -/
theorem Sound.nodup_rolesJoined (sound : t.Sound) (s u : Uuid) :
    ((t.rolesJoined s u).map (·.id)).Nodup := by
  rw [sound.rolesJoined_ids]
  have pairs := List.Pairwise.of_map _ (fun _ _ differ => differ) sound.keyed.assignmentPairs
  refine List.pairwise_map.mpr ((pairs.filter _).imp_of_mem ?_)
  intro a b first second differ role
  obtain ⟨first, hit⟩ := List.mem_filter.mp first
  obtain ⟨second, hit'⟩ := List.mem_filter.mp second
  obtain ⟨server, user⟩ := Prod.mk.inj ((pair_of_fits hit).trans (pair_of_fits hit').symm)
  have sub := sound.subscription_eq first second server user
  exact differ (Prod.ext sub role)

/-- A row is joined if it is that of a role that is assigned. -/
theorem mem_rolesJoined_iff {r : RoleRow String Cell} :
    r ∈ t.rolesJoined s u ↔ r ∈ t.roles ∧
      ∃ a ∈ t.assignments, a.serverId = s.text ∧ a.userId = u.text ∧ a.roleId = r.id := by
  simp only [rolesJoined, List.mem_flatMap, List.mem_filter, Bool.and_eq_true, decide_eq_true_eq]
  constructor
  · rintro ⟨a, ⟨stored, server, user⟩, there, named⟩
    exact ⟨there, a, stored, server, user, named.symm⟩
  · rintro ⟨there, a, stored, server, user, named⟩
    exact ⟨a, ⟨stored, server, user⟩, there, named.symm⟩

/-- An assigned role is of the server of the assignment. -/
theorem Sound.role_inside (sound : t.Sound) {a : AssignmentRow String} {r : RoleRow String Cell}
    (assigned : a ∈ t.assignments) (there : r ∈ t.roles) (named : a.roleId = r.id) :
    r.serverId = a.serverId := by
  obtain ⟨role, there', named', inside⟩ := sound.linked.assignmentRoles a assigned
  rwa [eq_of_key sound.keyed.roleIds there there' (named.symm.trans named'.symm)]

/-- There always is such a list. -/
theorem Sound.held (sound : t.Sound) (s u : Uuid) : ∃ roles, t.Held s u roles := by
  obtain ⟨roles, rows⟩ := sound.recorded.exists_joined s u
  have assigned (role : Role) : role ∈ roles ↔ storeRole role ∈ t.roles ∧
      ∃ a ∈ t.assignments, a.serverId = s.text ∧ a.userId = u.text ∧ a.roleId = role.id.text := by
    have joined : storeRole role ∈ roles.map storeRole ↔ role ∈ roles :=
      List.mem_map_of_injective storeRole_injective
    rw [← joined, ← rows, mem_rolesJoined_iff]
    rfl
  refine ⟨roles, sound.recorded.listRolesHeld_eq_ok_iff.mpr rows, ?distinct, ?inside, assigned⟩
  case distinct =>
    have once := sound.nodup_rolesJoined s u
    rw [rows, List.map_map] at once
    exact nodup_ids_of_texts once
  case inside =>
    intro role listed
    obtain ⟨there, a, stored, server, -, named⟩ := (assigned role).mp listed
    exact Uuid.text_inj.mp ((sound.role_inside stored there named).trans server)

/-- Decisions take the union of the masks on the list. -/
theorem Held.maskOf {roles : List Role} (held : t.Held s u roles) :
    (maskOf s u).run t.storage = .ok (.collect (roles.map RoleRow.mask)) := by
  have answer : t.storage (.rolesHeld s u) = .ok roles := lookedUp_eq_ok_iff.mpr held.listed
  exact Inquiry.run_bind_eq_ok_iff.mpr ⟨some roles, Inquiry.run_find?_eq_some_iff.mpr answer, rfl⟩

end Tables

/-- The user has no subscription on the server. -/
def Unsubscribed (t : StoredTables) (s u : Uuid) : Prop :=
  ∀ sub ∈ t.subscriptions, sub.serverId = s.text → sub.userId ≠ u.text

/-- The user holds no role on the server: none is listed, and decisions see no flag. -/
structure Roleless (t : StoredTables) (s u : Uuid) : Prop where
  listed : t.listRolesHeld s u = .ok []
  mask : (maskOf s u).run t.storage = .ok .empty
  serverFlags : ∀ asked : ServerFlags, asked.bits ≠ 0 → ¬ t.storage.HoldsServerFlag s u asked
  subFlags : ∀ asked : SubFlags, asked.bits ≠ 0 → ¬ t.storage.HoldsSubFlag s u asked

/-- The roles that the user holds on the server are those that are assigned to the subscription, and
the mask that decisions see is made of all their bits, of which only those of named flags count. -/
structure HeldThrough (t : StoredTables) (sub : SubscriptionRow String String) (s u : Uuid)
    (roles : List Role) : Prop extends t.Held s u roles where
  through : ∀ role, role ∈ roles ↔ storeRole role ∈ t.roles ∧
    ∃ a ∈ t.assignments, a.subscriptionId = sub.id ∧ a.roleId = role.id.text
  mask : ∃ mask, (maskOf s u).run t.storage = .ok mask ∧
    mask.server.bits = roles.foldl (fun bits role => bits ||| role.serverMask) 0 &&& 7 ∧
    mask.channel = roles.foldl (fun bits role => bits ||| role.channelMask) 0 ∧
    mask.sub.bits = roles.foldl (fun bits role => bits ||| role.subMask) 0 &&& 1

private theorem Roleless.of_unassigned (sound : t.Sound)
    (unassigned : ∀ a ∈ t.assignments, a.serverId = s.text → a.userId ≠ u.text) :
    Roleless t s u := by
  obtain ⟨roles, held⟩ := sound.held s u
  obtain rfl : roles = [] := by
    refine List.eq_nil_iff_forall_not_mem.mpr fun role listed => ?_
    obtain ⟨-, a, stored, server, user, -⟩ := (held.assigned role).mp listed
    exact unassigned a stored server user
  have none_held : t.storage.rolesHeld s u = [] := by
    simp only [Storage.rolesHeld, Tables.storage, held.listed, lookedUp]
  exact ⟨held.listed, held.maskOf, fun _ => Storage.not_holdsServerFlag none_held,
    fun _ => Storage.not_holdsSubFlag none_held⟩

/-- Without a subscription nothing is assigned. -/
theorem Unsubscribed.unassigned (unsubscribed : Unsubscribed t s u) (linked : t.Linked) :
    ∀ a ∈ t.assignments, a.serverId = s.text → a.userId ≠ u.text := by
  intro a assigned server user
  obtain ⟨sub, there, -, inside, own⟩ := linked.assignmentSubscriptions a assigned
  exact unsubscribed sub there (inside.trans server) (own.trans user)

theorem Unsubscribed.roleless (unsubscribed : Unsubscribed t s u) (sound : t.Sound) :
    Roleless t s u :=
  .of_unassigned sound (unsubscribed.unassigned sound.linked)

/-- There is one subscription of a user on a server. -/
theorem subscription_unique (keyed : t.Keyed) {sub other : SubscriptionRow String String}
    (there : sub ∈ t.subscriptions) (there' : other ∈ t.subscriptions)
    (server : other.serverId = sub.serverId) (user : other.userId = sub.userId) : other = sub :=
  Tables.eq_of_key keyed.subscriptionPairs there' there (Prod.ext server user)

/-- Assignments of the user on the server are those of the user's subscription. -/
theorem heldThrough (sound : t.Sound) {sub : SubscriptionRow String String}
    (there : sub ∈ t.subscriptions) (server : sub.serverId = s.text) (user : sub.userId = u.text) :
    ∃ roles, HeldThrough t sub s u roles := by
  obtain ⟨roles, held⟩ := sound.held s u
  have joins {a : AssignmentRow String} (assigned : a ∈ t.assignments) :
      (a.serverId = s.text ∧ a.userId = u.text) ↔ a.subscriptionId = sub.id := by
    obtain ⟨other, there', named, inside, own⟩ := sound.linked.assignmentSubscriptions a assigned
    rw [← inside, ← own, ← named, ← server, ← user]
    constructor
    · rintro ⟨server, user⟩
      rw [subscription_unique sound.keyed there there' server user]
    · intro same
      rw [Tables.eq_of_key sound.keyed.subscriptionIds there' there same]
      exact ⟨rfl, rfl⟩
  refine ⟨roles, held, fun role => (held.assigned role).trans (and_congr_right fun _ => ?_),
    _, held.maskOf, PermissionMask.collect_server roles, PermissionMask.collect_channel roles,
    PermissionMask.collect_sub roles⟩
  refine exists_congr fun a => and_congr_right fun assigned => ?_
  rw [← and_assoc, joins assigned]

/-- A write assigns a role only to who is subscribed. -/
theorem Write.Effect.assignment_cases {write : Write} (effect : write.Effect t t') :
    ∀ a ∈ t'.assignments, a ∈ t.assignments ∨
      ∃ sub ∈ t.subscriptions, sub.serverId = a.serverId ∧ sub.userId = a.userId := by
  cases write with
  | createAssignment row =>
    obtain ⟨⟨sub, there, -, inside, own⟩, -, inserted⟩ := effect
    obtain ⟨-, rfl⟩ := Tables.insertAssignment_eq_ok_iff.mp inserted
    exact Tables.forall_mem_append_singleton.mpr
      ⟨fun a stored => .inl stored, .inr ⟨sub, there, inside, own⟩⟩
  | createUser row =>
    obtain ⟨-, rfl⟩ := Tables.insertUser_eq_ok_iff.mp effect
    exact fun a stored => .inl stored
  | createServer row joining joined =>
    obtain ⟨between, inserted, subscribed⟩ := effect
    obtain ⟨-, rfl⟩ := Tables.insertServer_eq_ok_iff.mp inserted
    obtain ⟨-, rfl⟩ := Tables.insertSubscription_eq_ok_iff.mp subscribed
    exact fun a stored => .inl stored
  | createSubscription row =>
    obtain ⟨-, rfl⟩ := Tables.insertSubscription_eq_ok_iff.mp effect
    exact fun a stored => .inl stored
  | createRole row =>
    obtain ⟨-, rfl⟩ := Tables.insertRole_eq_ok_iff.mp effect
    exact fun a stored => .inl stored
  | createGrant row =>
    obtain rfl | ⟨-, rfl⟩ := Tables.upsertGrant_cases effect <;> exact fun a stored => .inl stored
  | createChannel row =>
    obtain ⟨-, rfl⟩ := Tables.insertChannel_eq_ok_iff.mp effect
    exact fun a stored => .inl stored
  | createOverride row =>
    obtain ⟨-, rfl⟩ := Tables.insertOverride_eq_ok_iff.mp effect.2.2
    exact fun a stored => .inl stored
  | deleteUser id | deleteServer id | deleteSubscription id | deleteRole id | deleteAssignment id
  | deleteGrant id | deleteChannel id | deleteOverride id =>
    exact fun a stored => .inl ((effect.part rfl).assignments.subset stored)

/-- Who is not subscribed holds no role after the next write, even if that is to subscribe. -/
theorem Unsubscribed.roleless_apply (unsubscribed : Unsubscribed t s u) (sound : t.Sound)
    (write : Write) : Roleless (write.change.apply t).2 s u := by
  refine .of_unassigned (Write.sound_apply sound write) ?_
  obtain unchanged | effect := Write.apply_cases sound.recorded write
  · rw [unchanged]
    exact unsubscribed.unassigned sound.linked
  · intro a assigned server user
    obtain stored | ⟨sub, there, inside, own⟩ := effect.assignment_cases a assigned
    · exact unsubscribed.unassigned sound.linked a stored server user
    · exact unsubscribed sub there (inside.trans server) (own.trans user)

private theorem unsubscribed_of_createSubscription (sound : t.Sound) {row : Subscription}
    (ok : ((Write.createSubscription row).change.apply t).1.isOk = true) :
    Unsubscribed t row.serverId row.userId := by
  have effect := ((Write.createSubscription row).does sound.recorded).effect_of_isOk ok
  obtain ⟨⟨new, -⟩, -⟩ := Tables.insertSubscription_eq_ok_iff.mp effect
  exact fun sub there server user => new sub there (Prod.ext server user)

private theorem unsubscribed_deleteSubscription (keyed : t.Keyed)
    {sub : SubscriptionRow String String}
    (there : sub ∈ t.subscriptions) (server : sub.serverId = s.text) (user : sub.userId = u.text) :
    Unsubscribed (t.removeSubscriptions (·.id = sub.id)) s u := by
  intro other kept server' user'
  obtain ⟨there', other_id⟩ := List.mem_filter.mp kept
  have same := subscription_unique keyed there there' (server'.trans server.symm)
    (user'.trans user.symm)
  rw [same] at other_id
  simp at other_id

private theorem unsubscribed_deleteUser (sound : t.Sound) (s u : Uuid) :
    Unsubscribed (t.removeUsers (·.id = u.text)) s u := by
  rintro sub there - user
  obtain ⟨row, stored, named⟩ :=
    (sound.linked.removeUsers (·.id = u.text)).subscriptionUsers sub there
  rw [Tables.removeUsers_users] at stored
  have other := (List.mem_filter.mp stored).2
  simp [named, user] at other

namespace Tables

/-- A row with other masks, if it is that of the role. -/
def remaskedRow (id : String) (server channel sub : Cell) (r : RoleRow String Cell) :
    RoleRow String Cell :=
  if r.id = id then { r with serverMask := server, channelMask := channel, subMask := sub } else r

/-- The tables with other masks in the row of a role. -/
def remasked (id : String) (server channel sub : Cell) (t : StoredTables) : StoredTables :=
  { t with roles := t.roles.map (remaskedRow id server channel sub) }

private theorem remaskedRow_id (id : String) (server channel sub : Cell) (r : RoleRow String Cell) :
    (remaskedRow id server channel sub r).id = r.id := by
  unfold remaskedRow
  split <;> rfl

/-- What is left of the tables without a role does not depend on its masks. -/
theorem removeRoles_remasked (id : String) (server channel sub : Cell) :
    (t.remasked id server channel sub).removeRoles (·.id = id) = t.removeRoles (·.id = id) := by
  have gone (x : String) :
      ((t.remasked id server channel sub).roles.any fun r => decide (r.id = id) && r.id = x) =
        t.roles.any fun r => decide (r.id = id) && r.id = x := by
    simp only [remasked, List.any_map, Function.comp_def, remaskedRow_id]
  have kept : ((t.remasked id server channel sub).roles.filter fun r => !decide (r.id = id)) =
      t.roles.filter fun r => !decide (r.id = id) := by
    simp only [remasked, List.filter_map, Function.comp_def, remaskedRow_id]
    refine (List.map_congr_left fun r stays => ?_).trans (List.map_id _)
    have other : ¬ r.id = id := by simpa using (List.mem_filter.mp stays).2
    exact if_neg other
  simp only [removeRoles, removeAssignments, removeOverrides, gone, kept]
  rfl

private theorem flatMap_filter_of_nil {α β : Type} {rows : List α} {kept : α → Bool}
    {f : α → List β} (alone : ∀ a, kept a = false → f a = []) :
    (rows.filter kept).flatMap f = rows.flatMap f := by
  induction rows with
  | nil => rfl
  | cons a rest ih =>
    cases stays : kept a with
    | true => rw [List.filter_cons_of_pos stays, List.flatMap_cons, List.flatMap_cons, ih]
    | false =>
      rw [List.filter_cons_of_neg (by simp [stays]), List.flatMap_cons, alone a stays, ih,
        List.nil_append]

/-- To remove a role takes it from the join. The assignments that go with it joined no other. -/
private theorem rolesJoined_removeRoles (id : String) :
    (t.removeRoles (·.id = id)).rolesJoined s u =
      (t.rolesJoined s u).filter fun r => !decide (r.id = id) := by
  have joins (a : AssignmentRow String) :
      (t.roles.filter fun r => !decide (r.id = id)).filter (·.id = a.roleId) =
        (t.roles.filter (·.id = a.roleId)).filter fun r => !decide (r.id = id) :=
    List.filter_comm ..
  simp only [rolesJoined, removeRoles, removeAssignments, removeOverrides, List.filter_flatMap,
    joins]
  rw [List.filter_comm]
  refine flatMap_filter_of_nil fun a gone => List.filter_eq_nil_iff.mpr fun r found => ?_
  rw [Bool.not_eq_false'] at gone
  obtain ⟨role, -, both⟩ := List.any_eq_true.mp gone
  obtain ⟨named, assigned⟩ := Bool.and_eq_true_iff.mp both
  have other : r.id = role.id :=
    (of_decide_eq_true (List.mem_filter.mp found).2).trans (of_decide_eq_true assigned).symm
  simp [other, of_decide_eq_true named]

/-- Without a role the others are held as before. -/
theorem Sound.listRolesHeld_removeRoles (sound : t.Sound) {roles : List Role}
    (listed : t.listRolesHeld s u = .ok roles) (id : Uuid) :
    (t.removeRoles (·.id = id.text)).listRolesHeld s u = .ok (roles.filter (·.id ≠ id)) := by
  have recorded : (t.removeRoles (·.id = id.text)).Recorded :=
    (Write.sound_apply sound (.deleteRole id)).recorded
  rw [sound.recorded.listRolesHeld_eq_ok_iff] at listed
  have same : (fun r => !decide (r.id = id.text)) ∘ storeRole =
      fun role => decide (role.id ≠ id) := by
    funext role
    simp [storeRole, Uuid.text_inj]
  rw [recorded.listRolesHeld_eq_ok_iff, rolesJoined_removeRoles, listed, List.filter_map, same]

end Tables

/-- Roles give authority to members only. Without a subscription a user holds no role on a server.
With one, which is the only one, the user holds the roles that are assigned to it, each once, and
decisions see just the bits of these. When it is deleted, or the user is, no role is left, and one
who subscribes starts without. A role that is deleted is held by nobody any more, and of its masks
nothing is left that a decision could tell. -/
theorem roles_need_membership (reachable : Reachable t) (s u : Uuid) :
    (Unsubscribed t s u → Roleless t s u) ∧
    (∀ sub ∈ t.subscriptions, sub.serverId = s.text → sub.userId = u.text →
      (∀ other ∈ t.subscriptions, other.serverId = s.text → other.userId = u.text → other = sub) ∧
      (∃ roles, HeldThrough t sub s u roles) ∧
      ∀ id, id.text = sub.id → Roleless ((Write.deleteSubscription id).change.apply t).2 s u) ∧
    Roleless ((Write.deleteUser u).change.apply t).2 s u ∧
    (∀ id joined, ((Write.createSubscription ⟨id, s, u, joined⟩).change.apply t).1.isOk = true →
      Roleless ((Write.createSubscription ⟨id, s, u, joined⟩).change.apply t).2 s u) ∧
    (∀ id, ∃ roles, t.listRolesHeld s u = .ok roles ∧
      ((Write.deleteRole id).change.apply t).2.listRolesHeld s u = .ok (roles.filter (·.id ≠ id)) ∧
      ∀ server channel sub,
        ((Write.deleteRole id).change.apply (t.remasked id.text server channel sub)).2 =
          ((Write.deleteRole id).change.apply t).2) := by
  have sound := reachable.sound
  refine ⟨fun unsubscribed => unsubscribed.roleless sound,
    fun sub there server user => ⟨?one, ?held, ?left⟩, ?user, fun id joined ok => ?joining,
    fun id => ?role⟩
  case one =>
    exact fun other there' server' user' => subscription_unique sound.keyed there there'
      (server'.trans server.symm) (user'.trans user.symm)
  case held => exact heldThrough sound there server user
  case left =>
    intro id named
    have unsubscribed := unsubscribed_deleteSubscription sound.keyed there server user
    rw [← named] at unsubscribed
    exact unsubscribed.roleless (Write.sound_apply sound (.deleteSubscription id))
  case user =>
    exact (unsubscribed_deleteUser sound s u).roleless (Write.sound_apply sound (.deleteUser u))
  case joining => exact (unsubscribed_of_createSubscription sound ok).roleless_apply sound _
  case role =>
    obtain ⟨roles, held⟩ := sound.held s u
    exact ⟨roles, held.listed, sound.listRolesHeld_removeRoles held.listed id,
      Tables.removeRoles_remasked id.text⟩

namespace Sample

/-- The role of server 7. -/
def keys : Role := ⟨⟨8⟩, ⟨7⟩, "keys", ServerFlags.manageRoles.bits, 0, 0⟩

/-- User 1 holds the role of server 7 through subscription 6. -/
def entrusted : StoredTables :=
  ((Write.createAssignment ⟨⟨9⟩, ⟨7⟩, ⟨1⟩, ⟨6⟩, ⟨8⟩⟩).change.apply founded).2

end Sample

/-- The owner of a server leaves it, and loses the role. -/
theorem role_lost_with_subscription :
    (∃ roles, Sample.entrusted.listRolesHeld ⟨7⟩ ⟨1⟩ = .ok roles ∧ Sample.keys ∈ roles) ∧
      Roleless ((Write.deleteSubscription ⟨6⟩).change.apply Sample.entrusted).2 ⟨7⟩ ⟨1⟩ := by
  have reachable : Reachable Sample.entrusted := Reachable.apply ⟨_, rfl⟩ _
  have subscribed : storeSubscription ⟨⟨6⟩, ⟨7⟩, ⟨1⟩, .epoch⟩ ∈ Sample.entrusted.subscriptions := by
    decide +kernel
  obtain ⟨-, ⟨roles, held⟩, left⟩ :=
    (roles_need_membership reachable ⟨7⟩ ⟨1⟩).2.1 _ subscribed rfl rfl
  refine ⟨⟨roles, held.listed, (held.through _).mpr ?_⟩, left ⟨6⟩ rfl⟩
  decide +kernel

end Gatehouse.Store
