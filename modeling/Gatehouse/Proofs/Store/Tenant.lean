import Gatehouse.Proofs.Authority.Tenant
import Gatehouse.Proofs.Store.Coalition
import Gatehouse.Proofs.Store.Exact

/-! # Tenants do not interfere

Whatever else two stores hold, as long as they hold the same of one server, requests for the roles,
assignments, channels and overrides of that server go the same way over both: they look up the same
and come to the same status. So an object of another server is reported exactly as one that does not
exist.

What the stores hold of the server is compared row by row, in any order. The order only shows where
roles are listed, and no decision sees it.
-/

namespace Gatehouse.Store

/-- The tables hold the same of the server: its row and all rows that live in it. -/
structure Tables.AgreeOn {ι τ μ β : Type} (s : ι) (t t' : Tables ι τ μ β) : Prop where
  servers : ∀ r, r.id = s → (r ∈ t.servers ↔ r ∈ t'.servers)
  subscriptions : ∀ r, r.serverId = s → (r ∈ t.subscriptions ↔ r ∈ t'.subscriptions)
  roles : ∀ r, r.serverId = s → (r ∈ t.roles ↔ r ∈ t'.roles)
  assignments : ∀ r, r.serverId = s → (r ∈ t.assignments ↔ r ∈ t'.assignments)
  grants : ∀ r, r.serverId = s → (r ∈ t.grants ↔ r ∈ t'.grants)
  channels : ∀ r, r.serverId = s → (r ∈ t.channels ↔ r ∈ t'.channels)
  overrides : ∀ r, r.serverId = s → (r ∈ t.overrides ↔ r ∈ t'.overrides)

section OneRow

variable {α β : Type} {read : α → Except DatabaseFault β} {rows rows' : List α} {p : α → Bool}

/-- No two rows fit if those that do have the same key. -/
theorem unique_of_key {κ : Type} {key : α → κ} {k : κ} (distinct : (rows.map key).Nodup)
    (fits : ∀ r, p r = true → key r = k) :
    ∀ a ∈ rows, ∀ b ∈ rows, p a = true → p b = true → a = b :=
  fun a first b second hit hit' =>
    Tables.eq_of_key distinct first second ((fits a hit).trans (fits b hit').symm)

/-- What is found in one table is found in the other if the row that it is read from is there. -/
theorem lookedUp_of_shared {κ : Type} {key : α → κ} {k : κ} (distinct : (rows.map key).Nodup)
    (distinct' : (rows'.map key).Nodup) (fits : ∀ r, p r = true → key r = k) {record : β}
    (shared : ∀ r ∈ rows, p r = true → read r = .ok record → r ∈ rows')
    (found : lookedUp (readFound read (rows.find? p)) = .ok record) :
    lookedUp (readFound read (rows'.find? p)) = .ok record := by
  obtain ⟨r, stored, hit, known⟩ :=
    (lookedUp_readFound_eq_ok_iff (unique_of_key distinct fits)).mp found
  exact (lookedUp_readFound_eq_ok_iff (unique_of_key distinct' fits)).mpr
    ⟨r, shared r stored hit known, hit, known⟩

end OneRow

namespace Tables

variable {t t' : StoredTables} {s : Uuid}

theorem AgreeOn.symm {ι τ μ β : Type} {s : ι} {t t' : Tables ι τ μ β} (agree : AgreeOn s t t') :
    AgreeOn s t' t where
  servers r inside := (agree.servers r inside).symm
  subscriptions r inside := (agree.subscriptions r inside).symm
  roles r inside := (agree.roles r inside).symm
  assignments r inside := (agree.assignments r inside).symm
  grants r inside := (agree.grants r inside).symm
  channels r inside := (agree.channels r inside).symm
  overrides r inside := (agree.overrides r inside).symm

/-- An object of the server that one store has the other has too. -/
theorem AgreeOn.stored (agree : AgreeOn s.text t t') (sound : t.Sound) (sound' : t'.Sound)
    {c : ObjectClass} {id : Uuid} {target : Target} (checked : c.scopeChecked = true)
    (inside : target.serverId = s) (stored : target.Stored t.storage c id) :
    target.Stored t'.storage c id := by
  cases target with
  | server row | subscription row | grant row =>
    obtain ⟨rfl, -⟩ := stored
    cases checked
  | role row =>
    obtain ⟨rfl, found⟩ := stored
    refine ⟨rfl, lookedUp_of_shared sound.keyed.roleIds sound'.keyed.roleIds
      (fun r hit => of_decide_eq_true hit) (fun r there _ known => ?_) found⟩
    obtain ⟨record, rfl⟩ := sound.recorded.roles r there
    cases (readRole_storeRole record).symm.trans known
    have place : (storeRole row).serverId = s.text := congrArg Uuid.text inside
    exact (agree.roles _ place).mp there
  | assignment row =>
    obtain ⟨rfl, found⟩ := stored
    refine ⟨rfl, lookedUp_of_shared sound.keyed.assignmentIds sound'.keyed.assignmentIds
      (fun r hit => of_decide_eq_true hit) (fun r there _ known => ?_) found⟩
    obtain ⟨record, rfl⟩ := sound.recorded.assignments r there
    cases (readAssignment_storeAssignment record).symm.trans known
    have place : (storeAssignment row).serverId = s.text := congrArg Uuid.text inside
    exact (agree.assignments _ place).mp there
  | channel row =>
    obtain ⟨rfl, found⟩ := stored
    refine ⟨rfl, lookedUp_of_shared sound.keyed.channelIds sound'.keyed.channelIds
      (fun r hit => of_decide_eq_true hit) (fun r there _ known => ?_) found⟩
    obtain ⟨record, rfl⟩ := sound.recorded.channels r there
    obtain ⟨created, rfl⟩ := readChannel_storeChannel known
    have place : (storeChannel { row with createdAt := created }).serverId = s.text := congrArg Uuid.text inside
    exact (agree.channels _ place).mp there
  | override row =>
    obtain ⟨rfl, found⟩ := stored
    refine ⟨rfl, lookedUp_of_shared sound.keyed.overrideIds sound'.keyed.overrideIds
      (fun r hit => of_decide_eq_true hit) (fun r there _ known => ?_) found⟩
    obtain ⟨record, rfl⟩ := sound.recorded.overrides r there
    cases (readOverride_storeOverride record).symm.trans known
    have place : (storeOverride row).serverId = s.text := congrArg Uuid.text inside
    exact (agree.overrides _ place).mp there

theorem AgreeOn.server (agree : AgreeOn s.text t t') (sound : t.Sound) (sound' : t'.Sound)
    {row : Server} (found : t.storage (.server s) = .ok row) : t'.storage (.server s) = .ok row := by
  refine lookedUp_of_shared sound.keyed.serverIds sound'.keyed.serverIds
    (fun r hit => of_decide_eq_true hit) (fun r there hit _ => ?_) found
  exact (agree.servers r (of_decide_eq_true hit)).mp there

/-- Of the two ids that a row must fit, the first is that of its server. -/
theorem pair_of_fits {a b : String} {serverId userId : Uuid}
    (hit : (decide (a = serverId.text) && decide (b = userId.text)) = true) :
    (a, b) = (serverId.text, userId.text) := by
  obtain ⟨inside, same⟩ := Bool.and_eq_true_iff.mp hit
  rw [of_decide_eq_true inside, of_decide_eq_true same]

theorem AgreeOn.membership (agree : AgreeOn s.text t t') (sound : t.Sound) (sound' : t'.Sound)
    {user : Uuid} {row : Subscription} (found : t.storage (.membership s user) = .ok row) :
    t'.storage (.membership s user) = .ok row := by
  refine lookedUp_of_shared sound.keyed.subscriptionPairs sound'.keyed.subscriptionPairs
    (fun r hit => pair_of_fits hit) (fun r there hit _ => ?_) found
  exact (agree.subscriptions r (Prod.mk.inj (pair_of_fits hit)).1).mp there

theorem AgreeOn.grantFor (agree : AgreeOn s.text t t') (sound : t.Sound) (sound' : t'.Sound)
    {user : Uuid} {row : Grant} (found : t.storage (.grantFor s user) = .ok row) :
    t'.storage (.grantFor s user) = .ok row := by
  refine lookedUp_of_shared sound.keyed.grantPairs sound'.keyed.grantPairs
    (fun r hit => pair_of_fits hit) (fun r there hit _ => ?_) found
  exact (agree.grants r (Prod.mk.inj (pair_of_fits hit)).1).mp there

/-- The roles that are joined to the assignments of a user on the server are the same rows. -/
theorem AgreeOn.rolesJoined (agree : AgreeOn s.text t t') (sound : t.Sound) (sound' : t'.Sound)
    (user : Uuid) : (t.rolesJoined s user).Perm (t'.rolesJoined s user) := by
  have assigned : (t.assignments.filter fun a => a.serverId = s.text && a.userId = user.text).Perm
      (t'.assignments.filter fun a => a.serverId = s.text && a.userId = user.text) := by
    refine (List.perm_ext_iff_of_nodup ((nodup_of_key sound.keyed.assignmentIds).filter _)
      ((nodup_of_key sound'.keyed.assignmentIds).filter _)).mpr fun a => ?_
    rw [List.mem_filter, List.mem_filter]
    refine and_congr_left fun hit => ?_
    exact agree.assignments a (Prod.mk.inj (pair_of_fits hit)).1
  have joined : ∀ a ∈ t.assignments.filter (fun a => a.serverId = s.text && a.userId = user.text),
      (t.roles.filter fun r => r.id = a.roleId) = t'.roles.filter fun r => r.id = a.roleId := by
    intro a stored
    obtain ⟨stored, hit⟩ := List.mem_filter.mp stored
    obtain ⟨role, there, named, inside⟩ := sound.linked.assignmentRoles a stored
    have there' := (agree.roles role (inside.trans (Prod.mk.inj (pair_of_fits hit)).1)).mp there
    rw [← named, filter_id_eq_singleton sound.keyed.roleIds there,
      filter_id_eq_singleton sound'.keyed.roleIds there']
  unfold Tables.rolesJoined
  rw [List.flatMap_def, List.map_congr_left joined, ← List.flatMap_def]
  exact assigned.flatMap_right _

/-- The stores list the same roles, perhaps in another order. -/
theorem AgreeOn.rolesHeld (agree : AgreeOn s.text t t') (sound : t.Sound) (sound' : t'.Sound)
    (user : Uuid) : Lookup.Agree (.rolesHeld s user) (t.storage (.rolesHeld s user))
      (t'.storage (.rolesHeld s user)) := by
  simp only [storage, listRolesHeld_eq sound.recorded, listRolesHeld_eq sound'.recorded, lookedUp]
  exact (agree.rolesJoined sound sound' user).filterMap _

/-- The stores agree on the server as storages. -/
theorem AgreeOn.storage (agree : AgreeOn s.text t t') (sound : t.Sound) (sound' : t'.Sound)
    (legible : t.Legible) (legible' : t'.Legible) : Storage.AgreeOn s t.storage t'.storage where
  reliable := legible.reliable sound.recorded
  reliable' := legible'.reliable sound'.recorded
  named row found := (getServer_eq_ok sound.recorded (lookedUp_eq_ok_iff.mp found)).1
  objects c id target checked inside :=
    ⟨agree.stored sound sound' checked inside, agree.symm.stored sound' sound checked inside⟩
  supports caller q supports := by
    have reliable := legible.reliable sound.recorded q
    have reliable' := legible'.reliable sound'.recorded q
    cases q with
    | server id =>
      obtain rfl : id = s := supports
      exact reply_ext reliable reliable' fun row =>
        ⟨agree.server sound sound', agree.symm.server sound' sound⟩
    | membership id user =>
      obtain ⟨rfl, -⟩ := supports
      exact reply_ext reliable reliable' fun row =>
        ⟨agree.membership sound sound', agree.symm.membership sound' sound⟩
    | grantFor id user =>
      obtain ⟨rfl, -⟩ := supports
      exact reply_ext reliable reliable' fun row =>
        ⟨agree.grantFor sound sound', agree.symm.grantFor sound' sound⟩
    | rolesHeld id user =>
      obtain ⟨rfl, -⟩ := supports
      exact agree.rolesHeld sound sound' user
    | _ => exact supports.elim

/-- Whoever has the same slice of a server agrees on it. -/
theorem AgreeOn.of_slice (same : t.slice s.text (fun _ => true) = t'.slice s.text fun _ => true) :
    AgreeOn s.text t t' := by
  have rows {α : Type} {rows rows' : List α} {place : α → String}
      (filtered : (rows.filter fun r => place r = s.text) = rows'.filter fun r => place r = s.text)
      (r : α) (inside : place r = s.text) : r ∈ rows ↔ r ∈ rows' := by
    have member := congrArg (r ∈ ·) filtered
    simpa [List.mem_filter, inside] using member
  have servers := congrArg Tables.servers same
  have subscriptions := congrArg Tables.subscriptions same
  simp only [slice, Bool.and_true] at servers subscriptions
  exact {
    servers := rows servers
    subscriptions := rows subscriptions
    roles := rows (congrArg Tables.roles same)
    assignments := rows (congrArg Tables.assignments same)
    grants := rows (congrArg Tables.grants same)
    channels := rows (congrArg Tables.channels same)
    overrides := rows (congrArg Tables.overrides same) }

end Tables

/-- The scope names the server, or a channel that is stored in it. -/
def ScopedTo (t : StoredTables) (s : Uuid) : Scope → Prop
  | .unscoped => False
  | .server id => id = s
  | .channel id => ∃ r ∈ t.channels, r.id = id.text ∧ r.serverId = s.text

theorem ScopedTo.within {t : StoredTables} {s : Uuid} {scope : Scope} (placed : ScopedTo t s scope)
    (sound : t.Sound) (legible : t.Legible) : scope.Within t.storage s := by
  cases scope with
  | unscoped => exact placed
  | server id => exact placed
  | channel id =>
    obtain ⟨r, stored, named, inside⟩ := placed
    obtain ⟨record, rfl⟩ := sound.recorded.channels r stored
    obtain ⟨row, known⟩ := legible.readChannel sound.recorded _ stored
    obtain ⟨created, rfl⟩ := readChannel_storeChannel known
    refine ⟨row, ?_, Uuid.text_inj.mp inside⟩
    exact (lookedUp_readFound_eq_ok_iff (unique_of_key sound.keyed.channelIds
      fun r hit => of_decide_eq_true hit)).mpr ⟨_, stored, decide_eq_true named, known⟩

/-- Stores that hold the same of one server cannot be told apart by requests for its roles,
assignments, channels and overrides, whatever the caller, the ids and the conditions are: they report
the same after the same lookups, at the same time. -/
theorem tenants_do_not_interfere {t t' : StoredTables} (reachable : Reachable t)
    (reachable' : Reachable t') (legible : t.Legible) (legible' : t'.Legible) {s : Uuid}
    (agree : Tables.AgreeOn s.text t t') {request : Request}
    (tenant : request.objectClass ∈ [.role, .assignment, .channel, .override]) {scope : Scope}
    (placed : ScopedTo t s scope) (now : Time) (claims : Option Claims) (c : Conditions)
    (p : Progress) :
    ((c.withStorage t.storage).run (authorize now claims scope request) p).1.report =
        ((c.withStorage t'.storage).run (authorize now claims scope request) p).1.report ∧
      ((c.withStorage t.storage).run (authorize now claims scope request) p).2 =
        ((c.withStorage t'.storage).run (authorize now claims scope request) p).2 := by
  have sound := reachable.sound
  have sound' := reachable'.sound
  have checked : request.objectClass.scopeChecked = true := by
    simp only [List.mem_cons, List.not_mem_nil, or_false] at tenant
    rcases tenant with isClass | isClass | isClass | isClass <;> rw [isClass] <;> rfl
  have twin := (agree.storage sound sound' legible legible').authorize
    (placed.within sound legible) checked now claims
  have fates := Conditions.guarded_alike (Q := Storage.Told t.storage t'.storage)
    (fun q => .inl ⟨rfl, rfl⟩) (fun q failure => .inr ⟨failure, rfl, rfl⟩) c
  obtain ⟨ends, progress⟩ := Conditions.run_alike fates Refusal.SameStatus.refl twin p
  exact ⟨Ending.report_eq_of_alike ends, progress⟩

namespace Sample

/-- Server 7 as it was founded, and server 5 of user 2 with role 9. -/
def neighboured : StoredTables :=
  Write.runAll
    [.createUser ⟨⟨1⟩, "owner", .epoch⟩, .createUser ⟨⟨2⟩, "guest", .epoch⟩,
      .createServer ⟨⟨7⟩, "house", ⟨1⟩, .epoch⟩ ⟨6⟩ .epoch,
      .createServer ⟨⟨5⟩, "hut", ⟨2⟩, .epoch⟩ ⟨4⟩ .epoch,
      .createRole ⟨⟨9⟩, ⟨5⟩, "all", 7, 0, 0⟩,
      .createRole ⟨⟨8⟩, ⟨7⟩, "keys", ServerFlags.manageRoles.bits, 0, 0⟩]
    Tables.empty

/-- To delete role 9. -/
def removal : Request := ⟨.role, some "00000000-0000-0000-0000-000000000009", "delete", none⟩

/-- The owner of server 7 asks for it there. -/
def intrusion (t : StoredTables) : Ending Unit × Progress :=
  ((Conditions.calm poisoned latency).withStorage t.storage).run
    (authorize .epoch (some (Gatehouse.Sample.claimsOf ⟨1⟩)) (.server ⟨7⟩) removal)
    ⟨.epoch, false, []⟩

private theorem legible_founded : founded.Legible := by
  constructor <;> decide +kernel

private theorem legible_neighboured : neighboured.Legible := by
  constructor <;> decide +kernel

private theorem agree_founded : Tables.AgreeOn (Uuid.text ⟨7⟩) neighboured founded :=
  Tables.AgreeOn.of_slice (by decide +kernel)

end Sample

/-- A role of another server is as good as none. -/
theorem foreign_role_not_found :
    (Sample.intrusion Sample.founded).1.report = .refused ⟨.notFound, "resource not found"⟩ ∧
      (Sample.intrusion Sample.neighboured).1.report =
        (Sample.intrusion Sample.founded).1.report ∧
      (Sample.intrusion Sample.neighboured).2 = (Sample.intrusion Sample.founded).2 := by
  have tenant : Sample.removal.objectClass ∈ [.role, .assignment, .channel, .override] := by decide
  have placed : ScopedTo Sample.neighboured ⟨7⟩ (.server ⟨7⟩) := rfl
  refine ⟨by decide +kernel, ?_⟩
  exact tenants_do_not_interfere ⟨_, rfl⟩ ⟨_, rfl⟩ Sample.legible_neighboured
    Sample.legible_founded Sample.agree_founded tenant placed .epoch
    (some (Gatehouse.Sample.claimsOf ⟨1⟩)) (Conditions.calm poisoned latency) ⟨.epoch, false, []⟩

end Gatehouse.Store
