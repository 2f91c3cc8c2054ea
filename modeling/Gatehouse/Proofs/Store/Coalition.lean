import Gatehouse.Proofs.Store.Run
import Gatehouse.Proofs.Store.Slice
import Gatehouse.Proofs.Store.Unprivileged

/-! # No escalation

Users who have no standing on a server cannot get anything of it changed, however they work together
and whatever they own elsewhere: only their own subscriptions come and go. Each of their writes is
allowed by a decision over the tables as they are at that moment.

One such write leaves the slice of the server as it was: the tables of authority put the object
that is written into another server, and what a write does stays within the server of its object.
That the users have no standing can be read off the slice, so they have none after the write either,
and so on for a whole run.
-/

namespace Gatehouse

/-- The request is to create an object of the class. -/
def Request.Creates (request : Request) (c : ObjectClass) : Prop :=
  request.objectClass = c ∧ Operation.ofWords? request.action request.subAction = some .create

/-- The request is to delete the object of the class that has the id. -/
def Request.Deletes (request : Request) (c : ObjectClass) (id : Uuid) : Prop :=
  request.objectClass = c ∧ request.Asks .delete (some id)

namespace Store

/-- The request is the one that the actor makes for the write, with the server of the new row as its
scope. The server that one creates is one's own, and so is the subscription. For users there are no
requests. -/
def Write.AskedBy (actor : Uuid) (scope : Scope) (request : Request) : Write → Prop
  | .createUser _ | .deleteUser _ => False
  | .createServer row _ _ => request.Creates .server ∧ row.ownerId = actor
  | .createSubscription row =>
    request.Creates .subscription ∧ scope = .server row.serverId ∧ row.userId = actor
  | .createRole row => request.Creates .role ∧ scope = .server row.serverId
  | .createAssignment row => request.Creates .assignment ∧ scope = .server row.serverId
  | .createGrant row => request.Creates .grant ∧ scope = .server row.serverId
  | .createChannel row => request.Creates .channel ∧ scope = .server row.serverId
  | .createOverride row => request.Creates .override ∧ scope = .server row.serverId
  | .deleteServer id => request.Deletes .server id
  | .deleteSubscription id => request.Deletes .subscription id
  | .deleteRole id => request.Deletes .role id
  | .deleteAssignment id => request.Deletes .assignment id
  | .deleteGrant id => request.Deletes .grant id
  | .deleteChannel id => request.Deletes .channel id
  | .deleteOverride id => request.Deletes .override id

/-- A write with the request that is made for it. -/
structure Deed where
  actor : Uuid
  now : Time
  claims : Claims
  scope : Scope
  request : Request
  write : Write

/-- The actor is who the claims say, and the decision over the tables as they are allows the request
for the write. -/
structure Deed.Allowed (t : StoredTables) (deed : Deed) : Prop where
  identified : deed.claims.Identify deed.now deed.actor
  asked : deed.write.AskedBy deed.actor deed.scope deed.request
  allowed : verdict t.storage latency deed.now (some deed.claims) deed.scope deed.request =
    .decided ()

/-- Each deed is done by a member and is allowed when its turn comes. -/
def AllAllowed (members : Uuid → Prop) : StoredTables → List Deed → Prop
  | _, [] => True
  | t, deed :: rest => members deed.actor ∧ deed.Allowed t ∧
      AllAllowed members (deed.write.change.apply t).2 rest

variable {t t' : StoredTables} {s : Uuid}

namespace Deed.Allowed

variable {deed : Deed} {c : ObjectClass}

private theorem mayCreate (allowed : deed.Allowed t) (creates : deed.request.Creates c) :
    t.storage.MayCreate deed.actor deed.scope c := by
  obtain ⟨rfl, words⟩ := creates
  have decided := verdict_eq_decided_iff.mp allowed.allowed
  obtain ⟨objectId, read⟩ := readObjectId_of_authorize decided
  exact may_of_authorize allowed.identified ⟨words, read⟩ decided

private theorem mayDelete (allowed : deed.Allowed t) {id : Uuid}
    (deletes : deed.request.Deletes c id) :
    t.storage.MayDelete deed.actor deed.scope id c := by
  obtain ⟨rfl, asks⟩ := deletes
  have decided := verdict_eq_decided_iff.mp allowed.allowed
  obtain ⟨id, same, may⟩ := may_of_authorize allowed.identified asks decided
  cases same
  exact may

end Deed.Allowed

/-- Whether a stored user id is not that of a member. -/
def outside (members : Uuid → Prop) [DecidablePred members] (name : String) : Bool :=
  (Uuid.ofText? name).all fun user => !decide (members user)

variable {members : Uuid → Prop} [DecidablePred members] {deed : Deed}

private theorem outside_text_of_member {user : Uuid} (member : members user) :
    outside members user.text = false := by
  simp [outside, member]

/-- The scope of a creation names the server of the new row. -/
theorem id_eq_of_names (recorded : t.Recorded) {scope : Scope} {id : Uuid} {server : Server}
    (same : scope = .server id) (names : scope.Names t.storage server) : server.id = id := by
  subst same
  exact (Tables.getServer_eq_ok recorded (lookedUp_eq_ok_iff.mp names)).1

/-- There is one row with an id, so if the row that was found is elsewhere, all of them are. -/
theorem elsewhere_of_found {α : Type} {rows : List α} {key server : α → String} {id : Uuid}
    {row : α} (distinct : (rows.map key).Nodup) (stored : row ∈ rows) (named : key row = id.text)
    (away : server row ≠ s.text) : ∀ r ∈ rows, key r = id.text → server r ≠ s.text := by
  intro r there hit
  have same : r = row := Tables.eq_of_key distinct there stored (hit.trans named.symm)
  rw [same]
  exact away

private theorem elsewhere_deleteSubscription (sound : t.Sound)
    (unprivileged : ∀ user, members user → t.Unprivileged s user) {actor id : Uuid} {scope : Scope}
    (member : members actor) (may : t.storage.MayDelete actor scope id .subscription) :
    (Write.deleteSubscription id).Elsewhere t s.text (outside members) := by
  obtain ⟨row, found, may⟩ := may
  obtain ⟨named, created, stored⟩ :=
    Tables.getSubscription_eq_ok sound.recorded (lookedUp_eq_ok_iff.mp found)
  intro r there hit
  obtain rfl := Tables.eq_of_key sound.keyed.subscriptionIds there stored
    (hit.trans (congrArg Uuid.text named).symm)
  by_cases inside : row.serverId = s
  · right
    subst inside
    have own : row.userId = actor := (unprivileged actor member).own_of_mayEnd sound.recorded may
    subst own
    exact ⟨outside_text_of_member member, (unprivileged _ member).assignments⟩
  · left
    intro same
    exact inside (Uuid.text_inj.mp same)

/-- The object of what a member is allowed to write is not in the server. -/
theorem Deed.Allowed.elsewhere (sound : t.Sound) (exist : t.hasServer s.text = true)
    (unprivileged : ∀ user, members user → t.Unprivileged s user) (member : members deed.actor)
    (allowed : deed.Allowed t) (effect : deed.write.Effect t t') :
    deed.write.Elsewhere t s.text (outside members) := by
  have recorded : t.Recorded := sound.recorded
  have keyed : t.Keyed := sound.keyed
  have asked := allowed.asked
  have stranger : t.Unprivileged s deed.actor := unprivileged deed.actor member
  cases kind : deed.write with
  | createUser row | deleteUser id =>
    rw [kind] at asked
    exact asked.elim
  | createServer row joining joined =>
    -- the server is there, so a new one has another id
    rw [kind] at effect
    obtain ⟨between, inserted, -⟩ := effect
    obtain ⟨⟨fresh, -⟩, -⟩ := Tables.insertServer_eq_ok_iff.mp inserted
    obtain ⟨r, stored, named⟩ := List.any_eq_true.mp exist
    intro same
    exact fresh r stored ((of_decide_eq_true named).trans same.symm)
  | createSubscription row =>
    rw [kind] at asked
    obtain ⟨-, -, own⟩ := asked
    right
    rw [own]
    exact outside_text_of_member member
  | createRole row | createAssignment row =>
    rw [kind] at asked
    obtain ⟨creates, within⟩ := asked
    obtain ⟨server, names, manages⟩ := allowed.mayCreate creates
    rw [id_eq_of_names recorded within names] at manages
    exact stranger.text_ne_of_managesRoles recorded manages
  | createGrant row =>
    rw [kind] at asked
    obtain ⟨creates, within⟩ := asked
    obtain ⟨server, names, owns⟩ := allowed.mayCreate creates
    rw [id_eq_of_names recorded within names] at owns
    exact stranger.text_ne_of_owns recorded owns
  | createChannel row =>
    rw [kind] at asked
    obtain ⟨creates, within⟩ := asked
    obtain ⟨server, names, manages⟩ := allowed.mayCreate creates
    rw [id_eq_of_names recorded within names] at manages
    exact stranger.text_ne_of_managesChannels recorded manages
  | createOverride row =>
    rw [kind] at asked
    obtain ⟨creates, within⟩ := asked
    obtain ⟨server, names, manages⟩ := allowed.mayCreate creates
    rw [id_eq_of_names recorded within names] at manages
    exact stranger.text_ne_of_managesOverrides recorded manages
  | deleteServer id =>
    rw [kind] at asked
    obtain ⟨row, found, owns⟩ := allowed.mayDelete asked
    obtain ⟨named, -⟩ := Tables.getServer_eq_ok recorded (lookedUp_eq_ok_iff.mp found)
    rw [named] at owns
    exact stranger.text_ne_of_owns recorded owns
  | deleteSubscription id =>
    rw [kind] at asked
    exact elsewhere_deleteSubscription sound unprivileged member (allowed.mayDelete asked)
  | deleteRole id =>
    rw [kind] at asked
    obtain ⟨row, found, -, manages⟩ := allowed.mayDelete asked
    obtain ⟨named, stored⟩ := Tables.getRole_eq_ok recorded (lookedUp_eq_ok_iff.mp found)
    have away : row.serverId.text ≠ s.text := stranger.text_ne_of_managesRoles recorded manages
    exact elsewhere_of_found keyed.roleIds stored (congrArg Uuid.text named) away
  | deleteAssignment id =>
    rw [kind] at asked
    obtain ⟨row, found, -, manages⟩ := allowed.mayDelete asked
    obtain ⟨named, stored⟩ := Tables.getAssignment_eq_ok recorded (lookedUp_eq_ok_iff.mp found)
    have away : row.serverId.text ≠ s.text := stranger.text_ne_of_managesRoles recorded manages
    exact elsewhere_of_found keyed.assignmentIds stored (congrArg Uuid.text named) away
  | deleteGrant id =>
    rw [kind] at asked
    obtain ⟨row, found, owns⟩ := allowed.mayDelete asked
    obtain ⟨named, stored⟩ := Tables.getGrant_eq_ok recorded (lookedUp_eq_ok_iff.mp found)
    have away : row.serverId.text ≠ s.text := stranger.text_ne_of_owns recorded owns
    exact elsewhere_of_found keyed.grantIds stored (congrArg Uuid.text named) away
  | deleteChannel id =>
    rw [kind] at asked
    obtain ⟨row, found, -, manages⟩ := allowed.mayDelete asked
    obtain ⟨named, created, stored⟩ :=
      Tables.getChannel_eq_ok recorded (lookedUp_eq_ok_iff.mp found)
    have away : row.serverId.text ≠ s.text := stranger.text_ne_of_managesChannels recorded manages
    exact elsewhere_of_found keyed.channelIds stored (congrArg Uuid.text named) away
  | deleteOverride id =>
    rw [kind] at asked
    obtain ⟨row, found, -, manages⟩ := allowed.mayDelete asked
    obtain ⟨named, stored⟩ := Tables.getOverride_eq_ok recorded (lookedUp_eq_ok_iff.mp found)
    have away : row.serverId.text ≠ s.text := stranger.text_ne_of_managesOverrides recorded manages
    exact elsewhere_of_found keyed.overrideIds stored (congrArg Uuid.text named) away

private theorem hasServer_of_slice {watched : String → Bool}
    (same : t'.slice s.text watched = t.slice s.text watched) (exist : t.hasServer s.text = true) :
    t'.hasServer s.text = true := by
  obtain ⟨r, stored, named⟩ := List.any_eq_true.mp exist
  have kept : r ∈ (t.slice s.text watched).servers := List.mem_filter.mpr ⟨stored, named⟩
  rw [← same] at kept
  exact List.any_eq_true.mpr ⟨r, (List.mem_filter.mp kept).1, named⟩

/-- Whether a user has standing on a server shows in its slice. -/
theorem Tables.Unprivileged.of_slice {user : Uuid} {watched : String → Bool}
    (same : t'.slice s.text watched = t.slice s.text watched)
    (unprivileged : t.Unprivileged s user) : t'.Unprivileged s user where
  servers r stored named := by
    have kept : r ∈ (t'.slice s.text watched).servers :=
      List.mem_filter.mpr ⟨stored, decide_eq_true named⟩
    rw [same] at kept
    exact unprivileged.servers r (List.mem_filter.mp kept).1 named
  grants r stored inside := by
    have kept : r ∈ (t'.slice s.text watched).grants :=
      List.mem_filter.mpr ⟨stored, decide_eq_true inside⟩
    rw [same] at kept
    exact unprivileged.grants r (List.mem_filter.mp kept).1 inside
  assignments r stored inside := by
    have kept : r ∈ (t'.slice s.text watched).assignments :=
      List.mem_filter.mpr ⟨stored, decide_eq_true inside⟩
    rw [same] at kept
    exact unprivileged.assignments r (List.mem_filter.mp kept).1 inside

/-- What a member is allowed to write leaves the slice of the server as it was. -/
theorem slice_apply (sound : t.Sound) (exist : t.hasServer s.text = true)
    (unprivileged : ∀ user, members user → t.Unprivileged s user) (member : members deed.actor)
    (allowed : deed.Allowed t) :
    (deed.write.change.apply t).2.slice s.text (outside members) =
      t.slice s.text (outside members) := by
  obtain unchanged | effect := Write.apply_cases sound.recorded deed.write
  · rw [unchanged]
  · exact effect.slice_eq sound.keyed sound.linked
      (allowed.elsewhere sound exist unprivileged member effect)

private theorem slice_runAll (sound : t.Sound) (exist : t.hasServer s.text = true)
    (unprivileged : ∀ user, members user → t.Unprivileged s user) {deeds : List Deed}
    (allowed : AllAllowed members t deeds) :
    (Write.runAll (deeds.map (·.write)) t).slice s.text (outside members) =
      t.slice s.text (outside members) := by
  induction deeds generalizing t with
  | nil => rfl
  | cons deed rest ih =>
    obtain ⟨member, first, later⟩ := allowed
    have same := slice_apply sound exist unprivileged member first
    have rest := ih (Write.sound_apply sound deed.write) (hasServer_of_slice same exist)
      (fun user member => (unprivileged user member).of_slice same) later
    exact rest.trans same

/-- Whatever members without standing on a server are allowed to do, one after the other, the
server, its roles, assignments, grants, channels and overrides, and the subscriptions of others to
it stay exactly as they were. -/
theorem no_escalation (reachable : Reachable t) (exist : t.hasServer s.text = true)
    (unprivileged : ∀ user, members user → t.Unprivileged s user) {deeds : List Deed}
    (allowed : AllAllowed members t deeds) :
    (Write.runAll (deeds.map (·.write)) t).slice s.text (outside members) =
      t.slice s.text (outside members) :=
  slice_runAll reachable.sound exist unprivileged allowed

namespace Sample

open Gatehouse.Sample (claimsOf holder_identified)

/-- User 1 owns server 7 with a role; user 2 has no standing there. -/
def founded : StoredTables :=
  Write.runAll
    [.createUser ⟨⟨1⟩, "owner", .epoch⟩, .createUser ⟨⟨2⟩, "guest", .epoch⟩,
      .createServer ⟨⟨7⟩, "house", ⟨1⟩, .epoch⟩ ⟨6⟩ .epoch,
      .createRole ⟨⟨8⟩, ⟨7⟩, "keys", ServerFlags.manageRoles.bits, 0, 0⟩]
    Tables.empty

/-- What user 2 does with a request to create something. -/
def creation (scope : Scope) (c : ObjectClass) (write : Write) : Deed :=
  ⟨⟨2⟩, .epoch, claimsOf ⟨2⟩, scope, ⟨c, none, "create", none⟩, write⟩

/-- User 2 founds a server with a role of all flags, and joins server 7. -/
def deeds : List Deed :=
  [creation .unscoped .server (.createServer ⟨⟨5⟩, "hut", ⟨2⟩, .epoch⟩ ⟨4⟩ .epoch),
    creation (.server ⟨5⟩) .role (.createRole ⟨⟨9⟩, ⟨5⟩, "all", 7, 0, 0⟩),
    creation (.server ⟨7⟩) .subscription (.createSubscription ⟨⟨3⟩, ⟨7⟩, ⟨2⟩, .epoch⟩)]

private theorem creation_creates (scope : Scope) (c : ObjectClass) (write : Write) :
    (creation scope c write).request.Creates c := by
  have words : Operation.ofWords? "create" none = some .create := by decide +kernel
  exact ⟨rfl, words⟩

private theorem deeds_allowed : AllAllowed (· = ⟨2⟩) founded deeds := by
  refine ⟨rfl, ?server, rfl, ?role, rfl, ?joining, trivial⟩
  case server => exact ⟨holder_identified, ⟨creation_creates .., rfl⟩, by decide +kernel⟩
  case role => exact ⟨holder_identified, ⟨creation_creates .., rfl⟩, by decide +kernel⟩
  case joining => exact ⟨holder_identified, ⟨creation_creates .., rfl, rfl⟩, by decide +kernel⟩

end Sample

/-- A guest may found a server and join another, and leaves that one as it was. -/
theorem guest_changes_nothing :
    AllAllowed (· = ⟨2⟩) Sample.founded Sample.deeds ∧
      (Write.runAll (Sample.deeds.map (·.write)) Sample.founded).slice (Uuid.text ⟨7⟩)
          (outside (· = ⟨2⟩)) =
        Sample.founded.slice (Uuid.text ⟨7⟩) (outside (· = ⟨2⟩)) := by
  refine ⟨Sample.deeds_allowed, no_escalation ⟨_, rfl⟩ ?exist ?unprivileged Sample.deeds_allowed⟩
  case exist => decide +kernel
  case unprivileged =>
    rintro user rfl
    constructor <;> decide +kernel

end Store

end Gatehouse
