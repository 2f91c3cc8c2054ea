import Gatehouse.Proofs.Authority.Absence
import Gatehouse.Proofs.Store.Tenant

/-! # What a server leaves

When a server is deleted, or its owner is, nothing that lived in it stays. So a decision that comes
to look for the server, for one of its channels or for an object of it is refused as not found.
-/

namespace Gatehouse.Store

variable {t t' : StoredTables} {s id : Uuid} {c : ObjectClass} {write : Write}

/-- The stored objects of a class by their ids, with the servers that they live in. -/
def Tables.places (t : StoredTables) : ObjectClass → List (String × String)
  | .server => t.servers.map fun r => (r.id, r.id)
  | .subscription => t.subscriptions.map fun r => (r.id, r.serverId)
  | .role => t.roles.map fun r => (r.id, r.serverId)
  | .assignment => t.assignments.map fun r => (r.id, r.serverId)
  | .channel => t.channels.map fun r => (r.id, r.serverId)
  | .override => t.overrides.map fun r => (r.id, r.serverId)
  | .grant => t.grants.map fun r => (r.id, r.serverId)

namespace Tables

theorem Part.places (part : Part t' t) (c : ObjectClass) : (t'.places c).Sublist (t.places c) := by
  cases c with
  | server => exact part.servers.map _
  | subscription => exact part.subscriptions.map _
  | role => exact part.roles.map _
  | assignment => exact part.assignments.map _
  | channel => exact part.channels.map _
  | override => exact part.overrides.map _
  | grant => exact part.grants.map _

/-- No two objects of a class share an id. -/
theorem Keyed.places (keyed : t.Keyed) (c : ObjectClass) : ((t.places c).map Prod.fst).Nodup := by
  cases c <;> simp only [Tables.places, List.map_map, Function.comp_def]
  case server => exact keyed.serverIds
  case subscription => exact keyed.subscriptionIds
  case role => exact keyed.roleIds
  case assignment => exact keyed.assignmentIds
  case channel => exact keyed.channelIds
  case override => exact keyed.overrideIds
  case grant => exact keyed.grantIds

/-- The server that an object lives in is stored. -/
theorem Consistent.places (consistent : t.Consistent) (c : ObjectClass) :
    ∀ place ∈ t.places c, ∃ server ∈ t.servers, server.id = place.2 := by
  have housed {α : Type} {rows : List α} {key home : α → String}
      (homes : ∀ r ∈ rows, ∃ server ∈ t.servers, server.id = home r) :
      ∀ place ∈ rows.map fun r => (key r, home r), ∃ server ∈ t.servers, server.id = place.2 :=
    List.forall_mem_map.mpr homes
  cases c with
  | server => exact housed fun r stored => ⟨r, stored, rfl⟩
  | subscription => exact housed consistent.subscriptionServers
  | role => exact housed consistent.roleServers
  | assignment => exact housed consistent.assignmentServers
  | channel => exact housed consistent.channelServers
  | override => exact housed consistent.overrideServers
  | grant => exact housed consistent.grantServers

/-- A lookup for an id that no object of the class has finds nothing. -/
theorem lacks_of_no_place (missing : ∀ place ∈ t.places c, place.1 ≠ id.text) :
    t.storage.Lacks c id := by
  have unfound {α β : Type} {rows : List α} {key home : α → String}
      {read : α → Except DatabaseFault β}
      (missing : ∀ place ∈ rows.map fun r => (key r, home r), place.1 ≠ id.text) :
      lookedUp (readFound read (rows.find? fun r => key r = id.text)) = .error .noRows := by
    have none_fits : ∀ r ∈ rows, ¬ decide (key r = id.text) = true :=
      fun r stored named => missing _ (List.mem_map_of_mem stored) (of_decide_eq_true named)
    rw [readFound_eq_notFound_iff.mpr none_fits]
    rfl
  cases c <;> exact unfound missing

end Tables

/-- The write deletes the server, or its owner. -/
def Write.Ends (t : StoredTables) (s : Uuid) : Write → Prop
  | .deleteServer id => id = s
  | .deleteUser id => ∃ server ∈ t.servers, server.id = s.text ∧ server.ownerId = id.text
  | _ => False

/-- No object of the class outside the server has this id. -/
def Departing (t : StoredTables) (s : Uuid) (c : ObjectClass) (id : Uuid) : Prop :=
  ∀ place ∈ t.places c, place.1 = id.text → place.2 = s.text

instance (t : StoredTables) (s : Uuid) (c : ObjectClass) (id : Uuid) :
    Decidable (Departing t s c id) :=
  inferInstanceAs (Decidable (∀ place ∈ _, _ → _))

private theorem departing_of_place (keyed : t.Keyed) (lives : (id.text, s.text) ∈ t.places c) :
    Departing t s c id := by
  intro place stored named
  rw [Tables.eq_of_key (keyed.places c) stored lives named]

namespace Write.Ends

theorem part (ends : write.Ends t s) : Tables.Part (write.change.apply t).2 t := by
  cases write with
  | deleteServer id => exact Tables.removeServers_part _
  | deleteUser id => exact Tables.removeUsers_part _
  | _ => exact ends.elim

/-- The server is gone. -/
theorem gone (ends : write.Ends t s) (sound : t.Sound) :
    ∀ r ∈ (write.change.apply t).2.servers, r.id ≠ s.text := by
  intro r left named
  have before := ends.part.servers.subset left
  cases write with
  | deleteServer id =>
    obtain rfl : id = s := ends
    change r ∈ (t.removeServers _).servers at left
    rw [Tables.removeServers_servers] at left
    simp [named] at left
  | deleteUser id =>
    obtain ⟨server, stored, inside, owned⟩ := ends
    -- the server would be left without its owner
    have same := Tables.eq_of_key sound.keyed.serverIds before stored (named.trans inside.symm)
    obtain ⟨owner, there, owns⟩ :=
      (Write.sound_apply sound (.deleteUser id)).linked.owners r left
    change owner ∈ (t.removeUsers _).users at there
    rw [Tables.removeUsers_users] at there
    simp [owns, same, owned] at there
  | _ => exact ends.elim

/-- So are the objects of the server. -/
theorem lacks (ends : write.Ends t s) (sound : t.Sound) (departing : Departing t s c id) :
    (write.change.apply t).2.storage.Lacks c id := by
  have after := Write.sound_apply sound write
  refine Tables.lacks_of_no_place fun place left named => ?_
  have inside := departing place ((ends.part.places c).subset left) named
  obtain ⟨server, there, home⟩ :=
    (Tables.Consistent.of_linked after.keyed after.linked).places c place left
  exact ends.gone sound server there (home.trans inside)

/-- So is what scopes name in it. -/
theorem lost (ends : write.Ends t s) (sound : t.Sound) {scope : Scope}
    (placed : ScopedTo t s scope) : scope.Lost (write.change.apply t).2.storage := by
  cases scope with
  | unscoped => exact placed
  | server id =>
    obtain rfl : id = s := placed
    refine ends.lacks sound fun place stored named => ?_
    obtain ⟨r, -, rfl⟩ := List.mem_map.mp stored
    exact named
  | channel id =>
    obtain ⟨r, stored, named, inside⟩ := placed
    refine ends.lacks sound (departing_of_place sound.keyed ?_)
    exact List.mem_map.mpr ⟨r, stored, by rw [named, inside]⟩

end Write.Ends

/-- A deleted server is gone for every decision. Once it is deleted, or its owner is, a request that
passes all that is checked beforehand is refused as not found if its scope counts and names the
server or a channel that was in it, and also if its scope is found, its target counts and no object
of the class outside the server had the id. -/
theorem deleted_server_not_found (reachable : Reachable t) (ends : write.Ends t s)
    {request : Request} {now : Time} {claims : Claims} {entry : PolicyEntry}
    {targetId : Option Uuid}
    (passes : request.Passes now claims entry targetId) (scope : Scope) (latency : Option Nat)
    (about : entry.scope ≠ .ignored ∧ ScopedTo t s scope ∨
      (∃ resolved, (entry.scope.select scope).run (write.change.apply t).2.storage = .ok resolved) ∧
        ∃ id, targetId = some id ∧ Departing t s request.objectClass id) :
    ∃ origin, verdict (write.change.apply t).2.storage latency now (some claims) scope request =
      .refused (.notFound origin) := by
  refine verdict_of_misses (passes.misses ?_) latency
  rcases about with ⟨used, placed⟩ | ⟨⟨resolved, found⟩, id, rfl, departing⟩
  · exact .inl ((ends.lost reachable.sound placed).select used)
  · exact .inr ⟨resolved, found, loadTarget_misses (ends.lacks reachable.sound departing) resolved⟩

namespace Sample

open Gatehouse.Sample (claimsOf deletion deletion_asks)

/-- What the former owner of server 7 is told in the end about its role, with this scope. -/
def afterwards (scope : Scope) : Ending Unit :=
  verdict ((Write.deleteServer ⟨7⟩).change.apply founded).2.storage latency .epoch
    (some (claimsOf ⟨1⟩)) scope deletion

private theorem deletion_passes :
    deletion.Passes .epoch (claimsOf ⟨1⟩) ⟨.required, .ifPresent, Policy.roleManagers⟩
      (some ⟨8⟩) where
  identified := ⟨⟨1⟩, by decide, by decide +kernel⟩
  asks := ⟨.delete, some ⟨8⟩, deletion_asks, rfl, rfl⟩

private theorem role_departs : Departing founded ⟨7⟩ .role ⟨8⟩ := by decide +kernel

end Sample

/-- The former owner finds neither the server nor its role. -/
theorem former_owner_finds_nothing :
    (∃ origin, Sample.afterwards (.server ⟨7⟩) = .refused (.notFound origin)) ∧
      ∃ origin, Sample.afterwards .unscoped = .refused (.notFound origin) := by
  have ends : (Write.deleteServer ⟨7⟩).Ends Sample.founded ⟨7⟩ := rfl
  have used : (ScopeUse.ifPresent) ≠ .ignored := by decide
  exact ⟨deleted_server_not_found ⟨_, rfl⟩ ends Sample.deletion_passes (.server ⟨7⟩) latency
      (.inl ⟨used, rfl⟩),
    deleted_server_not_found ⟨_, rfl⟩ ends Sample.deletion_passes .unscoped latency
      (.inr ⟨⟨none, rfl⟩, ⟨8⟩, rfl, Sample.role_departs⟩)⟩

namespace Sample

open Gatehouse.Sample (claimsOf)

/-- The servers of two users, the one with a role and the other with a channel of the same id. -/
def twins : StoredTables :=
  ((Write.createChannel ⟨⟨8⟩, ⟨5⟩, "lobby", false, .epoch⟩).change.apply neighboured).2

/-- What a user is told when the server with the role is deleted. -/
def bereft (caller : Uuid) (scope : Scope) (request : Request) : Ending Unit :=
  verdict ((Write.deleteServer ⟨7⟩).change.apply twins).2.storage latency .epoch
    (some (claimsOf caller)) scope request

end Sample

/-- That something is not found is not all that is said about a deleted server: a request that sends
no object id where one is needed is denied before its scope is looked at, an id that cannot be read
is reported as such, and an id that something else in another server has too is found there. -/
theorem deleted_server_refusals_differ :
    Reachable Sample.twins ∧
      (Uuid.text ⟨8⟩, Uuid.text ⟨7⟩) ∈ Sample.twins.places .role ∧
      Sample.bereft ⟨1⟩ (.server ⟨7⟩) ⟨.role, none, "delete", none⟩ =
        .refused (.denied "dispatch.missing_target") ∧
      Sample.bereft ⟨1⟩ (.server ⟨7⟩) ⟨.role, some "8", "delete", none⟩ =
        .refused (.invalidUuid "resolve.object_id") ∧
      Sample.bereft ⟨2⟩ .unscoped ⟨.channel, some (Uuid.text ⟨8⟩), "delete", none⟩ =
        .decided () := by
  refine ⟨Reachable.apply ⟨_, rfl⟩ _, ?_, ?_, ?_, ?_⟩ <;> decide +kernel

end Gatehouse.Store
