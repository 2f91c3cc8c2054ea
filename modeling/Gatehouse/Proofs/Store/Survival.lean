import Gatehouse.Proofs.Store.Kind

/-! # Records survive the store

Whatever record a creation accepts, the lookup for its id returns that record right afterwards: ids,
names, masks and flags in full, and the time with its nanoseconds and leap second. Only a time outside
the years 0 to 9999 cannot be looked up: its row is there and can be deleted, but the lookup fails, and
so it never returns another time.
-/

namespace Gatehouse.Store

variable {t t' : StoredTables}

/-- The record is stored, and to look it up gives what it is read back as. It can be deleted, whether
it can be read or not, and then it is gone. -/
structure Kind.Preserved {α ρ : Type} (k : Kind α ρ) (t : StoredTables) (record : α) : Prop where
  stored : k.write record ∈ k.rows t
  found : k.get t (k.id record) = (readBack k.time? record).mapError .database
  deleted : ∃ t', (k.delete (k.id record)).change.apply t = (.ok (.deleted true), t') ∧
    k.get t' (k.id record) = .error .notFound

private theorem Kind.preserved {α ρ : Type} (k : Kind α ρ) (sound : t.Sound) {record : α}
    (stored : k.write record ∈ k.rows t) : k.Preserved t record where
  stored := stored
  found := k.get_of_stored sound stored
  deleted := by
    obtain ⟨existed, applied, hits⟩ := Write.apply_of_deletes sound (k.deletes (k.id record))
    have there := (k.hits_iff t (k.id record)).mpr ⟨_, stored, k.key_write record⟩
    rw [hits.mpr there] at applied
    exact ⟨_, applied, k.get_of_not_hits (Write.not_hits_leaves (k.deletes _))⟩

/-- What a creation that succeeded has stored is preserved. With a server this is also the subscription
of its owner: the one that is returned, and the only one of the owner on the server. A grant is a row
of its own only where the user had none on the server. -/
def Write.Survives (t t' : StoredTables) (answer : Written) : Write → Prop
  | .createUser row => Kind.users.Preserved t' row
  | .createServer row joining joined =>
    let sub : Subscription := ⟨joining, row.id, row.ownerId, joined⟩
    answer = .subscribed sub ∧ Kind.servers.Preserved t' row ∧ Kind.subscriptions.Preserved t' sub ∧
      (t'.subscriptions.filter fun r => r.serverId = row.id.text && r.userId = row.ownerId.text) =
        [storeSubscription sub] ∧
      t'.getMembership row.id row.ownerId =
        (readBack Kind.subscriptions.time? sub).mapError .database
  | .createSubscription row => Kind.subscriptions.Preserved t' row
  | .createRole row => Kind.roles.Preserved t' row
  | .createAssignment row => Kind.assignments.Preserved t' row
  | .createGrant row =>
    (∀ r ∈ t.grants, (r.serverId, r.userId) ≠ (row.serverId.text, row.userId.text)) →
      Kind.grants.Preserved t' row
  | .createChannel row => Kind.channels.Preserved t' row
  | .createOverride row => Kind.overrides.Preserved t' row
  | _ => True

/-- A new server is answered with the subscription that comes with it. -/
theorem answer_createServer {row : Server} {joining : Uuid} {joined : Time} {answer : Written}
    (made : (Write.createServer row joining joined).change.apply t = (.ok answer, t')) :
    answer = .subscribed ⟨joining, row.id, row.ownerId, joined⟩ := by
  have named : (checkName row.name).apply t = (.ok (), t) ∨
      (checkName row.name).apply t = (.error .invalidName, t) := by
    unfold checkName
    split
    · exact .inl rfl
    · exact .inr rfl
  simp only [Write.change, createServer, Change.apply_bind, Change.whole, Change.apply_ofApply] at made
  obtain named | named := named
  · simp only [named] at made
    obtain ⟨fault, failed⟩ | ⟨between, -, first⟩ :=
      apply_statement (·.insertServer (storeServer row)) t
    · simp [failed] at made
    · simp only [first] at made
      obtain ⟨fault, failed⟩ | ⟨after, -, second⟩ := apply_statement
        (·.insertSubscription (storeSubscription ⟨joining, row.id, row.ownerId, joined⟩)) between
      · simp [failed] at made
      · simp only [second, Change.apply_pure, Prod.mk.injEq, Except.ok.injEq] at made
        exact made.1.symm
  · simp [named] at made

/-- A stored subscription is the only row of its user on its server. -/
theorem filter_pair_eq_singleton (keyed : t.Keyed) {sub : Subscription}
    (stored : storeSubscription sub ∈ t.subscriptions) :
    (t.subscriptions.filter fun r =>
      r.serverId = sub.serverId.text && r.userId = sub.userId.text) = [storeSubscription sub] := by
  have single := Tables.filter_id_eq_singleton keyed.subscriptionPairs stored
  simpa only [storeSubscription, Prod.mk.injEq, Bool.decide_and] using single

private theorem getMembership_of_stored (keyed : t.Keyed) {sub : Subscription}
    (stored : storeSubscription sub ∈ t.subscriptions) :
    t.getMembership sub.serverId sub.userId =
      (readBack Kind.subscriptions.time? sub).mapError .database := by
  rw [Tables.getMembership, ← List.head?_filter, filter_pair_eq_singleton keyed stored,
    List.head?_cons, readFound, readBack_subscription]
  rfl

/-- A write that succeeds has its effect, and leaves sound tables. -/
theorem Write.effect_of_ok (sound : t.Sound) {write : Write} {answer : Written}
    (made : write.change.apply t = (.ok answer, t')) : write.Effect t t' ∧ t'.Sound := by
  have effect := (write.does sound.recorded).effect_of_isOk (by rw [made]; rfl)
  have sound' := Write.sound_apply sound write
  rw [made] at effect sound'
  exact ⟨effect, sound'⟩

private theorem createServer_survives (sound : t'.Sound) {row : Server} {joining : Uuid}
    {joined : Time} {answer : Written}
    (made : (Write.createServer row joining joined).change.apply t = (.ok answer, t'))
    (effect : (Write.createServer row joining joined).Effect t t') :
    (Write.createServer row joining joined).Survives t t' answer := by
  obtain ⟨between, inserted, subscribed⟩ := effect
  have server : storeServer row ∈ t'.servers := by
    obtain ⟨-, rfl⟩ := Tables.insertServer_eq_ok_iff.mp inserted
    obtain ⟨-, rfl⟩ := Tables.insertSubscription_eq_ok_iff.mp subscribed
    exact List.mem_concat_self
  have sub : storeSubscription ⟨joining, row.id, row.ownerId, joined⟩ ∈ t'.subscriptions := by
    obtain ⟨-, rfl⟩ := Tables.insertSubscription_eq_ok_iff.mp subscribed
    exact List.mem_concat_self
  have only := filter_pair_eq_singleton sound.keyed sub
  have found := getMembership_of_stored sound.keyed sub
  exact ⟨answer_createServer made, Kind.servers.preserved sound server,
    Kind.subscriptions.preserved sound sub, only, found⟩

/-- Every record that a creation accepts in reachable tables survives. -/
theorem created_record_survives (reachable : Reachable t) {write : Write} {answer : Written}
    (made : write.change.apply t = (.ok answer, t')) : write.Survives t t' answer := by
  obtain ⟨effect, sound⟩ := Write.effect_of_ok reachable.sound made
  cases write with
  | createUser row =>
    obtain ⟨-, rfl⟩ := Tables.insertUser_eq_ok_iff.mp effect
    exact Kind.users.preserved sound List.mem_concat_self
  | createServer row joining joined => exact createServer_survives sound made effect
  | createSubscription row =>
    obtain ⟨-, rfl⟩ := Tables.insertSubscription_eq_ok_iff.mp effect
    exact Kind.subscriptions.preserved sound List.mem_concat_self
  | createRole row =>
    obtain ⟨-, rfl⟩ := Tables.insertRole_eq_ok_iff.mp effect
    exact Kind.roles.preserved sound List.mem_concat_self
  | createAssignment row =>
    obtain ⟨-, rfl⟩ := Tables.insertAssignment_eq_ok_iff.mp effect.2.2
    exact Kind.assignments.preserved sound List.mem_concat_self
  | createGrant row =>
    -- Where there is no grant for the pair, the record gets a row of its own.
    intro unheld
    have new : ∀ r ∈ t.grants,
        (r.serverId, r.userId) ≠ ((storeGrant row).serverId, (storeGrant row).userId) := unheld
    obtain ⟨-, rfl⟩ := (Tables.upsertGrant_eq_ok_iff_of_new new).mp effect
    exact Kind.grants.preserved sound List.mem_concat_self
  | createChannel row =>
    obtain ⟨-, rfl⟩ := Tables.insertChannel_eq_ok_iff.mp effect
    exact Kind.channels.preserved sound List.mem_concat_self
  | createOverride row =>
    obtain ⟨-, rfl⟩ := Tables.insertOverride_eq_ok_iff.mp effect.2.2
    exact Kind.overrides.preserved sound List.mem_concat_self
  | deleteUser id | deleteServer id | deleteSubscription id | deleteRole id | deleteAssignment id
  | deleteGrant id | deleteChannel id | deleteOverride id => exact trivial

namespace Sample

def annex : Server := ⟨⟨15⟩, "annex", ⟨1⟩, leapSecond⟩

def annexing : Write := .createServer annex ⟨16⟩ afterAll

end Sample

/-- A server of a leap second is looked up as it was. Its owner's subscription, of the year 10000, is
there and can be deleted, but it cannot be looked up. -/
theorem annex_survives :
    ∃ t', Sample.annexing.change.apply Sample.settled =
        (.ok (.subscribed ⟨⟨16⟩, ⟨15⟩, ⟨1⟩, Sample.afterAll⟩), t') ∧
      t'.getServer ⟨15⟩ = .ok Sample.annex ∧
      t'.getSubscription ⟨16⟩ = .error (.database (.conversion 3)) ∧
      ∃ left, (Write.deleteSubscription ⟨16⟩).change.apply t' = (.ok (.deleted true), left) := by
  have reachable : Reachable Sample.settled := ⟨_, rfl⟩
  have accepted : (Sample.annexing.change.apply Sample.settled).1.isOk = true := by decide +kernel
  cases made : Sample.annexing.change.apply Sample.settled with
  | mk ending t' =>
    rw [made] at accepted
    cases ending with
    | error fault => cases accepted
    | ok answer =>
      have read : readBack Kind.servers.time? Sample.annex = .ok Sample.annex :=
        readBack_of_readable (by decide +kernel)
      have unread : readBack Kind.subscriptions.time? ⟨⟨16⟩, ⟨15⟩, ⟨1⟩, Sample.afterAll⟩ =
          .error (.conversion 3) := readBack_of_unreadable (by decide +kernel)
      obtain ⟨rfl, server, sub, -, -⟩ := created_record_survives reachable made
      obtain ⟨left, deleted, -⟩ := sub.deleted
      exact ⟨t', rfl, server.found.trans (congrArg _ read), sub.found.trans (congrArg _ unread),
        left, deleted⟩

end Gatehouse.Store
