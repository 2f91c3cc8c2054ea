import Gatehouse.Proofs.Store.Kind

/-! # Grants follow the last write

A user has one grant at most on a server. The first creation makes its row; a later one changes the
flags of that row and leaves its id. The row goes when it is deleted, or with the user, the server or
the owner of the server, and what is created after that is a first one again.

So the tables are compared with a log: the grants that were created for the user on the server since
the last removal, in their order. The log is kept from the writes and their answers, and from who owns
the server, but not from the table of grants.
-/

namespace Gatehouse.Store

variable {t t' : StoredTables} {s u : Uuid}

/-- The rows of the grants of a user on a server. -/
def Tables.grantsOf (t : StoredTables) (s u : Uuid) : List (GrantRow String Cell) :=
  t.grants.filter fun r => r.serverId = s.text && r.userId = u.text

/-- The user owns the server. -/
def Tables.owns (t : StoredTables) (u s : Uuid) : Bool :=
  t.servers.any fun r => r.ownerId = u.text && r.id = s.text

/-- The log after a write: a creation that succeeds is added, and a removal empties it. The row has the
id of the first grant in the log. -/
def Write.logged (t : StoredTables) (s u : Uuid) (log : List Grant) (write : Write) : List Grant :=
  match write with
  | .createGrant row =>
    if (row.serverId = s ∧ row.userId = u) ∧ (write.change.apply t).1.isOk = true then log ++ [row]
    else log
  | .deleteGrant id => if log.head?.map (·.id) = some id then [] else log
  | .deleteServer id => if id = s then [] else log
  | .deleteUser id => if id = u ∨ t.owns id s = true then [] else log
  | _ => log

/-- The log after a run of writes. -/
def Write.loggedAll (s u : Uuid) (t : StoredTables) (log : List Grant) : List Write → List Grant
  | [] => log
  | write :: rest => loggedAll s u (write.change.apply t).2 (write.logged t s u log) rest

/-- The grants that were created for a user on a server since the last removal, in a run of writes to a
new database. -/
def grantsSince (s u : Uuid) (writes : List Write) : List Grant :=
  Write.loggedAll s u Tables.empty [] writes

/-- The grant that a log comes to: it has the id of the first one and the flags of the last one. -/
def grantOf (s u : Uuid) : List Grant → Option Grant
  | [] => none
  | first :: later =>
    let latest := later.getLastD first
    some ⟨first.id, s, u, latest.readAll, latest.writeAll, latest.deleteAll⟩

/-- The row that the tables hold is that of the log. -/
def Tables.Follows (t : StoredTables) (s u : Uuid) (log : List Grant) : Prop :=
  t.grantsOf s u = (grantOf s u log).toList.map storeGrant

namespace Tables

private theorem mem_grantsOf_iff {r : GrantRow String Cell} :
    r ∈ t.grantsOf s u ↔ r ∈ t.grants ∧ r.serverId = s.text ∧ r.userId = u.text := by
  simp only [grantsOf, List.mem_filter, Bool.and_eq_true, decide_eq_true_eq]

/-- Where a removal treats all rows of the user on the server alike, it leaves them all or none. -/
theorem Follows.filter {log : List Grant} (follows : t.Follows s u log)
    {keep : GrantRow String Cell → Bool} (left : t'.grants = t.grants.filter keep) {gone : Prop}
    [Decidable gone] (alike : ∀ r ∈ t.grantsOf s u, keep r = !decide gone) :
    t'.Follows s u (if gone then [] else log) := by
  have rows : t'.grantsOf s u = (t.grantsOf s u).filter keep := by
    rw [grantsOf, left, List.filter_filter, grantsOf, List.filter_filter]
    exact List.filter_congr fun r _ => Bool.and_comm ..
  unfold Follows
  rw [rows]
  split
  · next removed =>
    refine List.filter_eq_nil_iff.mpr fun r there => ?_
    rw [alike r there, decide_eq_true removed]
    exact Bool.false_ne_true
  · next stays =>
    rw [← follows]
    refine List.filter_eq_self.mpr fun r there => ?_
    rw [alike r there, decide_eq_false stays]
    rfl

theorem Follows.deleteGrant {log : List Grant} (follows : t.Follows s u log) (id : Uuid)
    (left : t'.grants = t.grants.filter (·.id ≠ id.text)) :
    t'.Follows s u (if log.head?.map (·.id) = some id then [] else log) := by
  refine follows.filter left fun r there => ?_
  rw [follows] at there
  cases log with
  | nil => cases there
  | cons first later =>
    obtain rfl := List.mem_singleton.mp there
    simp [storeGrant, Uuid.text_inj]

theorem Follows.deleteServer {log : List Grant} (follows : t.Follows s u log) (id : Uuid)
    (left : t'.grants = t.grants.filter (·.serverId ≠ id.text)) :
    t'.Follows s u (if id = s then [] else log) := by
  refine follows.filter left fun r there => ?_
  obtain ⟨-, server, -⟩ := mem_grantsOf_iff.mp there
  have named : r.serverId = id.text ↔ id = s := by rw [server, Uuid.text_inj, eq_comm]
  simp only [decide_not, named]

theorem Follows.deleteUser {log : List Grant} (follows : t.Follows s u log) (id : Uuid)
    (left : t'.grants = (t.withoutUser id.text).grants) :
    t'.Follows s u (if id = u ∨ t.owns id s = true then [] else log) := by
  refine follows.filter left fun r there => ?_
  obtain ⟨-, server, user⟩ := mem_grantsOf_iff.mp there
  have named : r.userId = id.text ↔ id = u := by rw [user, Uuid.text_inj, eq_comm]
  simp only [decide_not, named, server, Bool.decide_or, Bool.not_or, Bool.decide_eq_true]
  rfl

/-- A creation reaches the rows of the user on the server only. -/
theorem grantsOf_reflagged {row : GrantRow String Cell}
    (changed : t'.grants = t.grants.map (reflagged row)) :
    t'.grantsOf s u = (t.grantsOf s u).map (reflagged row) := by
  simp only [grantsOf, changed, List.filter_map, Function.comp_def, reflagged_serverId,
    reflagged_userId]

private theorem grantsOf_upsert_of_other {row : Grant}
    (other : ¬ (row.serverId = s ∧ row.userId = u))
    (upserted : t.upsertGrant (storeGrant row) = .ok t') : t'.grantsOf s u = t.grantsOf s u := by
  obtain rfl | ⟨-, rfl⟩ := upsertGrant_cases upserted
  · rw [grantsOf_reflagged rfl]
    refine (List.map_congr_left fun r there => ?_).trans (List.map_id _)
    obtain ⟨-, server, user⟩ := mem_grantsOf_iff.mp there
    refine if_neg fun hit => other ?_
    obtain ⟨inside, same⟩ := Bool.and_eq_true_iff.mp hit
    exact ⟨Uuid.text_inj.mp ((of_decide_eq_true inside).symm.trans server),
      Uuid.text_inj.mp ((of_decide_eq_true same).symm.trans user)⟩
  · have fits : ¬ (row.serverId.text = s.text ∧ row.userId.text = u.text) := by
      rwa [Uuid.text_inj, Uuid.text_inj]
    simp only [grantsOf, List.filter_append]
    simpa [storeGrant] using fits

/-- The user has no grant on the server if no row has the pair of a new one. -/
theorem grantsOf_eq_nil_iff {row : Grant} :
    t.grantsOf row.serverId row.userId = [] ↔ ∀ r ∈ t.grants,
      (r.serverId, r.userId) ≠ ((storeGrant row).serverId, (storeGrant row).userId) := by
  simp [grantsOf, storeGrant]

/-- A grant takes over the flags of another one of the same user on the same server. -/
theorem reflagged_storeGrant_of_own (row : Grant) (id : Uuid) (readAll writeAll deleteAll : Bool) :
    reflagged (storeGrant row)
        (storeGrant ⟨id, row.serverId, row.userId, readAll, writeAll, deleteAll⟩) =
      storeGrant ⟨id, row.serverId, row.userId, row.readAll, row.writeAll, row.deleteAll⟩ :=
  if_pos (by simp [storeGrant])

theorem Follows.upsertGrant {log : List Grant} (follows : t.Follows s u log) {row : Grant}
    (own : row.serverId = s ∧ row.userId = u)
    (upserted : t.upsertGrant (storeGrant row) = .ok t') : t'.Follows s u (log ++ [row]) := by
  obtain ⟨rfl, rfl⟩ := own
  cases log with
  | nil =>
    -- Nothing is there for the pair, so the row is appended.
    have none : t.grantsOf row.serverId row.userId = [] := follows
    obtain ⟨-, rfl⟩ := (upsertGrant_eq_ok_iff_of_new (grantsOf_eq_nil_iff.mp none)).mp upserted
    have own : ([storeGrant row].filter fun r =>
        r.serverId = row.serverId.text && r.userId = row.userId.text) = [storeGrant row] :=
      List.filter_eq_self.mpr (by simp [storeGrant])
    unfold grantsOf at none
    rw [Follows, grantsOf, List.filter_append, none, own]
    rfl
  | cons first later =>
    -- The row of the first one is there, so it only takes over the flags.
    have latest : (later ++ [row]).getLastD first = row := by simp
    obtain rfl | ⟨⟨new, -⟩, -⟩ := upsertGrant_cases upserted
    · unfold Follows
      rw [grantsOf_reflagged rfl, follows, List.cons_append]
      simp only [grantOf, latest, Option.toList_some, List.map_cons, List.map_nil,
        reflagged_storeGrant_of_own]
    · have none := grantsOf_eq_nil_iff.mpr new
      rw [follows] at none
      cases none

end Tables

/-- Whether a write reaches the table of grants. -/
def Write.reachesGrants : Write → Bool
  | .createGrant _ | .deleteGrant _ | .deleteServer _ | .deleteUser _ => true
  | _ => false

private theorem Write.Effect.grants_eq {write : Write} (other : write.reachesGrants = false)
    (effect : write.Effect t t') : t'.grants = t.grants := by
  cases write with
  | createUser row =>
    obtain ⟨-, rfl⟩ := Tables.insertUser_eq_ok_iff.mp effect
    rfl
  | createServer row joining joined =>
    obtain ⟨between, inserted, subscribed⟩ := effect
    obtain ⟨-, rfl⟩ := Tables.insertServer_eq_ok_iff.mp inserted
    obtain ⟨-, rfl⟩ := Tables.insertSubscription_eq_ok_iff.mp subscribed
    rfl
  | createSubscription row =>
    obtain ⟨-, rfl⟩ := Tables.insertSubscription_eq_ok_iff.mp effect
    rfl
  | createRole row =>
    obtain ⟨-, rfl⟩ := Tables.insertRole_eq_ok_iff.mp effect
    rfl
  | createAssignment row =>
    obtain ⟨-, rfl⟩ := Tables.insertAssignment_eq_ok_iff.mp effect.2.2
    rfl
  | createChannel row =>
    obtain ⟨-, rfl⟩ := Tables.insertChannel_eq_ok_iff.mp effect
    rfl
  | createOverride row =>
    obtain ⟨-, rfl⟩ := Tables.insertOverride_eq_ok_iff.mp effect.2.2
    rfl
  | deleteSubscription id | deleteRole id | deleteAssignment id | deleteChannel id
  | deleteOverride id => exact effect ▸ rfl
  | createGrant _ | deleteGrant _ | deleteServer _ | deleteUser _ => cases other

/-- A removal leaves of the grants what it leaves of the tables. -/
theorem Write.grants_apply_of_deletes (sound : t.Sound) {write : Write}
    (deletion : write.deletes = true) :
    (write.change.apply t).2.grants = (write.leaves t).grants := by
  obtain ⟨existed, applied, -⟩ := write.apply_of_deletes sound deletion
  rw [applied]

namespace Tables.Follows

variable {log : List Grant}

theorem createGrant (follows : t.Follows s u log) (sound : t.Sound) (row : Grant) :
    ((Write.createGrant row).change.apply t).2.Follows s u
      ((Write.createGrant row).logged t s u log) := by
  obtain ⟨fault, failed⟩ | ⟨answer, t', succeeded, upserted⟩ :=
    (Write.createGrant row).does sound.recorded
  · have missed : ((Write.createGrant row).change.apply t).1.isOk ≠ true := by
      rw [failed]
      exact Bool.false_ne_true
    rw [Write.logged, if_neg fun hit => missed hit.2, failed]
    exact follows
  · have made : ((Write.createGrant row).change.apply t).1.isOk = true := by
      rw [succeeded]
      rfl
    by_cases own : row.serverId = s ∧ row.userId = u
    · rw [Write.logged, if_pos ⟨own, made⟩, succeeded]
      exact follows.upsertGrant own upserted
    · rw [Write.logged, if_neg fun hit => own hit.1, succeeded, Follows,
        grantsOf_upsert_of_other own upserted]
      exact follows

/-- Every write keeps the tables with the log. -/
theorem apply (follows : t.Follows s u log) (sound : t.Sound) (write : Write) :
    (write.change.apply t).2.Follows s u (write.logged t s u log) := by
  -- What does not reach the table of grants is not logged either.
  have kept (other : write.reachesGrants = false) : (write.change.apply t).2.Follows s u log := by
    have same : (write.change.apply t).2.grants = t.grants := by
      obtain unchanged | effect := write.apply_cases sound.recorded
      · rw [unchanged]
      · exact effect.grants_eq other
    rwa [Follows, grantsOf, same]
  cases write with
  | createGrant row => exact follows.createGrant sound row
  | deleteGrant id => exact follows.deleteGrant id (Write.grants_apply_of_deletes sound rfl)
  | deleteServer id => exact follows.deleteServer id (Write.grants_apply_of_deletes sound rfl)
  | deleteUser id => exact follows.deleteUser id (Write.grants_apply_of_deletes sound rfl)
  | _ => exact kept rfl

theorem runAll (follows : t.Follows s u log) (sound : t.Sound) (writes : List Write) :
    (Write.runAll writes t).Follows s u (Write.loggedAll s u t log writes) := by
  induction writes generalizing t log with
  | nil => exact follows
  | cons write rest ih => exact ih (follows.apply sound write) (Write.sound_apply sound write)

end Tables.Follows

namespace Tables

private theorem getGrantFor_eq (t : StoredTables) (s u : Uuid) :
    t.getGrantFor s u = readFound readGrant (t.grantsOf s u).head? := by
  rw [getGrantFor, grantsOf, List.head?_filter]

private theorem Sound.getGrant_eq_ok_iff (sound : t.Sound) {id : Uuid} {held : Grant} :
    t.getGrant id = .ok held ↔ held.id = id ∧ storeGrant held ∈ t.grants := by
  constructor
  · exact getGrant_eq_ok sound.recorded
  · rintro ⟨rfl, stored⟩
    exact Kind.grants.get_of_stored sound stored

namespace Follows

variable {log : List Grant} {held : Grant}

private theorem length_le_one (follows : t.Follows s u log) : (t.grantsOf s u).length ≤ 1 := by
  rw [follows, List.length_map]
  cases grantOf s u log with
  | none => exact Nat.zero_le 1
  | some held => exact Nat.le_refl 1

private theorem grantsOf_eq (follows : t.Follows s u log) (come : grantOf s u log = some held) :
    t.grantsOf s u = [storeGrant held] := by
  rw [follows, come]
  rfl

private theorem getGrantFor_of_nil (follows : t.Follows s u []) :
    t.getGrantFor s u = .error .notFound := by
  rw [getGrantFor_eq, follows]
  rfl

private theorem getGrantFor_eq_ok (follows : t.Follows s u log)
    (come : grantOf s u log = some held) :
    t.getGrantFor s u = .ok held := by
  rw [getGrantFor_eq, follows.grantsOf_eq come, List.head?_cons, readFound, readGrant_storeGrant]
  rfl

/-- The row has one id only. -/
theorem getGrant_eq_ok_iff (follows : t.Follows s u log) (sound : t.Sound)
    (come : grantOf s u log = some held) {id : Uuid} : t.getGrant id = .ok held ↔ id = held.id := by
  have listed : storeGrant held ∈ t.grantsOf s u := by
    rw [follows.grantsOf_eq come]
    exact List.mem_singleton_self _
  rw [sound.getGrant_eq_ok_iff]
  constructor
  · rintro ⟨named, -⟩
    exact named.symm
  · rintro rfl
    exact ⟨rfl, (mem_grantsOf_iff.mp listed).1⟩

end Follows

/-- A creation for another user or server leaves the grant of this one. -/
theorem grantsOf_createGrant_of_other (sound : t.Sound) {row : Grant}
    (other : ¬ (row.serverId = s ∧ row.userId = u)) :
    ((Write.createGrant row).change.apply t).2.grantsOf s u = t.grantsOf s u := by
  obtain unchanged | upserted := (Write.createGrant row).apply_cases sound.recorded
  · rw [unchanged]
  · exact grantsOf_upsert_of_other other upserted

/-- What is found of a grant by its id is settled by the rows of its user on its server. -/
theorem getGrant_eq_ok_congr (sound : t.Sound) (sound' : t'.Sound) {held : Grant}
    (same : t'.grantsOf held.serverId held.userId = t.grantsOf held.serverId held.userId) {id : Uuid} :
    t'.getGrant id = .ok held ↔ t.getGrant id = .ok held := by
  have listed {t : StoredTables} :
      storeGrant held ∈ t.grants ↔ storeGrant held ∈ t.grantsOf held.serverId held.userId := by
    rw [mem_grantsOf_iff]
    exact ⟨fun stored => ⟨stored, rfl, rfl⟩, And.left⟩
  rw [sound'.getGrant_eq_ok_iff, sound.getGrant_eq_ok_iff, listed, same, ← listed]

end Tables

/-- In a database that was new, whatever was written to it, a user has one grant at most on a server.
If none was created since the last removal, none is found. Otherwise one is found, with the flags of
the last that was created, and by id it is found under the id of the first and under no other. To
create a grant for another user or server leaves it as it is. -/
theorem grants_follow_the_last_write (writes : List Write) (s u : Uuid) :
    let t := ((Database.migrate.apply .blank).2.perform writes).tables
    (t.grantsOf s u).length ≤ 1 ∧
      (grantsSince s u writes = [] → t.getGrantFor s u = .error .notFound) ∧
      (∀ first later, grantsSince s u writes = first :: later →
        let latest := later.getLastD first
        let held : Grant := ⟨first.id, s, u, latest.readAll, latest.writeAll, latest.deleteAll⟩
        t.getGrantFor s u = .ok held ∧ ∀ id, t.getGrant id = .ok held ↔ id = first.id) ∧
      ∀ row : Grant, ¬ (row.serverId = s ∧ row.userId = u) →
        let t' := ((Write.createGrant row).change.apply t).2
        t'.getGrantFor s u = t.getGrantFor s u ∧
          ∀ id held, held.serverId = s → held.userId = u →
            (t'.getGrant id = .ok held ↔ t.getGrant id = .ok held) := by
  obtain ⟨d, migrated, new⟩ := Database.migrate_blank
  rw [migrated, Database.perform_tables, new]
  intro t
  have sound : t.Sound := Write.sound_runAll Tables.sound_empty writes
  have start : (Tables.empty : StoredTables).Follows s u [] := rfl
  have follows : t.Follows s u (grantsSince s u writes) := start.runAll Tables.sound_empty writes
  refine ⟨follows.length_le_one, ?missing, ?held, ?others⟩
  case missing =>
    intro none
    rw [none] at follows
    exact follows.getGrantFor_of_nil
  case held =>
    intro first later since latest held
    have come : grantOf s u (grantsSince s u writes) = some held := by
      rw [since]
      rfl
    exact ⟨follows.getGrantFor_eq_ok come, fun id => follows.getGrant_eq_ok_iff sound come⟩
  case others =>
    intro row other t'
    have rows : t'.grantsOf s u = t.grantsOf s u := Tables.grantsOf_createGrant_of_other sound other
    refine ⟨by rw [Tables.getGrantFor_eq, rows, Tables.getGrantFor_eq], ?_⟩
    rintro id held rfl rfl
    exact Tables.getGrant_eq_ok_congr sound (Write.sound_apply sound _) rows

/-- A grant that is created twice keeps its first id and goes with the owner of the server. -/
example :
    let writes : List Write := [.createUser ⟨⟨1⟩, "owner", .epoch⟩, .createUser ⟨⟨2⟩, "guest", .epoch⟩,
      .createServer ⟨⟨7⟩, "house", ⟨1⟩, .epoch⟩ ⟨6⟩ .epoch,
      .createGrant ⟨⟨11⟩, ⟨7⟩, ⟨2⟩, true, false, false⟩,
      .createGrant ⟨⟨12⟩, ⟨7⟩, ⟨2⟩, false, true, false⟩]
    grantOf ⟨7⟩ ⟨2⟩ (grantsSince ⟨7⟩ ⟨2⟩ writes) = some ⟨⟨11⟩, ⟨7⟩, ⟨2⟩, false, true, false⟩ ∧
      grantsSince ⟨7⟩ ⟨2⟩ (writes ++ [.deleteUser ⟨1⟩]) = [] := by decide +kernel

end Gatehouse.Store
