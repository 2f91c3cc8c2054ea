import Gatehouse.Proofs.Identifier
import Gatehouse.Proofs.Store.Removal
import Gatehouse.Store.Storage

/-! # Rows of records

All rows that writes put into the tables are rows of records, in which every id is spelled in the one
way. What a lookup finds in such tables is the record of a row that is there, up to its time: a time
need not be read as it was, or at all.
-/

namespace Gatehouse.Store

namespace Tables

variable {t t' : StoredTables}

/-- Every row is one that a record is written as. -/
structure Recorded (t : StoredTables) : Prop where
  users : ∀ r ∈ t.users, ∃ record, storeUser record = r
  servers : ∀ r ∈ t.servers, ∃ record, storeServer record = r
  subscriptions : ∀ r ∈ t.subscriptions, ∃ record, storeSubscription record = r
  roles : ∀ r ∈ t.roles, ∃ record, storeRole record = r
  assignments : ∀ r ∈ t.assignments, ∃ record, storeAssignment record = r
  grants : ∀ r ∈ t.grants, ∃ record, storeGrant record = r
  channels : ∀ r ∈ t.channels, ∃ record, storeChannel record = r
  overrides : ∀ r ∈ t.overrides, ∃ record, storeOverride record = r

theorem recorded_empty : (empty : StoredTables).Recorded := by
  constructor <;> exact fun _ stored => nomatch stored

theorem Recorded.part (recorded : t.Recorded) (part : Part t' t) : t'.Recorded where
  users r stored := recorded.users r (part.users.subset stored)
  servers r stored := recorded.servers r (part.servers.subset stored)
  subscriptions r stored := recorded.subscriptions r (part.subscriptions.subset stored)
  roles r stored := recorded.roles r (part.roles.subset stored)
  assignments r stored := recorded.assignments r (part.assignments.subset stored)
  grants r stored := recorded.grants r (part.grants.subset stored)
  channels r stored := recorded.channels r (part.channels.subset stored)
  overrides r stored := recorded.overrides r (part.overrides.subset stored)

end Tables

theorem readId_text (index : Nat) (u : Uuid) : readId index u.text = .ok u := by
  simp [readId]

theorem readFlag_ofBool (index : Nat) (column : String) (b : Bool) :
    readFlag index column (.ofBool b) = .ok b := by
  cases b <;> rfl

private theorem readServer_storeServer {r row : Server}
    (read : readServer (storeServer r) = .ok row) :
    ∃ created, r = { row with createdAt := created } := by
  simp only [readServer, storeServer, readId_text] at read
  cases time : readTime 3 r.createdAt.storedText with
  | error fault =>
    rw [time] at read
    cases read
  | ok t =>
    rw [time] at read
    cases read
    exact ⟨_, rfl⟩

private theorem readSubscription_storeSubscription {r row : Subscription}
    (read : readSubscription (storeSubscription r) = .ok row) :
    ∃ created, r = { row with createdAt := created } := by
  simp only [readSubscription, storeSubscription, readId_text] at read
  cases time : readTime 3 r.createdAt.storedText with
  | error fault =>
    rw [time] at read
    cases read
  | ok t =>
    rw [time] at read
    cases read
    exact ⟨_, rfl⟩

theorem readRole_storeRole (r : Role) : readRole (storeRole r) = .ok r := by
  simp only [readRole, storeRole, readId_text, readWord]
  rfl

theorem readAssignment_storeAssignment (r : Assignment) :
    readAssignment (storeAssignment r) = .ok r := by
  simp only [readAssignment, storeAssignment, readId_text]
  rfl

theorem readGrant_storeGrant (r : Grant) : readGrant (storeGrant r) = .ok r := by
  simp only [readGrant, storeGrant, readId_text, readFlag_ofBool]
  rfl

theorem readChannel_storeChannel {r row : Channel} (read : readChannel (storeChannel r) = .ok row) :
    ∃ created, r = { row with createdAt := created } := by
  simp only [readChannel, storeChannel, readId_text, readFlag_ofBool] at read
  cases time : readTime 4 r.createdAt.storedText with
  | error fault =>
    rw [time] at read
    cases read
  | ok t =>
    rw [time] at read
    cases read
    exact ⟨_, rfl⟩

theorem readOverride_storeOverride (r : Override) : readOverride (storeOverride r) = .ok r := by
  simp only [readOverride, storeOverride, readId_text]
  rfl

@[simp] theorem mapError_ok {ε ε' α : Type} (tell : ε → ε') (a : α) :
    (Except.ok a).mapError tell = .ok a := rfl

@[simp] theorem mapError_error {ε ε' α : Type} (tell : ε → ε') (fault : ε) :
    (Except.error fault : Except ε α).mapError tell = .error (tell fault) := rfl

/-- What is found and read is the row of a record. -/
theorem readFound_eq_ok {α β : Type} {write : β → α} {read : α → Except DatabaseFault β}
    {rows : List α} (recorded : ∀ r ∈ rows, ∃ record, write record = r) {p : α → Bool} {row : β}
    (found : readFound read (rows.find? p) = .ok row) :
    ∃ record, write record ∈ rows ∧ p (write record) = true ∧ read (write record) = .ok row := by
  cases hit : rows.find? p with
  | none =>
    rw [hit] at found
    cases found
  | some r =>
    obtain ⟨record, rfl⟩ := recorded r (List.mem_of_find?_eq_some hit)
    rw [hit] at found
    refine ⟨record, List.mem_of_find?_eq_some hit, List.find?_some hit, ?_⟩
    change (read (write record)).mapError StoreFault.database = .ok row at found
    cases result : read (write record) with
    | ok value =>
      rw [result] at found
      exact congrArg Except.ok (Except.ok.inj found)
    | error fault =>
      rw [result] at found
      cases found

/-- That there is nothing is said exactly if no row fits. -/
theorem readFound_eq_notFound_iff {α β : Type} {read : α → Except DatabaseFault β} {rows : List α}
    {p : α → Bool} :
    readFound read (rows.find? p) = .error .notFound ↔ ∀ r ∈ rows, ¬ p r = true := by
  rw [← List.find?_eq_none]
  cases rows.find? p with
  | none => simp [readFound]
  | some r => cases known : read r <;> simp [readFound, known]

theorem lookedUp_eq_ok_iff {α : Type} {result : Except StoreFault α} {found : α} :
    lookedUp result = .ok found ↔ result = .ok found := by
  unfold lookedUp
  split <;> simp

namespace Tables

variable {t : StoredTables} {id : Uuid}

theorem getServer_eq_ok (recorded : t.Recorded) {row : Server} (found : t.getServer id = .ok row) :
    row.id = id ∧ ∃ created, storeServer { row with createdAt := created } ∈ t.servers := by
  obtain ⟨record, stored, named, read⟩ := readFound_eq_ok recorded.servers found
  obtain ⟨created, rfl⟩ := readServer_storeServer read
  exact ⟨Uuid.text_inj.mp (of_decide_eq_true named), created, stored⟩

theorem getSubscription_eq_ok (recorded : t.Recorded) {row : Subscription}
    (found : t.getSubscription id = .ok row) :
    row.id = id ∧ ∃ created, storeSubscription { row with createdAt := created } ∈ t.subscriptions := by
  obtain ⟨record, stored, named, read⟩ := readFound_eq_ok recorded.subscriptions found
  obtain ⟨created, rfl⟩ := readSubscription_storeSubscription read
  exact ⟨Uuid.text_inj.mp (of_decide_eq_true named), created, stored⟩

theorem getRole_eq_ok (recorded : t.Recorded) {row : Role} (found : t.getRole id = .ok row) :
    row.id = id ∧ storeRole row ∈ t.roles := by
  obtain ⟨record, stored, named, read⟩ := readFound_eq_ok recorded.roles found
  cases (readRole_storeRole record).symm.trans read
  exact ⟨Uuid.text_inj.mp (of_decide_eq_true named), stored⟩

theorem getAssignment_eq_ok (recorded : t.Recorded) {row : Assignment}
    (found : t.getAssignment id = .ok row) : row.id = id ∧ storeAssignment row ∈ t.assignments := by
  obtain ⟨record, stored, named, read⟩ := readFound_eq_ok recorded.assignments found
  cases (readAssignment_storeAssignment record).symm.trans read
  exact ⟨Uuid.text_inj.mp (of_decide_eq_true named), stored⟩

theorem getGrant_eq_ok (recorded : t.Recorded) {row : Grant} (found : t.getGrant id = .ok row) :
    row.id = id ∧ storeGrant row ∈ t.grants := by
  obtain ⟨record, stored, named, read⟩ := readFound_eq_ok recorded.grants found
  cases (readGrant_storeGrant record).symm.trans read
  exact ⟨Uuid.text_inj.mp (of_decide_eq_true named), stored⟩

theorem getChannel_eq_ok (recorded : t.Recorded) {row : Channel}
    (found : t.getChannel id = .ok row) :
    row.id = id ∧ ∃ created, storeChannel { row with createdAt := created } ∈ t.channels := by
  obtain ⟨record, stored, named, read⟩ := readFound_eq_ok recorded.channels found
  obtain ⟨created, rfl⟩ := readChannel_storeChannel read
  exact ⟨Uuid.text_inj.mp (of_decide_eq_true named), created, stored⟩

theorem getOverride_eq_ok (recorded : t.Recorded) {row : Override}
    (found : t.getOverride id = .ok row) : row.id = id ∧ storeOverride row ∈ t.overrides := by
  obtain ⟨record, stored, named, read⟩ := readFound_eq_ok recorded.overrides found
  cases (readOverride_storeOverride record).symm.trans read
  exact ⟨Uuid.text_inj.mp (of_decide_eq_true named), stored⟩

end Tables

end Gatehouse.Store
