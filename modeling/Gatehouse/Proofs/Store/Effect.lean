import Gatehouse.Proofs.Store.Insertion
import Gatehouse.Proofs.Store.Reading
import Gatehouse.Store.Write

/-! # What writes do

A write that fails leaves the tables as they were. One that succeeds has its effect: a creation
inserts the row of its record, and for a server the row of its owner's subscription too, and a
deletion removes what has the id.
-/

namespace Gatehouse.Store

namespace Change

variable {σ ε ε' α β : Type}

@[simp] theorem apply_pure (a : α) (s : σ) : (pure a : Change σ ε α).apply s = (.ok a, s) := rfl

@[simp] theorem apply_throw (fault : ε) (s : σ) :
    (throw fault : Change σ ε α).apply s = (.error fault, s) := rfl

@[simp] theorem apply_get (s : σ) : (get : Change σ ε σ).apply s = (.ok s, s) := rfl

theorem apply_bind (change : Change σ ε α) (next : α → Change σ ε β) (s : σ) :
    (change >>= next).apply s =
      match change.apply s with
      | (.ok a, s') => (next a).apply s'
      | (.error fault, s') => (.error fault, s') := by
  simp only [apply, ExceptT.run_bind, StateT.run_bind]
  rcases StateT.run (ExceptT.run change) s with ⟨_ | _, _⟩ <;> rfl

theorem apply_ofExcept (result : Except ε α) (s : σ) : (ofExcept result).apply s = (result, s) := by
  cases result <;> rfl

/-- The change fails and leaves the state as it was, or it succeeds and has the effect. -/
def Does (change : Change σ ε α) (s : σ) (effect : σ → Prop) : Prop :=
  (∃ fault, change.apply s = (.error fault, s)) ∨
    ∃ a s', change.apply s = (.ok a, s') ∧ effect s'

variable {change : Change σ ε α} {s : σ} {effect : σ → Prop}

theorem Does.cases (does : change.Does s effect) :
    (change.apply s).2 = s ∨ effect (change.apply s).2 := by
  obtain ⟨fault, failed⟩ | ⟨a, s', succeeded, has⟩ := does
  · exact .inl (by rw [failed])
  · exact .inr (by rwa [succeeded])

theorem Does.effect_of_isOk (does : change.Does s effect) (ok : (change.apply s).1.isOk = true) :
    effect (change.apply s).2 := by
  obtain ⟨fault, failed⟩ | ⟨a, s', succeeded, has⟩ := does
  · rw [failed] at ok
    cases ok
  · rwa [succeeded]

/-- What is answered in the end does not matter. -/
theorem Does.bind_pure (does : change.Does s effect) (answer : α → β) :
    (change >>= fun a => pure (answer a)).Does s effect := by
  unfold Does
  rw [apply_bind]
  obtain ⟨fault, failed⟩ | ⟨a, s', succeeded, has⟩ := does
  · exact .inl ⟨fault, by rw [failed]⟩
  · exact .inr ⟨answer a, s', by simp only [succeeded, apply_pure], has⟩

/-- A change made whole leaves nothing behind when it fails. -/
theorem does_whole (works : ∀ a s', change.apply s = (.ok a, s') → effect s') :
    change.whole.Does s effect := by
  unfold Does
  simp only [whole, apply_ofApply]
  cases applied : change.apply s with
  | mk ending after =>
    cases ending with
    | error fault => exact .inl ⟨fault, rfl⟩
    | ok a => exact .inr ⟨a, after, rfl, works a after applied⟩

end Change

/-- What a write makes of the tables if it succeeds. -/
def Write.Effect (t t' : StoredTables) : Write → Prop
  | .createUser row => t.insertUser (storeUser row) = .ok t'
  | .createServer row joining joined => ∃ between, t.insertServer (storeServer row) = .ok between ∧
      between.insertSubscription (storeSubscription ⟨joining, row.id, row.ownerId, joined⟩) = .ok t'
  | .createSubscription row => t.insertSubscription (storeSubscription row) = .ok t'
  | .createRole row => t.insertRole (storeRole row) = .ok t'
  | .createAssignment row =>
    (∃ sub ∈ t.subscriptions, sub.id = row.subscriptionId.text ∧ sub.serverId = row.serverId.text ∧
      sub.userId = row.userId.text) ∧
    (∃ role ∈ t.roles, role.id = row.roleId.text ∧ role.serverId = row.serverId.text) ∧
      t.insertAssignment (storeAssignment row) = .ok t'
  | .createGrant row => t.upsertGrant (storeGrant row) = .ok t'
  | .createChannel row => t.insertChannel (storeChannel row) = .ok t'
  | .createOverride row =>
    (∃ channel ∈ t.channels, channel.id = row.channelId.text ∧
      channel.serverId = row.serverId.text) ∧
    (∃ role ∈ t.roles, role.id = row.roleId.text ∧ role.serverId = row.serverId.text) ∧
      t.insertOverride (storeOverride row) = .ok t'
  | .deleteUser id => t.removeUsers (·.id = id.text) = t'
  | .deleteServer id => t.removeServers (·.id = id.text) = t'
  | .deleteSubscription id => t.removeSubscriptions (·.id = id.text) = t'
  | .deleteRole id => t.removeRoles (·.id = id.text) = t'
  | .deleteAssignment id => t.removeAssignments (·.id = id.text) = t'
  | .deleteGrant id => t.removeGrants (·.id = id.text) = t'
  | .deleteChannel id => t.removeChannels (·.id = id.text) = t'
  | .deleteOverride id => t.removeOverrides (·.id = id.text) = t'

section Cases

variable {t : StoredTables} {α : Type}

theorem apply_statement (f : StoredTables → Except DatabaseFault StoredTables) (t : StoredTables) :
    (∃ fault, (statement f).apply t = (.error fault, t)) ∨
      ∃ t', f t = .ok t' ∧ (statement f).apply t = (.ok (), t') := by
  simp only [statement, Change.mapFault, Change.update, Change.apply_ofApply]
  cases f t with
  | ok t' => exact .inr ⟨t', rfl, rfl⟩
  | error fault => exact .inl ⟨_, rfl⟩

theorem does_statement (f : StoredTables → Except DatabaseFault StoredTables) (t : StoredTables) :
    (statement f).Does t (f t = .ok ·) := by
  obtain failed | ⟨t', made, applied⟩ := apply_statement f t
  · exact .inl failed
  · exact .inr ⟨(), t', applied, made⟩

/-- A name that is not acceptable ends a write before it has done anything. -/
theorem does_checked (name : String) {next : Unit → Writing α} {effect : StoredTables → Prop}
    (does : (next ()).Does t effect) : (checkName name >>= next).Does t effect := by
  unfold Change.Does
  rw [Change.apply_bind]
  by_cases acceptable : Name.acceptable name = true
  · simp only [checkName, acceptable, if_true, Change.apply_pure]
    exact does
  · left
    simp [checkName, acceptable]

/-- The statements of a new server: its row, and the subscription of its owner. -/
def founding (row : Server) (sub : Subscription) : Writing Subscription := do
  statement (·.insertServer (storeServer row))
  statement (·.insertSubscription (storeSubscription sub))
  return sub

private theorem does_founding (row : Server) (sub : Subscription) (t : StoredTables) :
    (founding row sub).whole.Does t fun t' =>
      ∃ between, t.insertServer (storeServer row) = .ok between ∧
        between.insertSubscription (storeSubscription sub) = .ok t' := by
  refine Change.does_whole fun answer t' applied => ?_
  simp only [founding, Change.apply_bind] at applied
  obtain ⟨fault, failed⟩ | ⟨between, inserted, first⟩ :=
    apply_statement (·.insertServer (storeServer row)) t
  · simp [failed] at applied
  · simp only [first] at applied
    obtain ⟨fault, failed⟩ | ⟨t'', subscribed, second⟩ :=
      apply_statement (·.insertSubscription (storeSubscription sub)) between
    · simp [failed] at applied
    · simp only [second, Change.apply_pure, Prod.mk.injEq] at applied
      exact ⟨between, inserted, applied.2 ▸ subscribed⟩

/-- The partners are compared as they are stored. -/
theorem does_createAssignment (row : Assignment) :
    (createAssignment row).Does t (Write.Effect t · (.createAssignment row)) := by
  refine Change.does_whole fun answer t' applied => ?_
  simp only [Change.apply_bind, Change.apply_get] at applied
  split at applied
  · next sub role subFound roleFound =>
    have subNamed := List.find?_some subFound
    have roleNamed := List.find?_some roleFound
    split at applied
    · next shared =>
      obtain ⟨subServer, roleServer, user⟩ := shared
      obtain ⟨fault, failed⟩ | ⟨t'', inserted, made⟩ :=
        apply_statement (·.insertAssignment (storeAssignment row)) t
      · rw [failed] at applied
        cases applied
      · rw [made] at applied
        refine ⟨⟨sub, List.mem_of_find?_eq_some subFound, of_decide_eq_true subNamed, subServer,
          user⟩, ⟨role, List.mem_of_find?_eq_some roleFound, of_decide_eq_true roleNamed,
          roleServer⟩, ?_⟩
        exact (Prod.mk.inj applied).2 ▸ inserted
    · cases applied
  · cases applied

/-- The partners are read before they are compared. -/
theorem does_createOverride (recorded : t.Recorded) (row : Override) :
    (createOverride row).Does t (Write.Effect t · (.createOverride row)) := by
  unfold Change.Does
  simp only [createOverride, Change.apply_bind, Change.apply_get, Change.apply_ofExcept]
  cases roleFound : t.getRole row.roleId with
  | error fault => exact .inl ⟨fault, rfl⟩
  | ok role =>
    cases channelFound : t.getChannel row.channelId with
    | error fault => exact .inl ⟨fault, rfl⟩
    | ok channel =>
      obtain ⟨roleNamed, roleStored⟩ := Tables.getRole_eq_ok recorded roleFound
      obtain ⟨channelNamed, created, channelStored⟩ := Tables.getChannel_eq_ok recorded channelFound
      by_cases shared : role.serverId = row.serverId ∧ channel.serverId = row.serverId
      · simp only [if_pos shared]
        obtain failed | ⟨t', inserted, made⟩ :=
          apply_statement (·.insertOverride (storeOverride row)) t
        · exact .inl failed
        · refine .inr ⟨(), t', made, ⟨_, channelStored, ?_, ?_⟩, ⟨_, roleStored, ?_, ?_⟩, inserted⟩
          · exact congrArg Uuid.text channelNamed
          · exact congrArg Uuid.text shared.2
          · exact congrArg Uuid.text roleNamed
          · exact congrArg Uuid.text shared.1
      · simp only [if_neg shared]
        exact .inl ⟨_, rfl⟩

/-- A write fails and leaves the tables as they were, or it succeeds and has its effect. -/
theorem Write.does (recorded : t.Recorded) (write : Write) :
    write.change.Does t (Write.Effect t · write) := by
  cases write with
  | createUser row | createSubscription row | createGrant row =>
    exact (does_statement _ t).bind_pure _
  | createServer row joining joined => exact (does_checked row.name (does_founding row _ t)).bind_pure _
  | createRole row | createChannel row => exact (does_checked row.name (does_statement _ t)).bind_pure _
  | createAssignment row => exact (does_createAssignment row).bind_pure _
  | createOverride row => exact (does_createOverride recorded row).bind_pure _
  | deleteUser id | deleteServer id | deleteSubscription id | deleteRole id | deleteAssignment id
  | deleteGrant id | deleteChannel id | deleteOverride id => exact .inr ⟨_, _, rfl, rfl⟩

/-- A write leaves the tables as they were or has its effect. -/
theorem Write.apply_cases (recorded : t.Recorded) (write : Write) :
    (write.change.apply t).2 = t ∨ write.Effect t (write.change.apply t).2 :=
  (write.does recorded).cases

end Cases

end Gatehouse.Store
