import Gatehouse.Proofs.Store.Coalition

/-! # Failed writes

A write that fails leaves every table as it was, wherever it fails: at its name, before any
statement; at one of the two statements of a new server; at the partners of an assignment or an
override; at a constraint. What it can fail with is said for each kind of write, and deletions do
not fail. So a run of writes leaves what those of its writes leave that succeed.
-/

namespace Gatehouse.Store

namespace Change

variable {σ ε ε' α β : Type} {change : Change σ ε α} {s : σ} {kind : ε → Prop}

/-- If the change fails in this state, then with a fault of this kind. -/
def FailsWith (change : Change σ ε α) (s : σ) (kind : ε → Prop) : Prop :=
  ∀ fault, (change.apply s).1 = .error fault → kind fault

private theorem failsWith_throw {fault : ε} (told : kind fault) :
    (throw fault : Change σ ε α).FailsWith s kind := by
  rintro _ ⟨⟩
  exact told

private theorem failsWith_ofExcept {result : Except ε α}
    (told : ∀ fault, result = .error fault → kind fault) :
    (ofExcept result).FailsWith s kind := by
  intro fault failed
  rw [apply_ofExcept] at failed
  exact told fault failed

theorem FailsWith.bind (first : change.FailsWith s kind) {next : α → Change σ ε β}
    (second : ∀ a s', change.apply s = (.ok a, s') → (next a).FailsWith s' kind) :
    (change >>= next).FailsWith s kind := by
  intro fault failed
  rw [apply_bind] at failed
  cases applied : change.apply s with
  | mk ending s' =>
    cases ending with
    | ok a =>
      rw [applied] at failed
      exact second a s' applied fault failed
    | error other =>
      rw [applied] at failed
      cases failed
      exact first fault (congrArg Prod.fst applied)

/-- What is answered in the end does not matter. -/
theorem FailsWith.bind_pure (first : change.FailsWith s kind) (answer : α → β) :
    (change >>= fun a => pure (answer a)).FailsWith s kind :=
  first.bind fun _ _ _ _ failed => nomatch failed

theorem FailsWith.whole (fails : change.FailsWith s kind) : change.whole.FailsWith s kind := by
  intro fault failed
  simp only [Change.whole, apply_ofApply] at failed
  cases applied : change.apply s with
  | mk ending s' =>
    cases ending with
    | ok a =>
      rw [applied] at failed
      cases failed
    | error other =>
      rw [applied] at failed
      cases failed
      exact fails fault (congrArg Prod.fst applied)

theorem FailsWith.mono {kind' : ε → Prop} (fails : change.FailsWith s kind)
    (weaker : ∀ fault, kind fault → kind' fault) : change.FailsWith s kind' :=
  fun fault failed => weaker fault (fails fault failed)

end Change

/-- A constraint of the table is broken: values that must be unique are taken, or a row that is
referred to is missing. -/
def Breaks (table : Table) (fault : StoreFault) : Prop :=
  (∃ columns, fault = .database (.unique table columns)) ∨ fault = .database .foreignKey

/-- What a write can fail with. -/
def Write.Reports (fault : StoreFault) : Write → Prop
  | .createUser _ => Breaks .users fault
  | .createServer _ _ _ =>
    fault = .invalidName ∨ Breaks .servers fault ∨ Breaks .subscriptions fault
  | .createSubscription _ => Breaks .subscriptions fault
  | .createRole _ => fault = .invalidName ∨ Breaks .roles fault
  | .createAssignment _ =>
    fault = .notFound ∨ fault = .mixedServers .assignment ∨ Breaks .assignments fault
  | .createGrant _ => Breaks .grants fault
  | .createChannel _ => fault = .invalidName ∨ Breaks .channels fault
  -- of the partners only the channel may be unreadable, in the column of its time
  | .createOverride _ => fault = .notFound ∨ fault = .mixedServers .override ∨
      fault = .database (.conversion 4) ∨ Breaks .overrides fault
  | .deleteUser _ | .deleteServer _ | .deleteSubscription _ | .deleteRole _ | .deleteAssignment _
  | .deleteGrant _ | .deleteChannel _ | .deleteOverride _ => False

namespace Tables

variable {ι τ μ β : Type} [DecidableEq ι] {t : Tables ι τ μ β} {fault : DatabaseFault}

/-- The fault is one of those that are listed. -/
theorem unlessBroken_eq_error {α : Type} {checks : List (Bool × DatabaseFault)} {a : α}
    (failed : unlessBroken checks a = .error fault) : ∃ check ∈ checks, check.2 = fault := by
  induction checks with
  | nil => cases failed
  | cons check rest ih =>
    obtain ⟨broken, first⟩ := check
    cases broken with
    | true =>
      cases failed
      exact ⟨_, List.mem_cons_self .., rfl⟩
    | false =>
      obtain ⟨check, listed, same⟩ := ih failed
      exact ⟨check, List.mem_cons_of_mem _ listed, same⟩

private theorem breaks_of_unlessBroken {α : Type} {table : Table}
    {checks : List (Bool × DatabaseFault)}
    {a : α} (constraints : ∀ check ∈ checks, Breaks table (.database check.2))
    (failed : unlessBroken checks a = .error fault) : Breaks table (.database fault) := by
  obtain ⟨check, listed, rfl⟩ := unlessBroken_eq_error failed
  exact constraints check listed

private theorem breaks_of_insertUser {row : UserRow ι τ}
    (failed : t.insertUser row = .error fault) :
    Breaks .users (.database fault) :=
  breaks_of_unlessBroken (by simp [Breaks]) failed

private theorem breaks_of_insertServer {row : ServerRow ι τ}
    (failed : t.insertServer row = .error fault) :
    Breaks .servers (.database fault) :=
  breaks_of_unlessBroken (by simp [Breaks]) failed

private theorem breaks_of_insertSubscription {row : SubscriptionRow ι τ}
    (failed : t.insertSubscription row = .error fault) : Breaks .subscriptions (.database fault) :=
  breaks_of_unlessBroken (by simp [Breaks]) failed

private theorem breaks_of_insertRole {row : RoleRow ι μ}
    (failed : t.insertRole row = .error fault) :
    Breaks .roles (.database fault) :=
  breaks_of_unlessBroken (by simp [Breaks]) failed

private theorem breaks_of_insertAssignment {row : AssignmentRow ι}
    (failed : t.insertAssignment row = .error fault) : Breaks .assignments (.database fault) :=
  breaks_of_unlessBroken (by simp [Breaks]) failed

private theorem breaks_of_upsertGrant {row : GrantRow ι β}
    (failed : t.upsertGrant row = .error fault) :
    Breaks .grants (.database fault) := by
  simp only [upsertGrant] at failed
  split at failed
  · cases failed
  · exact breaks_of_unlessBroken (by simp [Breaks]) failed

private theorem breaks_of_insertChannel {row : ChannelRow ι β τ}
    (failed : t.insertChannel row = .error fault) : Breaks .channels (.database fault) :=
  breaks_of_unlessBroken (by simp [Breaks]) failed

private theorem breaks_of_insertOverride {row : OverrideRow ι}
    (failed : t.insertOverride row = .error fault) : Breaks .overrides (.database fault) :=
  breaks_of_unlessBroken (by simp [Breaks]) failed

end Tables

section Writes

variable {t : StoredTables} {kind : StoreFault → Prop}

private theorem failsWith_statement {f : StoredTables → Except DatabaseFault StoredTables}
    (told : ∀ fault, f t = .error fault → kind (.database fault)) :
    (statement f).FailsWith t kind := by
  intro fault failed
  simp only [statement, Change.mapFault, Change.update, Change.apply_ofApply] at failed
  cases made : f t with
  | ok t' =>
    rw [made] at failed
    cases failed
  | error fault =>
    rw [made] at failed
    cases failed
    exact told fault made

private theorem failsWith_checkName {name : String} (told : kind .invalidName) :
    (checkName name).FailsWith t kind := by
  intro fault failed
  unfold checkName at failed
  split at failed
  · cases failed
  · cases failed
    exact told

/-- In tables of records a role that is there can be read. -/
theorem getRole_eq_error (recorded : t.Recorded) {id : Uuid} {fault : StoreFault}
    (failed : t.getRole id = .error fault) : fault = .notFound := by
  unfold Tables.getRole at failed
  cases hit : t.roles.find? (·.id = id.text) with
  | none =>
    rw [hit] at failed
    cases failed
    rfl
  | some r =>
    obtain ⟨record, rfl⟩ := recorded.roles r (List.mem_of_find?_eq_some hit)
    simp only [hit, readFound, readRole_storeRole] at failed
    cases failed

/-- In tables of records a channel that is there can be read, but for its time. -/
theorem getChannel_eq_error (recorded : t.Recorded) {id : Uuid} {fault : StoreFault}
    (failed : t.getChannel id = .error fault) :
    fault = .notFound ∨ fault = .database (.conversion 4) := by
  unfold Tables.getChannel at failed
  cases hit : t.channels.find? (·.id = id.text) with
  | none =>
    rw [hit] at failed
    cases failed
    exact .inl rfl
  | some r =>
    obtain ⟨record, rfl⟩ := recorded.channels r (List.mem_of_find?_eq_some hit)
    simp only [hit, readFound, readChannel, storeChannel, readId_text, readFlag_ofBool,
      readTime] at failed
    cases time : Time.ofExact? record.createdAt.storedText with
    | none =>
      rw [time] at failed
      cases failed
      exact .inr rfl
    | some created =>
      rw [time] at failed
      cases failed

private theorem failsWith_founding (row : Server) (sub : Subscription) :
    (founding row sub).FailsWith t fun fault =>
      Breaks .servers fault ∨ Breaks .subscriptions fault := by
  refine (failsWith_statement fun fault failed => ?inserted).bind fun _ _ _ => ?_
  case inserted => exact .inl (Tables.breaks_of_insertServer failed)
  refine (failsWith_statement fun fault failed => ?subscribed).bind_pure _
  case subscribed => exact .inr (Tables.breaks_of_insertSubscription failed)

private theorem failsWith_createAssignment (row : Assignment) :
    (createAssignment row).FailsWith t fun fault => (Write.createAssignment row).Reports fault := by
  refine Change.FailsWith.whole (Change.FailsWith.bind (fun _ failed => nomatch failed) ?_)
  rintro _ _ -
  split
  · split
    · exact failsWith_statement fun fault failed =>
        .inr (.inr (Tables.breaks_of_insertAssignment failed))
    · exact Change.failsWith_throw (.inr (.inl rfl))
  · exact Change.failsWith_throw (.inl rfl)

private theorem failsWith_createOverride (recorded : t.Recorded) (row : Override) :
    (createOverride row).FailsWith t fun fault => (Write.createOverride row).Reports fault := by
  refine Change.FailsWith.bind (fun _ failed => nomatch failed) ?_
  rintro _ _ ⟨⟩
  refine (Change.failsWith_ofExcept fun fault failed => ?role).bind ?_
  case role => exact .inl (getRole_eq_error recorded failed)
  intro role s' kept
  rw [Change.apply_ofExcept] at kept
  obtain ⟨-, rfl⟩ := Prod.mk.inj kept
  refine (Change.failsWith_ofExcept fun fault failed => ?channel).bind ?_
  case channel =>
    rcases getChannel_eq_error recorded failed with missing | unreadable
    · exact .inl missing
    · exact .inr (.inr (.inl unreadable))
  intro channel s' kept
  rw [Change.apply_ofExcept] at kept
  obtain ⟨-, rfl⟩ := Prod.mk.inj kept
  split
  · exact failsWith_statement fun fault failed =>
      .inr (.inr (.inr (Tables.breaks_of_insertOverride failed)))
  · exact Change.failsWith_throw (.inr (.inl rfl))

/-- A write fails only with what it reports. -/
theorem Write.failsWith (recorded : t.Recorded) (write : Write) :
    write.change.FailsWith t fun fault => write.Reports fault := by
  have named {α : Type} {name : String} {next : Unit → Writing α} {kind : StoreFault → Prop}
      (rest : (next ()).FailsWith t kind) :
      (checkName name >>= next).FailsWith t fun fault => fault = .invalidName ∨ kind fault := by
    refine (failsWith_checkName (.inl rfl)).bind fun _ s' checked => ?_
    obtain rfl : t = s' := by
      unfold checkName at checked
      split at checked <;> cases checked
      rfl
    exact rest.mono fun fault told => .inr told
  cases write with
  | createUser row =>
    exact (failsWith_statement fun fault failed => Tables.breaks_of_insertUser failed).bind_pure _
  | createServer row joining joined =>
    exact (named (failsWith_founding row _).whole).bind_pure _
  | createSubscription row =>
    exact (failsWith_statement fun fault failed =>
      Tables.breaks_of_insertSubscription failed).bind_pure _
  | createRole row =>
    exact (named (failsWith_statement fun fault failed =>
      Tables.breaks_of_insertRole failed)).bind_pure _
  | createAssignment row => exact (failsWith_createAssignment row).bind_pure _
  | createGrant row =>
    exact (failsWith_statement fun fault failed => Tables.breaks_of_upsertGrant failed).bind_pure _
  | createChannel row =>
    exact (named (failsWith_statement fun fault failed =>
      Tables.breaks_of_insertChannel failed)).bind_pure _
  | createOverride row => exact (failsWith_createOverride recorded row).bind_pure _
  | deleteUser id | deleteServer id | deleteSubscription id | deleteRole id | deleteAssignment id
  | deleteGrant id | deleteChannel id | deleteOverride id => exact fun _ failed => nomatch failed

/-- A write that fails leaves the tables as they were. -/
theorem Write.unchanged_of_error (recorded : t.Recorded) {write : Write} {fault : StoreFault}
    (failed : (write.change.apply t).1 = .error fault) : (write.change.apply t).2 = t := by
  obtain ⟨other, same⟩ | ⟨answer, t', succeeded, -⟩ := write.does recorded
  · rw [same]
  · rw [succeeded] at failed
    cases failed

/-- A write that cannot have its effect fails. -/
theorem Write.fails_of_no_effect (recorded : t.Recorded) {write : Write}
    (impossible : ∀ t', ¬ write.Effect t t') :
    ∃ fault, write.change.apply t = (.error fault, t) := by
  obtain failed | ⟨answer, t', -, effect⟩ := write.does recorded
  · exact failed
  · exact (impossible t' effect).elim

/-- The owner of the server is missing, or an id that it needs is taken. -/
def Unfounded (t : StoredTables) (row : Server) (joining : Uuid) : Prop :=
  t.hasUser row.ownerId.text = false ∨ t.hasServer row.id.text = true ∨
    t.hasSubscription joining.text = true

private theorem Unfounded.no_effect {row : Server} {joining : Uuid} {joined : Time}
    (unfounded : Unfounded t row joining) (t' : StoredTables) :
    ¬ (Write.createServer row joining joined).Effect t t' := by
  rintro ⟨between, inserted, subscribed⟩
  obtain ⟨⟨fresh, owner⟩, rfl⟩ := Tables.insertServer_eq_ok_iff.mp inserted
  obtain ⟨⟨-, free, -⟩, -⟩ := Tables.insertSubscription_eq_ok_iff.mp subscribed
  rcases unfounded with missing | taken | taken
  · obtain ⟨user, there, named⟩ := owner
    exact List.any_eq_false.mp missing user there (decide_eq_true named)
  · obtain ⟨server, there, named⟩ := List.any_eq_true.mp taken
    exact fresh server there (of_decide_eq_true named)
  · obtain ⟨sub, there, named⟩ := List.any_eq_true.mp taken
    exact free sub there (of_decide_eq_true named)

/-- The subscription of the assignment is there, in its server and of its user, and so is the
role. -/
def Partnered (t : StoredTables) (row : Assignment) : Prop :=
  (∃ sub ∈ t.subscriptions, sub.id = row.subscriptionId.text ∧ sub.serverId = row.serverId.text ∧
    sub.userId = row.userId.text) ∧
  ∃ role ∈ t.roles, role.id = row.roleId.text ∧ role.serverId = row.serverId.text

/-- Whatever a write fails with, every table is as it was. A server without an owner, or with an id
that is taken, is not created and neither is its owner's subscription; an assignment whose partners
do not live in its server leaves no row. -/
theorem failed_write_changes_nothing (reachable : Reachable t) :
    (∀ (write : Write) (fault : StoreFault), (write.change.apply t).1 = .error fault →
      (write.change.apply t).2 = t ∧ write.Reports fault) ∧
    (∀ (row : Server) (joining : Uuid) (joined : Time), Unfounded t row joining →
      ∃ fault, (Write.createServer row joining joined).change.apply t = (.error fault, t)) ∧
    (∀ row : Assignment, ¬ Partnered t row →
      ∃ fault, (Write.createAssignment row).change.apply t = (.error fault, t)) := by
  have recorded := reachable.sound.recorded
  refine ⟨fun write fault failed => ?any, fun row joining joined unfounded => ?server,
    fun row stray => ?assignment⟩
  case any =>
    exact ⟨Write.unchanged_of_error recorded failed, write.failsWith recorded fault failed⟩
  case server => exact Write.fails_of_no_effect recorded unfounded.no_effect
  case assignment =>
    refine Write.fails_of_no_effect recorded ?_
    rintro t' ⟨sub, role, -⟩
    exact stray ⟨sub, role⟩

namespace Sample

/-- A server of user 2, though subscription 6 is taken. -/
def halfFounded : Write := .createServer ⟨⟨5⟩, "hut", ⟨2⟩, .epoch⟩ ⟨6⟩ .epoch

end Sample

/-- The row of a new server is taken back when the subscription of its owner cannot be created. -/
theorem half_founded_server_leaves_nothing :
    (Sample.founded.insertServer (storeServer ⟨⟨5⟩, "hut", ⟨2⟩, .epoch⟩)).isOk = true ∧
      (Sample.halfFounded.change.apply Sample.founded).1 =
        .error (.database (.unique .subscriptions ["id"])) ∧
      (Sample.halfFounded.change.apply Sample.founded).2 = Sample.founded := by
  have failed : (Sample.halfFounded.change.apply Sample.founded).1 =
      .error (.database (.unique .subscriptions ["id"])) := by rfl
  have left := (failed_write_changes_nothing ⟨_, rfl⟩).1 _ _ failed
  exact ⟨by decide +kernel, failed, left.1⟩

/-- The writes of a run that succeed. -/
def Write.succeeding : List Write → StoredTables → List Write
  | [], _ => []
  | write :: rest, t =>
    match write.change.apply t with
    | (.ok _, t') => write :: succeeding rest t'
    | (.error _, t') => succeeding rest t'

/-- Writes that fail might as well not have been tried. -/
theorem Write.runAll_succeeding (sound : t.Sound) (writes : List Write) :
    runAll (succeeding writes t) t = runAll writes t := by
  induction writes generalizing t with
  | nil => rfl
  | cons write rest ih =>
    have later := ih (sound_apply sound write)
    have left : runAll (write :: rest) t = runAll rest (write.change.apply t).2 := rfl
    rw [left, ← later, succeeding]
    cases applied : write.change.apply t with
    | mk ending t' =>
      cases ending with
      | ok answer =>
        simp only [runAll, List.foldl_cons, applied]
      | error fault =>
        have same := unchanged_of_error sound.recorded (congrArg Prod.fst applied)
        rw [applied] at same
        simp only at same
        simp only [same]

end Writes

end Gatehouse.Store
