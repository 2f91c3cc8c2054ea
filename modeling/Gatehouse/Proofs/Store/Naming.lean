import Gatehouse.Proofs.Store.Run
import Gatehouse.Proofs.Trim

/-! # Stored names

The length of a name is checked without the blanks at its ends, but the name is stored with them. So
the bound holds for the core of every stored name: no stored name is blank, and one that neither
begins nor ends with a blank is short enough. It does not hold for stored names as a whole, and no
other bound does.
-/

namespace Gatehouse

namespace Name

/-- What is promised of a name: there is more to it than blanks, and it is not too long. -/
def Fits (name : String) : Prop :=
  (∃ c ∈ name.toList, Text.isBlank c = false) ∧ name.length ≤ limit

/-- A text that neither begins nor ends with a blank fits if it is neither empty nor too long. -/
theorem fits_ofList_iff {core : List Char} (tight : Text.Tight core) :
    Fits (String.ofList core) ↔ 1 ≤ core.length ∧ core.length ≤ limit := by
  rw [Fits, ← String.length_toList, String.toList_ofList]
  refine and_congr_left fun _ => ⟨?_, ?_⟩
  · rintro ⟨c, there, -⟩
    exact List.length_pos_of_mem there
  · intro long
    cases core with
    | nil => cases long
    | cons c rest => exact ⟨c, List.mem_cons_self, tight.head c rfl⟩

/-- A name is acceptable if its core fits. -/
theorem acceptable_iff {name : String} :
    acceptable name = true ↔ ∃ core, Text.Framed name.toList core ∧ Fits (String.ofList core) := by
  simp only [acceptable, Bool.and_eq_true, decide_eq_true_eq]
  constructor
  · intro short
    have framed := Text.framed_trimChars name.toList
    exact ⟨_, framed, (fits_ofList_iff framed.1).mpr short⟩
  · rintro ⟨core, framed, fits⟩
    rw [Text.trimChars_eq_of_framed framed]
    exact (fits_ofList_iff framed.1).mp fits

/-- Without blanks at its ends an acceptable name fits. -/
theorem fits_of_tight {name : String} (tight : Text.Tight name.toList)
    (passes : acceptable name = true) : Fits name := by
  obtain ⟨core, framed, fits⟩ := acceptable_iff.mp passes
  rwa [← Text.trimChars_eq_of_framed framed, tight.trimChars, String.ofList_toList] at fits

/-- A letter with this many blanks after it. -/
def trailed (blanks : Nat) : String := String.ofList ('x' :: List.replicate blanks ' ')

private theorem length_trailed (blanks : Nat) : (trailed blanks).length = blanks + 1 := by
  rw [trailed, ← String.length_toList, String.toList_ofList, List.length_cons, List.length_replicate]

private theorem acceptable_trailed (blanks : Nat) : acceptable (trailed blanks) = true := by
  have tight : Text.Tight ['x'] := ⟨by simp; decide, by simp; decide⟩
  refine acceptable_iff.mpr ⟨['x'], ⟨tight, [], List.replicate blanks ' ', ?_, ?_, ?_⟩, ?_⟩
  · exact String.toList_ofList
  · simp
  · intro c there
    rw [List.eq_of_mem_replicate there]
    decide
  · exact (fits_ofList_iff tight).mpr ⟨by decide, by decide⟩

end Name

namespace Store

/-- What has a name that is checked. -/
inductive Named where
  | server
  | role
  | channel
deriving DecidableEq, Repr

/-- The names of all servers, roles or channels. -/
def Tables.names (t : StoredTables) : Named → List String
  | .server => t.servers.map (·.name)
  | .role => t.roles.map (·.name)
  | .channel => t.channels.map (·.name)

/-- The name that a write brings. -/
def Write.naming? : Write → Option (Named × String)
  | .createServer row _ _ => some (.server, row.name)
  | .createRole row => some (.role, row.name)
  | .createChannel row => some (.channel, row.name)
  | _ => none

variable {t t' : StoredTables} {write : Write} {kind : Named} {name : String}

private theorem apply_checkName_bind {α : Type} (unacceptable : Name.acceptable name = false)
    (next : Unit → Writing α) (t : StoredTables) :
    (checkName name >>= next).apply t = (.error .invalidName, t) := by
  simp only [Change.apply_bind, checkName, unacceptable, Bool.false_eq_true, if_false,
    Change.apply_throw]

/-- A write that brings a name that is not acceptable fails before it has done anything. -/
theorem Write.apply_of_unacceptable (brings : write.naming? = some (kind, name))
    (unacceptable : Name.acceptable name = false) (t : StoredTables) :
    write.change.apply t = (.error .invalidName, t) := by
  cases write with
  | createServer row joining joined =>
    cases brings
    rw [Write.change, Change.apply_bind, Store.createServer, apply_checkName_bind unacceptable]
  | createRole row =>
    cases brings
    rw [Write.change, Change.apply_bind, Store.createRole, apply_checkName_bind unacceptable]
  | createChannel row =>
    cases brings
    rw [Write.change, Change.apply_bind, Store.createChannel, apply_checkName_bind unacceptable]
  | _ => cases brings

theorem Tables.Part.names (part : Tables.Part t' t) (kind : Named) :
    (t'.names kind).Sublist (t.names kind) := by
  cases kind with
  | server => exact part.servers.map _
  | role => exact part.roles.map _
  | channel => exact part.channels.map _

/-- The names that were not there before are the one that the write brings. -/
theorem Write.Effect.names (effect : write.Effect t t') (stored : name ∈ t'.names kind) :
    name ∈ t.names kind ∨ write.naming? = some (kind, name) := by
  cases write with
  | createUser row =>
    obtain ⟨-, rfl⟩ := Tables.insertUser_eq_ok_iff.mp effect
    cases kind <;> exact .inl stored
  | createServer row joining joined =>
    obtain ⟨between, inserted, subscribed⟩ := effect
    obtain ⟨-, rfl⟩ := Tables.insertServer_eq_ok_iff.mp inserted
    obtain ⟨-, rfl⟩ := Tables.insertSubscription_eq_ok_iff.mp subscribed
    cases kind with
    | server => simpa [Tables.names, naming?, storeServer, eq_comm] using stored
    | role | channel => exact .inl stored
  | createSubscription row =>
    obtain ⟨-, rfl⟩ := Tables.insertSubscription_eq_ok_iff.mp effect
    cases kind <;> exact .inl stored
  | createRole row =>
    obtain ⟨-, rfl⟩ := Tables.insertRole_eq_ok_iff.mp effect
    cases kind with
    | role => simpa [Tables.names, naming?, storeRole, eq_comm] using stored
    | server | channel => exact .inl stored
  | createAssignment row =>
    obtain ⟨-, rfl⟩ := Tables.insertAssignment_eq_ok_iff.mp effect.2.2
    cases kind <;> exact .inl stored
  | createGrant row =>
    obtain rfl | ⟨-, rfl⟩ := Tables.upsertGrant_cases effect <;> cases kind <;> exact .inl stored
  | createChannel row =>
    obtain ⟨-, rfl⟩ := Tables.insertChannel_eq_ok_iff.mp effect
    cases kind with
    | channel => simpa [Tables.names, naming?, storeChannel, eq_comm] using stored
    | server | role => exact .inl stored
  | createOverride row =>
    obtain ⟨-, rfl⟩ := Tables.insertOverride_eq_ok_iff.mp effect.2.2
    cases kind <;> exact .inl stored
  | deleteUser id | deleteServer id | deleteSubscription id | deleteRole id | deleteAssignment id
  | deleteGrant id | deleteChannel id | deleteOverride id =>
    exact .inl (((effect.part rfl).names kind).mem stored)

/-- All stored names are acceptable. -/
def Tables.Checked (t : StoredTables) : Prop :=
  ∀ kind, ∀ name ∈ t.names kind, Name.acceptable name = true

private theorem Tables.checked_empty : (Tables.empty : StoredTables).Checked := by
  rintro (_ | _ | _) name stored <;> cases stored

private theorem Write.checked_apply (sound : t.Sound) (checked : t.Checked) (write : Write) :
    (write.change.apply t).2.Checked := by
  intro kind name stored
  obtain unchanged | effect := write.apply_cases sound.recorded
  · rw [unchanged] at stored
    exact checked kind name stored
  · obtain before | brings := effect.names stored
    · exact checked kind name before
    · cases acceptable : Name.acceptable name with
      | true => rfl
      | false =>
        rw [Write.apply_of_unacceptable brings acceptable] at stored
        exact acceptable ▸ checked kind name stored

private theorem Write.checked_runAll (sound : t.Sound) (checked : t.Checked) (writes : List Write) :
    (Write.runAll writes t).Checked := by
  induction writes generalizing t with
  | nil => exact checked
  | cons write rest ih => exact ih (sound_apply sound write) (checked_apply sound checked write)

theorem Reachable.checked (reachable : Reachable t) : t.Checked := by
  obtain ⟨writes, rfl⟩ := reachable
  exact Write.checked_runAll Tables.sound_empty Tables.checked_empty writes

/-- A user founds a server of this name, with a role and a channel of the same name. -/
def christening (name : String) : List Write :=
  [.createUser ⟨⟨1⟩, "owner", .epoch⟩, .createServer ⟨⟨7⟩, name, ⟨1⟩, .epoch⟩ ⟨6⟩ .epoch,
    .createRole ⟨⟨8⟩, ⟨7⟩, name, 0, 0, 0⟩, .createChannel ⟨⟨9⟩, ⟨7⟩, name, false, .epoch⟩]

/-- The tables with that server, named as given. -/
def christened (name : String) : StoredTables where
  users := [storeUser ⟨⟨1⟩, "owner", .epoch⟩]
  servers := [storeServer ⟨⟨7⟩, name, ⟨1⟩, .epoch⟩]
  subscriptions := [storeSubscription ⟨⟨6⟩, ⟨7⟩, ⟨1⟩, .epoch⟩]
  roles := [storeRole ⟨⟨8⟩, ⟨7⟩, name, 0, 0, 0⟩]
  assignments := []
  grants := []
  channels := [storeChannel ⟨⟨9⟩, ⟨7⟩, name, false, .epoch⟩]
  overrides := []

private theorem names_christened (name : String) (kind : Named) :
    (christened name).names kind = [name] := by
  cases kind <;> rfl

private theorem runAll_christening (acceptable : Name.acceptable name = true) :
    Write.runAll (christening name) Tables.empty = christened name := by
  have passes : checkName name = pure () := by rw [checkName, acceptable]; rfl
  -- the writes one by one, each with the insertion that it is
  simp only [Write.runAll, christening, List.foldl_cons, List.foldl_nil, Write.change,
    Store.createUser, Store.createServer, Store.createRole, Store.createChannel, passes]
  simp only [statement, Change.apply_bind, Change.apply_pure, Change.mapFault, Change.update,
    Change.apply_ofApply, Change.whole]
  simp only [Tables.empty, Tables.insertUser, Tables.insertServer, Tables.insertSubscription,
    Tables.insertRole, Tables.insertChannel, Tables.unlessBroken]
  simp only [Tables.hasUser, Tables.hasServer, Tables.hasSubscription, Tables.hasRole,
    Tables.hasChannel, storeUser, storeServer, storeSubscription, storeRole, storeChannel,
    List.any_nil, List.any_cons, List.nil_append, Bool.false_eq_true, if_false, decide_true,
    Bool.or_false, Bool.not_true, mapError_ok, christened]

private theorem reachable_christened (acceptable : Name.acceptable name = true) :
    Reachable (christened name) :=
  ⟨christening name, (runAll_christening acceptable).symm⟩

/-- A stored name that neither begins nor ends with a blank fits. -/
theorem stored_name_fits (reachable : Reachable t) (stored : name ∈ t.names kind)
    (tight : Text.Tight name.toList) : Name.Fits name :=
  Name.fits_of_tight tight (reachable.checked kind name stored)

/-- No length is too long for a stored name. -/
theorem stored_name_unbounded (kind : Named) (bound : Nat) :
    ∃ t, Reachable t ∧ ∃ name ∈ t.names kind, bound < name.length := by
  refine ⟨_, reachable_christened (Name.acceptable_trailed bound), Name.trailed bound, ?_, ?_⟩
  · rw [names_christened]
    exact List.mem_singleton_self _
  · rw [Name.length_trailed]
    exact Nat.lt_succ_self bound

/-- What is promised of names holds of their cores: the names that servers, roles and channels can
come to have are the texts with a core of which it holds. -/
theorem stored_name_iff (kind : Named) (name : String) :
    (∃ t, Reachable t ∧ name ∈ t.names kind) ↔
      ∃ core, Text.Framed name.toList core ∧ Name.Fits (String.ofList core) := by
  rw [← Name.acceptable_iff]
  constructor
  · rintro ⟨t, reachable, stored⟩
    exact reachable.checked kind name stored
  · intro acceptable
    exact ⟨christened name, reachable_christened acceptable, by simp [names_christened]⟩

/-- A letter with a hundred blanks after it becomes the name of a server, a role and a channel. -/
theorem overlong_names_stored :
    Reachable (Write.runAll (christening (Name.trailed 100)) Tables.empty) ∧
      ∀ kind, ∃ name ∈ (Write.runAll (christening (Name.trailed 100)) Tables.empty).names kind,
        ¬ Name.Fits name := by
  refine ⟨⟨_, rfl⟩, fun kind => ⟨Name.trailed 100, ?_, ?_⟩⟩
  · rw [runAll_christening (Name.acceptable_trailed 100), names_christened]
    exact List.mem_singleton_self _
  · rintro ⟨-, short⟩
    rw [Name.length_trailed] at short
    exact absurd short (by decide)

end Store

end Gatehouse
