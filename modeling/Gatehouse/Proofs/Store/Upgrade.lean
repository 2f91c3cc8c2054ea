import Gatehouse.Proofs.Store.Ascent

/-! # Bringing a schema up to date

The objects of a step and its number are not one change: a run that is cut short may leave some
objects of a step beside the number of the step before. A run that starts from there creates again
what is there, which changes nothing, and goes on; it ends as the first run would have ended.
-/

namespace Gatehouse.Store

namespace Builder

variable {d d' : Database} {o : SchemaObject} {os os' : List SchemaObject}

private theorem createAll_of_there (there : ∀ o ∈ os, o ∈ d.objects) :
    (plain.createAll os).apply d = (.ok (), d) := by
  induction os with
  | nil => rfl
  | cons o rest ih =>
    obtain ⟨first, others⟩ := List.forall_mem_cons.mp there
    have created : plain.create o d = .ok d := if_pos first
    rw [createAll_cons, created]
    exact ih others

private theorem objects_of_create (created : plain.create o d = .ok d') :
    o ∈ d'.objects ∧ d.objects ⊆ d'.objects := by
  have appended {d' : Database} (grown : d'.objects = d.objects ++ [o]) :
      o ∈ d'.objects ∧ d.objects ⊆ d'.objects := by
    rw [grown]
    exact ⟨List.mem_append_right _ (List.mem_singleton_self o), List.subset_append_left ..⟩
  simp only [plain, Database.create] at created
  split at created
  · next there =>
    cases created
    exact ⟨there, List.Subset.refl _⟩
  · split at created
    · cases created
      exact appended rfl
    · split at created <;> cases created
      exact appended rfl

private theorem objects_of_createAll (created : (plain.createAll os).apply d = (.ok (), d')) :
    (∀ o ∈ os, o ∈ d'.objects) ∧ d.objects ⊆ d'.objects := by
  induction os generalizing d with
  | nil =>
    cases created
    exact ⟨nofun, List.Subset.refl _⟩
  | cons o rest ih =>
    rw [createAll_cons] at created
    cases first : plain.create o d with
    | error fault =>
      rw [first] at created
      cases created
    | ok between =>
      rw [first] at created
      obtain ⟨there, kept⟩ := ih created
      obtain ⟨own, before⟩ := objects_of_create first
      exact ⟨List.forall_mem_cons.mpr ⟨kept own, there⟩, List.Subset.trans before kept⟩

/-- Creations of which the first were made already end as if they had not been. -/
theorem createAll_again (created : (plain.createAll os).apply d = (.ok (), d'))
    (part : os <+: os') : (plain.createAll os').apply d' = (plain.createAll os').apply d := by
  obtain ⟨more, rfl⟩ := part
  have again := createAll_of_there (objects_of_createAll created).1
  rw [createAll_append, createAll_append, created, again]

end Builder

namespace Database

/-- What a run of steps leaves that is cut short. It has completed some steps and recorded their
numbers, and of the step after them it has created the first objects, perhaps all, perhaps none. -/
def CutShort (steps : List Step) (before left : Database) : Prop :=
  ∃ complete rest begun between, steps = complete ++ rest ∧
    begun <+: rest.head?.elim [] (·.creates) ∧
    (takeSteps complete).apply before = (.ok (), between) ∧
    (createAll begun).apply between = (.ok (), left)

variable {d d' : Database} {steps : List Step}

theorem CutShort.version_eq (ascending : Step.Ascending d.version steps)
    (cut : CutShort steps d d') : ∃ complete rest, steps = complete ++ rest ∧
      d'.version = Step.lastVersion d.version complete := by
  obtain ⟨complete, rest, begun, between, rfl, -, taken, created⟩ := cut
  rw [← Builder.takeSteps_plain] at taken
  rw [← Builder.createAll_plain] at created
  have kept := Builder.version_createAll .plain begun between
  rw [created] at kept
  exact ⟨complete, rest, rfl, kept.trans (Builder.version_of_takeSteps ascending.front taken)⟩

/-- A run that is cut short and taken up again ends as if it had not been cut short. -/
theorem CutShort.takeSteps (ascending : Step.Ascending d.version steps)
    (cut : CutShort steps d d') :
    (takeSteps (steps.filter (d'.version < ·.version))).apply d' = (takeSteps steps).apply d := by
  obtain ⟨complete, rest, begun, between, rfl, part, taken, created⟩ := cut
  simp only [← Builder.takeSteps_plain, ← Builder.createAll_plain] at taken created ⊢
  have kept := Builder.version_createAll .plain begun between
  rw [created, Builder.version_of_takeSteps ascending.front taken] at kept
  rw [Builder.takeSteps_append, taken, kept, ascending.filter_lastVersion]
  cases rest with
  | nil =>
    obtain rfl := List.prefix_nil.mp part
    cases created
    rfl
  | cons step rest =>
    have again : (Builder.plain.createAll step.creates).apply d' = _ :=
      Builder.createAll_again created part
    simp only [Builder.takeSteps_cons, again]

/-- The same database with other rows. -/
def withRows (rows : StoredTables) (d : Database) : Database := { d with tables := rows }

/-- Apart from its rows, the database is what a run on a new one leaves that is cut short. -/
def Interrupted (d : Database) : Prop := CutShort Step.all blank (d.withRows Tables.empty)

private theorem create_withRows (o : SchemaObject) (d : Database) (rows : StoredTables) :
    create o (d.withRows rows) = (create o d).map (withRows rows) := by
  by_cases there : o ∈ d.objects
  · simp only [create, withRows, there, ↓reduceIte]
    rfl
  · cases o with
    | table t =>
      simp only [create, withRows, there, ↓reduceIte]
      rfl
    | index i =>
      by_cases based : .table i.table ∈ d.objects <;>
        simp only [create, withRows, there, based, ↓reduceIte] <;> rfl

private theorem createAll_withRows (os : List SchemaObject) (d : Database) (rows : StoredTables) :
    (createAll os).apply (d.withRows rows) = ((createAll os).apply d).map id (withRows rows) := by
  rw [← Builder.createAll_plain]
  induction os generalizing d with
  | nil => rfl
  | cons o rest ih =>
    have created : Builder.plain.create o (d.withRows rows) =
        (Builder.plain.create o d).map (withRows rows) := create_withRows o d rows
    rw [Builder.createAll_cons, Builder.createAll_cons, created]
    cases Builder.plain.create o d with
    | error fault => rfl
    | ok d' => exact ih d'

private theorem takeSteps_withRows (steps : List Step) (d : Database) (rows : StoredTables) :
    (Database.takeSteps steps).apply (d.withRows rows) =
      ((Database.takeSteps steps).apply d).map id (withRows rows) := by
  rw [← Builder.takeSteps_plain]
  induction steps generalizing d with
  | nil => rfl
  | cons step rest ih =>
    have created := createAll_withRows step.creates d rows
    rw [← Builder.createAll_plain] at created
    rw [Builder.takeSteps_cons, Builder.takeSteps_cons, created]
    rcases (Builder.plain.createAll step.creates).apply d with ⟨fault | _, d'⟩
    · rfl
    · exact ih (d'.stamp step.version)

private theorem CutShort.withRows (cut : CutShort steps d d') (rows : StoredTables) :
    CutShort steps (d.withRows rows) (d'.withRows rows) := by
  obtain ⟨complete, rest, begun, between, listed, part, taken, created⟩ := cut
  refine ⟨complete, rest, begun, between.withRows rows, listed, part, ?_, ?_⟩
  · rw [takeSteps_withRows, taken]
    rfl
  · rw [createAll_withRows, created]
    rfl

/-- A database that is up to date and has these rows. -/
def current (rows : StoredTables) : Database :=
  ⟨currentVersion, Step.all.flatMap (·.creates), rows⟩

private theorem takeSteps_all (rows : StoredTables) :
    (takeSteps Step.all).apply (blank.withRows rows) = (.ok (), current rows) := by
  have new : (takeSteps Step.all).apply blank = (.ok (), current Tables.empty) := rfl
  rw [takeSteps_withRows, new]
  rfl

/-- An interrupted database is brought up to date as a new one is, and its rows stay. -/
theorem migrate_of_interrupted (interrupted : Interrupted d) :
    migrate.apply d = (.ok (), current d.tables) := by
  have cut : CutShort Step.all (blank.withRows d.tables) d := CutShort.withRows interrupted d.tables
  have known : 0 ≤ d.version ∧ d.version ≤ currentVersion := by
    obtain ⟨complete, rest, listed, version⟩ := cut.version_eq Step.ascending_all
    have version : d.version = Step.lastVersion 0 complete := version
    have ascending : Step.Ascending 0 (complete ++ rest) := listed ▸ Step.ascending_all
    have last : Step.lastVersion 0 (complete ++ rest) = currentVersion := listed ▸ rfl
    rw [version, ← last, Step.lastVersion_append]
    exact ⟨ascending.front.le_lastVersion, ascending.back.le_lastVersion⟩
  rw [← Builder.migrate_plain, Builder.migrate_apply, if_neg (Int.not_lt.mpr known.1),
    if_neg (Int.not_lt.mpr known.2), Builder.takeSteps_plain, cut.takeSteps Step.ascending_all,
    takeSteps_all]

/-- A database that is up to date is what a run leaves that was not cut short after all. -/
theorem interrupted_current (rows : StoredTables) : Interrupted (current rows) :=
  ⟨Step.all, [], [], current Tables.empty, rfl, List.prefix_rfl, takeSteps_all Tables.empty, rfl⟩

/-- From wherever the creation of the schema was interrupted, one run brings the database up to date
and keeps its rows, and any number of further runs changes nothing. Whatever the creations do, a
number that is negative or too new is refused and nothing changes, the number never decreases, and
if a step fails the number is that of the last step that was completed. -/
theorem migration_converges :
    (∀ d, Interrupted d → ∃ final, migrate.apply d = (.ok (), final) ∧
      final.version = currentVersion ∧ (∀ t, .table t ∈ final.objects) ∧
      (∀ i, .index i ∈ final.objects) ∧ final.tables = d.tables ∧
      ∀ runs, Nat.repeat (fun before => migrate.apply before.2) runs (.ok (), final) =
        (.ok (), final)) ∧
    Builder.plain.migrate = migrate ∧
    ∀ (b : Builder) (d : Database),
      (d.version < 0 ∨ currentVersion < d.version →
        ∃ fault, b.migrate.apply d = (.error fault, d)) ∧
      d.version ≤ (b.migrate.apply d).2.version ∧
      ∀ fault d', 0 ≤ d.version ∧ d.version ≤ currentVersion →
        b.migrate.apply d = (.error fault, d') →
        ∃ complete step rest between cause,
          Step.all.filter (d.version < ·.version) = complete ++ step :: rest ∧
          (b.takeSteps complete).apply d = (.ok (), between) ∧
          (b.createAll step.creates).apply between = (.error cause, d') ∧
          fault = .migration (.stepFailed step.name cause) ∧
          d'.version = Step.lastVersion d.version complete := by
  refine ⟨fun d interrupted => ?_, Builder.migrate_plain, fun b d => ?_⟩
  · refine ⟨current d.tables, migrate_of_interrupted interrupted, rfl, ?_, ?_, rfl, fun runs => ?_⟩
    · exact fun t => Step.creates_all (.table t)
    · exact fun i => Step.creates_all (.index i)
    · induction runs with
      | zero => rfl
      | succ runs ih =>
        rw [Nat.repeat, ih]
        exact migrate_of_interrupted (interrupted_current d.tables)
  · exact ⟨Builder.migrate_of_unknown, b.version_le_migrate d,
      fun fault d' known failed => Builder.migrate_eq_error known failed⟩

end Database

namespace Sample

open Database

/-- A database with all tables, the first two indexes, and a user. -/
def halfIndexed : Database where
  version := 1
  objects := Step.initial.creates ++ [.index .serversOwner, .index .subscriptionsUser]
  tables := ((Write.createUser ⟨⟨1⟩, "owner", .epoch⟩).change.apply Tables.empty).2

private theorem halfIndexed_interrupted : Interrupted halfIndexed :=
  ⟨[.initial], [.indexes], [.index .serversOwner, .index .subscriptionsUser],
    ⟨1, Step.initial.creates, Tables.empty⟩, rfl, by decide, rfl, rfl⟩

/-- A database that says that its tables are there, though they are not. -/
def hollow : Database := ⟨1, [], Tables.empty⟩

end Sample

/-- Half of the indexes are completed and the user stays; a schema of tomorrow is refused; indexes
without tables fail at the first one, and the number stays. -/
theorem half_indexed_schema_completed :
    (∃ final, Database.migrate.apply Sample.halfIndexed = (.ok (), final) ∧ final.version = 2 ∧
      SchemaObject.index .overridesRole ∈ final.objects ∧
      final.tables = Sample.halfIndexed.tables) ∧
    (∃ fault, Builder.plain.migrate.apply ⟨3, [], Tables.empty⟩ =
      (.error fault, ⟨3, [], Tables.empty⟩)) ∧
    (Builder.plain.migrate.apply Sample.hollow).2.version = 1 := by
  obtain ⟨converges, -, always⟩ := Database.migration_converges
  refine ⟨?_, (always .plain ⟨3, [], Tables.empty⟩).1 (.inr (by decide)), ?_⟩
  · obtain ⟨final, migrated, version, -, indexes, rows, -⟩ :=
      converges Sample.halfIndexed Sample.halfIndexed_interrupted
    exact ⟨final, migrated, version, indexes .overridesRole, rows⟩
  · have failed : Builder.plain.migrate.apply Sample.hollow =
        (.error (.migration (.stepFailed "v002_indexes" (.noSuchTable .servers))),
          Sample.hollow) := rfl
    obtain ⟨complete, step, rest, between, cause, listed, -, -, -, version⟩ :=
      (always .plain Sample.hollow).2.2 _ _ (by decide) failed
    have none_complete : complete = [] := by
      have only : [Step.indexes] = complete ++ step :: rest := listed
      cases complete with
      | nil => rfl
      | cons first more => simp at only
    rw [failed, version, none_complete]
    rfl

end Gatehouse.Store
