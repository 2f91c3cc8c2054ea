import Gatehouse.Proofs.Store.Run

/-! # The recorded number of a schema

The number of a step is recorded after all of its objects are there. So whatever becomes of the
single creations, the recorded number never decreases, and after a failure it is that of the last
step that was completed.
-/

namespace Gatehouse.Store

namespace Change

variable {σ ε β : Type}

private theorem apply_update_bind (f : σ → Except ε σ) (next : Unit → Change σ ε β) (s : σ) :
    (update f >>= next).apply s =
      match f s with
      | .ok s' => (next ()).apply s'
      | .error fault => (.error fault, s) := by
  rw [apply_bind, update, apply_ofApply]
  cases f s <;> rfl

end Change

namespace Step

/-- The number of the last of these steps, or else the given one. -/
def lastVersion (version : Int) (steps : List Step) : Int :=
  (steps.getLast?.map (·.version)).getD version

private theorem lastVersion_cons (version : Int) (step : Step) (steps : List Step) :
    lastVersion version (step :: steps) = lastVersion step.version steps := by
  cases steps with
  | nil => rfl
  | cons next rest => simp [lastVersion, List.getLast?_cons]

theorem lastVersion_append (version : Int) (done rest : List Step) :
    lastVersion version (done ++ rest) = lastVersion (lastVersion version done) rest := by
  induction done generalizing version with
  | nil => rfl
  | cons step done ih => rw [List.cons_append, lastVersion_cons, lastVersion_cons, ih]

/-- The numbers of the steps grow from above the given one on, and they can be recorded. -/
structure Ascending (version : Int) (steps : List Step) : Prop where
  sorted : steps.Pairwise fun step later => step.version < later.version
  above : ∀ step ∈ steps, version < step.version
  recordable : ∀ step ∈ steps,
    Int32.minValue.toInt ≤ step.version ∧ step.version ≤ Int32.maxValue.toInt

theorem ascending_all : Ascending 0 all := by
  constructor <;> decide

/-- The steps together create every table and every index. -/
theorem creates_all (o : SchemaObject) : o ∈ all.flatMap (·.creates) := by
  cases o with
  | table t => cases t <;> decide
  | index i => cases i <;> decide

namespace Ascending

variable {version : Int} {step : Step} {steps done rest : List Step}

theorem later (ascending : Ascending version (step :: steps)) : Ascending step.version steps where
  sorted := (List.pairwise_cons.mp ascending.sorted).2
  above := (List.pairwise_cons.mp ascending.sorted).1
  recordable := (List.forall_mem_cons.mp ascending.recordable).2

theorem le_lastVersion (ascending : Ascending version steps) :
    version ≤ lastVersion version steps := by
  induction steps generalizing version with
  | nil => exact Int.le_refl version
  | cons step rest ih =>
    rw [lastVersion_cons]
    have above := ascending.above step (List.mem_cons_self ..)
    exact Int.le_trans (Int.le_of_lt above) (ih ascending.later)

theorem front (ascending : Ascending version (done ++ rest)) : Ascending version done where
  sorted := (List.pairwise_append.mp ascending.sorted).1
  above _ listed := ascending.above _ (List.mem_append_left _ listed)
  recordable _ listed := ascending.recordable _ (List.mem_append_left _ listed)

theorem back (ascending : Ascending version (done ++ rest)) :
    Ascending (lastVersion version done) rest := by
  induction done generalizing version with
  | nil => exact ascending
  | cons step done ih =>
    rw [lastVersion_cons]
    exact ih ascending.later

/-- Of ascending steps those above the last of the first ones are the other ones. -/
theorem filter_lastVersion (ascending : Ascending version (done ++ rest)) :
    (done ++ rest).filter (fun step => lastVersion version done < step.version) = rest := by
  induction done generalizing version with
  | nil =>
    exact List.filter_eq_self.mpr fun step listed => decide_eq_true (ascending.above step listed)
  | cons step done ih =>
    have reached := ascending.later.front.le_lastVersion
    rw [List.cons_append, lastVersion_cons, List.filter_cons_of_neg (by simpa using reached)]
    exact ih ascending.later

theorem filter (ascending : Ascending version steps) (start : Int) :
    Ascending start (steps.filter (start < ·.version)) where
  sorted := ascending.sorted.filter _
  above _ listed := of_decide_eq_true (List.mem_filter.mp listed).2
  recordable step listed := ascending.recordable step (List.mem_filter.mp listed).1

end Ascending

end Step

/-- How creations turn out. They may fail in any way, and what they do in a database that holds more
than is known here is left open, but they leave the number of the schema alone. -/
structure Builder where
  create : SchemaObject → Database → Except DatabaseFault Database
  version_eq : ∀ {o : SchemaObject} {d d' : Database}, create o d = .ok d' → d'.version = d.version

namespace Builder

variable (b : Builder)

def createAll : List SchemaObject → Change Database DatabaseFault Unit
  | [] => return
  | o :: rest => do
    Change.update (b.create o)
    createAll rest

def takeSteps : List Step → Change Database StoreFault Unit
  | [] => return
  | step :: rest => do
    (b.createAll step.creates).mapFault fun fault => .migration (.stepFailed step.name fault)
    modify (Database.stamp step.version)
    takeSteps rest

/-- Bring the schema up to date. -/
def migrate : Change Database StoreFault Unit := do
  let version := (← get).version
  if version < 0 then throw (.database (.versionRange version))
  if currentVersion < version then throw (.migration (.newerSchema version currentVersion))
  b.takeSteps (Step.all.filter (version < ·.version))

/-- In a database that holds nothing but the tables and indexes of the schema. -/
def plain : Builder where
  create := Database.create
  version_eq := by
    intro o d d' created
    unfold Database.create at created
    split at created
    · cases created
      rfl
    · split at created
      · cases created
        rfl
      · split at created <;> cases created
        rfl

theorem createAll_plain : plain.createAll = Database.createAll := by
  funext os
  induction os with
  | nil => rfl
  | cons o rest ih =>
    simp only [createAll, Database.createAll, ih]
    rfl

theorem takeSteps_plain : plain.takeSteps = Database.takeSteps := by
  funext steps
  induction steps with
  | nil => rfl
  | cons step rest ih => simp only [takeSteps, Database.takeSteps, createAll_plain, ih]

theorem migrate_plain : plain.migrate = Database.migrate := by
  simp only [migrate, Database.migrate, takeSteps_plain]

variable {b} {d d' : Database} {o : SchemaObject} {os os' : List SchemaObject} {step : Step}
  {steps steps' : List Step}

theorem createAll_cons : (b.createAll (o :: os)).apply d =
    match b.create o d with
    | .ok d' => (b.createAll os).apply d'
    | .error fault => (.error fault, d) := by
  rw [createAll, Change.apply_update_bind]
  cases b.create o d <;> rfl

theorem takeSteps_cons : (b.takeSteps (step :: steps)).apply d =
    match (b.createAll step.creates).apply d with
    | (.ok (), d') => (b.takeSteps steps).apply (d'.stamp step.version)
    | (.error fault, d') => (.error (.migration (.stepFailed step.name fault)), d') := by
  rw [takeSteps, Change.apply_bind, Change.mapFault, Change.apply_ofApply]
  rcases (b.createAll step.creates).apply d with ⟨_ | _, _⟩ <;> rfl

theorem migrate_apply : b.migrate.apply d =
    if d.version < 0 then (.error (.database (.versionRange d.version)), d)
    else if currentVersion < d.version then
      (.error (.migration (.newerSchema d.version currentVersion)), d)
    else (b.takeSteps (Step.all.filter (d.version < ·.version))).apply d := by
  rw [migrate, Change.apply_bind]
  simp only [Change.apply_get]
  split
  · rfl
  · split <;> rfl

theorem takeSteps_append : (b.takeSteps (steps ++ steps')).apply d =
    match (b.takeSteps steps).apply d with
    | (.ok (), d') => (b.takeSteps steps').apply d'
    | (.error fault, d') => (.error fault, d') := by
  induction steps generalizing d with
  | nil => rfl
  | cons step rest ih =>
    rw [List.cons_append, takeSteps_cons, takeSteps_cons]
    rcases (b.createAll step.creates).apply d with ⟨_ | _, d'⟩
    · rfl
    · exact ih

theorem createAll_append : (b.createAll (os ++ os')).apply d =
    match (b.createAll os).apply d with
    | (.ok (), d') => (b.createAll os').apply d'
    | (.error fault, d') => (.error fault, d') := by
  induction os generalizing d with
  | nil => rfl
  | cons o rest ih =>
    rw [List.cons_append, createAll_cons, createAll_cons]
    cases b.create o d with
    | ok d' => exact ih
    | error fault => rfl

theorem version_createAll (b : Builder) (os : List SchemaObject) (d : Database) :
    ((b.createAll os).apply d).2.version = d.version := by
  induction os generalizing d with
  | nil => rfl
  | cons o rest ih =>
    rw [createAll_cons]
    cases created : b.create o d with
    | ok d' => exact (ih d').trans (b.version_eq created)
    | error fault => rfl

private theorem version_stamp {version : Int}
    (fits : Int32.minValue.toInt ≤ version ∧ version ≤ Int32.maxValue.toInt) :
    (d.stamp version).version = version :=
  if_pos fits

/-- Once all steps are taken the number of the last one is recorded. -/
theorem version_of_takeSteps (ascending : Step.Ascending d.version steps)
    (taken : (b.takeSteps steps).apply d = (.ok (), d')) :
    d'.version = Step.lastVersion d.version steps := by
  induction steps generalizing d with
  | nil =>
    cases taken
    rfl
  | cons step rest ih =>
    rw [takeSteps_cons] at taken
    rcases created : (b.createAll step.creates).apply d with ⟨_ | _, d₁⟩
    · rw [created] at taken
      cases taken
    · rw [created] at taken
      have recorded := version_stamp (d := d₁) (ascending.recordable step (List.mem_cons_self ..))
      have later : Step.Ascending (d₁.stamp step.version).version rest := by
        rw [recorded]
        exact ascending.later
      rw [Step.lastVersion_cons, ih later taken, recorded]

/-- A run that fails has completed some steps, whose last number is recorded, and then failed at an
object of the next one. -/
theorem takeSteps_eq_error (ascending : Step.Ascending d.version steps) {fault : StoreFault}
    (failed : (b.takeSteps steps).apply d = (.error fault, d')) :
    ∃ complete step rest between cause, steps = complete ++ step :: rest ∧
      (b.takeSteps complete).apply d = (.ok (), between) ∧
      (b.createAll step.creates).apply between = (.error cause, d') ∧
      fault = .migration (.stepFailed step.name cause) ∧
      d'.version = Step.lastVersion d.version complete := by
  induction steps generalizing d with
  | nil => cases failed
  | cons step rest ih =>
    have kept := b.version_createAll step.creates d
    rw [takeSteps_cons] at failed
    rcases created : (b.createAll step.creates).apply d with ⟨cause | _, d₁⟩
    · rw [created] at failed kept
      cases failed
      exact ⟨[], step, rest, d, cause, rfl, rfl, created, rfl, kept⟩
    · rw [created] at failed
      have recorded := version_stamp (d := d₁) (ascending.recordable step (List.mem_cons_self ..))
      have later : Step.Ascending (d₁.stamp step.version).version rest := by
        rw [recorded]
        exact ascending.later
      obtain ⟨complete, next, more, between, cause, rfl, taken, stuck, told, version⟩ :=
        ih later failed
      refine ⟨step :: complete, next, more, between, cause, rfl, ?_, stuck, told, ?_⟩
      · rw [takeSteps_cons, created]
        exact taken
      · rw [version, recorded, Step.lastVersion_cons]

private theorem version_le_takeSteps (ascending : Step.Ascending d.version steps) :
    d.version ≤ ((b.takeSteps steps).apply d).2.version := by
  rcases ran : (b.takeSteps steps).apply d with ⟨fault | _, d'⟩
  · obtain ⟨complete, step, rest, between, cause, rfl, -, -, -, version⟩ :=
      takeSteps_eq_error ascending ran
    exact version ▸ ascending.front.le_lastVersion
  · exact version_of_takeSteps ascending ran ▸ ascending.le_lastVersion

/-- A number that is negative or newer than the steps is refused, and nothing changes. -/
theorem migrate_of_unknown (unknown : d.version < 0 ∨ currentVersion < d.version) :
    ∃ fault, b.migrate.apply d = (.error fault, d) := by
  rw [migrate_apply]
  split
  · exact ⟨_, rfl⟩
  · next positive => exact ⟨_, if_pos (unknown.resolve_left positive)⟩

theorem version_le_migrate (b : Builder) (d : Database) :
    d.version ≤ (b.migrate.apply d).2.version := by
  rw [migrate_apply]
  split
  · exact Int.le_refl _
  · split
    · exact Int.le_refl _
    · exact version_le_takeSteps (Step.ascending_all.filter d.version)

/-- With a number that is known, a run fails at a step only. The steps before that one are complete,
and the last of their numbers is recorded. -/
theorem migrate_eq_error (known : 0 ≤ d.version ∧ d.version ≤ currentVersion) {fault : StoreFault}
    (failed : b.migrate.apply d = (.error fault, d')) :
    ∃ complete step rest between cause,
      Step.all.filter (d.version < ·.version) = complete ++ step :: rest ∧
      (b.takeSteps complete).apply d = (.ok (), between) ∧
      (b.createAll step.creates).apply between = (.error cause, d') ∧
      fault = .migration (.stepFailed step.name cause) ∧
      d'.version = Step.lastVersion d.version complete := by
  rw [migrate_apply, if_neg (Int.not_lt.mpr known.1), if_neg (Int.not_lt.mpr known.2)] at failed
  exact takeSteps_eq_error (Step.ascending_all.filter d.version) failed

end Builder

end Gatehouse.Store
