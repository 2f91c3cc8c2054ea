import Gatehouse.Refusal

/-! # Refusals with their causes in logs

A log shows a refusal and then follows the sources of errors: it adds the text of each source after a
colon, until an error has none. A refusal passes for the failure that it wraps: it has the text and the
source of that failure, so the log goes from the refusal to the first cause at once. If the causes come
to an end, so does the log, with each of them shown once and in order.
-/

namespace Gatehouse

/-- What a log asks errors for: a text, and the error behind it, if there is one. -/
structure Errors (ε : Type) where
  text : ε → String
  source? : ε → Option ε

variable {ε : Type}

/-- Whoever follows the sources from here meets these errors and then no more. -/
inductive Errors.Linked (errors : Errors ε) : Option ε → List ε → Prop
  | ended : errors.Linked none []
  | behind {e : ε} {more : List ε} (linked : errors.Linked (errors.source? e) more) :
      errors.Linked (some e) (e :: more)

/-- The errors around a refusal: the refusal itself, the failure that it may wrap, and the causes. The
failure holds on to its first cause. -/
inductive Met (ε : Type) where
  | refusal (r : Refusal) (cause? : Option ε)
  | failure (f : Failure) (cause? : Option ε)
  | cause (e : ε)

/-- The text of a refusal that wraps a failure is the text of the failure. -/
def Errors.textOfMet (errors : Errors ε) : Met ε → String
  | .refusal r _ => r.text
  | .failure f _ => f.text
  | .cause e => errors.text e

/-- The source of a refusal that wraps a failure is the source of the failure; interruptions have none.
-/
def Errors.sourceOfMet? (errors : Errors ε) : Met ε → Option (Met ε)
  | .refusal (.failure _) cause? | .failure _ cause? => cause?.map .cause
  | .refusal .cancelled _ | .refusal .deadlineExceeded _ => none
  | .cause e => (errors.source? e).map .cause

def Errors.met (errors : Errors ε) : Errors (Met ε) := ⟨errors.textOfMet, errors.sourceOfMet?⟩

theorem Errors.Linked.met {errors : Errors ε} {next : Option ε} {es : List ε}
    (linked : errors.Linked next es) : errors.met.Linked (next.map .cause) (es.map .cause) := by
  induction linked with
  | ended => exact .ended
  | behind _ ih => exact .behind ih

/-- What is shown so far, and the error that comes next. -/
structure Log (ε : Type) where
  shown : String
  next : Option ε

namespace Log

/-- The log of an error before its sources are followed. -/
def start (errors : Errors ε) (e : ε) : Log ε := ⟨errors.text e, errors.source? e⟩

/-- One round, if there is another error: its text is added, and its source comes next. -/
def step? (errors : Errors ε) (log : Log ε) : Option (Log ε) :=
  log.next.map fun e => ⟨log.shown ++ ": " ++ errors.text e, errors.source? e⟩

/-- What is shown when no error comes next, if so many rounds are enough for that. -/
def run (errors : Errors ε) : (rounds : Nat) → Log ε → Option String
  | 0, log => if (log.step? errors).isNone then some log.shown else none
  | rounds + 1, log =>
    match log.step? errors with
    | none => some log.shown
    | some later => run errors rounds later

/-- What is shown in the end if these errors are still to come. -/
def final (errors : Errors ε) (log : Log ε) (es : List ε) : String :=
  Refusal.appendCauses log.shown (es.map errors.text)

variable {errors : Errors ε} {log : Log ε} {e : ε} {more es : List ε}

/-- A round takes the first of the errors that are to come and leaves the others. What is shown in the
end stays the same. -/
theorem step?_of_linked (linked : errors.Linked log.next (e :: more)) :
    ∃ later, log.step? errors = some later ∧ errors.Linked later.next more ∧
      later.final errors more = log.final errors (e :: more) := by
  obtain ⟨shown, next⟩ := log
  cases linked with
  | behind linked => exact ⟨⟨_, _⟩, rfl, linked, rfl⟩

private theorem step?_of_ended (linked : errors.Linked log.next []) : log.step? errors = none := by
  obtain ⟨shown, next⟩ := log
  cases linked with
  | ended => rfl

/-- A log needs exactly one round for each error that is to come. -/
theorem run_of_linked (linked : errors.Linked log.next es) (rounds : Nat) :
    log.run errors rounds =
      if es.length ≤ rounds then some (log.final errors es) else none := by
  induction es generalizing log rounds with
  | nil =>
    have ended := step?_of_ended linked
    cases rounds <;> simp [run, ended, final, Refusal.appendCauses]
  | cons e more ih =>
    obtain ⟨later, step, linked, same⟩ := step?_of_linked linked
    cases rounds with
    | zero => simp [run, step]
    | succ rounds =>
      rw [run, step, List.length_cons, ← same]
      simpa using ih linked rounds

end Log

namespace Refusal

/-- Each cause is shown once, after a colon. -/
theorem appendCauses_eq (shown : String) (causes : List String) :
    appendCauses shown causes = shown ++ String.join (causes.map (": " ++ ·)) := by
  induction causes generalizing shown with
  | nil => rw [appendCauses, List.map_nil, String.join_nil, String.append_empty]
  | cons cause deeper ih =>
    rw [appendCauses, ih, List.map_cons, String.join_cons, String.append_assoc, String.append_assoc,
      String.append_assoc]

private theorem causes_of_interruption {r : Refusal} (interruption : r.kind? = none) :
    r.causes = [] := by
  cases r with
  | failure f => cases interruption
  | cancelled => rfl
  | deadlineExceeded => rfl

/-- The log of a refusal with a chain of causes ends, after one round for each cause and no sooner. From
the refusal it goes to the causes and past the failure. It shows the text of the refusal and the texts
of the causes, from the outermost to the innermost, each once and after a colon. Of an interruption it
shows the text alone. -/
theorem log_complete (errors : Errors ε) {r : Refusal} {cause? : Option ε} {es : List ε}
    (linked : errors.Linked cause? es) (texts : r.causes = es.map errors.text) :
    let log := Log.start errors.met (.refusal r cause?)
    errors.met.Linked log.next (es.map .cause) ∧
    (∀ rounds, log.run errors.met rounds =
      if es.length ≤ rounds then some r.chain else none) ∧
    r.chain = r.text ++ String.join (es.map fun e => ": " ++ errors.text e) ∧
    (r.kind? = none → r.chain = r.text) := by
  intro log
  have next : errors.met.Linked log.next (es.map .cause) := by
    cases r with
    | failure f => exact linked.met
    | cancelled =>
      obtain rfl := List.map_eq_nil_iff.mp texts.symm
      exact .ended
    | deadlineExceeded =>
      obtain rfl := List.map_eq_nil_iff.mp texts.symm
      exact .ended
  have whole : log.final errors.met (es.map .cause) = r.chain := by
    rw [chain, texts, Log.final, List.map_map]
    rfl
  refine ⟨next, fun rounds => ?_, ?_, fun interruption => ?_⟩
  · have ran := Log.run_of_linked next rounds
    rwa [whole, List.length_map] at ran
  · rw [chain, appendCauses_eq, texts, List.map_map]
    rfl
  · rw [chain, causes_of_interruption interruption, appendCauses]

/-- A failure of the store behind which the file system failed: two rounds, and one is not enough. -/
theorem store_failure_shown :
    let errors : Errors Bool :=
      ⟨fun outer => if outer then "disk I/O error" else "disk on fire",
        fun outer => if outer then some false else none⟩
    let r := internal "predicates.owner" "disk I/O error" ["disk on fire"]
    let log := Log.start errors.met (.refusal r (some true))
    errors.Linked (some true) [true, false] ∧ r.causes = [true, false].map errors.text ∧
    log.run errors.met 1 = none ∧
    log.run errors.met 2 = some ("internal: internal server error (at predicates.owner)" ++
      ": disk I/O error" ++ ": disk on fire") := by
  intro errors r log
  have linked : errors.Linked (some true) [true, false] := .behind (.behind .ended)
  have shown := log_complete errors linked (rfl : r.causes = [true, false].map errors.text)
  refine ⟨linked, rfl, shown.2.1 1, (shown.2.1 2).trans ?_⟩
  decide

end Refusal

end Gatehouse
