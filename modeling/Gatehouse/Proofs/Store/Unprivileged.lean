import Gatehouse.Proofs.Authority.Verdict
import Gatehouse.Proofs.Store.Reading

/-! # Users without standing

A user who does not own a server, holds no grant on it and has no role there is none of those whom
the tables of authority name for what lives in the server. What the user may still do there is to end
the user's own subscription.
-/

namespace Gatehouse.Store

variable {t : StoredTables} {s user : Uuid}

/-- The user does not own the server, holds no grant on it and has no role there. -/
structure Tables.Unprivileged (t : StoredTables) (s user : Uuid) : Prop where
  servers : ∀ r ∈ t.servers, r.id = s.text → r.ownerId ≠ user.text
  grants : ∀ r ∈ t.grants, r.serverId = s.text → r.userId ≠ user.text
  assignments : ∀ r ∈ t.assignments, r.serverId = s.text → r.userId ≠ user.text

namespace Tables.Unprivileged

private theorem not_owns (recorded : t.Recorded) (unprivileged : t.Unprivileged s user) :
    ¬ t.storage.Owns s user := by
  rintro ⟨row, found, rfl⟩
  obtain ⟨named, created, stored⟩ := getServer_eq_ok recorded (lookedUp_eq_ok_iff.mp found)
  exact unprivileged.servers _ stored (congrArg Uuid.text named) rfl

private theorem not_granted (recorded : t.Recorded) (unprivileged : t.Unprivileged s user)
    (family : Family) : ¬ t.storage.Granted s user family := by
  rintro ⟨row, found, -⟩
  obtain ⟨record, stored, hit, -⟩ :=
    readFound_eq_ok recorded.grants (lookedUp_eq_ok_iff.mp found)
  obtain ⟨inside, same⟩ := Bool.and_eq_true_iff.mp hit
  exact unprivileged.grants _ stored (of_decide_eq_true inside) (of_decide_eq_true same)

private theorem rolesHeld_eq_nil (unprivileged : t.Unprivileged s user) :
    t.storage.rolesHeld s user = [] := by
  have none_assigned : (t.assignments.filter fun a =>
      a.serverId = s.text && a.userId = user.text) = [] := by
    refine List.filter_eq_nil_iff.mpr fun a stored => ?_
    have other := unprivileged.assignments a stored
    simpa using other
  have none_held : t.listRolesHeld s user = .ok [] := by
    simp only [listRolesHeld, none_assigned, List.flatMap_nil]
    rfl
  simp only [Storage.rolesHeld, Tables.storage, none_held, lookedUp]

theorem not_holdsServerFlag (unprivileged : t.Unprivileged s user) {asked : ServerFlags}
    (named : asked.bits ≠ 0) : ¬ t.storage.HoldsServerFlag s user asked :=
  Storage.not_holdsServerFlag unprivileged.rolesHeld_eq_nil named

theorem not_holdsSubFlag (unprivileged : t.Unprivileged s user) {asked : SubFlags}
    (named : asked.bits ≠ 0) : ¬ t.storage.HoldsSubFlag s user asked :=
  Storage.not_holdsSubFlag unprivileged.rolesHeld_eq_nil named

private theorem not_managesRoles (recorded : t.Recorded) (unprivileged : t.Unprivileged s user)
    (family : Family) : ¬ t.storage.ManagesRoles s user family := by
  rintro ⟨-, owns | granted | flag⟩
  · exact unprivileged.not_owns recorded owns
  · exact unprivileged.not_granted recorded family granted
  · exact unprivileged.not_holdsServerFlag (by decide) flag

private theorem not_managesChannels (recorded : t.Recorded) (unprivileged : t.Unprivileged s user) :
    ¬ t.storage.ManagesChannels s user := by
  rintro ⟨-, owns | flag⟩
  · exact unprivileged.not_owns recorded owns
  · exact unprivileged.not_holdsServerFlag (by decide) flag

private theorem not_managesOverrides (recorded : t.Recorded) (unprivileged : t.Unprivileged s user)
    (family : Family) : ¬ t.storage.ManagesOverrides s user family := by
  rintro ⟨-, owns | granted | flag⟩
  · exact unprivileged.not_owns recorded owns
  · exact unprivileged.not_granted recorded family granted
  · exact unprivileged.not_holdsServerFlag (by decide) flag

/-- The one subscription on the server that the user may end is the user's own. -/
theorem own_of_mayEnd (recorded : t.Recorded) {row : Subscription}
    (unprivileged : t.Unprivileged row.serverId user) (may : t.storage.MayEnd user row) :
    row.userId = user := by
  obtain ⟨-, -, own | owns | flag⟩ := may
  · exact own
  · exact (unprivileged.not_owns recorded owns).elim
  · exact (unprivileged.not_holdsSubFlag (by decide) flag).elim

/-- A server on which something holds that does not hold on `s` is another one. -/
theorem text_ne_of_denied (right : Uuid → Prop) {id : Uuid} (denied : ¬ right s)
    (holds : right id) : id.text ≠ s.text := by
  intro same
  rw [Uuid.text_inj.mp same] at holds
  exact denied holds

variable {id : Uuid}

theorem text_ne_of_owns (recorded : t.Recorded) (unprivileged : t.Unprivileged s user)
    (owns : t.storage.Owns id user) : id.text ≠ s.text :=
  text_ne_of_denied (t.storage.Owns · user) (unprivileged.not_owns recorded) owns

theorem text_ne_of_managesRoles (recorded : t.Recorded) (unprivileged : t.Unprivileged s user)
    {family : Family} (manages : t.storage.ManagesRoles id user family) : id.text ≠ s.text :=
  text_ne_of_denied (t.storage.ManagesRoles · user family)
    (unprivileged.not_managesRoles recorded family) manages

theorem text_ne_of_managesChannels (recorded : t.Recorded) (unprivileged : t.Unprivileged s user)
    (manages : t.storage.ManagesChannels id user) : id.text ≠ s.text :=
  text_ne_of_denied (t.storage.ManagesChannels · user)
    (unprivileged.not_managesChannels recorded) manages

theorem text_ne_of_managesOverrides (recorded : t.Recorded) (unprivileged : t.Unprivileged s user)
    {family : Family} (manages : t.storage.ManagesOverrides id user family) : id.text ≠ s.text :=
  text_ne_of_denied (t.storage.ManagesOverrides · user family)
    (unprivileged.not_managesOverrides recorded family) manages

end Tables.Unprivileged

end Gatehouse.Store
