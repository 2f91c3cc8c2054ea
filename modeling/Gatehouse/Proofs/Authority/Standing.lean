import Gatehouse.Proofs.Calm
import Gatehouse.Proofs.Permission

/-! # What a storage says of users and servers

Authority over a server comes from four things: to own it, to hold a grant on it, to hold roles on it
whose masks have a flag, and to be subscribed to it. Each is a statement about what the storage
answers. The inquiries of the evaluation decide these statements: an answer of theirs is right
whatever the storage is, and over a storage that never fails there always is one, as long as the
server exists where it has to be loaded.
-/

namespace Gatehouse

namespace Storage

variable (storage : Storage)

/-- There is such a server. -/
def Live (serverId : Uuid) : Prop := ∃ row, storage (.server serverId) = .ok row

def Owns (serverId userId : Uuid) : Prop :=
  ∃ row, storage (.server serverId) = .ok row ∧ row.ownerId = userId

def Subscribed (serverId userId : Uuid) : Prop :=
  ∃ row, storage (.membership serverId userId) = .ok row

/-- The user has a grant on the server, with the flag for the family. -/
def Granted (serverId userId : Uuid) (family : Family) : Prop :=
  ∃ row, storage (.grantFor serverId userId) = .ok row ∧
    match family with
    | .read => row.readAll = true
    | .write => row.writeAll = true
    | .delete => row.deleteAll = true

variable {storage} in
/-- The flag is the one that the evaluation reads. -/
theorem granted_iff_covers {serverId userId : Uuid} {family : Family} :
    storage.Granted serverId userId family ↔
      ∃ row, storage (.grantFor serverId userId) = .ok row ∧ row.covers family = true := by
  cases family <;> rfl

/-- The roles of the user on the server. -/
def rolesHeld (serverId userId : Uuid) : List Role :=
  match storage (.rolesHeld serverId userId) with
  | .ok roles => roles
  | .error _ => []

/-- All bits that any role of the user on the server stores in one of its masks. -/
def heldBits (mask : Role → Int64) (serverId userId : Uuid) : Int64 :=
  (storage.rolesHeld serverId userId).foldl (fun bits role => bits ||| mask role) 0

def HoldsServerFlag (serverId userId : Uuid) (asked : ServerFlags) : Prop :=
  storage.heldBits RoleRow.serverMask serverId userId &&& asked.bits = asked.bits

def HoldsSubFlag (serverId userId : Uuid) (asked : SubFlags) : Prop :=
  storage.heldBits RoleRow.subMask serverId userId &&& asked.bits = asked.bits

instance (serverId userId : Uuid) (asked : ServerFlags) :
    Decidable (storage.HoldsServerFlag serverId userId asked) :=
  inferInstanceAs (Decidable (_ = _))

instance (serverId userId : Uuid) (asked : SubFlags) :
    Decidable (storage.HoldsSubFlag serverId userId asked) :=
  inferInstanceAs (Decidable (_ = _))

theorem Owns.live {storage : Storage} {serverId userId : Uuid}
    (owns : storage.Owns serverId userId) : storage.Live serverId := by
  obtain ⟨row, found, _⟩ := owns
  exact ⟨row, found⟩

section Roleless

variable {storage : Storage} {serverId userId : Uuid}

/-- Without roles no flag is held. -/
theorem not_holdsServerFlag (none_held : storage.rolesHeld serverId userId = [])
    {asked : ServerFlags} (named : asked.bits ≠ 0) :
    ¬ storage.HoldsServerFlag serverId userId asked := by
  intro held
  simp only [HoldsServerFlag, heldBits, none_held, List.foldl_nil, Int64.zero_and] at held
  exact named held.symm

theorem not_holdsSubFlag (none_held : storage.rolesHeld serverId userId = [])
    {asked : SubFlags} (named : asked.bits ≠ 0) :
    ¬ storage.HoldsSubFlag serverId userId asked := by
  intro held
  simp only [HoldsSubFlag, heldBits, none_held, List.foldl_nil, Int64.zero_and] at held
  exact named held.symm

end Roleless

end Storage

section Inquiries

variable {storage : Storage} {serverId userId : Uuid}

theorem loadServer_eq_ok_iff {row : Server} :
    (loadServer serverId).run storage = .ok row ↔ storage (.server serverId) = .ok row := by
  simp only [loadServer, Inquiry.run_bind_eq_ok_iff]
  constructor
  · rintro ⟨found, asked, kept⟩
    cases found with
    | none => cases kept
    | some server =>
      cases kept
      exact Inquiry.run_find?_eq_some_iff.mp asked
  · intro answer
    exact ⟨some row, Inquiry.run_find?_eq_some_iff.mpr answer, rfl⟩

theorem ownsServer_eq_ok {owns : Bool} (decided : (ownsServer serverId userId).run storage = .ok owns) :
    storage.Live serverId ∧ (owns = true ↔ storage.Owns serverId userId) := by
  simp only [ownsServer, Inquiry.run_bind_eq_ok_iff, loadServer_eq_ok_iff, Inquiry.run_pure,
    Except.ok.injEq] at decided
  obtain ⟨row, answer, rfl⟩ := decided
  refine ⟨⟨row, answer⟩, ?_⟩
  simp only [decide_eq_true_eq, Storage.Owns, answer, Except.ok.injEq, exists_eq_left']

theorem ownsServer_of_live (userId : Uuid) (live : storage.Live serverId) :
    ∃ owns, (ownsServer serverId userId).run storage = .ok owns := by
  obtain ⟨row, answer⟩ := live
  refine ⟨decide (row.ownerId = userId), ?_⟩
  exact Inquiry.run_bind_eq_ok_iff.mpr ⟨row, loadServer_eq_ok_iff.mpr answer, rfl⟩

theorem isMember_eq_ok {member : Bool} (decided : (isMember serverId userId).run storage = .ok member) :
    member = true ↔ storage.Subscribed serverId userId := by
  simp only [isMember, Inquiry.run_bind_eq_ok_iff, Inquiry.run_pure, Except.ok.injEq] at decided
  obtain ⟨found, asked, rfl⟩ := decided
  cases found with
  | none =>
    have answer := Inquiry.run_find?_eq_none_iff.mp asked
    simp [Storage.Subscribed, answer]
  | some row =>
    have answer := Inquiry.run_find?_eq_some_iff.mp asked
    simp [Storage.Subscribed, answer]

theorem isMember_of_reliable (reliable : storage.Reliable) (serverId userId : Uuid) :
    ∃ member, (isMember serverId userId).run storage = .ok member := by
  obtain ⟨found, asked⟩ := reliable.run_find? "predicates.user_has_server_sub"
    (.membership serverId userId)
  exact ⟨found.isSome, Inquiry.run_bind_eq_ok_iff.mpr ⟨found, asked, rfl⟩⟩

private theorem maskOf_eq_ok {mask : PermissionMask}
    (decided : (maskOf serverId userId).run storage = .ok mask) :
    mask = PermissionMask.collect ((storage.rolesHeld serverId userId).map RoleRow.mask) := by
  simp only [maskOf, Inquiry.run_bind_eq_ok_iff, Inquiry.run_pure, Except.ok.injEq] at decided
  obtain ⟨found, asked, rfl⟩ := decided
  cases found with
  | none =>
    have answer := Inquiry.run_find?_eq_none_iff.mp asked
    simp only [Storage.rolesHeld, answer, Option.getD_none]
  | some roles =>
    have answer := Inquiry.run_find?_eq_some_iff.mp asked
    simp only [Storage.rolesHeld, answer, Option.getD_some]

theorem maskOf_of_reliable (reliable : storage.Reliable) (serverId userId : Uuid) :
    ∃ mask, (maskOf serverId userId).run storage = .ok mask := by
  obtain ⟨found, asked⟩ := reliable.run_find? "predicates.user_permission_mask"
    (.rolesHeld serverId userId)
  exact ⟨_, Inquiry.run_bind_eq_ok_iff.mpr ⟨found, asked, rfl⟩⟩

/-- A flag without a name is never held; one with a name is held if the roles store all its bits. -/
theorem hasServer_maskOf_iff {mask : PermissionMask} {asked : ServerFlags}
    (decided : (maskOf serverId userId).run storage = .ok mask) :
    mask.hasServer asked = true ↔
      asked.bits &&& 7 = asked.bits ∧ storage.HoldsServerFlag serverId userId asked := by
  rw [maskOf_eq_ok decided, PermissionMask.hasServer, ServerFlags.contains,
    PermissionMask.collect_server, Flags.contains_and_iff]
  rfl

theorem hasSub_maskOf_iff {mask : PermissionMask} {asked : SubFlags}
    (decided : (maskOf serverId userId).run storage = .ok mask) :
    mask.hasSub asked = true ↔
      asked.bits &&& 1 = asked.bits ∧ storage.HoldsSubFlag serverId userId asked := by
  rw [maskOf_eq_ok decided, PermissionMask.hasSub, SubFlags.contains, PermissionMask.collect_sub,
    Flags.contains_and_iff]
  rfl

theorem ownsOrGranted_eq_ok {family : Family} {allowed : Bool}
    (decided : (ownsOrGranted serverId userId family).run storage = .ok allowed) :
    storage.Live serverId ∧
      (allowed = true ↔ storage.Owns serverId userId ∨ storage.Granted serverId userId family) := by
  simp only [ownsOrGranted, Inquiry.run_bind_eq_ok_iff] at decided
  obtain ⟨owns, first, decided⟩ := decided
  obtain ⟨live, owner⟩ := ownsServer_eq_ok first
  refine ⟨live, ?_⟩
  cases owns with
  | true =>
    cases decided
    simp [owner.mp rfl]
  | false =>
    have stranger : ¬ storage.Owns serverId userId := fun owns => Bool.noConfusion (owner.mpr owns)
    simp only [Bool.false_eq_true, ↓reduceIte, Inquiry.run_bind_eq_ok_iff] at decided
    obtain ⟨found, asked, decided⟩ := decided
    cases found with
    | none =>
      cases decided
      have answer := Inquiry.run_find?_eq_none_iff.mp asked
      simp [stranger, Storage.granted_iff_covers, answer]
    | some grant =>
      cases decided
      have answer := Inquiry.run_find?_eq_some_iff.mp asked
      simp [stranger, Storage.granted_iff_covers, answer]

theorem ownsOrGranted_of_live (reliable : storage.Reliable) (live : storage.Live serverId)
    (userId : Uuid) (family : Family) :
    ∃ allowed, (ownsOrGranted serverId userId family).run storage = .ok allowed := by
  obtain ⟨owns, first⟩ := ownsServer_of_live userId live
  cases owns with
  | true => exact ⟨true, Inquiry.run_bind_eq_ok_iff.mpr ⟨true, first, rfl⟩⟩
  | false =>
    obtain ⟨found, asked⟩ := reliable.run_find? "predicates.base_permission_check"
      (.grantFor serverId userId)
    refine ⟨found.any (·.covers family), Inquiry.run_bind_eq_ok_iff.mpr ⟨false, first, ?_⟩⟩
    cases found with
    | none => exact Inquiry.run_bind_eq_ok_iff.mpr ⟨none, asked, rfl⟩
    | some grant => exact Inquiry.run_bind_eq_ok_iff.mpr ⟨some grant, asked, rfl⟩

end Inquiries

end Gatehouse
