import Gatehouse.Proofs.Authority.Verdict
import Gatehouse.Proofs.Store.Backends

/-! # The bits of masks that count

Of all that the roles of a user on a server store in their masks, a decision uses three bits of their
union: two of the server masks and one of the subscription masks. How many roles there are, in which
order and how often, how the bits are spread over them and what else the masks hold makes no
difference, neither to how a decision ends nor to what it asks.
-/

namespace Gatehouse

private theorem ServerFlags.asked_framed {flags : ServerFlags} (asked : flags ∈ ServerFlags.asked) :
    flags.bits &&& 3 = flags.bits := by
  revert flags
  decide

private theorem SubFlags.asked_framed {flags : SubFlags} (asked : flags ∈ SubFlags.asked) :
    flags.bits &&& 1 = flags.bits := by
  revert flags
  decide

/-- Roles whose unions agree on the three bits have masks of the same use. -/
theorem PermissionMask.sameUse_of_bits {roles roles' : List Role}
    (server : roles.foldl (fun bits role => bits ||| role.serverMask) 0 &&& 3 =
      roles'.foldl (fun bits role => bits ||| role.serverMask) 0 &&& 3)
    (sub : roles.foldl (fun bits role => bits ||| role.subMask) 0 &&& 1 =
      roles'.foldl (fun bits role => bits ||| role.subMask) 0 &&& 1) :
    (collect (roles.map RoleRow.mask)).SameUse (collect (roles'.map RoleRow.mask)) where
  server flags asked := by
    refine Flags.contains_congr ?_ (ServerFlags.asked_framed asked)
    -- the named bits of a server mask are three, and two of them are asked for
    have named (word : Int64) : (word &&& 7) &&& 3 = word &&& 3 := by
      rw [Int64.and_assoc]
      rfl
    rw [collect_server, collect_server, named, named, server]
  sub flags asked := by
    refine Flags.contains_congr ?_ (SubFlags.asked_framed asked)
    rw [collect_sub, collect_sub, sub]

/-- The role without its masks. -/
def RoleRow.unmasked (role : Role) : Role :=
  { role with serverMask := 0, channelMask := 0, subMask := 0 }

/-- The answers are the same, apart from the masks of a role and from which roles a user holds. -/
def Lookup.SameButMasks : (q : Lookup) → q.Reply → q.Reply → Prop
  | .role _, .ok row, .ok row' => row.unmasked = row'.unmasked
  | .rolesHeld _ _, .ok _, .ok _ => True
  | _, reply, reply' => reply = reply'

/-- The storages answer the same apart from masks, and what a user holds on a server agrees in the
bits 0 and 1 of the server masks and in the bit 0 of the subscription masks. -/
structure Storage.SameRights (σ τ : Storage) : Prop where
  answers : ∀ q : Lookup, q.SameButMasks (σ q) (τ q)
  server : ∀ serverId userId, σ.heldBits RoleRow.serverMask serverId userId &&& 3 =
    τ.heldBits RoleRow.serverMask serverId userId &&& 3
  sub : ∀ serverId userId, σ.heldBits RoleRow.subMask serverId userId &&& 1 =
    τ.heldBits RoleRow.subMask serverId userId &&& 1

/-- A decision makes the same of the answers of such storages. -/
theorem Storage.SameRights.like {σ τ : Storage} (same : σ.SameRights τ) (q : Lookup) :
    q.Like Eq (σ q) (τ q) := by
  have answers := same.answers q
  cases q with
  | role id =>
    generalize σ (.role id) = reply, τ (.role id) = reply' at answers
    cases reply with
    | error failure => exact answers ▸ .refl (fun _ => rfl) _ _
    | ok role =>
      cases reply' with
      | error failure => cases answers
      | ok role' =>
        have unmasked : role.unmasked = role'.unmasked := answers
        have home := congrArg RoleRow.serverId unmasked
        exact .found home
  | rolesHeld serverId userId =>
    have server := same.server serverId userId
    have sub := same.sub serverId userId
    unfold heldBits rolesHeld at server sub
    generalize σ (.rolesHeld serverId userId) = reply, τ (.rolesHeld serverId userId) = reply'
      at answers server sub
    cases reply with
    | error failure => exact answers ▸ .refl (fun _ => rfl) _ _
    | ok roles =>
      cases reply' with
      | error failure => cases answers
      | ok roles' => exact .found (PermissionMask.sameUse_of_bits server sub)
  | _ => exact answers ▸ .refl (fun _ => rfl) _ _

/-- Over storages that differ in no other bits than those that are not used, decisions end the same
and ask the same, under whatever conditions they run. -/
theorem decide_eq_of_sameRights {σ τ : Storage} (same : σ.SameRights τ) :
    (∀ (context : Context) (now : Time) (latency : Option Nat) (request : Request),
      context.decide now σ latency request = context.decide now τ latency request) ∧
    ∀ (c : Conditions) (now : Time) (claims : Option Claims) (scope : Scope) (request : Request)
      (p : Progress),
      (c.withStorage σ).run (authorize now claims scope request) p =
        (c.withStorage τ).run (authorize now claims scope request) p := by
  have fates := Conditions.guarded_alike same.like fun q failure => .refl (fun _ => rfl) q _
  have runs (c : Conditions) := run_authorize_eq (fates c)
  refine ⟨fun context now latency request => ?_, runs⟩
  exact runs { Conditions.calm σ latency with deadline := context.deadline } ..

namespace Sample

/-- The house with other masks: the role that manages roles stores its sign bit and all channel bits
too, and its holder has another role, which stores the bits that are not used, twice. -/
def relabelledHouse : Storage
  | .role id => (house.storage (.role id)).map fun role =>
      { role with serverMask := role.serverMask ||| Int64.minValue, channelMask := -1, subMask := -2 }
  | .rolesHeld serverId userId => (house.storage (.rolesHeld serverId userId)).map fun roles =>
      let others := roles.map fun role => { role with serverMask := -4, channelMask := 1, subMask := 6 }
      others ++ roles ++ others
  | q => house.storage q

/-- Only user 2 holds roles, and only in the house. -/
theorem house_rolesHeld (serverId userId : Uuid) :
    (serverId = ⟨7⟩ ∧ userId = ⟨2⟩) ∨ house.storage (.rolesHeld serverId userId) = .ok [] := by
  by_cases holder : serverId = ⟨7⟩ ∧ userId = ⟨2⟩
  · exact .inl holder
  · right
    have unassigned : (house.tables.assignments.filter fun a =>
        a.serverId = serverId && a.userId = userId) = [] := by
      refine List.filter_eq_nil_iff.mpr fun a assigned same => holder ?_
      obtain rfl := List.mem_singleton.mp assigned
      simp only [Bool.and_eq_true, decide_eq_true_eq] at same
      exact ⟨same.1.symm, same.2.symm⟩
    change Except.ok _ = _
    rw [unassigned]
    rfl

private theorem relabelledHouse_sameRights : house.storage.SameRights relabelledHouse where
  answers q := by
    cases q with
    | role id =>
      change Lookup.SameButMasks _ _ ((house.storage (.role id)).map _)
      cases house.storage (.role id) <;> rfl
    | rolesHeld serverId userId => trivial
    | _ => rfl
  server serverId userId := by
    obtain ⟨rfl, rfl⟩ | roleless := house_rolesHeld serverId userId
    · decide +kernel
    · simp only [Storage.heldBits, Storage.rolesHeld, relabelledHouse, roleless]
      rfl
  sub serverId userId := by
    obtain ⟨rfl, rfl⟩ | roleless := house_rolesHeld serverId userId
    · decide +kernel
    · simp only [Storage.heldBits, Storage.rolesHeld, relabelledHouse, roleless]
      rfl

end Sample

/-- Under the other masks the holder of the role may delete it just the same. -/
theorem relabelledHouse_decides :
    Sample.house.storage.SameRights Sample.relabelledHouse ∧
      verdict Sample.relabelledHouse none .epoch (some (Sample.claimsOf ⟨2⟩)) .unscoped
        Sample.deletion = .decided () := by
  have same := Sample.relabelledHouse_sameRights
  refine ⟨same, ?_⟩
  have runs := (decide_eq_of_sameRights same).2 (Conditions.calm Sample.house.storage none)
  have allowed : verdict Sample.house.storage none .epoch (some (Sample.claimsOf ⟨2⟩)) .unscoped
      Sample.deletion = .decided () := by decide +kernel
  rw [← allowed]
  exact congrArg Prod.fst (runs ..).symm

end Gatehouse
