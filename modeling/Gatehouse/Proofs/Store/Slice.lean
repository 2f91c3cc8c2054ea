import Gatehouse.Proofs.Store.Effect

/-! # The part of the tables that is about one server

A slice is what the tables hold of one server: its row and all rows that live in it, but of its
subscriptions only those of watched users. An insertion elsewhere does not touch it. Neither does a
removal elsewhere, since in consistent tables a row that refers to another one lives in its server,
so what is taken along is elsewhere too. So a write whose object is elsewhere leaves the slice as it
was.
-/

namespace Gatehouse.Store

namespace Tables

variable {ι τ μ β : Type} [DecidableEq ι]

/-- What there is of one server, with the subscriptions of watched users only. -/
def slice (s : ι) (watched : ι → Bool) (t : Tables ι τ μ β) : Tables ι τ μ β where
  users := []
  servers := t.servers.filter fun r => r.id = s
  subscriptions := t.subscriptions.filter fun r => r.serverId = s && watched r.userId
  roles := t.roles.filter fun r => r.serverId = s
  assignments := t.assignments.filter fun r => r.serverId = s
  grants := t.grants.filter fun r => r.serverId = s
  channels := t.channels.filter fun r => r.serverId = s
  overrides := t.overrides.filter fun r => r.serverId = s

variable {t t' : Tables ι τ μ β} {s : ι} {watched : ι → Bool}

private theorem slice_insertServer {row : ServerRow ι τ} (inserted : t.insertServer row = .ok t')
    (elsewhere : row.id ≠ s) : t'.slice s watched = t.slice s watched := by
  obtain ⟨-, rfl⟩ := insertServer_eq_ok_iff.mp inserted
  simp [slice, elsewhere]

private theorem slice_insertSubscription {row : SubscriptionRow ι τ}
    (inserted : t.insertSubscription row = .ok t')
    (elsewhere : row.serverId ≠ s ∨ watched row.userId = false) :
    t'.slice s watched = t.slice s watched := by
  obtain ⟨-, rfl⟩ := insertSubscription_eq_ok_iff.mp inserted
  rcases elsewhere with elsewhere | unwatched
  · simp [slice, elsewhere]
  · simp [slice, unwatched]

private theorem slice_insertRole {row : RoleRow ι μ} (inserted : t.insertRole row = .ok t')
    (elsewhere : row.serverId ≠ s) : t'.slice s watched = t.slice s watched := by
  obtain ⟨-, rfl⟩ := insertRole_eq_ok_iff.mp inserted
  simp [slice, elsewhere]

private theorem slice_insertAssignment {row : AssignmentRow ι}
    (inserted : t.insertAssignment row = .ok t')
    (elsewhere : row.serverId ≠ s) : t'.slice s watched = t.slice s watched := by
  obtain ⟨-, rfl⟩ := insertAssignment_eq_ok_iff.mp inserted
  simp [slice, elsewhere]

private theorem slice_insertChannel {row : ChannelRow ι β τ}
    (inserted : t.insertChannel row = .ok t')
    (elsewhere : row.serverId ≠ s) : t'.slice s watched = t.slice s watched := by
  obtain ⟨-, rfl⟩ := insertChannel_eq_ok_iff.mp inserted
  simp [slice, elsewhere]

private theorem slice_insertOverride {row : OverrideRow ι}
    (inserted : t.insertOverride row = .ok t')
    (elsewhere : row.serverId ≠ s) : t'.slice s watched = t.slice s watched := by
  obtain ⟨-, rfl⟩ := insertOverride_eq_ok_iff.mp inserted
  simp [slice, elsewhere]

private theorem slice_upsertGrant {row : GrantRow ι β} (upserted : t.upsertGrant row = .ok t')
    (elsewhere : row.serverId ≠ s) : t'.slice s watched = t.slice s watched := by
  obtain rfl | ⟨-, rfl⟩ := upsertGrant_cases upserted
  · have grants : (t.grants.map (reflagged row)).filter (fun r => r.serverId = s) =
        t.grants.filter fun r => r.serverId = s := by
      rw [List.filter_map]
      have serverIds : (fun r => decide (r.serverId = s)) ∘ reflagged row =
          fun r => decide (r.serverId = s) := by
        funext r
        simp [reflagged_serverId]
      rw [serverIds]
      refine List.map_congr_left (fun r kept => ?_) |>.trans (List.map_id _)
      have inside := of_decide_eq_true (List.mem_filter.mp kept).2
      have other : ¬ r.serverId = row.serverId := fun same => elsewhere (same.symm.trans inside)
      simp [reflagged, other]
    simp [slice, grants]
  · simp [slice, elsewhere]

omit [DecidableEq ι] in
/-- To take away rows that are filtered out anyway makes no difference. -/
theorem filter_filter_of_spared {α : Type} {rows : List α} {keep hit : α → Bool}
    (spared : ∀ r ∈ rows, hit r = true → keep r = false) :
    (rows.filter fun r => !hit r).filter keep = rows.filter keep := by
  rw [List.filter_filter]
  refine List.filter_congr fun r stored => ?_
  cases gone : hit r with
  | false => simp
  | true => simp [spared r stored gone]

omit [DecidableEq ι] in
theorem eq_of_key {α κ : Type} {rows : List α} {key : α → κ} (distinct : (rows.map key).Nodup)
    {a b : α} (first : a ∈ rows) (second : b ∈ rows) (same : key a = key b) : a = b := by
  induction rows with
  | nil => cases first
  | cons r rest ih =>
    obtain ⟨fresh, distinct⟩ := List.nodup_cons.mp distinct
    rcases List.mem_cons.mp first with rfl | later <;>
      rcases List.mem_cons.mp second with rfl | later'
    · rfl
    · exact (fresh (same ▸ List.mem_map_of_mem later')).elim
    · exact (fresh (same ▸ List.mem_map_of_mem later)).elim
    · exact ih distinct later later'

omit [DecidableEq ι] in
/-- Rows with different ids are different. -/
theorem nodup_of_key {α κ : Type} {rows : List α} {key : α → κ} (distinct : (rows.map key).Nodup) :
    rows.Nodup :=
  List.Pairwise.of_map key (fun _ _ differ same => differ (congrArg key same)) distinct

omit [DecidableEq ι] in
/-- Where ids differ, one row has the id. -/
theorem filter_id_eq_singleton {α κ : Type} [DecidableEq κ] {rows : List α} {key : α → κ}
    (distinct : (rows.map key).Nodup) {row : α} (there : row ∈ rows) :
    (rows.filter fun r => key r = key row) = [row] := by
  induction rows with
  | nil => cases there
  | cons r rest ih =>
    obtain ⟨fresh, distinct⟩ := List.nodup_cons.mp distinct
    rcases List.mem_cons.mp there with rfl | later
    · have others : (rest.filter fun r => key r = key row) = [] := by
        refine List.filter_eq_nil_iff.mpr fun r stored same => fresh ?_
        exact of_decide_eq_true same ▸ List.mem_map_of_mem stored
      rw [List.filter_cons_of_pos (by simp), others]
    · have other : ¬ key r = key row := fun same => fresh (same ▸ List.mem_map_of_mem later)
      rw [List.filter_cons_of_neg (by simpa using other)]
      exact ih distinct later

omit [DecidableEq ι] in
/-- Where ids differ, the rows with an id are the first one with it, if there is one. -/
theorem filter_id_eq_find? {α κ : Type} [DecidableEq κ] {rows : List α} {key : α → κ}
    (distinct : (rows.map key).Nodup) (k : κ) :
    (rows.filter fun r => key r = k) = (rows.find? fun r => key r = k).toList := by
  cases hit : rows.find? fun r => key r = k with
  | none =>
    refine List.filter_eq_nil_iff.mpr fun r stored => ?_
    simpa using List.find?_eq_none.mp hit r stored
  | some row =>
    have named := List.find?_some hit
    obtain rfl : key row = k := of_decide_eq_true named
    exact filter_id_eq_singleton distinct (List.mem_of_find?_eq_some hit)

omit [DecidableEq ι] in
theorem find?_id_eq_some {α κ : Type} [DecidableEq κ] {rows : List α} {key : α → κ}
    (distinct : (rows.map key).Nodup) {row : α} (there : row ∈ rows) :
    (rows.find? fun r => key r = key row) = some row := by
  rw [← List.head?_filter, filter_id_eq_singleton distinct there]
  rfl

omit [DecidableEq ι] in
/-- A join of rows with what they refer to gives one row for each of them. -/
theorem map_key_joined {σ α κ : Type} [DecidableEq κ] {refs : List σ} {rows : List α} {ref : σ → κ}
    {key : α → κ} (distinct : (rows.map key).Nodup)
    (partners : ∀ a ∈ refs, ∃ r ∈ rows, key r = ref a) :
    (refs.flatMap fun a => rows.filter fun r => key r = ref a).map key = refs.map ref := by
  have joined : ∀ a ∈ refs, (rows.filter fun r => key r = ref a).map key = [ref a] := by
    intro a referring
    obtain ⟨r, there, named⟩ := partners a referring
    rw [← named, filter_id_eq_singleton distinct there, List.map_singleton]
  rw [List.map_flatMap, List.flatMap_def, List.map_congr_left joined, ← List.flatMap_def,
    List.map_eq_flatMap]

/-- Where ids differ, the row that takes others along by its id is the only one with that id. -/
theorem hit_of_taken {α : Type} {rows : List α} {key : α → ι} {p : α → Bool} {id : ι} {a : α}
    (distinct : (rows.map key).Nodup) (taken : (rows.any fun r => p r && key r = id) = true)
    (there : a ∈ rows) (named : key a = id) : p a = true := by
  obtain ⟨r, stored, hit⟩ := List.any_eq_true.mp taken
  obtain ⟨hit, same⟩ := Bool.and_eq_true_iff.mp hit
  obtain rfl := eq_of_key distinct there stored (named.trans (of_decide_eq_true same).symm)
  exact hit

private theorem slice_removeAssignments {p : AssignmentRow ι → Bool}
    (elsewhere : ∀ r ∈ t.assignments, p r = true → r.serverId ≠ s) :
    (t.removeAssignments p).slice s watched = t.slice s watched := by
  simp only [slice, removeAssignments]
  rw [filter_filter_of_spared fun r stored hit => decide_eq_false (elsewhere r stored hit)]

private theorem slice_removeOverrides {p : OverrideRow ι → Bool}
    (elsewhere : ∀ r ∈ t.overrides, p r = true → r.serverId ≠ s) :
    (t.removeOverrides p).slice s watched = t.slice s watched := by
  simp only [slice, removeOverrides]
  rw [filter_filter_of_spared fun r stored hit => decide_eq_false (elsewhere r stored hit)]

private theorem slice_removeGrants {p : GrantRow ι β → Bool}
    (elsewhere : ∀ r ∈ t.grants, p r = true → r.serverId ≠ s) :
    (t.removeGrants p).slice s watched = t.slice s watched := by
  simp only [slice, removeGrants]
  rw [filter_filter_of_spared fun r stored hit => decide_eq_false (elsewhere r stored hit)]

/-- A subscription may go if it is elsewhere, or if it is of an unwatched user who has no role on the
server. -/
theorem slice_removeSubscriptions (keyed : t.Keyed) (linked : t.Linked)
    {p : SubscriptionRow ι τ → Bool}
    (elsewhere : ∀ r ∈ t.subscriptions, p r = true → r.serverId ≠ s ∨
      watched r.userId = false ∧ ∀ a ∈ t.assignments, a.serverId = s → a.userId ≠ r.userId) :
    (t.removeSubscriptions p).slice s watched = t.slice s watched := by
  have assignments : ∀ a ∈ t.assignments,
      (t.subscriptions.any fun r => p r && r.id = a.subscriptionId) = true → a.serverId ≠ s := by
    intro a assigned taken inside
    obtain ⟨sub, there, named, server, user⟩ := linked.assignmentSubscriptions a assigned
    have hit := hit_of_taken keyed.subscriptionIds taken there named
    rcases elsewhere sub there hit with away | ⟨-, roleless⟩
    · exact away (server.trans inside)
    · exact roleless a assigned inside user.symm
  have subscriptions : ∀ r ∈ t.subscriptions, p r = true →
      (decide (r.serverId = s) && watched r.userId) = false := by
    intro r stored hit
    rcases elsewhere r stored hit with away | ⟨unwatched, -⟩
    · simp [away]
    · simp [unwatched]
  rw [← slice_removeAssignments assignments]
  simp only [slice, removeSubscriptions, removeAssignments]
  rw [filter_filter_of_spared subscriptions]

private theorem slice_removeRoles (keyed : t.Keyed) (linked : t.Linked) {p : RoleRow ι μ → Bool}
    (elsewhere : ∀ r ∈ t.roles, p r = true → r.serverId ≠ s) :
    (t.removeRoles p).slice s watched = t.slice s watched := by
  have assignments : ∀ a ∈ t.assignments,
      (t.roles.any fun r => p r && r.id = a.roleId) = true → a.serverId ≠ s := by
    intro a assigned taken inside
    obtain ⟨role, there, named, server⟩ := linked.assignmentRoles a assigned
    exact elsewhere role there (hit_of_taken keyed.roleIds taken there named) (server.trans inside)
  have overrides : ∀ o ∈ t.overrides,
      (t.roles.any fun r => p r && r.id = o.roleId) = true → o.serverId ≠ s := by
    intro o restricted taken inside
    obtain ⟨role, there, named, server⟩ := linked.overrideRoles o restricted
    exact elsewhere role there (hit_of_taken keyed.roleIds taken there named) (server.trans inside)
  rw [← slice_removeAssignments assignments]
  simp only [slice, removeRoles, removeAssignments, removeOverrides]
  rw [filter_filter_of_spared fun r stored hit => decide_eq_false (elsewhere r stored hit),
    filter_filter_of_spared fun r stored hit => decide_eq_false (overrides r stored hit)]

private theorem slice_removeChannels (keyed : t.Keyed) (linked : t.Linked)
    {p : ChannelRow ι β τ → Bool} (elsewhere : ∀ r ∈ t.channels, p r = true → r.serverId ≠ s) :
    (t.removeChannels p).slice s watched = t.slice s watched := by
  have overrides : ∀ o ∈ t.overrides,
      (t.channels.any fun r => p r && r.id = o.channelId) = true → o.serverId ≠ s := by
    intro o restricted taken inside
    obtain ⟨channel, there, named, server⟩ := linked.overrideChannels o restricted
    exact elsewhere channel there (hit_of_taken keyed.channelIds taken there named)
      (server.trans inside)
  simp only [slice, removeChannels, removeOverrides]
  rw [filter_filter_of_spared fun r stored hit => decide_eq_false (elsewhere r stored hit),
    filter_filter_of_spared fun r stored hit => decide_eq_false (overrides r stored hit)]

/-- The slice of a server that stays is not touched when others are emptied. -/
theorem slice_emptied (gone : ι → Bool) (keyed : t.Keyed) (linked : t.Linked)
    (stays : gone s = false) : (t.emptied gone).slice s watched = t.slice s watched := by
  have away {server : ι} (taken : gone server = true) : server ≠ s := by
    rintro rfl
    rw [stays] at taken
    cases taken
  have keyed₁ := keyed.part (removeSubscriptions_part (gone ·.serverId))
  have linked₁ := linked.removeSubscriptions (gone ·.serverId)
  have keyed₂ := keyed₁.part (removeRoles_part (gone ·.serverId))
  have linked₂ := linked₁.removeRoles (gone ·.serverId)
  rw [emptied, slice_removeOverrides fun r _ taken => away taken,
    slice_removeGrants fun r _ taken => away taken,
    slice_removeAssignments fun r _ taken => away taken,
    slice_removeChannels keyed₂ linked₂ fun r _ taken => away taken,
    slice_removeRoles keyed₁ linked₁ fun r _ taken => away taken,
    slice_removeSubscriptions keyed linked fun r _ taken => .inl (away taken)]

private theorem slice_removeServers (keyed : t.Keyed) (linked : t.Linked) {p : ServerRow ι τ → Bool}
    (elsewhere : ∀ r ∈ t.servers, p r = true → r.id ≠ s) :
    (t.removeServers p).slice s watched = t.slice s watched := by
  have stays : (t.servers.any fun r => p r && r.id = s) = false := by
    refine List.any_eq_false.mpr fun r stored taken => ?_
    obtain ⟨hit, named⟩ := Bool.and_eq_true_iff.mp taken
    exact elsewhere r stored hit (of_decide_eq_true named)
  rw [removeServers_eq,
    ← slice_emptied (fun id => t.servers.any fun r => p r && r.id = id) keyed linked stays]
  simp only [slice, dropServers, emptied_servers]
  rw [filter_filter_of_spared fun r stored hit => decide_eq_false (elsewhere r stored hit)]

end Tables

/-- The object of the write is not in the server. A subscription may be, if it is that of an unwatched
user who has no role there. -/
def Write.Elsewhere (t : StoredTables) (s : String) (watched : String → Bool) : Write → Prop
  | .createUser _ => True
  | .createServer row _ _ => row.id.text ≠ s
  | .createSubscription row => row.serverId.text ≠ s ∨ watched row.userId.text = false
  | .createRole row => row.serverId.text ≠ s
  | .createAssignment row => row.serverId.text ≠ s
  | .createGrant row => row.serverId.text ≠ s
  | .createChannel row => row.serverId.text ≠ s
  | .createOverride row => row.serverId.text ≠ s
  | .deleteUser _ => False
  | .deleteServer id => id.text ≠ s
  | .deleteSubscription id => ∀ r ∈ t.subscriptions, r.id = id.text → r.serverId ≠ s ∨
      watched r.userId = false ∧ ∀ a ∈ t.assignments, a.serverId = s → a.userId ≠ r.userId
  | .deleteRole id => ∀ r ∈ t.roles, r.id = id.text → r.serverId ≠ s
  | .deleteAssignment id => ∀ r ∈ t.assignments, r.id = id.text → r.serverId ≠ s
  | .deleteGrant id => ∀ r ∈ t.grants, r.id = id.text → r.serverId ≠ s
  | .deleteChannel id => ∀ r ∈ t.channels, r.id = id.text → r.serverId ≠ s
  | .deleteOverride id => ∀ r ∈ t.overrides, r.id = id.text → r.serverId ≠ s

/-- What a write does stays within the server of its object. -/
theorem Write.Effect.slice_eq {t t' : StoredTables} {s : String} {watched : String → Bool}
    {write : Write} (keyed : t.Keyed) (linked : t.Linked) (effect : write.Effect t t')
    (elsewhere : write.Elsewhere t s watched) : t'.slice s watched = t.slice s watched := by
  cases write with
  | createUser row =>
    obtain ⟨-, rfl⟩ := Tables.insertUser_eq_ok_iff.mp effect
    rfl
  | createServer row joining joined =>
    obtain ⟨between, inserted, subscribed⟩ := effect
    rw [Tables.slice_insertSubscription subscribed (.inl elsewhere),
      Tables.slice_insertServer inserted elsewhere]
  | createSubscription row => exact Tables.slice_insertSubscription effect elsewhere
  | createRole row => exact Tables.slice_insertRole effect elsewhere
  | createAssignment row =>
    obtain ⟨-, -, inserted⟩ := effect
    exact Tables.slice_insertAssignment inserted elsewhere
  | createGrant row => exact Tables.slice_upsertGrant effect elsewhere
  | createChannel row => exact Tables.slice_insertChannel effect elsewhere
  | createOverride row =>
    obtain ⟨-, -, inserted⟩ := effect
    exact Tables.slice_insertOverride inserted elsewhere
  | deleteUser id => exact elsewhere.elim
  | deleteServer id =>
    rw [← effect]
    apply Tables.slice_removeServers keyed linked
    intro r stored hit
    rw [of_decide_eq_true hit]
    exact elsewhere
  | deleteSubscription id =>
    rw [← effect]
    apply Tables.slice_removeSubscriptions keyed linked
    intro r stored hit
    exact elsewhere r stored (of_decide_eq_true hit)
  | deleteRole id =>
    rw [← effect]
    apply Tables.slice_removeRoles keyed linked
    intro r stored hit
    exact elsewhere r stored (of_decide_eq_true hit)
  | deleteAssignment id =>
    rw [← effect]
    apply Tables.slice_removeAssignments
    intro r stored hit
    exact elsewhere r stored (of_decide_eq_true hit)
  | deleteGrant id =>
    rw [← effect]
    apply Tables.slice_removeGrants
    intro r stored hit
    exact elsewhere r stored (of_decide_eq_true hit)
  | deleteChannel id =>
    rw [← effect]
    apply Tables.slice_removeChannels keyed linked
    intro r stored hit
    exact elsewhere r stored (of_decide_eq_true hit)
  | deleteOverride id =>
    rw [← effect]
    apply Tables.slice_removeOverrides
    intro r stored hit
    exact elsewhere r stored (of_decide_eq_true hit)

end Gatehouse.Store
