import Gatehouse.Proofs.Store.Slice

/-! # What goes with a server

In consistent tables a row lives in the server of the rows that it refers to. So when servers go, what
the cascades take along is what lives in those servers, and nothing else.
-/

namespace Gatehouse.Store.Tables

variable {ι τ μ β : Type} [DecidableEq ι] {t : Tables ι τ μ β}

/-- A row whose partner is taken along with a server lives in that server. -/
theorem gone_of_taken {α : Type} {rows : List α} {key place : α → ι} {gone : ι → Bool} {id home : ι}
    (distinct : (rows.map key).Nodup) (partner : ∃ a ∈ rows, key a = id ∧ place a = home)
    (taken : (rows.any fun r => gone (place r) && key r = id) = true) : (!gone home) = false := by
  obtain ⟨a, there, named, rfl⟩ := partner
  have hit := hit_of_taken (p := fun r => gone (place r)) distinct taken there named
  rw [hit]
  rfl

/-- Where a row with the id is there, to look for it under another id as well finds nothing else. -/
theorem any_id_eq {α : Type} {rows : List α} {key : α → ι} {home : ι}
    (there : ∃ r ∈ rows, key r = home) (id : ι) :
    (rows.any fun r => decide (key r = id) && key r = home) = decide (home = id) := by
  obtain ⟨row, stored, rfl⟩ := there
  rw [Bool.eq_iff_iff, List.any_eq_true, decide_eq_true_iff]
  simp only [Bool.and_eq_true, decide_eq_true_eq]
  constructor
  · rintro ⟨r, -, hit, same⟩
    exact same.symm.trans hit
  · intro hit
    exact ⟨row, stored, hit, rfl⟩

/-- What refers to rows by their ids goes with the row of an id exactly if it refers to that id. -/
theorem filter_unreferred {ρ α : Type} {refs : List ρ} {rows : List α} {ref : ρ → ι} {key : α → ι}
    (partners : ∀ a ∈ refs, ∃ r ∈ rows, key r = ref a) (id : ι) :
    (refs.filter fun a => !rows.any fun r => decide (key r = id) && key r = ref a) =
      refs.filter fun a => ref a ≠ id := by
  refine List.filter_congr fun a stored => ?_
  rw [any_id_eq (partners a stored), decide_not]

/-- To empty servers removes what lives in them. -/
theorem emptied_eq (keyed : t.Keyed) (linked : t.Linked) (gone : ι → Bool) :
    t.emptied gone =
      { t with
        subscriptions := t.subscriptions.filter fun r => !gone r.serverId
        roles := t.roles.filter fun r => !gone r.serverId
        assignments := t.assignments.filter fun r => !gone r.serverId
        grants := t.grants.filter fun r => !gone r.serverId
        channels := t.channels.filter fun r => !gone r.serverId
        overrides := t.overrides.filter fun r => !gone r.serverId } := by
  have subscribed : ∀ a ∈ t.assignments,
      (t.subscriptions.any fun r => gone r.serverId && r.id = a.subscriptionId) = true →
        (!gone a.serverId) = false := by
    intro a assigned
    obtain ⟨sub, there, named, inside, -⟩ := linked.assignmentSubscriptions a assigned
    exact gone_of_taken keyed.subscriptionIds ⟨sub, there, named, inside⟩
  have assigned : ∀ a ∈ t.assignments,
      (t.roles.any fun r => gone r.serverId && r.id = a.roleId) = true →
        (!gone a.serverId) = false :=
    fun a assigned => gone_of_taken keyed.roleIds (linked.assignmentRoles a assigned)
  have restricted : ∀ o ∈ t.overrides,
      (t.roles.any fun r => gone r.serverId && r.id = o.roleId) = true →
        (!gone o.serverId) = false :=
    fun o restricted => gone_of_taken keyed.roleIds (linked.overrideRoles o restricted)
  have placed : ∀ o ∈ t.overrides,
      (t.channels.any fun r => gone r.serverId && r.id = o.channelId) = true →
        (!gone o.serverId) = false :=
    fun o restricted => gone_of_taken keyed.channelIds (linked.overrideChannels o restricted)
  simp only [emptied, removeOverrides, removeGrants, removeAssignments, removeChannels, removeRoles,
    removeSubscriptions]
  rw [filter_filter_of_spared fun a stored => assigned a (List.mem_filter.mp stored).1,
    filter_filter_of_spared subscribed,
    filter_filter_of_spared fun o stored => placed o (List.mem_filter.mp stored).1,
    filter_filter_of_spared restricted]

/-- The tables without a server and all that lives in it. -/
def without (s : ι) (t : Tables ι τ μ β) : Tables ι τ μ β where
  users := t.users
  servers := t.servers.filter (·.id ≠ s)
  subscriptions := t.subscriptions.filter (·.serverId ≠ s)
  roles := t.roles.filter (·.serverId ≠ s)
  assignments := t.assignments.filter (·.serverId ≠ s)
  grants := t.grants.filter (·.serverId ≠ s)
  channels := t.channels.filter (·.serverId ≠ s)
  overrides := t.overrides.filter (·.serverId ≠ s)

/-- To remove a server leaves exactly what does not live in it. -/
theorem removeServers_eq_without (keyed : t.Keyed) (linked : t.Linked) (s : ι) :
    t.removeServers (·.id = s) = t.without s := by
  obtain ⟨-, -, assignmentServers, -, overrideServers⟩ := Consistent.of_linked keyed linked
  have housed {α : Type} {rows : List α} {place : α → ι}
      (homes : ∀ r ∈ rows, ∃ server ∈ t.servers, server.id = place r) :
      (rows.filter fun r => !t.servers.any fun server => decide (server.id = s) &&
        server.id = place r) = rows.filter fun r => place r ≠ s := filter_unreferred homes s
  have servers : (t.servers.filter fun r => !decide (r.id = s)) = t.servers.filter (·.id ≠ s) :=
    List.filter_congr fun r _ => (decide_not ..).symm
  rw [removeServers_eq, emptied_eq keyed linked, dropServers, without, servers,
    housed linked.subscriptionServers, housed linked.roleServers, housed assignmentServers,
    housed linked.grantServers, housed linked.channelServers, housed overrideServers]

end Gatehouse.Store.Tables
