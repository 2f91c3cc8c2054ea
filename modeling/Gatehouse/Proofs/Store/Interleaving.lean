import Gatehouse.Proofs.Reach
import Gatehouse.Proofs.Store.Coalition
import Gatehouse.Proofs.Store.Membership

/-! # Decisions in flight

Decisions to delete subscriptions go on while the store changes: between two lookups of a decision,
and between its end and the deletion, any writes may happen. A subscription is deleted only after a
decision allowed it, however long ago, and no id of a row comes back once the row is gone. Then the
owner of every server stays subscribed to it.

Each answer of a decision comes from the tables of some earlier moment. A decision that allows has
found the subscription in some of them, and its server with another owner in others. As the rows of
servers and subscriptions never change and no id comes back, what was found still says whose
subscription it is and who owns the server.
-/

namespace Gatehouse

namespace Inquiry

variable {α : Type} {storage : Storage}

/-- Ask the next lookup, if there is one. -/
def advance (storage : Storage) : Inquiry α → Inquiry α
  | .decided a => .decided a
  | .refused r => .refused r
  | .ask q next => next (storage q)

/-- After one lookup less is within reach. -/
theorem Reaches.of_advance {sources : Storage → Prop} (source : sources storage) {i : Inquiry α}
    {a : α} (reached : (i.advance storage).Reaches sources a) : i.Reaches sources a := by
  cases i with
  | decided b => exact reached
  | refused r => exact reached
  | ask q next => exact .told source reached

end Inquiry

/-- What allows a subscription to be deleted was seen: the subscription, and that another than its
user owns its server. -/
theorem Request.Deletes.seen {request : Request} {id : Uuid} {sources : Storage → Prop} {now : Time}
    {claims : Option Claims} {scope : Scope} (deletes : request.Deletes .subscription id)
    (reached : (authorize now claims scope request).Reaches sources ()) :
    ∃ sub server, (∃ storage, sources storage ∧ storage (.subscription id) = .ok sub) ∧
      (∃ storage, sources storage ∧ storage (.server sub.serverId) = .ok server) ∧
        server.ownerId ≠ sub.userId := by
  obtain ⟨isSubscription, asks⟩ := deletes
  obtain ⟨caller, -, objectId, read, operation, entry, listed, targetId, chosen, resolved, -, found,
    loaded, allowed⟩ := reaches_authorize_iff.mp reached
  cases read.symm.trans asks.target
  obtain ⟨words, listed⟩ := Request.entry_eq_ok listed
  cases words.symm.trans asks.words
  rw [isSubscription] at listed loaded
  cases listed
  cases chosen
  obtain ⟨storage, source, loaded⟩ := loadTarget_reaches loaded
  obtain ⟨target, rfl, stored, -⟩ := loadTarget_some.mp loaded
  cases target with
  | subscription sub =>
    obtain ⟨denied, guarded, passed⟩ := Inquiry.reaches_bind_iff.mp allowed
    cases denied with
    | true => cases passed
    | false =>
      obtain ⟨place, source', asked⟩ := ownsServer_reaches guarded
      obtain ⟨⟨server, answer⟩, owner⟩ := ownsServer_eq_ok asked
      refine ⟨sub, server, ⟨storage, source, stored.2⟩, ⟨place, source', answer⟩, ?_⟩
      intro same
      exact Bool.noConfusion (owner.mpr ⟨server, answer, same⟩)
  | _ => exact nomatch stored.1

namespace Store

/-- A decision in flight about the deletion of a subscription: what is left of it. -/
structure Deciding where
  subscriptionId : Uuid
  rest : Inquiry Unit

namespace Deciding

def advance (storage : Storage) (d : Deciding) : Deciding := { d with rest := d.rest.advance storage }

/-- Whether the decision has come to its end and allows. -/
def allowed (d : Deciding) : Bool :=
  match d.rest with
  | .decided () => true
  | .refused _ | .ask _ _ => false

end Deciding

/-- The store with the decisions that use it. -/
structure Traffic where
  tables : StoredTables
  /-- The tables as they were before each write so far. -/
  past : List StoredTables
  decisions : List Deciding

/-- One step: a decision begins, asks its next lookup, or a write is executed. -/
inductive Move where
  | begin (id : Uuid) (now : Time) (claims : Option Claims) (scope : Scope) (request : Request)
  | lookup (position : Nat)
  | write (write : Write)

namespace Traffic

/-- A new store, and no decision in flight. -/
def start : Traffic := ⟨.empty, [], []⟩

def move (traffic : Traffic) : Move → Traffic
  | .begin id now claims scope request =>
    let d : Deciding := ⟨id, authorize now claims scope request⟩
    { traffic with decisions := traffic.decisions ++ [d] }
  | .lookup position =>
    { traffic with
      decisions := traffic.decisions.modify position (·.advance traffic.tables.storage) }
  | .write write =>
    { traffic with
      tables := (write.change.apply traffic.tables).2
      past := traffic.tables :: traffic.past }

def runAll (traffic : Traffic) (moves : List Move) : Traffic := moves.foldl move traffic

/-- All tables so far. -/
def seen (traffic : Traffic) : List StoredTables := traffic.tables :: traffic.past

/-- A subscription is only deleted after a decision about it has allowed it. -/
def Clears (traffic : Traffic) : Write → Prop
  | .deleteSubscription id => ∃ d ∈ traffic.decisions, d.subscriptionId = id ∧ d.allowed = true
  | _ => True

/-- No id of a server or a subscription that is gone comes back with new tables. -/
structure Fresh (traffic : Traffic) (t' : StoredTables) : Prop where
  servers : ∀ old ∈ traffic.past, ∀ r ∈ t'.servers, old.hasServer r.id = true →
    traffic.tables.hasServer r.id = true
  subscriptions : ∀ old ∈ traffic.past, ∀ r ∈ t'.subscriptions, old.hasSubscription r.id = true →
    traffic.tables.hasSubscription r.id = true

instance (traffic : Traffic) : (write : Write) → Decidable (traffic.Clears write)
  | .deleteSubscription id =>
    inferInstanceAs (Decidable (∃ d ∈ traffic.decisions, d.subscriptionId = id ∧ d.allowed = true))
  | .createUser _ | .createServer _ _ _ | .createSubscription _ | .createRole _
  | .createAssignment _ | .createGrant _ | .createChannel _ | .createOverride _ | .deleteUser _
  | .deleteServer _ | .deleteRole _ | .deleteAssignment _ | .deleteGrant _ | .deleteChannel _
  | .deleteOverride _ => inferInstanceAs (Decidable True)

instance (traffic : Traffic) (t' : StoredTables) : Decidable (traffic.Fresh t') :=
  decidable_of_iff (_ ∧ _) ⟨fun ⟨servers, subscriptions⟩ => ⟨servers, subscriptions⟩,
    fun fresh => ⟨fresh.servers, fresh.subscriptions⟩⟩

/-- What may happen next. -/
def Permits (traffic : Traffic) : Move → Prop
  | .begin id _ _ _ request => request.Deletes .subscription id
  | .lookup _ => True
  | .write write => traffic.Clears write ∧ traffic.Fresh (write.change.apply traffic.tables).2

/-- Each move is permitted when its turn comes. -/
def AllPermitted : Traffic → List Move → Prop
  | _, [] => True
  | traffic, move :: rest => traffic.Permits move ∧ AllPermitted (traffic.move move) rest

end Traffic

/-- Rows of servers and subscriptions that are still there, by their ids, are as they were. -/
structure Tables.Kept (old t : StoredTables) : Prop where
  recorded : old.Recorded
  servers : ∀ r ∈ t.servers, ∀ r' ∈ old.servers, r'.id = r.id → r' = r
  subscriptions : ∀ r ∈ t.subscriptions, ∀ r' ∈ old.subscriptions, r'.id = r.id → r' = r

/-- What the decision can still come to, it could come to from its beginning. -/
def Deciding.Honest (seen : List StoredTables) (d : Deciding) : Prop :=
  ∃ now claims scope request, request.Deletes .subscription d.subscriptionId ∧
    ∀ sources : Storage → Prop, (∀ t ∈ seen, sources t.storage) → d.rest.Reaches sources () →
      (authorize now claims scope request).Reaches sources ()

private theorem Deciding.Honest.advance {seen : List StoredTables} {t : StoredTables}
    (current : t ∈ seen)
    {d : Deciding} (honest : d.Honest seen) : (d.advance t.storage).Honest seen := by
  obtain ⟨now, claims, scope, request, deletes, honest⟩ := honest
  refine ⟨now, claims, scope, request, deletes, fun sources covers reached => ?_⟩
  exact honest sources covers (.of_advance (covers t current) reached)

structure Traffic.Intact (traffic : Traffic) : Prop where
  sound : traffic.tables.Sound
  joined : traffic.tables.OwnersJoined
  kept : ∀ old ∈ traffic.seen, old.Kept traffic.tables
  honest : ∀ d ∈ traffic.decisions, d.Honest traffic.seen

theorem Tables.Sound.kept {t : StoredTables} (sound : t.Sound) : t.Kept t where
  recorded := sound.recorded
  servers _ stored _ stored' same := eq_of_key sound.keyed.serverIds stored' stored same
  subscriptions _ stored _ stored' same := eq_of_key sound.keyed.subscriptionIds stored' stored same

/-- A write keeps what was seen, as long as no id comes back. -/
theorem Tables.Kept.apply {old t : StoredTables} {write : Write} (sound : t.Sound)
    (kept : old.Kept t)
    (freshServers : ∀ r ∈ (write.change.apply t).2.servers, old.hasServer r.id = true →
      t.hasServer r.id = true)
    (freshSubscriptions : ∀ r ∈ (write.change.apply t).2.subscriptions,
      old.hasSubscription r.id = true → t.hasSubscription r.id = true) :
    old.Kept (write.change.apply t).2 := by
  obtain unchanged | effect := write.apply_cases sound.recorded
  · rwa [unchanged]
  refine ⟨kept.recorded, ?_, ?_⟩
  · intro r stored r' stored' same
    obtain before | new := effect.server_cases r stored
    · exact kept.servers r before r' stored' same
    · have there := freshServers r stored (List.any_eq_true.mpr ⟨r', stored', decide_eq_true same⟩)
      obtain ⟨other, stored, named⟩ := List.any_eq_true.mp there
      exact (new other stored (of_decide_eq_true named)).elim
  · intro r stored r' stored' same
    obtain before | new := effect.subscription_cases r stored
    · exact kept.subscriptions r before r' stored' same
    · have there := freshSubscriptions r stored
        (List.any_eq_true.mpr ⟨r', stored', decide_eq_true same⟩)
      obtain ⟨other, stored, named⟩ := List.any_eq_true.mp there
      exact (new other stored (of_decide_eq_true named)).elim

/-- The subscription that an allowed decision is about is not that of an owner, then or later. -/
theorem Traffic.Intact.spares_of_allowed {traffic : Traffic} (intact : traffic.Intact) {d : Deciding}
    (inFlight : d ∈ traffic.decisions) (allowed : d.allowed = true) :
    (Write.deleteSubscription d.subscriptionId).SparesOwners traffic.tables := by
  obtain ⟨now, claims, scope, request, deletes, honest⟩ := intact.honest d inFlight
  have decided : d.rest = .decided () := by
    unfold Deciding.allowed at allowed
    split at allowed <;> simp_all
  obtain ⟨sub, server, ⟨_, ⟨t₁, seen₁, rfl⟩, subFound⟩, ⟨_, ⟨t₂, seen₂, rfl⟩, serverFound⟩,
    stranger⟩ := deletes.seen (honest (fun σ => ∃ t ∈ traffic.seen, t.storage = σ)
      (fun t seen => ⟨t, seen, rfl⟩) (decided ▸ .decided ()))
  have kept₁ := intact.kept t₁ seen₁
  have kept₂ := intact.kept t₂ seen₂
  obtain ⟨subNamed, joined, subStored⟩ :=
    Tables.getSubscription_eq_ok kept₁.recorded (lookedUp_eq_ok_iff.mp subFound)
  obtain ⟨serverNamed, created, serverStored⟩ :=
    Tables.getServer_eq_ok kept₂.recorded (lookedUp_eq_ok_iff.mp serverFound)
  intro place stored membership subscribed inside owner hit
  have sameSub := kept₁.subscriptions membership subscribed _ subStored
    ((congrArg Uuid.text subNamed).trans hit.symm)
  subst sameSub
  have samePlace := kept₂.servers place stored _ serverStored
    ((congrArg Uuid.text serverNamed).trans inside)
  subst samePlace
  exact stranger (Uuid.text_inj.mp owner).symm

/-- Only the decision at the position goes on. -/
theorem mem_modify {α : Type} {items : List α} {position : Nat} {f : α → α} {a : α}
    (member : a ∈ items.modify position f) : ∃ b ∈ items, a = b ∨ a = f b := by
  obtain ⟨i, found⟩ := List.mem_iff_getElem?.mp member
  rw [List.getElem?_modify] at found
  obtain ⟨b, stored, same⟩ := Option.map_eq_some_iff.mp found
  refine ⟨b, List.mem_of_getElem? stored, ?_⟩
  split at same <;> simp_all

/-- Every permitted move keeps the invariant. -/
theorem Traffic.Intact.move {traffic : Traffic} (intact : traffic.Intact) {move : Move}
    (permitted : traffic.Permits move) : (traffic.move move).Intact := by
  cases move with
  | begin id now claims scope request =>
    refine { intact with honest := Tables.forall_mem_append_singleton.mpr ⟨intact.honest, ?_⟩ }
    exact ⟨now, claims, scope, request, permitted, fun _ _ reached => reached⟩
  | lookup position =>
    refine { intact with honest := fun d inFlight => ?_ }
    obtain ⟨before, member, rfl | rfl⟩ := mem_modify inFlight
    · exact intact.honest _ member
    · exact (intact.honest _ member).advance (List.mem_cons_self ..)
  | write write =>
    obtain ⟨clears, fresh⟩ := permitted
    have spares : write.SparesOwners traffic.tables := by
      cases write with
      | deleteSubscription id =>
        obtain ⟨d, inFlight, rfl, allowed⟩ := clears
        exact intact.spares_of_allowed inFlight allowed
      | _ => trivial
    have sound := Write.sound_apply intact.sound write
    refine ⟨sound, Write.ownersJoined_apply intact.sound intact.joined spares, ?kept, ?honest⟩
    case kept =>
      intro old seen
      rcases List.mem_cons.mp seen with rfl | seen
      · exact sound.kept
      rcases List.mem_cons.mp seen with rfl | past
      · exact (intact.kept _ seen).apply intact.sound (fun _ _ there => there)
          fun _ _ there => there
      · exact (intact.kept old seen).apply intact.sound (fresh.servers old past)
          (fresh.subscriptions old past)
    case honest =>
      intro d inFlight
      obtain ⟨now, claims, scope, request, deletes, honest⟩ := intact.honest d inFlight
      refine ⟨now, claims, scope, request, deletes, fun sources covers reached => ?_⟩
      exact honest sources (fun t seen => covers t (List.mem_cons_of_mem _ seen)) reached

namespace Traffic

private theorem intact_start : start.Intact where
  sound := Tables.sound_empty
  joined := Tables.ownersJoined_empty
  kept := List.forall_mem_singleton.mpr Tables.sound_empty.kept
  honest := fun _ inFlight => nomatch inFlight

theorem Intact.runAll {traffic : Traffic} (intact : traffic.Intact) {moves : List Move}
    (permitted : traffic.AllPermitted moves) : (traffic.runAll moves).Intact := by
  induction moves generalizing traffic with
  | nil => exact intact
  | cons move rest ih =>
    obtain ⟨first, later⟩ := permitted
    exact ih (intact.move first) later

end Traffic

/-- Whatever writes and lookups come in between, every server keeps the subscription of its owner. -/
theorem owners_stay_joined {moves : List Move} (permitted : Traffic.start.AllPermitted moves) :
    (Traffic.start.runAll moves).tables.OwnersJoined :=
  (Traffic.intact_start.runAll permitted).joined

namespace Sample

open Gatehouse.Sample (claimsOf)

/-- User 1 owns server 7 by subscription 6, and user 2 has joined it by subscription 5. -/
def joining : List Write :=
  [.createUser ⟨⟨1⟩, "owner", .epoch⟩, .createUser ⟨⟨2⟩, "guest", .epoch⟩,
    .createServer ⟨⟨7⟩, "house", ⟨1⟩, .epoch⟩ ⟨6⟩ .epoch, .createSubscription ⟨⟨5⟩, ⟨7⟩, ⟨2⟩, .epoch⟩]

/-- To leave server 7 by a subscription. -/
def leaving (id : Uuid) : Request := ⟨.subscription, some id.text, "delete", none⟩

/-- Both users want to leave. Their lookups alternate, and between them the guest founds a server;
when both decisions have ended the guest leaves. -/
def moves : List Move :=
  joining.map .write ++
    [.begin ⟨5⟩ .epoch (some (claimsOf ⟨2⟩)) .unscoped (leaving ⟨5⟩),
      .begin ⟨6⟩ .epoch (some (claimsOf ⟨1⟩)) .unscoped (leaving ⟨6⟩),
      .lookup 0, .lookup 1,
      .write (.createServer ⟨⟨8⟩, "hut", ⟨2⟩, .epoch⟩ ⟨4⟩ .epoch),
      .lookup 0, .lookup 1,
      .write (.deleteSubscription ⟨5⟩)]

private theorem leaving_deletes (id : Uuid) (read : readObjectId (some id.text) = .ok (some id)) :
    (leaving id).Deletes .subscription id := by
  have words : Operation.ofWords? "delete" none = some .delete := by decide +kernel
  exact ⟨rfl, words, read⟩

private theorem moves_permitted : Traffic.start.AllPermitted moves := by
  refine ⟨?_, ?_, ?_, ?_, leaving_deletes _ rfl, leaving_deletes _ rfl, trivial, trivial, ?_,
    trivial, trivial, ?_, trivial⟩
  all_goals exact ⟨by decide +kernel, by decide +kernel⟩

end Sample

/-- The guest leaves, the owner does not. -/
theorem guest_leaves_owner_stays :
    Traffic.start.AllPermitted Sample.moves ∧
      (Traffic.start.runAll Sample.moves).tables.OwnersJoined ∧
        (Traffic.start.runAll Sample.moves).tables.hasSubscription (Uuid.text ⟨5⟩) = false := by
  exact ⟨Sample.moves_permitted, owners_stay_joined Sample.moves_permitted, by decide +kernel⟩

end Store

end Gatehouse
