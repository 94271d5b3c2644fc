import Ocvsmd.GatewayHistory
import Ocvsmd.RouterSteps

set_option autoImplicit false

namespace Ocvsmd.Ipc

def losses {E : Type} (gs : List (GatewayImpl E)) (g : GatewayId) : Nat :=
  match gs[g]? with
  | some gw => gw.events.count (.completed ErrorCode.disconnected)
  | none => 0

theorem losses_hear {E : Type} {gs : List (GatewayImpl E)} {g : GatewayId}
    (h : isAlive gs g = true) :
    losses (gs.modify g (·.hear (.completed ErrorCode.disconnected))) g = losses gs g + 1 := by
  obtain ⟨gw, hg, _⟩ := isAlive_iff.mp h
  simp [losses, hg, GatewayImpl.hear]

theorem Evolves.losses {E : Type} {registered : GatewayId → Prop}
    {due : GatewayId → Option Event} {gs gs' : List (GatewayImpl E)}
    (h : Evolves registered due gs gs') {g : GatewayId} (hlt : g < gs.length)
    (hr : ¬ registered g) (hd : due g = none) : Ipc.losses gs' g = Ipc.losses gs g := by
  obtain ⟨gw', hg', hc⟩ := h.old g _ (List.getElem?_eq_getElem hlt)
  have hev := (hc.silent hr hd).1
  simp [Ipc.losses, hg', hlt, hev]

theorem Evolves.length_le {E : Type} {registered : GatewayId → Prop}
    {due : GatewayId → Option Event} {gs gs' : List (GatewayImpl E)}
    (h : Evolves registered due gs gs') : gs.length ≤ gs'.length := by
  by_contra hlt
  obtain ⟨gw', hg', _⟩ := h.old gs'.length _
    (List.getElem?_eq_getElem (show gs'.length < gs.length by omega))
  simp at hg'

namespace ClientRouter

@[simp] theorem lookup_raise (r : ClientRouter) (g : GatewayId) (e : Event) :
    (r.raise g e).router.lookup = r.lookup := by
  unfold raise
  split <;> rfl

@[simp] theorem broadcast_raise (r : ClientRouter) (g : GatewayId) (e : Event) :
    (r.raise g e).router.broadcast = r.broadcast := by
  unfold raise
  split <;> rfl

/-- While somebody is left to be told, the loop can go on, and has one less to tell then. -/
theorem turn_of_remaining (κ : RouteCodec) {r : ClientRouter} {g : GatewayId}
    {rest : List GatewayId} (h : r.broadcast.remaining = g :: rest) :
    ∃ reply, r.perform κ .notifyNext = some reply ∧ reply.router.broadcast.remaining = rest := by
  simp only [perform, notifyNext, h]
  refine ⟨_, rfl, ?_⟩
  split
  · rw [broadcast_raise]
  · rfl

theorem loop_ends (κ : RouteCodec) (r : ClientRouter) :
    ∃ m, Runs.run (step κ) r (List.replicate r.broadcast.remaining.length .notifyNext) = some m ∧
      m.broadcast.remaining = [] :=
  Runs.run_drains ClientAction.notifyNext (·.broadcast.remaining) (fun {_ _ _} h => by
    obtain ⟨reply, hp, hrest⟩ := turn_of_remaining κ h
    exact ⟨reply.router, step_eq_some.mpr ⟨reply, hp, rfl⟩, hrest⟩) r

theorem Updates.lookup {κ : RouteCodec} {r r' : ClientRouter} (h : Updates κ r r') {t : Tag}
    {g : GatewayId} (hl : r'.lookup t = some g) : r.lookup t = some g := by
  refine h.keep (P := fun m => ∀ t g, m.lookup t = some g → r.lookup t = some g) ?_
    (fun _ _ hl => hl) t g hl
  intro m m' hm hu t g hl
  cases hu with
  | gateway i f => exact hm t g hl
  | unregister endpoint =>
    rw [lookup_unregister] at hl
    by_cases he : t = endpoint
    · subst he
      simp at hl
    · rw [Function.update_of_ne he] at hl
      exact hm t g hl
  | post channel connected outcome =>
    rw [lookup_pipeSend] at hl
    exact hm t g hl

theorem lookup_step {κ : RouteCodec} {r r' : ClientRouter} {a : ClientAction} {t : Tag}
    {g : GatewayId} (hs : r.step κ a = some r') (hl : r'.lookup t = some g) :
    r.lookup t = some g ∨ g = r.gateways.length := by
  cases step_case hs with
  | updates done => exact .inl (done.lookup hl)
  | makes =>
    rw [lookup_makeGateway] at hl
    by_cases he : t = r.nextTag
    · subst he
      rw [Function.update_self] at hl
      cases hl
      exact .inr rfl
    · rw [Function.update_of_ne he] at hl
      exact .inl hl
  | requests outcome =>
    simp only [handlePipeConnected, lookup_pipeSend] at hl
    exact .inl hl
  | connects payload order idle ids answer =>
    unfold handleRouteConnect at hl
    split at hl <;> exact .inl hl
  | loses order idle ids =>
    unfold handlePipeDisconnected at hl
    split at hl
    · simp [lookup] at hl
    · exact .inl hl
  | turns i rest remaining done => exact .inl (done.lookup hl)
  | drops outcome rest done => exact .inl (done.lookup hl)

theorem Updates.broadcast {κ : RouteCodec} {r r' : ClientRouter} (h : Updates κ r r') :
    r'.broadcast = r.broadcast := by
  refine h.keep (P := fun m => m.broadcast = r.broadcast) ?_ rfl
  intro m m' hm hu
  cases hu with
  | gateway i f => exact hm
  | unregister endpoint => exact hm
  | post channel connected outcome => exact (broadcast_pipeSend _ _ _).trans hm

/-- A loop goes on, takes a turn, or is one that just began, with registered gateways. -/
theorem broadcast_step {κ : RouteCodec} {r r' : ClientRouter} {a : ClientAction}
    (hs : r.step κ a = some r') :
    (r'.broadcast.remaining = r.broadcast.remaining ∧ r'.broadcast.event = r.broadcast.event) ∨
    (a = .notifyNext ∧ ∃ g, r.broadcast.remaining = g :: r'.broadcast.remaining ∧
      r'.broadcast.event = r.broadcast.event) ∨
    (r.idle = true ∧ ∀ g ∈ r'.broadcast.remaining, ∃ t, r.lookup t = some g) := by
  cases step_case hs with
  | updates done =>
    rw [done.broadcast]
    exact .inl ⟨rfl, rfl⟩
  | makes => exact .inl ⟨rfl, rfl⟩
  | requests outcome =>
    left
    simp [handlePipeConnected]
  | connects payload order idle ids answer =>
    unfold handleRouteConnect
    split
    · refine .inr (.inr ⟨idle, fun g hg => ?_⟩)
      exact MapOfWeakGateways.mem_ids.mp (ids.mem_iff.mp (List.mem_filter.mp hg).1)
    · exact .inl ⟨rfl, rfl⟩
  | loses order idle ids =>
    unfold handlePipeDisconnected
    split
    · refine .inr (.inr ⟨idle, fun g hg => ?_⟩)
      exact MapOfWeakGateways.mem_ids.mp (ids.mem_iff.mp hg)
    · exact .inl ⟨rfl, rfl⟩
  | turns g rest remaining done =>
    refine .inr (.inl ⟨rfl, g, ?_⟩)
    rw [done.broadcast]
    exact ⟨remaining, rfl⟩
  | @drops outcome rest m done =>
    have hremaining : m.broadcast.remaining = r.broadcast.remaining := by rw [done.broadcast]
    have hevent : m.broadcast.event = r.broadcast.event := by rw [done.broadcast]
    exact .inl ⟨hremaining, hevent⟩

/-- A gateway that lost the pipe: off the map for good, its turn to come or over. -/
structure Lost (r : ClientRouter) (g : GatewayId) : Prop where
  wf : r.Wf
  made : g < r.gateways.length
  gone : ∀ t, r.lookup t ≠ some g
  turn : g ∈ r.broadcast.remaining →
    r.broadcast.event = .completed ErrorCode.disconnected ∧ r.broadcast.remaining.Nodup

theorem Lost.unregistered {r : ClientRouter} {g : GatewayId} (h : r.Lost g) :
    ¬ r.Registered g := by
  rintro ⟨gw, hg, hl⟩
  exact h.gone _ (h.wf.lookup_self hg hl).1

theorem Lost.step {κ : RouteCodec} {r r' : ClientRouter} {a : ClientAction} {g : GatewayId}
    (h : r.Lost g) (hs : r.step κ a = some r') : r'.Lost g where
  wf := h.wf.step hs
  made := Nat.lt_of_lt_of_le h.made (h.wf.evolves hs).length_le
  gone := by
    intro t hl
    rcases lookup_step hs hl with hold | hnew
    · exact h.gone t hold
    · exact absurd h.made (by rw [hnew]; exact Nat.lt_irrefl _)
  turn := by
    intro hg
    rcases broadcast_step hs with ⟨hrem, hev⟩ | ⟨_, g', hrem, hev⟩ | ⟨_, hids⟩
    · rw [hrem] at hg ⊢
      rw [hev]
      exact h.turn hg
    · have hturn := h.turn (by rw [hrem]; exact List.mem_cons_of_mem _ hg)
      rw [hrem] at hturn
      exact ⟨hev.trans hturn.1, (List.nodup_cons.mp hturn.2).2⟩
    · obtain ⟨t, hl⟩ := hids g hg
      exact absurd hl (h.gone t)

theorem remaining_of_idle {r : ClientRouter} (h : r.idle = true) :
    r.broadcast.remaining = [] := by
  simp only [idle, Bool.and_eq_true, List.isEmpty_iff] at h
  exact h.1

def hasTurn (g : GatewayId) (r : ClientRouter) (a : ClientAction) : Prop :=
  a = .notifyNext ∧ r.broadcast.remaining.head? = some g

theorem due_of_not_turn {r : ClientRouter} {a : ClientAction} {g : GatewayId}
    (h : ¬ hasTurn g r a) : r.due a g = none := by
  unfold due
  split
  · exact if_neg fun hhead => h ⟨rfl, hhead⟩
  · rfl

theorem Lost.takes_turn {κ : RouteCodec} {r r' : ClientRouter} {a : ClientAction}
    {g : GatewayId} (h : r.Lost g) (ht : hasTurn g r a) (hs : r.step κ a = some r') :
    g ∉ r'.broadcast.remaining ∧
      losses r'.gateways g = losses r.gateways g + if isAlive r.gateways g then 1 else 0 := by
  obtain ⟨rfl, hhead⟩ := ht
  obtain ⟨rest, hrem⟩ : ∃ rest, r.broadcast.remaining = g :: rest := by
    cases hr : r.broadcast.remaining with
    | nil => simp [hr] at hhead
    | cons x rest =>
      rw [hr, List.head?_cons, Option.some.injEq] at hhead
      exact ⟨rest, by rw [hhead]⟩
  obtain ⟨hev, hnodup⟩ := h.turn (by simp [hrem])
  rw [hrem] at hnodup
  have hnot := (List.nodup_cons.mp hnodup).1
  obtain ⟨reply, hp, rfl⟩ := step_eq_some.mp hs
  simp only [perform, notifyNext, hrem, Option.some.injEq] at hp
  subst hp
  split
  · next ha =>
    obtain ⟨gw, hg, _⟩ := isAlive_iff.mp ha
    refine ⟨by simpa using hnot, ?_⟩
    have hheard : ({ r with broadcast := { r.broadcast with remaining := rest } }.raise g
        r.broadcast.event).router.gateways =
        r.gateways.modify g (·.hear (.completed ErrorCode.disconnected)) := by
      simp only [raise, hg, hev]
      rfl
    rw [hheard]
    exact losses_hear ha
  · exact ⟨hnot, rfl⟩

theorem Lost.waits_on {κ : RouteCodec} {r r' : ClientRouter} {a : ClientAction}
    {g : GatewayId} (h : r.Lost g) (hw : g ∈ r.broadcast.remaining) (ht : ¬ hasTurn g r a)
    (hs : r.step κ a = some r') :
    g ∈ r'.broadcast.remaining ∧ losses r'.gateways g = losses r.gateways g := by
  refine ⟨?_, (h.wf.evolves hs).losses h.made h.unregistered (due_of_not_turn ht)⟩
  rcases broadcast_step hs with ⟨hrem, _⟩ | ⟨rfl, g', hrem, _⟩ | ⟨hidle, _⟩
  · rwa [hrem]
  · rw [hrem] at hw
    rcases List.mem_cons.mp hw with rfl | hw
    · exact absurd ⟨rfl, by rw [hrem]; rfl⟩ ht
    · exact hw
  · rw [remaining_of_idle hidle] at hw
    cases hw

theorem Lost.stays_told {κ : RouteCodec} {r r' : ClientRouter} {a : ClientAction}
    {g : GatewayId} (h : r.Lost g) (hw : g ∉ r.broadcast.remaining)
    (hs : r.step κ a = some r') :
    g ∉ r'.broadcast.remaining ∧ losses r'.gateways g = losses r.gateways g := by
  have ht : ¬ hasTurn g r a := fun ht => hw (List.mem_of_head? ht.2)
  refine ⟨fun hg => ?_, (h.wf.evolves hs).losses h.made h.unregistered (due_of_not_turn ht)⟩
  rcases broadcast_step hs with ⟨hrem, _⟩ | ⟨_, g', hrem, _⟩ | ⟨_, hids⟩
  · exact hw (hrem ▸ hg)
  · exact hw (by rw [hrem]; exact List.mem_cons_of_mem _ hg)
  · obtain ⟨t, hl⟩ := hids g hg
    exact h.gone t hl

/-- What the loss of the pipe, and whatever comes after it, means to one gateway: it is off
the map, it sends no more, and once the loop is over, as it is after the turns that are left,
it has been told at its turn, once, unless it was gone by then. -/
structure Notified (κ : RouteCodec) (r : ClientRouter) (order : List GatewayId)
    (as : List ClientAction) (s : ClientRouter) (g : GatewayId) : Prop where
  gone : ∀ t, s.lookup t ≠ some g
  mute : ∀ (gw : GatewayImpl Tag) (serviceId : ServiceId) (payload : Bytes) (outcome : Int32),
    s.channel g = some gw → (s.send κ g gw serviceId payload outcome).router = s ∧
      (s.send κ g gw serviceId payload outcome).code ≠ 0
  ends : ∃ m, Runs.run (step κ) s
    (List.replicate s.broadcast.remaining.length .notifyNext) = some m ∧
      m.broadcast.remaining = []
  told : s.broadcast.remaining = [] → ∃ pre post m, as = pre ++ .notifyNext :: post ∧
    Runs.run (step κ) r (.pipeDisconnected order :: pre) = some m ∧
    m.broadcast.remaining.head? = some g ∧
    losses s.gateways g = losses r.gateways g + if isAlive m.gateways g then 1 else 0

/-- Every gateway that is registered when the pipe is lost is notified. -/
def LossReachesAll (κ : RouteCodec) (r : ClientRouter) (order : List GatewayId) : Prop :=
  ∀ (as : List ClientAction) (s : ClientRouter),
    Runs.run (step κ) r (.pipeDisconnected order :: as) = some s →
    ∀ t g, r.lookup t = some g → Notified κ r order as s g

theorem Lost.mute {κ : RouteCodec} {r : ClientRouter} {g : GatewayId} (h : r.Lost g)
    (gw : GatewayImpl Tag) (serviceId : ServiceId) (payload : Bytes) (outcome : Int32)
    (hg : r.channel g = some gw) : (r.send κ g gw serviceId payload outcome).router = r ∧
      (r.send κ g gw serviceId payload outcome).code ≠ 0 := by
  have hreg : r.isRegisteredGateway gw.endpoint = false := by
    cases hl : (r.lookup gw.endpoint).isSome with
    | true => exact absurd ⟨gw, (channel_eq_some.mp hg).1, hl⟩ h.unregistered
    | false => exact hl
  have hconn : ErrorCode.notConnected ≠ 0 := by decide
  have hshut : ErrorCode.shutdown ≠ 0 := by decide
  unfold send
  cases r.isConnected <;> simp [hreg, hconn, hshut]

/-- The loop that tells of the loss starts with every registered gateway waiting. -/
theorem Wf.lost {r : ClientRouter} (h : r.Wf) (hi : r.idle = true) {order : List GatewayId}
    (hc : r.isConnected = true) (ho : order.Perm r.mapOfGateways.ids) {t : Tag} {g : GatewayId}
    (hl : r.lookup t = some g) :
    (r.handlePipeDisconnected order).router.Lost g ∧
      g ∈ (r.handlePipeDisconnected order).router.broadcast.remaining ∧
      (r.handlePipeDisconnected order).router.gateways = r.gateways := by
  obtain ⟨gw, hg, _, _⟩ := h.registry t g hl
  have hmem : g ∈ order := ho.mem_iff.mpr (MapOfWeakGateways.mem_ids.mpr ⟨t, hl⟩)
  have hnodup : order.Nodup :=
    ho.nodup_iff.mpr (MapOfWeakGateways.ids_nodup fun ht ht' => h.registry.injective ht ht')
  unfold handlePipeDisconnected
  rw [if_pos hc]
  refine ⟨?_, hmem, rfl⟩
  exact {
    wf := h.rebroadcast hi rfl (fun t g ht => by simp [lookup] at ht) rfl
    made := (List.getElem?_eq_some_iff.mp hg).1
    gone := fun t ht => by simp [lookup] at ht
    turn := fun _ => ⟨rfl, hnodup⟩ }

theorem Wf.loss_reaches_all {κ : RouteCodec} {r : ClientRouter} (h : r.Wf)
    (hi : r.idle = true) {order : List GatewayId} (hc : r.isConnected = true)
    (ho : order.Perm r.mapOfGateways.ids) : LossReachesAll κ r order := by
  intro as s hrun t g hl
  obtain ⟨hlost, hwaits, hgs⟩ := h.lost hi hc ho hl
  have hstep : r.step κ (.pipeDisconnected order) =
      some (r.handlePipeDisconnected order).router := by
    simp [ClientRouter.step, perform, hi, ho]
  obtain ⟨r0, hr0, hrun⟩ := Runs.run_cons.mp hrun
  rw [hstep] at hr0
  cases hr0
  have hend : s.Lost g :=
    Runs.run_preserves (P := fun x => Lost x g) (fun hx hs => hx.step hs) hlost hrun
  refine ⟨hend.gone, hend.mute, loop_ends κ s, fun hover => ?_⟩
  rcases Runs.run_turn (fun x => Lost x g) (fun x => g ∈ x.broadcast.remaining) (hasTurn g)
    (fun x => losses x.gateways g) (fun x => if isAlive x.gateways g then 1 else 0)
    (fun hx hs => hx.step hs) (fun hx _ ht hs => hx.takes_turn ht hs)
    (fun hx hw ht hs => hx.waits_on hw ht hs) (fun hx hw hs => hx.stays_told hw hs)
    hlost hwaits hrun with ⟨hstill, _⟩ | ⟨pre, a, post, m, rfl, hm, ⟨rfl, hhead⟩, _, hcount⟩
  · rw [hover] at hstill
    cases hstill
  · refine ⟨pre, post, m, rfl, Runs.run_cons.mpr ⟨_, hstep, hm⟩, hhead, ?_⟩
    rw [hcount, hgs]

/-- A router that has not seen the route connected keeps the loss to itself. -/
theorem loss_unreported {κ : RouteCodec} {r : ClientRouter} {order : List GatewayId}
    (hi : r.idle = true) (hc : r.isConnected = false) (ho : order.Perm r.mapOfGateways.ids) :
    r.step κ (.pipeDisconnected order) = some r := by
  simp [step, perform, hi, ho, handlePipeDisconnected, hc]

theorem loss_reaches_all_iff {κ : RouteCodec} {r : ClientRouter} (h : Reachable κ r)
    (hi : r.idle = true) {order : List GatewayId} (ho : order.Perm r.mapOfGateways.ids) :
    LossReachesAll κ r order ↔ r.isConnected = true ∨ ∀ t, r.isRegisteredGateway t = false := by
  constructor
  · intro hall
    cases hc : r.isConnected with
    | true => exact Or.inl rfl
    | false =>
      refine Or.inr fun t => ?_
      cases hl : r.lookup t with
      | none => simp [isRegisteredGateway, hl]
      | some g =>
        have hn := hall [] r (Runs.run_one.mpr (loss_unreported hi hc ho)) t g hl
        exact absurd hl (hn.gone t)
  · rintro (hc | hnone)
    · exact h.wf.loss_reaches_all hi hc ho
    · intro as s _ t g hl
      have hn := hnone t
      rw [isRegisteredGateway, hl] at hn
      cases hn

end ClientRouter

end Ocvsmd.Ipc
