import Ocvsmd.PipeLoss

set_option autoImplicit false

namespace Ocvsmd.Ipc

namespace ServerRouter

@[simp] theorem remaining_raise (r : ServerRouter) (g : GatewayId) (e : Event) :
    (r.raise g e).router.remaining = r.remaining := by
  unfold raise
  split <;> rfl

@[simp] theorem remaining_pipeSend (r : ServerRouter) (clientId : ClientId) (message : Bytes)
    (outcome : Int32) : (r.pipeSend clientId message outcome).remaining = r.remaining := by
  unfold pipeSend
  split <;> rfl

theorem remaining_destroy (κ : RouteCodec) (r : ServerRouter) (g : GatewayId)
    (gw : GatewayImpl Endpoint) (outcome : Int32) :
    (r.destroy κ g gw outcome).remaining = r.remaining := by
  rcases destroy_cases κ r g gw outcome with ⟨m, _, _, heq⟩ | ⟨_, maps, heq⟩
  · rw [heq, remaining_pipeSend]
    rfl
  · rw [heq]
    rfl

theorem turn_of_remaining (κ : RouteCodec) {r : ServerRouter} {g : GatewayId}
    {rest : List GatewayId} (h : r.remaining = g :: rest) :
    ∃ r', r.step κ .notifyNext = some r' ∧ r'.remaining = rest := by
  simp only [step, perform, notifyNext, h, Option.map_some]
  refine ⟨_, rfl, ?_⟩
  split
  · rw [remaining_raise]
  · rfl

theorem unmapped_setMap {r : ServerRouter} {c c' : ClientId} {m : Option MapOfWeakGateways}
    (h : r.clientIdToMapOfGateways c = none) (hc : c ≠ c') :
    (r.setMap c' m).clientIdToMapOfGateways c = none := by
  simp [setMap, hc, h]

theorem Updates.unmapped {κ : RouteCodec} {r r' : ServerRouter} (h : Updates κ r r')
    {c : ClientId} (hc : r.clientIdToMapOfGateways c = none) :
    r'.clientIdToMapOfGateways c = none := by
  refine h.keep (P := fun m => m.clientIdToMapOfGateways c = none) ?_ hc
  intro m m' hm hu
  cases hu with
  | gateways gs => exact hm
  | entry known m' =>
    refine unmapped_setMap hm ?_
    rintro rfl
    rw [hm] at known
    cases known
  | post d channel outcome =>
    rw [maps_pipeSend]
    exact hm

theorem unmapped_step {κ : RouteCodec} {r r' : ServerRouter} {a : ServerAction} {c : ClientId}
    (hs : r.step κ a = some r') (h : r.clientIdToMapOfGateways c = none)
    (ha : ∀ payload outcome, a ≠ .pipeMessage c payload outcome) :
    r'.clientIdToMapOfGateways c = none := by
  cases step_case hs with
  | updates done => exact done.unmapped h
  | registers serviceId input => exact h
  | connects d payload outcome =>
    have hne : c ≠ d := by
      rintro rfl
      exact ha payload outcome rfl
    unfold handleRouteConnect
    simp only
    split
    · exact unmapped_setMap (by rw [maps_pipeSend]; exact h) hne
    · rw [maps_pipeSend]
      exact h
  | loses d order idle ids =>
    unfold handlePipeDisconnected
    split
    · by_cases hc : c = d
      · subst hc
        simp [setMap]
      · exact unmapped_setMap h hc
    · exact h
  | turns g rest remaining done => exact done.unmapped h

theorem Updates.remaining {κ : RouteCodec} {r r' : ServerRouter} (h : Updates κ r r') :
    r'.remaining = r.remaining := by
  refine h.keep (P := fun m => m.remaining = r.remaining) ?_ rfl
  intro m m' hm hu
  cases hu with
  | gateways gs => exact hm
  | entry known m' => exact hm
  | post d channel outcome => exact (remaining_pipeSend _ _ _ _).trans hm

theorem remaining_step {κ : RouteCodec} {r r' : ServerRouter} {a : ServerAction}
    (hs : r.step κ a = some r') :
    r'.remaining = r.remaining ∨
    (a = .notifyNext ∧ ∃ g, r.remaining = g :: r'.remaining) ∨
    (r.idle = true ∧ ∃ c, r'.remaining.Perm (r.ids c)) := by
  cases step_case hs with
  | updates done => exact .inl done.remaining
  | registers serviceId input => exact .inl rfl
  | connects c payload outcome =>
    unfold handleRouteConnect
    simp only
    split
    · exact .inl (remaining_pipeSend _ _ _ _)
    · exact .inl (remaining_pipeSend _ _ _ _)
  | loses c order idle ids =>
    unfold handlePipeDisconnected
    split
    · exact .inr (.inr ⟨idle, c, ids⟩)
    · exact .inl rfl
  | turns g rest remaining done =>
    refine .inr (.inl ⟨rfl, g, ?_⟩)
    rw [done.remaining]
    exact remaining

theorem mem_ids {r : ServerRouter} {c : ClientId} {g : GatewayId} :
    g ∈ r.ids c ↔ ∃ t, r.lookup ⟨t, c⟩ = some g := by
  cases hm : r.clientIdToMapOfGateways c with
  | none => simp [ids, lookup, hm]
  | some m => simp [ids, lookup, hm, MapOfWeakGateways.mem_ids]

theorem Wf.ids_nodup {r : ServerRouter} (h : r.Wf) (c : ClientId) : (r.ids c).Nodup := by
  unfold ids
  cases hm : r.clientIdToMapOfGateways c with
  | none => exact List.nodup_nil
  | some m =>
    refine MapOfWeakGateways.ids_nodup fun {t t' g} ht ht' => ?_
    rw [← lookup_eq hm] at ht ht'
    exact congrArg Endpoint.tag (h.registry.injective ht ht')

end ServerRouter

/-- `SocketServer`, as far as client ids go, and the router above it. -/
structure SocketServer where
  router : ServerRouter := {}
  uniqueClientIdCounter : ClientId := 0
  clientIdToContext : ClientId → Bool := fun _ => false

inductive SocketServerAction where
  | router : ServerAction → SocketServerAction
  | handleAccept : SocketServerAction
  | handleClientRequest : ClientId → Bytes → Int32 → SocketServerAction
  | closeConnection : ClientId → List GatewayId → SocketServerAction

def ServerAction.isPipeEvent : ServerAction → Bool
  | .pipeConnected _ => true
  | .pipeMessage _ _ _ => true
  | .pipeDisconnected _ _ => true
  | _ => false

namespace SocketServer

/-- Ids are 64-bit numbers, and less than 2^64 connections are accepted. -/
def handleAccept (κ : RouteCodec) (h : SocketServer) : Option SocketServer :=
  let newClientId := h.uniqueClientIdCounter + 1
  if newClientId < 2^64 then
    (h.router.step κ (.pipeConnected newClientId)).map fun r =>
      { router := r
        uniqueClientIdCounter := newClientId
        clientIdToContext := Function.update h.clientIdToContext newClientId true }
  else none

def handleClientRequest (κ : RouteCodec) (h : SocketServer) (clientId : ClientId)
    (payload : Bytes) (outcome : Int32) : Option SocketServer :=
  if h.clientIdToContext clientId then
    (h.router.step κ (.pipeMessage clientId payload outcome)).map fun r =>
      { h with router := r }
  else none

/-- The other end of `handleClientRequest`: end of stream, or an error. -/
def closeConnection (κ : RouteCodec) (h : SocketServer) (clientId : ClientId)
    (order : List GatewayId) : Option SocketServer :=
  if h.clientIdToContext clientId then
    (h.router.step κ (.pipeDisconnected clientId order)).map fun r =>
      { h with
        router := r
        clientIdToContext := Function.update h.clientIdToContext clientId false }
  else none

def step (κ : RouteCodec) (h : SocketServer) : SocketServerAction → Option SocketServer
  | .router a =>
    if a.isPipeEvent then none else (h.router.step κ a).map fun r => { h with router := r }
  | .handleAccept => h.handleAccept κ
  | .handleClientRequest clientId payload outcome =>
    h.handleClientRequest κ clientId payload outcome
  | .closeConnection clientId order => h.closeConnection κ clientId order

def Reachable (κ : RouteCodec) (h : SocketServer) : Prop := Runs.Reachable (step κ) {} h

theorem router_step {κ : RouteCodec} {h h' : SocketServer} {a : SocketServerAction}
    (hs : h.step κ a = some h') : ∃ b, h.router.step κ b = some h'.router ∧
      (∀ c payload outcome, h.clientIdToContext c = false →
        b ≠ .pipeMessage c payload outcome) ∧
      (b = .notifyNext → a = .router .notifyNext) := by
  cases a with
  | router b =>
    simp only [step] at hs
    split at hs
    · cases hs
    · next hb =>
      obtain ⟨r, hr, rfl⟩ := Option.map_eq_some_iff.mp hs
      refine ⟨b, hr, fun c payload outcome _ he => ?_, fun he => by rw [he]⟩
      exact hb (by rw [he]; rfl)
  | handleAccept =>
    simp only [step, handleAccept] at hs
    split at hs
    · obtain ⟨r, hr, rfl⟩ := Option.map_eq_some_iff.mp hs
      exact ⟨_, hr, fun _ _ _ _ he => (by cases he), fun he => (by cases he)⟩
    · cases hs
  | handleClientRequest clientId payload outcome =>
    simp only [step, handleClientRequest] at hs
    split at hs
    · next hctx =>
      obtain ⟨r, hr, rfl⟩ := Option.map_eq_some_iff.mp hs
      refine ⟨_, hr, fun c _ _ hc he => ?_, fun he => by cases he⟩
      cases he
      rw [hctx] at hc
      cases hc
    · cases hs
  | closeConnection clientId order =>
    simp only [step, closeConnection] at hs
    split at hs
    · obtain ⟨r, hr, rfl⟩ := Option.map_eq_some_iff.mp hs
      exact ⟨_, hr, fun _ _ _ _ he => (by cases he), fun he => (by cases he)⟩
    · cases hs

theorem context_step {κ : RouteCodec} {h h' : SocketServer} {a : SocketServerAction}
    {c : ClientId} (hs : h.step κ a = some h') :
    h.uniqueClientIdCounter ≤ h'.uniqueClientIdCounter ∧
    (h'.clientIdToContext c = true → h.clientIdToContext c = true ∨
      h.uniqueClientIdCounter < c ∧ c ≤ h'.uniqueClientIdCounter) := by
  cases a with
  | router b =>
    simp only [step] at hs
    split at hs
    · cases hs
    · obtain ⟨r, _, rfl⟩ := Option.map_eq_some_iff.mp hs
      exact ⟨Nat.le_refl _, Or.inl⟩
  | handleAccept =>
    simp only [step, handleAccept] at hs
    split at hs
    · obtain ⟨r, _, rfl⟩ := Option.map_eq_some_iff.mp hs
      refine ⟨Nat.le_succ _, fun hc => ?_⟩
      by_cases he : c = h.uniqueClientIdCounter + 1
      · subst he
        exact Or.inr ⟨Nat.lt_succ_self _, Nat.le_refl _⟩
      · simp only [Function.update_of_ne he] at hc
        exact Or.inl hc
    · cases hs
  | handleClientRequest clientId payload outcome =>
    simp only [step, handleClientRequest] at hs
    split at hs
    · obtain ⟨r, _, rfl⟩ := Option.map_eq_some_iff.mp hs
      exact ⟨Nat.le_refl _, Or.inl⟩
    · cases hs
  | closeConnection clientId order =>
    simp only [step, closeConnection] at hs
    split at hs
    · obtain ⟨r, _, rfl⟩ := Option.map_eq_some_iff.mp hs
      refine ⟨Nat.le_refl _, fun hc => Or.inl ?_⟩
      by_cases he : c = clientId
      · subst he; simp at hc
      · simpa [he] using hc
    · cases hs

structure Wf (h : SocketServer) : Prop where
  router : h.router.Wf
  opened : ∀ c, h.clientIdToContext c = true → c ≤ h.uniqueClientIdCounter

theorem Wf.step {κ : RouteCodec} {h h' : SocketServer} {a : SocketServerAction} (hw : h.Wf)
    (hs : h.step κ a = some h') : h'.Wf where
  router := by
    obtain ⟨b, hb, _⟩ := router_step hs
    exact hw.router.step hb
  opened := by
    intro c hc
    obtain ⟨hle, hold⟩ := context_step (c := c) hs
    rcases hold hc with hopen | ⟨_, hnew⟩
    · exact Nat.le_trans (hw.opened c hopen) hle
    · exact hnew

theorem Reachable.wf {κ : RouteCodec} {h : SocketServer} (hr : Reachable κ h) : h.Wf :=
  Runs.Reachable.invariant hr
    { router := ServerRouter.wf_init, opened := fun _ hc => by cases hc }
    fun hw hs => hw.step hs

/-- A gateway of a client that is gone: its turn to come or over. -/
structure Lost (h : SocketServer) (c : ClientId) (g : GatewayId) : Prop where
  wf : h.router.Wf
  closed : h.clientIdToContext c = false
  used : c ≤ h.uniqueClientIdCounter
  unmapped : h.router.clientIdToMapOfGateways c = none
  owner : ∃ gw, h.router.gateways[g]? = some gw ∧ gw.endpoint.clientId = c
  turn : g ∈ h.router.remaining → h.router.remaining.Nodup

theorem Lost.unregistered {h : SocketServer} {c : ClientId} {g : GatewayId} (hl : h.Lost c g) :
    ¬ h.router.Registered g := by
  rintro ⟨gw, hg, hreg⟩
  obtain ⟨gw', hg', rfl⟩ := hl.owner
  rw [hg] at hg'
  cases hg'
  simp [ServerRouter.lookup, hl.unmapped] at hreg

theorem Lost.gone {h : SocketServer} {c : ClientId} {g : GatewayId} (hl : h.Lost c g)
    (ep : Endpoint) : h.router.lookup ep ≠ some g := by
  intro he
  exact hl.unregistered (hl.wf.registry.registered he)

theorem Lost.step {κ : RouteCodec} {h h' : SocketServer} {a : SocketServerAction}
    {c : ClientId} {g : GatewayId} (hl : h.Lost c g) (hs : h.step κ a = some h') :
    h'.Lost c g := by
  obtain ⟨b, hb, hmsg, _⟩ := router_step hs
  obtain ⟨hle, hctx⟩ := context_step (c := c) hs
  obtain ⟨gw, hg, hgc⟩ := hl.owner
  exact {
    wf := hl.wf.step hb
    closed := by
      cases hc : h'.clientIdToContext c with
      | false => rfl
      | true =>
        rcases hctx hc with hopen | ⟨hnew, _⟩
        · rw [hl.closed] at hopen
          cases hopen
        · exact absurd hl.used (Nat.not_le.mpr hnew)
    used := Nat.le_trans hl.used hle
    unmapped := ServerRouter.unmapped_step hb hl.unmapped
      fun payload outcome => hmsg c payload outcome hl.closed
    owner := by
      obtain ⟨gw', hg', hc⟩ := (hl.wf.evolves hb).old g gw hg
      exact ⟨gw', hg', by rw [hc.endpoint, hgc]⟩
    turn := by
      intro hmem
      rcases ServerRouter.remaining_step hb with hrem | ⟨_, g', hrem⟩ | ⟨_, c', hids⟩
      · rw [hrem] at hmem ⊢
        exact hl.turn hmem
      · have hnodup := hl.turn (by rw [hrem]; exact List.mem_cons_of_mem _ hmem)
        rw [hrem] at hnodup
        exact (List.nodup_cons.mp hnodup).2
      · obtain ⟨t, ht⟩ := ServerRouter.mem_ids.mp (hids.mem_iff.mp hmem)
        exact absurd ht (hl.gone _) }

def hasTurn (g : GatewayId) (h : SocketServer) (a : SocketServerAction) : Prop :=
  a = .router .notifyNext ∧ h.router.remaining.head? = some g

theorem Lost.not_due {κ : RouteCodec} {h h' : SocketServer} {a : SocketServerAction}
    {c : ClientId} {g : GatewayId} (hl : h.Lost c g) (hs : h.step κ a = some h')
    (ht : ¬ hasTurn g h a) :
    losses h'.router.gateways g = losses h.router.gateways g := by
  obtain ⟨b, hb, _, hb'⟩ := router_step hs
  obtain ⟨gw, hg, _⟩ := hl.owner
  have hdue : h.router.due b g = none := by
    unfold ServerRouter.due
    split
    · exact if_neg fun hhead => ht ⟨hb' rfl, hhead⟩
    · rfl
  exact (hl.wf.evolves hb).losses (List.getElem?_eq_some_iff.mp hg).1 hl.unregistered hdue

theorem Lost.takes_turn {κ : RouteCodec} {h h' : SocketServer} {a : SocketServerAction}
    {c : ClientId} {g : GatewayId} (hl : h.Lost c g) (ht : hasTurn g h a)
    (hs : h.step κ a = some h') : g ∉ h'.router.remaining ∧
      losses h'.router.gateways g =
        losses h.router.gateways g + if isAlive h.router.gateways g then 1 else 0 := by
  obtain ⟨rfl, hhead⟩ := ht
  obtain ⟨rest, hrem⟩ : ∃ rest, h.router.remaining = g :: rest := by
    cases hr : h.router.remaining with
    | nil => simp [hr] at hhead
    | cons x rest =>
      rw [hr, List.head?_cons, Option.some.injEq] at hhead
      exact ⟨rest, by rw [hhead]⟩
  have hnodup := hl.turn (by simp [hrem])
  rw [hrem] at hnodup
  have hnot := (List.nodup_cons.mp hnodup).1
  simp only [SocketServer.step, ServerAction.isPipeEvent] at hs
  obtain ⟨r, hr, rfl⟩ := Option.map_eq_some_iff.mp hs
  obtain ⟨reply, hp, rfl⟩ := ServerRouter.step_eq_some.mp hr
  simp only [ServerRouter.perform, ServerRouter.notifyNext, hrem, Option.some.injEq] at hp
  subst hp
  simp only
  split
  · next ha =>
    obtain ⟨gw, hg, _⟩ := isAlive_iff.mp ha
    refine ⟨by simpa using hnot, ?_⟩
    simp only [ServerRouter.raise, hg, ServerRouter.gateways_modify]
    exact losses_hear ha
  · exact ⟨hnot, rfl⟩

theorem Lost.waits_on {κ : RouteCodec} {h h' : SocketServer} {a : SocketServerAction}
    {c : ClientId} {g : GatewayId} (hl : h.Lost c g) (hw : g ∈ h.router.remaining)
    (ht : ¬ hasTurn g h a) (hs : h.step κ a = some h') :
    g ∈ h'.router.remaining ∧ losses h'.router.gateways g = losses h.router.gateways g := by
  refine ⟨?_, hl.not_due hs ht⟩
  obtain ⟨b, hb, _, hb'⟩ := router_step hs
  rcases ServerRouter.remaining_step hb with hrem | ⟨rfl, g', hrem⟩ | ⟨hidle, _⟩
  · rwa [hrem]
  · rw [hrem] at hw
    rcases List.mem_cons.mp hw with rfl | hw
    · exact absurd ⟨hb' rfl, by rw [hrem]; rfl⟩ ht
    · exact hw
  · rw [ServerRouter.idle, List.isEmpty_iff] at hidle
    rw [hidle] at hw
    cases hw

theorem Lost.stays_told {κ : RouteCodec} {h h' : SocketServer} {a : SocketServerAction}
    {c : ClientId} {g : GatewayId} (hl : h.Lost c g) (hw : g ∉ h.router.remaining)
    (hs : h.step κ a = some h') :
    g ∉ h'.router.remaining ∧ losses h'.router.gateways g = losses h.router.gateways g := by
  have ht : ¬ hasTurn g h a := fun ht => hw (List.mem_of_head? ht.2)
  refine ⟨fun hg => ?_, hl.not_due hs ht⟩
  obtain ⟨b, hb, _, _⟩ := router_step hs
  rcases ServerRouter.remaining_step hb with hrem | ⟨_, g', hrem⟩ | ⟨_, c', hids⟩
  · exact hw (hrem ▸ hg)
  · exact hw (by rw [hrem]; exact List.mem_cons_of_mem _ hg)
  · obtain ⟨t, hlook⟩ := ServerRouter.mem_ids.mp (hids.mem_iff.mp hg)
    exact hl.gone _ hlook

theorem loop_ends (κ : RouteCodec) (s : SocketServer) :
    ∃ m, Runs.run (step κ) s (List.replicate s.router.remaining.length (.router .notifyNext)) =
      some m ∧ m.router.remaining = [] :=
  Runs.run_drains (SocketServerAction.router .notifyNext) (·.router.remaining) (fun {_ _ _} h => by
    obtain ⟨r, hr, hrest⟩ := ServerRouter.turn_of_remaining κ h
    exact ⟨_, by simp only [step, ServerAction.isPipeEvent, hr]; rfl, hrest⟩) s

/-- What the loss of a client, and whatever comes after it, means to one of its gateways. -/
structure Notified (κ : RouteCodec) (h : SocketServer) (c : ClientId)
    (order : List GatewayId) (as : List SocketServerAction) (s : SocketServer)
    (g : GatewayId) : Prop where
  gone : ∀ ep, s.router.lookup ep ≠ some g
  mute : ∀ (gw : GatewayImpl Endpoint) (serviceId : ServiceId) (payload : Bytes)
    (outcome : Int32), s.router.channel g = some gw →
      (s.router.send κ g gw serviceId payload outcome).router = s.router ∧
      (s.router.send κ g gw serviceId payload outcome).code ≠ 0
  ends : ∃ m, Runs.run (step κ) s
    (List.replicate s.router.remaining.length (.router .notifyNext)) = some m ∧
      m.router.remaining = []
  told : s.router.remaining = [] → ∃ pre post m, as = pre ++ .router .notifyNext :: post ∧
    Runs.run (step κ) h (.closeConnection c order :: pre) = some m ∧
    m.router.remaining.head? = some g ∧
    losses s.router.gateways g =
      losses h.router.gateways g + if isAlive m.router.gateways g then 1 else 0

def LossReachesAll (κ : RouteCodec) (h : SocketServer) (c : ClientId)
    (order : List GatewayId) : Prop :=
  ∀ (as : List SocketServerAction) (s : SocketServer),
    Runs.run (step κ) h (.closeConnection c order :: as) = some s →
    ∀ t g, h.router.lookup ⟨t, c⟩ = some g → Notified κ h c order as s g

theorem Lost.mute {κ : RouteCodec} {h : SocketServer} {c : ClientId} {g : GatewayId}
    (hl : h.Lost c g) (gw : GatewayImpl Endpoint) (serviceId : ServiceId) (payload : Bytes)
    (outcome : Int32) (hg : h.router.channel g = some gw) :
    (h.router.send κ g gw serviceId payload outcome).router = h.router ∧
      (h.router.send κ g gw serviceId payload outcome).code ≠ 0 := by
  obtain ⟨gw', hg', rfl⟩ := hl.owner
  rw [(ServerRouter.channel_eq_some.mp hg).1] at hg'
  cases hg'
  have hconn : ErrorCode.notConnected ≠ 0 := by decide
  unfold ServerRouter.send
  simp [ServerRouter.isConnected, hl.unmapped, hconn]

/-- The loop that tells of the loss starts with every registered gateway waiting. -/
theorem Wf.lost {κ : RouteCodec} {h r : SocketServer} (hw : h.Wf) {c : ClientId}
    {order : List GatewayId} (hs : h.step κ (.closeConnection c order) = some r) {t : Tag}
    {g : GatewayId} (hl : h.router.lookup ⟨t, c⟩ = some g) :
    r.Lost c g ∧ g ∈ r.router.remaining ∧ r.router.gateways = h.router.gateways := by
  obtain ⟨gw, hg, hep, _⟩ := hw.router.registry _ g hl
  have hwf := hw.step hs
  simp only [SocketServer.step, closeConnection] at hs
  split at hs
  · next hctx =>
    obtain ⟨s, hr, rfl⟩ := Option.map_eq_some_iff.mp hs
    obtain ⟨reply, hp, rfl⟩ := ServerRouter.step_eq_some.mp hr
    simp only [ServerRouter.perform] at hp
    split at hp
    · next hidle =>
      cases hp
      cases hm : h.router.clientIdToMapOfGateways c with
      | none => simp [ServerRouter.lookup, hm] at hl
      | some m =>
        simp only [ServerRouter.handlePipeDisconnected, hm] at hwf ⊢
        refine ⟨?_, hidle.2.mem_iff.mpr (ServerRouter.mem_ids.mpr ⟨t, hl⟩), rfl⟩
        exact {
          wf := hwf.router
          closed := by simp
          used := hw.opened c hctx
          unmapped := by simp [ServerRouter.setMap]
          owner := ⟨gw, hg, by rw [hep]⟩
          turn := fun _ => hidle.2.nodup_iff.mpr (hw.router.ids_nodup c) }
    · cases hp
  · cases hs

theorem loss_reaches_all {κ : RouteCodec} {h : SocketServer} (hr : Reachable κ h)
    (c : ClientId) (order : List GatewayId) : LossReachesAll κ h c order := by
  intro as s hrun t g hl
  obtain ⟨h0, hs, hrun⟩ := Runs.run_cons.mp hrun
  obtain ⟨hlost, hwaits, hgs⟩ := hr.wf.lost hs hl
  have hend : s.Lost c g :=
    Runs.run_preserves (P := fun x => Lost x c g) (fun hx hs => hx.step hs) hlost hrun
  refine ⟨hend.gone, hend.mute, loop_ends κ s, fun hover => ?_⟩
  rcases Runs.run_turn (fun x => Lost x c g) (fun x => g ∈ x.router.remaining) (hasTurn g)
    (fun x => losses x.router.gateways g)
    (fun x => if isAlive x.router.gateways g then 1 else 0)
    (fun hx hs => hx.step hs) (fun hx _ ht hs => hx.takes_turn ht hs)
    (fun hx hw ht hs => hx.waits_on hw ht hs) (fun hx hw hs => hx.stays_told hw hs)
    hlost hwaits hrun with ⟨hstill, _⟩ | ⟨pre, a, post, m, rfl, hm, ⟨rfl, hhead⟩, _, hcount⟩
  · rw [hover] at hstill
    cases hstill
  · refine ⟨pre, post, m, rfl, Runs.run_cons.mpr ⟨h0, hs, hm⟩, hhead, ?_⟩
    rw [hcount, hgs]

end SocketServer

/-- A server always tells the gateways of a lost client. A client tells its gateways of
the lost pipe if the route was connected, and else only if it has none to tell. -/
theorem pipe_loss (κ : RouteCodec) :
    (∀ h c order, SocketServer.Reachable κ h → SocketServer.LossReachesAll κ h c order) ∧
    (∀ r order, ClientRouter.Reachable κ r → r.idle = true →
      order.Perm r.mapOfGateways.ids →
      (ClientRouter.LossReachesAll κ r order ↔
        r.isConnected = true ∨ ∀ t, r.isRegisteredGateway t = false)) :=
  ⟨fun _ c order hr => SocketServer.loss_reaches_all hr c order,
    fun _ _ hr hi ho => ClientRouter.loss_reaches_all_iff hr hi ho⟩

def firstMessage : Bytes := Route.serialize (.channelMsg ⟨0, 0, 7, 1⟩) ++ [1]

def helloed : List SocketServerAction :=
  [.router (.registerChannelFactory 7 fun _ => true), .handleAccept,
   .handleClientRequest 1 (Route.serialize (.connect ⟨currentVersion, 0⟩)) 0,
   .handleClientRequest 1 firstMessage 0]

def sampleServer : SocketServer :=
  (Runs.run (SocketServer.step cyphalCodec) {} helloed).getD {}

def early : ClientRouter :=
  (Runs.run (ClientRouter.step cyphalCodec) {}
    [.makeGateway, .subscribe 0 (some fun _ => true)]).getD {}

def connected : ClientRouter :=
  (Runs.run (ClientRouter.step cyphalCodec) {}
    [.makeGateway, .pipeMessage (Route.serialize (.connect ⟨currentVersion, 0⟩)) [0],
     .notifyNext, .dropNext 0]).getD {}

theorem sampleServer_reachable : SocketServer.Reachable cyphalCodec sampleServer :=
  Runs.Reachable.getD (by decide +kernel)

theorem early_reachable : ClientRouter.Reachable cyphalCodec early :=
  Runs.Reachable.getD (by decide +kernel)

theorem connected_reachable : ClientRouter.Reachable cyphalCodec connected :=
  Runs.Reachable.getD (by decide +kernel)

/-- A gateway that was told of nothing is told once that the pipe is lost, on either side. -/
theorem pipe_loss_sample :
    (SocketServer.LossReachesAll cyphalCodec sampleServer 1 [0] ∧
      losses sampleServer.router.gateways 0 = 0 ∧
      ∃ s, Runs.run (SocketServer.step cyphalCodec) sampleServer
        [.closeConnection 1 [0], .router .notifyNext] = some s ∧
        s.router.remaining = [] ∧ losses s.router.gateways 0 = 1) ∧
    (ClientRouter.LossReachesAll cyphalCodec connected [0] ∧
      losses connected.gateways 0 = 0 ∧
      ∃ s, Runs.run (ClientRouter.step cyphalCodec) connected
        [.pipeDisconnected [0], .notifyNext] = some s ∧
        s.broadcast.remaining = [] ∧ losses s.gateways 0 = 1) := by
  have hserver := (pipe_loss cyphalCodec).1 _ 1 [0] sampleServer_reachable
  have hclient := ((pipe_loss cyphalCodec).2 connected [0] connected_reachable
    (by decide +kernel) (by decide +kernel)).mpr (Or.inl (by decide +kernel))
  have hserved : (Runs.run (SocketServer.step cyphalCodec) sampleServer
      [.closeConnection 1 [0], .router .notifyNext]).any
      (fun s => s.router.remaining = [] ∧ losses s.router.gateways 0 = 1) = true := by
    decide +kernel
  have htold : (Runs.run (ClientRouter.step cyphalCodec) connected
      [.pipeDisconnected [0], .notifyNext]).any
      (fun s => s.broadcast.remaining = [] ∧ losses s.gateways 0 = 1) = true := by
    decide +kernel
  obtain ⟨s, hs, hdone⟩ := (Option.any_eq_true _ _).mp hserved
  obtain ⟨r, hr, hover⟩ := (Option.any_eq_true _ _).mp htold
  exact ⟨⟨hserver, by decide +kernel, s, hs, of_decide_eq_true hdone⟩,
    hclient, by decide +kernel, r, hr, of_decide_eq_true hover⟩

/-- The pipe is lost before the route is connected: the gateway stays registered, and is
told nothing. -/
theorem pipe_loss_early :
    ClientRouter.Reachable cyphalCodec early ∧ early.idle = true ∧
    [0].Perm early.mapOfGateways.ids ∧ early.isRegisteredGateway 0 = true ∧
    ¬ ClientRouter.LossReachesAll cyphalCodec early [0] := by
  have hi : early.idle = true := by decide +kernel
  have ho : [0].Perm early.mapOfGateways.ids := by decide +kernel
  have hl : early.lookup 0 = some 0 := by decide +kernel
  refine ⟨early_reachable, hi, ho, by rw [ClientRouter.isRegisteredGateway, hl]; rfl, ?_⟩
  intro hall
  have hs := ClientRouter.loss_unreported (κ := cyphalCodec) hi (by decide +kernel) ho
  exact (hall [] early (Runs.run_one.mpr hs) 0 0 hl).gone 0 hl

end Ocvsmd.Ipc
