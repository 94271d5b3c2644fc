import Ocvsmd.CommandResult
import Ocvsmd.Handshake

set_option autoImplicit false

namespace Ocvsmd.Ipc

namespace ClientRouter

/-- Who is off the map while its pipe is up was told its end. -/
def Listed (r : ClientRouter) : Prop :=
  Each r.gateways fun g gw => gw.alive = true →
    r.lookup gw.endpoint = some g ∨ ∃ e, .completed e ∈ gw.events

theorem Listed.congr {r r' : ClientRouter} (h : r.Listed) (hg : r'.gateways = r.gateways)
    (hl : r'.lookup = r.lookup) : r'.Listed := by
  unfold Listed
  rw [hg, hl]
  exact h

theorem Listed.modify {r : ClientRouter} (h : r.Listed) (g : GatewayId)
    {f : GatewayImpl Tag → GatewayImpl Tag} (he : ∀ gw, (f gw).endpoint = gw.endpoint)
    (ha : ∀ gw, (f gw).alive = true → gw.alive = true)
    (hev : ∀ gw e, e ∈ gw.events → e ∈ (f gw).events) : (r.modify g f).Listed := by
  refine Each.modify h fun gw _ hlisted halive => ?_
  rw [he]
  exact (hlisted (ha gw halive)).imp id fun ⟨e, hin⟩ => ⟨e, hev gw _ hin⟩

theorem Listed.raise {r : ClientRouter} (h : r.Listed) (g : GatewayId) (e : Event) :
    (r.raise g e).router.Listed := by
  unfold ClientRouter.raise
  split
  · exact h.modify g (fun _ => rfl) (fun _ => id) fun _ _ hin => List.mem_append_left _ hin
  · exact h

theorem gateways_raise {r : ClientRouter} {g : GatewayId} {gw : GatewayImpl Tag}
    (hg : r.gateways[g]? = some gw) (e : Event) :
    (r.raise g e).router.gateways = r.gateways.modify g (·.hear e) := by
  simp [raise, hg]

theorem greets_raise {r : ClientRouter} {g : GatewayId} {gw : GatewayImpl Tag}
    (hg : r.gateways[g]? = some gw) {input : Decoder} (hinput : gw.eventHandler = some input) :
    (r.raise g .connected).call = some (.event g .connected) := by
  simp [raise, hg, GatewayImpl.handles, GatewayImpl.eventCode, hinput, Adapter.code]

theorem Listed.destroy {κ : RouteCodec} {r : ClientRouter} (h : r.Listed) (hw : r.Wf)
    {g : GatewayId} {gw : GatewayImpl Tag} (hg : r.gateways[g]? = some gw) (outcome : Int32) :
    (r.destroy κ g gw outcome).Listed := by
  have herased : ((r.modify g (·.expire)).unregister gw.endpoint).Listed := by
    intro i x hx halive
    have hx' : (r.gateways.modify g (·.expire))[i]? = some x := hx
    by_cases hi : g = i
    · subst hi
      obtain ⟨y, -, rfl⟩ : ∃ y, r.gateways[g]? = some y ∧ y.expire = x := by simpa using hx'
      cases halive
    · have hold : r.gateways[i]? = some x := by simpa [hi] using hx'
      have hne : x.endpoint ≠ gw.endpoint := fun he => hi (hw.distinct.index_eq hg hold he.symm)
      rw [lookup_unregister, Function.update_of_ne hne, lookup_modify]
      exact h i x hold halive
  rcases destroy_cases κ r g gw outcome with ⟨-, -, -, heq⟩ | ⟨-, heq⟩
  · rw [heq]
    refine Listed.congr (r := (((r.modify g (·.expire)).unregister gw.endpoint).modify g
      (·.post (.fin gw.completionErrorCode) outcome))) ?_ (by simp) (by simp)
    exact herased.modify g (fun _ => rfl) (fun _ => id) fun _ _ hin => hin
  · rw [heq]
    exact herased

theorem Listed.makeGateway {r : ClientRouter} (h : r.Listed) (hw : r.Wf)
    (hc : r.gateways.length < 2^64) : r.makeGateway.Listed := by
  intro g gw hg halive
  have hself := (hw.makeGateway hc).lookup_self hg
  rw [lookup_makeGateway] at hself ⊢
  by_cases hend : gw.endpoint = r.nextTag
  · rw [hend, Function.update_self] at hself
    rw [hend, Function.update_self]
    exact .inl (hself rfl).1
  · rw [Function.update_of_ne hend]
    rcases Partners.concat_cases hg with hold | ⟨-, rfl⟩
    · exact h g gw hold halive
    · exact absurd rfl hend

theorem Listed.step {κ : RouteCodec} {r r' : ClientRouter} {a : ClientAction} (h : r.Listed)
    (hw : r.Wf) (hs : r.step κ a = some r') (hup : ∀ order, a ≠ .pipeDisconnected order) :
    r'.Listed := by
  obtain ⟨reply, hp, rfl⟩ := step_eq_some.mp hs
  cases performs hp with
  | nothing code => exact h
  | makes room => exact h.makeGateway hw room
  | @sends g gw serviceId payload outcome channel =>
    refine Listed.congr (r := r.modify g (·.advance.post (.msg gw.nextSequence.toNat payload)
      outcome)) ?_ (by simp [transmit]) (by simp [transmit])
    exact h.modify g (fun _ => rfl) (fun _ => id) fun _ _ hin => hin
  | completes errorCode channel =>
    exact h.modify _ (fun _ => rfl) (fun _ => id) fun _ _ hin => hin
  | subscribes handler channel =>
    exact h.modify _ (fun _ => rfl) (fun _ => id) fun _ _ hin => hin
  | @greets g i gw handler channel connected found =>
    have hsubscribed : (r.modify g (·.subscribe handler)).Listed :=
      h.modify g (fun _ => rfl) (fun _ => id) fun _ _ hin => hin
    exact hsubscribed.raise i .connected
  | disowns outcome channel pinned =>
    exact h.modify _ (fun _ => rfl) (fun _ => id) fun _ _ hin => hin
  | destroys outcome channel unpinned => exact h.destroy hw (channel_eq_some.mp channel).1 outcome
  | requests outcome idle =>
    exact h.congr (gateways_pipeSend _ _ _) (lookup_pipeSend _ _ _)
  | connects payload order idle ids => exact h.congr rfl rfl
  | passes order => exact h.raise _ _
  | @ends g e payload order idle decoded found =>
    intro i x hx halive
    obtain ⟨hl, -⟩ := Option.filter_eq_some_iff.mp found
    obtain ⟨gw, hg, he, -⟩ := hw.registry _ _ hl
    rw [gateways_raise (r := r.unregister e.tag) hg] at hx
    have hx' : (r.gateways.modify g (·.hear (.completed e.errorCode)))[i]? = some x := hx
    rw [lookup_raise, lookup_unregister]
    by_cases hi : g = i
    · subst hi
      obtain rfl : gw.hear (.completed e.errorCode) = x := by simpa [hg] using hx'
      exact .inr ⟨e.errorCode, by simp [GatewayImpl.hear]⟩
    · have hold : r.gateways[i]? = some x := by simpa [hi] using hx'
      have hne : x.endpoint ≠ e.tag := fun htag =>
        hi (hw.distinct.index_eq hg hold (he.trans htag.symm))
      rw [Function.update_of_ne hne]
      exact h i x hold halive
  | loses order idle ids connected => exact absurd rfl (hup order)
  | @notifies g rest remaining alive =>
    have hnext : Listed { r with broadcast := { r.broadcast with remaining := rest } } :=
      h.congr rfl rfl
    exact hnext.raise g r.broadcast.event
  | skips remaining dead => exact h.congr rfl rfl
  | drops outcome done pinned held =>
    exact (h.destroy hw held outcome).congr rfl rfl
  | unpins outcome done pinned => exact h.congr rfl rfl

theorem Orderly.greeting_step {κ : RouteCodec} {r : ClientRouter} {a : ClientAction}
    {reply : Reply ClientRouter} (h : r.Orderly) (hw : r.Wf) (hp : r.perform κ a = some reply)
    {g : GatewayId} {gw : GatewayImpl Tag} (hg : r.gateways[g]? = some gw)
    (hconn : reply.router.isConnected = true) (hl : reply.router.lookup gw.endpoint = some g) :
    g ∈ reply.router.broadcast.remaining ∨
    r.isConnected = true ∧ r.lookup gw.endpoint = some g ∧
      (g ∈ r.broadcast.remaining → gw.eventHandler.isSome = true →
        reply.call = some (.event g .connected)) := by
  have hs : r.step κ a = some reply.router := step_eq_some.mpr ⟨reply, hp, rfl⟩
  have hlt : g < r.gateways.length := (List.getElem?_eq_some_iff.mp hg).1
  have hold : r.lookup gw.endpoint = some g :=
    (lookup_step hs hl).resolve_right (Nat.ne_of_lt hlt)
  have halive : isAlive r.gateways g = true := by
    obtain ⟨x, hx, -, ha⟩ := hw.registry _ _ hold
    exact isAlive_iff.mpr ⟨x, hx, ha⟩
  cases hc : r.isConnected with
  | false =>
    rcases connected_step hs hconn with hyes | ⟨payload, order, rfl, hanswer⟩
    · rw [hc] at hyes
      cases hyes
    · obtain ⟨⟨-, hperm⟩, hp⟩ := Option.ite_none_right_eq_some.mp hp
      obtain ⟨conn, hdec⟩ := Handshake.deserialize_of_isConnect hanswer
      simp only [handlePipeMessage, hdec, handleRouteConnect, hc, Bool.not_false, if_true,
        Option.some.injEq] at hp
      subst hp
      left
      rw [List.mem_filter]
      exact ⟨hperm.mem_iff.mpr (MapOfWeakGateways.mem_ids.mpr ⟨_, hold⟩), halive⟩
  | true =>
    rcases broadcast_step hs with ⟨hsame, -⟩ | ⟨rfl, i, hrem, -⟩ | ⟨hidle, -⟩
    · by_cases hin : g ∈ r.broadcast.remaining
      · exact .inl (by rwa [hsame])
      · exact .inr ⟨rfl, hold, fun hin' => absurd hin' hin⟩
    · by_cases hi : i = g
      · subst hi
        refine .inr ⟨rfl, hold, fun hin hhandler => ?_⟩
        -- the loop is not one of farewells, for these are off the map
        have hevent : r.broadcast.event = .connected := by
          refine h.kind.resolve_right ?_
          rintro ⟨e, he⟩
          exact h.leaving e he i hin _ hold
        have hturn : r.notifyNext = some reply := hp
        simp only [notifyNext, hrem, halive, if_true, Option.some.injEq, hevent] at hturn
        obtain ⟨input, hinput⟩ := Option.isSome_iff_exists.mp hhandler
        rw [← hturn]
        exact greets_raise hg hinput
      · by_cases hin : g ∈ reply.router.broadcast.remaining
        · exact .inl hin
        · refine .inr ⟨rfl, hold, fun hin' => ?_⟩
          rw [hrem, List.mem_cons] at hin'
          exact absurd hin' (not_or.mpr ⟨Ne.symm hi, hin⟩)
    · refine .inr ⟨rfl, hold, fun hin => ?_⟩
      rw [remaining_of_idle hidle] at hin
      cases hin

theorem greeted_subscribe {κ : RouteCodec} {r : ClientRouter} (hw : r.Wf) {g : GatewayId}
    {gw : GatewayImpl Tag} (hg : r.gateways[g]? = some gw) (hc : r.isConnected = true)
    (hl : r.lookup gw.endpoint = some g) {input : Decoder} {reply : Reply ClientRouter}
    (hp : r.perform κ (.subscribe g (some input)) = some reply) :
    reply.call = some (.event g .connected) := by
  obtain ⟨x, hx, rfl⟩ := Option.map_eq_some_iff.mp hp
  obtain ⟨hx, -⟩ := channel_eq_some.mp hx
  cases hg.symm.trans hx
  have hfind : (r.modify g (·.subscribe (some input))).findGateway gw.endpoint = some g := by
    refine Option.filter_eq_some_iff.mpr ⟨hl, isAlive_iff.mpr ⟨gw.subscribe (some input), ?_, ?_⟩⟩
    · simp [hg]
    · exact (hw.registry.alive hl hg : gw.alive = true)
  have hconn : (r.modify g (·.subscribe (some input))).isConnected = true := hc
  have hsubscribed : (r.modify g (·.subscribe (some input))).gateways[g]? =
      some (gw.subscribe (some input)) := by simp [hg]
  simp only [subscribe, onGatewaySubscription, hconn, if_true, hfind]
  exact greets_raise hsubscribed rfl

end ClientRouter

end Ocvsmd.Ipc

namespace Ocvsmd.Svc

open Ipc
open FifoSession (payloads)

namespace ExecCmdClient

def Welcomed (x : ExecCmdClient) : Prop := ∃ h ∈ x.handled, h.event = .connected

/-- A client that is welcomed asks, or its receiver is called. -/
structure Asks (spec : ExecCmdSpec) (x : ExecCmdClient) (gw : GatewayImpl Tag) : Prop where
  handler : gw.eventHandler = if x.receiver = 0 then none else some (input spec)
  asked : x.Welcomed → payloads gw.sent ≠ [] ∨ x.results ≠ []

theorem Fresh.asks {spec : ExecCmdSpec} {x : ExecCmdClient} {gw : GatewayImpl Tag}
    (h : Fresh x gw) : Asks spec x gw where
  handler := by simp [h.handler, h.receiver]
  asked := by
    rintro ⟨a, ha, -⟩
    rw [h.handled] at ha
    cases ha

theorem receiver_handleEvent (spec : ExecCmdSpec) (e : Event) (code outcome : Int32)
    (x : ExecCmdClient) : (x.handleEvent spec e code outcome).receiver = x.receiver := by
  cases e with
  | connected =>
    simp only [handleEvent, handleConnected]
    split <;> rfl
  | message sequence payload =>
    simp only [handleEvent]
    split <;> rfl
  | completed errorCode =>
    simp only [handleEvent, handleCompleted]
    split <;> rfl

theorem results_handleEvent {spec : ExecCmdSpec} {e : Event} {outcome : Int32}
    {x : ExecCmdClient} (h : x.results ≠ [] ∨
      (⟨x.receiver, e, outcome⟩ : Handled).Refused spec x.request ∨
      (⟨x.receiver, e, outcome⟩ : Handled).Ended) :
    (x.handleEvent spec e (x.sendCode spec outcome) outcome).results ≠ [] := by
  obtain ⟨-, -, hresults⟩ := handleEvent_adds spec e outcome x
  intro hnil
  rw [hnil] at hresults
  obtain ⟨hold, hnew⟩ := List.append_eq_nil_iff.mp hresults.symm
  rcases h with hne | hcalls
  · exact hne (List.map_eq_nil_iff.mp hold)
  · rw [if_pos hcalls] at hnew
    cases hnew

theorem eventHandler_answered (spec : ExecCmdSpec) (x : ExecCmdClient) (e : Event)
    (outcome : Int32) (gw : GatewayImpl Tag) :
    (x.answered spec e outcome gw).eventHandler = gw.eventHandler := by
  unfold answered
  split <;> rfl

theorem asked_welcome (spec : ExecCmdSpec) (x : ExecCmdClient) (outcome : Int32)
    (gw : GatewayImpl Tag) :
    payloads (x.answered spec .connected outcome gw).sent ≠ [] ∨
    (x.handleEvent spec .connected (x.sendCode spec outcome) outcome).results ≠ [] := by
  cases hser : spec.serializeRequest x.request with
  | none =>
    right
    apply results_handleEvent
    simp [Handled.Refused, hser]
  | some payload =>
    by_cases ho : outcome = 0
    · left
      have hasks : x.asks spec .connected = some payload := hser
      simp [answered, hasks, ho, payloads]
    · right
      apply results_handleEvent
      simp [Handled.Refused, ho]

theorem Asks.heard {spec : ExecCmdSpec} {x x' : ExecCmdClient} {gw gw' : GatewayImpl Tag}
    (h : Asks spec x gw) (hh : Heard spec x gw x' gw') : Asks spec x' gw' := by
  cases hh with
  | nothing framed events => exact ⟨framed.handler.trans h.handler, framed.sent ▸ h.asked⟩
  | ignored framed e events unended unhandled =>
    exact ⟨framed.handler.trans h.handler, framed.sent ▸ h.asked⟩
  | @told gw₁ framed e events unended handled outcome =>
    refine ⟨?_, ?_⟩
    · rw [eventHandler_answered, receiver_handleEvent, framed.handler, h.handler]
    · rintro ⟨a, ha, hevent⟩
      obtain ⟨-, hhandled, -⟩ := handleEvent_adds spec e outcome x
      rw [hhandled, List.mem_append, List.mem_singleton] at ha
      cases e with
      | connected => exact asked_welcome spec x outcome gw₁
      | message sequence payload =>
        rcases ha with hold | rfl
        · rcases h.asked ⟨a, hold, hevent⟩ with hsent | hresults
          · left
            rw [← framed.sent] at hsent
            exact hsent
          · exact .inr (results_handleEvent (.inl hresults))
        · cases hevent
      | completed errorCode => exact .inr (results_handleEvent (.inr (.inr ⟨_, rfl⟩)))

theorem Asks.moved {spec : ExecCmdSpec} {x x' : ExecCmdClient} {gw gw' : GatewayImpl Tag}
    (h : Asks spec x gw) (hm : Moved spec x gw x' gw') : Asks spec x' gw' := by
  cases hm with
  | heard hh => exact h.heard hh
  | submitted hh =>
    have hsubmitted : Asks spec x.submitted (gw.subscribe (some (input spec))) :=
      ⟨by simp [submitted, GatewayImpl.subscribe], h.asked⟩
    exact hsubmitted.heard hh

end ExecCmdClient

namespace Sdk

open ExecCmdClient

theorem dispatch_welcomes {κ : RouteCodec} {spec : ExecCmdSpec} {clients : List ExecCmdClient}
    {outcome : Int32} {reply : Reply ClientRouter} {s' : Sdk}
    (h : dispatch κ spec clients outcome reply = some s')
    (hgreeted : ∀ g, reply.call = some (.event g .connected) →
      reply.router.isConnected = true ∧ reply.router.Registered g)
    {id : Nat} {x : ExecCmdClient} (hx : clients[id]? = some x)
    (hone : (clients.map (·.channel)).Nodup) :
    ∃ x', s'.clients[id]? = some x' ∧ x'.channel = x.channel ∧ x'.receiver = x.receiver ∧
      (x.Welcomed ∨ reply.call = some (.event x.channel .connected) → x'.Welcomed) := by
  unfold dispatch at h
  split at h
  · next g e hcall =>
    split at h
    · next i hi =>
      obtain ⟨y, hy, rfl⟩ := clientOf_eq_some hi
      obtain ⟨hclients, -⟩ := handle_cases h hy fun he => hgreeted _ (by rw [hcall, he])
      have hlt : i < clients.length := (List.getElem?_eq_some_iff.mp hy).1
      by_cases hid : id = i
      · subst hid
        cases hx.symm.trans hy
        refine ⟨_, by rw [hclients, List.getElem?_set_self hlt], channel_handleEvent _ _ _ _ _,
          receiver_handleEvent _ _ _ _ _, ?_⟩
        obtain ⟨-, hhandled, -⟩ := handleEvent_adds spec e outcome x
        rintro (⟨a, ha, hevent⟩ | hwelcome)
        · exact ⟨a, by rw [hhandled]; exact List.mem_append_left _ ha, hevent⟩
        · rw [hcall] at hwelcome
          cases hwelcome
          refine ⟨⟨x.receiver, .connected, outcome⟩, ?_, rfl⟩
          rw [hhandled]
          exact List.mem_append_right _ (List.mem_singleton.mpr rfl)
      · refine ⟨x, by rw [hclients, List.getElem?_set_ne (Ne.symm hid)]; exact hx, rfl, rfl, ?_⟩
        rintro (hold | hwelcome)
        · exact hold
        · rw [hcall, Option.some.injEq, Call.event.injEq] at hwelcome
          exact absurd (index_eq hone hx hy hwelcome.1.symm) hid
    · next hi =>
      cases h
      refine ⟨x, hx, rfl, rfl, ?_⟩
      rintro (hold | hwelcome)
      · exact hold
      · rw [hcall] at hwelcome
        cases hwelcome
        exact absurd rfl (clientOf_eq_none.mp hi x (List.mem_of_getElem? hx))
  · next hcall =>
    cases h
    refine ⟨x, hx, rfl, rfl, ?_⟩
    rintro (hold | hwelcome)
    · exact hold
    · exact absurd hwelcome (hcall _ _)

theorem dispatch_keeps {κ : RouteCodec} {spec : ExecCmdSpec} {clients : List ExecCmdClient}
    {outcome : Int32} {reply : Reply ClientRouter} {s' : Sdk}
    (h : dispatch κ spec clients outcome reply = some s')
    (hgreeted : ∀ g, reply.call = some (.event g .connected) →
      reply.router.isConnected = true ∧ reply.router.Registered g) :
    s'.router.isConnected = reply.router.isConnected ∧ s'.router.lookup = reply.router.lookup ∧
      s'.router.broadcast = reply.router.broadcast := by
  rcases (dispatch_router h hgreeted).2 with heq | ⟨g, payload, -, hsend⟩
  · rw [heq]
    exact ⟨rfl, rfl, rfl⟩
  · obtain ⟨sent, hp, hr⟩ := ClientRouter.step_eq_some.mp hsend
    cases ClientRouter.performs hp with
    | nothing code =>
      rw [← hr]
      exact ⟨rfl, rfl, rfl⟩
    | sends serviceId payload outcome channel =>
      rw [← hr]
      simp [ClientRouter.transmit, ClientRouter.modify, ClientRouter.pipeSend]
      split <;> exact ⟨rfl, rfl, rfl⟩

/-- A submitted client of a connected router was welcomed, or has its turn before it. -/
def Greeted (s : Sdk) : Prop :=
  ∀ x ∈ s.clients, ∀ gw, s.router.gateways[x.channel]? = some gw → x.receiver ≠ 0 →
    s.router.isConnected = true → s.router.lookup gw.endpoint = some x.channel →
    x.channel ∈ s.router.broadcast.remaining ∨ x.Welcomed

theorem Inv.greeted_dispatch {κ : RouteCodec} {spec : ExecCmdSpec} {s s' : Sdk} (h : s.Inv)
    {a : ClientAction} {reply : Reply ClientRouter} (hp : s.router.perform κ a = some reply)
    {clients : List ExecCmdClient} (hc : clients.map (·.channel) = s.clients.map (·.channel))
    {outcome : Int32} (hs : Sdk.dispatch κ spec clients outcome reply = some s') (h' : s'.Inv)
    (hgreets : ∀ y ∈ clients, ∀ gw, s.router.gateways[y.channel]? = some gw → y.receiver ≠ 0 →
      s.router.isConnected = true → s.router.lookup gw.endpoint = some y.channel →
      y.Welcomed ∨ reply.call = some (.event y.channel .connected) ∨
        y.channel ∈ s.router.broadcast.remaining ∧ gw.eventHandler.isSome = true) :
    s'.Greeted := by
  have hgreeted := fun g => h.orderly.greeted h.wf hp (g := g)
  obtain ⟨hmap, -⟩ := dispatch_router hs hgreeted
  obtain ⟨hconn, hlookup, hloop⟩ := dispatch_keeps hs hgreeted
  intro x' hx' gw' hg' hr hconn' hl'
  obtain ⟨id, hid⟩ := List.mem_iff_getElem?.mp hx'
  have hlen : clients.length = s'.clients.length := by
    have hlen := congrArg List.length hmap
    simpa using hlen.symm
  obtain ⟨y, hy⟩ : ∃ y, clients[id]? = some y :=
    ⟨_, List.getElem?_eq_getElem (hlen ▸ (List.getElem?_eq_some_iff.mp hid).1)⟩
  obtain ⟨x'', hx'', hchannel, hreceiver, hwelcomed⟩ :=
    dispatch_welcomes hs hgreeted hy (hc ▸ h.one)
  cases hid.symm.trans hx''
  have hmem : y.channel ∈ s.clients.map (·.channel) :=
    hc ▸ List.mem_map_of_mem (List.mem_of_getElem? hy)
  have hgw : ∃ gw, s.router.gateways[y.channel]? = some gw :=
    ⟨_, List.getElem?_eq_getElem (h.has _ hmem)⟩
  obtain ⟨gw, hg⟩ := hgw
  have hend : gw'.endpoint = gw.endpoint := by
    rw [h'.wf.tags _ _ hg', h.wf.tags _ _ hg, hchannel]
  rw [hconn] at hconn'
  rw [hlookup, hend, hchannel] at hl'
  rw [hloop, hchannel]
  rcases h.orderly.greeting_step h.wf hp hg hconn' hl' with hrem | ⟨hconn₀, hl₀, hcall⟩
  · exact .inl hrem
  · right
    apply hwelcomed
    rcases hgreets y (List.mem_of_getElem? hy) gw hg (hreceiver ▸ hr) hconn₀ hl₀ with
      hold | hnow | ⟨hturn, hhandler⟩
    · exact .inl hold
    · exact .inr hnow
    · exact .inr (hcall hturn hhandler)

structure Attentive (spec : ExecCmdSpec) (s : Sdk) : Prop where
  inv : s.Inv
  listed : s.router.Listed
  clients : s.All (Asks spec)
  greeted : s.Greeted

theorem attentive_init (spec : ExecCmdSpec) : ({} : Sdk).Attentive spec where
  inv := inv_init
  listed := Each.nil
  clients := fun _ _ hx => by simp at hx
  greeted := fun _ hx => by cases hx

theorem Attentive.handler {spec : ExecCmdSpec} {s : Sdk} (h : s.Attentive spec)
    {x : ExecCmdClient} (hx : x ∈ s.clients) {gw : GatewayImpl Tag}
    (hg : s.router.gateways[x.channel]? = some gw) (hr : x.receiver ≠ 0) :
    gw.eventHandler.isSome = true := by
  obtain ⟨id, hid⟩ := List.mem_iff_getElem?.mp hx
  obtain ⟨gw', hg', hasks⟩ := h.clients id x hid
  cases hg.symm.trans hg'
  rw [hasks.handler, if_neg hr]
  rfl

/-- Whom a step of somebody else finds waiting is waiting on, or is welcomed. -/
theorem Attentive.waits {spec : ExecCmdSpec} {s : Sdk} (h : s.Attentive spec)
    {x : ExecCmdClient} (hx : x ∈ s.clients) {gw : GatewayImpl Tag}
    (hg : s.router.gateways[x.channel]? = some gw) (hr : x.receiver ≠ 0)
    (hc : s.router.isConnected = true) (hl : s.router.lookup gw.endpoint = some x.channel) :
    x.Welcomed ∨ x.channel ∈ s.router.broadcast.remaining ∧ gw.eventHandler.isSome = true :=
  (h.greeted x hx gw hg hr hc hl).symm.imp id fun hrem => ⟨hrem, h.handler hx hg hr⟩

theorem Attentive.foreign {κ : RouteCodec} {spec : ExecCmdSpec} {s s' : Sdk}
    (h : s.Attentive spec) (h' : s'.Inv) {a : ClientAction} {reply : Reply ClientRouter}
    (hp : s.router.perform κ a = some reply) {outcome : Int32}
    (hs : Sdk.dispatch κ spec s.clients outcome reply = some s') : s'.Greeted :=
  h.inv.greeted_dispatch hp rfl hs h' fun _ hy _ hg hr hc hl =>
    (h.waits hy hg hr hc hl).imp id .inr

theorem Attentive.submit {κ : RouteCodec} {spec : ExecCmdSpec} {s s' : Sdk}
    (h : s.Attentive spec) (h' : s'.Inv) {id : Nat} {outcome : Int32}
    (hs : s.submit κ spec id outcome = some s') : s'.Greeted := by
  obtain ⟨x, hx, hs⟩ := Option.bind_eq_some_iff.mp hs
  obtain ⟨reply, hp, hs⟩ := Option.bind_eq_some_iff.mp hs
  have hmap : (s.clients.set id x.submitted).map (·.channel) = s.clients.map (·.channel) :=
    map_channel_set hx rfl
  refine h.inv.greeted_dispatch hp hmap hs h' fun y hy gw hg hr hc hl => ?_
  rcases List.mem_or_eq_of_mem_set hy with hold | rfl
  · exact (h.waits hold hg hr hc hl).imp_right .inr
  · exact .inr (.inl (ClientRouter.greeted_subscribe h.inv.wf hg hc hl hp))

theorem Attentive.make {κ : RouteCodec} {spec : ExecCmdSpec} {s s' : Sdk}
    (h : s.Attentive spec) {request : Request} (hs : s.make κ request = some s') :
    s'.Greeted := by
  obtain ⟨reply, hp, rfl⟩ := Option.map_eq_some_iff.mp hs
  have hcall : reply.call = none := by
    obtain ⟨-, hr⟩ := Option.ite_none_right_eq_some.mp hp
    cases hr
    rfl
  have hdispatch : Sdk.dispatch κ spec s.clients 0 reply = some ⟨reply.router, s.clients⟩ := by
    simp [Sdk.dispatch, hcall]
  have hforeign : s.isForeign .makeGateway = true := isForeign_iff.mpr fun x _ hx => by cases hx
  have hold := h.foreign (h.inv.foreign hforeign hp hdispatch).1 hp hdispatch
  intro x hx gw hg hr hc hl
  rcases List.mem_append.mp hx with hx | hx
  · exact hold x hx gw hg hr hc hl
  · rw [List.mem_singleton] at hx
    rw [hx] at hr
    exact absurd rfl hr

/-- What a step is to the router: one step of its own, and the request on top of that. -/
theorem Inv.router_steps {κ : RouteCodec} {spec : ExecCmdSpec} {s s' : Sdk} {a : SdkAction}
    (h : s.Inv) (hs : s.step κ spec a = some s') :
    ∃ b r, s.router.step κ b = some r ∧
      (∀ order, b = .pipeDisconnected order → ∃ outcome, a = .router b outcome) ∧
      (s'.router = r ∨ ∃ g payload outcome,
        r.step κ (.send g spec.serviceId payload outcome) = some s'.router) := by
  have hasked : ∀ {b reply clients outcome}, s.router.perform κ b = some reply →
      Sdk.dispatch κ spec clients outcome reply = some s' →
      s.router.step κ b = some reply.router ∧ (s'.router = reply.router ∨ ∃ g payload outcome,
        reply.router.step κ (.send g spec.serviceId payload outcome) = some s'.router) := by
    intro b reply clients outcome hp hd
    obtain ⟨hstep, hr | ⟨g, payload, hsend⟩⟩ := h.dispatch_steps hp hd
    · exact ⟨hstep, .inl hr⟩
    · exact ⟨hstep, .inr ⟨g, payload, outcome, hsend⟩⟩
  cases a with
  | make request =>
    obtain ⟨reply, hp, rfl⟩ := Option.map_eq_some_iff.mp hs
    exact ⟨_, _, ClientRouter.step_eq_some.mpr ⟨reply, hp, rfl⟩, fun _ hb => (by cases hb),
      .inl rfl⟩
  | submit id outcome =>
    obtain ⟨x, -, hs⟩ := Option.bind_eq_some_iff.mp hs
    obtain ⟨reply, hp, hs⟩ := Option.bind_eq_some_iff.mp hs
    obtain ⟨hstep, hrest⟩ := hasked hp hs
    exact ⟨_, _, hstep, fun _ hb => (by cases hb), hrest⟩
  | destroy id outcome =>
    obtain ⟨x, -, hs⟩ := Option.bind_eq_some_iff.mp hs
    obtain ⟨reply, hp, rfl⟩ := Option.map_eq_some_iff.mp hs
    exact ⟨_, _, ClientRouter.step_eq_some.mpr ⟨reply, hp, rfl⟩, fun _ hb => (by cases hb),
      .inl rfl⟩
  | router b outcome =>
    obtain ⟨-, hs⟩ := Option.ite_none_right_eq_some.mp hs
    obtain ⟨reply, hp, hs⟩ := Option.bind_eq_some_iff.mp hs
    obtain ⟨hstep, hrest⟩ := hasked hp hs
    exact ⟨_, _, hstep, fun _ _ => ⟨outcome, rfl⟩, hrest⟩

theorem Attentive.step {κ : RouteCodec} {spec : ExecCmdSpec} {s s' : Sdk} {a : SdkAction}
    (h : s.Attentive spec) (hs : s.step κ spec a = some s')
    (hup : ∀ order outcome, a ≠ .router (.pipeDisconnected order) outcome) :
    s'.Attentive spec := by
  obtain ⟨hinv, hmoves⟩ := h.inv.step hs
  have hlisted : s'.router.Listed := by
    obtain ⟨b, r, hstep, hloss, hrest⟩ := h.inv.router_steps hs
    have hmid : r.Listed := h.listed.step h.inv.wf hstep fun order hb => by
      obtain ⟨outcome, ha⟩ := hloss order hb
      rw [hb] at ha
      exact hup order outcome ha
    rcases hrest with heq | ⟨g, payload, outcome, hsend⟩
    · rwa [heq]
    · exact hmid.step (h.inv.wf.step hstep) hsend fun _ hb => by cases hb
  refine ⟨hinv, hlisted,
    hmoves.all h.clients ExecCmdClient.Fresh.asks fun _ => ExecCmdClient.Asks.moved, ?_⟩
  cases a with
  | make request => exact h.make hs
  | submit id outcome => exact h.submit hinv hs
  | destroy id outcome =>
    obtain ⟨x, hx, hs⟩ := Option.bind_eq_some_iff.mp hs
    obtain ⟨reply, hp, rfl⟩ := Option.map_eq_some_iff.mp hs
    obtain ⟨gw, hg⟩ := h.inv.gateway hx
    have hcall := (ClientRouter.framed_release hp hg).1
    have hdispatch : Sdk.dispatch κ spec s.clients outcome reply =
        some { s with router := reply.router } := by simp [Sdk.dispatch, hcall]
    exact h.foreign hinv hp hdispatch
  | router b outcome =>
    obtain ⟨-, hs⟩ := Option.ite_none_right_eq_some.mp hs
    obtain ⟨reply, hp, hs⟩ := Option.bind_eq_some_iff.mp hs
    exact h.foreign hinv hp hs

theorem Attentive.withPipe {spec : ExecCmdSpec} {s : Sdk} (h : s.Attentive spec)
    (queue : List Bytes) : (s.withPipe queue).Attentive spec :=
  ⟨h.inv.withPipe queue, h.listed.congr rfl rfl, h.clients, h.greeted⟩

end Sdk

end Ocvsmd.Svc
