import Ocvsmd.CommandNetwork
import Ocvsmd.ResultReceiver

set_option autoImplicit false

namespace Ocvsmd.Svc

open Ipc
open FifoSession (Session payloads Ended)

/-- What the responses among some payloads leave behind in the map of a client. -/
def collect (spec : ExecCmdSpec) (l : List Bytes) : AList fun _ : NodeId => NodeResponse :=
  (l.filterMap spec.deserializeResponse).foldl (fun m r => emplace m r.nodeId r.payload) ∅

theorem collect_append (spec : ExecCmdSpec) (l : List Bytes) (payload : Bytes) :
    collect spec (l ++ [payload]) = match spec.deserializeResponse payload with
      | some r => emplace (collect spec l) r.nodeId r.payload
      | none => collect spec l := by
  cases h : spec.deserializeResponse payload <;> simp [collect, List.filterMap_append, h]

theorem lookup_foldl_emplace (l : List Response) (m : AList fun _ : NodeId => NodeResponse)
    (n : NodeId) :
    (l.foldl (fun m r => emplace m r.nodeId r.payload) m).lookup n =
      (m.lookup n).or ((l.find? fun r => r.nodeId = n).map (·.payload)) := by
  induction l generalizing m with
  | nil => simp
  | cons r l ih =>
    rw [List.foldl_cons, ih, lookup_emplace, Option.or_assoc]
    by_cases hr : r.nodeId = n
    · simp [hr]
    · have hne : n ≠ r.nodeId := fun h => hr h.symm
      simp [hr, hne]

theorem lookup_collect {spec : ExecCmdSpec} {l : List Response}
    (h : (l.map (·.nodeId)).Nodup) (n : NodeId) (payload : NodeResponse) :
    (collect spec (l.map spec.serializeResponse)).lookup n = some payload ↔
      ⟨n, payload⟩ ∈ l := by
  have hback : (l.map spec.serializeResponse).filterMap spec.deserializeResponse = l := by
    rw [List.filterMap_map]
    simp [spec.deserialize_response]
  simp only [collect, hback, lookup_foldl_emplace, AList.lookup_empty, Option.none_or,
    Option.map_eq_some_iff]
  constructor
  · rintro ⟨r, hr, rfl⟩
    have hn : r.nodeId = n := by simpa using List.find?_some hr
    subst hn
    exact List.mem_of_find?_eq_some hr
  · intro hin
    cases hf : l.find? fun r => r.nodeId = n with
    | none =>
      have hnone := List.find?_eq_none.mp hf _ hin
      simp at hnone
    | some r =>
      have hn : r.nodeId = n := by simpa using List.find?_some hf
      have hsame := List.inj_on_of_nodup_map h (List.mem_of_find?_eq_some hf) hin hn
      exact ⟨r, rfl, by rw [hsame]⟩

theorem Fsm.responses_sublist (fsm : Fsm) :
    (fsm.responses.map (·.nodeId)).Sublist fsm.resolvedNodes := by
  simp only [responses, resolvedNodes]
  induction fsm.resolutions with
  | nil => exact .slnil
  | cons r l ih =>
    obtain ⟨n, result⟩ := r
    cases result with
    | error failure => exact ih.cons n
    | ok response => exact ih.cons_cons n

theorem Fsm.mem_responses (fsm : Fsm) {n : NodeId} {payload : NodeResponse} :
    ⟨n, payload⟩ ∈ fsm.responses ↔ (n, .ok payload) ∈ fsm.resolutions := by
  constructor
  · intro hin
    obtain ⟨⟨n', result⟩, hres, hok⟩ := List.mem_filterMap.mp hin
    cases result with
    | error failure => cases hok
    | ok response =>
      cases hok
      exact hres
  · intro hres
    exact List.mem_filterMap.mpr ⟨(n, .ok payload), hres, rfl⟩

namespace ExecCmdClient

/-- A client and its gateway, where nothing comes to a gateway that has sent nothing. -/
structure Engaged (spec : ExecCmdSpec) (x : ExecCmdClient) (gw : GatewayImpl Tag) : Prop where
  handler : gw.eventHandler = if x.receiver = 0 then none else some (input spec)
  silent : x.receiver = 0 → gw.nextSequence = 0 ∧ gw.posts = [] ∧ gw.got = []
  asked : ∀ p ∈ payloads gw.sent, spec.serializeRequest x.request = some p
  collected : x.nodeIdToResponse = collect spec (payloads gw.got)
  success : ∀ k m, (k, .success m) ∈ x.results →
    .fin 0 ∈ gw.got ∧ m = collect spec (payloads gw.got)
  failure : ∀ e, .fin e ∈ gw.got → e ≠ 0 → ∃ k, (k, .failure e) ∈ x.results

theorem Fresh.engaged {spec : ExecCmdSpec} {x : ExecCmdClient} {gw : GatewayImpl Tag}
    (h : Fresh x gw) : Engaged spec x gw where
  handler := by simp [h.handler, h.receiver]
  silent := fun _ => ⟨h.sequence, h.posts, by simp [GatewayImpl.got, h.events]⟩
  asked := fun p hp => by simp [GatewayImpl.sent, h.posts, payloads] at hp
  collected := by simp [h.collected, GatewayImpl.got, h.events, payloads, collect]
  success := fun k m hin => by rw [h.results] at hin; cases hin
  failure := fun e hin => by simp [GatewayImpl.got, h.events] at hin

theorem Engaged.submitted {spec : ExecCmdSpec} {x : ExecCmdClient} {gw : GatewayImpl Tag}
    (h : Engaged spec x gw) : Engaged spec x.submitted (gw.subscribe (some (input spec))) where
  handler := by simp [ExecCmdClient.submitted, GatewayImpl.subscribe]
  silent := fun hr => by simp [ExecCmdClient.submitted] at hr
  asked := h.asked
  collected := h.collected
  success := h.success
  failure := h.failure

theorem got_of_events {gw gw' : GatewayImpl Tag} {e : Event}
    (h : gw'.events = gw.events ++ [e]) : gw'.got = gw.got ++ e.item.toList := by
  cases hi : e.item <;> simp [GatewayImpl.got, h, hi]

theorem unended_got {gw : GatewayImpl Tag} (h : ∀ c, .completed c ∉ gw.events) (e : Int32) :
    .fin e ∉ gw.got := by
  intro hin
  obtain ⟨ev, hev, hi⟩ := List.mem_filterMap.mp hin
  cases ev with
  | connected => cases hi
  | message sequence payload => cases hi
  | completed errorCode => exact h errorCode hev

theorem handles_message {spec : ExecCmdSpec} {gw : GatewayImpl Tag}
    (h : gw.eventHandler = some (input spec)) (sequence : UInt64) (payload : Bytes) :
    gw.handles (.message sequence payload) = (spec.deserializeResponse payload).isSome := by
  cases hd : spec.deserializeResponse payload <;>
    simp [GatewayImpl.handles, GatewayImpl.eventCode, h, Adapter.code, input, hd, EINVAL]

theorem Engaged.framed {spec : ExecCmdSpec} {x : ExecCmdClient} {gw gw' : GatewayImpl Tag}
    (h : Engaged spec x gw) (hf : Framed gw gw') (hg : gw'.got = gw.got) :
    Engaged spec x gw' where
  handler := by rw [hf.handler, h.handler]
  silent := fun hr => by
    obtain ⟨hs, hp, hgot⟩ := h.silent hr
    exact ⟨by rw [hf.sequence, hs], by rw [hf.posts hs, hp], by rw [hg, hgot]⟩
  asked := by rw [hf.sent]; exact h.asked
  collected := by rw [hg]; exact h.collected
  success := by rw [hg]; exact h.success
  failure := by rw [hg]; exact h.failure

theorem Engaged.ignored {spec : ExecCmdSpec} {x : ExecCmdClient} {gw gw' : GatewayImpl Tag}
    (h : Engaged spec x gw) (hf : Framed gw gw') {e : Event}
    (hev : gw'.events = gw.events ++ [e]) (hunhandled : gw'.handles e = false)
    (hquiet : gw'.sent = [] → gw'.got = []) : Engaged spec x gw' := by
  have hgot := got_of_events hev
  by_cases hr : x.receiver = 0
  · obtain ⟨hs, hp, hnone⟩ := h.silent hr
    have hposts : gw'.posts = [] := by rw [hf.posts hs, hp]
    exact h.framed hf (by rw [hquiet (by simp [GatewayImpl.sent, hposts]), hnone])
  · have hhandler : gw'.eventHandler = some (input spec) := by
      rw [hf.handler, h.handler, if_neg hr]
    cases e with
    | connected =>
      simp [GatewayImpl.handles, GatewayImpl.eventCode, hhandler, Adapter.code] at hunhandled
    | completed errorCode =>
      simp [GatewayImpl.handles, GatewayImpl.eventCode, hhandler, Adapter.code] at hunhandled
    | message sequence payload =>
      have hbad : spec.deserializeResponse payload = none := by
        rw [handles_message hhandler] at hunhandled
        simpa using hunhandled
      have hpay : payloads gw'.got = payloads gw.got ++ [payload] := by
        rw [hgot, Daemon.payloads_append]
        rfl
      have hsame : collect spec (payloads gw'.got) = collect spec (payloads gw.got) := by
        rw [hpay, collect_append, hbad]
      have hfin : ∀ c, .fin c ∈ gw'.got ↔ .fin c ∈ gw.got := fun c => by
        rw [hgot]
        simp [Event.item]
      exact {
        handler := by rw [hf.handler, h.handler]
        silent := fun hr' => absurd hr' hr
        asked := by rw [hf.sent]; exact h.asked
        collected := by rw [hsame]; exact h.collected
        success := by simp only [hsame, hfin]; exact h.success
        failure := by simp only [hfin]; exact h.failure }

theorem Engaged.handled {spec : ExecCmdSpec} {x : ExecCmdClient} {gw gw' : GatewayImpl Tag}
    (h : Engaged spec x gw) (hf : Framed gw gw') {e : Event}
    (hev : gw'.events = gw.events ++ [e]) (hopen : ∀ c, .completed c ∉ gw.events)
    (hhandled : gw'.handles e = true) (code outcome : Int32) :
    Engaged spec (x.handleEvent spec e code outcome) gw' := by
  have hgot := got_of_events hev
  have hnofin := unended_got hopen
  have hnosuccess : ∀ k m, (k, .success m) ∉ x.results := fun k m hin =>
    hnofin 0 (h.success k m hin).1
  have hr : x.receiver ≠ 0 := fun hr => by
    have hnone : gw'.eventHandler = none := by rw [hf.handler, h.handler, if_pos hr]
    simp [GatewayImpl.handles, hnone] at hhandled
  have hhandler : gw'.eventHandler = some (input spec) := by
    rw [hf.handler, h.handler, if_neg hr]
  have hasked : ∀ p ∈ payloads gw'.sent, spec.serializeRequest x.request = some p := by
    rw [hf.sent]
    exact h.asked
  cases e with
  | connected =>
    have hsame : gw'.got = gw.got := by rw [hgot]; exact List.append_nil _
    simp only [handleEvent, handleConnected]
    split
    · exact {
        handler := by simpa [receive, hr] using hhandler
        silent := fun hr' => absurd hr' hr
        asked := hasked
        collected := by rw [hsame]; exact h.collected
        success := fun k m hin => by
          simp only [receive, List.mem_append, List.mem_singleton, Prod.mk.injEq, reduceCtorEq,
            and_false, or_false] at hin
          exact absurd hin (hnosuccess k m)
        failure := fun c hin => by rw [hsame] at hin; exact absurd hin (hnofin c) }
    · exact {
        handler := by simpa [hr] using hhandler
        silent := fun hr' => absurd hr' hr
        asked := hasked
        collected := by rw [hsame]; exact h.collected
        success := fun k m hin => absurd hin (hnosuccess k m)
        failure := fun c hin => by rw [hsame] at hin; exact absurd hin (hnofin c) }
  | message sequence payload =>
    rw [handles_message hhandler] at hhandled
    obtain ⟨r, hdec⟩ := Option.isSome_iff_exists.mp hhandled
    have hpay : payloads gw'.got = payloads gw.got ++ [payload] := by
      rw [hgot, Daemon.payloads_append]
      rfl
    simp only [handleEvent, hdec]
    exact {
      handler := by simpa [handleInput, hr] using hhandler
      silent := fun hr' => absurd hr' hr
      asked := hasked
      collected := by
        rw [hpay, collect_append, hdec]
        simp only [handleInput, h.collected]
      success := fun k m hin => absurd hin (hnosuccess k m)
      failure := fun c hin => by
        rw [hgot] at hin
        simp only [Event.item, Option.toList_some, List.mem_append, List.mem_singleton,
          reduceCtorEq, or_false] at hin
        exact absurd hin (hnofin c) }
  | completed errorCode =>
    have hpay : payloads gw'.got = payloads gw.got := by
      rw [hgot, Daemon.payloads_append]
      exact List.append_nil _
    have hfin : ∀ c, .fin c ∈ gw'.got ↔ c = errorCode := fun c => by
      rw [hgot]
      simp [Event.item, hnofin]
    have hends : ∃ result, (x.handleEvent spec (.completed errorCode) code outcome) =
        { x with
          handled := x.handled ++ [⟨x.receiver, .completed errorCode, outcome⟩]
          results := x.results ++ [(x.receiver, result)] } ∧
        result = if errorCode ≠ 0 then .failure errorCode else .success x.nodeIdToResponse := by
      simp only [handleEvent, handleCompleted, receive]
      split
      · exact ⟨_, rfl, rfl⟩
      · exact ⟨_, rfl, rfl⟩
    obtain ⟨result, hx', hresult⟩ := hends
    rw [hx']
    exact {
      handler := by simpa [hr] using hhandler
      silent := fun hr' => absurd hr' hr
      asked := hasked
      collected := by rw [hpay]; exact h.collected
      success := fun k m hin => by
        rcases List.mem_append.mp hin with hin | hin
        · exact absurd hin (hnosuccess k m)
        · rw [List.mem_singleton, Prod.mk.injEq] at hin
          rw [hresult] at hin
          split at hin
          · cases hin.2
          · next hzero =>
            cases hin.2
            exact ⟨(hfin 0).mpr (not_not.mp hzero).symm, by rw [hpay]; exact h.collected⟩
      failure := fun c hin hne => by
        obtain rfl := (hfin c).mp hin
        refine ⟨x.receiver, List.mem_append_right _ (List.mem_singleton.mpr ?_)⟩
        rw [hresult, if_pos hne] }

theorem Engaged.answered {spec : ExecCmdSpec} {x x' : ExecCmdClient} {gw : GatewayImpl Tag}
    (h : Engaged spec x' gw) (hq : x'.request = x.request) (hr : x'.receiver ≠ 0) (e : Event)
    (outcome : Int32) : Engaged spec x' (x.answered spec e outcome gw) := by
  unfold ExecCmdClient.answered
  split
  · next payload hasks =>
    have hser : spec.serializeRequest x'.request = some payload := by
      cases e with
      | connected => rw [hq]; exact hasks
      | message sequence payload => cases hasks
      | completed errorCode => cases hasks
    exact {
      handler := h.handler
      silent := fun hz => absurd hz hr
      asked := fun p hp => by
        rw [GatewayImpl.sent_post, Daemon.payloads_append] at hp
        rcases List.mem_append.mp hp with hp | hp
        · exact h.asked p hp
        · split at hp
          · simp only [payloads, List.filterMap_cons, List.filterMap_nil,
              List.mem_singleton] at hp
            rw [hp, hser]
          · cases hp
      collected := h.collected
      success := h.success
      failure := h.failure }
  · exact h

theorem Engaged.heard {spec : ExecCmdSpec} {x x' : ExecCmdClient} {gw gw' : GatewayImpl Tag}
    (h : Engaged spec x gw) (hquiet : gw'.sent = [] → gw'.got = [])
    (hh : Heard spec x gw x' gw') : Engaged spec x' gw' := by
  cases hh with
  | nothing framed events => exact h.framed framed (by simp [GatewayImpl.got, events])
  | ignored framed e events unended unhandled =>
    exact h.ignored framed events unhandled hquiet
  | @told gw₁ framed e events unended handled outcome =>
    obtain ⟨hreq, _, _⟩ := handleEvent_adds spec e outcome x
    have hnext := h.handled framed events unended handled (x.sendCode spec outcome) outcome
    refine hnext.answered hreq (fun hz => ?_) e outcome
    have hnone := hnext.handler
    rw [if_pos hz] at hnone
    simp [GatewayImpl.handles, hnone] at handled

theorem Engaged.moved {spec : ExecCmdSpec} {x x' : ExecCmdClient} {gw gw' : GatewayImpl Tag}
    (h : Engaged spec x gw) (hquiet : gw'.sent = [] → gw'.got = [])
    (hm : Moved spec x gw x' gw') : Engaged spec x' gw' := by
  cases hm with
  | heard hh => exact h.heard hquiet hh
  | submitted hh => exact h.submitted.heard hquiet hh

end ExecCmdClient

theorem unheard_of_unsent {κ : RouteCodec} {n : Network} (h : Network.Inv κ n) {c : ClientId}
    {g : GatewayId} {gc : GatewayImpl Tag} (hg : (n.client c).gateways[g]? = some gc)
    (hs : gc.sent = []) : gc.got = [] := by
  have hinv := h.session c gc.endpoint
  have hv := Network.view_caller h hg
  have hcallee := hinv.calleeNew_of_silent (by rw [hv]; exact hs)
  have hp := hinv.caller_heard
  rw [hv, hcallee] at hp
  exact List.prefix_nil.mp hp

/-- Between events every gateway that hears something has its channel. -/
theorem owner_of_called {κ : RouteCodec} {r : ClientRouter} (h : r.Wf) (hi : r.idle = true)
    {payload : Bytes} {order : List GatewayId} {reply : Reply ClientRouter}
    (hp : r.perform κ (.pipeMessage payload order) = some reply) {g : GatewayId} {e : Event}
    (hc : reply.call = some (.event g e)) : ∃ gw, reply.router.channel g = some gw := by
  have hpinned : r.broadcast.pinned = [] := by
    simp only [ClientRouter.idle, Bool.and_eq_true, List.isEmpty_iff] at hi
    exact hi.2
  have hraise : ∀ (m : ClientRouter) (t : Tag) (i : GatewayId) (e' : Event),
      m.gateways = r.gateways → r.findGateway t = some i →
      (m.raise i e').call = some (.event g e) →
      ∃ gw, (m.raise i e').router.channel g = some gw := by
    intro m t i e' hm hf hcall
    obtain ⟨gw, hg, ha⟩ := isAlive_iff.mp (Option.filter_eq_some_iff.mp hf).2
    have howned : gw.owned = true := (h.held i gw hg ha).resolve_right (by simp [hpinned])
    simp only [ClientRouter.raise, hm, hg] at hcall ⊢
    split at hcall
    · cases hcall
      exact ⟨gw.hear e, ClientRouter.channel_eq_some.mpr ⟨by simp [hm, hg], howned⟩⟩
    · cases hcall
  cases ClientRouter.performs hp with
  | nothing code => cases hc
  | connects payload order idle => cases hc
  | passes order idle decoded cut found => exact hraise r _ _ _ rfl found hc
  | @ends i ce payload order idle decoded found =>
    exact hraise (r.unregister ce.tag) ce.tag i _ rfl found hc

theorem Sdk.Inv.withPipe {s : Sdk} (h : s.Inv) (queue : List Bytes) : (s.withPipe queue).Inv where
  wf := h.wf.congr rfl (fun _ _ hl => hl) rfl rfl
  orderly := h.orderly.congr rfl rfl rfl rfl rfl
  one := h.one
  has := h.has

theorem Daemon.Inv.withPipe {spec : ExecCmdSpec} {d : Daemon} (h : Daemon.Inv spec d)
    (c : ClientId) (queue : List Bytes) : Daemon.Inv spec (d.withPipe c queue) where
  wf := h.wf.congr rfl fun _ _ hl => hl
  factory := h.factory
  fsms := h.fsms
  partners := h.partners
  registered := h.registered
  lost := h.lost

theorem unfinished_step {κ : RouteCodec} {r r' : ClientRouter} {a : ClientAction} (hw : r.Wf)
    (h : Unfinished r.gateways) (hs : r.step κ a = some r') : Unfinished r'.gateways :=
  (hw.evolves hs).unfinished h

namespace System

structure Inv (κ : RouteCodec) (spec : ExecCmdSpec) (s : System) : Prop where
  network : Network.Inv κ s.network
  daemon : Daemon.Inv spec s.daemon
  accepted : Accepted s.daemon.router
  sdk : ∀ c, (s.sdk c).Inv
  unfinished : ∀ c, Unfinished (s.sdk c).router.gateways
  clients : ∀ c, (s.sdk c).All (ExecCmdClient.Engaged spec)

theorem inv_init (κ : RouteCodec) (spec : ExecCmdSpec) : Inv κ spec (init spec) where
  network := {
    server := by
      have h := ServerRouter.steady_init κ
      exact ⟨h.wf.congr rfl fun _ _ hl => hl, h.distinct, h.counted, h.idle, h.wires⟩
    client := fun _ => ClientRouter.steady_init κ
    session := fun _ _ => Session.inv_init }
  daemon := Daemon.inv_init spec
  accepted := Each.nil
  sdk := fun _ => Sdk.inv_init
  unfinished := fun _ => Each.nil
  clients := fun _ _ _ hx => by simp [init] at hx

theorem Inv.moved {κ : RouteCodec} {spec : ExecCmdSpec} {s : System} (h : Inv κ spec s)
    {d : Daemon} {c : ClientId} {k : Sdk}
    (hn : Network.Inv κ ({ s with daemon := d }.setSdk c k).network)
    (hd : Daemon.Inv spec d) (ha : Accepted d.router) (hk : k.Inv)
    (hu : Unfinished k.router.gateways) (hm : Sdk.Moves spec (s.sdk c) k) :
    Inv κ spec ({ s with daemon := d }.setSdk c k) := by
  have hself : ∀ {P : Sdk → Prop}, P k → (∀ c', P (s.sdk c')) →
      ∀ c', P (({ s with daemon := d }.setSdk c k).sdk c') := by
    intro P hP hall c'
    by_cases hc : c' = c
    · subst hc
      simpa [setSdk] using hP
    · simpa [setSdk, hc] using hall c'
  have hclients : k.All (ExecCmdClient.Engaged spec) := by
    refine hm.all (h.clients c) ExecCmdClient.Fresh.engaged fun hg hx hmoved =>
      hx.moved (fun hs => ?_) hmoved
    have hrouter : ({ s with daemon := d }.setSdk c k).network.client c = k.router := by
      rw [network_setSdk]
      simp [Network.setClient]
    exact unheard_of_unsent hn (c := c) (by rw [hrouter]; exact hg) hs
  exact ⟨hn, hd, ha, hself (P := Sdk.Inv) hk h.sdk,
    hself (P := fun k => Unfinished k.router.gateways) hu h.unfinished,
    hself (P := fun k => k.All (ExecCmdClient.Engaged spec)) hclients h.clients⟩

theorem Inv.step {κ : RouteCodec} {spec : ExecCmdSpec} {s s' : System} {a : SystemAction}
    (h : Inv κ spec s) (hs : s.step κ spec a = some s') : Inv κ spec s' := by
  cases a with
  | sdk c a =>
    simp only [System.step] at hs
    split at hs
    · next hready =>
      obtain ⟨k, hk, rfl⟩ := Option.map_eq_some_iff.mp hs
      obtain ⟨hinv, hmoves⟩ := (h.sdk c).step hk
      obtain ⟨b, r, _, hr, hrest⟩ := (h.sdk c).router_step hready.1 hready.2 hk
      have hu := unfinished_step (h.sdk c).wf (h.unfinished c) hr
      refine h.moved (d := s.daemon)
        (network_sdk h.network (h.sdk c) hready.1 hready.2 hk) h.daemon h.accepted hinv ?_ hmoves
      rcases hrest with heq | ⟨g, payload, _, hsend⟩
      · rw [heq]
        exact hu
      · exact unfinished_step ((h.sdk c).wf.step hr) hu hsend
    · cases hs
  | toServer c p =>
    simp only [System.step, toServer] at hs
    split at hs
    · cases hs
    · next message rest hq =>
      obtain ⟨d, hd, rfl⟩ := Option.map_eq_some_iff.mp hs
      refine h.moved (network_toServer h.network hq hd) (h.daemon.step hd)
        (accepted_message h.accepted hd) ((h.sdk c).withPipe rest) (h.unfinished c) ?_
      intro id x hx
      obtain ⟨gw, hg⟩ := (h.sdk c).gateway hx
      exact ⟨gw, hg, Or.inr ⟨x, gw, hx, hg, rfl, .heard (.nothing (.refl gw) rfl)⟩⟩
  | toClient c order =>
    simp only [System.step, toClient] at hs
    split at hs
    · cases hs
    · next message rest hq =>
      obtain ⟨k, hk, rfl⟩ := Option.map_eq_some_iff.mp hs
      obtain ⟨hinv, hmoves⟩ := (h.sdk c).step hk
      have hstep := (h.sdk c).router_message hk
      exact h.moved (network_toClient h.network (h.sdk c) hq hk) (h.daemon.withPipe c rest)
        h.accepted hinv (unfinished_step (h.sdk c).wf (h.unfinished c) hstep) hmoves
  | resolve id nodeId result =>
    obtain ⟨d, hd, rfl⟩ := Option.map_eq_some_iff.mp hs
    exact ⟨network_resolve h.network h.daemon hd, h.daemon.step hd, accepted_resolve h.accepted hd,
      h.sdk, h.unfinished, h.clients⟩

theorem Reachable.inv {κ : RouteCodec} {spec : ExecCmdSpec} {s : System}
    (h : Reachable κ spec s) : Inv κ spec s :=
  Runs.Reachable.invariant h (inv_init κ spec) fun hi hs => hi.step hs

def Serves (s : System) (c : ClientId) (t : Tag) (fsm : Fsm) : Prop :=
  fsm ∈ s.daemon.service.fsms ∧
    ∃ gs, s.daemon.router.gateways[fsm.channel]? = some gs ∧ gs.endpoint = ⟨t, c⟩

/-- Every request was issued, every promise was resolved, and the map is what the
successful ones gave. -/
structure Answered (request : Request) (fsm : Fsm)
    (m : AList fun _ : NodeId => NodeResponse) : Prop where
  same : fsm.request = request
  issued : ∀ n, n ∈ fsm.issuedNodes ↔ n ∈ request.nodeIds
  resolved : ∀ n, n ∈ fsm.resolvedNodes ↔ n ∈ request.nodeIds
  once : fsm.resolvedNodes.Nodup
  map : ∀ n r, m.lookup n = some r ↔ (n, .ok r) ∈ fsm.resolutions

section Channel

variable {κ : RouteCodec} {spec : ExecCmdSpec} {s : System} {c : ClientId} {id : Nat}
  {x : ExecCmdClient} {gc : GatewayImpl Tag}

theorem Inv.engaged (h : Inv κ spec s) (hx : (s.sdk c).clients[id]? = some x)
    (hg : (s.sdk c).router.gateways[x.channel]? = some gc) : ExecCmdClient.Engaged spec x gc := by
  obtain ⟨gw, hgw, he⟩ := h.clients c id x hx
  rw [hg] at hgw
  cases hgw
  exact he

theorem Inv.ends (h : Inv κ spec s) {g g' : GatewayId} {gs : GatewayImpl Endpoint}
    (hg : (s.sdk c).router.gateways[g']? = some gc)
    (hgs : s.daemon.router.gateways[g]? = some gs) (he : gs.endpoint = ⟨gc.endpoint, c⟩) :
    (s.network.view κ c gc.endpoint).Inv ∧
    (s.network.view κ c gc.endpoint).caller =
      ⟨1, ((s.sdk c).router.lookup gc.endpoint).isSome, gc.sent, gc.got⟩ ∧
    (s.network.view κ c gc.endpoint).callee =
      ⟨1, (s.daemon.router.lookup gs.endpoint).isSome, gs.sent, gs.got⟩ := by
  have hcallee := Network.view_callee h.network (g := g) hgs
  rw [he] at hcallee ⊢
  exact ⟨h.network.session c gc.endpoint, Network.view_caller h.network hg, hcallee⟩

theorem Inv.got_all (h : Inv κ spec s) {g g' : GatewayId} {gs : GatewayImpl Endpoint}
    (hg : (s.sdk c).router.gateways[g']? = some gc)
    (hgs : s.daemon.router.gateways[g]? = some gs) (he : gs.endpoint = ⟨gc.endpoint, c⟩)
    (hended : Ended gc.got) : gc.got = gs.sent := by
  obtain ⟨hinv, hcaller, hcallee⟩ := h.ends hg hgs he
  have hgot := hinv.caller_got_all (by rw [hcaller]; exact hended)
  rwa [hcaller, hcallee] at hgot

theorem Inv.got_sent (h : Inv κ spec s) {g g' : GatewayId} {gs : GatewayImpl Endpoint}
    (hg : (s.sdk c).router.gateways[g']? = some gc)
    (hgs : s.daemon.router.gateways[g]? = some gs) (he : gs.endpoint = ⟨gc.endpoint, c⟩)
    (howned : gc.owned = true) (hpipe : s.daemon.router.serverPipe c = []) :
    gc.got = gs.sent := by
  obtain ⟨hinv, hcaller, hcallee⟩ := h.ends hg hgs he
  cases hl : ((s.sdk c).router.lookup gc.endpoint).isSome with
  | true =>
    obtain ⟨lost, hsent, hlost⟩ := hinv.down
    have hdown : (s.network.view κ c gc.endpoint).down = [] := by
      simp [Network.view, ServerRouter.down, System.network, hpipe, wireItems]
    rw [hcaller, hcallee, hdown, hlost (by rw [hcaller]; exact hl)] at hsent
    simp only [List.append_nil] at hsent
    exact hsent.symm
  | false =>
    have hdead := hinv.callerDead (by rw [hcaller]; exact hl)
    rw [hcaller] at hdead
    rcases hdead with hnil | ⟨e, hended⟩ | hended
    · have hnone := hinv.calleeNew_of_silent (by rw [hcaller]; exact hnil)
      rw [hcallee] at hnone
      cases hnone
    · have halive := (h.sdk c).wf.owned _ gc hg howned
      obtain ⟨p, hp, hpe⟩ := List.mem_filterMap.mp hended
      have hpost : p.1 = .fin e := by
        split at hpe
        · exact Option.some.inj hpe
        · cases hpe
      exact absurd (List.mem_map.mpr ⟨p, hp, hpost⟩) (h.unfinished c _ gc hg halive e)
    · exact h.got_all hg hgs he hended

theorem Inv.requested (h : Inv κ spec s) (hx : (s.sdk c).clients[id]? = some x)
    (hg : (s.sdk c).router.gateways[x.channel]? = some gc) {g : GatewayId}
    {gs : GatewayImpl Endpoint} (hgs : s.daemon.router.gateways[g]? = some gs)
    (he : gs.endpoint = ⟨gc.endpoint, c⟩) {payload : Bytes} (hgot : .msg 0 payload ∈ gs.got) :
    spec.deserializeRequest payload = some x.request := by
  obtain ⟨hinv, hcaller, hcallee⟩ := h.ends hg hgs he
  have hheard := hinv.callee_heard
  rw [hcaller, hcallee] at hheard
  have hin : payload ∈ payloads gc.sent :=
    List.mem_filterMap.mpr ⟨.msg 0 payload, hheard.subset hgot, rfl⟩
  exact spec.deserialize_request ((h.engaged hx hg).asked payload hin)

/-- Who has been told something has a state machine at the other end. -/
theorem Inv.served (h : Inv κ spec s) (hx : (s.sdk c).clients[id]? = some x)
    (hg : (s.sdk c).router.gateways[x.channel]? = some gc) (hgot : gc.got ≠ []) :
    ∃ fsm, s.Serves c gc.endpoint fsm := by
  have hinv := h.network.session c gc.endpoint
  have hcaller := Network.view_caller h.network hg
  have hsent : (s.network.view κ c gc.endpoint).callee.sent ≠ [] := by
    intro hnil
    have hheard := hinv.caller_heard
    rw [hcaller, hnil] at hheard
    exact hgot (List.prefix_nil.mp hheard)
  cases hat : gatewayAt s.daemon.router.gateways ⟨gc.endpoint, c⟩ with
  | none =>
    refine absurd ?_ hsent
    simp [Network.view, ServerRouter.peer, peerOf, System.network, hat, FifoSession.Peer.none]
  | some gs =>
    obtain ⟨he, g, hgs⟩ := gatewayAt_some hat
    have hno : ¬ Daemon.Orphan spec gs := by
      intro horphan
      obtain ⟨payload, hmsg, hbad⟩ := horphan.request
      rw [h.requested hx hg hgs he (by rw [hmsg]; exact List.mem_cons_self)] at hbad
      cases hbad
    obtain ⟨i, fsm, hf, rfl, _⟩ := h.daemon.partners.owner hgs hno
    exact ⟨fsm, List.mem_of_getElem? hf, gs, hgs, he⟩

theorem Inv.serving (h : Inv κ spec s) (hx : (s.sdk c).clients[id]? = some x)
    (hg : (s.sdk c).router.gateways[x.channel]? = some gc) {fsm : Fsm}
    (hs : s.Serves c gc.endpoint fsm) :
    fsm.Wf ∧ fsm.request = x.request ∧
    ∃ gs, s.daemon.router.gateways[fsm.channel]? = some gs ∧
      gs.endpoint = ⟨gc.endpoint, c⟩ ∧ gs.sent = gs.offered ∧ Daemon.Told spec fsm gs := by
  obtain ⟨hmem, gs, hgs, he⟩ := hs
  obtain ⟨i, hf⟩ := List.mem_iff_getElem?.mp hmem
  obtain ⟨gs', hgs', htold⟩ := h.daemon.partners.has i fsm hf
  rw [hgs] at hgs'
  cases hgs'
  obtain ⟨payload, rest, hmsg, hdec⟩ := htold.request
  have hreq := h.requested hx hg hgs he (by rw [hmsg]; exact List.mem_cons_self)
  rw [hdec] at hreq
  exact ⟨h.daemon.fsms i fsm hf, Option.some.inj hreq, gs, hgs, he, h.accepted _ gs hgs, htold⟩

theorem Inv.answered (h : Inv κ spec s) (hx : (s.sdk c).clients[id]? = some x)
    (hg : (s.sdk c).router.gateways[x.channel]? = some gc) {k : Nat}
    {m : AList fun _ : NodeId => NodeResponse} (hm : (k, .success m) ∈ x.results) :
    ∃ fsm, s.Serves c gc.endpoint fsm ∧ fsm.released = some 0 ∧ Answered x.request fsm m := by
  obtain ⟨hfin, hcollect⟩ := (h.engaged hx hg).success k m hm
  obtain ⟨fsm, hs⟩ := h.served hx hg (List.ne_nil_of_mem hfin)
  obtain ⟨hwf, hreq, gs, hgs, he, haccepted, htold⟩ := h.serving hx hg hs
  have hall := h.got_all hg hgs he ⟨0, hfin⟩
  have hreleased : fsm.released = some 0 := htold.completion 0 (by rw [← haccepted, ← hall]; exact hfin)
  have hmap : m = collect spec (fsm.responses.map spec.serializeResponse) := by
    rw [hcollect, hall, haccepted, htold.answers]
  have hwhole := hwf.whole (Or.inr hreleased)
  refine ⟨fsm, hs, hreleased, hreq, fun n => ⟨fun hn => ?_, fun hn => ?_⟩,
    fun n => ⟨fun hn => ?_, fun hn => ?_⟩, hwf.resolvedOnce, fun n r => ?_⟩
  · rw [← hreq]
    exact hwf.issuedSome n hn
  · rw [← hreq] at hn
    exact hwhole n hn
  · rw [← hreq]
    exact hwf.issuedSome n (hwf.resolvedIssued n hn)
  · rw [← hreq] at hn
    exact hwf.done hreleased n (hwhole n hn)
  · rw [hmap, lookup_collect (fsm.responses_sublist.nodup hwf.resolvedOnce)]
    exact fsm.mem_responses

theorem Inv.refused (h : Inv κ spec s) (hx : (s.sdk c).clients[id]? = some x)
    (hg : (s.sdk c).router.gateways[x.channel]? = some gc) {fsm : Fsm}
    (hs : s.Serves c gc.endpoint fsm) {n : NodeId} {e : Int32}
    (hrefused : .refused n e ∈ fsm.calls) :
    (∀ k m, (k, .success m) ∉ x.results) ∧
    (gc.owned = true → s.daemon.router.serverPipe c = [] → ∃ k, (k, .failure e) ∈ x.results) := by
  obtain ⟨hwf, hreq, gs, hgs, he, haccepted, htold⟩ := h.serving hx hg hs
  obtain ⟨hreleased, hne⟩ := hwf.refusal n e hrefused
  have hfin : .fin e ∈ gs.sent := by
    rw [haccepted]
    exact htold.refusal n e hrefused
  constructor
  · intro k m hin
    have hzero := ((h.engaged hx hg).success k m hin).1
    have hcompletion := htold.completion 0 (by
      rw [← haccepted, ← h.got_all hg hgs he ⟨0, hzero⟩]
      exact hzero)
    rw [hreleased] at hcompletion
    exact hne (Option.some.inj hcompletion)
  · intro howned hpipe
    refine (h.engaged hx hg).failure e ?_ hne
    rwa [h.got_sent hg hgs he howned hpipe]

/-- What is on the pipe to a client can come through. -/
theorem Inv.comes (h : Inv κ spec s) (hp : s.daemon.router.serverPipe c ≠ [])
    (hi : (s.sdk c).router.idle = true) :
    (s.step κ spec (.toClient c (s.sdk c).router.mapOfGateways.ids)).isSome = true := by
  obtain ⟨message, rest, hq⟩ := List.exists_cons_of_ne_nil hp
  have hclient := h.network.client c
  obtain ⟨reply, hr, _⟩ := hclient.pipeMessage hi
    (h.network.server.wires c message (by simp [System.network, hq])) (s.sdk c).router.mapOfGateways.ids
  have hperform : (s.sdk c).router.perform κ (.pipeMessage message
      (s.sdk c).router.mapOfGateways.ids) = some reply := by
    have hready : (s.sdk c).router.idle = true ∧ (s.sdk c).router.mapOfGateways.ids.Perm
      (s.sdk c).router.mapOfGateways.ids := ⟨hi, List.Perm.refl _⟩
    simp only [ClientRouter.perform, if_pos hready]
    exact hr
  have hdispatch : (Sdk.dispatch κ spec (s.sdk c).clients 0 reply).isSome = true := by
    unfold Sdk.dispatch
    split
    · next g e hcall =>
      split
      · next i hid =>
        obtain ⟨y, hy, rfl⟩ := Sdk.clientOf_eq_some hid
        obtain ⟨gw, hgw⟩ := owner_of_called (h.sdk c).wf hi hperform hcall
        simp [Sdk.handle, hy, hgw]
      · rfl
    · rfl
  obtain ⟨k, hk⟩ := Option.isSome_iff_exists.mp hdispatch
  have hforeign : (s.sdk c).isForeign (.pipeMessage message (s.sdk c).router.mapOfGateways.ids)
      = true := Sdk.isForeign_iff.mpr fun _ _ hx => by cases hx
  simp [System.step, toClient, hq, Sdk.step, hforeign, hperform, hk]

/-- A success tells of a request to every node, each of which was resolved, and has what
came of them. Where a request was refused, the failure is all that the client is told:
it is on its way, and nothing holds it up. -/
theorem command_result (h : Reachable κ spec s) (hx : (s.sdk c).clients[id]? = some x)
    (hg : (s.sdk c).router.gateways[x.channel]? = some gc) :
    (∀ k m, (k, .success m) ∈ x.results →
      ∃ fsm, s.Serves c gc.endpoint fsm ∧ Answered x.request fsm m) ∧
    (∀ fsm n e, s.Serves c gc.endpoint fsm → .refused n e ∈ fsm.calls →
      (∀ k m, (k, .success m) ∉ x.results) ∧
      (gc.owned = true → s.daemon.router.serverPipe c = [] →
        ∃ k, (k, .failure e) ∈ x.results)) ∧
    (s.daemon.router.serverPipe c ≠ [] → (s.sdk c).router.idle = true →
      (s.step κ spec (.toClient c (s.sdk c).router.mapOfGateways.ids)).isSome = true) := by
  refine ⟨fun k m hm => ?_, fun fsm n e hs hrefused => h.inv.refused hx hg hs hrefused,
    h.inv.comes⟩
  obtain ⟨fsm, hs, _, hanswered⟩ := h.inv.answered hx hg hm
  exact ⟨fsm, hs, hanswered⟩

end Channel

def requestOf (nodeIds : List NodeId) : Request := ⟨1000000, nodeIds, ⟨65535, []⟩⟩

/-- A client asks for this, is connected, and its request goes out. -/
def asking (c : ClientId) (nodeIds : List NodeId) (p : Presentation) : List SystemAction :=
  [.sdk c (.make (requestOf nodeIds)), .sdk c (.submit 0 0),
   .sdk c (.router (.pipeConnected 0) 0), .toServer c (Daemon.smooth []), .toClient c [0],
   .sdk c (.router .notifyNext 0), .sdk c (.router (.dropNext 0) 0), .toServer c p]

theorem oneByte_bounded : ([1] : Bytes).length ≤ 46 := by decide

def exchange : List SystemAction :=
  asking 1 [3, 4, 3] (Daemon.smooth [3, 4]) ++
  asking 2 [5] ⟨0, [5], fun _ => none, fun _ => some .memoryError⟩ ++
  [.resolve 0 3 (.ok ⟨0, [1], oneByte_bounded⟩), .resolve 0 4 (.error .responsePromiseExpired),
   .toClient 1 [0], .toClient 2 [0], .toClient 1 [0]]

def exchanged : System :=
  (Runs.run (step cyphalCodec (cyphalExecCmdSpec 7)) (init (cyphalExecCmdSpec 7)) exchange).getD
    (init (cyphalExecCmdSpec 7))

theorem exchanged_reachable : Reachable cyphalCodec (cyphalExecCmdSpec 7) exchanged :=
  Runs.Reachable.getD (by decide +kernel)

def refusedWith (n : NodeId) (e : Int32) : CyphalCall → Bool
  | .refused n' e' => n == n' && e == e'
  | _ => false

theorem refusedWith_eq {n : NodeId} {e : Int32} {call : CyphalCall}
    (h : refusedWith n e call = true) : call = .refused n e := by
  cases call with
  | refused n' e' =>
    obtain ⟨rfl, rfl⟩ : n = n' ∧ e = e' := by simpa [refusedWith] using h
    rfl
  | issued n' op => cases h
  | resolved n' result => cases h

def succeeded (result : ExecCmdResult) : Bool :=
  match result with
  | .success m => m.lookup 3 == some ⟨0, [1], oneByte_bounded⟩ && m.lookup 4 == none
  | .failure _ => false

theorem command_result_exchanged :
    (∃ m fsm, m.lookup 3 = some ⟨0, [1], by decide⟩ ∧ m.lookup 4 = none ∧
      exchanged.Serves 1 0 fsm ∧ Answered (requestOf [3, 4, 3]) fsm m) ∧
    (∃ x k, (exchanged.sdk 2).clients[0]? = some x ∧ (k, .failure ENOMEM) ∈ x.results ∧
      ∀ k m, (k, .success m) ∉ x.results) := by
  constructor
  · have hclient : ((exchanged.sdk 1).clients[0]?).any (fun x => x.channel = 0 ∧
        x.request = requestOf [3, 4, 3] ∧ x.results.any fun r => succeeded r.2) = true := by
      decide +kernel
    obtain ⟨x, hx, hall⟩ := (Option.any_eq_true _ _).mp hclient
    obtain ⟨hch, hreq, hres⟩ := of_decide_eq_true hall
    obtain ⟨⟨k, result⟩, hin, hsucc⟩ := List.any_eq_true.mp hres
    have hgateway : ((exchanged.sdk 1).router.gateways[0]?).any (·.endpoint = 0) = true := by
      decide +kernel
    obtain ⟨gc, hg, hep⟩ := (Option.any_eq_true _ _).mp hgateway
    cases result with
    | failure e => cases hsucc
    | success m =>
      obtain ⟨h3, h4⟩ : m.lookup 3 = some ⟨0, [1], by decide⟩ ∧ m.lookup 4 = none := by
        simpa [succeeded] using hsucc
      obtain ⟨fsm, hserves, hanswered⟩ :=
        (command_result exchanged_reachable hx (by rw [hch]; exact hg)).1 k m hin
      rw [of_decide_eq_true hep] at hserves
      exact ⟨m, fsm, h3, h4, hserves, hreq ▸ hanswered⟩
  · have hclient : ((exchanged.sdk 2).clients[0]?).any (·.channel = 0) = true := by
      decide +kernel
    obtain ⟨x, hx, hch⟩ := (Option.any_eq_true _ _).mp hclient
    have hgateway : ((exchanged.sdk 2).router.gateways[0]?).any
        (fun gw => gw.endpoint = 0 ∧ gw.owned = true) = true := by
      decide +kernel
    obtain ⟨gc, hg, hep⟩ := (Option.any_eq_true _ _).mp hgateway
    obtain ⟨hep, howned⟩ := of_decide_eq_true hep
    have hmachine : (exchanged.daemon.service.fsms[1]?).any (fun fsm =>
        (∃ call ∈ fsm.calls, refusedWith 5 ENOMEM call = true) ∧
        (exchanged.daemon.router.gateways[fsm.channel]?).any (·.endpoint = ⟨0, 2⟩) = true) = true := by
      decide +kernel
    obtain ⟨fsm, hf, hrefused⟩ := (Option.any_eq_true _ _).mp hmachine
    obtain ⟨⟨call, hcall, hrefused⟩, hgs⟩ := of_decide_eq_true hrefused
    obtain ⟨gs, hgs, he⟩ := (Option.any_eq_true _ _).mp hgs
    have hserves : exchanged.Serves 2 gc.endpoint fsm :=
      ⟨List.mem_of_getElem? hf, gs, hgs, by rw [hep]; exact of_decide_eq_true he⟩
    obtain ⟨hnever, hfailure⟩ := (command_result exchanged_reachable hx
      (by rw [of_decide_eq_true hch]; exact hg)).2.1 fsm 5 ENOMEM hserves
      (refusedWith_eq hrefused ▸ hcall)
    obtain ⟨k, hk⟩ := hfailure howned (by decide +kernel)
    exact ⟨x, k, hx, hk, hnever⟩

end System

end Ocvsmd.Svc
