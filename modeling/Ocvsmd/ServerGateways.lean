import Ocvsmd.OneEnding
import Ocvsmd.PayloadCut

set_option autoImplicit false

namespace Ocvsmd.Ipc

def ServerAction.actor : ServerAction → Option GatewayId
  | .send g _ _ _ => some g
  | .subscribe g _ => some g
  | .release g _ => some g
  | _ => none

namespace ServerRouter

/-- Nobody but the gateway itself is unregistered, told anything or spoken for; and once it
is off the table itself, it has nothing to say. -/
structure ActsForItself (r : ServerRouter) (a : ServerAction) (reply : Reply ServerRouter)
    (g : GatewayId) (gw : GatewayImpl Endpoint) : Prop where
  kept : ∀ ep i, i ≠ g → r.lookup ep = some i → reply.router.lookup ep = some i
  others : ∀ i, i ≠ g → reply.router.gateways[i]? = r.gateways[i]?
  called : ∀ i e, reply.call = some (.event i e) → i = g
  silent : r.lookup gw.endpoint ≠ some g → reply.router.serverPipe = r.serverPipe ∧
    ∀ gw', reply.router.gateways[g]? = some gw' → gw'.posts = gw.posts
  refused : r.lookup gw.endpoint ≠ some g →
    ∀ serviceId payload outcome, a = .send g serviceId payload outcome → reply.code ≠ 0

def Holds (r : ServerRouter) (g : GatewayId) (gw : GatewayImpl Endpoint) : Prop :=
  ∀ i, r.lookup gw.endpoint = some i → i = g

theorem Holds.registered {r : ServerRouter} {g : GatewayId} {gw : GatewayImpl Endpoint}
    (h : r.Holds g gw) (hl : (r.lookup gw.endpoint).isSome = true) :
    r.lookup gw.endpoint = some g := by
  obtain ⟨i, hi⟩ := Option.isSome_iff_exists.mp hl
  rw [hi, h i hi]

theorem replaced {r : ServerRouter} {g i : GatewayId} {gw : GatewayImpl Endpoint}
    (hl : r.lookup gw.endpoint = some i) (hne : i ≠ g) : r.lookup gw.endpoint ≠ some g := by
  rw [hl]
  exact fun h => hne (Option.some.inj h)

theorem actsForItself_still {r : ServerRouter} {a : ServerAction} {reply : Reply ServerRouter}
    {g : GatewayId} {gw : GatewayImpl Endpoint} (hg : r.gateways[g]? = some gw)
    (hr : reply.router = r) (hc : reply.call = none) (hcode : reply.code ≠ 0) :
    r.ActsForItself a reply g gw where
  kept := fun ep i _ hl => by rw [hr]; exact hl
  others := fun i _ => by rw [hr]
  called := fun i e h => by rw [hc] at h; cases h
  silent := fun _ => by
    rw [hr]
    refine ⟨rfl, fun gw' hg' => ?_⟩
    rw [hg] at hg'
    cases hg'
    rfl
  refused := fun _ _ _ _ _ => hcode

theorem getElem?_modify_self {r : ServerRouter} {g : GatewayId} {gw : GatewayImpl Endpoint}
    (hg : r.gateways[g]? = some gw) (f : GatewayImpl Endpoint → GatewayImpl Endpoint) :
    (r.modify g f).gateways[g]? = some (f gw) := by
  simp [hg]

theorem send_actsForItself {κ : RouteCodec} {r : ServerRouter} {g : GatewayId}
    {gw : GatewayImpl Endpoint} (hg : r.gateways[g]? = some gw) (hh : r.Holds g gw)
    (serviceId : ServiceId) (payload : Bytes) (outcome : Int32) :
    r.ActsForItself (.send g serviceId payload outcome)
      (r.send κ g gw serviceId payload outcome) g gw := by
  unfold ServerRouter.send
  split
  · exact actsForItself_still hg rfl rfl (show ErrorCode.notConnected ≠ 0 by decide)
  · split
    · exact actsForItself_still hg rfl rfl (show ErrorCode.shutdown ≠ 0 by decide)
    · next hreg =>
      have hl : (r.lookup gw.endpoint).isSome = true := by
        cases hl : r.lookup gw.endpoint <;> simp [isRegisteredGateway, hl] at hreg ⊢
      have hself := hh.registered hl
      exact {
        kept := fun ep i _ hi => by simpa using hi
        others := fun i hi => by
          simp only [gateways_pipeSend, gateways_modify]
          exact List.getElem?_modify_ne _ _ (Ne.symm hi)
        called := fun i e h => by cases h
        silent := fun hn => absurd hself hn
        refused := fun hn => absurd hself hn }

theorem subscribe_actsForItself {r : ServerRouter} {g : GatewayId} {gw : GatewayImpl Endpoint}
    (hg : r.gateways[g]? = some gw) (hh : r.Holds g gw) (handler : Option Decoder) :
    r.ActsForItself (.subscribe g handler) (r.subscribe g gw handler) g gw := by
  have hquiet : ∀ reply : Reply ServerRouter, reply.router = r.modify g (·.subscribe handler) →
      reply.call = none → r.ActsForItself (.subscribe g handler) reply g gw := fun reply hr hc => {
    kept := fun ep i _ hi => by rw [hr]; exact hi
    others := fun i hi => by
      rw [hr, gateways_modify]
      exact List.getElem?_modify_ne _ _ (Ne.symm hi)
    called := fun i e h => by rw [hc] at h; cases h
    silent := fun _ => by
      rw [hr]
      refine ⟨rfl, fun gw' hg' => ?_⟩
      rw [getElem?_modify_self hg] at hg'
      cases hg'
      rfl
    refused := fun _ _ _ _ h => by cases h }
  unfold subscribe onGatewaySubscription
  split
  · split
    · next i hf =>
      have hl : r.lookup gw.endpoint = some i := (Option.filter_eq_some_iff.mp hf).1
      have hi : i = g := hh i hl
      subst hi
      rw [raise_found (getElem?_modify_self hg _)]
      exact {
        kept := fun ep j _ hj => hj
        others := fun j hj => by
          simp only [gateways_modify, List.modify_modify_eq]
          exact List.getElem?_modify_ne _ _ (Ne.symm hj)
        called := fun j e h => by
          split at h
          · cases h
            rfl
          · cases h
        silent := fun hn => absurd hl hn
        refused := fun hn => absurd hl hn }
    · exact hquiet _ rfl rfl
  · exact hquiet _ rfl rfl

theorem release_actsForItself {κ : RouteCodec} {r : ServerRouter} {g : GatewayId}
    {gw : GatewayImpl Endpoint} (hg : r.gateways[g]? = some gw) (hh : r.Holds g gw)
    (outcome : Int32) :
    r.ActsForItself (.release g outcome) { router := r.destroy κ g gw outcome } g gw where
  kept := fun ep i hne hi => by
    have hep : ep ≠ gw.endpoint := fun he => hne (hh i (he ▸ hi))
    simp only [lookup_destroy, Function.update_of_ne hep]
    exact hi
  others := fun i hi => by
    rcases gateways_destroy κ r g gw outcome with hgs | hgs
    · rw [hgs]
      exact List.getElem?_modify_ne _ _ (Ne.symm hi)
    · rw [hgs, List.modify_modify_eq]
      exact List.getElem?_modify_ne _ _ (Ne.symm hi)
  called := fun i e h => by cases h
  silent := fun hn => by
    rcases destroy_cases κ r g gw outcome with ⟨m, _, hl, _⟩ | ⟨_, maps, heq⟩
    · exact absurd (hh.registered hl) hn
    · simp only [heq]
      refine ⟨rfl, fun gw' hg' => ?_⟩
      have hx : (r.modify g (·.expire)).gateways[g]? = some gw' := hg'
      rw [getElem?_modify_self hg] at hx
      cases hx
      rfl
  refused := fun _ _ _ _ h => by cases h

theorem connected_of_lookup {r : ServerRouter} {ep : Endpoint} {i : GatewayId}
    (hl : r.lookup ep = some i) : r.isConnected ep = true := by
  cases hm : r.clientIdToMapOfGateways ep.clientId with
  | some m => simp [isConnected, hm]
  | none => simp [lookup, hm] at hl

/-- Whatever a replaced gateway does, it does to the one that stands in its place, or in its
name. -/
theorem Wf.not_actsForItself {κ : RouteCodec} {r : ServerRouter} (h : r.Wf) {g i : GatewayId}
    {gw : GatewayImpl Endpoint} (hg : r.channel g = some gw)
    (hl : r.lookup gw.endpoint = some i) (hne : i ≠ g) {a : ServerAction}
    (ha : a.actor = some g) {reply : Reply ServerRouter} (hp : r.perform κ a = some reply) :
    ¬ r.ActsForItself a reply g gw := by
  intro hacts
  have hc := connected_of_lookup hl
  have hfound := (channel_eq_some.mp hg).1
  cases a with
  | registerChannelFactory serviceId input => cases ha
  | complete g' errorCode => cases ha
  | pipeConnected clientId => cases ha
  | pipeMessage clientId payload outcome => cases ha
  | pipeDisconnected clientId order => cases ha
  | notifyNext => cases ha
  | send g' serviceId payload outcome =>
    cases ha
    obtain rfl : r.send κ g gw serviceId payload outcome = reply := by
      simpa [perform, hg] using hp
    have hsent : (r.send κ g gw serviceId payload outcome).router.gateways[g]? =
        some (gw.advance.post (.msg gw.nextSequence.toNat payload) outcome) := by
      simp [ServerRouter.send, hc, isRegisteredGateway, hl, hfound]
    have hposts := (hacts.silent (replaced hl hne)).2 _ hsent
    simp [GatewayImpl.post, GatewayImpl.advance] at hposts
  | subscribe g' handler =>
    cases ha
    obtain rfl : r.subscribe g gw handler = reply := by simpa [perform, hg] using hp
    obtain ⟨x, hx, _, hlive⟩ := h.registry _ _ hl
    have hx' : (r.modify g (·.subscribe handler)).gateways[i]? = some x := by
      simp [Ne.symm hne, hx]
    have hf : (r.modify g (·.subscribe handler)).findGateway gw.endpoint = some i := by
      have hlive' : isAlive (r.modify g (·.subscribe handler)).gateways i = true :=
        isAlive_iff.mpr ⟨x, hx', hlive⟩
      simp only [ServerRouter.findGateway, lookup_modify, hl, Option.filter, hlive', if_true]
    have hc' : (r.modify g (·.subscribe handler)).isConnected gw.endpoint = true := hc
    have htold : (r.subscribe g gw handler).router.gateways[i]? = some (x.hear .connected) := by
      simp only [ServerRouter.subscribe, onGatewaySubscription, hc', if_true, hf, raise_found hx']
      exact getElem?_modify_self hx' _
    have hsame := hacts.others i hne
    rw [htold, hx] at hsame
    have hevents := congrArg GatewayImpl.events (Option.some.inj hsame)
    simp [GatewayImpl.hear] at hevents
  | release g' outcome =>
    cases ha
    obtain rfl : { router := r.destroy κ g gw outcome } = reply := by
      simpa [perform, hg] using hp
    have hkept := hacts.kept gw.endpoint i hne hl
    simp [lookup_destroy] at hkept

/-- What a channel does with its gateway concerns that gateway alone exactly if no other
gateway has taken over the endpoint. -/
theorem acts_for_itself {κ : RouteCodec} {r : ServerRouter} (hr : Reachable κ r)
    {g : GatewayId} {gw : GatewayImpl Endpoint} (hg : r.channel g = some gw)
    {a : ServerAction} (ha : a.actor = some g) {reply : Reply ServerRouter}
    (hp : r.perform κ a = some reply) :
    r.ActsForItself a reply g gw ↔ ∀ i, r.lookup gw.endpoint = some i → i = g := by
  constructor
  · intro hacts i hl
    by_contra hne
    exact hr.wf.not_actsForItself hg hl hne ha hp hacts
  · intro hh
    have hfound := (channel_eq_some.mp hg).1
    cases a with
    | registerChannelFactory serviceId input => cases ha
    | complete g' errorCode => cases ha
    | pipeConnected clientId => cases ha
    | pipeMessage clientId payload outcome => cases ha
    | pipeDisconnected clientId order => cases ha
    | notifyNext => cases ha
    | send g' serviceId payload outcome =>
      cases ha
      obtain rfl : r.send κ g gw serviceId payload outcome = reply := by
        simpa [perform, hg] using hp
      exact send_actsForItself hfound hh serviceId payload outcome
    | subscribe g' handler =>
      cases ha
      obtain rfl : r.subscribe g gw handler = reply := by simpa [perform, hg] using hp
      exact subscribe_actsForItself hfound hh handler
    | release g' outcome =>
      cases ha
      obtain rfl : { router := r.destroy κ g gw outcome } = reply := by
        simpa [perform, hg] using hp
      exact release_actsForItself hfound hh outcome

end ServerRouter

/-- The client starts a new channel under the tag of one that it has ended. -/
def reusedTag : ServerRouter :=
  (Runs.run (ServerRouter.step cyphalCodec) endedServer [.pipeMessage 1 firstMessage 0]).getD {}

theorem reusedTag_reachable : ServerRouter.Reachable cyphalCodec reusedTag := by
  have hrun : (Runs.run (ServerRouter.step cyphalCodec) endedServer
      [.pipeMessage 1 firstMessage 0]).isSome = true := by decide +kernel
  obtain ⟨r, hr⟩ := Option.isSome_iff_exists.mp hrun
  have heq : reusedTag = r := by simp [reusedTag, hr]
  rw [heq]
  exact endedServer_reachable.run hr

theorem acts_for_itself_ended : ∃ gw, endedServer.channel 0 = some gw ∧
    ∃ reply, endedServer.perform cyphalCodec (.send 0 7 [9] 0) = some reply ∧
      endedServer.ActsForItself (.send 0 7 [9] 0) reply 0 gw := by
  have hchannel : (endedServer.channel 0).isSome = true := by decide +kernel
  have hperform : (endedServer.perform cyphalCodec (.send 0 7 [9] 0)).isSome = true := by
    decide +kernel
  have hoff : (endedServer.channel 0).all
      (fun gw => (endedServer.lookup gw.endpoint).isNone) = true := by decide +kernel
  obtain ⟨gw, hg⟩ := Option.isSome_iff_exists.mp hchannel
  obtain ⟨reply, hp⟩ := Option.isSome_iff_exists.mp hperform
  refine ⟨gw, hg, reply, hp, ?_⟩
  refine (ServerRouter.acts_for_itself endedServer_reachable hg rfl hp).mpr fun i hi => ?_
  rw [hg] at hoff
  simp [hi] at hoff

/-- The channel of the old gateway is at work in the name of the new one. -/
theorem acts_for_its_successor : ∃ gw, reusedTag.channel 0 = some gw ∧
    .completed 5 ∈ gw.events ∧ reusedTag.lookup gw.endpoint = some 1 ∧
    (∀ a reply, a.actor = some 0 → reusedTag.perform cyphalCodec a = some reply →
      ¬ reusedTag.ActsForItself a reply 0 gw) ∧
    (reusedTag.perform cyphalCodec (.send 0 7 [9] 0)).map (fun reply =>
      (reply.code, reply.router.serverPipe 1)) = some (0, reusedTag.serverPipe 1 ++
        [Route.serialize (.channelMsg ⟨0, 0, 7, 1⟩) ++ [9]]) ∧
    (reusedTag.perform cyphalCodec (.subscribe 0 none)).map (fun reply =>
      (reply.router.gateways[1]?).map (·.events)) =
        some (some [.message 0 [1], .connected]) ∧
    (reusedTag.perform cyphalCodec (.release 0 0)).map (fun reply =>
      (reply.router.lookup gw.endpoint, reply.router.serverPipe 1)) =
        some (none, reusedTag.serverPipe 1 ++ [Route.serialize (.channelEnd ⟨0, 0⟩)]) := by
  have hchannel : (reusedTag.channel 0).any (fun gw => gw.endpoint = ⟨0, 1⟩ ∧
      .completed 5 ∈ gw.events) = true := by decide +kernel
  obtain ⟨gw, hg, hgw⟩ := (Option.any_eq_true _ _).mp hchannel
  obtain ⟨he, hev⟩ := of_decide_eq_true hgw
  have hl : reusedTag.lookup gw.endpoint = some 1 := by
    rw [he]
    decide +kernel
  refine ⟨gw, hg, hev, hl, fun a reply ha hp => ?_, by decide +kernel, by decide +kernel, ?_⟩
  · exact reusedTag_reachable.wf.not_actsForItself hg hl (by decide) ha hp
  · rw [he]
    decide +kernel

namespace ServerRouter

def Made (r r' : ServerRouter) (ep : Endpoint) (gw : GatewayImpl Endpoint) : Prop :=
  ∃ g : GatewayId, r.gateways[g]? = none ∧ r'.gateways[g]? = some gw ∧ gw.endpoint = ep

/-- Whoever sent the message can learn that it failed, and is not told the contrary. -/
structure ReportsError (r : ServerRouter) (reply : Reply ServerRouter) (ep : Endpoint) :
    Prop where
  error : reply.code ≠ 0 ∨
    ∃ gw e, r.Made reply.router ep gw ∧ e ≠ 0 ∧ .fin e ∈ gw.offered
  never : ∀ gw, r.Made reply.router ep gw → .fin 0 ∉ gw.offered

/-- The destructor of a gateway that the factory drops speaks for it. -/
theorem makeChannel_undecodable {κ : RouteCodec} {r : ServerRouter} {c : ClientId}
    {mapOfGws : MapOfWeakGateways} (hm : r.clientIdToMapOfGateways c = some mapOfGws)
    (m : RouteChannelMsg) {input : Decoder} {payload : Bytes} (hi : input payload = false)
    (outcome : Int32) :
    ∃ gw : GatewayImpl Endpoint, gw.endpoint = ⟨m.tag, c⟩ ∧ gw.offered = [.fin 0] ∧
      (r.makeChannel κ c mapOfGws m input payload outcome).router.gateways =
        r.gateways ++ [gw] ∧
      (outcome = 0 → (r.makeChannel κ c mapOfGws m input payload outcome).router.serverPipe c =
        r.serverPipe c ++ [κ.serialize (.channelEnd ⟨m.tag, 0⟩)]) := by
  let gw : GatewayImpl Endpoint :=
    { endpoint := ⟨m.tag, c⟩, events := [.message m.sequence payload] }
  let made := { r with gateways := r.gateways ++ [gw] }.setMap c
    (some (mapOfGws.insert m.tag r.gateways.length))
  have hmake : (r.makeChannel κ c mapOfGws m input payload outcome).router =
      made.destroy κ r.gateways.length gw outcome := by
    simp [makeChannel, hi, made, gw]
  have hl : made.lookup gw.endpoint = some r.gateways.length := by
    have hlookup : made.lookup = Function.update r.lookup ⟨m.tag, c⟩ (some r.gateways.length) :=
      lookup_insert (r := { r with gateways := r.gateways ++ [gw] }) ⟨m.tag, c⟩ hm _
    rw [hlookup]
    exact Function.update_self _ _ _
  rw [hmake]
  rcases destroy_cases κ made r.gateways.length gw outcome with ⟨m', _, _, heq⟩ | ⟨hnone, _⟩
  · refine ⟨gw.expire.post (.fin 0) outcome, rfl, rfl, ?_, fun ho => ?_⟩
    · rw [heq]
      simp only [gateways_pipeSend, gateways_modify, gateways_setMap, made, modify_concat]
      rfl
    · rw [heq]
      simp [pipeSend, ho, gw, made, setMap, modify]
  · rw [hl] at hnone
    cases hnone

/-- A first message that is not an `Input` of its service is handled without an error, and
its channel is ended as one that has completed well. -/
theorem handle_undecodable {κ : RouteCodec} {r : ServerRouter} {c : ClientId}
    {payload realPayload : Bytes} {m : RouteChannelMsg} {input : Decoder} (outcome : Int32)
    (hd : κ.deserialize payload = some (.channelMsg m))
    (hcut : msgRealPayload payload m = some realPayload) (hs : m.sequence = 0)
    (hc : (r.clientIdToMapOfGateways c).isSome = true) (hl : r.lookup ⟨m.tag, c⟩ = none)
    (hf : r.serviceIdToChannelFactory m.serviceId = some input)
    (hi : input realPayload = false) :
    ∃ reply gw, r.handlePipeMessage κ c payload outcome = some reply ∧ reply.code = 0 ∧
      reply.call = none ∧ reply.router.gateways = r.gateways ++ [gw] ∧
      gw.endpoint = ⟨m.tag, c⟩ ∧ gw.offered = [.fin 0] ∧
      (outcome = 0 → reply.router.serverPipe c =
        r.serverPipe c ++ [κ.serialize (.channelEnd ⟨m.tag, 0⟩)]) := by
  obtain ⟨mapOfGws, hm⟩ := Option.isSome_iff_exists.mp hc
  have hfound : (mapOfGws.lookup m.tag).filter (isAlive r.gateways) = none := by
    rw [← lookup_eq hm, hl]
    rfl
  have hreply : r.handlePipeMessage κ c payload outcome =
      some (r.makeChannel κ c mapOfGws m input realPayload outcome) := by
    simp only [handlePipeMessage, hd, handleRouteChannelMsg, hcut, Option.map_some, hm, hfound,
      hs, if_true, hf]
  obtain ⟨gw, he, hoffered, hgs, hpipe⟩ :=
    makeChannel_undecodable (κ := κ) hm m hi outcome
  refine ⟨_, gw, hreply, ?_, ?_, hgs, he, hoffered, hpipe⟩
  · simp [makeChannel, hi]
  · simp [makeChannel, hi]

/-- No such message is ever reported as a failure. -/
theorem undecodable_not_reported {κ : RouteCodec} {r : ServerRouter} {c : ClientId}
    {payload realPayload : Bytes} {m : RouteChannelMsg} {input : Decoder}
    {outcome : Int32} {reply : Reply ServerRouter}
    (hp : r.perform κ (.pipeMessage c payload outcome) = some reply)
    (hd : κ.deserialize payload = some (.channelMsg m))
    (hcut : msgRealPayload payload m = some realPayload) (hs : m.sequence = 0)
    (hc : (r.clientIdToMapOfGateways c).isSome = true) (hl : r.lookup ⟨m.tag, c⟩ = none)
    (hf : r.serviceIdToChannelFactory m.serviceId = some input)
    (hi : input realPayload = false) :
    ¬ r.ReportsError reply ⟨m.tag, c⟩ := by
  intro hreports
  obtain ⟨reply', gw, hh, _, _, hgs, he, hoffered, _⟩ :=
    handle_undecodable outcome hd hcut hs hc hl hf hi
  have hsame : reply' = reply := by
    simp only [perform] at hp
    split at hp
    · exact Option.some.inj (hh.symm.trans hp)
    · cases hp
  subst hsame
  refine hreports.never gw ⟨r.gateways.length, by simp, by simp [hgs], he⟩ ?_
  rw [hoffered]
  exact List.mem_singleton_self _

end ServerRouter

/-- A request for the execution of a command, as far as it can go wrong: after eight bytes
of timeout there are at most 128 node ids. -/
def fewNodes : Decoder := fun payload => (payload.getD 8 0).toNat ≤ 128

def manyNodes : Bytes :=
  Route.serialize (.channelMsg ⟨0, 0, 7, 9⟩) ++ [0, 0, 0, 0, 0, 0, 0, 0, 255]

def serving : ServerRouter :=
  (Runs.run (ServerRouter.step cyphalCodec) {}
    [.registerChannelFactory 7 fewNodes,
     .pipeMessage 1 (Route.serialize (.connect ⟨currentVersion, 0⟩)) 0]).getD {}

theorem undecodable_not_reported_sample : ∃ reply,
    serving.perform cyphalCodec (.pipeMessage 1 manyNodes 0) = some reply ∧
      ¬ serving.ReportsError reply ⟨0, 1⟩ := by
  have hperform : (serving.perform cyphalCodec (.pipeMessage 1 manyNodes 0)).isSome = true := by
    decide +kernel
  obtain ⟨reply, hp⟩ := Option.isSome_iff_exists.mp hperform
  exact ⟨reply, hp, ServerRouter.undecodable_not_reported hp
    (m := ⟨0, 0, 7, 9⟩) (by decide +kernel) rfl rfl (by decide +kernel) (by decide +kernel)
    (show _ = some fewNodes from rfl) (by decide +kernel)⟩

/-- All that the client gets to know is an end without an error. -/
theorem undecodable_request : ∃ reply gw,
    serving.perform cyphalCodec (.pipeMessage 1 manyNodes 0) = some reply ∧
      reply.code = 0 ∧ reply.call = none ∧ reply.router.gateways = [gw] ∧
      reply.router.serverPipe 1 = [Route.serialize (.connect ⟨currentVersion, 0⟩),
        Route.serialize (.channelEnd ⟨0, 0⟩)] ∧
      ¬ serving.ReportsError reply ⟨0, 1⟩ := by
  have hd : cyphalCodec.deserialize manyNodes = some (.channelMsg ⟨0, 0, 7, 9⟩) := by
    decide +kernel
  obtain ⟨reply, gw, hh, hcode, hcall, hgs, he, hoffered, hpipe⟩ :=
    ServerRouter.handle_undecodable (r := serving) (c := 1) (m := ⟨0, 0, 7, 9⟩)
      0 hd rfl rfl (by decide +kernel)
      (by decide +kernel) (show _ = some fewNodes from rfl) (by decide +kernel)
  have hnone : serving.gateways = [] := by decide +kernel
  have hgreeted : serving.serverPipe 1 = [Route.serialize (.connect ⟨currentVersion, 0⟩)] := by
    decide +kernel
  refine ⟨reply, gw, ?_, hcode, hcall, by rw [hgs, hnone]; rfl, ?_, fun hreports => ?_⟩
  · have hidle : serving.idle = true := by decide +kernel
    simp only [ServerRouter.perform, hidle, if_true]
    exact hh
  · rw [hpipe rfl, hgreeted]
    rfl
  · refine hreports.never gw ⟨0, by simp [hnone], by simp [hgs, hnone], he⟩ ?_
    rw [hoffered]
    exact List.mem_singleton_self _

end Ocvsmd.Ipc
