import Ocvsmd.ClientRouter
import Ocvsmd.ServerRouter

set_option autoImplicit false

namespace Ocvsmd.Ipc

/-- What a gateway hands to the pipe for a payload: the prefix and then the payload. -/
def envelope (κ : RouteCodec) (tag : Tag) (sequence : UInt64) (serviceId : ServiceId)
    (payload : Bytes) : Bytes :=
  κ.serialize (.channelMsg ⟨tag, sequence, serviceId, UInt64.ofNat payload.length⟩) ++ payload

def Carries (κ : RouteCodec) (message : Bytes) (tag : Tag) (sequence : UInt64)
    (serviceId : ServiceId) (payload : Bytes) : Prop :=
  ∃ m, κ.deserialize message = some (.channelMsg m) ∧ m.tag = tag ∧ m.sequence = sequence ∧
    m.serviceId = serviceId ∧ msgRealPayload message m = some payload

theorem carries_envelope (κ : RouteCodec) (tag : Tag) (sequence : UInt64) (serviceId : ServiceId)
    (payload : Bytes) :
    Carries κ (envelope κ tag sequence serviceId payload) tag sequence serviceId payload := by
  refine ⟨⟨tag, sequence, serviceId, UInt64.ofNat payload.length⟩, ?_, rfl, rfl, rfl, ?_⟩
  · exact κ.deserialize_serialize _ _
  · exact msgRealPayload_append _ _ _ (κ.serialize_length _) rfl

/-- A server router takes the message for these fields and this payload, whether there is a
gateway for it or a channel to be made. -/
structure ServerTakes (κ : RouteCodec) (message : Bytes) (tag : Tag) (sequence : UInt64)
    (serviceId : ServiceId) (payload : Bytes) : Prop where
  carried : Carries κ message tag sequence serviceId payload
  heard : ∀ (r : ServerRouter) (c : ClientId) (outcome : Int32) (g : GatewayId),
    r.findGateway ⟨tag, c⟩ = some g →
      r.handlePipeMessage κ c message outcome = some (r.raise g (.message sequence payload))
  opened : ∀ (r : ServerRouter) (c : ClientId) (outcome : Int32) (input : Decoder),
    sequence = 0 → r.isConnected ⟨tag, c⟩ = true → r.findGateway ⟨tag, c⟩ = none →
    r.serviceIdToChannelFactory serviceId = some input → input payload = true →
      (r.handlePipeMessage κ c message outcome).bind (·.call) =
        some (.newChannel r.gateways.length serviceId payload)

structure ClientTakes (κ : RouteCodec) (message : Bytes) (tag : Tag) (sequence : UInt64)
    (serviceId : ServiceId) (payload : Bytes) : Prop where
  carried : Carries κ message tag sequence serviceId payload
  heard : ∀ (r : ClientRouter) (order : List GatewayId) (g : GatewayId),
    r.findGateway tag = some g →
      r.handlePipeMessage κ message order = some (r.raise g (.message sequence payload))

theorem Carries.server {κ : RouteCodec} {message payload : Bytes} {tag : Tag}
    {sequence : UInt64} {serviceId : ServiceId}
    (h : Carries κ message tag sequence serviceId payload) :
    ServerTakes κ message tag sequence serviceId payload where
  carried := h
  heard := by
    obtain ⟨m, hd, rfl, rfl, rfl, hcut⟩ := h
    intro r c outcome g hf
    cases hm : r.clientIdToMapOfGateways c with
    | none => simp [ServerRouter.findGateway, ServerRouter.lookup, hm] at hf
    | some mapOfGws =>
      have hfound : (mapOfGws.lookup m.tag).filter (isAlive r.gateways) = some g := by
        rw [← ServerRouter.lookup_eq hm]
        exact hf
      simp only [ServerRouter.handlePipeMessage, hd, ServerRouter.handleRouteChannelMsg, hcut,
        Option.map_some, hm, hfound]
  opened := by
    obtain ⟨m, hd, rfl, rfl, rfl, hcut⟩ := h
    intro r c outcome input hs hc hf hfactory hi
    obtain ⟨mapOfGws, hm⟩ := Option.isSome_iff_exists.mp hc
    have hm' : r.clientIdToMapOfGateways c = some mapOfGws := hm
    have hfound : (mapOfGws.lookup m.tag).filter (isAlive r.gateways) = none := by
      rw [← ServerRouter.lookup_eq hm']
      exact hf
    simp [ServerRouter.handlePipeMessage, hd, ServerRouter.handleRouteChannelMsg, hcut, hm',
      hfound, hs, hfactory, ServerRouter.makeChannel, hi]

theorem Carries.client {κ : RouteCodec} {message payload : Bytes} {tag : Tag}
    {sequence : UInt64} {serviceId : ServiceId}
    (h : Carries κ message tag sequence serviceId payload) :
    ClientTakes κ message tag sequence serviceId payload where
  carried := h
  heard := by
    obtain ⟨m, hd, rfl, rfl, rfl, hcut⟩ := h
    intro r order g hf
    simp only [ClientRouter.handlePipeMessage, hd, ClientRouter.handleRouteChannelMsg, hcut,
      Option.map_some, hf]

theorem ClientRouter.clientPipe_send (κ : RouteCodec) (r : ClientRouter) (g : GatewayId)
    (gw : GatewayImpl Tag) (serviceId : ServiceId) (payload : Bytes) (outcome : Int32) :
    (r.send κ g gw serviceId payload outcome).router.clientPipe = r.clientPipe ++
      if r.isConnected ∧ r.isRegisteredGateway gw.endpoint ∧ outcome = 0 then
        [envelope κ gw.endpoint gw.nextSequence serviceId payload] else [] := by
  cases hc : r.isConnected with
  | false => simp [send, hc]
  | true =>
    cases hreg : r.isRegisteredGateway gw.endpoint with
    | false => simp [send, hc, hreg]
    | true =>
      by_cases ho : outcome = 0
      · simp [send, hc, hreg, ho, pipeSend, modify, envelope]
      · simp [send, hc, hreg, ho, pipeSend, modify]

theorem ServerRouter.serverPipe_send (κ : RouteCodec) (r : ServerRouter) (g : GatewayId)
    (gw : GatewayImpl Endpoint) (serviceId : ServiceId) (payload : Bytes) (outcome : Int32)
    (c : ClientId) :
    (r.send κ g gw serviceId payload outcome).router.serverPipe c = r.serverPipe c ++
      if c = gw.endpoint.clientId ∧ r.isRegisteredGateway gw.endpoint ∧ outcome = 0 then
        [envelope κ gw.endpoint.tag gw.nextSequence serviceId payload] else [] := by
  cases hreg : r.isRegisteredGateway gw.endpoint with
  | false =>
    unfold send
    split
    · simp
    · simp [hreg]
  | true =>
    have hc : r.isConnected gw.endpoint = true := by
      cases hm : r.clientIdToMapOfGateways gw.endpoint.clientId with
      | some m => simp [isConnected, hm]
      | none => simp [isRegisteredGateway, lookup, hm] at hreg
    by_cases ho : outcome = 0
    · by_cases hcl : c = gw.endpoint.clientId
      · subst hcl
        simp [send, hc, hreg, ho, pipeSend, modify, envelope]
      · simp [send, hc, hreg, ho, pipeSend, modify, hcl]
    · simp [send, hc, hreg, ho, pipeSend, modify]

/-- What a gateway sends on one side is taken on the other with the same tag, sequence and
service, and cut to the same payload; the other two messages keep their fields. -/
theorem envelope_round_trip :
    (∀ (tag : Tag) (sequence : UInt64) (serviceId : ServiceId) (payload : Bytes),
      let message := envelope cyphalCodec tag sequence serviceId payload
      ServerTakes cyphalCodec message tag sequence serviceId payload ∧
      ClientTakes cyphalCodec message tag sequence serviceId payload) ∧
    (∀ (r : ClientRouter) (g : GatewayId) (gw : GatewayImpl Tag) (serviceId : ServiceId)
      (payload : Bytes) (outcome : Int32),
      (r.send cyphalCodec g gw serviceId payload outcome).router.clientPipe = r.clientPipe ++
        if r.isConnected ∧ r.isRegisteredGateway gw.endpoint ∧ outcome = 0 then
          [envelope cyphalCodec gw.endpoint gw.nextSequence serviceId payload] else []) ∧
    (∀ (r : ServerRouter) (g : GatewayId) (gw : GatewayImpl Endpoint) (serviceId : ServiceId)
      (payload : Bytes) (outcome : Int32) (c : ClientId),
      (r.send cyphalCodec g gw serviceId payload outcome).router.serverPipe c =
        r.serverPipe c ++
        if c = gw.endpoint.clientId ∧ r.isRegisteredGateway gw.endpoint ∧ outcome = 0 then
          [envelope cyphalCodec gw.endpoint.tag gw.nextSequence serviceId payload] else []) ∧
    (∀ e : RouteChannelEnd,
      (∀ r c outcome, ServerRouter.handlePipeMessage cyphalCodec r c
        (cyphalCodec.serialize (.channelEnd e)) outcome = some (r.handleRouteChannelEnd c e)) ∧
      (∀ r order, ClientRouter.handlePipeMessage cyphalCodec r
        (cyphalCodec.serialize (.channelEnd e)) order = some (r.handleRouteChannelEnd e))) ∧
    (∀ c : RouteConnect,
      cyphalCodec.deserialize (cyphalCodec.serialize (.connect c)) = some (.connect c)) := by
  have hdecode := cyphalCodec.deserialize_alone
  refine ⟨fun tag sequence serviceId payload => ?_, ?_, ?_, fun e => ?_, fun c => hdecode _⟩
  · have hcarries := carries_envelope cyphalCodec tag sequence serviceId payload
    exact ⟨hcarries.server, hcarries.client⟩
  · exact ClientRouter.clientPipe_send cyphalCodec
  · exact ServerRouter.serverPipe_send cyphalCodec
  · constructor
    · intro r c outcome
      simp only [ServerRouter.handlePipeMessage, hdecode]
    · intro r order
      simp only [ClientRouter.handlePipeMessage, hdecode]

example : cyphalCodec.deserialize
    (envelope cyphalCodec 4 0 7 (Route.serialize (.channelEnd ⟨0, 5⟩))) =
      some (.channelMsg ⟨4, 0, 7, 17⟩) := by
  decide +kernel

end Ocvsmd.Ipc
