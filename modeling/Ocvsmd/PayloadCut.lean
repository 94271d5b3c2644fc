import Ocvsmd.ClientRouter
import Ocvsmd.ServerRouter

set_option autoImplicit false

namespace Ocvsmd.Ipc

/-- The cut does not wrap and stays within the message; a size that does not fit is
answered with an error, and with nothing else. -/
structure SlicedInBounds {Router : Type} (payload : Bytes) (m : RouteChannelMsg) (r : Router)
    (result : Option (Reply Router)) : Prop where
  exact : (cutOffset payload m).toNat + m.payloadSize.toNat = payload.length
  within : (cutOffset payload m).toNat ≤ payload.length
  defined : result.isSome = true
  rejected : payload.length < m.payloadSize.toNat →
    ∃ reply, result = some reply ∧ reply.code ≠ 0 ∧ reply.router = r

theorem cutOffset_exact {payload : Bytes} {m : RouteChannelMsg} (hlen : payload.length < 2^64)
    (hfit : m.payloadSize.toNat ≤ payload.length) :
    (cutOffset payload m).toNat + m.payloadSize.toNat = payload.length := by
  have hnat : (UInt64.ofNat payload.length).toNat = payload.length := by
    rw [UInt64.toNat_ofNat']
    exact Nat.mod_eq_of_lt hlen
  have hle : m.payloadSize ≤ UInt64.ofNat payload.length := by
    rw [UInt64.le_iff_toNat_le, hnat]
    exact hfit
  unfold cutOffset
  rw [UInt64.toNat_sub_of_le _ _ hle, hnat]
  omega

theorem cutOffset_outside {payload : Bytes} {m : RouteChannelMsg} (hlen : payload.length < 2^64)
    (hbig : payload.length < m.payloadSize.toNat) :
    payload.length < (cutOffset payload m).toNat := by
  have hnat : (UInt64.ofNat payload.length).toNat = payload.length := by
    rw [UInt64.toNat_ofNat']
    exact Nat.mod_eq_of_lt hlen
  have hsize := m.payloadSize.toNat_lt
  unfold cutOffset
  rw [UInt64.toNat_sub, hnat]
  omega

theorem msgRealPayload_isSome_iff {payload : Bytes} {m : RouteChannelMsg}
    (hlen : payload.length < 2^64) :
    (msgRealPayload payload m).isSome = true ↔ m.payloadSize.toNat ≤ payload.length := by
  constructor
  · intro h
    by_contra hbig
    have hout := cutOffset_outside (m := m) hlen (by omega)
    simp [msgRealPayload, subspan, Nat.not_le.mpr hout] at h
  · intro hfit
    have hexact := cutOffset_exact hlen hfit
    have hin : (cutOffset payload m).toNat ≤ payload.length := by omega
    simp [msgRealPayload, subspan, hin]

/-- For either router, what it does being a `map` over the cut. -/
theorem slicedInBounds_iff {Router : Type} {payload : Bytes} {m : RouteChannelMsg}
    (hlen : payload.length < 2^64) (r : Router) (f : Bytes → Reply Router) :
    SlicedInBounds payload m r ((msgRealPayload payload m).map f) ↔
      m.payloadSize.toNat ≤ payload.length := by
  rw [← msgRealPayload_isSome_iff hlen]
  constructor
  · intro h
    simpa using h.defined
  · intro h
    have hfit := (msgRealPayload_isSome_iff hlen).mp h
    have hexact := cutOffset_exact hlen hfit
    exact {
      exact := hexact
      within := by omega
      defined := by simpa using h
      rejected := fun hbig => absurd hfit (by omega) }

/-- A message is cut in bounds exactly if the size that the peer wrote fits, whatever the
state of the router. -/
theorem sliced_in_bounds {κ : RouteCodec} {payload : Bytes} {m : RouteChannelMsg}
    (hd : κ.deserialize payload = some (.channelMsg m)) (hlen : payload.length < 2^64) :
    (∀ (r : ClientRouter) (order : List GatewayId),
      SlicedInBounds payload m r (r.handlePipeMessage κ payload order) ↔
        m.payloadSize.toNat ≤ payload.length) ∧
    (∀ (r : ServerRouter) (clientId : ClientId) (outcome : Int32),
      SlicedInBounds payload m r (r.handlePipeMessage κ clientId payload outcome) ↔
        m.payloadSize.toNat ≤ payload.length) := by
  constructor
  · intro r order
    simp only [ClientRouter.handlePipeMessage, hd]
    exact slicedInBounds_iff hlen r _
  · intro r clientId outcome
    simp only [ServerRouter.handlePipeMessage, hd]
    exact slicedInBounds_iff hlen r _

/-- A header of 37 bytes that says its payload has `size`. -/
def claiming (sequence size : UInt64) : Bytes :=
  Route.serialize (.channelMsg ⟨0, sequence, 7, size⟩)

def routeConnect : Bytes := Route.serialize (.connect ⟨currentVersion, 0⟩)

def attendedClient : ClientRouter :=
  (Runs.run (ClientRouter.step cyphalCodec) {}
    [.makeGateway, .subscribe 0 (some fun _ => true), .pipeMessage routeConnect [0], .notifyNext,
      .dropNext 0]).getD {}

def attendedServer : ServerRouter :=
  (Runs.run (ServerRouter.step cyphalCodec) {}
    [.registerChannelFactory 7 fun _ => true, .pipeMessage 1 routeConnect 0,
      .pipeMessage 1 (claiming 0 2 ++ [8, 9]) 0, .subscribe 0 (some fun _ => true)]).getD {}

/-- A gateway gets the bytes behind the header, and no others. -/
theorem sliced_in_bounds_attended :
    (attendedClient.isConnected = true ∧ attendedClient.isRegisteredGateway 0 = true ∧
      SlicedInBounds (claiming 0 3 ++ [1, 2, 3]) ⟨0, 0, 7, 3⟩ attendedClient
        (attendedClient.handlePipeMessage cyphalCodec (claiming 0 3 ++ [1, 2, 3]) [0]) ∧
      (attendedClient.handlePipeMessage cyphalCodec (claiming 0 3 ++ [1, 2, 3]) [0]).map (·.call) =
        some (some (.event 0 (.message 0 [1, 2, 3])))) ∧
    attendedServer.isRegisteredGateway ⟨0, 1⟩ = true ∧
      SlicedInBounds (claiming 1 3 ++ [1, 2, 3]) ⟨0, 1, 7, 3⟩ attendedServer
        (attendedServer.handlePipeMessage cyphalCodec 1 (claiming 1 3 ++ [1, 2, 3]) 0) ∧
      (attendedServer.handlePipeMessage cyphalCodec 1 (claiming 1 3 ++ [1, 2, 3]) 0).map (·.call) =
        some (some (.event 0 (.message 1 [1, 2, 3]))) := by
  have hclient := (@sliced_in_bounds cyphalCodec (claiming 0 3 ++ [1, 2, 3]) ⟨0, 0, 7, 3⟩
    (by decide +kernel) (by decide)).1 attendedClient [0]
  have hserver := (@sliced_in_bounds cyphalCodec (claiming 1 3 ++ [1, 2, 3]) ⟨0, 1, 7, 3⟩
    (by decide +kernel) (by decide)).2 attendedServer 1 0
  exact ⟨⟨by decide +kernel, by decide +kernel, hclient.mpr (by decide), by decide +kernel⟩,
    by decide +kernel, hserver.mpr (by decide), by decide +kernel⟩

theorem sliced_out_of_bounds :
    cyphalCodec.deserialize (claiming 0 100) = some (.channelMsg ⟨0, 0, 7, 100⟩) ∧
    (claiming 0 100).length = 37 ∧
    cutOffset (claiming 0 100) ⟨0, 0, 7, 100⟩ = 0xFFFFFFFFFFFFFFC1 ∧
    ({} : ServerRouter).handlePipeMessage cyphalCodec 1 (claiming 0 100) 0 = none ∧
    ¬ SlicedInBounds (claiming 0 100) ⟨0, 0, 7, 100⟩ ({} : ServerRouter)
      (({} : ServerRouter).handlePipeMessage cyphalCodec 1 (claiming 0 100) 0) := by
  have hnone : ({} : ServerRouter).handlePipeMessage cyphalCodec 1 (claiming 0 100) 0 = none := rfl
  refine ⟨by decide +kernel, by decide, by decide +kernel, hnone, fun h => ?_⟩
  have hdefined := h.defined
  rw [hnone] at hdefined
  cases hdefined

end Ocvsmd.Ipc
