import Ocvsmd.ClientEvents
import Ocvsmd.Network
import Ocvsmd.ServerPipeLoss

/-!
How the two ends come to agree that they are connected, over pipes on which anything
can be refused or lost with the connection.
-/

set_option autoImplicit false

namespace Ocvsmd.Ipc

namespace ServerRouter

def knows (r : ServerRouter) (c : ClientId) : Bool := (r.clientIdToMapOfGateways c).isSome

theorem knows_setMap {r : ServerRouter} {c d : ClientId} {m : MapOfWeakGateways}
    (h : r.knows c = true) : (r.setMap d (some m)).knows c = true := by
  by_cases hc : c = d
  · subst hc
    simp [knows, setMap]
  · simpa [knows, setMap, hc] using h

theorem Updates.knows {κ : RouteCodec} {r r' : ServerRouter} (h : Updates κ r r') {c : ClientId}
    (hc : r.knows c = true) : r'.knows c = true := by
  refine h.keep (P := fun m => m.knows c = true) ?_ hc
  intro m m' hm hu
  cases hu with
  | gateways gs => exact hm
  | entry known m' => exact knows_setMap hm
  | post d channel outcome =>
    rw [ServerRouter.knows, maps_pipeSend]
    exact hm

/-- Only the loss of its pipe makes the router forget a client. -/
theorem knows_step {κ : RouteCodec} {r r' : ServerRouter} {a : ServerAction} {c : ClientId}
    (hs : r.step κ a = some r') (h : r.knows c = true)
    (ha : ∀ order, a ≠ .pipeDisconnected c order) : r'.knows c = true := by
  cases step_case hs with
  | updates done => exact done.knows h
  | registers serviceId input => exact h
  | connects d payload outcome =>
    have hsent : (r.pipeSend d (κ.serialize (.connect ⟨currentVersion, 0⟩)) outcome).knows c =
        true := by
      rw [knows, maps_pipeSend]
      exact h
    unfold handleRouteConnect
    simp only
    split
    · exact knows_setMap hsent
    · exact hsent
  | loses d order idle ids =>
    have hne : c ≠ d := by
      rintro rfl
      exact ha order rfl
    unfold handlePipeDisconnected
    split
    · simpa [knows, setMap, hne] using h
    · exact h
  | turns g rest remaining done => exact done.knows h

theorem mem_pipeSend {r : ServerRouter} {c d : ClientId} {message b : Bytes} {outcome : Int32}
    (h : b ∈ (r.pipeSend d message outcome).serverPipe c) :
    b ∈ r.serverPipe c ∨ b = message ∧ c = d ∧ outcome = 0 := by
  unfold pipeSend at h
  split at h
  · next ho =>
    by_cases hc : c = d
    · subst hc
      simp only [Function.update_self, List.mem_append, List.mem_singleton] at h
      exact h.imp id fun hb => ⟨hb, rfl, ho⟩
    · exact .inl (by simpa [hc] using h)
  · exact .inl h

theorem Updates.posted {κ : RouteCodec} {r r' : ServerRouter} (h : Updates κ r r') {c : ClientId}
    {b : Bytes} (hb : b ∈ r'.serverPipe c) :
    b ∈ r.serverPipe c ∨ isOfChannel κ b = true := by
  refine h.keep (P := fun m => ∀ b ∈ m.serverPipe c, b ∈ r.serverPipe c ∨ isOfChannel κ b = true)
    ?_ (fun _ hb => .inl hb) b hb
  intro m m' hm hu b hb
  cases hu with
  | gateways gs => exact hm b hb
  | entry known m' => exact hm b hb
  | post d channel outcome =>
    rcases mem_pipeSend hb with hold | ⟨rfl, _⟩
    · exact hm b hold
    · exact .inr channel

theorem posted_step {κ : RouteCodec} {r r' : ServerRouter} {a : ServerAction} {c : ClientId}
    {b : Bytes} (hs : r.step κ a = some r') (h : b ∈ r'.serverPipe c) :
    b ∈ r.serverPipe c ∨ isOfChannel κ b = true ∨ r'.knows c = true := by
  cases step_case hs with
  | updates done => exact (done.posted h).imp id .inl
  | registers serviceId input => exact .inl h
  | connects d payload outcome =>
    have hpipe : b ∈ (r.pipeSend d (κ.serialize (.connect ⟨currentVersion, 0⟩))
        outcome).serverPipe c := by
      unfold handleRouteConnect at h
      simp only at h
      split at h
      · exact h
      · exact h
    refine (mem_pipeSend hpipe).imp id ?_
    rintro ⟨_, rfl, ho⟩
    right
    simp [handleRouteConnect, ho, knows, setMap]
  | loses d order idle ids =>
    unfold handlePipeDisconnected at h
    split at h
    · exact .inl h
    · exact .inl h
  | turns g rest remaining done => exact (done.posted h).imp id .inl

theorem handleRouteConnect_again {κ : RouteCodec} {r : ServerRouter} {c : ClientId}
    (h : r.knows c = true) (outcome : Int32) :
    ∃ pipe, r.handleRouteConnect κ c outcome =
      { router := { r with serverPipe := pipe }, code := outcome } := by
  obtain ⟨m, hm⟩ := Option.isSome_iff_exists.mp h
  by_cases ho : outcome = 0
  · have hkeep : Function.update r.clientIdToMapOfGateways c (some m) =
        r.clientIdToMapOfGateways := by
      rw [← hm]
      exact Function.update_eq_self c _
    simp only [handleRouteConnect, pipeSend, ho, if_true, setMap, hm, Option.getD_some, hkeep]
    exact ⟨_, rfl⟩
  · simp only [handleRouteConnect, pipeSend, ho, if_false]
    exact ⟨r.serverPipe, rfl⟩

end ServerRouter

namespace ClientRouter

theorem mem_pipeSend {r : ClientRouter} {message b : Bytes} {outcome : Int32}
    (h : b ∈ (r.pipeSend message outcome).clientPipe) : b ∈ r.clientPipe ∨ b = message := by
  unfold pipeSend at h
  split at h
  · exact (List.mem_append.mp h).imp id List.mem_singleton.mp
  · exact .inl h

theorem Updates.isConnected {κ : RouteCodec} {r r' : ClientRouter} (h : Updates κ r r') :
    r'.isConnected = r.isConnected := by
  refine h.keep (P := fun m => m.isConnected = r.isConnected) ?_ rfl
  intro m m' hm hu
  cases hu with
  | gateway i f => exact hm
  | unregister endpoint => exact hm
  | post channel connected outcome => exact (isConnected_pipeSend _ _ _).trans hm

theorem Updates.posted {κ : RouteCodec} {r r' : ClientRouter} (h : Updates κ r r') {b : Bytes}
    (hb : b ∈ r'.clientPipe) : b ∈ r.clientPipe ∨ r.isConnected = true := by
  refine (h.keep (P := fun m => m.isConnected = r.isConnected ∧
    ∀ b ∈ m.clientPipe, b ∈ r.clientPipe ∨ r.isConnected = true) ?_
    ⟨rfl, fun _ hb => .inl hb⟩).2 b hb
  rintro m m' ⟨hc, hm⟩ hu
  cases hu with
  | gateway i f => exact ⟨hc, hm⟩
  | unregister endpoint => exact ⟨hc, hm⟩
  | post channel connected outcome =>
    refine ⟨(isConnected_pipeSend _ _ _).trans hc, fun b hb => ?_⟩
    rcases mem_pipeSend hb with hold | _
    · exact hm b hold
    · exact .inr (hc.symm.trans connected)

/-- A client that is not connected sends nothing but requests. -/
theorem posted_step {κ : RouteCodec} {r r' : ClientRouter} {a : ClientAction} {b : Bytes}
    (hs : r.step κ a = some r') (h : b ∈ r'.clientPipe) :
    b ∈ r.clientPipe ∨ isConnect κ b = true ∨ r.isConnected = true := by
  cases step_case hs with
  | updates done => exact (done.posted h).imp id .inr
  | makes => exact .inl h
  | requests outcome =>
    refine (mem_pipeSend h).imp id ?_
    rintro rfl
    exact .inl (isConnect_connect κ _)
  | connects payload order idle ids answer =>
    unfold handleRouteConnect at h
    split at h <;> exact .inl h
  | loses order idle ids =>
    unfold handlePipeDisconnected at h
    split at h <;> exact .inl h
  | turns g rest remaining done => exact (done.posted h).imp id .inr
  | drops outcome rest done => exact (done.posted h).imp id .inr

/-- Only an answer of the server connects a client. -/
theorem connected_step {κ : RouteCodec} {r r' : ClientRouter} {a : ClientAction}
    (hs : r.step κ a = some r') (h : r'.isConnected = true) :
    r.isConnected = true ∨
      ∃ payload order, a = .pipeMessage payload order ∧ isConnect κ payload = true := by
  cases step_case hs with
  | updates done => exact .inl (done.isConnected.symm.trans h)
  | makes => exact .inl h
  | requests outcome =>
    simp only [handlePipeConnected, isConnected_pipeSend] at h
    exact .inl h
  | connects payload order idle ids answer => exact .inr ⟨payload, order, rfl, answer⟩
  | loses order idle ids =>
    unfold handlePipeDisconnected at h
    split at h
    · cases h
    · exact .inl h
  | turns g rest remaining done => exact .inl (done.isConnected.symm.trans h)
  | drops outcome rest done => exact .inl (done.isConnected.symm.trans h)

theorem handleRouteConnect_again {r : ClientRouter} (h : r.isConnected = true)
    (order : List GatewayId) : r.handleRouteConnect order = { router := r } := by
  simp [handleRouteConnect, h]

end ClientRouter

/-- A server, and a client at the other end of each connection. A client has one
connection in its life; the server numbers it when it accepts it. -/
structure Handshake where
  host : SocketServer := {}
  client : ClientId → ClientRouter := fun _ => {}
  clientUp : ClientId → Bool := fun _ => true
  /-- Whose message the handler of the server has answered with an error. -/
  refused : Option ClientId := none
  clientRefused : ClientId → Bool := fun _ => false
  disconnected : ClientId → Bool := fun _ => false

inductive HandshakeAction where
  | client : ClientId → ClientAction → HandshakeAction
  | server : ServerAction → HandshakeAction
  | handleAccept : HandshakeAction
  | handleClientRequest : ClientId → Int32 → HandshakeAction
  | closeConnection : ClientId → List GatewayId → HandshakeAction
  | handleReceive : ClientId → List GatewayId → HandshakeAction
  | handleDisconnect : ClientId → List GatewayId → HandshakeAction

namespace Handshake

def setClient (n : Handshake) (c : ClientId) (r : ClientRouter) : Handshake :=
  { n with client := Function.update n.client c r }

/-- What a client may do of itself. A request may be repeated while the pipe is open. -/
def clientMay (n : Handshake) (c : ClientId) : ClientAction → Bool
  | .pipeConnected _ => n.clientUp c && !n.clientRefused c
  | .pipeMessage _ _ => false
  | .pipeDisconnected _ => false
  | _ => true

def handleClientRequest (κ : RouteCodec) (n : Handshake) (c : ClientId) (outcome : Int32) :
    Option Handshake :=
  match (n.client c).clientPipe with
  | [] => none
  | message :: rest =>
    if n.host.clientIdToContext c then
      (n.host.router.perform κ (.pipeMessage c message outcome)).map fun reply =>
        { n with
          host := { n.host with router := reply.router }
          refused := if reply.code ≠ 0 then some c else none }.setClient c
            ((n.client c).withPipe rest)
    else none

def closeConnection (κ : RouteCodec) (n : Handshake) (c : ClientId) (order : List GatewayId) :
    Option Handshake :=
  (n.host.closeConnection κ c order).map fun h =>
    { n with
      host := h
      refused := none
      disconnected := Function.update n.disconnected c true }

def handleReceive (κ : RouteCodec) (n : Handshake) (c : ClientId) (order : List GatewayId) :
    Option Handshake :=
  match n.host.router.serverPipe c with
  | [] => none
  | message :: rest =>
    if n.clientUp c ∧ n.clientRefused c = false then
      ((n.client c).perform κ (.pipeMessage message order)).map fun reply =>
        { n with
          host := { n.host with router := n.host.router.withPipe c rest }
          clientRefused := Function.update n.clientRefused c (reply.code != 0) }.setClient c
            reply.router
    else none

def handleDisconnect (κ : RouteCodec) (n : Handshake) (c : ClientId) (order : List GatewayId) :
    Option Handshake :=
  if n.clientUp c then
    ((n.client c).step κ (.pipeDisconnected order)).map fun r =>
      { n with
        clientUp := Function.update n.clientUp c false
        clientRefused := Function.update n.clientRefused c false }.setClient c r
  else none

/-- Once a handler has returned an error, its server does nothing before it has closed
that connection. -/
def step (κ : RouteCodec) (n : Handshake) : HandshakeAction → Option Handshake
  | .client c a =>
    if n.clientMay c a then ((n.client c).step κ a).map (n.setClient c) else none
  | .server a =>
    if n.refused = none then
      (n.host.step κ (.router a)).map fun h => { n with host := h }
    else none
  | .handleAccept =>
    if n.refused = none then
      (n.host.step κ .handleAccept).map fun h => { n with host := h }
    else none
  | .handleClientRequest c outcome =>
    if n.refused = none then n.handleClientRequest κ c outcome else none
  | .closeConnection c order =>
    if n.refused = none ∨ n.refused = some c then n.closeConnection κ c order else none
  | .handleReceive c order => n.handleReceive κ c order
  | .handleDisconnect c order => n.handleDisconnect κ c order

def Reachable (κ : RouteCodec) (n : Handshake) : Prop := Runs.Reachable (step κ) {} n

/-- The server knows the client, or is done with it. -/
def Settled (n : Handshake) (c : ClientId) : Prop :=
  n.host.router.knows c = true ∨ n.disconnected c = true

structure Inv (κ : RouteCodec) (n : Handshake) : Prop where
  opened : ∀ c, n.host.clientIdToContext c = true → c ≤ n.host.uniqueClientIdCounter
  closed : ∀ c, n.disconnected c = true →
    n.host.clientIdToContext c = false ∧ c ≤ n.host.uniqueClientIdCounter
  connected : ∀ c, (n.client c).isConnected = true → n.Settled c
  answers : ∀ c, ∀ b ∈ n.host.router.serverPipe c, isConnect κ b = true → n.Settled c
  requests : ∀ c, ∀ b ∈ (n.client c).clientPipe, isOfChannel κ b = true → n.Settled c

theorem inv_init (κ : RouteCodec) : Inv κ {} where
  opened := fun _ h => by cases h
  closed := fun _ h => by cases h
  connected := fun _ h => by cases h
  answers := fun _ _ h => by cases h
  requests := fun _ _ h => by cases h

/-- What a step may add to what is connected and in flight. -/
structure Moves (κ : RouteCodec) (n n' : Handshake) : Prop where
  settled : ∀ c, n.Settled c → n'.Settled c
  connected : ∀ c, (n'.client c).isConnected = true →
    (n.client c).isConnected = true ∨ n'.Settled c
  answers : ∀ c, ∀ b ∈ n'.host.router.serverPipe c, isConnect κ b = true →
    b ∈ n.host.router.serverPipe c ∨ n'.Settled c
  requests : ∀ c, ∀ b ∈ (n'.client c).clientPipe, isOfChannel κ b = true →
    b ∈ (n.client c).clientPipe ∨ n'.Settled c

theorem Inv.moved {κ : RouteCodec} {n n' : Handshake} (h : Inv κ n) (hm : Moves κ n n')
    (hopened : ∀ c, n'.host.clientIdToContext c = true → c ≤ n'.host.uniqueClientIdCounter)
    (hclosed : ∀ c, n'.disconnected c = true →
      n'.host.clientIdToContext c = false ∧ c ≤ n'.host.uniqueClientIdCounter) : Inv κ n' where
  opened := hopened
  closed := hclosed
  connected := by
    intro c hc
    rcases hm.connected c hc with hold | hnew
    · exact hm.settled c (h.connected c hold)
    · exact hnew
  answers := by
    intro c b hb hk
    rcases hm.answers c b hb hk with hold | hnew
    · exact hm.settled c (h.answers c b hold hk)
    · exact hnew
  requests := by
    intro c b hb hk
    rcases hm.requests c b hb hk with hold | hnew
    · exact hm.settled c (h.requests c b hold hk)
    · exact hnew

theorem client_setClient (n : Handshake) (c d : ClientId) (r : ClientRouter) :
    (n.setClient c r).client d = if d = c then r else n.client d := by
  by_cases hd : d = c <;> simp [setClient, hd]

theorem Inv.client_step {κ : RouteCodec} {n : Handshake} (h : Inv κ n) {c : ClientId}
    {a : ClientAction} {r : ClientRouter} (hs : (n.client c).step κ a = some r)
    (ha : ∀ payload order, a = .pipeMessage payload order → isConnect κ payload = true →
      n.Settled c) : Moves κ n (n.setClient c r) where
  settled := fun _ hd => hd
  connected := by
    intro d hd
    rw [client_setClient] at hd
    split at hd
    · next he =>
      subst he
      rcases ClientRouter.connected_step hs hd with hold | ⟨payload, order, hpayload, hk⟩
      · exact .inl hold
      · exact .inr (ha payload order hpayload hk)
    · exact .inl hd
  answers := fun _ _ hb _ => .inl hb
  requests := by
    intro d b hb hk
    rw [client_setClient] at hb
    split at hb
    · next he =>
      subst he
      rcases ClientRouter.posted_step hs hb with hold | hconnect | hc
      · exact .inl hold
      · rw [isConnect_of_isOfChannel hk] at hconnect
        cases hconnect
      · exact .inr (h.connected d hc)
    · exact .inl hb

theorem server_step {κ : RouteCodec} {n n' : Handshake} {a : ServerAction}
    (hs : n.host.router.step κ a = some n'.host.router)
    (hclient : ∀ d, (n'.client d).isConnected = (n.client d).isConnected ∧
      ∀ b ∈ (n'.client d).clientPipe, b ∈ (n.client d).clientPipe)
    (hd : ∀ d, n.disconnected d = true → n'.disconnected d = true)
    (ha : ∀ d order, a = .pipeDisconnected d order → n'.disconnected d = true) :
    Moves κ n n' where
  settled := by
    intro d hsettled
    rcases hsettled with hknows | hgone
    · by_cases hlost : ∃ order, a = .pipeDisconnected d order
      · obtain ⟨order, rfl⟩ := hlost
        exact .inr (ha d order rfl)
      · exact .inl (ServerRouter.knows_step hs hknows fun order he => hlost ⟨order, he⟩)
    · exact .inr (hd d hgone)
  connected := fun d hc => .inl ((hclient d).1 ▸ hc)
  answers := by
    intro d b hb hk
    rcases ServerRouter.posted_step hs hb with hold | hchannel | hknows
    · exact .inl hold
    · rw [isConnect_of_isOfChannel hchannel] at hk
      cases hk
    · exact .inr (.inl hknows)
  requests := fun d b hb _ => .inl ((hclient d).2 b hb)

theorem clientPipe_withPipe {r : ClientRouter} {message : Bytes} {rest : List Bytes}
    (hq : r.clientPipe = message :: rest) : ∀ b ∈ (r.withPipe rest).clientPipe,
    b ∈ r.clientPipe := by
  intro b hb
  rw [hq]
  exact List.mem_cons_of_mem _ hb

theorem Inv.host_step {κ : RouteCodec} {n : Handshake} (h : Inv κ n) {a : SocketServerAction}
    {b : ServerAction} {host : SocketServer} (hs : n.host.step κ a = some host)
    (hb : n.host.router.step κ b = some host.router)
    (hlost : ∀ d order, b ≠ .pipeDisconnected d order) : Inv κ { n with host := host } := by
  refine h.moved (server_step (a := b) hb (fun _ => ⟨rfl, fun _ hb => hb⟩) (fun _ hd => hd) ?_)
    ?_ ?_
  · intro d order he
    exact absurd he (hlost d order)
  · intro c hc
    obtain ⟨hle, hnew⟩ := SocketServer.context_step (c := c) hs
    rcases hnew hc with hold | ⟨_, hnew⟩
    · exact Nat.le_trans (h.opened c hold) hle
    · exact hnew
  · intro c hc
    obtain ⟨hclosed, hused⟩ := h.closed c hc
    obtain ⟨hle, hnew⟩ := SocketServer.context_step (c := c) hs
    refine ⟨?_, Nat.le_trans hused hle⟩
    by_contra hopen
    rcases hnew (by simpa using hopen) with hold | ⟨hlt, _⟩
    · rw [hclosed] at hold
      cases hold
    · exact Nat.not_lt.mpr hused hlt

theorem Inv.handleClientRequest {κ : RouteCodec} {n n' : Handshake} (h : Inv κ n) {c : ClientId}
    {outcome : Int32} (hs : n.handleClientRequest κ c outcome = some n') : Inv κ n' := by
  unfold Handshake.handleClientRequest at hs
  split at hs
  · cases hs
  · next message rest hq =>
    split at hs
    · obtain ⟨reply, hp, rfl⟩ := Option.map_eq_some_iff.mp hs
      have hstep := ServerRouter.step_eq_some.mpr ⟨reply, hp, rfl⟩
      refine h.moved (server_step (a := .pipeMessage c message outcome) hstep ?_
        (fun _ hd => hd) fun _ _ he => by cases he) h.opened h.closed
      intro d
      rw [client_setClient]
      split
      · next he =>
        subst he
        exact ⟨rfl, clientPipe_withPipe hq⟩
      · exact ⟨rfl, fun _ hb => hb⟩
    · cases hs

theorem Inv.closeConnection {κ : RouteCodec} {n n' : Handshake} (h : Inv κ n) {c : ClientId}
    {order : List GatewayId} (hs : n.closeConnection κ c order = some n') : Inv κ n' := by
  obtain ⟨host, hc, rfl⟩ := Option.map_eq_some_iff.mp hs
  unfold SocketServer.closeConnection at hc
  split at hc
  · next hopen =>
    obtain ⟨r, hr, rfl⟩ := Option.map_eq_some_iff.mp hc
    have hkeep : ∀ d, n.disconnected d = true →
        Function.update n.disconnected c true d = true := by
      intro d hd
      by_cases he : d = c
      · rw [he, Function.update_self]
      · rw [Function.update_of_ne he, hd]
    refine h.moved (server_step (a := .pipeDisconnected c order) hr
      (fun _ => ⟨rfl, fun _ hb => hb⟩) hkeep ?_) ?_ ?_
    · intro d _ he
      cases he
      exact Function.update_self ..
    · intro d hd
      by_cases he : d = c
      · subst he
        exact h.opened d hopen
      · simp only [Function.update_of_ne he] at hd
        exact h.opened d hd
    · intro d hd
      by_cases he : d = c
      · subst he
        exact ⟨Function.update_self .., h.opened d hopen⟩
      · simp only [Function.update_of_ne he] at hd ⊢
        exact h.closed d hd
  · cases hc

theorem Inv.handleReceive {κ : RouteCodec} {n n' : Handshake} (h : Inv κ n) {c : ClientId}
    {order : List GatewayId} (hs : n.handleReceive κ c order = some n') : Inv κ n' := by
  unfold Handshake.handleReceive at hs
  split at hs
  · cases hs
  · next message rest hq =>
    split at hs
    · obtain ⟨reply, hp, rfl⟩ := Option.map_eq_some_iff.mp hs
      have hstep := ClientRouter.step_eq_some.mpr ⟨reply, hp, rfl⟩
      have hm := h.client_step hstep fun payload _ he hk => by
        cases he
        exact h.answers c message (by rw [hq]; exact List.mem_cons_self) hk
      refine h.moved ⟨hm.settled, hm.connected, ?_, hm.requests⟩ h.opened h.closed
      intro d b hb _
      left
      by_cases he : d = c
      · subst he
        have hrest : b ∈ rest := by
          simpa [setClient, ServerRouter.serverPipe_withPipe] using hb
        rw [hq]
        exact List.mem_cons_of_mem _ hrest
      · simpa [setClient, ServerRouter.serverPipe_withPipe, he] using hb
    · cases hs

theorem Inv.handleDisconnect {κ : RouteCodec} {n n' : Handshake} (h : Inv κ n) {c : ClientId}
    {order : List GatewayId} (hs : n.handleDisconnect κ c order = some n') : Inv κ n' := by
  unfold Handshake.handleDisconnect at hs
  split at hs
  · obtain ⟨r, hr, rfl⟩ := Option.map_eq_some_iff.mp hs
    have hm := h.client_step hr fun _ _ he => by cases he
    exact h.moved ⟨hm.settled, hm.connected, hm.answers, hm.requests⟩ h.opened h.closed
  · cases hs

theorem Inv.step {κ : RouteCodec} {n n' : Handshake} {a : HandshakeAction} (h : Inv κ n)
    (hs : n.step κ a = some n') : Inv κ n' := by
  cases a with
  | client c a =>
    obtain ⟨hmay, hstep⟩ := Option.ite_none_right_eq_some.mp hs
    obtain ⟨r, hr, rfl⟩ := Option.map_eq_some_iff.mp hstep
    refine h.moved (h.client_step hr ?_) h.opened h.closed
    rintro payload order rfl
    cases hmay
  | server a =>
    obtain ⟨_, hstep⟩ := Option.ite_none_right_eq_some.mp hs
    obtain ⟨host, hhost, rfl⟩ := Option.map_eq_some_iff.mp hstep
    have hrouter := hhost
    simp only [SocketServer.step] at hrouter
    split at hrouter
    · cases hrouter
    · next hevent =>
      obtain ⟨r, hr, rfl⟩ := Option.map_eq_some_iff.mp hrouter
      refine h.host_step hhost hr ?_
      rintro d order rfl
      exact hevent rfl
  | handleAccept =>
    obtain ⟨_, hstep⟩ := Option.ite_none_right_eq_some.mp hs
    obtain ⟨host, hhost, rfl⟩ := Option.map_eq_some_iff.mp hstep
    have haccept := hhost
    simp only [SocketServer.step, SocketServer.handleAccept] at haccept
    split at haccept
    · obtain ⟨r, hr, rfl⟩ := Option.map_eq_some_iff.mp haccept
      exact h.host_step hhost hr fun _ _ he => by cases he
    · cases haccept
  | handleClientRequest c outcome =>
    exact h.handleClientRequest (Option.ite_none_right_eq_some.mp hs).2
  | closeConnection c order => exact h.closeConnection (Option.ite_none_right_eq_some.mp hs).2
  | handleReceive c order => exact h.handleReceive hs
  | handleDisconnect c order => exact h.handleDisconnect hs

theorem Reachable.inv {κ : RouteCodec} {n : Handshake} (h : Reachable κ n) : Inv κ n :=
  Runs.Reachable.invariant h (inv_init κ) fun hi hs => hi.step hs

/-- What the two ends can rely on. A client that believes to be connected is, as far as the
server has not lost it; its messages for channels are not dropped for want of an entry; and
one more request, or one more answer, changes nothing and tells no gateway anything. -/
structure Agreed (κ : RouteCodec) (n : Handshake) : Prop where
  connected : ∀ c, (n.client c).isConnected = true →
    n.host.router.knows c = true ∨ n.disconnected c = true
  taken : ∀ c outcome n' message rest, (n.client c).clientPipe = message :: rest →
    isOfChannel κ message = true → n.step κ (.handleClientRequest c outcome) = some n' →
      n.host.router.knows c = true
  requestedAgain : ∀ c outcome n' message rest, (n.client c).clientPipe = message :: rest →
    isConnect κ message = true → n.host.router.knows c = true →
    n.step κ (.handleClientRequest c outcome) = some n' →
      n'.host.router.clientIdToMapOfGateways = n.host.router.clientIdToMapOfGateways ∧
      n'.host.router.gateways = n.host.router.gateways ∧
      n'.host.router.remaining = n.host.router.remaining
  answeredAgain : ∀ c order n' message rest, n.host.router.serverPipe c = message :: rest →
    isConnect κ message = true → (n.client c).isConnected = true →
    n.step κ (.handleReceive c order) = some n' → n'.client c = n.client c

theorem deserialize_of_isConnect {κ : RouteCodec} {message : Bytes}
    (h : isConnect κ message = true) : ∃ conn, κ.deserialize message = some (.connect conn) := by
  unfold isConnect at h
  split at h
  · next conn hd => exact ⟨conn, hd⟩
  · cases h

theorem both_ends_agree {κ : RouteCodec} {n : Handshake} (h : Reachable κ n) : Agreed κ n where
  connected := h.inv.connected
  taken := by
    intro c outcome n' message rest hq hk hs
    obtain ⟨_, hstep⟩ := Option.ite_none_right_eq_some.mp hs
    rcases h.inv.requests c message (by rw [hq]; exact List.mem_cons_self) hk with hknows | hgone
    · exact hknows
    · have hclosed := (h.inv.closed c hgone).1
      simp [Handshake.handleClientRequest, hq, hclosed] at hstep
  requestedAgain := by
    intro c outcome n' message rest hq hk hknows hs
    obtain ⟨conn, hd⟩ := deserialize_of_isConnect hk
    obtain ⟨_, hstep⟩ := Option.ite_none_right_eq_some.mp hs
    simp only [Handshake.handleClientRequest, hq] at hstep
    obtain ⟨_, hstep⟩ := Option.ite_none_right_eq_some.mp hstep
    obtain ⟨reply, hp, rfl⟩ := Option.map_eq_some_iff.mp hstep
    obtain ⟨_, hp⟩ := Option.ite_none_right_eq_some.mp hp
    simp only [ServerRouter.handlePipeMessage, hd, Option.some.injEq] at hp
    obtain ⟨pipe, hagain⟩ := ServerRouter.handleRouteConnect_again hknows outcome
    rw [hagain] at hp
    subst hp
    exact ⟨rfl, rfl, rfl⟩
  answeredAgain := by
    intro c order n' message rest hq hk hc hs
    obtain ⟨conn, hd⟩ := deserialize_of_isConnect hk
    simp only [Handshake.step, Handshake.handleReceive, hq] at hs
    obtain ⟨_, hstep⟩ := Option.ite_none_right_eq_some.mp hs
    obtain ⟨reply, hp, rfl⟩ := Option.map_eq_some_iff.mp hstep
    obtain ⟨_, hp⟩ := Option.ite_none_right_eq_some.mp hp
    simp only [ClientRouter.handlePipeMessage, hd, ClientRouter.handleRouteConnect_again hc,
      Option.some.injEq] at hp
    subst hp
    exact (client_setClient _ c c _).trans (if_pos rfl)

/-- The first request is granted and its answer read; the answer to the second is lost, and
the connection with it. -/
def askedTwice : List HandshakeAction :=
  [.client 1 (.pipeConnected 0), .handleAccept, .handleClientRequest 1 0, .handleReceive 1 [],
    .client 1 (.pipeConnected 0), .handleClientRequest 1 32, .closeConnection 1 []]

def lostAnswer : Handshake := (Runs.run (step cyphalCodec) {} askedTwice).getD {}

theorem lostAnswer_reachable : Reachable cyphalCodec lostAnswer :=
  Runs.Reachable.getD (by decide +kernel)

theorem both_ends_agree_lost : (lostAnswer.client 1).isConnected = true ∧
    (lostAnswer.host.router.knows 1 = true ∨ lostAnswer.disconnected 1 = true) := by
  have hc : (lostAnswer.client 1).isConnected = true := by decide +kernel
  exact ⟨hc, (both_ends_agree lostAnswer_reachable).connected 1 hc⟩

end Handshake

end Ocvsmd.Ipc
