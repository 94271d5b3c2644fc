import Ocvsmd.FrameSend
import Ocvsmd.FrameStream
import Ocvsmd.PipeFrame

/-!
The routers on stream sockets: each client has a connection, on which a router sends by
`SocketBase::send`. A connection stays up as long as no call of `receiveMessage` and no
handler of a message returns an error, and each `::send` takes all that it is given.
-/

set_option autoImplicit false

namespace Ocvsmd.Ipc

open SocketBase (State Message Pending SendCall MsgMaxSize accept frame receiveMessage
  streamOf)

def routeMaxSize : Nat := 37

theorem route_fits : ([] : Bytes).length + routeMaxSize ≤ MsgMaxSize := by decide

theorem Route.serialize_size (r : Route) :
    1 ≤ r.serialize.length ∧ r.serialize.length ≤ routeMaxSize := by
  cases r <;> simp [Route.serialize, delimited, RouteConnect.body, RouteChannelMsg.body,
    RouteChannelEnd.body, routeMaxSize]

/-- One direction of a connection: the bytes that were written and not read yet, and where
the reader stands. -/
structure Line where
  unread : Bytes := []
  state : State := {}

/-- How the messages of a step are handed to `SocketBase::send`: the fragments that each one
lies in, and the answers of `::send`, which takes all of a buffer or is interrupted. -/
structure Sending where
  call : Bytes → SendCall
  whole : ∀ message, (call message).payloads.flatten = message
  taken : ∀ message, SocketBase.AllTaken (call message).buffers (call message).answers

namespace Line

def send (l : Line) (w : Sending) (messages : List Bytes) : Line :=
  { l with unread := l.unread ++ SocketBase.stream (messages.map w.call) }

/-- The calls leave one frame for each message on the stream. -/
theorem send_eq (l : Line) (w : Sending) (messages : List Message) :
    l.send w (messages.map (·.bytes)) = { l with unread := l.unread ++ streamOf messages } := by
  have hframes : ∀ m ∈ messages, (w.call m.bytes).sent.written = frame [m.bytes] := by
    intro m _
    rw [SendCall.sent_allTaken (w.taken m.bytes)]
    simp [frame, SocketBase.totalSize, w.whole]
  simp only [send, SocketBase.stream, List.flatMap_map, streamOf]
  rw [List.flatMap_congr hframes]

def receive (l : Line) (answers : List (Syscall Nat)) : SocketBase.Received :=
  receiveMessage accept l.state ⟨l.unread, answers, false⟩

def after (r : SocketBase.Received) : Line := ⟨r.socket.unread, r.state⟩

end Line

structure SocketNetwork where
  server : ServerRouter := {}
  client : ClientId → ClientRouter := fun _ => {}
  up : ClientId → Line := fun _ => {}
  down : ClientId → Line := fun _ => {}

inductive SocketAction where
  | client : ClientId → ClientAction → Sending → SocketAction
  | server : ServerAction → Sending → SocketAction
  | serverReceives : ClientId → List (Syscall Nat) → Sending → SocketAction
  | clientReceives : ClientId → List (Syscall Nat) → List GatewayId → Sending → SocketAction

namespace SocketNetwork

def setClient (s : SocketNetwork) (c : ClientId) (r : ClientRouter) (w : Sending) :
    SocketNetwork :=
  { s with
    client := Function.update s.client c (r.withPipe [])
    up := Function.update s.up c ((s.up c).send w r.clientPipe) }

def setServer (s : SocketNetwork) (r : ServerRouter) (w : Sending) : SocketNetwork :=
  { s with
    server := { r with serverPipe := fun _ => [] }
    down := fun c => (s.down c).send w (r.serverPipe c) }

def setUp (s : SocketNetwork) (c : ClientId) (l : Line) : SocketNetwork :=
  { s with up := Function.update s.up c l }

def setDown (s : SocketNetwork) (c : ClientId) (l : Line) : SocketNetwork :=
  { s with down := Function.update s.down c l }

/-- The context of a client has something to read. An error closes the connection. -/
def serverReceives (s : SocketNetwork) (c : ClientId) (answers : List (Syscall Nat))
    (w : Sending) : Option SocketNetwork :=
  let r := (s.up c).receive answers
  if r.code ≠ 0 then none
  else
    match r.payload with
    | none => some (s.setUp c (.after r))
    | some message =>
      (s.server.perform cyphalCodec (.pipeMessage c message 0)).bind fun reply =>
        if reply.code = 0 then some ((s.setUp c (.after r)).setServer reply.router w) else none

def clientReceives (s : SocketNetwork) (c : ClientId) (answers : List (Syscall Nat))
    (order : List GatewayId) (w : Sending) : Option SocketNetwork :=
  let r := (s.down c).receive answers
  if r.code ≠ 0 then none
  else
    match r.payload with
    | none => some (s.setDown c (.after r))
    | some message =>
      ((s.client c).perform cyphalCodec (.pipeMessage message order)).bind fun reply =>
        if reply.code = 0 then some ((s.setDown c (.after r)).setClient c reply.router w)
        else none

/-- The messages that are sent are no longer than a receiver takes them. -/
def step (s : SocketNetwork) : SocketAction → Option SocketNetwork
  | .client c a w =>
    if (s.client c).ownAction a ∧ a.payload.length + routeMaxSize ≤ MsgMaxSize then
      ((s.client c).step cyphalCodec a).map fun r => s.setClient c r w
    else none
  | .server a w =>
    if s.server.ownAction a ∧ a.payload.length + routeMaxSize ≤ MsgMaxSize then
      (s.server.step cyphalCodec a).map fun r => s.setServer r w
    else none
  | .serverReceives c answers w => s.serverReceives c answers w
  | .clientReceives c answers order w => s.clientReceives c answers order w

def Reachable (s : SocketNetwork) : Prop := Runs.Reachable step {} s

/-- The network of queues that has the same routers, and whose queues hold what the
receivers are still to deliver. -/
def shown (s : SocketNetwork) (ups downs : ClientId → List Message) : Network where
  server := s.server.behind fun c => (downs c).map (·.bytes)
  client := fun c => (s.client c).behind ((ups c).map (·.bytes))

structure Shows (s : SocketNetwork) (ups downs : ClientId → List Message) : Prop where
  clientPipe : ∀ c, (s.client c).clientPipe = []
  serverPipe : ∀ c, s.server.serverPipe c = []
  up : ∀ c, Pending (s.up c).state (ups c) (s.up c).unread
  down : ∀ c, Pending (s.down c).state (downs c) (s.down c).unread

theorem shows_init : Shows {} (fun _ => []) (fun _ => []) where
  clientPipe := fun _ => rfl
  serverPipe := fun _ => rfl
  up := fun _ => SocketBase.pending_init
  down := fun _ => SocketBase.pending_init

theorem shown_init : shown {} (fun _ => []) (fun _ => []) = {} := rfl

theorem exists_messages {queue : List Bytes} {payload : Bytes}
    (hfit : payload.length + routeMaxSize ≤ MsgMaxSize)
    (h : ∀ b ∈ queue, ∃ route : Route,
      b = route.serialize ++ payload ∨ b = route.serialize) :
    ∃ messages : List Message, messages.map (·.bytes) = queue := by
  have hsize : ∀ b ∈ queue, 1 ≤ b.length ∧ b.length ≤ MsgMaxSize := by
    intro b hb
    obtain ⟨route, hroute⟩ := h b hb
    obtain ⟨hlow, hhigh⟩ := route.serialize_size
    rcases hroute with rfl | rfl
    · rw [List.length_append]
      omega
    · omega
  refine ⟨queue.attach.map fun b => ⟨b.1, (hsize b.1 b.2).1, (hsize b.1 b.2).2⟩, ?_⟩
  rw [List.map_map]
  exact queue.attach_map_subtype_val

theorem pending_send {l : Line} {messages : List Message} (h : Pending l.state messages l.unread)
    (w : Sending) (more : List Message) :
    Pending (l.send w (more.map (·.bytes))).state (messages ++ more)
      (l.send w (more.map (·.bytes))).unread := by
  rw [l.send_eq w more]
  exact h.write more

theorem Shows.setClient {s : SocketNetwork} {ups downs : ClientId → List Message}
    (h : Shows s ups downs) (c : ClientId) {r : ClientRouter} {more : List Message}
    (hm : more.map (·.bytes) = r.clientPipe) (w : Sending) :
    Shows (s.setClient c r w) (Function.update ups c (ups c ++ more)) downs ∧
    shown (s.setClient c r w) (Function.update ups c (ups c ++ more)) downs =
      (shown s ups downs).setClient c (r.behind ((ups c).map (·.bytes))) := by
  constructor
  · refine ⟨fun c' => ?_, h.serverPipe, fun c' => ?_, h.down⟩
    · by_cases hc : c' = c
      · subst hc
        simp [SocketNetwork.setClient, ClientRouter.withPipe]
      · simpa [SocketNetwork.setClient, hc] using h.clientPipe c'
    · by_cases hc : c' = c
      · subst hc
        simpa [SocketNetwork.setClient, ← hm] using pending_send (h.up c') w more
      · simpa [SocketNetwork.setClient, hc] using h.up c'
  · have hclient :
        (shown (s.setClient c r w) (Function.update ups c (ups c ++ more)) downs).client =
        Function.update (shown s ups downs).client c (r.behind ((ups c).map (·.bytes))) := by
      funext c'
      by_cases hc : c' = c
      · subst hc
        simp [shown, SocketNetwork.setClient, ClientRouter.behind, ClientRouter.withPipe, hm]
      · simp [shown, SocketNetwork.setClient, hc]
    exact congrArg (Network.mk _) hclient

theorem Shows.setServer {s : SocketNetwork} {ups downs more : ClientId → List Message}
    (h : Shows s ups downs) {r : ServerRouter}
    (hm : ∀ c, (more c).map (·.bytes) = r.serverPipe c) (w : Sending) :
    Shows (s.setServer r w) ups (fun c => downs c ++ more c) ∧
    shown (s.setServer r w) ups (fun c => downs c ++ more c) =
      { shown s ups downs with server := r.behind fun c => (downs c).map (·.bytes) } := by
  constructor
  · refine ⟨h.clientPipe, fun _ => rfl, h.up, fun c => ?_⟩
    simpa [SocketNetwork.setServer, ← hm c] using pending_send (h.down c) w (more c)
  · simp [shown, SocketNetwork.setServer, ServerRouter.behind, hm]

theorem Shows.setUp {s : SocketNetwork} {ups downs : ClientId → List Message}
    (h : Shows s ups downs) (c : ClientId) {l : Line} {messages : List Message}
    (hp : Pending l.state messages l.unread) :
    Shows (s.setUp c l) (Function.update ups c messages) downs := by
  refine ⟨h.clientPipe, h.serverPipe, fun c' => ?_, h.down⟩
  by_cases hc : c' = c
  · subst hc
    simpa [SocketNetwork.setUp] using hp
  · simpa [SocketNetwork.setUp, hc] using h.up c'

theorem Shows.setDown {s : SocketNetwork} {ups downs : ClientId → List Message}
    (h : Shows s ups downs) (c : ClientId) {l : Line} {messages : List Message}
    (hp : Pending l.state messages l.unread) :
    Shows (s.setDown c l) ups (Function.update downs c messages) := by
  refine ⟨h.clientPipe, h.serverPipe, h.up, fun c' => ?_⟩
  by_cases hc : c' = c
  · subst hc
    simpa [SocketNetwork.setDown] using hp
  · simpa [SocketNetwork.setDown, hc] using h.down c'

theorem Shows.posted_client {s : SocketNetwork} {ups downs : ClientId → List Message}
    (h : Shows s ups downs) {c : ClientId} {a : ClientAction} {r : ClientRouter}
    (hfit : a.payload.length + routeMaxSize ≤ MsgMaxSize)
    (hs : (s.client c).step cyphalCodec a = some r) :
    ∃ more : List Message, more.map (·.bytes) = r.clientPipe := by
  refine exists_messages hfit fun b hb => ?_
  rcases ClientRouter.posted hs hb with hold | hnew
  · rw [h.clientPipe c] at hold
    cases hold
  · exact hnew

theorem Shows.posted_server {s : SocketNetwork} {ups downs : ClientId → List Message}
    (h : Shows s ups downs) {a : ServerAction} {r : ServerRouter}
    (hfit : a.payload.length + routeMaxSize ≤ MsgMaxSize)
    (hs : s.server.step cyphalCodec a = some r) :
    ∃ more : ClientId → List Message, ∀ c, (more c).map (·.bytes) = r.serverPipe c := by
  refine Classical.skolem.mp fun c => exists_messages hfit fun b hb => ?_
  rcases ServerRouter.posted hs hb with hold | hnew
  · rw [h.serverPipe c] at hold
    cases hold
  · exact hnew

/-- What the network of queues does meanwhile. -/
def Follows (s' : SocketNetwork) (n : Network) : Prop :=
  ∃ ups downs, Shows s' ups downs ∧
    (shown s' ups downs = n ∨ ∃ a, n.step cyphalCodec a = some (shown s' ups downs))

theorem Shows.client_step {s s' : SocketNetwork} {ups downs : ClientId → List Message}
    (h : Shows s ups downs) {c : ClientId} {a : ClientAction} {w : Sending}
    (hs : s.step (.client c a w) = some s') : s'.Follows (shown s ups downs) := by
  obtain ⟨⟨hown, hfit⟩, hstep⟩ := Option.ite_none_right_eq_some.mp hs
  obtain ⟨r, hr, rfl⟩ := Option.map_eq_some_iff.mp hstep
  obtain ⟨more, hm⟩ := h.posted_client hfit hr
  obtain ⟨hshows, heq⟩ := h.setClient c hm w
  refine ⟨_, downs, hshows, Or.inr ⟨.client c a, ?_⟩⟩
  have hown' : ((shown s ups downs).client c).ownAction a = true := hown
  have hstep' : ((shown s ups downs).client c).step cyphalCodec a =
      some (r.behind ((ups c).map (·.bytes))) := by
    simp only [shown, ClientRouter.behind_step, hr, Option.map_some]
  simp only [Network.step, hown', if_true, hstep', Option.map_some, heq]

theorem Shows.server_step {s s' : SocketNetwork} {ups downs : ClientId → List Message}
    (h : Shows s ups downs) {a : ServerAction} {w : Sending}
    (hs : s.step (.server a w) = some s') :
    s'.Follows (shown s ups downs) := by
  obtain ⟨⟨hown, hfit⟩, hstep⟩ := Option.ite_none_right_eq_some.mp hs
  obtain ⟨r, hr, rfl⟩ := Option.map_eq_some_iff.mp hstep
  obtain ⟨more, hm⟩ := h.posted_server hfit hr
  obtain ⟨hshows, heq⟩ := h.setServer hm w
  refine ⟨ups, _, hshows, Or.inr ⟨.server a, ?_⟩⟩
  have hown' : (shown s ups downs).server.ownAction a = true := hown
  have hstep' : (shown s ups downs).server.step cyphalCodec a =
      some (r.behind fun c => (downs c).map (·.bytes)) := by
    simp only [shown, ServerRouter.behind_step, hr, Option.map_some]
  simp only [Network.step, hown', if_true, hstep', Option.map_some, heq]

theorem Shows.serverReceives {s s' : SocketNetwork} {ups downs : ClientId → List Message}
    (h : Shows s ups downs) {c : ClientId} {answers : List (Syscall Nat)} {w : Sending}
    (hs : s.serverReceives c answers w = some s') : s'.Follows (shown s ups downs) := by
  unfold SocketNetwork.serverReceives at hs
  simp only at hs
  split at hs
  · cases hs
  · next hcode =>
    have hin := (h.up c).receive (k := ⟨_, answers, false⟩) rfl (not_not.mp hcode)
    change SocketBase.InStep _ ((s.up c).receive answers) at hin
    rcases hin with ⟨hnone, hp⟩ | ⟨m, rest, hcons, hsome, hp⟩
    · rw [hnone] at hs
      cases hs
      refine ⟨_, downs, h.setUp c (l := .after _) hp, Or.inl ?_⟩
      rw [Function.update_eq_self]
      rfl
    · rw [hsome] at hs
      obtain ⟨reply, hperf, hreply⟩ := Option.bind_eq_some_iff.mp hs
      obtain ⟨_, hs'⟩ := Option.ite_none_right_eq_some.mp hreply
      cases hs'
      have hstep : s.server.step cyphalCodec (.pipeMessage c m.bytes 0) = some reply.router := by
        simp [ServerRouter.step, hperf]
      obtain ⟨more, hm⟩ := h.posted_server (a := .pipeMessage c m.bytes 0) route_fits hstep
      obtain ⟨hshows, heq⟩ := (h.setUp c (l := .after _) hp).setServer hm w
      refine ⟨_, _, hshows, Or.inr ⟨.toServer c, ?_⟩⟩
      have hqueue : ((shown s ups downs).client c).clientPipe =
          m.bytes :: rest.map (·.bytes) := by
        simp [shown, ClientRouter.behind, ClientRouter.withPipe, hcons, h.clientPipe c]
      have hstep' : (shown s ups downs).server.step cyphalCodec (.pipeMessage c m.bytes 0) =
          some (reply.router.behind fun c => (downs c).map (·.bytes)) := by
        simp only [shown, ServerRouter.behind_step, hstep, Option.map_some]
      have hclient : (shown (s.setUp c (.after ((s.up c).receive answers)))
          (Function.update ups c rest) downs).client = Function.update (shown s ups downs).client c
            (((shown s ups downs).client c).withPipe (rest.map (·.bytes))) := by
        funext c'
        by_cases hc : c' = c
        · subst hc
          simp [shown, SocketNetwork.setUp, ClientRouter.behind, ClientRouter.withPipe,
            h.clientPipe c']
        · simp [shown, SocketNetwork.setUp, hc]
      rw [heq]
      simp only [Network.step, Network.toServer, hqueue, hstep', Option.map_some]
      exact congrArg (fun f => some (Network.mk _ f)) hclient.symm

theorem Shows.clientReceives {s s' : SocketNetwork} {ups downs : ClientId → List Message}
    (h : Shows s ups downs) {c : ClientId} {answers : List (Syscall Nat)}
    {order : List GatewayId} {w : Sending} (hs : s.clientReceives c answers order w = some s') :
    s'.Follows (shown s ups downs) := by
  unfold SocketNetwork.clientReceives at hs
  simp only at hs
  split at hs
  · cases hs
  · next hcode =>
    have hin := (h.down c).receive (k := ⟨_, answers, false⟩) rfl (not_not.mp hcode)
    change SocketBase.InStep _ ((s.down c).receive answers) at hin
    rcases hin with ⟨hnone, hp⟩ | ⟨m, rest, hcons, hsome, hp⟩
    · rw [hnone] at hs
      cases hs
      refine ⟨ups, _, h.setDown c (l := .after _) hp, Or.inl ?_⟩
      rw [Function.update_eq_self]
      rfl
    · rw [hsome] at hs
      obtain ⟨reply, hperf, hreply⟩ := Option.bind_eq_some_iff.mp hs
      obtain ⟨_, hs'⟩ := Option.ite_none_right_eq_some.mp hreply
      cases hs'
      have hstep : (s.client c).step cyphalCodec (.pipeMessage m.bytes order) =
          some reply.router := by
        simp [ClientRouter.step, hperf]
      obtain ⟨more, hm⟩ := h.posted_client (a := .pipeMessage m.bytes order) route_fits hstep
      obtain ⟨hshows, heq⟩ := (h.setDown c (l := .after _) hp).setClient c hm w
      refine ⟨_, _, hshows, Or.inr ⟨.toClient c order, ?_⟩⟩
      have hqueue : (shown s ups downs).server.serverPipe c = m.bytes :: rest.map (·.bytes) := by
        simp [shown, ServerRouter.behind, hcons, h.serverPipe c]
      have hstep' : ((shown s ups downs).client c).step cyphalCodec (.pipeMessage m.bytes order) =
          some (reply.router.behind ((ups c).map (·.bytes))) := by
        simp only [shown, ClientRouter.behind_step, hstep, Option.map_some]
      have hserver : (shown (s.setDown c (.after ((s.down c).receive answers))) ups
          (Function.update downs c rest)).server =
            (shown s ups downs).server.withPipe c (rest.map (·.bytes)) := by
        have hpipe : (fun c' => (Function.update downs c rest c').map (·.bytes) ++
            s.server.serverPipe c') = Function.update
              (fun c' => (downs c').map (·.bytes) ++ s.server.serverPipe c') c
              (rest.map (·.bytes)) := by
          funext c'
          by_cases hc : c' = c
          · subst hc
            simp [h.serverPipe c']
          · simp [hc]
        simp only [shown, SocketNetwork.setDown, ServerRouter.behind, ServerRouter.withPipe, hpipe]
      rw [heq]
      simp only [Network.step, Network.toClient, hqueue, hstep', Option.map_some]
      exact congrArg (fun r => some ((Network.mk r _).setClient c _)) hserver.symm

theorem Shows.step {s s' : SocketNetwork} {ups downs : ClientId → List Message}
    {a : SocketAction} (h : Shows s ups downs) (hs : s.step a = some s') :
    s'.Follows (shown s ups downs) := by
  cases a with
  | client c a w => exact h.client_step hs
  | server a w => exact h.server_step hs
  | serverReceives c answers w => exact h.serverReceives hs
  | clientReceives c answers order w => exact h.clientReceives hs

theorem simulates : Runs.Simulates step (Network.step cyphalCodec)
    fun s n => ∃ ups downs, Shows s ups downs ∧ shown s ups downs = n := by
  rintro s _ a s' ⟨ups, downs, h, rfl⟩ hs
  obtain ⟨ups', downs', h', hstep⟩ := h.step hs
  exact ⟨_, ⟨ups', downs', h', rfl⟩, hstep⟩

theorem Reachable.shows {s : SocketNetwork} (h : Reachable s) :
    ∃ ups downs, Shows s ups downs ∧ Network.Reachable cyphalCodec (shown s ups downs) := by
  obtain ⟨_, hn, ups, downs, hshows, rfl⟩ :=
    simulates.reachable ⟨_, _, shows_init, shown_init⟩ h
  exact ⟨ups, downs, hshows, hn⟩

def ServerCanTake (s : SocketNetwork) (c : ClientId) (message : Bytes) : Prop :=
  ∃ answers reply, ((s.up c).receive answers).code = 0 ∧
    ((s.up c).receive answers).payload = some message ∧
    s.server.perform cyphalCodec (.pipeMessage c message 0) = some reply

def ClientCanTake (s : SocketNetwork) (c : ClientId) (message : Bytes) : Prop :=
  ∃ answers order reply, ((s.down c).receive answers).code = 0 ∧
    ((s.down c).receive answers).payload = some message ∧
    (s.client c).perform cyphalCodec (.pipeMessage message order) = some reply

theorem Shows.server_can_take {s : SocketNetwork} {ups downs : ClientId → List Message}
    (h : Shows s ups downs) (hi : Network.Inv cyphalCodec (shown s ups downs)) {c : ClientId}
    {m : Message} {rest : List Message} (hcons : ups c = m :: rest) :
    s.ServerCanTake c m.bytes := by
  have hp := h.up c
  rw [hcons] at hp
  obtain ⟨answers, hcode, hpayload⟩ := hp.delivers
  have hqueue : ((shown s ups downs).client c).clientPipe = m.bytes :: rest.map (·.bytes) := by
    simp [shown, ClientRouter.behind, ClientRouter.withPipe, hcons, h.clientPipe c]
  obtain ⟨n', hn, _⟩ := hi.toServer hqueue
  simp only [Network.toServer, hqueue] at hn
  obtain ⟨r, hr, _⟩ := Option.map_eq_some_iff.mp hn
  simp only [shown, ServerRouter.behind_step] at hr
  obtain ⟨r', hr', _⟩ := Option.map_eq_some_iff.mp hr
  obtain ⟨reply, hreply, _⟩ := ServerRouter.step_eq_some.mp hr'
  exact ⟨answers, reply, hcode, hpayload, hreply⟩

theorem Shows.client_can_take {s : SocketNetwork} {ups downs : ClientId → List Message}
    (h : Shows s ups downs) (hn : Network.Inv cyphalCodec (shown s ups downs)) {c : ClientId}
    {m : Message} {rest : List Message} (hcons : downs c = m :: rest)
    (hidle : (s.client c).idle = true) : s.ClientCanTake c m.bytes := by
  have hp := h.down c
  rw [hcons] at hp
  obtain ⟨answers, hcode, hpayload⟩ := hp.delivers
  have hqueue : (shown s ups downs).server.serverPipe c = m.bytes :: rest.map (·.bytes) := by
    simp [shown, ServerRouter.behind, hcons, h.serverPipe c]
  have hperm := List.Perm.refl (s.client c).mapOfGateways.ids
  obtain ⟨n', hn, _⟩ := hn.toClient hqueue hidle hperm
  simp only [Network.toClient, hqueue] at hn
  obtain ⟨r, hr, _⟩ := Option.map_eq_some_iff.mp hn
  simp only [shown, ClientRouter.behind_step] at hr
  obtain ⟨r', hr', _⟩ := Option.map_eq_some_iff.mp hr
  obtain ⟨reply, hreply, _⟩ := ClientRouter.step_eq_some.mp hr'
  exact ⟨answers, _, reply, hcode, hpayload, hreply⟩

/-- The routers cannot tell whether there are sockets or queues between them, and what
such a queue holds can be read from the socket, the oldest message first. -/
theorem sockets_refine_queues {s : SocketNetwork} (h : Reachable s) :
    ∃ ups downs, Shows s ups downs ∧ Network.Reachable cyphalCodec (shown s ups downs) ∧
      (∀ c m rest, ups c = m :: rest → s.ServerCanTake c m.bytes) ∧
      (∀ c m rest, downs c = m :: rest → (s.client c).idle = true →
        s.ClientCanTake c m.bytes) := by
  obtain ⟨ups, downs, hshows, hn⟩ := h.shows
  exact ⟨ups, downs, hshows, hn, fun _ _ _ hcons => hshows.server_can_take hn.inv hcons,
    fun _ _ _ hcons hidle => hshows.client_can_take hn.inv hcons hidle⟩

def interrupted : Sending where
  call := fun message => ⟨[message], [.error .EINTR, .done .all, .done .all]⟩
  whole := fun message => by simp
  taken := fun message => by
    simp [SendCall.buffers, SocketBase.AllTaken, posixSyscallError, SocketBase.Taken.of]

def twoFragments : Sending where
  call := fun message => ⟨[message.take routeMaxSize, message.drop routeMaxSize],
    [.done .all, .done .all, .error .EINTR, .done .all]⟩
  whole := fun message => by simp
  taken := fun message => by
    simp [SendCall.buffers, SocketBase.AllTaken, posixSyscallError, SocketBase.Taken.of]

def greeted : List SocketAction :=
  [.client 0 (.pipeConnected 0) interrupted,
   .serverReceives 0 [.done 7, .error .EINTR, .done 63] interrupted,
   .clientReceives 0 [.done 7] [] interrupted, .clientReceives 0 [.done 63] [] interrupted,
   .server (.registerChannelFactory 7 fun _ => true) interrupted,
   .client 0 .makeGateway interrupted, .client 0 (.send 0 7 [1, 2] 0) twoFragments,
   .serverReceives 0 [.error .EAGAIN] interrupted,
   .serverReceives 0 [.done 7, .done 63] interrupted,
   .server (.send 0 7 [3] 0) twoFragments,
   .clientReceives 0 [.done 7, .done 63] [0] interrupted]

def sample : SocketNetwork := (Runs.run step {} greeted).getD {}

theorem sample_reachable : Reachable sample := Runs.Reachable.getD (by decide +kernel)

theorem sockets_refine_queues_sample :
    ∃ ups downs, Shows sample ups downs ∧
      Network.Reachable cyphalCodec (shown sample ups downs) ∧
      (∀ c m rest, ups c = m :: rest → sample.ServerCanTake c m.bytes) ∧
      (∀ c m rest, downs c = m :: rest → (sample.client c).idle = true →
        sample.ClientCanTake c m.bytes) :=
  sockets_refine_queues sample_reachable

/-- A channel whose two gateways have each other's items, all of them and no others. -/
def Matched (s : SocketNetwork) (c : ClientId) (t : Tag) : Prop :=
  ∃ (i j : GatewayId) (gc : GatewayImpl Tag) (gs : GatewayImpl Endpoint),
    (s.client c).lookup t = some i ∧ (s.client c).gateways[i]? = some gc ∧
    s.server.lookup ⟨t, c⟩ = some j ∧ s.server.gateways[j]? = some gs ∧
    gs.got = gc.sent ∧ gc.got = gs.sent

theorem Shows.matched {s : SocketNetwork} {ups downs : ClientId → List Message}
    (h : Shows s ups downs) (hi : Network.Inv cyphalCodec (shown s ups downs)) {c : ClientId}
    (hup : ups c = []) (hdown : downs c = []) {t : Tag}
    (hreg : s.server.isRegisteredGateway ⟨t, c⟩ = true) : s.Matched c t := by
  have hlive := hi.live_callee (c := c) (t := t) hreg
  have hu : ((shown s ups downs).view cyphalCodec c t).up = [] := by
    simp [Network.view, ClientRouter.up, shown, ClientRouter.behind, ClientRouter.withPipe, hup,
      h.clientPipe c]
  have hd : ((shown s ups downs).view cyphalCodec c t).down = [] := by
    simp [Network.view, ServerRouter.down, shown, ServerRouter.behind, hdown, h.serverPipe c]
  obtain ⟨hcaller, hgot, hgot'⟩ := (hi.session c t).at_rest hu hd hlive
  obtain ⟨i, gc, hli, hgi, rfl, _⟩ := hi.live_caller hcaller
  obtain ⟨j, hlj⟩ := Option.isSome_iff_exists.mp hreg
  obtain ⟨gs, hgj, he, _⟩ := hi.server.wf.registry _ _ hlj
  have hview := Network.view_callee hi hgj
  rw [he] at hview
  rw [Network.view_caller hi hgi, hview] at hgot hgot'
  exact ⟨i, j, gc, gs, hli, hgi, hlj, hgj, hgot, hgot'⟩

/-- Nothing is lost and nothing is made up: once all that was written is read, whatever
channel the server has of a client is open on both sides, and either side has been handed
exactly what the other one sent. -/
theorem all_delivered_at_rest {s : SocketNetwork} (h : Reachable s) {c : ClientId}
    (hup : (s.up c).unread = []) (hdown : (s.down c).unread = []) (t : Tag)
    (hreg : s.server.isRegisteredGateway ⟨t, c⟩ = true) : s.Matched c t := by
  obtain ⟨ups, downs, hshows, hn⟩ := h.shows
  obtain ⟨_, hu⟩ := hshows.up c
  obtain ⟨_, hd⟩ := hshows.down c
  rw [hup] at hu
  rw [hdown] at hd
  exact hshows.matched hn.inv hu.nothing_left hd.nothing_left hreg

theorem all_delivered_at_rest_sample :
    sample.server.isRegisteredGateway ⟨0, 0⟩ = true ∧ sample.Matched 0 0 :=
  ⟨by decide +kernel, all_delivered_at_rest sample_reachable (by decide +kernel)
    (by decide +kernel) 0 (by decide +kernel)⟩

end SocketNetwork

end Ocvsmd.Ipc
