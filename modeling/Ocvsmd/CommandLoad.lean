import Mathlib.Algebra.BigOperators.Group.Finset.Basic
import Mathlib.Algebra.Order.BigOperators.Group.Finset
import Ocvsmd.CommandNetwork
import Ocvsmd.OneEnding
import Ocvsmd.PipeFrame

set_option autoImplicit false

namespace Ocvsmd.Ipc

namespace ServerRouter

theorem serverPipe_pipeSend (r : ServerRouter) (c : ClientId) (message : Bytes)
    (outcome : Int32) :
    (r.pipeSend c message outcome).serverPipe = r.serverPipe ∨
    (r.pipeSend c message outcome).serverPipe =
      Function.update r.serverPipe c (r.serverPipe c ++ [message]) := by
  unfold pipeSend
  split
  · exact .inr rfl
  · exact .inl rfl

def Posts (P : ClientId → Bytes → Prop) (r r' : ServerRouter) : Prop :=
  r'.serverPipe = r.serverPipe ∨ ∃ c message, P c message ∧
    r'.serverPipe = Function.update r.serverPipe c (r.serverPipe c ++ [message])

theorem Posts.pipeSend {P : ClientId → Bytes → Prop} {r m : ServerRouter} {c : ClientId}
    {message : Bytes} (h : m.serverPipe = r.serverPipe) (hP : P c message) (outcome : Int32) :
    Posts P r (m.pipeSend c message outcome) := by
  rcases m.serverPipe_pipeSend c message outcome with heq | heq
  · exact .inl (heq.trans h)
  · exact .inr ⟨c, message, hP, by rw [heq, h]⟩

theorem posts_destroy (κ : RouteCodec) {r m : ServerRouter} (h : m.serverPipe = r.serverPipe)
    (g : GatewayId) (gw : GatewayImpl Endpoint) (outcome : Int32) :
    Posts (fun _ message => isConnect κ message = false) r (m.destroy κ g gw outcome) := by
  rcases m.destroy_cases κ g gw outcome with ⟨maps, -, -, heq⟩ | ⟨-, maps, heq⟩
  · rw [heq]
    refine Posts.pipeSend ?_ (isConnect_of_isOfChannel (isOfChannel_end κ _)) outcome
    exact h
  · rw [heq]
    exact .inl h

theorem posts_step {κ : RouteCodec} {r r' : ServerRouter} {a : ServerAction}
    (hs : r.step κ a = some r') :
    Posts (fun c message => isConnect κ message = false ∨
      ∃ payload outcome, a = .pipeMessage c payload outcome ∧ isConnect κ payload = true) r r' := by
  have hchannel : ∀ {m : ServerRouter},
      Posts (fun _ message => isConnect κ message = false) r m →
      Posts (fun c message => isConnect κ message = false ∨
        ∃ payload outcome, a = .pipeMessage c payload outcome ∧
          isConnect κ payload = true) r m := by
    rintro m (hsame | ⟨c, message, hm, heq⟩)
    · exact .inl hsame
    · exact .inr ⟨c, message, .inl hm, heq⟩
  obtain ⟨reply, hp, rfl⟩ := step_eq_some.mp hs
  cases performs hp with
  | nothing code => exact .inl rfl
  | registers serviceId input => exact .inl rfl
  | sends serviceId payload outcome channel =>
    refine hchannel (Posts.pipeSend ?_ (isConnect_of_isOfChannel (isOfChannel_msg κ _ _)) outcome)
    rfl
  | completes errorCode channel => exact .inl rfl
  | subscribes handler channel => exact .inl rfl
  | greets handler channel => exact .inl (serverPipe_raise _ _ _)
  | destroys outcome channel => exact hchannel (posts_destroy κ rfl _ _ outcome)
  | @connects payload c outcome idle request =>
    unfold handleRouteConnect
    simp only
    split
    all_goals exact Posts.pipeSend rfl (.inr ⟨payload, outcome, rfl, request⟩) outcome
  | passes outcome => exact .inl (serverPipe_raise _ _ _)
  | opens outcome idle decoded cut known =>
    unfold makeChannel
    simp only
    split
    · exact .inl rfl
    · refine hchannel (posts_destroy κ ?_ _ _ outcome)
      rfl
  | ends outcome idle decoded known => exact .inl (serverPipe_raise _ _ _)
  | loses idle => exact .inl rfl
  | notifies remaining alive => exact .inl (serverPipe_raise _ _ _)
  | skips remaining dead => exact .inl rfl

end ServerRouter

def ClientAction.isTurn : ClientAction → Bool
  | .send _ _ _ _ => true
  | .pipeMessage _ _ => true
  | .notifyNext => true
  | .dropNext _ => true
  | _ => false

namespace ClientRouter

def Posts (κ : RouteCodec) (r r' : ClientRouter) : Prop :=
  r'.clientPipe = r.clientPipe ∨
  ∃ message, isConnect κ message = false ∧ r'.clientPipe = r.clientPipe ++ [message]

theorem posts_pipeSend {κ : RouteCodec} {r m : ClientRouter} {message : Bytes}
    (h : m.clientPipe = r.clientPipe) (hchannel : isOfChannel κ message = true)
    (outcome : Int32) : Posts κ r (m.pipeSend message outcome) := by
  unfold pipeSend
  split
  · exact .inr ⟨message, isConnect_of_isOfChannel hchannel, by rw [h]⟩
  · exact .inl h

theorem posts_destroy (κ : RouteCodec) (r : ClientRouter) (g : GatewayId)
    (gw : GatewayImpl Tag) (outcome : Int32) : Posts κ r (r.destroy κ g gw outcome) := by
  rcases destroy_cases κ r g gw outcome with ⟨-, -, -, heq⟩ | ⟨-, heq⟩
  · rw [heq]
    refine posts_pipeSend ?_ (isOfChannel_end κ _) outcome
    rfl
  · rw [heq]
    exact .inl rfl

theorem posts_send {κ : RouteCodec} {r r' : ClientRouter} {g : GatewayId}
    {serviceId : ServiceId} {payload : Bytes} {outcome : Int32}
    (hs : r.step κ (.send g serviceId payload outcome) = some r') : Posts κ r r' := by
  obtain ⟨reply, hp, rfl⟩ := step_eq_some.mp hs
  cases performs hp with
  | nothing code => exact .inl rfl
  | sends serviceId payload outcome channel =>
    refine posts_pipeSend ?_ (isOfChannel_msg κ _ _) outcome
    rfl

theorem posts_dropNext {κ : RouteCodec} {r r' : ClientRouter} {outcome : Int32}
    (hs : r.step κ (.dropNext outcome) = some r') : Posts κ r r' := by
  obtain ⟨reply, hp, rfl⟩ := step_eq_some.mp hs
  cases performs hp with
  | nothing code => exact .inl rfl
  | drops outcome done pinned held => exact posts_destroy κ r _ _ outcome
  | unpins outcome done pinned => exact .inl rfl

theorem clientPipe_notifyNext {κ : RouteCodec} {r r' : ClientRouter}
    (hs : r.step κ .notifyNext = some r') : r'.clientPipe = r.clientPipe := by
  obtain ⟨reply, hp, rfl⟩ := step_eq_some.mp hs
  cases performs hp with
  | nothing code => rfl
  | notifies remaining alive => exact clientPipe_raise _ _ _
  | skips remaining dead => rfl

theorem clientPipe_message {κ : RouteCodec} {r r' : ClientRouter} {message : Bytes}
    {order : List GatewayId} (hs : r.step κ (.pipeMessage message order) = some r') :
    r'.clientPipe = r.clientPipe := by
  obtain ⟨reply, hp, rfl⟩ := step_eq_some.mp hs
  cases performs hp with
  | nothing code => rfl
  | connects payload order idle ids => rfl
  | passes order => exact clientPipe_raise _ _ _
  | ends order => exact clientPipe_raise _ _ _

theorem Wf.length_order {r : ClientRouter} (h : r.Wf) {order : List GatewayId}
    (ho : order.Perm r.mapOfGateways.ids) : order.length ≤ r.gateways.length := by
  have hnodup : order.Nodup :=
    ho.nodup_iff.mpr (MapOfWeakGateways.ids_nodup fun ht ht' => h.registry.injective ht ht')
  have hsub : order ⊆ List.range r.gateways.length := by
    intro g hg
    obtain ⟨t, ht⟩ := MapOfWeakGateways.mem_ids.mp (ho.mem_iff.mp hg)
    obtain ⟨gw, hgw, -⟩ := h.registry t g ht
    exact List.mem_range.mpr (List.getElem?_eq_some_iff.mp hgw).1
  simpa using (List.subperm_of_subset hnodup hsub).length_le

/-- How many turns the loops over gateways have before them. -/
def turns (r : ClientRouter) : Nat :=
  r.broadcast.remaining.length + r.broadcast.pinned.length

theorem turns_raise (r : ClientRouter) (g : GatewayId) (e : Event) :
    (r.raise g e).router.turns = r.turns := by
  rw [turns, broadcast_raise, turns]

theorem turns_message {κ : RouteCodec} {r r' : ClientRouter} {message : Bytes}
    {order : List GatewayId} (hw : r.Wf)
    (hs : r.step κ (.pipeMessage message order) = some r') :
    r'.turns ≤ r.turns + if isConnect κ message then 2 * r.gateways.length else 0 := by
  obtain ⟨reply, hp, rfl⟩ := step_eq_some.mp hs
  cases performs hp with
  | nothing code => exact Nat.le_add_right _ _
  | connects payload order idle ids answer disconnected =>
    have hlength := hw.length_order ids
    have hfilter := List.length_filter_le (isAlive r.gateways) order
    rw [if_pos answer]
    simp only [turns]
    omega
  | passes order => exact (turns_raise _ _ _).le.trans (Nat.le_add_right _ _)
  | ends order => exact (turns_raise _ _ _).le.trans (Nat.le_add_right _ _)

theorem turns_notifyNext {κ : RouteCodec} {r r' : ClientRouter}
    (hs : r.step κ .notifyNext = some r') : r'.turns + 1 = r.turns := by
  obtain ⟨reply, hp, rfl⟩ := step_eq_some.mp hs
  have hn : r.notifyNext = some reply := hp
  unfold notifyNext at hn
  split at hn
  · cases hn
  · next g rest hrem =>
    cases hn
    have hnext : (if isAlive r.gateways g then
        ({ r with broadcast := { r.broadcast with remaining := rest } } : ClientRouter).raise g
          r.broadcast.event
        else { router := { r with broadcast := { r.broadcast with remaining := rest } } } :
          Reply ClientRouter).router.broadcast = { r.broadcast with remaining := rest } := by
      split
      · exact broadcast_raise _ _ _
      · rfl
    simp only [turns, hnext, hrem, List.length_cons]
    omega

theorem turns_dropNext {κ : RouteCodec} {r r' : ClientRouter} {outcome : Int32}
    (hs : r.step κ (.dropNext outcome) = some r') : r'.turns + 1 = r.turns := by
  obtain ⟨reply, hp, rfl⟩ := step_eq_some.mp hs
  obtain ⟨m, hd, hr⟩ := Option.map_eq_some_iff.mp hp
  rw [← hr]
  unfold dropNext at hd
  split at hd
  · next g rest hrem hpin =>
    have hpinned : ∀ (m : ClientRouter), m.broadcast = r.broadcast →
        (m.pin rest).turns + 1 = r.turns := by
      intro m hm
      simp only [turns, pin, hm, hpin, List.length_cons]
      omega
    split at hd
    · cases hd
      apply hpinned
      split
      · exact broadcast_destroy κ r _ _ _
      · rfl
    · cases hd
      exact hpinned r rfl
  · cases hd

end ClientRouter

end Ocvsmd.Ipc

namespace Ocvsmd.Svc

open Ipc

def Fsm.pending (fsm : Fsm) : Nat := fsm.nodeIdToOp.keys.length

theorem Fsm.pending_le (fsm : Fsm) : fsm.pending ≤ 65536 :=
  Daemon.nodup_length_le fsm.nodeIdToOp.keys_nodup

theorem Fsm.length_goodbye (fsm : Fsm) (outcome : Int32) : (fsm.goodbye outcome).length ≤ 2 := by
  unfold goodbye
  split
  · exact le_rfl
  · exact Nat.zero_le _

theorem Fsm.pending_resolve {fsm : Fsm} {nodeId : NodeId} (h : nodeId ∈ fsm.nodeIdToOp)
    (spec : ExecCmdSpec) (result : PromiseResult) (sendOutcome outcome : Int32) :
    (fsm.resolve spec nodeId result sendOutcome outcome).1.pending + 1 ≤ fsm.pending := by
  have hmem : nodeId ∈ fsm.nodeIdToOp.keys := h
  have hpos : 0 < fsm.nodeIdToOp.keys.length := List.length_pos_of_mem hmem
  have herased : (fsm.nodeIdToOp.erase nodeId).keys.length + 1 = fsm.nodeIdToOp.keys.length := by
    rw [AList.keys_erase, List.length_erase_of_mem hmem]
    omega
  unfold resolve
  simp only
  split
  · exact hpos
  · exact herased.le

theorem Fsm.pending_handleEvent (fsm : Fsm) (e : Event) (outcome : Int32) :
    (fsm.handleEvent e outcome).1.pending ≤ fsm.pending := by
  cases e with
  | connected => exact le_rfl
  | message sequence payload => exact le_rfl
  | completed errorCode => exact Nat.zero_le _

theorem sum_map_set {α : Type} (f : α → Nat) {l : List α} {i : Nat} {x : α}
    (hx : l[i]? = some x) (y : α) : ((l.set i y).map f).sum + f x = (l.map f).sum + f y := by
  induction l generalizing i with
  | nil => simp at hx
  | cons a l ih =>
    cases i with
    | zero =>
      obtain rfl : a = x := by simpa using hx
      simp only [List.set_cons_zero, List.map_cons, List.sum_cons]
      omega
    | succ i =>
      have hrest := ih (i := i) (by simpa using hx)
      simp only [List.set_cons_succ, List.map_cons, List.sum_cons]
      omega

namespace ExecCmdService

/-- A promise is still to be resolved, and its state machine then does three things more at
most. -/
def load (s : ExecCmdService) : Nat := (s.fsms.map fun fsm => 4 * fsm.pending).sum

theorem load_act {s : ExecCmdService} {id : Nat} {f : Fsm → Fsm × List ServerAction}
    {x : ExecCmdService × List ServerAction} (h : s.act id f = some x) :
    ∃ fsm, s.idToFsm id = some fsm ∧ x.2 = (f fsm).2 ∧
      x.1.load + 4 * fsm.pending = s.load + 4 * (f fsm).1.pending := by
  obtain ⟨fsm, hid, rfl⟩ := Option.map_eq_some_iff.mp h
  exact ⟨fsm, hid, rfl, sum_map_set (fun fsm => 4 * fsm.pending) (idToFsm_eq_some.mp hid).1 _⟩

theorem load_resolve {spec : ExecCmdSpec} {s : ExecCmdService} {id : Nat} {nodeId : NodeId}
    {result : PromiseResult} {sendOutcome outcome : Int32}
    {x : ExecCmdService × List ServerAction}
    (h : s.resolve spec id nodeId result sendOutcome outcome = some x) :
    x.1.load + 4 ≤ s.load ∧ x.2.length ≤ 3 := by
  obtain ⟨fsm, fsm', -, hacts⟩ := Daemon.resolve_actions h
  obtain ⟨hpending, hact⟩ := Option.ite_none_right_eq_some.mp h
  obtain ⟨fsm₀, hid, -, hload⟩ := load_act hact
  rw [hid, Option.any_some, decide_eq_true_eq] at hpending
  have hless := Fsm.pending_resolve hpending spec result sendOutcome outcome
  refine ⟨by omega, ?_⟩
  have hgoodbye := fsm'.length_goodbye outcome
  have hanswer : (fsm.respond spec nodeId result sendOutcome).length ≤ 1 := by
    cases result with
    | ok response => exact le_rfl
    | error failure => exact Nat.zero_le _
  rw [hacts, List.length_append]
  omega

theorem load_dispatch {spec : ExecCmdSpec} {p : Presentation} {outcome : Int32}
    {s : ExecCmdService} {call : Option Call} {x : ExecCmdService × List ServerAction}
    (h : Daemon.dispatch spec p outcome s call = some x) :
    x.1.load ≤ s.load + 4 * 65536 ∧ x.2.length ≤ 3 := by
  constructor
  · cases call with
    | none =>
      cases h
      exact Nat.le_add_right _ _
    | some call =>
      cases call with
      | event g e =>
        simp only [Daemon.dispatch, handleEvent] at h
        split at h
        · obtain ⟨fsm, -, -, hload⟩ := load_act h
          have hless := fsm.pending_handleEvent e outcome
          omega
        · cases h
          exact Nat.le_add_right _ _
      | newChannel g serviceId payload =>
        obtain ⟨request, -, h⟩ := Option.bind_eq_some_iff.mp h
        obtain ⟨-, rfl⟩ := newChannel_eq_some.mp h
        have hbound := (({ channel := g, request := request } : Fsm).start p outcome).1.pending_le
        simp only [load, List.map_append, List.map_cons, List.map_nil, List.sum_append,
          List.sum_cons, List.sum_nil]
        omega
  · rcases Daemon.dispatch_actions h with hnone | ⟨fsm, hacts | ⟨g, hacts⟩⟩
    · rw [hnone]
      exact Nat.zero_le _
    · rw [hacts]
      exact (fsm.length_goodbye outcome).trans (by decide)
    · rw [hacts]
      exact Nat.succ_le_succ (fsm.length_goodbye outcome)

end ExecCmdService

/-- What a request may lead to, once it is taken: four messages back, and the promises. -/
def requestLoad : Nat := 5 + 4 * 65536

def turnLoad : Nat := 1 + requestLoad

/-- The loop that a connection begins, over so many gateways. -/
def greetingLoad (n : Nat) : Nat := 2 * n * turnLoad

/-- The load of a queue, where each message has some and the ones that connect have more. -/
def queueLoad (κ : RouteCodec) (each n : Nat) (queue : List Bytes) : Nat :=
  (queue.map fun message => each + if isConnect κ message then greetingLoad n else 0).sum

theorem queueLoad_cons (κ : RouteCodec) (each n : Nat) (message : Bytes) (queue : List Bytes) :
    queueLoad κ each n (message :: queue) =
      each + (if isConnect κ message then greetingLoad n else 0) + queueLoad κ each n queue := by
  rw [queueLoad, List.map_cons, List.sum_cons, queueLoad]

theorem queueLoad_concat (κ : RouteCodec) (each n : Nat) (queue : List Bytes)
    (message : Bytes) :
    queueLoad κ each n (queue ++ [message]) =
      queueLoad κ each n queue + (each + if isConnect κ message then greetingLoad n else 0) := by
  rw [queueLoad, List.map_append, List.sum_append, List.map_singleton, List.sum_singleton,
    queueLoad]

def serverLoad (κ : RouteCodec) (G : ClientId → Nat) (S : Finset ClientId)
    (serverPipe : ClientId → List Bytes) : Nat :=
  ∑ c ∈ S, queueLoad κ 1 (G c) (serverPipe c)

def Sdk.load (κ : RouteCodec) (n : Nat) (k : Sdk) : Nat :=
  queueLoad κ requestLoad n k.router.clientPipe + turnLoad * k.router.turns

theorem sum_change {ι : Type} [DecidableEq ι] {S : Finset ι} {i : ι} (hi : i ∈ S)
    {f g : ι → Nat} (h : ∀ j, j ≠ i → g j = f j) :
    ∑ j ∈ S, g j + f i = ∑ j ∈ S, f j + g i := by
  have hold := Finset.add_sum_erase S f hi
  have hnew := Finset.add_sum_erase S g hi
  have hrest : ∑ j ∈ S.erase i, g j = ∑ j ∈ S.erase i, f j :=
    Finset.sum_congr rfl fun j hj => h j (Finset.ne_of_mem_erase hj)
  omega

section ServerLoad

variable {κ : RouteCodec} {G : ClientId → Nat} {S : Finset ClientId}

theorem serverLoad_update (pipes : ClientId → List Bytes) (c : ClientId) (queue : List Bytes)
    {w : Nat} (h : queueLoad κ 1 (G c) queue ≤ queueLoad κ 1 (G c) (pipes c) + w) :
    serverLoad κ G S (Function.update pipes c queue) ≤ serverLoad κ G S pipes + w := by
  by_cases hc : c ∈ S
  · have hsum := sum_change hc (f := fun d => queueLoad κ 1 (G d) (pipes d))
      (g := fun d => queueLoad κ 1 (G d) (Function.update pipes c queue d))
      fun d hd => by rw [Function.update_of_ne hd]
    simp only [Function.update_self] at hsum
    unfold serverLoad
    omega
  · have hsame : serverLoad κ G S (Function.update pipes c queue) = serverLoad κ G S pipes := by
      refine Finset.sum_congr rfl fun d hd => ?_
      rw [Function.update_of_ne fun hdc : d = c => hc (hdc ▸ hd)]
    omega

theorem serverLoad_take {pipes : ClientId → List Bytes} {c : ClientId} {message : Bytes}
    {rest : List Bytes} (hc : c ∈ S) (hq : pipes c = message :: rest) :
    serverLoad κ G S (Function.update pipes c rest) +
      (1 + if isConnect κ message then greetingLoad (G c) else 0) = serverLoad κ G S pipes := by
  have hsum := sum_change hc (f := fun d => queueLoad κ 1 (G d) (pipes d))
    (g := fun d => queueLoad κ 1 (G d) (Function.update pipes c rest d))
    fun d hd => by rw [Function.update_of_ne hd]
  simp only [Function.update_self, hq, queueLoad_cons] at hsum
  unfold serverLoad
  omega

theorem serverLoad_posts {P : ClientId → Bytes → Prop} {r r' : ServerRouter}
    (h : ServerRouter.Posts P r r') {w : Nat}
    (hw : ∀ c message, P c message →
      1 + (if isConnect κ message then greetingLoad (G c) else 0) ≤ w) :
    serverLoad κ G S r'.serverPipe ≤ serverLoad κ G S r.serverPipe + w := by
  rcases h with hsame | ⟨c, message, hP, heq⟩
  · rw [hsame]
    exact Nat.le_add_right _ _
  · rw [heq]
    refine serverLoad_update _ c _ ?_
    rw [queueLoad_concat]
    exact Nat.add_le_add_left (hw c message hP) _

/-- What a state machine does to its channel puts a message for each action on a pipe at
most. -/
theorem serverLoad_run {r r' : ServerRouter} {as : List ServerAction}
    (hrun : Runs.run (ServerRouter.step κ) r as = some r')
    (has : ∀ a ∈ as, a.isIncoming = false) :
    serverLoad κ G S r'.serverPipe ≤ serverLoad κ G S r.serverPipe + as.length := by
  induction as generalizing r with
  | nil =>
    cases hrun
    exact le_rfl
  | cons a as ih =>
    obtain ⟨m, hm, hrun⟩ := Runs.run_cons.mp hrun
    have hfirst : serverLoad κ G S m.serverPipe ≤ serverLoad κ G S r.serverPipe + 1 := by
      refine serverLoad_posts (ServerRouter.posts_step hm) fun c message hP => ?_
      rcases hP with hno | ⟨payload, outcome, rfl, -⟩
      · simp [hno]
      · have hown := has _ List.mem_cons_self
        cases hown
    have hrest := ih hrun fun b hb => has b (List.mem_cons_of_mem _ hb)
    rw [List.length_cons]
    omega

end ServerLoad

/-- What goes on by itself: the pipes carry messages, loops take turns, and promises are
resolved. -/
def SystemAction.isInternal : SystemAction → Bool
  | .sdk _ (.router .notifyNext _) => true
  | .sdk _ (.router (.dropNext _) _) => true
  | .sdk _ _ => false
  | _ => true

def SystemAction.within (S : Finset ClientId) : SystemAction → Bool
  | .sdk c _ => c ∈ S
  | .toServer c _ => c ∈ S
  | .toClient c _ => c ∈ S
  | .resolve .. => true

namespace System

/-- The steps of a program that its users leave alone. -/
def undisturbed (κ : RouteCodec) (spec : ExecCmdSpec) (S : Finset ClientId) (s : System)
    (a : SystemAction) : Option System :=
  if a.isInternal = true ∧ a.within S = true then s.step κ spec a else none

def load (κ : RouteCodec) (G : ClientId → Nat) (S : Finset ClientId) (s : System) : Nat :=
  s.daemon.service.load + serverLoad κ G S s.daemon.router.serverPipe +
    ∑ c ∈ S, (s.sdk c).load κ (G c)

variable {κ : RouteCodec} {spec : ExecCmdSpec} {G : ClientId → Nat} {S : Finset ClientId}

theorem sum_setSdk (s : System) {c : ClientId} (hc : c ∈ S) (k : Sdk) (d : Daemon) :
    ∑ c' ∈ S, (({ s with daemon := d }.setSdk c k).sdk c').load κ (G c') +
        (s.sdk c).load κ (G c) =
      ∑ c' ∈ S, (s.sdk c').load κ (G c') + k.load κ (G c) := by
  have hsum := sum_change hc (f := fun c' => (s.sdk c').load κ (G c'))
    (g := fun c' => (({ s with daemon := d }.setSdk c k).sdk c').load κ (G c'))
    fun c' hc' => by simp [setSdk, hc']
  simpa [setSdk] using hsum

theorem load_setSdk (s : System) (c : ClientId) (k : Sdk) (d : Daemon) :
    ({ s with daemon := d }.setSdk c k).load κ G S =
      d.service.load + serverLoad κ G S d.router.serverPipe +
        ∑ c' ∈ S, (({ s with daemon := d }.setSdk c k).sdk c').load κ (G c') := rfl

theorem load_toServer {s s' : System} {c : ClientId} {p : Presentation} (hc : c ∈ S)
    (hs : s.toServer κ spec c p = some s') : s'.load κ G S < s.load κ G S := by
  unfold toServer at hs
  split at hs
  · cases hs
  · next message rest hq =>
    obtain ⟨d, hd, rfl⟩ := Option.map_eq_some_iff.mp hs
    rcases Daemon.step_cases hd with ⟨_, _, _, reply, x, ha, -, hp, hx, hrun, hservice⟩ |
      ⟨_, _, _, _, _, _, ha, -⟩
    · cases ha
      have hposts : serverLoad κ G S reply.router.serverPipe ≤
          serverLoad κ G S s.daemon.router.serverPipe +
            (1 + if isConnect κ message then greetingLoad (G c) else 0) := by
        refine serverLoad_posts
          (ServerRouter.posts_step (ServerRouter.step_eq_some.mpr ⟨reply, hp, rfl⟩)) ?_
        rintro c' answer (hno | ⟨payload, outcome, ha, hconnect⟩)
        · rw [hno]
          exact Nat.add_le_add_left (Nat.zero_le _) 1
        · cases ha
          rw [if_pos hconnect]
          split
          · exact le_rfl
          · exact Nat.add_le_add_left (Nat.zero_le _) 1
      have hgoodbye := serverLoad_run (G := G) (S := S) hrun (Daemon.own_dispatch hx)
      obtain ⟨hpromises, hlength⟩ := ExecCmdService.load_dispatch hx
      have hsdk := sum_setSdk (κ := κ) (G := G) s hc ((s.sdk c).withPipe rest) d
      have htaken : (s.sdk c).load κ (G c) =
          requestLoad + (if isConnect κ message then greetingLoad (G c) else 0) +
            ((s.sdk c).withPipe rest).load κ (G c) := by
        rw [Sdk.load, hq, queueLoad_cons, Nat.add_assoc]
        rfl
      rw [load_setSdk, load, hservice]
      simp only [requestLoad] at htaken
      omega
    · cases ha

theorem load_toClient {s s' : System} {c : ClientId} {order : List GatewayId} (hc : c ∈ S)
    (hk : (s.sdk c).Inv) (hG : (s.sdk c).router.gateways.length = G c)
    (hs : s.toClient κ spec c order = some s') : s'.load κ G S < s.load κ G S := by
  unfold toClient at hs
  split at hs
  · cases hs
  · next message rest hq =>
    obtain ⟨k, hstep, rfl⟩ := Option.map_eq_some_iff.mp hs
    have hrouter := hk.router_message hstep
    have hturns := ClientRouter.turns_message hk.wf hrouter
    have hpipe := ClientRouter.clientPipe_message hrouter
    have hsdk := sum_setSdk (κ := κ) (G := G) s hc k (s.daemon.withPipe c rest)
    have htaken := serverLoad_take (κ := κ) (G := G) hc hq
    have hclient : k.load κ (G c) ≤ (s.sdk c).load κ (G c) +
        if isConnect κ message then greetingLoad (G c) else 0 := by
      rw [Sdk.load, Sdk.load, hpipe]
      rw [hG] at hturns
      cases hconnect : isConnect κ message with
      | true =>
        rw [hconnect, if_pos rfl] at hturns
        have hless := Nat.mul_le_mul_left turnLoad hturns
        rw [Nat.mul_add, Nat.mul_comm turnLoad (2 * G c)] at hless
        simp only [if_true, greetingLoad]
        omega
      | false =>
        rw [hconnect] at hturns
        have hless := Nat.mul_le_mul_left turnLoad hturns
        simp only [Bool.false_eq_true, if_false, Nat.add_zero] at hless ⊢
        omega
    rw [load_setSdk, load]
    simp only [Daemon.withPipe, ServerRouter.serverPipe_withPipe] at hsdk ⊢
    omega

theorem load_resolve {s s' : System} {id : Nat} {nodeId : NodeId} {result : PromiseResult}
    (hs : s.step κ spec (.resolve id nodeId result) = some s') :
    s'.load κ G S < s.load κ G S := by
  obtain ⟨d, hd, rfl⟩ := Option.map_eq_some_iff.mp hs
  rcases Daemon.step_cases hd with ⟨_, _, _, _, _, ha, -⟩ |
    ⟨_, _, _, _, _, x, ha, -, hx, hrun, hservice⟩
  · cases ha
  · cases ha
    obtain ⟨hpromises, hlength⟩ := ExecCmdService.load_resolve hx
    have hgoodbye := serverLoad_run (G := G) (S := S) hrun (Daemon.own_resolve hx)
    simp only [load, hservice]
    omega

theorem load_turn {s : System} {c : ClientId} {k : Sdk} (hc : c ∈ S)
    (hturns : k.router.turns + 1 = (s.sdk c).router.turns)
    (hposts : ClientRouter.Posts κ (s.sdk c).router k.router) :
    (s.setSdk c k).load κ G S < s.load κ G S := by
  have hsdk : ∑ c' ∈ S, ((s.setSdk c k).sdk c').load κ (G c') + (s.sdk c).load κ (G c) =
      ∑ c' ∈ S, (s.sdk c').load κ (G c') + k.load κ (G c) := sum_setSdk s hc k s.daemon
  have hless : k.load κ (G c) < (s.sdk c).load κ (G c) := by
    have hturn : turnLoad * (s.sdk c).router.turns = turnLoad * k.router.turns + turnLoad := by
      rw [← hturns, Nat.mul_succ]
    rw [Sdk.load, Sdk.load, hturn]
    rcases hposts with hsame | ⟨message, hno, heq⟩
    · rw [hsame, turnLoad]
      omega
    · rw [heq, queueLoad_concat, hno, turnLoad]
      simp only [Bool.false_eq_true, if_false]
      omega
  have hload : (s.setSdk c k).load κ G S =
      s.daemon.service.load + serverLoad κ G S s.daemon.router.serverPipe +
        ∑ c' ∈ S, ((s.setSdk c k).sdk c').load κ (G c') := rfl
  rw [hload, load]
  omega

theorem turns_send {r r' : ClientRouter} {g : GatewayId} {serviceId : ServiceId}
    {payload : Bytes} {outcome : Int32}
    (hs : r.step κ (.send g serviceId payload outcome) = some r') : r'.turns = r.turns := by
  obtain ⟨reply, hp, rfl⟩ := ClientRouter.step_eq_some.mp hs
  cases ClientRouter.performs hp with
  | nothing code => rfl
  | sends serviceId payload outcome channel =>
    rw [ClientRouter.turns, ClientRouter.transmit, ClientRouter.broadcast_pipeSend]
    rfl

theorem load_notifyNext {s : System} {c : ClientId} {k : Sdk} {outcome : Int32} (hc : c ∈ S)
    (hk : (s.sdk c).Inv) (hs : (s.sdk c).step κ spec (.router .notifyNext outcome) = some k) :
    (s.setSdk c k).load κ G S < s.load κ G S := by
  obtain ⟨-, hs⟩ := Option.ite_none_right_eq_some.mp hs
  obtain ⟨reply, hp, hs⟩ := Option.bind_eq_some_iff.mp hs
  obtain ⟨hstep, hrest⟩ := hk.dispatch_steps hp hs
  have hturns := ClientRouter.turns_notifyNext hstep
  have hpipe := ClientRouter.clientPipe_notifyNext hstep
  rcases hrest with heq | ⟨g, payload, hsend⟩
  · rw [← heq] at hturns hpipe
    exact load_turn hc hturns (.inl hpipe)
  · rw [← turns_send hsend] at hturns
    have hposts := ClientRouter.posts_send hsend
    rw [ClientRouter.Posts, hpipe] at hposts
    exact load_turn hc hturns hposts

theorem load_dropNext {s : System} {c : ClientId} {k : Sdk} {outcome drop : Int32} (hc : c ∈ S)
    (hk : (s.sdk c).Inv)
    (hs : (s.sdk c).step κ spec (.router (.dropNext drop) outcome) = some k) :
    (s.setSdk c k).load κ G S < s.load κ G S := by
  obtain ⟨-, hs⟩ := Option.ite_none_right_eq_some.mp hs
  obtain ⟨reply, hp, hs⟩ := Option.bind_eq_some_iff.mp hs
  have hcall : reply.call = none := by
    obtain ⟨m, -, rfl⟩ := Option.map_eq_some_iff.mp hp
    rfl
  have heq : k.router = reply.router := by
    rcases (Sdk.dispatch_router hs fun g => hk.orderly.greeted hk.wf hp).2 with
      heq | ⟨g, payload, hsome, -⟩
    · exact heq
    · rw [hcall] at hsome
      cases hsome
  have hstep := ClientRouter.step_eq_some.mpr ⟨reply, hp, heq.symm⟩
  exact load_turn hc (ClientRouter.turns_dropNext hstep) (ClientRouter.posts_dropNext hstep)

/-- Whatever goes on by itself leaves less to do. -/
theorem load_lt {s s' : System} {a : SystemAction} (hk : ∀ c, (s.sdk c).Inv)
    (hG : ∀ c, (s.sdk c).router.gateways.length = G c)
    (hs : s.undisturbed κ spec S a = some s') : s'.load κ G S < s.load κ G S := by
  obtain ⟨⟨hinternal, hwithin⟩, hs⟩ := Option.ite_none_right_eq_some.mp hs
  cases a with
  | toServer c p => exact load_toServer (of_decide_eq_true hwithin) hs
  | toClient c order => exact load_toClient (of_decide_eq_true hwithin) (hk c) (hG c) hs
  | resolve id nodeId result => exact load_resolve hs
  | sdk c a =>
    have hc : c ∈ S := of_decide_eq_true hwithin
    obtain ⟨-, hs⟩ := Option.ite_none_right_eq_some.mp hs
    obtain ⟨k, hstep, rfl⟩ := Option.map_eq_some_iff.mp hs
    cases a with
    | router a outcome =>
      cases a with
      | notifyNext => exact load_notifyNext hc (hk c) hstep
      | dropNext drop => exact load_dropNext hc (hk c) hstep
      | _ => cases hinternal
    | _ => cases hinternal

theorem undisturbed_keeps {P : ClientRouter → Prop} {s s' : System} {a : SystemAction}
    (hk : ∀ c, (s.sdk c).Inv) (hs : s.undisturbed κ spec S a = some s')
    (hpipe : ∀ {r queue}, P r → P (r.withPipe queue))
    (hturn : ∀ {r r' b}, P r → b.isTurn = true → r.step κ b = some r' → P r')
    {c : ClientId} (h : P (s.sdk c).router) : P (s'.sdk c).router := by
  have hset : ∀ {d : Daemon} {c' : ClientId} {k : Sdk}, (c = c' → P k.router) →
      P (({ s with daemon := d }.setSdk c' k).sdk c).router := by
    intro d c' k hP
    by_cases hc : c = c'
    · subst hc
      simpa [setSdk] using hP rfl
    · simpa [setSdk, hc] using h
  have hstep : ∀ {c' : ClientId} {b : ClientAction} {outcome : Int32} {k : Sdk},
      b.isTurn = true → (s.sdk c').step κ spec (.router b outcome) = some k → c = c' →
      P k.router := by
    rintro c' b outcome k hb hk' rfl
    obtain ⟨-, hk'⟩ := Option.ite_none_right_eq_some.mp hk'
    obtain ⟨reply, hp, hk'⟩ := Option.bind_eq_some_iff.mp hk'
    obtain ⟨hfirst, hrest⟩ := (hk c).dispatch_steps hp hk'
    have hnext := hturn h hb hfirst
    rcases hrest with heq | ⟨g, payload, hsend⟩
    · rwa [heq]
    · exact hturn hnext rfl hsend
  obtain ⟨⟨hinternal, -⟩, hs⟩ := Option.ite_none_right_eq_some.mp hs
  cases a with
  | toServer d p =>
    simp only [step, toServer] at hs
    split at hs
    · cases hs
    · next message rest hq =>
      obtain ⟨e, -, rfl⟩ := Option.map_eq_some_iff.mp hs
      exact hset fun hc => hpipe (hc ▸ h)
  | toClient d order =>
    simp only [step, toClient] at hs
    split at hs
    · cases hs
    · obtain ⟨k, hk', rfl⟩ := Option.map_eq_some_iff.mp hs
      exact hset (hstep rfl hk')
  | resolve id nodeId result =>
    obtain ⟨d, -, rfl⟩ := Option.map_eq_some_iff.mp hs
    exact h
  | sdk d a =>
    obtain ⟨-, hs⟩ := Option.ite_none_right_eq_some.mp hs
    obtain ⟨k, hk', rfl⟩ := Option.map_eq_some_iff.mp hs
    refine @hset s.daemon d k ?_
    cases a with
    | router a outcome =>
      cases a with
      | notifyNext => exact hstep rfl hk'
      | dropNext drop => exact hstep rfl hk'
      | _ => cases hinternal
    | _ => cases hinternal

theorem length_undisturbed {s s' : System} {a : SystemAction} (hk : ∀ c, (s.sdk c).Inv)
    (hs : s.undisturbed κ spec S a = some s') (c : ClientId) :
    (s'.sdk c).router.gateways.length = (s.sdk c).router.gateways.length := by
  refine undisturbed_keeps (P := fun r => r.gateways.length = (s.sdk c).router.gateways.length)
    hk hs id (fun hlength hb hstep => ?_) rfl
  refine (ClientRouter.length_step hstep ?_).trans hlength
  rintro rfl
  cases hb

end System

end Ocvsmd.Svc
