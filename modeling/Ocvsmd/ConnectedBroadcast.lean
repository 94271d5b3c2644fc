import Ocvsmd.ClientChannel
import Ocvsmd.OneEnding

set_option autoImplicit false

namespace Ocvsmd.Ipc

/-- A router with the handlers that it has called since, the first one first. -/
structure Watched where
  router : ClientRouter
  calls : List Call := []

namespace Watched

def step (κ : RouteCodec) (w : Watched) (a : ClientAction) : Option Watched :=
  (w.router.perform κ a).map fun reply => ⟨reply.router, w.calls ++ reply.call.toList⟩

def told (w : Watched) (g : GatewayId) : Nat := w.calls.count (.event g .connected)

/-- What applications and the loop do. The pipe has to wait for the loop. -/
def Unpiped : ClientAction → Prop
  | .pipeConnected _ => False
  | .pipeMessage _ _ => False
  | .pipeDisconnected _ => False
  | _ => True

/-- Nobody subscribes to a channel that the loop has still to reach, or that was told
already, and nobody lets go of one that the loop has still to reach with a handler. -/
def Considerate (w : Watched) : ClientAction → Prop
  | .subscribe g (some _) => g ∉ w.router.broadcast.remaining ∧ w.told g = 0
  | .release g _ => g ∈ w.router.broadcast.remaining →
      ∀ gw ∈ w.router.gateways[g]?, gw.eventHandler = none
  | _ => True

instance : DecidablePred Unpiped
  | .makeGateway => .isTrue trivial
  | .send _ _ _ _ => .isTrue trivial
  | .complete _ _ => .isTrue trivial
  | .subscribe _ _ => .isTrue trivial
  | .release _ _ => .isTrue trivial
  | .pipeConnected _ => .isFalse id
  | .pipeMessage _ _ => .isFalse id
  | .pipeDisconnected _ => .isFalse id
  | .notifyNext => .isTrue trivial
  | .dropNext _ => .isTrue trivial

instance (w : Watched) : DecidablePred w.Considerate
  | .subscribe _ (some _) => inferInstanceAs (Decidable (_ ∧ _))
  | .subscribe _ none => .isTrue trivial
  | .release _ _ => inferInstanceAs (Decidable (_ → _))
  | .makeGateway => .isTrue trivial
  | .send _ _ _ _ => .isTrue trivial
  | .complete _ _ => .isTrue trivial
  | .pipeConnected _ => .isTrue trivial
  | .pipeMessage _ _ => .isTrue trivial
  | .pipeDisconnected _ => .isTrue trivial
  | .notifyNext => .isTrue trivial
  | .dropNext _ => .isTrue trivial

def CallsChannel (κ : RouteCodec) (w : Watched) (a : ClientAction) : Prop :=
  ∀ reply g e, w.router.perform κ a = some reply → reply.call = some (.event g e) →
    (w.router.channel g).isSome = true

end Watched

namespace ClientRouter

/-- The response of the server, in a state without a connection. -/
structure Connects (κ : RouteCodec) (r r' : ClientRouter) : Prop where
  reachable : Reachable κ r
  disconnected : r.isConnected = false
  response : ∃ payload order, isConnect κ payload = true ∧
    r.step κ (.pipeMessage payload order) = some r'

/-- A gateway that is registered when the response comes, or is made later. -/
def Concerned (r : ClientRouter) (g : GatewayId) : Prop :=
  g ∈ r.mapOfGateways.ids ∨ r.gateways.length ≤ g

/-- Between the turns of the loop: a channel of the connection is registered, its handler is
there for its turn, and once it has a handler and no turn ahead it was told. -/
structure Tracked (concerned : GatewayId → Prop) (table : Tag → Option GatewayId)
    (remaining : List GatewayId) (calls : List Call) (g : GatewayId) (gw : GatewayImpl Tag) :
    Prop where
  registered : concerned g → gw.owned = true → table gw.endpoint = some g
  held : g ∈ remaining → gw.eventHandler.isSome = true → gw.owned = true
  told : concerned g → gw.owned = true → gw.eventHandler.isSome = true → g ∉ remaining →
    calls.count (.event g .connected) = 1

theorem count_uncalled {calls : List Call} {call : Option Call} {g : GatewayId}
    (h : call ≠ some (.event g .connected)) :
    (calls ++ call.toList).count (.event g .connected) = calls.count (.event g .connected) := by
  rw [List.count_append]
  cases call with
  | none => rfl
  | some c =>
    have hne : ¬ (c == Call.event g .connected) = true := fun heq => h (by rw [beq_iff_eq.mp heq])
    rw [Option.toList_some, List.count_singleton, if_neg hne, Nat.add_zero]

theorem count_called (calls : List Call) (g : GatewayId) :
    (calls ++ (some (Call.event g .connected)).toList).count (.event g .connected) =
      calls.count (.event g .connected) + 1 := by
  simp [List.count_append]

section Tracked

variable {concerned : GatewayId → Prop} {table table' : Tag → Option GatewayId}
  {remaining : List GatewayId} {calls : List Call} {g : GatewayId} {gw gw' : GatewayImpl Tag}

theorem Tracked.quiet (h : Tracked concerned table remaining calls g gw)
    (he : gw'.endpoint = gw.endpoint) (ho : gw'.owned = gw.owned)
    (hh : gw'.eventHandler = gw.eventHandler) :
    Tracked concerned table remaining calls g gw' where
  registered := by rw [he, ho]; exact h.registered
  held := by rw [ho, hh]; exact h.held
  told := by rw [ho, hh]; exact h.told

theorem Tracked.retable (h : Tracked concerned table remaining calls g gw)
    (ht : table gw.endpoint = some g → table' gw.endpoint = some g) :
    Tracked concerned table' remaining calls g gw where
  registered := fun hc ho => ht (h.registered hc ho)
  held := h.held
  told := h.told

theorem Tracked.lost (hheld : g ∈ remaining → gw.eventHandler = none) (ho : gw.owned = false) :
    Tracked concerned table remaining calls g gw where
  registered := fun _ h => by rw [ho] at h; cases h
  held := fun hg h => by rw [hheld hg] at h; cases h
  told := fun _ h => by rw [ho] at h; cases h

theorem Tracked.uncalled (h : Tracked concerned table remaining calls g gw) {call : Option Call}
    (hc : call ≠ some (.event g .connected)) :
    Tracked concerned table remaining (calls ++ call.toList) g gw where
  registered := h.registered
  held := h.held
  told := by
    intro hcon ho hh hg
    rw [count_uncalled hc, h.told hcon ho hh hg]

theorem Tracked.passed {rest : List GatewayId}
    (h : Tracked concerned table remaining calls g gw) (hg : g ∈ rest ↔ g ∈ remaining) :
    Tracked concerned table rest calls g gw where
  registered := h.registered
  held := by rw [hg]; exact h.held
  told := by rw [hg]; exact h.told

end Tracked

theorem each_called {concerned : GatewayId → Prop} {table : Tag → Option GatewayId}
    {remaining rest : List GatewayId} {calls : List Call} {gs : List (GatewayImpl Tag)}
    (h : Each gs (Tracked concerned table remaining calls)) {g : GatewayId}
    {f : GatewayImpl Tag → GatewayImpl Tag} {call : Option Call}
    (hrest : ∀ i, i ≠ g → (i ∈ rest ↔ i ∈ remaining))
    (hcall : ∀ i, i ≠ g → call ≠ some (.event i .connected))
    (hself : ∀ gw, gs[g]? = some gw →
      Tracked concerned table rest (calls ++ call.toList) g (f gw)) :
    Each (gs.modify g f) (Tracked concerned table rest (calls ++ call.toList)) := by
  intro i x hx
  by_cases hi : i = g
  · subst hi
    obtain ⟨gw, hg, rfl⟩ : ∃ gw, gs[i]? = some gw ∧ f gw = x := by simpa using hx
    exact hself gw hg
  · have hold : gs[i]? = some x := by simpa [Ne.symm hi] using hx
    exact ((h i x hold).passed (hrest i hi)).uncalled (hcall i hi)

theorem each_destroy {κ : RouteCodec} {r : ClientRouter} (hw : r.Wf)
    {concerned : GatewayId → Prop} {remaining : List GatewayId} {calls : List Call}
    (h : Each r.gateways (Tracked concerned r.lookup remaining calls)) {g : GatewayId}
    {gw : GatewayImpl Tag} (hg : r.gateways[g]? = some gw)
    (hheld : g ∈ remaining → gw.eventHandler = none) (outcome : Int32) :
    Each (r.destroy κ g gw outcome).gateways
      (Tracked concerned (r.destroy κ g gw outcome).lookup remaining calls) := by
  intro i x hx
  by_cases hi : i = g
  · subst hi
    obtain hgs | hgs := gateways_destroy κ r i gw outcome
    · rw [hgs] at hx
      obtain rfl : gw.expire = x := by simpa [hg] using hx
      exact .lost hheld rfl
    · rw [hgs] at hx
      obtain rfl : gw.expire.post (.fin gw.completionErrorCode) outcome = x := by
        simpa [hg] using hx
      exact .lost hheld rfl
  · have hold : r.gateways[i]? = some x := by
      obtain hgs | hgs := gateways_destroy κ r g gw outcome <;> rw [hgs] at hx
      · simpa [Ne.symm hi] using hx
      · simpa [Ne.symm hi] using hx
    have hne : x.endpoint ≠ gw.endpoint := fun he => hi (hw.distinct.index_eq hold hg he)
    refine (h i x hold).retable fun ht => ?_
    rw [lookup_destroy, Function.update_of_ne hne, ht]

/-- Whose gateway is registered is told at once when it subscribes. -/
theorem subscribe_cases {r : ClientRouter} (hw : r.Wf) (hconn : r.isConnected = true)
    {g : GatewayId} {gw : GatewayImpl Tag} (hg : r.gateways[g]? = some gw)
    (handler : Option Decoder) :
    (r.lookup gw.endpoint = some g ∧ r.subscribe g gw handler =
      { router := r.modify g fun x => (x.subscribe handler).hear .connected
        call := if handler.isSome = true then some (.event g .connected) else none }) ∨
    (r.lookup gw.endpoint = none ∧
      r.subscribe g gw handler = { router := r.modify g (·.subscribe handler) }) := by
  have hsub := hw.modify g (GatewayImpl.quiet_subscribe handler)
  have hsubconn : (r.modify g (·.subscribe handler)).isConnected = true := hconn
  have hfound : (r.modify g (·.subscribe handler)).findGateway gw.endpoint =
      r.lookup gw.endpoint := by
    rw [hsub.findGateway, lookup_modify]
  have hgw : (r.modify g (·.subscribe handler)).gateways[g]? = some (gw.subscribe handler) := by
    simp [hg]
  rw [ClientRouter.subscribe, onGatewaySubscription, if_pos hsubconn, hfound]
  cases hl : r.lookup gw.endpoint with
  | none => exact .inr ⟨rfl, rfl⟩
  | some i =>
    have hself := (hw.lookup_self hg (by rw [hl]; rfl)).1
    rw [hl] at hself
    cases hself
    refine .inl ⟨rfl, ?_⟩
    have hmodify : ((r.modify g (·.subscribe handler)).modify g (·.hear .connected)) =
        r.modify g fun x => (x.subscribe handler).hear .connected := by
      simp only [modify, List.modify_modify_eq]
      rfl
    simp only [raise, hgw, hmodify]
    cases handler <;> rfl

theorem call_raise_connected {r : ClientRouter} {g : GatewayId} {gw : GatewayImpl Tag}
    (hg : r.gateways[g]? = some gw) : (r.raise g .connected).call =
      if gw.eventHandler.isSome = true then some (.event g .connected) else none := by
  have hhandles : gw.handles .connected = gw.eventHandler.isSome := by
    cases hh : gw.eventHandler <;> simp [GatewayImpl.handles, GatewayImpl.eventCode, hh, Adapter.code]
  simp only [raise, hg, hhandles]

/-- What holds while the loop is going on, and after it. -/
structure Exact (concerned : GatewayId → Prop) (w : Watched) : Prop where
  wf : w.router.Wf
  orderly : w.router.Orderly
  connected : w.router.isConnected = true
  kind : w.router.broadcast.event = .connected
  untold : ∀ g ∈ w.router.broadcast.remaining, w.told g = 0
  each : Each w.router.gateways
    (Tracked concerned w.router.lookup w.router.broadcast.remaining w.calls)

theorem Exact.silent {κ : RouteCodec} {concerned : GatewayId → Prop} {w : Watched}
    (h : Exact concerned w) {a : ClientAction} {r' : ClientRouter}
    (hs : w.router.step κ a = some r') (hconn : r'.isConnected = true)
    (hb : r'.broadcast.remaining = w.router.broadcast.remaining)
    (he : r'.broadcast.event = w.router.broadcast.event)
    (heach : Each r'.gateways
      (Tracked concerned r'.lookup w.router.broadcast.remaining w.calls)) :
    Exact concerned ⟨r', w.calls⟩ where
  wf := h.wf.step hs
  orderly := h.orderly.step h.wf hs
  connected := hconn
  kind := he.trans h.kind
  untold := by
    rw [hb]
    exact h.untold
  each := by
    rw [hb]
    exact heach

/-- One gateway changes, is told that it is connected or not, and may have had its turn. -/
structure Tells (r : ClientRouter) (reply : Reply ClientRouter) (g : GatewayId)
    (f : GatewayImpl Tag → GatewayImpl Tag) (tell : Bool) : Prop where
  gateways : reply.router.gateways = r.gateways.modify g f
  lookup : reply.router.lookup = r.lookup
  isConnected : reply.router.isConnected = r.isConnected
  event : reply.router.broadcast.event = r.broadcast.event
  fewer : ∀ i ∈ reply.router.broadcast.remaining, i ∈ r.broadcast.remaining
  others : ∀ i, i ≠ g → i ∈ r.broadcast.remaining → i ∈ reply.router.broadcast.remaining
  call : reply.call = if tell = true then some (.event g .connected) else none

theorem Exact.tells {κ : RouteCodec} {concerned : GatewayId → Prop} {w : Watched}
    (h : Exact concerned w) {a : ClientAction} {reply : Reply ClientRouter}
    (hp : w.router.perform κ a = some reply) {g : GatewayId}
    {f : GatewayImpl Tag → GatewayImpl Tag} {tell : Bool} (ht : Tells w.router reply g f tell)
    (hnew : tell = true →
      g ∉ reply.router.broadcast.remaining ∧ (w.router.channel g).isSome = true)
    (hself : ∀ gw, w.router.gateways[g]? = some gw → Tracked concerned w.router.lookup
      reply.router.broadcast.remaining (w.calls ++ reply.call.toList) g (f gw)) :
    Exact concerned ⟨reply.router, w.calls ++ reply.call.toList⟩ ∧ w.CallsChannel κ a := by
  have hs := step_eq_some.mpr ⟨_, hp, rfl⟩
  have hcall : ∀ {i e}, reply.call = some (.event i e) → i = g ∧ tell = true := by
    intro i e hc
    rw [ht.call] at hc
    obtain ⟨htell, hc⟩ := Option.ite_none_right_eq_some.mp hc
    cases hc
    exact ⟨rfl, htell⟩
  refine ⟨?_, fun reply' i e hp' hc => ?_⟩
  · exact {
      wf := h.wf.step hs
      orderly := h.orderly.step h.wf hs
      connected := ht.isConnected.trans h.connected
      kind := ht.event.trans h.kind
      untold := by
        intro i hi
        rw [← h.untold i (ht.fewer i hi)]
        refine count_uncalled fun hc => ?_
        obtain ⟨rfl, htell⟩ := hcall hc
        exact (hnew htell).1 hi
      each := by
        rw [ht.gateways, ht.lookup]
        refine each_called h.each (fun i hi => ⟨ht.fewer i, ht.others i hi⟩) ?_ hself
        exact fun i hi hc => hi (hcall hc).1 }
  · rw [hp, Option.some.injEq] at hp'
    subst hp'
    obtain ⟨rfl, htell⟩ := hcall hc
    exact (hnew htell).2

theorem Exact.subscribe {κ : RouteCodec} {concerned : GatewayId → Prop} {w : Watched}
    (h : Exact concerned w) {g : GatewayId} {handler : Option Decoder}
    (hok : w.Considerate (.subscribe g handler)) {reply : Reply ClientRouter}
    (hp : w.router.perform κ (.subscribe g handler) = some reply) :
    Exact concerned ⟨reply.router, w.calls ++ reply.call.toList⟩ ∧
      w.CallsChannel κ (.subscribe g handler) := by
  obtain ⟨gw, hch, rfl⟩ := Option.map_eq_some_iff.mp hp
  obtain ⟨hg, ho⟩ := channel_eq_some.mp hch
  have hregistered := (h.each g gw hg).registered
  have hnew : handler.isSome = true → g ∉ w.router.broadcast.remaining ∧ w.told g = 0 := by
    cases handler with
    | none => exact fun hnone => by cases hnone
    | some input => exact fun _ => hok
  obtain ⟨hl, heq⟩ | ⟨hl, heq⟩ := subscribe_cases h.wf h.connected hg handler
  · rw [heq] at hp ⊢
    have ht : Tells w.router
        { router := w.router.modify g fun x => (x.subscribe handler).hear .connected
          call := if handler.isSome = true then some (.event g .connected) else none } g
        (fun x => (x.subscribe handler).hear .connected) handler.isSome :=
      ⟨rfl, rfl, rfl, rfl, fun _ hi => hi, fun _ _ hi => hi, rfl⟩
    refine h.tells hp ht (fun hsome => ⟨(hnew hsome).1, by rw [hch]; rfl⟩) fun x hx => ?_
    rw [hg] at hx
    cases hx
    exact {
      registered := hregistered
      held := fun hin hsome => absurd hin (hnew hsome).1
      told := fun _ _ hsome _ => by
        have hsome' : handler.isSome = true := hsome
        have hzero : w.calls.count (.event g .connected) = 0 := (hnew hsome').2
        rw [if_pos hsome', count_called, hzero] }
  · rw [heq] at hp ⊢
    have ht : Tells w.router { router := w.router.modify g (·.subscribe handler) } g
        (·.subscribe handler) false :=
      ⟨rfl, rfl, rfl, rfl, fun _ hi => hi, fun _ _ hi => hi, rfl⟩
    refine h.tells hp ht (fun hno => by cases hno) fun x hx => ?_
    rw [hg] at hx
    cases hx
    -- a gateway of this connection is registered
    exact {
      registered := hregistered
      held := fun hin hsome => absurd hin (hnew hsome).1
      told := fun hcon _ _ _ => by
        rw [hregistered hcon ho] at hl
        cases hl }

theorem Exact.turn {κ : RouteCodec} {concerned : GatewayId → Prop} {w : Watched}
    (h : Exact concerned w) {reply : Reply ClientRouter} {g : GatewayId} {rest : List GatewayId}
    (hp : w.router.perform κ .notifyNext = some reply)
    (remaining : w.router.broadcast.remaining = g :: rest) :
    Exact concerned ⟨reply.router, w.calls ++ reply.call.toList⟩ ∧
      w.CallsChannel κ .notifyNext := by
  obtain ⟨-, hnot⟩ := h.orderly.turn remaining
  have hfewer : ∀ i, i ∈ rest → i ∈ w.router.broadcast.remaining := fun i hi => by
    rw [remaining]
    exact List.mem_cons_of_mem _ hi
  have hothers : ∀ i, i ≠ g → i ∈ w.router.broadcast.remaining → i ∈ rest := fun i hi hin => by
    rw [remaining, List.mem_cons] at hin
    exact hin.resolve_left hi
  have hmem : g ∈ w.router.broadcast.remaining := by simp [remaining]
  have hn : w.router.notifyNext = some reply := hp
  rw [notifyNext, remaining, Option.some.injEq] at hn
  by_cases halive : isAlive w.router.gateways g = true
  · obtain ⟨gw, hg, -⟩ := isAlive_iff.mp halive
    rw [if_pos halive, h.kind] at hn
    subst hn
    have hcall := @call_raise_connected
      { w.router with broadcast := { w.router.broadcast with remaining := rest } } g gw hg
    have hgateways := congrArg ClientRouter.gateways (@raise_eq
      { w.router with broadcast := { w.router.broadcast with remaining := rest } } g gw hg
      .connected)
    have ht : Tells w.router
        (({ w.router with broadcast := { w.router.broadcast with remaining := rest } } :
          ClientRouter).raise g .connected) g (·.hear .connected) gw.eventHandler.isSome := {
      gateways := hgateways
      lookup := lookup_raise _ _ _
      isConnected := isConnected_raise _ _ _
      event := by rw [broadcast_raise]
      fewer := by rw [broadcast_raise]; exact hfewer
      others := by rw [broadcast_raise]; exact hothers
      call := hcall }
    have hover : g ∉ (({ w.router with broadcast := { w.router.broadcast with
        remaining := rest } } : ClientRouter).raise g .connected).router.broadcast.remaining := by
      rw [broadcast_raise]
      exact hnot
    refine h.tells hp ht (fun hsome => ⟨hover, ?_⟩) fun x hx => ?_
    · rw [channel_eq_some.mpr ⟨hg, (h.each g gw hg).held hmem hsome⟩]
      rfl
    · rw [hg] at hx
      cases hx
      exact {
        registered := (h.each g gw hg).registered
        held := fun hin _ => absurd hin hover
        told := fun _ _ hsome _ => by
          have hsome' : gw.eventHandler.isSome = true := hsome
          have hzero : w.calls.count (.event g .connected) = 0 := h.untold g hmem
          rw [hcall, if_pos hsome', count_called, hzero] }
  · -- the gateway is gone, and its channel before it
    rw [if_neg halive] at hn
    subst hn
    have ht : Tells w.router
        { router := { w.router with broadcast := { w.router.broadcast with remaining := rest } } }
        g id false := {
      gateways := by simp
      lookup := rfl
      isConnected := rfl
      event := rfl
      fewer := hfewer
      others := hothers
      call := rfl }
    refine h.tells hp ht (fun hno => by cases hno) fun x hx => ?_
    refine .lost (fun hin => absurd hin hnot) ?_
    by_contra howned
    exact halive (isAlive_iff.mpr ⟨x, hx, h.wf.owned g x hx (by simpa using howned)⟩)

theorem isConnected_destroy (κ : RouteCodec) (r : ClientRouter) (g : GatewayId)
    (gw : GatewayImpl Tag) (outcome : Int32) :
    (r.destroy κ g gw outcome).isConnected = r.isConnected := by
  obtain ⟨-, -, -, h⟩ | ⟨-, h⟩ := destroy_cases κ r g gw outcome <;> rw [h]
  · exact isConnected_pipeSend _ _ _
  · rfl

theorem each_makeGateway {concerned : GatewayId → Prop} {remaining : List GatewayId}
    {calls : List Call} {r : ClientRouter} (hw : r.Wf) (room : r.gateways.length < 2^64)
    (h : Each r.gateways (Tracked concerned r.lookup remaining calls)) :
    Each r.makeGateway.gateways (Tracked concerned r.makeGateway.lookup remaining calls) := by
  have hnew : r.makeGateway.gateways[r.gateways.length]? =
      some { endpoint := r.nextTag } := by simp [makeGateway]
  refine Each.append (fun i x hx => (h i x hx).retable fun ht => ?_) ?_
  · have hlt := (List.getElem?_eq_some_iff.mp hx).1
    have hold : r.makeGateway.gateways[i]? = some x := by
      simp only [makeGateway, List.getElem?_append_left hlt, hx]
    have hne : x.endpoint ≠ r.nextTag := fun he =>
      Nat.ne_of_lt hlt ((hw.makeGateway room).distinct.index_eq hold hnew he)
    rw [lookup_makeGateway, Function.update_of_ne hne, ht]
  · exact {
      registered := fun _ _ => by rw [lookup_makeGateway, Function.update_self]
      held := fun _ hsome => by cases hsome
      told := fun _ _ hsome => by cases hsome }

theorem Exact.uncalled {κ : RouteCodec} {concerned : GatewayId → Prop} {w : Watched}
    {a : ClientAction} {r' : ClientRouter} {code : Int32}
    (hp : w.router.perform κ a = some { router := r', code := code })
    (h : Exact concerned ⟨r', w.calls⟩) :
    Exact concerned ⟨r', w.calls ++ (none : Option Call).toList⟩ ∧ w.CallsChannel κ a := by
  refine ⟨by simpa using h, fun reply i e hp' hcall => ?_⟩
  rw [hp, Option.some.injEq] at hp'
  subst hp'
  cases hcall

/-- What a step preserves, and whom it calls. -/
theorem Exact.step {κ : RouteCodec} {concerned : GatewayId → Prop} {w : Watched}
    (h : Exact concerned w) {a : ClientAction} (hun : Watched.Unpiped a) (hok : w.Considerate a)
    {reply : Reply ClientRouter} (hp : w.router.perform κ a = some reply) :
    Exact concerned ⟨reply.router, w.calls ++ reply.call.toList⟩ ∧ w.CallsChannel κ a := by
  have hs := step_eq_some.mpr ⟨_, hp, rfl⟩
  cases performs hp with
  | nothing code => exact Exact.uncalled hp h
  | makes room =>
    exact Exact.uncalled hp (h.silent hs h.connected rfl rfl (each_makeGateway h.wf room h.each))
  | sends serviceId payload outcome channel =>
    refine Exact.uncalled hp (h.silent hs ((isConnected_pipeSend _ _ _).trans h.connected) ?_ ?_ ?_)
    · exact congrArg Broadcast.remaining (broadcast_pipeSend _ _ _)
    · exact congrArg Broadcast.event (broadcast_pipeSend _ _ _)
    · rw [transmit, gateways_pipeSend, lookup_pipeSend]
      exact h.each.modify fun x _ hx => hx.quiet rfl rfl rfl
  | completes errorCode channel =>
    exact Exact.uncalled hp (h.silent hs h.connected rfl rfl
      (h.each.modify fun x _ hx => hx.quiet rfl rfl rfl))
  | subscribes handler channel => exact h.subscribe hok hp
  | greets handler channel connected found => exact h.subscribe hok hp
  | @disowns g gw outcome channel pinned =>
    refine Exact.uncalled hp (h.silent hs h.connected rfl rfl (h.each.modify fun x hx _ => ?_))
    exact .lost (fun hin => hok hin x hx) rfl
  | @destroys g gw outcome channel unpinned =>
    have hg := (channel_eq_some.mp channel).1
    refine Exact.uncalled hp (h.silent hs ((isConnected_destroy _ _ _ _ _).trans h.connected) ?_ ?_ ?_)
    · exact congrArg Broadcast.remaining (broadcast_destroy _ _ _ _ _)
    · exact congrArg Broadcast.event (broadcast_destroy _ _ _ _ _)
    · exact each_destroy h.wf h.each hg (fun hin => hok hin gw hg) outcome
  | requests outcome idle => exact hun.elim
  | connects payload order idle ids answer disconnected => exact hun.elim
  | passes order idle decoded cut found => exact hun.elim
  | ends order idle decoded found => exact hun.elim
  | loses order idle ids connected => exact hun.elim
  | notifies remaining alive => exact h.turn hp remaining
  | skips remaining dead => exact h.turn hp remaining
  | @drops g gw rest outcome done pinned held alive disowned =>
    refine Exact.uncalled hp (h.silent hs ((isConnected_destroy _ _ _ _ _).trans h.connected) ?_ ?_ ?_)
    · change (w.router.destroy κ g gw outcome).broadcast.remaining = _
      rw [broadcast_destroy]
    · change (w.router.destroy κ g gw outcome).broadcast.event = _
      rw [broadcast_destroy]
    · refine each_destroy h.wf h.each held (fun hin => ?_) outcome
      rw [done] at hin
      cases hin
  | unpins outcome done pinned needless =>
    exact Exact.uncalled hp (h.silent hs h.connected rfl rfl h.each)

theorem Connects.begins {κ : RouteCodec} {r r' : ClientRouter} (h : Connects κ r r') :
    ∃ order : List GatewayId, order.Perm r.mapOfGateways.ids ∧ r.idle = true ∧
      r' = { r with
        isConnected := true
        broadcast := ⟨.connected, order.filter (isAlive r.gateways),
          order.filter (isAlive r.gateways)⟩ } := by
  obtain ⟨payload, order, hk, hs⟩ := h.response
  obtain ⟨reply, hp, rfl⟩ := step_eq_some.mp hs
  obtain ⟨⟨hidle, hperm⟩, hreply⟩ := Option.ite_none_right_eq_some.mp hp
  refine ⟨order, hperm, hidle, ?_⟩
  cases hd : κ.deserialize payload with
  | none => simp [isConnect, hd] at hk
  | some route =>
    cases route with
    | connect c =>
      simp only [handlePipeMessage, hd, Option.some.injEq] at hreply
      rw [← hreply, handleRouteConnect, if_pos (by simp [h.disconnected])]
    | empty => simp [isConnect, hd] at hk
    | channelMsg m => simp [isConnect, hd] at hk
    | channelEnd e => simp [isConnect, hd] at hk

/-- The loop begins with all channels of the connection that have to be told. -/
theorem Connects.exact {κ : RouteCodec} {r r' : ClientRouter} (h : Connects κ r r') :
    Exact r.Concerned ⟨r', []⟩ := by
  obtain ⟨hwf, hord, -⟩ := h.reachable.ends_once
  obtain ⟨payload, response, -, hs⟩ := h.response
  obtain ⟨order, hperm, hidle, rfl⟩ := h.begins
  exact {
    wf := hwf.step hs
    orderly := hord.step hwf hs
    connected := rfl
    kind := rfl
    untold := fun _ _ => rfl
    each := by
      intro g gw hg
      have hregistered : r.Concerned g → g ∈ r.mapOfGateways.ids := fun hc =>
        hc.resolve_right (Nat.not_le.mpr (List.getElem?_eq_some_iff.mp hg).1)
      exact {
        registered := fun hc _ => by
          obtain ⟨t, ht⟩ := MapOfWeakGateways.mem_ids.mp (hregistered hc)
          obtain ⟨x, hx, rfl, -⟩ := hwf.registry t g ht
          have hsame : some x = some gw := hx.symm.trans hg
          cases hsame
          exact ht
        held := fun hin _ => by
          obtain ⟨x, hx, halive⟩ := isAlive_iff.mp (List.mem_filter.mp hin).2
          have hsame : some x = some gw := hx.symm.trans hg
          cases hsame
          exact hwf.idle_owned hidle g gw hg halive
        told := fun hc howned _ hout => by
          refine absurd (List.mem_filter.mpr ⟨hperm.mem_iff.mpr (hregistered hc), ?_⟩) hout
          exact isAlive_iff.mpr ⟨gw, hg, hwf.owned g gw hg howned⟩ } }

theorem Exact.run {κ : RouteCodec} {concerned : GatewayId → Prop} {w w' : Watched}
    {as : List ClientAction} (h : Exact concerned w) (hr : Runs.run (Watched.step κ) w as = some w')
    (hok : Runs.Always (Watched.step κ) (fun w a => Watched.Unpiped a ∧ w.Considerate a) w as) :
    Exact concerned w' ∧ Runs.Always (Watched.step κ) (Watched.CallsChannel κ) w as := by
  induction as generalizing w with
  | nil =>
    cases hr
    exact ⟨h, Runs.always_nil⟩
  | cons a as ih =>
    obtain ⟨m, hm, hr⟩ := Runs.run_cons.mp hr
    obtain ⟨⟨hun, hconsiderate⟩, hrest⟩ := Runs.always_cons.mp hok
    obtain ⟨reply, hp, rfl⟩ := Option.map_eq_some_iff.mp hm
    obtain ⟨hnext, hcalls⟩ := h.step hun hconsiderate hp
    obtain ⟨hend, halways⟩ := ih hnext hr (hrest _ hm)
    refine ⟨hend, Runs.always_cons.mpr ⟨hcalls, fun m' hm' => ?_⟩⟩
    rw [hm, Option.some.injEq] at hm'
    subst hm'
    exact halways

def ToldOnce (concerned : GatewayId → Prop) (w : Watched) : Prop :=
  ∀ g gw, concerned g → w.router.channel g = some gw → gw.eventHandler.isSome = true →
    w.told g = 1

theorem Exact.toldOnce {concerned : GatewayId → Prop} {w : Watched} (h : Exact concerned w)
    (hdone : w.router.broadcast.remaining = []) : ToldOnce concerned w := by
  intro g gw hc hch hsome
  obtain ⟨hg, howned⟩ := channel_eq_some.mp hch
  refine (h.each g gw hg).told hc howned hsome ?_
  rw [hdone]
  exact List.not_mem_nil

theorem watched_loop_ends (κ : RouteCodec) (w : Watched) :
    ∃ w', Runs.run (Watched.step κ) w
        (List.replicate w.router.broadcast.remaining.length .notifyNext) = some w' ∧
      w'.router.broadcast.remaining = [] :=
  Runs.run_drains ClientAction.notifyNext (·.router.broadcast.remaining) (fun {_ _ _} h => by
    obtain ⟨reply, hp, hrest⟩ := turn_of_remaining κ h
    exact ⟨_, by simp only [Watched.step, hp]; rfl, hrest⟩) w

theorem always_turns (κ : RouteCodec) (w : Watched) (n : Nat) :
    Runs.Always (Watched.step κ) (fun w a => Watched.Unpiped a ∧ w.Considerate a) w
      (List.replicate n .notifyNext) := by
  induction n generalizing w with
  | zero => exact Runs.always_nil
  | succ n ih => exact Runs.always_cons.mpr ⟨⟨trivial, trivial⟩, fun m _ => ih m⟩

/-- While handlers are considerate, the broadcast is exact: whenever the loop has nobody left
to reach, every channel with a handler was told once, and no handler is called for a channel
that does not exist. The turns that are left bring the loop there. -/
theorem connected_broadcast {κ : RouteCodec} {r r' : ClientRouter} (h : Connects κ r r')
    {as : List ClientAction} {w : Watched} (hr : Runs.run (Watched.step κ) ⟨r', []⟩ as = some w)
    (hok : Runs.Always (Watched.step κ) (fun w a => Watched.Unpiped a ∧ w.Considerate a)
      ⟨r', []⟩ as) :
    (w.router.broadcast.remaining = [] → ToldOnce r.Concerned w) ∧
      Runs.Always (Watched.step κ) (Watched.CallsChannel κ) ⟨r', []⟩ as ∧
      ∃ w', Runs.run (Watched.step κ) w
          (List.replicate w.router.broadcast.remaining.length .notifyNext) = some w' ∧
        w'.router.broadcast.remaining = [] ∧ ToldOnce r.Concerned w' := by
  obtain ⟨hexact, hcalls⟩ := h.exact.run hr hok
  obtain ⟨w', hw', hdone⟩ := watched_loop_ends κ w
  have hexact' := (hexact.run hw' (always_turns κ w _)).1
  exact ⟨hexact.toldOnce, hcalls, w', hw', hdone, hexact'.toldOnce hdone⟩

end ClientRouter

def threeChannels : ClientRouter :=
  (Runs.run (ClientRouter.step cyphalCodec) {}
    [.makeGateway, .makeGateway, .makeGateway, .subscribe 0 (some fun _ => true),
      .subscribe 2 (some fun _ => true)]).getD {}

def routeAnswer : Bytes := Route.serialize (.connect ⟨currentVersion, 0⟩)

def threeConnected : ClientRouter :=
  ((threeChannels.step cyphalCodec) (.pipeMessage routeAnswer [0, 1, 2])).getD {}

theorem threeConnected_connects :
    ClientRouter.Connects cyphalCodec threeChannels threeConnected := by
  have hstep : ((threeChannels.step cyphalCodec)
      (.pipeMessage routeAnswer [0, 1, 2])).isSome = true := by decide +kernel
  obtain ⟨r, hr⟩ := Option.isSome_iff_exists.mp hstep
  exact {
    reachable := Runs.Reachable.getD (by decide +kernel)
    disconnected := by decide +kernel
    response := ⟨routeAnswer, [0, 1, 2], by decide +kernel, by rw [threeConnected, hr]; rfl⟩ }

/-- Handlers that make and subscribe to new channels, and to one that had no handler at its
turn, and give up their own. -/
def considerateRun : List ClientAction :=
  [.notifyNext, .makeGateway, .subscribe 3 (some fun _ => true), .release 0 0, .notifyNext,
    .subscribe 1 (some fun _ => true), .notifyNext]

theorem connected_broadcast_considerate :
    ∃ w, Runs.run (Watched.step cyphalCodec) ⟨threeConnected, []⟩ considerateRun = some w ∧
      w.router.broadcast.remaining = [] ∧
      ClientRouter.ToldOnce threeChannels.Concerned w ∧
      Runs.Always (Watched.step cyphalCodec) (Watched.CallsChannel cyphalCodec)
        ⟨threeConnected, []⟩ considerateRun := by
  have hrun : (Runs.run (Watched.step cyphalCodec) ⟨threeConnected, []⟩ considerateRun).any
      (fun w => w.router.broadcast.remaining = []) = true := by decide +kernel
  obtain ⟨w, hw, hdone⟩ := (Option.any_eq_true _ _).mp hrun
  have hdone := of_decide_eq_true hdone
  have hok : Runs.Always (Watched.step cyphalCodec)
      (fun w a => Watched.Unpiped a ∧ w.Considerate a) ⟨threeConnected, []⟩ considerateRun := by
    decide +kernel
  obtain ⟨honce, hcalls, -⟩ := ClientRouter.connected_broadcast threeConnected_connects hw hok
  exact ⟨w, hw, hdone, honce hdone, hcalls⟩

/-- A handler subscribes to a channel before its turn, which is told twice. Another one lets go
of a channel before its turn, whose handler is called all the same. -/
theorem connected_broadcast_inexact :
    ClientRouter.Connects cyphalCodec threeChannels threeConnected ∧
    (∃ w, Runs.run (Watched.step cyphalCodec) ⟨threeConnected, []⟩
        [.notifyNext, .subscribe 1 (some fun _ => true), .notifyNext, .notifyNext] = some w ∧
      w.router.broadcast.remaining = [] ∧ ¬ ClientRouter.ToldOnce threeChannels.Concerned w) ∧
    ∃ w, Runs.run (Watched.step cyphalCodec) ⟨threeConnected, []⟩
        [.notifyNext, .release 2 0, .notifyNext] = some w ∧
      w.router.channel 2 = none ∧
      ∃ reply, w.router.perform cyphalCodec .notifyNext = some reply ∧
        reply.call = some (.event 2 .connected) := by
  refine ⟨threeConnected_connects, ?_, ?_⟩
  · have hrun : (Runs.run (Watched.step cyphalCodec) ⟨threeConnected, []⟩
        [.notifyNext, .subscribe 1 (some fun _ => true), .notifyNext, .notifyNext]).any
        (fun w => w.router.broadcast.remaining = [] ∧ w.told 1 = 2 ∧
          (w.router.channel 1).any (·.eventHandler.isSome)) = true := by decide +kernel
    obtain ⟨w, hw, hall⟩ := (Option.any_eq_true _ _).mp hrun
    obtain ⟨hdone, htold, hsome⟩ := of_decide_eq_true hall
    refine ⟨w, hw, hdone, fun honce => ?_⟩
    obtain ⟨gw, hch, hhandler⟩ := (Option.any_eq_true _ _).mp hsome
    have hconcerned : threeChannels.Concerned 1 := .inl (by decide +kernel)
    have hone := honce 1 gw hconcerned hch hhandler
    omega
  · have hrun : (Runs.run (Watched.step cyphalCodec) ⟨threeConnected, []⟩
        [.notifyNext, .release 2 0, .notifyNext]).any
        (fun w => (w.router.channel 2).isNone ∧ (w.router.perform cyphalCodec .notifyNext).any
          (·.call = some (.event 2 .connected))) = true := by decide +kernel
    obtain ⟨w, hw, hall⟩ := (Option.any_eq_true _ _).mp hrun
    obtain ⟨hnone, hcall⟩ := of_decide_eq_true hall
    obtain ⟨reply, hp, hcall⟩ := (Option.any_eq_true _ _).mp hcall
    exact ⟨w, hw, Option.isNone_iff_eq_none.mp hnone, reply, hp, of_decide_eq_true hcall⟩

end Ocvsmd.Ipc
