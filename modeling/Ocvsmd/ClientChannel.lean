import Ocvsmd.ChannelView
import Ocvsmd.ClientRouter

set_option autoImplicit false

namespace Ocvsmd.Ipc

open FifoSession (Peer Session)

namespace ClientRouter

def peer (r : ClientRouter) (t : Tag) : Peer Bytes Int32 :=
  peerOf r.gateways t (r.lookup t).isSome

def up (κ : RouteCodec) (r : ClientRouter) (t : Tag) : List Item := wireItems κ t r.clientPipe

/-- A client router whose pipe has not failed it. -/
structure Steady (κ : RouteCodec) (r : ClientRouter) : Prop where
  wf : r.Wf
  counted : Counted r.gateways
  connected : Each r.gateways fun _ gw => gw.sent ≠ [] → r.isConnected = true
  greeting : r.broadcast.event = .connected
  wires : ∀ b ∈ r.clientPipe, Wire κ b

/-- Every channel sees steps of its session, whatever its server side is, when the
router goes from one state to another and takes these messages from its pipe. -/
def Moves (κ : RouteCodec) (r : ClientRouter) (taken : List Bytes) (r' : ClientRouter) : Prop :=
  ∀ (t : Tag) (callee : Peer Bytes Int32) (down : List Item),
    Relation.ReflTransGen Session.Step
      ⟨r.peer t, callee, r.up κ t, wireItems κ t taken ++ down⟩
      ⟨r'.peer t, callee, r'.up κ t, down⟩

theorem Moves.still {κ : RouteCodec} {r r' : ClientRouter} {taken : List Bytes}
    (hp : ∀ t, r'.peer t = r.peer t) (hu : ∀ t, r'.up κ t = r.up κ t)
    (ht : ∀ t, wireItems κ t taken = []) : Moves κ r taken r' := by
  intro t callee down
  rw [hp, hu, ht]
  exact .refl

theorem Wf.moves_at {κ : RouteCodec} {r r' : ClientRouter} {taken : List Bytes} (h : r.Wf)
    {g : GatewayId} {gw : GatewayImpl Tag} (hg : r.gateways[g]? = some gw)
    (f : GatewayImpl Tag → GatewayImpl Tag) (posted heard : List Item)
    (hf : ∀ gw, (f gw).endpoint = gw.endpoint) (hgs : r'.gateways = r.gateways.modify g f)
    (hl : ∀ t, gw.endpoint ≠ t → r'.lookup t = r.lookup t)
    (hu : ∀ t, r'.up κ t = r.up κ t ++ if gw.endpoint = t then posted else [])
    (ht : ∀ t, wireItems κ t taken = if gw.endpoint = t then heard else [])
    (hstep : ∀ (callee : Peer Bytes Int32) (up down : List Item),
      Relation.ReflTransGen Session.Step
        ⟨⟨1, (r.lookup gw.endpoint).isSome, gw.sent, gw.got⟩, callee, up, heard ++ down⟩
        ⟨⟨1, (r'.lookup gw.endpoint).isSome, (f gw).sent, (f gw).got⟩, callee,
          up ++ posted, down⟩) : Moves κ r taken r' := by
  intro t callee down
  have hp : r'.peer t = if gw.endpoint = t
      then ⟨1, (r'.lookup t).isSome, (f gw).sent, (f gw).got⟩
      else peerOf r.gateways t (r'.lookup t).isSome := by
    rw [peer, hgs, peerOf_modify h.distinct hg hf]
  rw [hp, hu, ht]
  by_cases he : gw.endpoint = t
  · subst he
    simp only [if_true]
    rw [peer, peerOf_of_gateway h.distinct hg]
    exact hstep callee _ down
  · simp only [if_neg he, hl t he, List.nil_append, List.append_nil]
    exact .refl

theorem Wf.moves_silent {κ : RouteCodec} {r : ClientRouter} (h : r.Wf) (g : GatewayId)
    {f : GatewayImpl Tag → GatewayImpl Tag} (hf : ∀ gw, (f gw).endpoint = gw.endpoint)
    (hs : ∀ gw, (f gw).sent = gw.sent) (hr : ∀ gw, (f gw).got = gw.got) :
    Moves κ r [] (r.modify g f) :=
  Moves.still (fun t => peerOf_modify_silent h.distinct g hf hs hr t _) (fun _ => rfl)
    fun _ => rfl

theorem up_pipeSend (κ : RouteCodec) (r : ClientRouter) (message : Bytes) (t : Tag) :
    (r.pipeSend message 0).up κ t = r.up κ t ++ (wireItem κ t message).toList := by
  simp only [up, pipeSend, if_true, wireItems_append, wireItems_singleton]

theorem steady_init (κ : RouteCodec) : ({} : ClientRouter).Steady κ where
  wf := wf_init
  counted := Each.nil
  connected := Each.nil
  greeting := rfl
  wires := by simp

theorem Steady.modify {κ : RouteCodec} {r : ClientRouter} (h : r.Steady κ) {g : GatewayId}
    {f : GatewayImpl Tag → GatewayImpl Tag} (hw : (r.modify g f).Wf)
    (ha : ∀ gw, (f gw).alive = true → gw.alive = true)
    (hn : ∀ gw, (f gw).nextSequence = gw.nextSequence) (hs : ∀ gw, (f gw).sent = gw.sent) :
    (r.modify g f).Steady κ where
  wf := hw
  counted := h.counted.modify g ha hn hs
  connected := h.connected.modify fun gw _ hc hne => hc (by rwa [hs] at hne)
  greeting := h.greeting
  wires := h.wires

theorem Steady.pipeSend {κ : RouteCodec} {r : ClientRouter} (h : r.Steady κ) {message : Bytes}
    (hm : Wire κ message) : (r.pipeSend message 0).Steady κ where
  wf := h.wf.pipeSend message 0
  counted := h.counted
  connected := h.connected
  greeting := h.greeting
  wires := by
    intro b hb
    rcases List.mem_append.mp hb with hb | hb
    · exact h.wires b hb
    · rwa [List.mem_singleton.mp hb]

theorem Wf.next_unused {r : ClientRouter} (h : r.Wf) (hc : r.gateways.length < 2^64) :
    gatewayAt r.gateways r.nextTag = none := by
  rw [gatewayAt_eq_none]
  intro gw hgw he
  obtain ⟨g, hg⟩ := List.mem_iff_getElem?.mp hgw
  have hlt : g < r.gateways.length := (List.getElem?_eq_some_iff.mp hg).1
  have heq := congrArg UInt64.toNat ((h.tags g gw hg).symm.trans (he.trans h.next))
  rw [UInt64.toNat_ofNat', UInt64.toNat_ofNat', Nat.mod_eq_of_lt (by omega),
    Nat.mod_eq_of_lt (by omega)] at heq
  omega

theorem Steady.makeGateway {κ : RouteCodec} {r : ClientRouter} (h : r.Steady κ)
    (hc : r.gateways.length < 2^64) :
    r.makeGateway.Steady κ ∧ Moves κ r [] r.makeGateway := by
  let gw : GatewayImpl Tag := { endpoint := r.nextTag }
  have hnew : gatewayAt r.gateways gw.endpoint = none := h.wf.next_unused hc
  have hgs : r.makeGateway.gateways = r.gateways ++ [gw] := rfl
  refine ⟨?_, fun t callee down => ?_⟩
  · exact {
      wf := h.wf.makeGateway hc
      counted := h.counted.append fun _ => rfl
      connected := h.connected.append fun hs => absurd rfl hs
      greeting := h.greeting
      wires := h.wires }
  · have hp : r.makeGateway.peer t = if r.nextTag = t then ⟨1, true, [], []⟩ else r.peer t := by
      by_cases he : r.nextTag = t
      · subst he
        simp only [peer, hgs, peerOf_append hnew, lookup_makeGateway, gw, if_true,
          Function.update_self]
        rfl
      · simp only [peer, hgs, peerOf_append hnew, lookup_makeGateway, gw, he, if_false,
          Function.update_of_ne (Ne.symm he)]
    rw [hp]
    split
    · next he =>
      have hm : (r.peer t).made = 0 := by simp [peer, peerOf, ← he, gw, hnew, Peer.none]
      exact .single (.callerOpen hm)
    · exact .refl

theorem Steady.transmit {κ : RouteCodec} {r : ClientRouter} (h : r.Steady κ) {g : GatewayId}
    {gw : GatewayImpl Tag} (hg : r.gateways[g]? = some gw)
    (hf : fewPosts r.gateways g = true) (hc : r.isConnected = true)
    (hlive : (r.lookup gw.endpoint).isSome = true) (serviceId : ServiceId) (payload : Bytes) :
    (r.transmit κ g gw serviceId payload 0).Steady κ ∧
      Moves κ r [] (r.transmit κ g gw serviceId payload 0) := by
  have hcount := h.counted g gw hg (h.wf.lookup_self hg hlive).2
  have hposted : Steady κ
      (r.modify g (·.advance.post (.msg gw.nextSequence.toNat payload) 0)) := {
    wf := h.wf.modify g (GatewayImpl.quiet_advance_post _ _)
    counted := h.counted.post hf _ payload
    connected := fun _ _ _ _ => hc
    greeting := h.greeting
    wires := h.wires }
  refine ⟨hposted.pipeSend (.channelMsg _ payload rfl), ?_⟩
  refine h.wf.moves_at hg (·.advance.post (.msg gw.nextSequence.toNat payload) 0)
    [.msg gw.nextSequence.toNat payload] [] (fun _ => rfl) (gateways_pipeSend _ _ _)
    (fun t _ => by rw [ClientRouter.transmit, lookup_pipeSend, lookup_modify])
    (fun t => ?_) (by simp) fun callee up down => ?_
  · rw [ClientRouter.transmit, up_pipeSend, wireItem_channelMsg κ t _ payload rfl]
    split <;> rfl
  · simp only [ClientRouter.transmit, lookup_pipeSend, lookup_modify, hlive, hcount,
      GatewayImpl.sent_post, GatewayImpl.got_post, GatewayImpl.sent_advance,
      GatewayImpl.got_advance, if_true]
    exact .single (.callerPost payload rfl)

theorem Moves.trans {κ : RouteCodec} {r m r' : ClientRouter} {taken : List Bytes}
    (h : Moves κ r [] m) (h' : Moves κ m taken r') : Moves κ r taken r' :=
  fun t callee down => (h t callee _).trans (h' t callee down)

theorem Moves.refl {κ : RouteCodec} {r : ClientRouter} : Moves κ r [] r :=
  fun _ _ _ => .refl

theorem Steady.destroy {κ : RouteCodec} {r : ClientRouter} (h : r.Steady κ) {g : GatewayId}
    {gw : GatewayImpl Tag} (hg : r.gateways[g]? = some gw) (ha : gw.alive = true) :
    (r.destroy κ g gw 0).Steady κ ∧ Moves κ r [] (r.destroy κ g gw 0) := by
  have hcount := h.counted g gw hg ha
  have hwf := h.wf.destroy (κ := κ) hg 0
  have hlookup := lookup_destroy κ r g gw 0
  have hother : ∀ t, gw.endpoint ≠ t → (r.destroy κ g gw 0).lookup t = r.lookup t :=
    fun t ht => by rw [hlookup, Function.update_of_ne (Ne.symm ht)]
  have hself : (r.destroy κ g gw 0).lookup gw.endpoint = none := by
    rw [hlookup, Function.update_self]
  rcases destroy_cases κ r g gw 0 with ⟨hlive, hnext, hc, heq⟩ | ⟨hquiet, heq⟩
  · rw [heq] at hwf hother hself ⊢
    let f : GatewayImpl Tag → GatewayImpl Tag :=
      fun gw' => gw'.expire.post (.fin gw.completionErrorCode) 0
    have hne : gw.sent ≠ [] := by
      intro hnil
      rw [hnil, List.length_nil, ← UInt64.toNat_zero, UInt64.toNat_inj] at hcount
      rw [hcount] at hnext
      exact absurd hnext (by decide)
    have hgs : (((r.modify g (·.expire)).unregister gw.endpoint).modify g
        (·.post (.fin gw.completionErrorCode) 0)).gateways = r.gateways.modify g f :=
      List.modify_modify_eq ..
    have hposted : Steady κ (((r.modify g (·.expire)).unregister gw.endpoint).modify g
        (·.post (.fin gw.completionErrorCode) 0)) := {
      wf := hwf.congr (by simp) (by simp) (by simp [ClientRouter.pipeSend])
        (by simp)
      counted := by rw [hgs]; exact h.counted.modify_dead g fun _ => by rfl
      connected := fun _ _ _ _ => hc
      greeting := h.greeting
      wires := h.wires }
    refine ⟨hposted.pipeSend (.channelEnd _), ?_⟩
    refine h.wf.moves_at hg f [.fin gw.completionErrorCode] [] (fun _ => by rfl)
      ((gateways_pipeSend _ _ _).trans hgs) hother (fun t => ?_) (by simp)
      fun callee up down => ?_
    · rw [up_pipeSend, wireItem_channelEnd]
      split <;> rfl
    · have hsent : (f gw).sent = gw.sent ++ [.fin gw.completionErrorCode] := by
        simp only [f, GatewayImpl.sent_post, if_true]
        rfl
      rw [hself, hlive, hsent]
      exact .single (.callerEnd _ rfl hne)
  · rw [heq] at hwf hother hself ⊢
    refine ⟨?_, ?_⟩
    · exact {
        wf := hwf
        counted := h.counted.modify_dead g fun _ => rfl
        connected := h.connected.modify fun _ _ hc => hc
        greeting := h.greeting
        wires := h.wires }
    · refine h.wf.moves_at hg (·.expire) [] [] (fun _ => by rfl) rfl hother
        (fun t => by split <;> exact (List.append_nil _).symm) (by simp)
        fun callee up down => ?_
      rw [hself, List.append_nil]
      cases hl : (r.lookup gw.endpoint).isSome with
      | false => exact .refl
      | true =>
        have hnil : gw.sent = [] := by
          by_contra hne
          refine hquiet ⟨hl, ?_, h.connected g gw hg hne⟩
          rw [UInt64.lt_iff_toNat_lt, hcount]
          exact List.length_pos_iff.mpr hne
        exact .single (.callerQuit hnil)

theorem Steady.silent {κ : RouteCodec} {r : ClientRouter} (h : r.Steady κ) {g : GatewayId}
    {f : GatewayImpl Tag → GatewayImpl Tag} (hw : (r.modify g f).Wf)
    (ha : ∀ gw, (f gw).alive = true → gw.alive = true)
    (hn : ∀ gw, (f gw).nextSequence = gw.nextSequence) (hs : ∀ gw, (f gw).sent = gw.sent)
    (he : ∀ gw, (f gw).endpoint = gw.endpoint) (hgot : ∀ gw, (f gw).got = gw.got) :
    (r.modify g f).Steady κ ∧ Moves κ r [] (r.modify g f) :=
  ⟨h.modify hw ha hn hs, h.wf.moves_silent g he hs hgot⟩

theorem Steady.subscribed {κ : RouteCodec} {r : ClientRouter} (h : r.Steady κ) (g : GatewayId)
    (handler : Option Decoder) : (r.modify g (·.subscribe handler)).Steady κ ∧
      Moves κ r [] (r.modify g (·.subscribe handler)) :=
  h.silent (h.wf.modify g (GatewayImpl.quiet_subscribe handler)) (fun _ ha => ha)
    (fun _ => by rfl) (fun _ => by rfl) (fun _ => by rfl) fun _ => by rfl

theorem Steady.greet {κ : RouteCodec} {r : ClientRouter} (h : r.Steady κ) (g : GatewayId) :
    (r.raise g .connected).router.Steady κ ∧
      Moves κ r [] (r.raise g .connected).router := by
  have hwf := h.wf.raise g .connected
  unfold ClientRouter.raise at *
  split at hwf
  · exact h.silent hwf (fun _ ha => ha) (fun _ => by rfl) (fun _ => by rfl) (fun _ => by rfl)
      fun gw => by simp [GatewayImpl.got_hear, Event.item]
  · exact ⟨h, Moves.refl⟩

theorem Steady.handlePipeConnected {κ : RouteCodec} {r : ClientRouter} (h : r.Steady κ) :
    (r.handlePipeConnected κ 0).router.Steady κ ∧
      Moves κ r [] (r.handlePipeConnected κ 0).router := by
  refine ⟨h.pipeSend (.connect _), Moves.still (fun t => ?_) (fun t => ?_) fun _ => rfl⟩
  · simp [ClientRouter.handlePipeConnected, peer]
  · simp [ClientRouter.handlePipeConnected, up_pipeSend, wireItem_connect]

theorem Steady.rebroadcast {κ : RouteCodec} {r : ClientRouter} (h : r.Steady κ)
    {b : Broadcast} (hw : ({ r with broadcast := b }).Wf) (he : b.event = .connected) :
    ({ r with broadcast := b }).Steady κ ∧ Moves κ r [] { r with broadcast := b } where
  left := { wf := hw, counted := h.counted, connected := h.connected, greeting := he,
            wires := h.wires }
  right := Moves.still (fun _ => rfl) (fun _ => rfl) fun _ => rfl

theorem Steady.pin {κ : RouteCodec} {r : ClientRouter} (h : r.Steady κ) {gs : List GatewayId}
    (hw : (r.pin gs).Wf) : (r.pin gs).Steady κ ∧ Moves κ r [] (r.pin gs) :=
  h.rebroadcast (b := { r.broadcast with pinned := gs }) hw h.greeting

def ownAction (r : ClientRouter) : ClientAction → Bool
  | .send g _ _ outcome => outcome == 0 && fewPosts r.gateways g
  | .release _ outcome => outcome == 0
  | .pipeConnected outcome => outcome == 0
  | .dropNext outcome => outcome == 0
  | .pipeMessage _ _ => false
  | .pipeDisconnected _ => false
  | _ => true

theorem Steady.step {κ : RouteCodec} {r r' : ClientRouter} {a : ClientAction}
    (h : r.Steady κ) (ho : r.ownAction a = true) (hs : r.step κ a = some r') :
    r'.Steady κ ∧ Moves κ r [] r' := by
  have hwf := h.wf.step hs
  obtain ⟨reply, hp, rfl⟩ := step_eq_some.mp hs
  cases performs hp with
  | nothing code => exact ⟨h, Moves.refl⟩
  | makes room => exact h.makeGateway room
  | sends serviceId payload outcome channel connected registered =>
    obtain ⟨rfl, hf⟩ : outcome = 0 ∧ _ := by simpa [ownAction] using ho
    exact h.transmit (channel_eq_some.mp channel).1 hf connected registered serviceId payload
  | completes errorCode channel =>
    exact h.silent hwf (fun _ ha => ha) (fun _ => by rfl) (fun _ => by rfl) (fun _ => by rfl)
      fun _ => by rfl
  | subscribes handler channel => exact h.subscribed _ handler
  | @greets g i gw handler channel connected found =>
    obtain ⟨hsub, hm⟩ := h.subscribed g handler
    exact ⟨(hsub.greet i).1, hm.trans (hsub.greet i).2⟩
  | disowns outcome channel pinned =>
    exact h.silent hwf (fun _ ha => ha) (fun _ => by rfl) (fun _ => by rfl) (fun _ => by rfl)
      fun _ => by rfl
  | @destroys g gw outcome channel unpinned =>
    obtain rfl : outcome = 0 := by simpa [ownAction] using ho
    obtain ⟨hg, howned⟩ := channel_eq_some.mp channel
    exact h.destroy hg (h.wf.owned g gw hg howned)
  | requests outcome idle =>
    obtain rfl : outcome = 0 := by simpa [ownAction] using ho
    exact h.handlePipeConnected
  | connects payload order idle => cases ho
  | passes order => cases ho
  | ends order => cases ho
  | loses order idle => cases ho
  | @notifies g rest remaining alive =>
    obtain ⟨hnext, hm⟩ := h.rebroadcast (b := { r.broadcast with remaining := rest })
      (h.wf.congr rfl (fun _ _ ht => ht) rfl rfl) h.greeting
    rw [h.greeting]
    exact ⟨(hnext.greet g).1, hm.trans (hnext.greet g).2⟩
  | skips remaining dead => exact h.rebroadcast hwf h.greeting
  | drops outcome done pinned held alive disowned =>
    obtain rfl : outcome = 0 := by simpa [ownAction] using ho
    obtain ⟨hgone, hm⟩ := h.destroy held alive
    exact ⟨(hgone.pin hwf).1, hm.trans (hgone.pin hwf).2⟩
  | unpins outcome done pinned needless => exact h.pin hwf

theorem Wf.moves_hear {κ : RouteCodec} {r r' : ClientRouter} {message : Bytes} (h : r.Wf)
    {t : Tag} {g : GatewayId} {e : Event} {x : Item} (hl : r.lookup t = some g)
    (hx : e.item = some x) (hgs : r'.gateways = r.gateways.modify g (·.hear e))
    (hlive : (r'.lookup t).isSome = !x.isFin)
    (hother : ∀ t', t ≠ t' → r'.lookup t' = r.lookup t')
    (hu : r'.clientPipe = r.clientPipe)
    (hw : ∀ t', wireItem κ t' message = if t = t' then some x else none) :
    Moves κ r [message] r' := by
  obtain ⟨gw, hg, rfl, _⟩ := h.registry t g hl
  refine h.moves_at hg (·.hear e) [] [x] (fun _ => by rfl) hgs hother
    (fun t' => ?_) (fun t' => ?_) fun callee up down => ?_
  · simp [up, hu]
  · rw [wireItems_singleton, hw]
    split <;> rfl
  · rw [hlive, hl, GatewayImpl.sent_hear, GatewayImpl.got_hear, hx, List.append_nil]
    exact .single (.downTake rfl rfl)

theorem Moves.lost {κ : RouteCodec} {r : ClientRouter} {message : Bytes} {t : Tag} {x : Item}
    (hl : r.lookup t = none)
    (hw : ∀ t', wireItem κ t' message = if t = t' then some x else none) :
    Moves κ r [message] r := by
  intro t' callee down
  rw [wireItems_singleton, hw]
  by_cases he : t = t'
  · subst he
    have hdead : (r.peer t).live = false := by
      unfold peer peerOf
      split <;> simp [hl, Peer.none]
    simp only [if_true]
    exact .single (.downDrop rfl hdead)
  · rw [if_neg he]
    exact .refl

theorem Steady.hear {κ : RouteCodec} {r : ClientRouter} (h : r.Steady κ) (g : GatewayId)
    (e : Event) : (r.raise g e).router.Steady κ := by
  have hwf := h.wf.raise g e
  unfold ClientRouter.raise at *
  split at hwf
  · exact h.modify hwf (fun _ ha => ha) (fun _ => by rfl) fun _ => by rfl
  · exact h

theorem Steady.unregister {κ : RouteCodec} {r : ClientRouter} (h : r.Steady κ) (t : Tag) :
    (r.unregister t).Steady κ where
  wf := h.wf.unregister t
  counted := h.counted
  connected := h.connected
  greeting := h.greeting
  wires := h.wires

theorem raise_eq {r : ClientRouter} {g : GatewayId} {gw : GatewayImpl Tag}
    (hg : r.gateways[g]? = some gw) (e : Event) :
    (r.raise g e).router = r.modify g (·.hear e) := by
  simp [raise, hg]

theorem Wf.findGateway {r : ClientRouter} (h : r.Wf) (t : Tag) : r.findGateway t = r.lookup t :=
  h.registry.lock t

theorem Steady.handleRouteConnect {κ : RouteCodec} {r : ClientRouter} (h : r.Steady κ)
    (hi : r.idle = true) (c : RouteConnect) (order : List GatewayId) :
    (r.handleRouteConnect order).router.Steady κ ∧
      Moves κ r [κ.serialize (.connect c)] (r.handleRouteConnect order).router := by
  have hitems : ∀ t, wireItems κ t [κ.serialize (.connect c)] = [] := fun t => by
    rw [wireItems_singleton, wireItem_connect]
    rfl
  unfold ClientRouter.handleRouteConnect
  split
  · refine ⟨?_, Moves.still (fun _ => rfl) (fun _ => rfl) hitems⟩
    exact {
      wf := h.wf.rebroadcast hi rfl (fun _ _ ht => ht) rfl
      counted := h.counted
      connected := fun _ _ _ _ => rfl
      greeting := rfl
      wires := h.wires }
  · exact ⟨h, Moves.still (fun _ => rfl) (fun _ => rfl) hitems⟩

theorem Steady.handleRouteChannelMsg {κ : RouteCodec} {r : ClientRouter} (h : r.Steady κ)
    {m : RouteChannelMsg} {payload : Bytes} (hsize : m.payloadSize = UInt64.ofNat payload.length) :
    ∃ reply, r.handleRouteChannelMsg m (κ.serialize (.channelMsg m) ++ payload) = some reply ∧
      reply.router.Steady κ ∧
      Moves κ r [κ.serialize (.channelMsg m) ++ payload] reply.router := by
  have hw := fun t' => wireItem_channelMsg κ t' m payload hsize
  simp only [ClientRouter.handleRouteChannelMsg,
    msgRealPayload_append _ payload m (κ.serialize_length _) hsize, Option.map_some,
    h.wf.findGateway]
  cases hl : r.lookup m.tag with
  | none => exact ⟨_, rfl, h, Moves.lost hl hw⟩
  | some g =>
    obtain ⟨gw, hg, _⟩ := h.wf.registry _ _ hl
    refine ⟨_, rfl, h.hear g _, ?_⟩
    rw [raise_eq hg]
    exact h.wf.moves_hear hl rfl rfl (by simp [hl, FifoSession.Item.isFin]) (fun _ _ => rfl) rfl
      hw

theorem Steady.handleRouteChannelEnd {κ : RouteCodec} {r : ClientRouter} (h : r.Steady κ)
    (e : RouteChannelEnd) : (r.handleRouteChannelEnd e).router.Steady κ ∧
      Moves κ r [κ.serialize (.channelEnd e)] (r.handleRouteChannelEnd e).router := by
  have hw := fun t' => wireItem_channelEnd κ t' e
  simp only [ClientRouter.handleRouteChannelEnd, h.wf.findGateway]
  cases hl : r.lookup e.tag with
  | none => exact ⟨h, Moves.lost hl hw⟩
  | some g =>
    obtain ⟨gw, hg, _⟩ := h.wf.registry _ _ hl
    refine ⟨(h.unregister e.tag).hear g _, ?_⟩
    simp only [raise_eq (r := r.unregister e.tag) hg]
    refine h.wf.moves_hear hl rfl rfl ?_ (fun t' ht => ?_) rfl hw
    · rw [lookup_modify, lookup_unregister, Function.update_self]
      rfl
    · rw [lookup_modify, lookup_unregister, Function.update_of_ne (Ne.symm ht)]

/-- What the server put on the pipe is understood, whenever no loop is going on. -/
theorem Steady.pipeMessage {κ : RouteCodec} {r : ClientRouter} (h : r.Steady κ)
    (hi : r.idle = true) {message : Bytes} (hm : Wire κ message) (order : List GatewayId) :
    ∃ reply, r.handlePipeMessage κ message order = some reply ∧
      reply.router.Steady κ ∧ Moves κ r [message] reply.router := by
  unfold ClientRouter.handlePipeMessage
  cases hm with
  | connect c =>
    rw [κ.deserialize_alone]
    exact ⟨_, rfl, h.handleRouteConnect hi c order⟩
  | channelMsg m payload hsize =>
    rw [κ.deserialize_serialize]
    exact h.handleRouteChannelMsg hsize
  | channelEnd e =>
    rw [κ.deserialize_alone]
    exact ⟨_, rfl, h.handleRouteChannelEnd e⟩

end ClientRouter

end Ocvsmd.Ipc
