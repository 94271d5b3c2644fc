import Ocvsmd.ChannelView
import Ocvsmd.ServerRouter

set_option autoImplicit false

namespace Ocvsmd.Ipc

open FifoSession (Peer Session)

namespace ServerRouter

def peer (r : ServerRouter) (ep : Endpoint) : Peer Bytes Int32 :=
  peerOf r.gateways ep (r.lookup ep).isSome

def down (κ : RouteCodec) (r : ServerRouter) (ep : Endpoint) : List Item :=
  wireItems κ ep.tag (r.serverPipe ep.clientId)

/-- A server router whose pipe has not failed it. -/
structure Steady (κ : RouteCodec) (r : ServerRouter) : Prop where
  wf : r.Wf
  distinct : Distinct r.gateways
  counted : Counted r.gateways
  idle : r.idle = true
  wires : ∀ c, ∀ b ∈ r.serverPipe c, Wire κ b

def Moves (κ : RouteCodec) (r : ServerRouter) (taken : Endpoint → List Item)
    (r' : ServerRouter) : Prop :=
  ∀ (ep : Endpoint) (caller : Peer Bytes Int32) (up : List Item),
    Relation.ReflTransGen Session.Step
      ⟨caller, r.peer ep, taken ep ++ up, r.down κ ep⟩
      ⟨caller, r'.peer ep, up, r'.down κ ep⟩

def nothing : Endpoint → List Item := fun _ => []

/-- What a message of a client is to each channel. -/
def taken (κ : RouteCodec) (c : ClientId) (message : Bytes) (ep : Endpoint) : List Item :=
  if ep.clientId = c then (wireItem κ ep.tag message).toList else []

theorem Moves.still {κ : RouteCodec} {r r' : ServerRouter} {taken : Endpoint → List Item}
    (hp : ∀ ep, r'.peer ep = r.peer ep) (hd : ∀ ep, r'.down κ ep = r.down κ ep)
    (ht : ∀ ep, taken ep = []) : Moves κ r taken r' := by
  intro ep caller up
  rw [hp, hd, ht]
  exact .refl

theorem Moves.trans {κ : RouteCodec} {r m r' : ServerRouter} {taken : Endpoint → List Item}
    (h : Moves κ r taken m) (h' : Moves κ m nothing r') : Moves κ r taken r' :=
  fun ep caller up => (h ep caller up).trans (h' ep caller up)

theorem Steady.moves_at {κ : RouteCodec} {r r' : ServerRouter} {taken : Endpoint → List Item}
    (h : r.Steady κ) {g : GatewayId} {gw : GatewayImpl Endpoint} (hg : r.gateways[g]? = some gw)
    (f : GatewayImpl Endpoint → GatewayImpl Endpoint) (posted heard : List Item)
    (hf : ∀ gw, (f gw).endpoint = gw.endpoint) (hgs : r'.gateways = r.gateways.modify g f)
    (hl : ∀ ep, gw.endpoint ≠ ep → r'.lookup ep = r.lookup ep)
    (hd : ∀ ep, r'.down κ ep = r.down κ ep ++ if gw.endpoint = ep then posted else [])
    (ht : ∀ ep, taken ep = if gw.endpoint = ep then heard else [])
    (hstep : ∀ (caller : Peer Bytes Int32) (up down : List Item),
      Relation.ReflTransGen Session.Step
        ⟨caller, ⟨1, (r.lookup gw.endpoint).isSome, gw.sent, gw.got⟩, heard ++ up, down⟩
        ⟨caller, ⟨1, (r'.lookup gw.endpoint).isSome, (f gw).sent, (f gw).got⟩, up,
          down ++ posted⟩) : Moves κ r taken r' := by
  intro ep caller up
  have hp : r'.peer ep = if gw.endpoint = ep
      then ⟨1, (r'.lookup ep).isSome, (f gw).sent, (f gw).got⟩
      else peerOf r.gateways ep (r'.lookup ep).isSome := by
    rw [peer, hgs, peerOf_modify h.distinct hg hf]
  rw [hp, hd, ht]
  by_cases he : gw.endpoint = ep
  · subst he
    simp only [if_true]
    rw [peer, peerOf_of_gateway h.distinct hg]
    exact hstep caller up _
  · simp only [if_neg he, hl ep he, List.nil_append, List.append_nil]
    exact .refl

theorem Steady.moves_silent {κ : RouteCodec} {r : ServerRouter} (h : r.Steady κ)
    (g : GatewayId) {f : GatewayImpl Endpoint → GatewayImpl Endpoint}
    (hf : ∀ gw, (f gw).endpoint = gw.endpoint) (hs : ∀ gw, (f gw).sent = gw.sent)
    (hr : ∀ gw, (f gw).got = gw.got) : Moves κ r nothing (r.modify g f) :=
  Moves.still (fun ep => peerOf_modify_silent h.distinct g hf hs hr ep _) (fun _ => rfl)
    fun _ => rfl

theorem Steady.lookup_self {κ : RouteCodec} {r : ServerRouter} (h : r.Steady κ) {g : GatewayId}
    {gw : GatewayImpl Endpoint} (hg : r.gateways[g]? = some gw)
    (hl : (r.lookup gw.endpoint).isSome = true) :
    r.lookup gw.endpoint = some g ∧ gw.alive = true := by
  obtain ⟨g', hl⟩ := Option.isSome_iff_exists.mp hl
  obtain ⟨gw', hg', he, ha⟩ := h.wf.registry _ _ hl
  have hidx := h.distinct.index_eq hg' hg he
  subst hidx
  rw [hg'] at hg
  cases hg
  exact ⟨hl, ha⟩

theorem down_pipeSend (κ : RouteCodec) (r : ServerRouter) (c : ClientId) (message : Bytes)
    (ep : Endpoint) :
    (r.pipeSend c message 0).down κ ep =
      r.down κ ep ++ if ep.clientId = c then (wireItem κ ep.tag message).toList else [] := by
  by_cases hc : ep.clientId = c
  · simp [down, pipeSend, hc]
  · simp [down, pipeSend, hc]

theorem steady_init (κ : RouteCodec) : ({} : ServerRouter).Steady κ where
  wf := wf_init
  distinct := List.nodup_nil
  counted := Each.nil
  idle := rfl
  wires := by simp

theorem Steady.modify {κ : RouteCodec} {r : ServerRouter} (h : r.Steady κ) {g : GatewayId}
    {f : GatewayImpl Endpoint → GatewayImpl Endpoint} (hq : GatewayImpl.Quiet f)
    (hn : ∀ gw, (f gw).nextSequence = gw.nextSequence) (hs : ∀ gw, (f gw).sent = gw.sent) :
    (r.modify g f).Steady κ where
  wf := h.wf.modify g hq
  distinct := h.distinct.modify g hq.endpoint
  counted := h.counted.modify g (fun gw ha => by rwa [hq.alive] at ha) hn hs
  idle := h.idle
  wires := h.wires

theorem Steady.pipeSend {κ : RouteCodec} {r : ServerRouter} (h : r.Steady κ) (c : ClientId)
    {message : Bytes} (hm : Wire κ message) : (r.pipeSend c message 0).Steady κ where
  wf := h.wf.pipeSend c message 0
  distinct := h.distinct
  counted := h.counted
  idle := h.idle
  wires := by
    intro c' b hb
    simp only [ServerRouter.pipeSend, if_true] at hb
    by_cases hc : c' = c
    · subst hc
      rw [Function.update_self] at hb
      rcases List.mem_append.mp hb with hb | hb
      · exact h.wires c' b hb
      · rwa [List.mem_singleton.mp hb]
    · rw [Function.update_of_ne hc] at hb
      exact h.wires c' b hb

theorem down_post {κ : RouteCodec} (ep : Endpoint) {ep' : Endpoint} {message : Bytes} {x : Item}
    (hw : ∀ t, wireItem κ t message = if ep.tag = t then some x else none) :
    (if ep'.clientId = ep.clientId then (wireItem κ ep'.tag message).toList else []) =
      if ep = ep' then [x] else [] := by
  obtain ⟨t, c⟩ := ep
  obtain ⟨t', c'⟩ := ep'
  rw [hw]
  by_cases hc : c = c'
  · subst hc
    by_cases ht : t = t' <;> simp [ht]
  · simp [hc, Ne.symm hc]

theorem Steady.transmit {κ : RouteCodec} {r : ServerRouter} (h : r.Steady κ) {g : GatewayId}
    {gw : GatewayImpl Endpoint} (hg : r.gateways[g]? = some gw)
    (hf : fewPosts r.gateways g = true) (hlive : (r.lookup gw.endpoint).isSome = true)
    (serviceId : ServiceId) (payload : Bytes) :
    (r.transmit κ g gw serviceId payload 0).Steady κ ∧
      Moves κ r nothing (r.transmit κ g gw serviceId payload 0) := by
  have hcount := h.counted g gw hg (h.lookup_self hg hlive).2
  have hposted : Steady κ
      (r.modify g (·.advance.post (.msg gw.nextSequence.toNat payload) 0)) := {
    wf := h.wf.modify g (GatewayImpl.quiet_advance_post _ _)
    distinct := h.distinct.modify g fun _ => rfl
    counted := h.counted.post hf _ payload
    idle := h.idle
    wires := h.wires }
  refine ⟨hposted.pipeSend _ (.channelMsg _ payload rfl), ?_⟩
  refine h.moves_at hg (·.advance.post (.msg gw.nextSequence.toNat payload) 0)
    [.msg gw.nextSequence.toNat payload] [] (fun _ => rfl) (gateways_pipeSend _ _ _ _)
    (fun ep _ => by rw [ServerRouter.transmit, lookup_pipeSend, lookup_modify])
    (fun ep => ?_) (by simp [nothing]) fun caller up down => ?_
  · rw [ServerRouter.transmit, down_pipeSend,
      down_post _ fun t => wireItem_channelMsg κ t _ payload rfl]
    rfl
  · simp only [ServerRouter.transmit, lookup_pipeSend, lookup_modify, hlive, hcount,
      GatewayImpl.sent_post, GatewayImpl.got_post, GatewayImpl.sent_advance,
      GatewayImpl.got_advance, if_true]
    exact .single (.calleePost payload rfl)

theorem Steady.destroy {κ : RouteCodec} {r : ServerRouter} (h : r.Steady κ) {g : GatewayId}
    {gw : GatewayImpl Endpoint} (hg : r.gateways[g]? = some gw) :
    (r.destroy κ g gw 0).Steady κ ∧ Moves κ r nothing (r.destroy κ g gw 0) := by
  have hwf := h.wf.destroy (κ := κ) hg 0
  have hlookup := lookup_destroy κ r g gw 0
  have hother : ∀ ep, gw.endpoint ≠ ep → (r.destroy κ g gw 0).lookup ep = r.lookup ep :=
    fun ep he => by rw [hlookup, Function.update_of_ne (Ne.symm he)]
  have hself : (r.destroy κ g gw 0).lookup gw.endpoint = none := by
    rw [hlookup, Function.update_self]
  rcases destroy_cases κ r g gw 0 with ⟨m, _, hlive, heq⟩ | ⟨hnone, maps, heq⟩
  · rw [heq] at hwf hother hself ⊢
    let f : GatewayImpl Endpoint → GatewayImpl Endpoint :=
      fun gw' => gw'.expire.post (.fin gw.completionErrorCode) 0
    have hgs : (((r.modify g (·.expire)).setMap gw.endpoint.clientId
        (some (m.erase gw.endpoint.tag))).modify g
        (·.post (.fin gw.completionErrorCode) 0)).gateways = r.gateways.modify g f :=
      List.modify_modify_eq ..
    have hposted : Steady κ (((r.modify g (·.expire)).setMap gw.endpoint.clientId
        (some (m.erase gw.endpoint.tag))).modify g
        (·.post (.fin gw.completionErrorCode) 0)) := {
      wf := hwf.congr (by simp) (by simp)
      distinct := by rw [hgs]; exact h.distinct.modify g fun _ => by rfl
      counted := by rw [hgs]; exact h.counted.modify_dead g fun _ => by rfl
      idle := h.idle
      wires := h.wires }
    refine ⟨hposted.pipeSend _ (.channelEnd _), ?_⟩
    refine h.moves_at hg f [.fin gw.completionErrorCode] [] (fun _ => by rfl)
      ((gateways_pipeSend _ _ _ _).trans hgs) hother (fun ep => ?_) (by simp [nothing])
      fun caller up down => ?_
    · rw [down_pipeSend, down_post _ fun t => wireItem_channelEnd κ t _]
      rfl
    · have hsent : (f gw).sent = gw.sent ++ [.fin gw.completionErrorCode] := by
        simp only [f, GatewayImpl.sent_post, if_true]
        rfl
      rw [hself, hlive, hsent]
      exact .single (.calleeEnd _ rfl)
  · rw [heq] at hwf hother hself ⊢
    refine ⟨?_, ?_⟩
    · exact {
        wf := hwf
        distinct := h.distinct.modify g fun _ => by rfl
        counted := h.counted.modify_dead g fun _ => by rfl
        idle := h.idle
        wires := h.wires }
    · refine h.moves_at hg (·.expire) [] [] (fun _ => by rfl) rfl hother
        (fun ep => by split <;> exact (List.append_nil _).symm) (by simp [nothing])
        fun caller up down => ?_
      rw [hself, hnone, List.append_nil]
      exact .refl

theorem Steady.silent {κ : RouteCodec} {r : ServerRouter} (h : r.Steady κ) {g : GatewayId}
    {f : GatewayImpl Endpoint → GatewayImpl Endpoint} (hq : GatewayImpl.Quiet f)
    (hn : ∀ gw, (f gw).nextSequence = gw.nextSequence) (hs : ∀ gw, (f gw).sent = gw.sent)
    (hgot : ∀ gw, (f gw).got = gw.got) :
    (r.modify g f).Steady κ ∧ Moves κ r nothing (r.modify g f) :=
  ⟨h.modify hq hn hs, h.moves_silent g hq.endpoint hs hgot⟩

theorem Steady.greet {κ : RouteCodec} {r : ServerRouter} (h : r.Steady κ) (g : GatewayId) :
    (r.raise g .connected).router.Steady κ ∧
      Moves κ r nothing (r.raise g .connected).router := by
  unfold ServerRouter.raise
  split
  · exact h.silent (GatewayImpl.quiet_hear _) (fun _ => by rfl) (fun _ => by rfl) fun gw => by
      simp [GatewayImpl.got_hear, Event.item]
  · exact ⟨h, Moves.still (fun _ => rfl) (fun _ => rfl) fun _ => rfl⟩

def ownAction (r : ServerRouter) : ServerAction → Bool
  | .send g _ _ outcome => outcome == 0 && fewPosts r.gateways g
  | .release _ outcome => outcome == 0
  | .pipeMessage _ _ _ => false
  | .pipeDisconnected _ _ => false
  | _ => true

theorem Steady.step {κ : RouteCodec} {r r' : ServerRouter} {a : ServerAction}
    (h : r.Steady κ) (ho : r.ownAction a = true) (hs : r.step κ a = some r') :
    r'.Steady κ ∧ Moves κ r nothing r' := by
  have hidle : r.remaining = [] := List.isEmpty_iff.mp h.idle
  obtain ⟨reply, hp, rfl⟩ := step_eq_some.mp hs
  cases performs hp with
  | nothing code => exact ⟨h, Moves.still (fun _ => rfl) (fun _ => rfl) fun _ => rfl⟩
  | registers serviceId input =>
    refine ⟨?_, Moves.still (fun _ => rfl) (fun _ => rfl) fun _ => rfl⟩
    exact {
      wf := h.wf.congr rfl fun _ _ hl => hl
      distinct := h.distinct
      counted := h.counted
      idle := h.idle
      wires := h.wires }
  | sends serviceId payload outcome channel registered =>
    obtain ⟨rfl, hf⟩ : outcome = 0 ∧ _ := by simpa [ownAction] using ho
    exact h.transmit (channel_eq_some.mp channel).1 hf registered serviceId payload
  | completes errorCode channel =>
    exact h.silent (GatewayImpl.quiet_complete errorCode) (fun _ => by rfl) (fun _ => by rfl)
      fun _ => by rfl
  | subscribes handler channel =>
    exact h.silent (GatewayImpl.quiet_subscribe handler) (fun _ => by rfl) (fun _ => by rfl)
      fun _ => by rfl
  | @greets g i gw handler channel found =>
    obtain ⟨hsub, hm⟩ := h.silent (g := g) (GatewayImpl.quiet_subscribe handler)
      (fun _ => by rfl) (fun _ => by rfl) fun _ => by rfl
    exact ⟨(hsub.greet i).1, hm.trans (hsub.greet i).2⟩
  | destroys outcome channel =>
    obtain rfl : outcome = 0 := by simpa [ownAction] using ho
    exact h.destroy (channel_eq_some.mp channel).1
  | connects c outcome => cases ho
  | passes outcome => cases ho
  | opens outcome => cases ho
  | ends outcome => cases ho
  | loses idle => cases ho
  | notifies remaining alive =>
    rw [hidle] at remaining
    cases remaining
  | skips remaining dead =>
    rw [hidle] at remaining
    cases remaining

theorem raise_eq {r : ServerRouter} {g : GatewayId} {gw : GatewayImpl Endpoint}
    (hg : r.gateways[g]? = some gw) (e : Event) :
    (r.raise g e).router = r.modify g (·.hear e) := by
  simp [raise, hg]

theorem Wf.findGateway {r : ServerRouter} (h : r.Wf) (ep : Endpoint) :
    r.findGateway ep = r.lookup ep := h.registry.lock ep

theorem Steady.hear {κ : RouteCodec} {r : ServerRouter} (h : r.Steady κ) (g : GatewayId)
    (e : Event) : (r.raise g e).router.Steady κ := by
  unfold ServerRouter.raise
  split
  · exact h.modify (GatewayImpl.quiet_hear _) (fun _ => by rfl) fun _ => by rfl
  · exact h

theorem Steady.setMap {κ : RouteCodec} {r : ServerRouter} (h : r.Steady κ) (c : ClientId)
    (m : Option MapOfWeakGateways) (hw : (r.setMap c m).Wf) : (r.setMap c m).Steady κ where
  wf := hw
  distinct := h.distinct
  counted := h.counted
  idle := h.idle
  wires := h.wires

theorem Steady.moves_hear {κ : RouteCodec} {r r' : ServerRouter} (h : r.Steady κ)
    {message : Bytes} {t : Tag} {c : ClientId} {g : GatewayId} {e : Event} {x : Item}
    (hl : r.lookup ⟨t, c⟩ = some g) (hx : e.item = some x)
    (hgs : r'.gateways = r.gateways.modify g (·.hear e))
    (hlive : (r'.lookup ⟨t, c⟩).isSome = !x.isFin)
    (hother : ∀ ep, (⟨t, c⟩ : Endpoint) ≠ ep → r'.lookup ep = r.lookup ep)
    (hd : r'.serverPipe = r.serverPipe)
    (hw : ∀ t', wireItem κ t' message = if t = t' then some x else none) :
    Moves κ r (taken κ c message) r' := by
  obtain ⟨gw, hg, he, _⟩ := h.wf.registry _ g hl
  refine h.moves_at hg (·.hear e) [] [x] (fun _ => by rfl) hgs (by rwa [he])
    (fun ep => ?_) (fun ep => ?_) fun caller up down => ?_
  · simp [down, hd]
  · rw [he, ← down_post ⟨t, c⟩ hw]
    rfl
  · rw [he, hlive, hl, GatewayImpl.sent_hear, GatewayImpl.got_hear, hx, List.append_nil]
    exact .single (.upTake rfl rfl)

theorem Moves.lost {κ : RouteCodec} {r : ServerRouter} {message : Bytes} {t : Tag}
    {c : ClientId} {x : Item} (hl : r.lookup ⟨t, c⟩ = none)
    (hw : ∀ t', wireItem κ t' message = if t = t' then some x else none) :
    Moves κ r (taken κ c message) r := by
  intro ep caller up
  have htaken : taken κ c message ep = if (⟨t, c⟩ : Endpoint) = ep then [x] else [] := by
    rw [← down_post ⟨t, c⟩ hw]
    rfl
  rw [htaken]
  by_cases he : (⟨t, c⟩ : Endpoint) = ep
  · subst he
    have hdead : (r.peer ⟨t, c⟩).live = false := by
      unfold peer peerOf
      split <;> simp [hl, Peer.none]
    simp only [if_true]
    exact .single (.upDrop rfl hdead)
  · rw [if_neg he]
    exact .refl

theorem Steady.handleRouteConnect {κ : RouteCodec} {r : ServerRouter} (h : r.Steady κ)
    (c : ClientId) : (r.handleRouteConnect κ c 0).router.Steady κ ∧
      Moves κ r nothing (r.handleRouteConnect κ c 0).router := by
  have hlookup := lookup_handleRouteConnect κ r c 0
  have hsent := h.pipeSend c (.connect ⟨currentVersion, 0⟩)
  unfold ServerRouter.handleRouteConnect at *
  simp only [if_true] at *
  refine ⟨hsent.setMap c _ (h.wf.congr (by simp) (by simp [hlookup])), ?_⟩
  refine Moves.still (fun ep => ?_) (fun ep => ?_) fun _ => rfl
  · simp [peer, hlookup]
  · have hd := down_pipeSend κ r c (κ.serialize (.connect ⟨currentVersion, 0⟩)) ep
    rw [wireItem_connect] at hd
    have hnil : (if ep.clientId = c then (none : Option Item).toList else []) = [] := by
      split <;> rfl
    rw [hnil, List.append_nil] at hd
    exact hd

theorem Moves.create {κ : RouteCodec} {r r' : ServerRouter} {message payload : Bytes}
    {g : GatewayId} (gw : GatewayImpl Endpoint)
    (hnew : gatewayAt r.gateways gw.endpoint = none) (hgs : r'.gateways = r.gateways ++ [gw])
    (hl : r'.lookup = Function.update r.lookup gw.endpoint (some g))
    (hd : r'.serverPipe = r.serverPipe) (hsent : gw.sent = []) (hgot : gw.got = [.msg 0 payload])
    (hw : ∀ t, wireItem κ t message = if gw.endpoint.tag = t then some (.msg 0 payload) else none) :
    Moves κ r (taken κ gw.endpoint.clientId message) r' := by
  intro ep caller up
  have htaken : taken κ gw.endpoint.clientId message ep =
      if gw.endpoint = ep then [.msg 0 payload] else [] := by
    rw [← down_post _ hw]
    rfl
  have hdown : r'.down κ ep = r.down κ ep := by simp [down, hd]
  have hp : r'.peer ep = if gw.endpoint = ep
      then ⟨1, (r'.lookup ep).isSome, gw.sent, gw.got⟩
      else peerOf r.gateways ep (r'.lookup ep).isSome := by
    rw [peer, hgs, peerOf_append hnew]
  rw [htaken, hdown, hp, hl, hsent, hgot]
  by_cases he : gw.endpoint = ep
  · subst he
    have hnone : r.peer gw.endpoint = .none := by simp [peer, peerOf, hnew]
    rw [hnone, if_pos rfl, if_pos rfl, Function.update_self]
    exact .single (.upCreate rfl rfl)
  · rw [if_neg he, if_neg he, Function.update_of_ne (Ne.symm he)]
    exact .refl

theorem Steady.makeChannel {κ : RouteCodec} {r : ServerRouter} (h : r.Steady κ) {c : ClientId}
    {mapOfGws : MapOfWeakGateways} (hm : r.clientIdToMapOfGateways c = some mapOfGws)
    {m : RouteChannelMsg} {message realPayload : Bytes} (input : Decoder)
    (hnew : gatewayAt r.gateways ⟨m.tag, c⟩ = none) (hseq : m.sequence = 0)
    (hw : ∀ t, wireItem κ t message =
      if m.tag = t then some (.msg m.sequence.toNat realPayload) else none) :
    (r.makeChannel κ c mapOfGws m input realPayload 0).router.Steady κ ∧
      Moves κ r (taken κ c message)
        (r.makeChannel κ c mapOfGws m input realPayload 0).router := by
  let gw : GatewayImpl Endpoint :=
    { endpoint := ⟨m.tag, c⟩, events := [.message m.sequence realPayload] }
  have hlookup := lookup_insert (r := { r with gateways := r.gateways ++ [gw] }) ⟨m.tag, c⟩ hm
    r.gateways.length
  have hmade : Steady κ ({ r with gateways := r.gateways ++ [gw] }.setMap c
      (some (mapOfGws.insert m.tag r.gateways.length))) := {
    wf := by
      refine ⟨?_, h.wf.owned.append rfl⟩
      rw [hlookup]
      exact h.wf.registry.append (show gw.alive = true from rfl)
    distinct := h.distinct.append (show gatewayAt r.gateways gw.endpoint = none from hnew)
    counted := h.counted.append fun _ => rfl
    idle := h.idle
    wires := h.wires }
  have hmoves : Moves κ r (taken κ c message) ({ r with gateways := r.gateways ++ [gw] }.setMap c
      (some (mapOfGws.insert m.tag r.gateways.length))) := by
    rw [hseq] at hw
    exact Moves.create gw hnew rfl hlookup rfl rfl
      (by simp [gw, GatewayImpl.got, Event.item, hseq]) hw
  unfold ServerRouter.makeChannel
  simp only
  split
  · exact ⟨hmade, hmoves⟩
  · have hg : (r.gateways ++ [gw])[r.gateways.length]? = some gw := by simp
    have hd := hmade.destroy hg
    exact ⟨hd.1, hmoves.trans hd.2⟩

theorem Steady.handleRouteChannelMsg {κ : RouteCodec} {r : ServerRouter} (h : r.Steady κ)
    {c : ClientId} {m : RouteChannelMsg} {payload : Bytes}
    (hsize : m.payloadSize = UInt64.ofNat payload.length)
    (hnew : m.sequence = 0 → r.lookup ⟨m.tag, c⟩ = none →
      gatewayAt r.gateways ⟨m.tag, c⟩ = none) :
    ∃ reply, r.handleRouteChannelMsg κ c m (κ.serialize (.channelMsg m) ++ payload) 0 =
        some reply ∧
      reply.router.Steady κ ∧
      Moves κ r (taken κ c (κ.serialize (.channelMsg m) ++ payload)) reply.router := by
  have hw := fun t' => wireItem_channelMsg κ t' m payload hsize
  simp only [ServerRouter.handleRouteChannelMsg,
    msgRealPayload_append _ payload m (κ.serialize_length _) hsize, Option.map_some]
  refine ⟨_, rfl, ?_⟩
  cases hmap : r.clientIdToMapOfGateways c with
  | none => exact ⟨h, Moves.lost (t := m.tag) (by simp [lookup, hmap]) hw⟩
  | some mapOfGws =>
    have hl := lookup_eq hmap m.tag
    have hlock := h.wf.registry.lock ⟨m.tag, c⟩
    rw [hl] at hlock
    simp only [hlock]
    cases hg : mapOfGws.lookup m.tag with
    | some g =>
      rw [hg] at hl
      obtain ⟨gw, hgw, _⟩ := h.wf.registry _ _ hl
      refine ⟨h.hear g _, ?_⟩
      simp only [raise_eq hgw]
      exact h.moves_hear hl rfl rfl (by simp [hl, FifoSession.Item.isFin]) (fun _ _ => rfl)
        rfl hw
    | none =>
      rw [hg] at hl
      simp only
      split
      · next hseq =>
        split
        · next input _ => exact h.makeChannel hmap input (hnew hseq hl) hseq hw
        · exact ⟨h, Moves.lost hl hw⟩
      · exact ⟨h, Moves.lost hl hw⟩

theorem Steady.handleRouteChannelEnd {κ : RouteCodec} {r : ServerRouter} (h : r.Steady κ)
    (c : ClientId) (e : RouteChannelEnd) : (r.handleRouteChannelEnd c e).router.Steady κ ∧
      Moves κ r (taken κ c (κ.serialize (.channelEnd e))) (r.handleRouteChannelEnd c e).router := by
  have hw := fun t' => wireItem_channelEnd κ t' e
  unfold ServerRouter.handleRouteChannelEnd
  cases hmap : r.clientIdToMapOfGateways c with
  | none => exact ⟨h, Moves.lost (t := e.tag) (by simp [lookup, hmap]) hw⟩
  | some mapOfGws =>
    simp only [h.wf.findGateway]
    cases hl : r.lookup ⟨e.tag, c⟩ with
    | none => exact ⟨h, Moves.lost hl hw⟩
    | some g =>
      obtain ⟨gw, hgw, _⟩ := h.wf.registry _ _ hl
      have hgone := lookup_erase ⟨e.tag, c⟩ hmap
      have hoff := h.setMap c _ (h.wf.unregister ⟨e.tag, c⟩ hmap)
      refine ⟨hoff.hear g _, ?_⟩
      simp only [raise_eq (r := r.setMap c (some (mapOfGws.erase e.tag))) hgw]
      refine h.moves_hear hl rfl rfl ?_ (fun ep he => ?_) rfl hw
      · rw [lookup_modify, hgone, Function.update_self]
        rfl
      · rw [lookup_modify, hgone, Function.update_of_ne (Ne.symm he)]

/-- What a client put on its pipe is understood. -/
theorem Steady.pipeMessage {κ : RouteCodec} {r : ServerRouter} (h : r.Steady κ) {c : ClientId}
    {message : Bytes} (hm : Wire κ message)
    (hnew : ∀ t payload, wireItem κ t message = some (.msg 0 payload) →
      r.lookup ⟨t, c⟩ = none → gatewayAt r.gateways ⟨t, c⟩ = none) :
    ∃ reply, r.handlePipeMessage κ c message 0 = some reply ∧
      reply.router.Steady κ ∧ Moves κ r (taken κ c message) reply.router := by
  unfold ServerRouter.handlePipeMessage
  cases hm with
  | connect e =>
    rw [κ.deserialize_alone]
    have hnil : taken κ c (κ.serialize (.connect e)) = nothing := by
      funext ep
      rw [taken, wireItem_connect]
      split <;> rfl
    rw [hnil]
    exact ⟨_, rfl, h.handleRouteConnect c⟩
  | channelMsg m payload hsize =>
    rw [κ.deserialize_serialize]
    refine h.handleRouteChannelMsg hsize fun hseq => hnew m.tag payload ?_
    rw [wireItem_channelMsg κ _ m payload hsize, if_pos rfl, hseq]
    rfl
  | channelEnd e =>
    rw [κ.deserialize_alone]
    exact ⟨_, rfl, h.handleRouteChannelEnd c e⟩

end ServerRouter

end Ocvsmd.Ipc
