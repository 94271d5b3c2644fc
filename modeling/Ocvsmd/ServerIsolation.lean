import Ocvsmd.OneEnding
import Ocvsmd.Selection

/-!
What a server router is to one of its clients: a router that serves this client alone.
Gateways go by the order in which they were made for the client.
-/

set_option autoImplicit false

namespace Ocvsmd.Ipc

namespace ServerRouter

def ofClient (c : ClientId) (gw : GatewayImpl Endpoint) : Bool := gw.endpoint.clientId = c

/-- The number of a gateway among those of its client. -/
def place (r : ServerRouter) (c : ClientId) (g : GatewayId) : GatewayId :=
  Selection.rank (ofClient c) r.gateways g

def isOf (r : ServerRouter) (c : ClientId) (g : GatewayId) : Bool :=
  (r.gateways[g]?).any (ofClient c)

/-- The part of the router that belongs to a client. -/
def only (r : ServerRouter) (c : ClientId) : ServerRouter where
  clientIdToMapOfGateways := Function.update (fun _ => none) c
    ((r.clientIdToMapOfGateways c).map (Selection.rename (r.place c)))
  serviceIdToChannelFactory := r.serviceIdToChannelFactory
  gateways := r.gateways.filter (ofClient c)
  remaining := (r.remaining.filter (r.isOf c)).map (r.place c)
  serverPipe := Function.update (fun _ => []) c (r.serverPipe c)

/-- What an action is to a client, if anything. Services are registered for everyone. -/
def about (r : ServerRouter) (c : ClientId) : ServerAction → Option ServerAction
  | .registerChannelFactory serviceId input => some (.registerChannelFactory serviceId input)
  | .send g serviceId payload outcome =>
    if r.isOf c g then some (.send (r.place c g) serviceId payload outcome) else none
  | .complete g errorCode =>
    if r.isOf c g then some (.complete (r.place c g) errorCode) else none
  | .subscribe g handler =>
    if r.isOf c g then some (.subscribe (r.place c g) handler) else none
  | .release g outcome => if r.isOf c g then some (.release (r.place c g) outcome) else none
  | .pipeConnected d => if d = c then some (.pipeConnected c) else none
  | .pipeMessage d payload outcome =>
    if d = c then some (.pipeMessage c payload outcome) else none
  | .pipeDisconnected d order =>
    if d = c then some (.pipeDisconnected c (order.map (r.place c))) else none
  | .notifyNext => if (r.remaining.head?).any (r.isOf c) then some .notifyNext else none

def renumber (r : ServerRouter) (c : ClientId) : Call → Call
  | .event g e => .event (r.place c g) e
  | .newChannel g serviceId payload => .newChannel (r.place c g) serviceId payload

def onlyReply (c : ClientId) (reply : Reply ServerRouter) : Reply ServerRouter where
  router := reply.router.only c
  code := reply.code
  call := reply.call.map (reply.router.renumber c)

theorem isOf_iff {r : ServerRouter} {c : ClientId} {g : GatewayId} :
    r.isOf c g = true ↔ ∃ gw, r.gateways[g]? = some gw ∧ gw.endpoint.clientId = c := by
  cases h : r.gateways[g]? <;> simp [isOf, ofClient, h]

theorem Wf.isOf {r : ServerRouter} (h : r.Wf) {c : ClientId} {t : Tag} {g : GatewayId}
    (hl : r.lookup ⟨t, c⟩ = some g) : r.isOf c g = true := by
  obtain ⟨gw, hg, he, _⟩ := h.registry ⟨t, c⟩ g hl
  exact isOf_iff.mpr ⟨gw, hg, by rw [he]⟩

theorem getElem?_place {r : ServerRouter} {c : ClientId} {g : GatewayId}
    (h : r.isOf c g = true) : (r.only c).gateways[r.place c g]? = r.gateways[g]? := by
  obtain ⟨gw, hg, hc⟩ := isOf_iff.mp h
  rw [hg]
  exact Selection.getElem?_filter_rank hg (by simp [ofClient, hc])

theorem isAlive_place {r : ServerRouter} {c : ClientId} {g : GatewayId}
    (h : r.isOf c g = true) :
    isAlive (r.only c).gateways (r.place c g) = isAlive r.gateways g := by
  rw [isAlive, isAlive, getElem?_place h]

theorem channel_place {r : ServerRouter} {c : ClientId} {g : GatewayId}
    (h : r.isOf c g = true) : (r.only c).channel (r.place c g) = r.channel g := by
  rw [channel, channel, getElem?_place h]

@[simp] theorem maps_only (r : ServerRouter) (c : ClientId) :
    (r.only c).clientIdToMapOfGateways c =
      (r.clientIdToMapOfGateways c).map (Selection.rename (r.place c)) := by
  simp [only]

theorem isConnected_only (r : ServerRouter) (ep : Endpoint) :
    (r.only ep.clientId).isConnected ep = r.isConnected ep := by
  simp [isConnected]

theorem lookup_only (r : ServerRouter) (c : ClientId) (t : Tag) :
    (r.only c).lookup ⟨t, c⟩ = (r.lookup ⟨t, c⟩).map (r.place c) := by
  cases h : r.clientIdToMapOfGateways c <;> simp [lookup, h, Selection.lookup_rename]

theorem isRegisteredGateway_only (r : ServerRouter) (ep : Endpoint) :
    (r.only ep.clientId).isRegisteredGateway ep = r.isRegisteredGateway ep := by
  obtain ⟨t, c⟩ := ep
  simp [isRegisteredGateway, lookup_only]

theorem findGateway_only {r : ServerRouter} (h : r.Wf) (c : ClientId) (t : Tag) :
    (r.only c).findGateway ⟨t, c⟩ = (r.findGateway ⟨t, c⟩).map (r.place c) := by
  rw [findGateway, findGateway, lookup_only]
  cases hl : r.lookup ⟨t, c⟩ with
  | none => rfl
  | some g =>
    have halive := isAlive_place (h.isOf hl)
    cases ha : isAlive r.gateways g <;> simp [Option.filter, halive, ha]

theorem ofClient_of_endpoint {f : GatewayImpl Endpoint → GatewayImpl Endpoint}
    (hf : ∀ gw, (f gw).endpoint = gw.endpoint) (c : ClientId) (gw : GatewayImpl Endpoint) :
    ofClient c (f gw) = ofClient c gw := by
  rw [ofClient, ofClient, hf]

theorem place_modify {f : GatewayImpl Endpoint → GatewayImpl Endpoint}
    (hf : ∀ gw, (f gw).endpoint = gw.endpoint) (r : ServerRouter) (c : ClientId)
    (g : GatewayId) : (r.modify g f).place c = r.place c := by
  funext i
  exact Selection.rank_modify (ofClient_of_endpoint hf c) r.gateways g i

theorem isOf_modify {f : GatewayImpl Endpoint → GatewayImpl Endpoint}
    (hf : ∀ gw, (f gw).endpoint = gw.endpoint) (r : ServerRouter) (c : ClientId)
    (g : GatewayId) : (r.modify g f).isOf c = r.isOf c := by
  funext i
  simp only [isOf, gateways_modify, List.getElem?_modify]
  by_cases hgi : g = i <;> cases r.gateways[i]? <;> simp [hgi, ofClient_of_endpoint hf]

theorem only_modify {f : GatewayImpl Endpoint → GatewayImpl Endpoint}
    (hf : ∀ gw, (f gw).endpoint = gw.endpoint) {r : ServerRouter} {c : ClientId}
    {g : GatewayId} (h : r.isOf c g = true) :
    (r.modify g f).only c = (r.only c).modify (r.place c g) f := by
  obtain ⟨gw, hg, hc⟩ := isOf_iff.mp h
  have hgateways := Selection.filter_modify (ofClient_of_endpoint hf c) hg (by simp [ofClient, hc])
  simp only [only, place_modify hf, isOf_modify hf]
  simp only [modify, hgateways, place]

theorem only_modify_other {f : GatewayImpl Endpoint → GatewayImpl Endpoint}
    (hf : ∀ gw, (f gw).endpoint = gw.endpoint) {r : ServerRouter} {c : ClientId}
    {g : GatewayId} (h : r.isOf c g = false) : (r.modify g f).only c = r.only c := by
  have hgateways := Selection.filter_modify_other (ofClient_of_endpoint hf c)
    (l := r.gateways) (i := g) fun gw hg => by simpa [isOf, hg] using h
  simp only [only, place_modify hf, isOf_modify hf]
  simp only [modify, hgateways]

theorem only_pipeSend (r : ServerRouter) (c : ClientId) (message : Bytes) (outcome : Int32) :
    (r.pipeSend c message outcome).only c = (r.only c).pipeSend c message outcome := by
  unfold pipeSend
  split
  · simp only [only, Function.update_self, Function.update_idem]
    rfl
  · rfl

theorem only_pipeSend_other {c d : ClientId} (h : d ≠ c) (r : ServerRouter) (message : Bytes)
    (outcome : Int32) : (r.pipeSend d message outcome).only c = r.only c := by
  unfold pipeSend
  split
  · simp only [only, Function.update_of_ne h.symm]
    rfl
  · rfl

theorem only_setMap (r : ServerRouter) (c : ClientId) (m : Option MapOfWeakGateways) :
    (r.setMap c m).only c = (r.only c).setMap c (m.map (Selection.rename (r.place c))) := by
  simp only [setMap, only, Function.update_self, Function.update_idem]
  rfl

theorem only_setMap_other {c d : ClientId} (h : d ≠ c) (r : ServerRouter)
    (m : Option MapOfWeakGateways) : (r.setMap d m).only c = r.only c := by
  simp only [setMap, only, Function.update_of_ne h.symm]
  rfl

theorem isOf_self {r : ServerRouter} {g : GatewayId} {gw : GatewayImpl Endpoint}
    (hg : r.gateways[g]? = some gw) : r.isOf gw.endpoint.clientId g = true :=
  isOf_iff.mpr ⟨gw, hg, rfl⟩

theorem isOf_other {r : ServerRouter} {c : ClientId} {g : GatewayId} {gw : GatewayImpl Endpoint}
    (hg : r.gateways[g]? = some gw) (hc : gw.endpoint.clientId ≠ c) : r.isOf c g = false := by
  simp [isOf, ofClient, hg, hc]

theorem only_raise {r : ServerRouter} {c : ClientId} {g : GatewayId} (h : r.isOf c g = true)
    (e : Event) : onlyReply c (r.raise g e) = (r.only c).raise (r.place c g) e := by
  obtain ⟨gw, hg, hc⟩ := isOf_iff.mp h
  have hhear := (GatewayImpl.quiet_hear (E := Endpoint) e).endpoint
  simp only [raise, getElem?_place h, hg, onlyReply, only_modify hhear h]
  cases gw.handles e with
  | false => rfl
  | true => simp [renumber, place_modify hhear]

theorem only_raise_other {r : ServerRouter} {c : ClientId} {g : GatewayId}
    (h : r.isOf c g = false) (e : Event) : (r.raise g e).router.only c = r.only c := by
  unfold raise
  split
  · exact only_modify_other (GatewayImpl.quiet_hear e).endpoint h
  · rfl

theorem only_send {κ : RouteCodec} {r : ServerRouter} {g : GatewayId}
    {gw : GatewayImpl Endpoint} (hg : r.gateways[g]? = some gw) (serviceId : ServiceId)
    (payload : Bytes) (outcome : Int32) :
    onlyReply gw.endpoint.clientId (r.send κ g gw serviceId payload outcome) =
      (r.only gw.endpoint.clientId).send κ (r.place gw.endpoint.clientId g) gw serviceId payload
        outcome := by
  simp only [send, isConnected_only, isRegisteredGateway_only]
  split
  · rfl
  · split
    · rfl
    · rw [onlyReply, only_pipeSend, only_modify (GatewayImpl.quiet_advance_post _ _).endpoint
        (isOf_self hg)]
      rfl

theorem only_send_other {κ : RouteCodec} {r : ServerRouter} {c : ClientId} {g : GatewayId}
    {gw : GatewayImpl Endpoint} (hg : r.gateways[g]? = some gw) (hc : gw.endpoint.clientId ≠ c)
    (serviceId : ServiceId) (payload : Bytes) (outcome : Int32) :
    (r.send κ g gw serviceId payload outcome).router.only c = r.only c := by
  unfold send
  split
  · rfl
  · split
    · rfl
    · exact (only_pipeSend_other hc _ _ _).trans
        (only_modify_other (GatewayImpl.quiet_advance_post _ _).endpoint (isOf_other hg hc))

theorem only_onGatewaySubscription {r : ServerRouter} (h : r.Wf) (ep : Endpoint) :
    onlyReply ep.clientId (r.onGatewaySubscription ep) =
      (r.only ep.clientId).onGatewaySubscription ep := by
  obtain ⟨t, c⟩ := ep
  simp only [onGatewaySubscription, isConnected_only r ⟨t, c⟩, findGateway_only h]
  split
  · cases hf : r.findGateway ⟨t, c⟩ with
    | none => rfl
    | some g =>
      have hl : r.lookup ⟨t, c⟩ = some g := (Option.filter_eq_some_iff.mp hf).1
      exact only_raise (h.isOf hl) .connected
  · rfl

theorem only_subscribe {r : ServerRouter} (h : r.Wf) {g : GatewayId}
    {gw : GatewayImpl Endpoint} (hg : r.gateways[g]? = some gw) (handler : Option Decoder) :
    onlyReply gw.endpoint.clientId (r.subscribe g gw handler) =
      (r.only gw.endpoint.clientId).subscribe (r.place gw.endpoint.clientId g) gw handler := by
  have hquiet := GatewayImpl.quiet_subscribe (E := Endpoint) handler
  have hreply := only_onGatewaySubscription (h.modify g hquiet) gw.endpoint
  rw [only_modify hquiet.endpoint (isOf_self hg)] at hreply
  rw [subscribe, subscribe, ← hreply]
  rfl

theorem only_subscribe_other {r : ServerRouter} (h : r.Wf) {c : ClientId} {g : GatewayId}
    {gw : GatewayImpl Endpoint} (hg : r.gateways[g]? = some gw) (hc : gw.endpoint.clientId ≠ c)
    (handler : Option Decoder) : (r.subscribe g gw handler).router.only c = r.only c := by
  have hquiet := GatewayImpl.quiet_subscribe (E := Endpoint) handler
  have hmodify := only_modify_other hquiet.endpoint (isOf_other hg hc)
  unfold subscribe onGatewaySubscription
  simp only
  split
  · split
    · next i hf =>
      have hl := (Option.filter_eq_some_iff.mp hf).1
      obtain ⟨x, hx, he, _⟩ := (h.modify g hquiet).registry _ _ hl
      exact (only_raise_other (isOf_other hx (by rw [he]; exact hc)) _).trans hmodify
    · exact hmodify
  · exact hmodify

theorem place_congr {r r' : ServerRouter} (h : r'.gateways = r.gateways) (c : ClientId) :
    r'.place c = r.place c := by
  funext g
  rw [place, place, h]

theorem only_destroy {κ : RouteCodec} {r : ServerRouter} {g : GatewayId}
    {gw : GatewayImpl Endpoint} (hg : r.gateways[g]? = some gw) (outcome : Int32) :
    (r.destroy κ g gw outcome).only gw.endpoint.clientId =
      (r.only gw.endpoint.clientId).destroy κ (r.place gw.endpoint.clientId g) gw outcome := by
  have hself := isOf_self hg
  have hexpire : ∀ x : GatewayImpl Endpoint, x.expire.endpoint = x.endpoint := fun _ => rfl
  have hpost := (GatewayImpl.quiet_post (E := Endpoint) (.fin gw.completionErrorCode)
    outcome).endpoint
  have hdying := only_modify hexpire hself
  rw [destroy, destroy, ← hdying]
  generalize hr : r.modify g (·.expire) = dying
  have hplace : r.place gw.endpoint.clientId = dying.place gw.endpoint.clientId := by
    rw [← hr, place_modify hexpire]
  have hstill : dying.isOf gw.endpoint.clientId g = true := by
    rw [← hr, isOf_modify hexpire]
    exact hself
  rw [hplace]
  unfold onGatewayDisposal
  rw [maps_only]
  cases hm : dying.clientIdToMapOfGateways gw.endpoint.clientId with
  | none => rfl
  | some m =>
    have hset := only_setMap dying gw.endpoint.clientId (some (m.erase gw.endpoint.tag))
    rw [Option.map_some, Selection.rename_erase] at hset
    simp only [Option.map_some, ← hset, isConnected_only, Selection.lookup_rename,
      Option.isSome_map]
    split
    · have hstill' : (dying.setMap gw.endpoint.clientId (some (m.erase gw.endpoint.tag))).isOf
          gw.endpoint.clientId g = true := hstill
      rw [only_pipeSend, only_modify hpost hstill']
      rfl
    · rfl

theorem only_destroy_other {κ : RouteCodec} {r : ServerRouter} {c : ClientId} {g : GatewayId}
    {gw : GatewayImpl Endpoint} (hg : r.gateways[g]? = some gw) (hc : gw.endpoint.clientId ≠ c)
    (outcome : Int32) : (r.destroy κ g gw outcome).only c = r.only c := by
  have hexpire : ∀ x : GatewayImpl Endpoint, x.expire.endpoint = x.endpoint := fun _ => rfl
  have hpost := (GatewayImpl.quiet_post (E := Endpoint) (.fin gw.completionErrorCode)
    outcome).endpoint
  have hother := isOf_other hg hc
  have hdying : (r.modify g (·.expire)).only c = r.only c := only_modify_other hexpire hother
  have hstill : (r.modify g (·.expire)).isOf c g = false := by
    rw [isOf_modify hexpire]
    exact hother
  unfold destroy onGatewayDisposal
  split
  · exact hdying
  · next m _ =>
    have herased : ((r.modify g (·.expire)).setMap gw.endpoint.clientId
        (some (m.erase gw.endpoint.tag))).only c = r.only c :=
      (only_setMap_other hc _ _).trans hdying
    have hstill' : ((r.modify g (·.expire)).setMap gw.endpoint.clientId
        (some (m.erase gw.endpoint.tag))).isOf c g = false := hstill
    simp only
    split
    · exact (only_pipeSend_other hc _ _ _).trans ((only_modify_other hpost hstill').trans herased)
    · exact herased

theorem only_handleRouteConnect (κ : RouteCodec) (r : ServerRouter) (c : ClientId)
    (outcome : Int32) :
    onlyReply c (r.handleRouteConnect κ c outcome) =
      (r.only c).handleRouteConnect κ c outcome := by
  simp only [handleRouteConnect]
  split
  · have hplace : (r.pipeSend c (κ.serialize (.connect ⟨currentVersion, 0⟩)) outcome).place c =
        r.place c := place_congr (gateways_pipeSend _ _ _ _) c
    rw [onlyReply, only_setMap, only_pipeSend, maps_only, hplace]
    cases r.clientIdToMapOfGateways c <;> rfl
  · rw [onlyReply, only_pipeSend]
    rfl

theorem only_handleRouteConnect_other {c d : ClientId} (h : d ≠ c) (κ : RouteCodec)
    (r : ServerRouter) (outcome : Int32) :
    (r.handleRouteConnect κ d outcome).router.only c = r.only c := by
  unfold handleRouteConnect
  simp only
  split
  · rw [only_setMap_other h, only_pipeSend_other h]
  · exact only_pipeSend_other h _ _ _

theorem place_append (r : ServerRouter) (c : ClientId) (gw : GatewayImpl Endpoint)
    {g : GatewayId} (h : g ≤ r.gateways.length) :
    place { r with gateways := r.gateways ++ [gw] } c g = r.place c g :=
  Selection.rank_append (ofClient c) h [gw]

theorem isOf_append (r : ServerRouter) (c : ClientId) (gw : GatewayImpl Endpoint)
    {g : GatewayId} (h : g < r.gateways.length) :
    isOf { r with gateways := r.gateways ++ [gw] } c g = r.isOf c g := by
  rw [isOf, isOf, List.getElem?_append_left h]

theorem place_length (r : ServerRouter) (c : ClientId) :
    r.place c r.gateways.length = (r.only c).gateways.length :=
  Selection.rank_length (ofClient c) r.gateways

theorem Wf.listed {r : ServerRouter} (h : r.Wf) {c : ClientId} {m : MapOfWeakGateways}
    (hm : r.clientIdToMapOfGateways c = some m) {e : Σ _ : Tag, GatewayId}
    (he : e ∈ m.entries) : r.isOf c e.2 = true ∧ e.2 < r.gateways.length := by
  have hl : r.lookup ⟨e.1, c⟩ = some e.2 := (lookup_eq hm e.1).trans (AList.mem_lookup_iff.mpr he)
  exact ⟨h.isOf hl, h.index_lt hl⟩

theorem rename_place_append {r : ServerRouter} (h : r.Wf) {c : ClientId}
    {m : MapOfWeakGateways} (hm : r.clientIdToMapOfGateways c = some m)
    (gw : GatewayImpl Endpoint) :
    Selection.rename (place { r with gateways := r.gateways ++ [gw] } c) m =
      Selection.rename (r.place c) m :=
  Selection.rename_congr fun _ he => place_append r c gw (Nat.le_of_lt (h.listed hm he).2)

theorem only_append {r : ServerRouter} (hw : r.Wf) (ho : r.Orderly) (c : ClientId)
    (gw : GatewayImpl Endpoint) :
    only { r with gateways := r.gateways ++ [gw] } c =
      { r.only c with gateways := (r.only c).gateways ++ [gw].filter (ofClient c) } := by
  have hmaps : (r.clientIdToMapOfGateways c).map
      (Selection.rename (place { r with gateways := r.gateways ++ [gw] } c)) =
      (r.clientIdToMapOfGateways c).map (Selection.rename (r.place c)) := by
    cases hm : r.clientIdToMapOfGateways c with
    | none => rfl
    | some m => exact congrArg some (rename_place_append hw hm gw)
  have hremaining : (r.remaining.filter (isOf { r with gateways := r.gateways ++ [gw] } c)).map
      (place { r with gateways := r.gateways ++ [gw] } c) =
      (r.remaining.filter (r.isOf c)).map (r.place c) := by
    rw [List.filter_congr fun g hg => isOf_append r c gw (ho.made g hg)]
    refine List.map_congr_left fun g hg => ?_
    exact place_append r c gw (Nat.le_of_lt (ho.made g (List.mem_of_mem_filter hg)))
  simp only [only, hmaps, hremaining, List.filter_append]

theorem only_makeChannel {κ : RouteCodec} {r : ServerRouter} (hw : r.Wf) (ho : r.Orderly)
    {c : ClientId} {mapOfGws : MapOfWeakGateways}
    (hm : r.clientIdToMapOfGateways c = some mapOfGws) (m : RouteChannelMsg) (input : Decoder)
    (realPayload : Bytes) (outcome : Int32) :
    onlyReply c (r.makeChannel κ c mapOfGws m input realPayload outcome) =
      (r.only c).makeChannel κ c (Selection.rename (r.place c) mapOfGws) m input realPayload
        outcome := by
  let gw : GatewayImpl Endpoint :=
    { endpoint := ⟨m.tag, c⟩, events := [.message m.sequence realPayload] }
  have hnew : place { r with gateways := r.gateways ++ [gw] } c r.gateways.length =
      (r.only c).gateways.length :=
    (place_append r c gw (Nat.le_refl _)).trans (place_length r c)
  have hmine : [gw].filter (ofClient c) = [gw] := by simp [gw, ofClient]
  have hmade : (setMap { r with gateways := r.gateways ++ [gw] } c
      (some (mapOfGws.insert m.tag r.gateways.length))).only c =
      setMap { r.only c with gateways := (r.only c).gateways ++ [gw] } c
        (some ((Selection.rename (r.place c) mapOfGws).insert m.tag
          (r.only c).gateways.length)) := by
    rw [only_setMap, only_append hw ho, hmine, Option.map_some, Selection.rename_insert,
      rename_place_append hw hm, hnew]
  unfold makeChannel
  simp only
  split
  · simp only [onlyReply, Option.map_some, renumber]
    rw [hmade]
    exact congrArg _ (congrArg some (congrArg (Call.newChannel · m.serviceId realPayload) hnew))
  · let made := setMap { r with gateways := r.gateways ++ [gw] } c
      (some (mapOfGws.insert m.tag r.gateways.length))
    have hdestroy : (made.destroy κ r.gateways.length gw outcome).only c =
        (made.only c).destroy κ (made.place c r.gateways.length) gw outcome :=
      only_destroy (by simp [made]) outcome
    have hplace : made.place c r.gateways.length = (r.only c).gateways.length := hnew
    rw [hmade, hplace] at hdestroy
    exact congrArg (fun x => ({ router := x } : Reply ServerRouter)) hdestroy

theorem only_makeChannel_other {κ : RouteCodec} {r : ServerRouter} (hw : r.Wf)
    (ho : r.Orderly) {c d : ClientId} (h : d ≠ c) (mapOfGws : MapOfWeakGateways)
    (m : RouteChannelMsg) (input : Decoder) (realPayload : Bytes) (outcome : Int32) :
    (r.makeChannel κ d mapOfGws m input realPayload outcome).router.only c = r.only c := by
  let gw : GatewayImpl Endpoint :=
    { endpoint := ⟨m.tag, d⟩, events := [.message m.sequence realPayload] }
  have hmade : (setMap { r with gateways := r.gateways ++ [gw] } d
      (some (mapOfGws.insert m.tag r.gateways.length))).only c = r.only c := by
    have htheirs : [gw].filter (ofClient c) = [] := by simp [gw, ofClient, h]
    rw [only_setMap_other h, only_append hw ho, htheirs, List.append_nil]
  unfold makeChannel
  simp only
  split
  · exact hmade
  · have hlast : (setMap { r with gateways := r.gateways ++ [gw] } d
        (some (mapOfGws.insert m.tag r.gateways.length))).gateways[r.gateways.length]? = some gw := by
      simp
    exact (only_destroy_other hlast h outcome).trans hmade

theorem only_handleRouteChannelMsg {κ : RouteCodec} {r : ServerRouter} (hw : r.Wf)
    (ho : r.Orderly) (c : ClientId) (m : RouteChannelMsg) (payload : Bytes) (outcome : Int32) :
    (r.handleRouteChannelMsg κ c m payload outcome).map (onlyReply c) =
      (r.only c).handleRouteChannelMsg κ c m payload outcome := by
  unfold handleRouteChannelMsg
  cases msgRealPayload payload m with
  | none => rfl
  | some realPayload =>
    simp only [Option.map_some, maps_only]
    congr 1
    cases hm : r.clientIdToMapOfGateways c with
    | none => rfl
    | some mapOfGws =>
      have hlookup := lookup_eq hm m.tag
      simp only [Option.map_some, Selection.lookup_rename]
      cases hl : mapOfGws.lookup m.tag with
      | none =>
        simp only [Option.filter_none, Option.map_none]
        by_cases hseq : m.sequence = 0
        · simp only [hseq, if_true, show (r.only c).serviceIdToChannelFactory =
            r.serviceIdToChannelFactory from rfl]
          cases r.serviceIdToChannelFactory m.serviceId with
          | none => rfl
          | some input => exact only_makeChannel hw ho hm m input realPayload outcome
        · simp only [hseq, if_false]
          rfl
      | some g =>
        have hg : r.isOf c g = true := hw.isOf (hlookup.trans hl)
        obtain ⟨gw, hgw, _, halive⟩ := hw.registry _ _ (hlookup.trans hl)
        have hlocked : isAlive r.gateways g = true := isAlive_iff.mpr ⟨gw, hgw, halive⟩
        have hlocked' : isAlive (r.only c).gateways (r.place c g) = true :=
          (isAlive_place hg).trans hlocked
        simp only [Option.map_some, Option.filter_some, hlocked, hlocked', if_true]
        exact only_raise hg _

theorem Wf.other {r : ServerRouter} (hw : r.Wf) {c d : ClientId} (h : d ≠ c) {t : Tag}
    {g : GatewayId} (hl : r.lookup ⟨t, d⟩ = some g) : r.isOf c g = false := by
  obtain ⟨gw, hg, he, _⟩ := hw.registry ⟨t, d⟩ g hl
  exact isOf_other hg (by rw [he]; exact h)

theorem only_handleRouteChannelMsg_other {κ : RouteCodec} {r : ServerRouter} (hw : r.Wf)
    (ho : r.Orderly) {c d : ClientId} (h : d ≠ c) {m : RouteChannelMsg} {payload : Bytes}
    {outcome : Int32} {reply : Reply ServerRouter}
    (hp : r.handleRouteChannelMsg κ d m payload outcome = some reply) :
    reply.router.only c = r.only c := by
  obtain ⟨realPayload, _, rfl⟩ := Option.map_eq_some_iff.mp hp
  split
  · rfl
  · next mapOfGws hm =>
    split
    · next g hf =>
      have hl := (lookup_eq hm m.tag).trans (Option.filter_eq_some_iff.mp hf).1
      exact only_raise_other (hw.other h hl) _
    · split
      · split
        · exact only_makeChannel_other hw ho h _ _ _ _ _
        · rfl
      · rfl

theorem only_handleRouteChannelEnd {r : ServerRouter} (hw : r.Wf) (c : ClientId)
    (e : RouteChannelEnd) :
    onlyReply c (r.handleRouteChannelEnd c e) = (r.only c).handleRouteChannelEnd c e := by
  unfold handleRouteChannelEnd
  rw [maps_only, findGateway_only hw]
  cases hm : r.clientIdToMapOfGateways c with
  | none => rfl
  | some mapOfGws =>
    simp only [Option.map_some]
    cases hf : r.findGateway ⟨e.tag, c⟩ with
    | none => rfl
    | some g =>
      have hg : r.isOf c g = true := hw.isOf (Option.filter_eq_some_iff.mp hf).1
      have hset := only_setMap r c (some (mapOfGws.erase e.tag))
      rw [Option.map_some, Selection.rename_erase] at hset
      have hraise := only_raise (r := r.setMap c (some (mapOfGws.erase e.tag))) (c := c) (g := g)
        hg (.completed e.errorCode)
      rw [hset] at hraise
      exact hraise

theorem only_handleRouteChannelEnd_other {r : ServerRouter} (hw : r.Wf) {c d : ClientId}
    (h : d ≠ c) (e : RouteChannelEnd) :
    (r.handleRouteChannelEnd d e).router.only c = r.only c := by
  unfold handleRouteChannelEnd
  split
  · rfl
  · next mapOfGws _ =>
    split
    · next g hf =>
      have hg : (r.setMap d (some (mapOfGws.erase e.tag))).isOf c g = false :=
        hw.other h (Option.filter_eq_some_iff.mp hf).1
      exact (only_raise_other hg _).trans (only_setMap_other h _ _)
    · rfl

theorem only_handlePipeMessage {κ : RouteCodec} {r : ServerRouter} (hw : r.Wf) (ho : r.Orderly)
    (c : ClientId) (payload : Bytes) (outcome : Int32) :
    (r.handlePipeMessage κ c payload outcome).map (onlyReply c) =
      (r.only c).handlePipeMessage κ c payload outcome := by
  unfold handlePipeMessage
  cases κ.deserialize payload with
  | none => rfl
  | some route =>
    cases route with
    | empty => rfl
    | connect conn => exact congrArg some (only_handleRouteConnect κ r c outcome)
    | channelMsg m => exact only_handleRouteChannelMsg hw ho c m payload outcome
    | channelEnd e => exact congrArg some (only_handleRouteChannelEnd hw c e)

theorem only_handlePipeMessage_other {κ : RouteCodec} {r : ServerRouter} (hw : r.Wf)
    (ho : r.Orderly) {c d : ClientId} (h : d ≠ c) {payload : Bytes} {outcome : Int32}
    {reply : Reply ServerRouter} (hp : r.handlePipeMessage κ d payload outcome = some reply) :
    reply.router.only c = r.only c := by
  unfold handlePipeMessage at hp
  split at hp
  · cases hp; rfl
  · cases hp; rfl
  · cases hp
    exact only_handleRouteConnect_other h κ r outcome
  · exact only_handleRouteChannelMsg_other hw ho h hp
  · cases hp
    exact only_handleRouteChannelEnd_other hw h _

theorem ids_only (r : ServerRouter) (c : ClientId) :
    (r.only c).ids c = (r.ids c).map (r.place c) := by
  rw [ids, ids, maps_only]
  cases r.clientIdToMapOfGateways c with
  | none => rfl
  | some m => simp [MapOfWeakGateways.ids, Selection.rename]

theorem idle_only {r : ServerRouter} (h : r.idle = true) (c : ClientId) :
    (r.only c).idle = true := by
  have hnil : r.remaining = [] := List.isEmpty_iff.mp h
  simp [idle, only, hnil]

theorem only_handlePipeDisconnected {r : ServerRouter} (hw : r.Wf) {c : ClientId}
    {order : List GatewayId} (horder : order.Perm (r.ids c)) :
    onlyReply c (r.handlePipeDisconnected c order) =
      (r.only c).handlePipeDisconnected c (order.map (r.place c)) := by
  unfold handlePipeDisconnected
  rw [maps_only]
  cases hm : r.clientIdToMapOfGateways c with
  | none => rfl
  | some m =>
    have hmine : order.filter (r.isOf c) = order := by
      refine List.filter_eq_self.mpr fun g hg => ?_
      obtain ⟨t, hl⟩ := mem_ids.mp (horder.mem_iff.mp hg)
      exact hw.isOf hl
    have hset := only_setMap r c none
    have hloop : only { r.setMap c none with remaining := order } c =
        { (r.setMap c none).only c with remaining := (order.filter (r.isOf c)).map (r.place c) } :=
      rfl
    rw [hset, hmine] at hloop
    simp only [onlyReply, hloop, Option.map_some]
    rfl

theorem only_handlePipeDisconnected_other {r : ServerRouter} (hw : r.Wf) (h : r.idle = true)
    {c d : ClientId} (hne : d ≠ c) {order : List GatewayId} (horder : order.Perm (r.ids d)) :
    (r.handlePipeDisconnected d order).router.only c = r.only c := by
  unfold handlePipeDisconnected
  split
  · have htheirs : order.filter (r.isOf c) = [] := by
      refine List.filter_eq_nil_iff.mpr fun g hg => ?_
      obtain ⟨t, hl⟩ := mem_ids.mp (horder.mem_iff.mp hg)
      simp [hw.other hne hl]
    have hnil : r.remaining = [] := List.isEmpty_iff.mp h
    have hloop : only { r.setMap d none with remaining := order } c =
        { (r.setMap d none).only c with remaining := (order.filter (r.isOf c)).map (r.place c) } :=
      rfl
    rw [only_setMap_other hne, htheirs] at hloop
    refine hloop.trans ?_
    simp [only, hnil]
  · rfl

theorem only_notifyNext {r : ServerRouter} {c : ClientId}
    (h : (r.remaining.head?).any (r.isOf c) = true) :
    r.notifyNext.map (onlyReply c) = (r.only c).notifyNext := by
  obtain ⟨g, hhead, hg⟩ := (Option.any_eq_true _ _).mp h
  obtain ⟨rest, hrem⟩ := List.head?_eq_some_iff.mp hhead
  let next : ServerRouter := { r with remaining := rest }
  have honly : (r.only c).remaining =
      r.place c g :: (rest.filter (r.isOf c)).map (r.place c) := by
    simp [only, hrem, hg]
  have hnext : next.only c =
      { r.only c with remaining := (rest.filter (r.isOf c)).map (r.place c) } := rfl
  have hraise : onlyReply c (next.raise g (.completed ErrorCode.disconnected)) =
      (next.only c).raise (r.place c g) (.completed ErrorCode.disconnected) :=
    only_raise (r := next) hg _
  simp only [notifyNext, hrem, honly, Option.map_some, isAlive_place hg, ← hnext]
  split
  · exact congrArg some hraise
  · rfl

theorem only_notifyNext_other {r : ServerRouter} {c : ClientId} {reply : Reply ServerRouter}
    (h : (r.remaining.head?).any (r.isOf c) = false) (hn : r.notifyNext = some reply) :
    reply.router.only c = r.only c := by
  unfold notifyNext at hn
  split at hn
  · cases hn
  · next g rest hrem =>
    rw [hrem, List.head?_cons, Option.any_some] at h
    have hnext : only { r with remaining := rest } c = r.only c := by
      have hskip : r.remaining.filter (r.isOf c) = rest.filter (r.isOf c) := by
        rw [hrem, List.filter_cons_of_neg (by simp [h])]
      have honly : only { r with remaining := rest } c =
          { r.only c with remaining := (rest.filter (r.isOf c)).map (r.place c) } := rfl
      rw [honly, ← hskip]
      rfl
    cases hn
    split
    · exact (only_raise_other (r := { r with remaining := rest }) h _).trans hnext
    · exact hnext

theorem channel_of {r : ServerRouter} {c : ClientId} {g : GatewayId}
    {gw : GatewayImpl Endpoint} (h : r.isOf c g = true) (hg : r.channel g = some gw) :
    r.gateways[g]? = some gw ∧ gw.endpoint.clientId = c := by
  obtain ⟨hget, _⟩ := channel_eq_some.mp hg
  obtain ⟨x, hx, hc⟩ := isOf_iff.mp h
  rw [hget] at hx
  cases hx
  exact ⟨hget, hc⟩

theorem channel_other {r : ServerRouter} {c : ClientId} {g : GatewayId}
    {gw : GatewayImpl Endpoint} (h : r.isOf c g = false) (hg : r.channel g = some gw) :
    r.gateways[g]? = some gw ∧ gw.endpoint.clientId ≠ c := by
  obtain ⟨hget, _⟩ := channel_eq_some.mp hg
  refine ⟨hget, ?_⟩
  rintro rfl
  rw [isOf_self hget] at h
  cases h

/-- What is done to a client is done to its part of the router, with the same answer. -/
theorem perform_only {κ : RouteCodec} {r : ServerRouter} (hw : r.Wf) (ho : r.Orderly)
    {c : ClientId} {a b : ServerAction} (ha : r.about c a = some b) {reply : Reply ServerRouter}
    (hp : r.perform κ a = some reply) : (r.only c).perform κ b = some (onlyReply c reply) := by
  cases a with
  | registerChannelFactory serviceId input =>
    cases ha
    cases hp
    rfl
  | send g serviceId payload outcome =>
    obtain ⟨hg, hb⟩ := Option.ite_none_right_eq_some.mp ha
    cases hb
    obtain ⟨gw, hgw, rfl⟩ := Option.map_eq_some_iff.mp hp
    obtain ⟨hget, rfl⟩ := channel_of hg hgw
    simp only [perform, channel_place hg, hgw, Option.map_some, only_send hget]
  | complete g errorCode =>
    obtain ⟨hg, hb⟩ := Option.ite_none_right_eq_some.mp ha
    cases hb
    obtain ⟨gw, hgw, rfl⟩ := Option.map_eq_some_iff.mp hp
    have hmodify := only_modify (GatewayImpl.quiet_complete errorCode).endpoint hg
    simp only [perform, channel_place hg, hgw, Option.map_some, onlyReply, Option.map_none]
    rw [← hmodify]
  | subscribe g handler =>
    obtain ⟨hg, hb⟩ := Option.ite_none_right_eq_some.mp ha
    cases hb
    obtain ⟨gw, hgw, rfl⟩ := Option.map_eq_some_iff.mp hp
    obtain ⟨hget, rfl⟩ := channel_of hg hgw
    simp only [perform, channel_place hg, hgw, Option.map_some, only_subscribe hw hget]
  | release g outcome =>
    obtain ⟨hg, hb⟩ := Option.ite_none_right_eq_some.mp ha
    cases hb
    obtain ⟨gw, hgw, rfl⟩ := Option.map_eq_some_iff.mp hp
    obtain ⟨hget, rfl⟩ := channel_of hg hgw
    simp only [perform, channel_place hg, hgw, Option.map_some, onlyReply, Option.map_none,
      only_destroy hget]
  | pipeConnected d =>
    obtain ⟨rfl, hb⟩ := Option.ite_none_right_eq_some.mp ha
    cases hb
    obtain ⟨hi, hr⟩ := Option.ite_none_right_eq_some.mp hp
    cases hr
    simp only [perform, idle_only hi, if_true]
    rfl
  | pipeMessage d payload outcome =>
    obtain ⟨rfl, hb⟩ := Option.ite_none_right_eq_some.mp ha
    cases hb
    obtain ⟨hi, hr⟩ := Option.ite_none_right_eq_some.mp hp
    simp only [perform, idle_only hi, if_true, ← only_handlePipeMessage hw ho, hr, Option.map_some]
  | pipeDisconnected d order =>
    obtain ⟨rfl, hb⟩ := Option.ite_none_right_eq_some.mp ha
    cases hb
    obtain ⟨⟨hi, horder⟩, hr⟩ := Option.ite_none_right_eq_some.mp hp
    cases hr
    have hids : (order.map (r.place d)).Perm ((r.only d).ids d) := by
      rw [ids_only]
      exact horder.map _
    simp only [perform, idle_only hi, hids, and_self, if_true, only_handlePipeDisconnected hw horder]
  | notifyNext =>
    obtain ⟨hhead, hb⟩ := Option.ite_none_right_eq_some.mp ha
    cases hb
    have hn : r.notifyNext = some reply := hp
    rw [perform, ← only_notifyNext hhead, hn, Option.map_some]

/-- What is done to another client leaves no trace. -/
theorem perform_other {κ : RouteCodec} {r : ServerRouter} (hw : r.Wf) (ho : r.Orderly)
    {c : ClientId} {a : ServerAction} (ha : r.about c a = none) {reply : Reply ServerRouter}
    (hp : r.perform κ a = some reply) : reply.router.only c = r.only c := by
  cases a with
  | registerChannelFactory serviceId input => cases ha
  | send g serviceId payload outcome =>
    have hg : r.isOf c g = false := by simpa [about] using ha
    obtain ⟨gw, hgw, rfl⟩ := Option.map_eq_some_iff.mp hp
    obtain ⟨hget, hne⟩ := channel_other hg hgw
    exact only_send_other hget hne _ _ _
  | complete g errorCode =>
    have hg : r.isOf c g = false := by simpa [about] using ha
    obtain ⟨gw, hgw, rfl⟩ := Option.map_eq_some_iff.mp hp
    exact only_modify_other (GatewayImpl.quiet_complete errorCode).endpoint hg
  | subscribe g handler =>
    have hg : r.isOf c g = false := by simpa [about] using ha
    obtain ⟨gw, hgw, rfl⟩ := Option.map_eq_some_iff.mp hp
    obtain ⟨hget, hne⟩ := channel_other hg hgw
    exact only_subscribe_other hw hget hne _
  | release g outcome =>
    have hg : r.isOf c g = false := by simpa [about] using ha
    obtain ⟨gw, hgw, rfl⟩ := Option.map_eq_some_iff.mp hp
    obtain ⟨hget, hne⟩ := channel_other hg hgw
    exact only_destroy_other hget hne _
  | pipeConnected d =>
    obtain ⟨_, hr⟩ := Option.ite_none_right_eq_some.mp hp
    cases hr
    rfl
  | pipeMessage d payload outcome =>
    have hne : d ≠ c := by simpa [about] using ha
    obtain ⟨_, hr⟩ := Option.ite_none_right_eq_some.mp hp
    exact only_handlePipeMessage_other hw ho hne hr
  | pipeDisconnected d order =>
    have hne : d ≠ c := by simpa [about] using ha
    obtain ⟨⟨hi, horder⟩, hr⟩ := Option.ite_none_right_eq_some.mp hp
    cases hr
    exact only_handlePipeDisconnected_other hw hi hne horder
  | notifyNext =>
    have hhead : (r.remaining.head?).any (r.isOf c) = false := by
      by_contra hne
      simp [about, hne] at ha
    exact only_notifyNext_other hhead hp

/-- What a run gives to a client: the pipe events of the client, the turns of its gateways
in a loop, the operations on its gateways, each with what the pipe answers. The order of a
loop is that of the client's own map. -/
def view (κ : RouteCodec) (c : ClientId) : ServerRouter → List ServerAction → List ServerAction
  | _, [] => []
  | r, a :: as =>
    match r.perform κ a with
    | some reply => (r.about c a).toList ++ view κ c reply.router as
    | none => []

/-- What the router answers to all that, and whom it calls with it. -/
def answers (κ : RouteCodec) (c : ClientId) :
    ServerRouter → List ServerAction → List (Int32 × Option Call)
  | _, [] => []
  | r, a :: as =>
    match r.perform κ a with
    | some reply =>
      ((r.about c a).map fun _ => ((onlyReply c reply).code, (onlyReply c reply).call)).toList ++
        answers κ c reply.router as
    | none => []

def replies (κ : RouteCodec) : ServerRouter → List ServerAction → List (Int32 × Option Call)
  | _, [] => []
  | r, a :: as =>
    match r.perform κ a with
    | some reply => (reply.code, reply.call) :: replies κ reply.router as
    | none => []

/-- To its client a router is one that serves nobody else. -/
theorem run_only {κ : RouteCodec} {r r' : ServerRouter} (hw : r.Wf) (ho : r.Orderly)
    (c : ClientId) {as : List ServerAction} (h : Runs.run (step κ) r as = some r') :
    Runs.run (step κ) (r.only c) (view κ c r as) = some (r'.only c) ∧
      replies κ (r.only c) (view κ c r as) = answers κ c r as := by
  induction as generalizing r with
  | nil =>
    cases h
    exact ⟨rfl, rfl⟩
  | cons a as ih =>
    obtain ⟨m, hm, h⟩ := Runs.run_cons.mp h
    obtain ⟨reply, hp, rfl⟩ := step_eq_some.mp hm
    obtain ⟨hrun, hreplies⟩ := ih (hw.step hm) (ho.progress hw (ho.step_progress hw hm)) h
    simp only [view, answers, hp]
    cases ha : r.about c a with
    | none =>
      rw [perform_other hw ho ha hp] at hrun hreplies
      exact ⟨hrun, hreplies⟩
    | some b =>
      have hb := perform_only hw ho ha hp
      constructor
      · refine Runs.run_cons.mpr ⟨reply.router.only c, ?_, hrun⟩
        exact step_eq_some.mpr ⟨_, hb, rfl⟩
      · simp only [Option.toList_some, Option.map_some, List.singleton_append, replies, hb]
        exact congrArg _ hreplies

/-- Runs that give a client the same are the same to this client. -/
theorem clients_apart (κ : RouteCodec) (c : ClientId) {as bs : List ServerAction}
    {r s : ServerRouter} (ha : Runs.run (step κ) {} as = some r)
    (hb : Runs.run (step κ) {} bs = some s) (hsame : view κ c {} as = view κ c {} bs) :
    r.serverPipe c = s.serverPipe c ∧
    (r.gateways.filter (ofClient c)).map (·.events) =
      (s.gateways.filter (ofClient c)).map (·.events) ∧
    answers κ c {} as = answers κ c {} bs ∧
    r.only c = s.only c := by
  obtain ⟨hrun, hreplies⟩ := run_only wf_init orderly_init c ha
  obtain ⟨hrun', hreplies'⟩ := run_only wf_init orderly_init c hb
  rw [hsame] at hrun hreplies
  have honly : r.only c = s.only c := Option.some.inj (hrun.symm.trans hrun')
  refine ⟨?_, ?_, hreplies.symm.trans hreplies', honly⟩
  · have hpipe := congrArg (fun x => x.serverPipe c) honly
    simpa [only] using hpipe
  · exact congrArg (fun x => x.gateways.map (·.events)) honly

def alone : List ServerAction :=
  [.registerChannelFactory 7 fun _ => true,
    .pipeMessage 1 (Route.serialize (.connect ⟨currentVersion, 0⟩)) 0,
    .pipeMessage 1 firstMessage 0, .send 0 7 [5] 0]

/-- The same, while another uses the same tag, sends what is no message, and is lost. -/
def amongOthers : List ServerAction :=
  [.registerChannelFactory 7 fun _ => true,
    .pipeMessage 2 (Route.serialize (.connect ⟨currentVersion, 0⟩)) 0,
    .pipeMessage 1 (Route.serialize (.connect ⟨currentVersion, 0⟩)) 0,
    .pipeMessage 2 firstMessage 0, .pipeMessage 2 [255] 0,
    .pipeMessage 1 firstMessage 0, .pipeDisconnected 2 [0], .notifyNext, .send 1 7 [5] 0]

theorem clients_apart_sample : ∃ r s,
    Runs.run (step cyphalCodec) {} alone = some r ∧
    Runs.run (step cyphalCodec) {} amongOthers = some s ∧
    r.serverPipe 1 = s.serverPipe 1 ∧ r.only 1 = s.only 1 := by
  have halone : (Runs.run (step cyphalCodec) {} alone).isSome = true := by decide +kernel
  have hothers : (Runs.run (step cyphalCodec) {} amongOthers).isSome = true := by decide +kernel
  obtain ⟨r, hr⟩ := Option.isSome_iff_exists.mp halone
  obtain ⟨s, hs⟩ := Option.isSome_iff_exists.mp hothers
  obtain ⟨hpipe, _, _, honly⟩ := clients_apart cyphalCodec 1 hr hs rfl
  exact ⟨r, s, hr, hs, hpipe, honly⟩

end ServerRouter

end Ocvsmd.Ipc
