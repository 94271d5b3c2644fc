import Ocvsmd.Gateway

set_option autoImplicit false

namespace Ocvsmd.Ipc

open FifoSession (Peer Session)

/-- What the pipe carries: routes as the routers put them, with honest sizes. -/
inductive Wire (κ : RouteCodec) : Bytes → Prop where
  | connect (c : RouteConnect) : Wire κ (κ.serialize (.connect c))
  | channelMsg (m : RouteChannelMsg) (payload : Bytes)
      (size : m.payloadSize = UInt64.ofNat payload.length) :
      Wire κ (κ.serialize (.channelMsg m) ++ payload)
  | channelEnd (e : RouteChannelEnd) : Wire κ (κ.serialize (.channelEnd e))

def wireItem (κ : RouteCodec) (t : Tag) (message : Bytes) : Option Item :=
  match κ.deserialize message with
  | some (.channelMsg m) =>
    if m.tag = t then (msgRealPayload message m).map (.msg m.sequence.toNat) else none
  | some (.channelEnd e) => if e.tag = t then some (.fin e.errorCode) else none
  | _ => none

def wireItems (κ : RouteCodec) (t : Tag) (queue : List Bytes) : List Item :=
  queue.filterMap (wireItem κ t)

theorem wireItem_connect (κ : RouteCodec) (t : Tag) (c : RouteConnect) :
    wireItem κ t (κ.serialize (.connect c)) = none := by
  simp [wireItem]

theorem wireItem_channelMsg (κ : RouteCodec) (t : Tag) (m : RouteChannelMsg) (payload : Bytes)
    (hsize : m.payloadSize = UInt64.ofNat payload.length) :
    wireItem κ t (κ.serialize (.channelMsg m) ++ payload) =
      if m.tag = t then some (.msg m.sequence.toNat payload) else none := by
  simp [wireItem, κ.deserialize_serialize,
    msgRealPayload_append _ payload m (κ.serialize_length _) hsize]

theorem wireItem_channelEnd (κ : RouteCodec) (t : Tag) (e : RouteChannelEnd) :
    wireItem κ t (κ.serialize (.channelEnd e)) =
      if e.tag = t then some (.fin e.errorCode) else none := by
  simp [wireItem]

@[simp] theorem wireItems_append (κ : RouteCodec) (t : Tag) (q r : List Bytes) :
    wireItems κ t (q ++ r) = wireItems κ t q ++ wireItems κ t r :=
  List.filterMap_append

theorem wireItems_cons (κ : RouteCodec) (t : Tag) (b : Bytes) (q : List Bytes) :
    wireItems κ t (b :: q) = (wireItem κ t b).toList ++ wireItems κ t q := by
  unfold wireItems
  cases h : wireItem κ t b <;> simp [h]

@[simp] theorem wireItems_nil (κ : RouteCodec) (t : Tag) : wireItems κ t [] = [] := rfl

@[simp] theorem wireItems_singleton (κ : RouteCodec) (t : Tag) (b : Bytes) :
    wireItems κ t [b] = (wireItem κ t b).toList := by
  simp [wireItems_cons]

def peerOf {E : Type} [DecidableEq E] (gs : List (GatewayImpl E)) (ep : E) (live : Bool) :
    Peer Bytes Int32 :=
  match gatewayAt gs ep with
  | some gw => ⟨1, live, gw.sent, gw.got⟩
  | none => .none

theorem peerOf_of_gateway {E : Type} [DecidableEq E] {gs : List (GatewayImpl E)}
    (hd : Distinct gs) {g : GatewayId} {gw : GatewayImpl E} (hg : gs[g]? = some gw) (live : Bool) :
    peerOf gs gw.endpoint live = ⟨1, live, gw.sent, gw.got⟩ := by
  simp [peerOf, hd.gatewayAt hg]

theorem peerOf_modify {E : Type} [DecidableEq E] {gs : List (GatewayImpl E)}
    (hd : Distinct gs) {g : GatewayId} {gw : GatewayImpl E} (hg : gs[g]? = some gw)
    {f : GatewayImpl E → GatewayImpl E} (hf : ∀ gw, (f gw).endpoint = gw.endpoint)
    (ep : E) (live : Bool) :
    peerOf (gs.modify g f) ep live =
      if gw.endpoint = ep then ⟨1, live, (f gw).sent, (f gw).got⟩ else peerOf gs ep live := by
  unfold peerOf
  rw [hd.gatewayAt_modify hg hf]
  by_cases he : gw.endpoint = ep <;> simp [he]

theorem peerOf_modify_silent {E : Type} [DecidableEq E] {gs : List (GatewayImpl E)}
    (hd : Distinct gs) (g : GatewayId) {f : GatewayImpl E → GatewayImpl E}
    (hf : ∀ gw, (f gw).endpoint = gw.endpoint) (hs : ∀ gw, (f gw).sent = gw.sent)
    (hr : ∀ gw, (f gw).got = gw.got) (ep : E) (live : Bool) :
    peerOf (gs.modify g f) ep live = peerOf gs ep live := by
  cases hg : gs[g]? with
  | none => rw [List.modify_eq_self (List.getElem?_eq_none_iff.mp hg)]
  | some gw =>
    rw [peerOf_modify hd hg hf]
    split
    · next he => rw [← he, peerOf_of_gateway hd hg, hs, hr]
    · rfl

theorem peerOf_append {E : Type} [DecidableEq E] {gs : List (GatewayImpl E)}
    {gw : GatewayImpl E} (hn : gatewayAt gs gw.endpoint = none) (ep : E) (live : Bool) :
    peerOf (gs ++ [gw]) ep live =
      if gw.endpoint = ep then ⟨1, live, gw.sent, gw.got⟩ else peerOf gs ep live := by
  unfold peerOf
  rw [gatewayAt_append]
  by_cases he : gw.endpoint = ep
  · subst he
    simp [hn]
  · simp [he]

/-- The sequence of a gateway that may still send is the number of its messages. -/
def Counted {E : Type} (gs : List (GatewayImpl E)) : Prop :=
  Each gs fun _ gw => gw.alive = true → gw.nextSequence.toNat = gw.sent.length

def fewPosts {E : Type} (gs : List (GatewayImpl E)) (g : GatewayId) : Bool :=
  (gs[g]?).all fun gw => gw.posts.length + 1 < 2^64

theorem GatewayImpl.sent_length_le {E : Type} (gw : GatewayImpl E) :
    gw.sent.length ≤ gw.posts.length := List.length_filterMap_le _ _

theorem Counted.modify {E : Type} {gs : List (GatewayImpl E)} (h : Counted gs) (g : GatewayId)
    {f : GatewayImpl E → GatewayImpl E} (ha : ∀ gw, (f gw).alive = true → gw.alive = true)
    (hn : ∀ gw, (f gw).nextSequence = gw.nextSequence) (hs : ∀ gw, (f gw).sent = gw.sent) :
    Counted (gs.modify g f) :=
  Each.modify h fun gw _ hc hal => by rw [hn, hs, hc (ha gw hal)]

theorem Counted.modify_dead {E : Type} {gs : List (GatewayImpl E)} (h : Counted gs)
    (g : GatewayId) {f : GatewayImpl E → GatewayImpl E} (hf : ∀ gw, (f gw).alive = false) :
    Counted (gs.modify g f) :=
  Each.modify h fun gw _ _ hal => by rw [hf] at hal; cases hal

theorem Counted.post {E : Type} {gs : List (GatewayImpl E)} (h : Counted gs) {g : GatewayId}
    (hf : fewPosts gs g = true) (n : Nat) (payload : Bytes) :
    Counted (gs.modify g fun gw => gw.advance.post (.msg n payload) 0) := by
  refine Each.modify h fun gw hg hc hal => ?_
  have hlen : gw.posts.length + 1 < 2^64 := by simpa [fewPosts, hg] using hf
  have hle := gw.sent_length_le
  have hcount := hc hal
  simp only [GatewayImpl.sent_post, GatewayImpl.sent_advance, if_true, List.length_append,
    List.length_singleton]
  simp only [GatewayImpl.post, GatewayImpl.advance, UInt64.toNat_add, hcount]
  exact Nat.mod_eq_of_lt (by simp; omega)

end Ocvsmd.Ipc
