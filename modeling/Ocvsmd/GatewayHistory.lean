import Ocvsmd.ClientRouter
import Ocvsmd.ServerRouter

set_option autoImplicit false

namespace Ocvsmd.Ipc

/-- Only a registered gateway is handed anything or gives anything to the pipe, except
for the event that a loop over gateways has for it. -/
inductive GatewayImpl.Change {E : Type} (registered : Prop) (due : Option Event) :
    GatewayImpl E → GatewayImpl E → Prop where
  | hear (gw : GatewayImpl E) (e : Event) (h : registered ∨ due = some e) :
      Change registered due gw (gw.hear e)
  | send (gw : GatewayImpl E) (payload : Bytes) (outcome : Int32) (h : registered) :
      Change registered due gw
        (gw.advance.post (.msg gw.nextSequence.toNat payload) outcome)
  | sayGoodbye (gw : GatewayImpl E) (errorCode outcome : Int32) (h : registered)
      (dead : gw.alive = false) :
      Change registered due gw (gw.post (.fin errorCode) outcome)
  | complete (gw : GatewayImpl E) (errorCode : Int32) :
      Change registered due gw (gw.complete errorCode)
  | subscribe (gw : GatewayImpl E) (handler : Option Decoder) :
      Change registered due gw (gw.subscribe handler)
  | disown (gw : GatewayImpl E) : Change registered due gw gw.disown
  | expire (gw : GatewayImpl E) : Change registered due gw gw.expire

def GatewayImpl.Changes {E : Type} (registered : Prop) (due : Option Event) :
    GatewayImpl E → GatewayImpl E → Prop :=
  Relation.ReflTransGen (GatewayImpl.Change registered due)

open GatewayImpl (Change Changes)

/-- Every gateway of one store goes through such changes on its way to the other, and a
new one starts with nothing sent. -/
structure Evolves {E : Type} (registered : GatewayId → Prop) (due : GatewayId → Option Event)
    (gs gs' : List (GatewayImpl E)) : Prop where
  old : ∀ (g : GatewayId) (gw : GatewayImpl E), gs[g]? = some gw →
    ∃ gw', gs'[g]? = some gw' ∧ Changes (registered g) (due g) gw gw'
  new : ∀ (g : GatewayId) (gw' : GatewayImpl E), gs[g]? = none → gs'[g]? = some gw' →
    ∃ gw, gw.nextSequence = 0 ∧ gw.posts = [] ∧ Changes True (due g) gw gw'

theorem GatewayImpl.Changes.mono {E : Type} {p q : Prop} {due : Option Event}
    {gw gw' : GatewayImpl E} (h : Changes p due gw gw') (hpq : p → q) :
    Changes q due gw gw' := by
  induction h with
  | refl => exact .refl
  | tail _ hstep ih =>
    refine ih.tail ?_
    cases hstep with
    | hear e he => exact .hear _ e (he.imp_left hpq)
    | send payload outcome hp => exact .send _ payload outcome (hpq hp)
    | sayGoodbye errorCode outcome hp hd => exact .sayGoodbye _ errorCode outcome (hpq hp) hd
    | complete errorCode => exact .complete _ errorCode
    | subscribe handler => exact .subscribe _ handler
    | disown => exact .disown _
    | expire => exact .expire _

theorem GatewayImpl.Changes.silent {E : Type} {registered : Prop} {due : Option Event}
    {gw gw' : GatewayImpl E} (h : Changes registered due gw gw') (hr : ¬ registered)
    (hd : due = none) : gw'.events = gw.events ∧ gw'.posts = gw.posts := by
  induction h with
  | refl => exact ⟨rfl, rfl⟩
  | tail _ hstep ih =>
    cases hstep with
    | hear e he =>
      rcases he with he | he
      · exact absurd he hr
      · rw [hd] at he; cases he
    | send payload outcome hp => exact absurd hp hr
    | sayGoodbye errorCode outcome hp _ => exact absurd hp hr
    | complete errorCode => exact ih
    | subscribe handler => exact ih
    | disown => exact ih
    | expire => exact ih

theorem GatewayImpl.Changes.endpoint {E : Type} {registered : Prop} {due : Option Event}
    {gw gw' : GatewayImpl E} (h : Changes registered due gw gw') :
    gw'.endpoint = gw.endpoint := by
  induction h with
  | refl => rfl
  | tail _ hstep ih => cases hstep <;> exact ih

theorem Evolves.refl {E : Type} (registered : GatewayId → Prop)
    (due : GatewayId → Option Event) (gs : List (GatewayImpl E)) :
    Evolves registered due gs gs where
  old := fun _ gw hg => ⟨gw, hg, .refl⟩
  new := fun _ _ hn hg => by rw [hn] at hg; cases hg

theorem Evolves.trans {E : Type} {registered : GatewayId → Prop}
    {due : GatewayId → Option Event} {gs ms gs' : List (GatewayImpl E)}
    (h : Evolves registered due gs ms) (h' : Evolves registered due ms gs') :
    Evolves registered due gs gs' where
  old := by
    intro g gw hg
    obtain ⟨m, hm, hc⟩ := h.old g gw hg
    obtain ⟨gw', hg', hc'⟩ := h'.old g m hm
    exact ⟨gw', hg', hc.trans hc'⟩
  new := by
    intro g gw' hn hg'
    cases hm : ms[g]? with
    | none => exact h'.new g gw' hm hg'
    | some m =>
      obtain ⟨gw, hs, hp, hc⟩ := h.new g m hn hm
      obtain ⟨x, hx, hc'⟩ := h'.old g m hm
      rw [hg'] at hx
      cases hx
      exact ⟨gw, hs, hp, hc.trans (hc'.mono fun _ => trivial)⟩

theorem Evolves.mono {E : Type} {p q : GatewayId → Prop} {due : GatewayId → Option Event}
    {gs gs' : List (GatewayImpl E)} (h : Evolves p due gs gs')
    (hpq : ∀ g, g < gs.length → p g → q g) : Evolves q due gs gs' where
  old := by
    intro g gw hg
    obtain ⟨gw', hg', hc⟩ := h.old g gw hg
    exact ⟨gw', hg', hc.mono (hpq g (List.getElem?_eq_some_iff.mp hg).1)⟩
  new := h.new

theorem Evolves.modify {E : Type} {registered : GatewayId → Prop}
    {due : GatewayId → Option Event} {gs : List (GatewayImpl E)} {g : GatewayId}
    {f : GatewayImpl E → GatewayImpl E}
    (hf : ∀ gw, gs[g]? = some gw → Change (registered g) (due g) gw (f gw)) :
    Evolves registered due gs (gs.modify g f) where
  old := by
    intro i gw hi
    by_cases hgi : g = i
    · subst hgi
      exact ⟨f gw, by simp [hi], .single (hf gw hi)⟩
    · exact ⟨gw, by simp [hgi, hi], .refl⟩
  new := by
    intro i gw' hn hi
    rw [List.getElem?_modify, hn] at hi
    cases hi

theorem dead_of_expire {E : Type} {gs : List (GatewayImpl E)} {g : GatewayId}
    {gw : GatewayImpl E} (h : (gs.modify g (·.expire))[g]? = some gw) : gw.alive = false := by
  obtain ⟨x, _, rfl⟩ : ∃ x, gs[g]? = some x ∧ x.expire = gw := by simpa using h
  rfl

theorem Evolves.append {E : Type} {registered : GatewayId → Prop}
    {due : GatewayId → Option Event} {gs : List (GatewayImpl E)} {gw : GatewayImpl E}
    (hs : gw.nextSequence = 0) (hp : gw.posts = []) :
    Evolves registered due gs (gs ++ [gw]) where
  old := by
    intro g gw' hg
    have hlt : g < gs.length := (List.getElem?_eq_some_iff.mp hg).1
    exact ⟨gw', by rw [List.getElem?_append_left hlt]; exact hg, .refl⟩
  new := by
    intro g gw' hn hg
    have hge := List.getElem?_eq_none_iff.mp hn
    rw [List.getElem?_append_right hge, List.getElem?_singleton] at hg
    split at hg
    · cases hg
      exact ⟨gw, hs, hp, .refl⟩
    · cases hg

/-- What every change keeps, and a gateway with nothing sent has, all gateways have. -/
theorem Evolves.each {E : Type} {registered : GatewayId → Prop}
    {due : GatewayId → Option Event} {gs gs' : List (GatewayImpl E)}
    {P : GatewayImpl E → Prop} (h : Evolves registered due gs gs')
    (hnew : ∀ gw, gw.nextSequence = 0 → gw.posts = [] → P gw)
    (hstep : ∀ {p : Prop} {d : Option Event} {gw gw' : GatewayImpl E}, P gw →
      Change p d gw gw' → P gw')
    (hp : Each gs fun _ gw => P gw) : Each gs' fun _ gw => P gw := by
  have hmany : ∀ {p : Prop} {d : Option Event} {gw gw' : GatewayImpl E}, P gw →
      Changes p d gw gw' → P gw' := by
    intro p d gw gw' hgw hc
    induction hc with
    | refl => exact hgw
    | tail _ hs ih => exact hstep ih hs
  intro g gw' hg'
  cases hg : gs[g]? with
  | none =>
    obtain ⟨gw, hs, hposts, hc⟩ := h.new g gw' hg hg'
    exact hmany (hnew gw hs hposts) hc
  | some gw =>
    obtain ⟨x, hx, hc⟩ := h.old g gw hg
    rw [hg'] at hx
    cases hx
    exact hmany (hp g gw hg) hc

/-- The endpoint of the gateway is on the map. That is all a sending gateway asks. -/
def Registered {E : Type} (gs : List (GatewayImpl E)) (table : E → Option GatewayId)
    (g : GatewayId) : Prop :=
  ∃ gw, gs[g]? = some gw ∧ (table gw.endpoint).isSome = true

theorem Registry.registered {E : Type} {gs : List (GatewayImpl E)}
    {table : E → Option GatewayId} (h : Registry gs table) {ep : E} {g : GatewayId}
    (ht : table ep = some g) : Registered gs table g := by
  obtain ⟨gw, hg, rfl, _⟩ := h ep g ht
  exact ⟨gw, hg, by simp [ht]⟩

def Unfinished {E : Type} (gs : List (GatewayImpl E)) : Prop :=
  Each gs fun _ gw => gw.alive = true → ∀ errorCode, .fin errorCode ∉ gw.posts.map (·.1)

theorem Evolves.unfinished {E : Type} {registered : GatewayId → Prop}
    {due : GatewayId → Option Event} {gs gs' : List (GatewayImpl E)}
    (h : Evolves registered due gs gs') (hu : Unfinished gs) : Unfinished gs' := by
  refine h.each (fun gw _ hp _ errorCode => by simp [hp]) (fun {p d gw gw'} hgw hc ha => ?_) hu
  cases hc with
  | hear e he => exact hgw ha
  | send payload outcome hp =>
    intro errorCode hin
    simp only [GatewayImpl.post, GatewayImpl.advance, List.map_append, List.map_cons,
      List.map_nil, List.mem_append, List.mem_singleton, reduceCtorEq, or_false] at hin
    exact hgw ha errorCode hin
  | sayGoodbye errorCode outcome hp hd =>
    rw [show (gw.post (.fin errorCode) outcome).alive = gw.alive from rfl, hd] at ha
    cases ha
  | complete errorCode => exact hgw ha
  | subscribe handler => exact hgw ha
  | disown => exact hgw ha
  | expire => cases ha

namespace ClientRouter

def Registered (r : ClientRouter) : GatewayId → Prop := Ipc.Registered r.gateways r.lookup

/-- What a loop over gateways has for this one at the next turn. -/
def due (r : ClientRouter) : ClientAction → GatewayId → Option Event
  | .notifyNext, g =>
    if r.broadcast.remaining.head? = some g then some r.broadcast.event else none
  | _, _ => none

theorem Evolves.raise {r : ClientRouter} {registered : GatewayId → Prop}
    {due : GatewayId → Option Event} {g : GatewayId} {e : Event}
    (h : registered g ∨ due g = some e) :
    Evolves registered due r.gateways (r.raise g e).router.gateways := by
  unfold ClientRouter.raise
  split
  · exact Evolves.modify fun gw _ => .hear gw e h
  · exact Evolves.refl _ _ _

theorem evolves_destroy {κ : RouteCodec} {r : ClientRouter} {g : GatewayId}
    {gw : GatewayImpl Tag} (hg : r.gateways[g]? = some gw) (outcome : Int32)
    (due : GatewayId → Option Event) :
    Evolves r.Registered due r.gateways (r.destroy κ g gw outcome).gateways := by
  have hexpire : Evolves r.Registered due r.gateways (r.gateways.modify g (·.expire)) :=
    Evolves.modify fun gw' _ => .expire gw'
  rcases destroy_cases κ r g gw outcome with ⟨hl, _, _, heq⟩ | ⟨_, heq⟩
  · rw [heq, gateways_pipeSend]
    exact hexpire.trans (Evolves.modify fun gw' hg' => .sayGoodbye gw' _ _ ⟨gw, hg, hl⟩
      (dead_of_expire hg'))
  · rw [heq]
    exact hexpire

theorem Wf.found {r : ClientRouter} (h : r.Wf) {t : Tag} {g : GatewayId}
    (hf : r.findGateway t = some g) : r.Registered g :=
  h.registry.registered (Option.filter_eq_some_iff.mp hf).1

theorem Wf.evolves {κ : RouteCodec} {r r' : ClientRouter} {a : ClientAction} (h : r.Wf)
    (hs : r.step κ a = some r') :
    Evolves r.Registered (r.due a) r.gateways r'.gateways := by
  obtain ⟨reply, hp, rfl⟩ := step_eq_some.mp hs
  cases performs hp with
  | nothing code => exact Evolves.refl _ _ _
  | makes room => exact Evolves.append rfl rfl
  | @sends g gw serviceId payload outcome channel connected registered =>
    obtain ⟨hg, _⟩ := channel_eq_some.mp channel
    simp only [transmit, gateways_pipeSend, gateways_modify]
    refine Evolves.modify fun gw' hg' => ?_
    rw [hg] at hg'
    cases hg'
    exact .send gw payload outcome ⟨gw, hg, registered⟩
  | completes errorCode channel => exact Evolves.modify fun gw' _ => .complete gw' errorCode
  | subscribes handler channel => exact Evolves.modify fun gw' _ => .subscribe gw' handler
  | @greets g i gw handler channel connected found =>
    have hsub : Evolves r.Registered (r.due (.subscribe g handler)) r.gateways
        (r.modify g (·.subscribe handler)).gateways :=
      Evolves.modify fun gw' _ => .subscribe gw' handler
    have hreg := h.registry.registered (Option.filter_eq_some_iff.mp found).1
    exact hsub.trans (Evolves.raise (Or.inl hreg))
  | disowns outcome channel pinned => exact Evolves.modify fun gw' _ => .disown gw'
  | destroys outcome channel unpinned =>
    exact evolves_destroy (channel_eq_some.mp channel).1 outcome _
  | requests outcome idle =>
    simpa [ClientRouter.handlePipeConnected] using Evolves.refl _ _ r.gateways
  | connects payload order idle => exact Evolves.refl _ _ _
  | passes order idle decoded cut found => exact Evolves.raise (Or.inl (h.found found))
  | @ends g e payload order idle decoded found =>
    exact Evolves.raise (r := r.unregister e.tag) (Or.inl (h.found found))
  | loses order idle => exact Evolves.refl _ _ _
  | @notifies g rest remaining alive =>
    refine Evolves.raise (r := { r with broadcast := { r.broadcast with remaining := rest } })
      (Or.inr ?_)
    simp [due, remaining]
  | skips remaining dead => exact Evolves.refl _ _ _
  | drops outcome done pinned held => exact evolves_destroy held outcome _
  | unpins outcome done pinned => exact Evolves.refl _ _ _

end ClientRouter

namespace ServerRouter

def Registered (r : ServerRouter) : GatewayId → Prop := Ipc.Registered r.gateways r.lookup

def due (r : ServerRouter) : ServerAction → GatewayId → Option Event
  | .notifyNext, g =>
    if r.remaining.head? = some g then some (.completed ErrorCode.disconnected) else none
  | _, _ => none

theorem Evolves.raise {r : ServerRouter} {registered : GatewayId → Prop}
    {due : GatewayId → Option Event} {g : GatewayId} {e : Event}
    (h : registered g ∨ due g = some e) :
    Evolves registered due r.gateways (r.raise g e).router.gateways := by
  unfold ServerRouter.raise
  split
  · exact Evolves.modify fun gw _ => .hear gw e h
  · exact Evolves.refl _ _ _

/-- `hreg` is for the gateway that a factory drops: it was not there before the step. -/
theorem evolves_destroy {κ : RouteCodec} {r : ServerRouter} {g : GatewayId}
    {gw : GatewayImpl Endpoint} {registered : GatewayId → Prop} (outcome : Int32)
    (due : GatewayId → Option Event)
    (hreg : (r.lookup gw.endpoint).isSome = true → registered g) :
    Evolves registered due r.gateways (r.destroy κ g gw outcome).gateways := by
  have hexpire : Evolves registered due r.gateways (r.gateways.modify g (·.expire)) :=
    Evolves.modify fun gw' _ => .expire gw'
  rcases destroy_cases κ r g gw outcome with ⟨m, _, hl, heq⟩ | ⟨_, maps, heq⟩
  · rw [heq, gateways_pipeSend]
    exact hexpire.trans (Evolves.modify fun gw' hg' => .sayGoodbye gw' _ _ (hreg hl)
      (dead_of_expire hg'))
  · rw [heq]
    exact hexpire

theorem Wf.found {r : ServerRouter} (h : r.Wf) {ep : Endpoint} {g : GatewayId}
    (hf : r.findGateway ep = some g) : r.Registered g :=
  h.registry.registered (Option.filter_eq_some_iff.mp hf).1

theorem evolves_makeChannel (κ : RouteCodec) (r : ServerRouter) (c : ClientId)
    (mapOfGws : MapOfWeakGateways) (m : RouteChannelMsg) (input : Decoder)
    (realPayload : Bytes) (outcome : Int32) (due : GatewayId → Option Event) :
    Evolves r.Registered due r.gateways
      (r.makeChannel κ c mapOfGws m input realPayload outcome).router.gateways := by
  let gw : GatewayImpl Endpoint :=
    { endpoint := ⟨m.tag, c⟩, events := [.message m.sequence realPayload] }
  have hmade : Evolves (fun g => r.gateways.length ≤ g) due r.gateways (r.gateways ++ [gw]) :=
    Evolves.append rfl rfl
  have hold : ∀ g, g < r.gateways.length → r.gateways.length ≤ g → r.Registered g :=
    fun g hlt hle => absurd hlt (Nat.not_lt.mpr hle)
  unfold ServerRouter.makeChannel
  simp only
  split
  · exact hmade.mono hold
  · refine (hmade.trans ?_).mono hold
    exact evolves_destroy (r := { r with gateways := r.gateways ++ [gw] }.setMap c
      (some (mapOfGws.insert m.tag r.gateways.length))) outcome due fun _ => Nat.le_refl _

theorem Wf.evolves {κ : RouteCodec} {r r' : ServerRouter} {a : ServerAction} (h : r.Wf)
    (hs : r.step κ a = some r') :
    Evolves r.Registered (r.due a) r.gateways r'.gateways := by
  obtain ⟨reply, hp, rfl⟩ := step_eq_some.mp hs
  cases performs hp with
  | nothing code => exact Evolves.refl _ _ _
  | registers serviceId input => exact Evolves.refl _ _ _
  | @sends g gw serviceId payload outcome channel registered =>
    obtain ⟨hg, _⟩ := channel_eq_some.mp channel
    simp only [transmit, gateways_pipeSend, gateways_modify]
    refine Evolves.modify fun gw' hg' => ?_
    rw [hg] at hg'
    cases hg'
    exact .send gw payload outcome ⟨gw, hg, registered⟩
  | completes errorCode channel => exact Evolves.modify fun gw' _ => .complete gw' errorCode
  | subscribes handler channel => exact Evolves.modify fun gw' _ => .subscribe gw' handler
  | @greets g i gw handler channel found =>
    have hsub : Evolves r.Registered (r.due (.subscribe g handler)) r.gateways
        (r.modify g (·.subscribe handler)).gateways :=
      Evolves.modify fun gw' _ => .subscribe gw' handler
    have hreg := h.registry.registered (Option.filter_eq_some_iff.mp found).1
    exact hsub.trans (Evolves.raise (Or.inl hreg))
  | @destroys g gw outcome channel =>
    exact evolves_destroy outcome _ fun hl => ⟨gw, (channel_eq_some.mp channel).1, hl⟩
  | connects c outcome =>
    unfold handleRouteConnect
    split <;> simpa using Evolves.refl _ _ r.gateways
  | passes outcome idle decoded cut found => exact Evolves.raise (Or.inl (h.found found))
  | opens outcome => exact evolves_makeChannel κ r _ _ _ _ _ outcome _
  | @ends c g e payload mapOfGws outcome idle decoded known found =>
    exact Evolves.raise (r := r.setMap c (some (mapOfGws.erase e.tag))) (Or.inl (h.found found))
  | loses idle ids => exact Evolves.refl _ _ _
  | @notifies g rest remaining alive =>
    refine Evolves.raise (r := { r with remaining := rest }) (Or.inr ?_)
    simp [due, remaining]
  | skips remaining dead => exact Evolves.refl _ _ _

end ServerRouter

end Ocvsmd.Ipc
