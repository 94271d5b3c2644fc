import Ocvsmd.PipeLoss

set_option autoImplicit false

namespace Ocvsmd.Ipc

open FifoSession (payloads)

def ClientAction.asker : ClientAction → Option GatewayId
  | .send g _ _ _ => some g
  | .complete g _ => some g
  | .subscribe g _ => some g
  | .release g _ => some g
  | _ => none

/-- A gateway is told one event or none, and whom it calls then depends on its handler. -/
inductive Hears (call : Option Call) (g : GatewayId) (gw gw' : GatewayImpl Tag) : Prop where
  | nothing (events : gw'.events = gw.events) (uncalled : ∀ e, call ≠ some (.event g e))
  | event (e : Event) (events : gw'.events = gw.events ++ [e])
      (called : call = if gw'.handles e then some (.event g e) else none)

/-- What others do to a gateway: they may end it, after which it says goodbye if it has
ever sent anything. -/
structure Framed (gw gw' : GatewayImpl Tag) : Prop where
  handler : gw'.eventHandler = gw.eventHandler
  sequence : gw'.nextSequence = gw.nextSequence
  sent : payloads gw'.sent = payloads gw.sent
  posts : gw.nextSequence = 0 → gw'.posts = gw.posts

theorem Framed.refl (gw : GatewayImpl Tag) : Framed gw gw := ⟨rfl, rfl, rfl, fun _ => rfl⟩

namespace ClientRouter

@[simp] theorem isConnected_pipeSend (r : ClientRouter) (message : Bytes) (outcome : Int32) :
    (r.pipeSend message outcome).isConnected = r.isConnected := by
  unfold pipeSend
  split <;> rfl

@[simp] theorem isConnected_raise (r : ClientRouter) (g : GatewayId) (e : Event) :
    (r.raise g e).router.isConnected = r.isConnected := by
  unfold raise
  split <;> rfl

/-- The gateways that a loop has still to reach wait for its event, and those that were
told of their end are out of reach. -/
structure Orderly (r : ClientRouter) : Prop where
  once : r.broadcast.remaining.Nodup
  made : ∀ g ∈ r.broadcast.remaining, g < r.gateways.length
  kind : r.broadcast.event = .connected ∨ ∃ e, r.broadcast.event = .completed e
  greeting : r.broadcast.event = .connected → ∀ g ∈ r.broadcast.remaining,
    r.isConnected = true ∧ ∀ gw, r.gateways[g]? = some gw → gw.alive = true →
      r.lookup gw.endpoint = some g
  leaving : ∀ e, r.broadcast.event = .completed e →
    ∀ g ∈ r.broadcast.remaining, ∀ t, r.lookup t ≠ some g
  ended : Each r.gateways fun g gw => (∃ e, .completed e ∈ gw.events) →
    (∀ t, r.lookup t ≠ some g) ∧ g ∉ r.broadcast.remaining

theorem orderly_init : ({} : ClientRouter).Orderly where
  once := List.nodup_nil
  made := fun _ h => by cases h
  kind := Or.inl rfl
  greeting := fun _ _ h => by cases h
  leaving := fun _ h => by cases h
  ended := Each.nil

theorem Orderly.congr {r r' : ClientRouter} (h : r.Orderly) (hg : r'.gateways = r.gateways)
    (hl : r'.lookup = r.lookup) (hb : r'.broadcast.remaining = r.broadcast.remaining)
    (he : r'.broadcast.event = r.broadcast.event) (hc : r'.isConnected = r.isConnected) :
    r'.Orderly where
  once := by rw [hb]; exact h.once
  made := by rw [hb, hg]; exact h.made
  kind := by rw [he]; exact h.kind
  greeting := by rw [he, hb, hg, hl, hc]; exact h.greeting
  leaving := by rw [he, hb, hl]; exact h.leaving
  ended := by rw [hg, hl, hb]; exact h.ended

theorem Orderly.modify {r : ClientRouter} (h : r.Orderly) (g : GatewayId)
    {f : GatewayImpl Tag → GatewayImpl Tag} (he : ∀ gw, (f gw).endpoint = gw.endpoint)
    (ha : ∀ gw, (f gw).alive = true → gw.alive = true)
    (hev : ∀ gw e, .completed e ∈ (f gw).events → .completed e ∈ gw.events ∨
      (∀ t, r.lookup t ≠ some g) ∧ g ∉ r.broadcast.remaining) : (r.modify g f).Orderly where
  once := h.once
  made := fun i hi => by
    rw [gateways_modify, List.length_modify]
    exact h.made i hi
  kind := h.kind
  greeting := by
    intro hc i hi
    obtain ⟨hconn, hlook⟩ := h.greeting hc i hi
    refine ⟨hconn, fun gw hgw hal => ?_⟩
    rw [gateways_modify] at hgw
    by_cases hgi : g = i
    · subst hgi
      obtain ⟨x, hx, rfl⟩ : ∃ x, r.gateways[g]? = some x ∧ f x = gw := by simpa using hgw
      rw [he]
      exact hlook x hx (ha x hal)
    · exact hlook gw (by simpa [hgi] using hgw) hal
  leaving := h.leaving
  ended := by
    refine Each.modify h.ended fun gw _ hold => ?_
    rintro ⟨e, hin⟩
    rcases hev gw e hin with hin | hout
    · exact hold ⟨e, hin⟩
    · exact hout

theorem Orderly.pipeSend {r : ClientRouter} (h : r.Orderly) (message : Bytes)
    (outcome : Int32) : (r.pipeSend message outcome).Orderly :=
  h.congr (by simp) (by simp) (by simp) (by simp) (by simp)

theorem Orderly.raise {r : ClientRouter} (h : r.Orderly) {g : GatewayId} {e : Event}
    (he : ∀ c, e = .completed c → (∀ t, r.lookup t ≠ some g) ∧ g ∉ r.broadcast.remaining) :
    (r.raise g e).router.Orderly := by
  unfold ClientRouter.raise
  split
  · refine h.modify g (fun _ => rfl) (fun _ => id) fun gw c hin => ?_
    rcases List.mem_append.mp hin with hin | hin
    · exact Or.inl hin
    · exact Or.inr (he c (List.mem_singleton.mp hin).symm)
  · exact h

theorem Orderly.unregister {r : ClientRouter} (h : r.Orderly) {endpoint : Tag}
    (hd : ∀ g ∈ r.broadcast.remaining, ∀ gw, r.gateways[g]? = some gw → gw.alive = true →
      gw.endpoint ≠ endpoint) : (r.unregister endpoint).Orderly := by
  have hsub : ∀ t g, (r.unregister endpoint).lookup t = some g → r.lookup t = some g := by
    intro t g ht
    rw [lookup_unregister] at ht
    by_cases he : t = endpoint
    · subst he; simp at ht
    · rwa [Function.update_of_ne he] at ht
  exact {
    once := h.once
    made := h.made
    kind := h.kind
    greeting := fun hc g hg => by
      obtain ⟨hconn, hlook⟩ := h.greeting hc g hg
      refine ⟨hconn, fun gw hgw hal => ?_⟩
      rw [lookup_unregister, Function.update_of_ne (hd g hg gw hgw hal)]
      exact hlook gw hgw hal
    leaving := fun e he g hg t ht => h.leaving e he g hg t (hsub t g ht)
    ended := fun g gw hgw hin =>
      ⟨fun t ht => (h.ended g gw hgw hin).1 t (hsub t g ht), (h.ended g gw hgw hin).2⟩ }

theorem Orderly.destroy {κ : RouteCodec} {r : ClientRouter} (h : r.Orderly) (hw : r.Wf)
    {g : GatewayId} {gw : GatewayImpl Tag} (hg : r.gateways[g]? = some gw) (outcome : Int32) :
    (r.destroy κ g gw outcome).Orderly := by
  have hexpired : (r.modify g (·.expire)).Orderly :=
    h.modify g (fun _ => rfl) (fun _ ha => by cases ha) fun _ _ => Or.inl
  have herased : ((r.modify g (·.expire)).unregister gw.endpoint).Orderly := by
    refine hexpired.unregister fun i _ x hx hal he => ?_
    rw [gateways_modify] at hx
    by_cases hgi : g = i
    · subst hgi
      obtain ⟨y, _, rfl⟩ : ∃ y, r.gateways[g]? = some y ∧ y.expire = x := by simpa using hx
      cases hal
    · exact hgi (hw.distinct.index_eq hg (by simpa [hgi] using hx) he.symm)
  rcases destroy_cases κ r g gw outcome with ⟨_, _, _, heq⟩ | ⟨_, heq⟩
  · rw [heq]
    exact (herased.modify g (f := (·.post (.fin gw.completionErrorCode) outcome))
      (fun _ => rfl) (fun _ => id) fun _ _ => Or.inl).pipeSend _ _
  · rw [heq]
    exact herased

theorem Orderly.makeGateway {r : ClientRouter} (h : r.Orderly) (hw : r.Wf)
    (hc : r.gateways.length < 2^64) : r.makeGateway.Orderly := by
  have hfree : ∀ {t g}, r.makeGateway.lookup t = some g →
      r.lookup t = some g ∨ g = r.gateways.length := by
    intro t g hl
    rw [lookup_makeGateway] at hl
    by_cases he : t = r.nextTag
    · subst he
      rw [Function.update_self] at hl
      exact Or.inr (Option.some.inj hl).symm
    · rw [Function.update_of_ne he] at hl
      exact Or.inl hl
  exact {
    once := h.once
    made := fun g hg => by
      simp only [ClientRouter.makeGateway, List.length_append]
      exact Nat.lt_succ_of_lt (h.made g hg)
    kind := h.kind
    greeting := fun hcon g hg => by
      obtain ⟨hconn, hlook⟩ := h.greeting hcon g hg
      refine ⟨hconn, fun gw hgw hal => ?_⟩
      have hlt := h.made g hg
      have hold : r.gateways[g]? = some gw := by
        simpa [ClientRouter.makeGateway, List.getElem?_append_left hlt] using hgw
      have hmade := (hw.makeGateway hc).lookup_self hgw
      rw [lookup_makeGateway]
      by_cases he : gw.endpoint = r.nextTag
      · rw [lookup_makeGateway, he, Function.update_self] at hmade
        exact absurd (Option.some.inj (hmade rfl).1) (Nat.ne_of_gt hlt)
      · rw [Function.update_of_ne he]
        exact hlook gw hold hal
    leaving := fun e he g hg t hl => by
      rcases hfree hl with hl | rfl
      · exact h.leaving e he g hg t hl
      · exact absurd (h.made _ hg) (Nat.lt_irrefl _)
    ended := by
      intro g gw hgw hin
      rcases Nat.lt_or_ge g r.gateways.length with hlt | hge
      · have hold : r.gateways[g]? = some gw := by
          simpa [ClientRouter.makeGateway, List.getElem?_append_left hlt] using hgw
        obtain ⟨hgone, hrem⟩ := h.ended g gw hold hin
        refine ⟨fun t hl => ?_, hrem⟩
        rcases hfree hl with hl | rfl
        · exact hgone t hl
        · exact absurd hlt (Nat.lt_irrefl _)
      · simp only [ClientRouter.makeGateway] at hgw
        rw [List.getElem?_append_right hge, List.getElem?_singleton] at hgw
        split at hgw
        · cases hgw
          obtain ⟨e, hin⟩ := hin
          cases hin
        · cases hgw }

theorem Orderly.rebroadcast {r r' : ClientRouter} (h : r.Orderly) (hw : r.Wf)
    {order : List GatewayId} (ho : order.Perm r.mapOfGateways.ids)
    (hg : r'.gateways = r.gateways) (hsub : r'.broadcast.remaining.Sublist order)
    (hk : (r'.broadcast.event = .connected ∧ r'.lookup = r.lookup ∧ r'.isConnected = true) ∨
      ∃ e, r'.broadcast.event = .completed e ∧ ∀ t, r'.lookup t = none) : r'.Orderly := by
  have hids : ∀ g ∈ r'.broadcast.remaining, ∃ t, r.lookup t = some g := fun g hin =>
    MapOfWeakGateways.mem_ids.mp (ho.mem_iff.mp (hsub.mem hin))
  exact {
    once := by
      refine hsub.nodup (ho.nodup_iff.mpr (MapOfWeakGateways.ids_nodup fun ht ht' => ?_))
      exact hw.registry.injective ht ht'
    made := fun g hin => by
      obtain ⟨t, hl⟩ := hids g hin
      obtain ⟨gw, hgw, _⟩ := hw.registry t g hl
      rw [hg]
      exact (List.getElem?_eq_some_iff.mp hgw).1
    kind := hk.imp (·.1) fun ⟨e, he, _⟩ => ⟨e, he⟩
    greeting := fun hc g hin => by
      rcases hk with ⟨_, hl, hconn⟩ | ⟨e, he, _⟩
      · refine ⟨hconn, fun gw hgw _ => ?_⟩
        obtain ⟨t, ht⟩ := hids g hin
        obtain ⟨gw', hgw', rfl, _⟩ := hw.registry t g ht
        rw [hg, hgw'] at hgw
        cases hgw
        rw [hl]
        exact ht
      · rw [hc] at he
        cases he
    leaving := fun e he g _ t ht => by
      rcases hk with ⟨hc, _⟩ | ⟨_, _, hnone⟩
      · rw [hc] at he
        cases he
      · rw [hnone] at ht
        cases ht
    ended := by
      rw [hg]
      intro g gw hgw hin
      obtain ⟨hgone, _⟩ := h.ended g gw hgw hin
      refine ⟨fun t ht => ?_, fun hrem => ?_⟩
      · rcases hk with ⟨_, hl, _⟩ | ⟨_, _, hnone⟩
        · exact hgone t (by rw [← hl]; exact ht)
        · rw [hnone] at ht
          cases ht
      · obtain ⟨t, ht⟩ := hids g hrem
        exact hgone t ht }

theorem Orderly.finish {r : ClientRouter} (h : r.Orderly) (hw : r.Wf) (hi : r.idle = true)
    {t : Tag} {g : GatewayId} (hl : r.lookup t = some g) (errorCode : Int32) :
    ((r.unregister t).raise g (.completed errorCode)).router.Orderly := by
  have hrem : r.broadcast.remaining = [] := remaining_of_idle hi
  have herased : (r.unregister t).Orderly := h.unregister fun g' hg' => by
    rw [hrem] at hg'
    cases hg'
  refine herased.raise fun c _ => ⟨fun t' ht' => ?_, fun hin => ?_⟩
  · rw [lookup_unregister] at ht'
    by_cases het : t' = t
    · subst het; simp at ht'
    · rw [Function.update_of_ne het] at ht'
      exact het (hw.registry.injective ht' hl)
  · rw [show (r.unregister t).broadcast = r.broadcast from rfl, hrem] at hin
    cases hin

theorem Orderly.turn {r : ClientRouter} (h : r.Orderly) {g : GatewayId} {rest : List GatewayId}
    (hrem : r.broadcast.remaining = g :: rest) :
    Orderly { r with broadcast := { r.broadcast with remaining := rest } } ∧ g ∉ rest := by
  have hmem : ∀ {i}, i ∈ rest → i ∈ r.broadcast.remaining := fun hi => by
    rw [hrem]
    exact List.mem_cons_of_mem _ hi
  have honce := h.once
  rw [hrem] at honce
  obtain ⟨hnot, honce⟩ := List.nodup_cons.mp honce
  refine ⟨?_, hnot⟩
  exact {
    once := honce
    made := fun i hi => h.made i (hmem hi)
    kind := h.kind
    greeting := fun hc i hi => h.greeting hc i (hmem hi)
    leaving := fun e he i hi => h.leaving e he i (hmem hi)
    ended := fun i gw hgw hin =>
      ⟨(h.ended i gw hgw hin).1, fun hi => (h.ended i gw hgw hin).2 (hmem hi)⟩ }

theorem Orderly.step {κ : RouteCodec} {r r' : ClientRouter} {a : ClientAction} (h : r.Orderly)
    (hw : r.Wf) (hs : r.step κ a = some r') : r'.Orderly := by
  obtain ⟨reply, hp, rfl⟩ := step_eq_some.mp hs
  cases performs hp with
  | nothing code => exact h
  | makes room => exact h.makeGateway hw room
  | sends serviceId payload outcome channel =>
    refine Orderly.pipeSend (h.modify _ ?_ ?_ ?_) _ _
    · exact fun _ => rfl
    · exact fun _ => id
    · exact fun _ _ => Or.inl
  | completes errorCode channel =>
    exact h.modify _ (fun _ => rfl) (fun _ => id) fun _ _ => Or.inl
  | subscribes handler channel =>
    exact h.modify _ (fun _ => rfl) (fun _ => id) fun _ _ => Or.inl
  | @greets g i gw handler channel connected found =>
    have hsub : (r.modify g (·.subscribe handler)).Orderly :=
      h.modify g (fun _ => rfl) (fun _ => id) fun _ _ => Or.inl
    exact hsub.raise fun c hc => by cases hc
  | disowns outcome channel pinned =>
    exact h.modify _ (fun _ => rfl) (fun _ => id) fun _ _ => Or.inl
  | destroys outcome channel unpinned => exact h.destroy hw (channel_eq_some.mp channel).1 outcome
  | requests outcome idle => exact h.pipeSend _ _
  | connects payload order idle ids =>
    exact h.rebroadcast hw ids rfl List.filter_sublist (Or.inl ⟨rfl, rfl, rfl⟩)
  | passes order => exact h.raise fun c hc => by cases hc
  | ends order idle decoded found =>
    exact h.finish hw idle (Option.filter_eq_some_iff.mp found).1 _
  | loses order idle ids connected =>
    exact h.rebroadcast hw ids rfl (List.Sublist.refl _)
      (Or.inr ⟨_, rfl, fun t => by simp [lookup]⟩)
  | @notifies g rest remaining alive =>
    obtain ⟨hnext, hnot⟩ := h.turn remaining
    refine hnext.raise fun c hc => ⟨?_, hnot⟩
    exact h.leaving c hc g (by rw [remaining]; exact List.mem_cons_self)
  | skips remaining dead => exact (h.turn remaining).1
  | drops outcome done pinned held =>
    exact (h.destroy hw held outcome).congr rfl rfl rfl rfl rfl
  | unpins outcome done pinned => exact h.congr rfl rfl rfl rfl rfl

/-- A gateway that was told of its end is told nothing more, and says nothing. -/
theorem Orderly.silent {r : ClientRouter} (h : r.Orderly) (hw : r.Wf) {a : ClientAction}
    {g : GatewayId} {gw gw' : GatewayImpl Tag} (hg : r.gateways[g]? = some gw) {e : Int32}
    (he : .completed e ∈ gw.events)
    (hchanges : GatewayImpl.Changes (r.Registered g) (r.due a g) gw gw') :
    gw'.events = gw.events ∧ gw'.posts = gw.posts := by
  obtain ⟨hgone, hrem⟩ := h.ended g gw hg ⟨e, he⟩
  refine hchanges.silent ?_ ?_
  · rintro ⟨y, hy, hl⟩
    exact hgone _ (hw.lookup_self hy hl).1
  · unfold due
    split
    · exact if_neg fun hhead => hrem (List.mem_of_head? hhead)
    · rfl

theorem Orderly.over {κ : RouteCodec} {r r' : ClientRouter} {a : ClientAction} (h : r.Orderly)
    (hw : r.Wf) (hs : r.step κ a = some r') {g : GatewayId} {gw gw' : GatewayImpl Tag}
    (hg : r.gateways[g]? = some gw) (hg' : r'.gateways[g]? = some gw') {e : Int32}
    (he : .completed e ∈ gw.events) : gw'.events = gw.events := by
  obtain ⟨x, hx, hchanges⟩ := (hw.evolves hs).old g gw hg
  rw [hg'] at hx
  cases hx
  exact (h.silent hw hg he hchanges).1

theorem events_modify {gs : List (GatewayImpl Tag)} {g i : GatewayId} {gw : GatewayImpl Tag}
    (hg : gs[g]? = some gw) {f : GatewayImpl Tag → GatewayImpl Tag}
    (hf : ∀ gw, (f gw).events = gw.events) :
    ∃ gw', (gs.modify i f)[g]? = some gw' ∧ gw'.events = gw.events := by
  by_cases hi : i = g
  · subst hi
    exact ⟨f gw, by simp [hg], hf gw⟩
  · exact ⟨gw, by simp [hi, hg], rfl⟩

theorem hears_none {gs : List (GatewayImpl Tag)} {g : GatewayId} {gw : GatewayImpl Tag}
    (h : ∃ gw', gs[g]? = some gw' ∧ gw'.events = gw.events) :
    ∃ gw', gs[g]? = some gw' ∧ Hears none g gw gw' := by
  obtain ⟨gw', hg, he⟩ := h
  exact ⟨gw', hg, .nothing he fun _ hc => by cases hc⟩

theorem hears_raise {r : ClientRouter} {g : GatewayId} {gw : GatewayImpl Tag}
    (hg : r.gateways[g]? = some gw) (i : GatewayId) (e : Event) :
    ∃ gw', (r.raise i e).router.gateways[g]? = some gw' ∧ Hears (r.raise i e).call g gw gw' := by
  by_cases hi : i = g
  · subst hi
    refine ⟨gw.hear e, by simp [raise, hg], .event e rfl ?_⟩
    simp [raise, hg, GatewayImpl.handles, GatewayImpl.eventCode, GatewayImpl.hear]
  · unfold raise
    split
    · refine ⟨gw, by simp [hi, hg], .nothing rfl fun e' hc => ?_⟩
      simp only at hc
      split at hc
      · cases hc
        exact hi rfl
      · cases hc
    · exact ⟨gw, hg, .nothing rfl fun _ hc => by cases hc⟩

theorem hears_still {r : ClientRouter} {g : GatewayId} {gw : GatewayImpl Tag}
    (hg : r.gateways[g]? = some gw) :
    ∃ gw', r.gateways[g]? = some gw' ∧ Hears none g gw gw' :=
  hears_none ⟨gw, hg, rfl⟩

theorem hears_destroy {κ : RouteCodec} {r : ClientRouter} {g : GatewayId} {gw : GatewayImpl Tag}
    (hg : r.gateways[g]? = some gw) (i : GatewayId) (x : GatewayImpl Tag) (outcome : Int32) :
    ∃ gw', (r.destroy κ i x outcome).gateways[g]? = some gw' ∧ Hears none g gw gw' := by
  obtain ⟨gw₁, hg₁, he₁⟩ := events_modify (i := i) hg (f := (·.expire)) fun _ => rfl
  rcases gateways_destroy κ r i x outcome with hgs | hgs
  · rw [hgs]
    exact hears_none ⟨gw₁, hg₁, he₁⟩
  · obtain ⟨gw₂, hg₂, he₂⟩ := events_modify (i := i) hg₁
      (f := (·.post (.fin x.completionErrorCode) outcome)) fun _ => rfl
    rw [hgs]
    exact hears_none ⟨gw₂, hg₂, he₂.trans he₁⟩

/-- A step tells a gateway one thing at most. -/
theorem hears {κ : RouteCodec} {r : ClientRouter} {a : ClientAction} {reply : Reply ClientRouter}
    (hp : r.perform κ a = some reply) {g : GatewayId} {gw : GatewayImpl Tag}
    (hg : r.gateways[g]? = some gw) :
    ∃ gw', reply.router.gateways[g]? = some gw' ∧ Hears reply.call g gw gw' := by
  cases performs hp with
  | nothing code => exact hears_still hg
  | makes room =>
    refine ⟨gw, ?_, .nothing rfl fun _ hc => by cases hc⟩
    simp only [ClientRouter.makeGateway]
    rwa [List.getElem?_append_left (List.getElem?_eq_some_iff.mp hg).1]
  | sends serviceId payload outcome channel =>
    simp only [transmit, gateways_pipeSend]
    refine hears_none (events_modify hg ?_)
    exact fun _ => rfl
  | completes errorCode channel =>
    exact hears_none (events_modify hg (f := (·.complete errorCode)) fun _ => rfl)
  | subscribes handler channel =>
    exact hears_none (events_modify hg (f := (·.subscribe handler)) fun _ => rfl)
  | @greets i j x handler channel connected found =>
    obtain ⟨gw', hg', events⟩ := events_modify (i := i) hg (f := (·.subscribe handler))
      fun _ => rfl
    obtain ⟨x', hx', hh'⟩ := hears_raise (r := r.modify i (·.subscribe handler)) hg' j .connected
    refine ⟨x', hx', ?_⟩
    cases hh' with
    | nothing events' uncalled' => exact .nothing (events'.trans events) uncalled'
    | event e events' called => exact .event e (by rw [events', events]) called
  | disowns outcome channel pinned =>
    exact hears_none (events_modify hg (f := (·.disown)) fun _ => rfl)
  | destroys outcome channel unpinned => exact hears_destroy hg _ _ outcome
  | requests outcome idle => simpa [handlePipeConnected] using hears_still hg
  | connects payload order idle => exact hears_still hg
  | passes order => exact hears_raise hg _ _
  | @ends i e payload order idle decoded found =>
    exact hears_raise (r := r.unregister e.tag) hg _ _
  | loses order idle => exact hears_still hg
  | @notifies i rest remaining alive =>
    exact hears_raise (r := { r with broadcast := { r.broadcast with remaining := rest } }) hg _ _
  | skips remaining dead => exact hears_still hg
  | drops outcome done pinned held => exact hears_destroy hg _ _ outcome
  | unpins outcome done pinned => exact hears_still hg

theorem framed_modify {gs : List (GatewayImpl Tag)} {g i : GatewayId} {gw : GatewayImpl Tag}
    (hg : gs[g]? = some gw) {f : GatewayImpl Tag → GatewayImpl Tag}
    (hf : i = g → Framed gw (f gw)) :
    ∃ gw', (gs.modify i f)[g]? = some gw' ∧ Framed gw gw' := by
  by_cases hi : i = g
  · subst hi
    exact ⟨f gw, by simp [hg], hf rfl⟩
  · exact ⟨gw, by simp [hi, hg], .refl gw⟩

theorem framed_still {r : ClientRouter} {g : GatewayId} {gw : GatewayImpl Tag}
    (hg : r.gateways[g]? = some gw) : ∃ gw', r.gateways[g]? = some gw' ∧ Framed gw gw' :=
  ⟨gw, hg, .refl gw⟩

theorem framed_raise {r : ClientRouter} {g : GatewayId} {gw : GatewayImpl Tag}
    (hg : r.gateways[g]? = some gw) (i : GatewayId) (e : Event) :
    ∃ gw', (r.raise i e).router.gateways[g]? = some gw' ∧ Framed gw gw' := by
  unfold raise
  split
  · exact framed_modify hg fun _ => ⟨rfl, rfl, rfl, fun _ => rfl⟩
  · exact framed_still hg

theorem framed_destroy {κ : RouteCodec} {r : ClientRouter} {g i : GatewayId}
    {gw x : GatewayImpl Tag} (hg : r.gateways[g]? = some gw) (hi : r.gateways[i]? = some x)
    (outcome : Int32) :
    ∃ gw', (r.destroy κ i x outcome).gateways[g]? = some gw' ∧ Framed gw gw' := by
  rcases destroy_cases κ r i x outcome with ⟨_, hsent, _, heq⟩ | ⟨_, heq⟩
  · rw [heq, gateways_pipeSend]
    change ∃ gw', ((r.gateways.modify i (·.expire)).modify i
      (·.post (.fin x.completionErrorCode) outcome))[g]? = some gw' ∧ Framed gw gw'
    rw [List.modify_modify_eq]
    refine framed_modify hg fun hig => ⟨rfl, rfl, ?_, fun hzero => ?_⟩
    · by_cases ho : outcome = 0 <;>
        simp [GatewayImpl.post, GatewayImpl.expire, GatewayImpl.sent, payloads, ho]
    · subst hig
      rw [hg] at hi
      cases hi
      rw [hzero] at hsent
      exact absurd hsent (by decide)
  · rw [heq]
    exact framed_modify (f := (·.expire)) hg fun _ => ⟨rfl, rfl, rfl, fun _ => rfl⟩

theorem framed_release {κ : RouteCodec} {r : ClientRouter} {i g : GatewayId} {outcome : Int32}
    {reply : Reply ClientRouter} (hp : r.perform κ (.release i outcome) = some reply)
    {gw : GatewayImpl Tag} (hg : r.gateways[g]? = some gw) :
    reply.call = none ∧ ∃ gw', reply.router.gateways[g]? = some gw' ∧ Framed gw gw' := by
  cases performs hp with
  | nothing code => exact ⟨rfl, framed_still hg⟩
  | disowns outcome channel pinned =>
    exact ⟨rfl, framed_modify (f := (·.disown)) hg fun _ => ⟨rfl, rfl, rfl, fun _ => rfl⟩⟩
  | destroys outcome channel unpinned =>
    exact ⟨rfl, framed_destroy hg (channel_eq_some.mp channel).1 outcome⟩

theorem framed_subscribe {κ : RouteCodec} {r : ClientRouter} {g : GatewayId}
    {handler : Option Decoder} {reply : Reply ClientRouter}
    (hp : r.perform κ (.subscribe g handler) = some reply) {gw : GatewayImpl Tag}
    (hg : r.gateways[g]? = some gw) :
    ∃ gw', reply.router.gateways[g]? = some gw' ∧ Framed (gw.subscribe handler) gw' := by
  obtain ⟨x, _, rfl⟩ := Option.map_eq_some_iff.mp hp
  have hg' : (r.modify g (·.subscribe handler)).gateways[g]? = some (gw.subscribe handler) := by
    simp [hg]
  unfold subscribe onGatewaySubscription
  split
  · split
    · exact framed_raise hg' _ _
    · exact framed_still hg'
  · exact framed_still hg'

/-- What a gateway has sent, and to whom it speaks, is for its own channel to change. -/
theorem framed {κ : RouteCodec} {r : ClientRouter} {a : ClientAction}
    {reply : Reply ClientRouter} (hp : r.perform κ a = some reply) {g : GatewayId}
    (ha : a.asker ≠ some g) {gw : GatewayImpl Tag} (hg : r.gateways[g]? = some gw) :
    ∃ gw', reply.router.gateways[g]? = some gw' ∧ Framed gw gw' := by
  have hother : ∀ {i} {f : GatewayImpl Tag → GatewayImpl Tag}, some i ≠ some g →
      ∃ gw', (r.gateways.modify i f)[g]? = some gw' ∧ Framed gw gw' := fun hi =>
    framed_modify hg fun he => absurd (congrArg some he) hi
  cases performs hp with
  | nothing code => exact framed_still hg
  | makes room =>
    refine ⟨gw, ?_, .refl gw⟩
    simp only [ClientRouter.makeGateway]
    rwa [List.getElem?_append_left (List.getElem?_eq_some_iff.mp hg).1]
  | sends serviceId payload outcome channel =>
    simp only [transmit, gateways_pipeSend]
    exact hother ha
  | completes errorCode channel => exact hother ha
  | subscribes handler channel => exact hother ha
  | @greets i j x handler channel connected found =>
    obtain ⟨gw', hg', hframed⟩ := hother (f := (·.subscribe handler)) ha
    obtain ⟨x', hx', hframed'⟩ := framed_raise (r := r.modify i (·.subscribe handler)) hg' j
      .connected
    exact ⟨x', hx', hframed'.handler.trans hframed.handler,
      hframed'.sequence.trans hframed.sequence, hframed'.sent.trans hframed.sent,
      fun hzero => (hframed'.posts (hframed.sequence.trans hzero)).trans (hframed.posts hzero)⟩
  | disowns outcome channel pinned => exact hother ha
  | destroys outcome channel unpinned =>
    exact framed_destroy hg (channel_eq_some.mp channel).1 outcome
  | requests outcome idle => simpa [handlePipeConnected] using framed_still hg
  | connects payload order idle => exact framed_still hg
  | passes order => exact framed_raise hg _ _
  | @ends i e payload order idle decoded found =>
    exact framed_raise (r := r.unregister e.tag) hg _ _
  | loses order idle => exact framed_still hg
  | @notifies i rest remaining alive =>
    exact framed_raise (r := { r with broadcast := { r.broadcast with remaining := rest } })
      hg _ _
  | skips remaining dead => exact framed_still hg
  | drops outcome done pinned held => exact framed_destroy hg held outcome
  | unpins outcome done pinned => exact framed_still hg

theorem call_raise {r : ClientRouter} {g i : GatewayId} {e e' : Event}
    (hc : (r.raise i e).call = some (.event g e')) :
    g = i ∧ e' = e ∧ ∃ gw, r.gateways[g]? = some gw := by
  unfold raise at hc
  split at hc
  · next gw hg =>
    simp only at hc
    split at hc
    · cases hc
      exact ⟨rfl, rfl, gw, hg⟩
    · cases hc
  · cases hc

/-- A handler is told that it is connected by a subscription, or at its turn in a loop. -/
theorem greeted_cases {κ : RouteCodec} {r : ClientRouter} {a : ClientAction}
    {reply : Reply ClientRouter} (hp : r.perform κ a = some reply) {g : GatewayId}
    (hc : reply.call = some (.event g .connected)) :
    ∃ m : ClientRouter, reply.router = (m.raise g .connected).router ∧
      ((∃ i handler endpoint, a = .subscribe i handler ∧
          m = r.modify i (·.subscribe handler) ∧ r.isConnected = true ∧
          m.findGateway endpoint = some g) ∨
        ∃ rest, a = .notifyNext ∧ r.broadcast.remaining = g :: rest ∧
          r.broadcast.event = .connected ∧ isAlive r.gateways g = true ∧
          m = { r with broadcast := { r.broadcast with remaining := rest } }) := by
  cases performs hp with
  | nothing code => cases hc
  | makes room => cases hc
  | sends serviceId payload outcome channel => cases hc
  | completes errorCode channel => cases hc
  | subscribes handler channel => cases hc
  | @greets i j x handler channel connected found =>
    obtain ⟨rfl, -, -⟩ := call_raise hc
    exact ⟨r.modify i (·.subscribe handler), rfl,
      Or.inl ⟨i, handler, x.endpoint, rfl, rfl, connected, found⟩⟩
  | disowns outcome channel pinned => cases hc
  | destroys outcome channel unpinned => cases hc
  | requests outcome idle => cases hc
  | connects payload order idle => cases hc
  | passes order =>
    obtain ⟨-, he, -⟩ := call_raise hc
    cases he
  | ends order =>
    obtain ⟨-, he, -⟩ := call_raise hc
    cases he
  | loses order idle => cases hc
  | @notifies i rest remaining alive =>
    obtain ⟨rfl, he, -⟩ := call_raise hc
    refine ⟨{ r with broadcast := { r.broadcast with remaining := rest } }, ?_,
      Or.inr ⟨rest, rfl, remaining, he.symm, alive, rfl⟩⟩
    rw [he]
  | skips remaining dead => cases hc
  | drops outcome done pinned held => cases hc
  | unpins outcome done pinned => cases hc

theorem Orderly.greeted {κ : RouteCodec} {r : ClientRouter} {a : ClientAction}
    {reply : Reply ClientRouter} (h : r.Orderly) (hw : r.Wf) (hp : r.perform κ a = some reply)
    {g : GatewayId} (hc : reply.call = some (.event g .connected)) :
    reply.router.isConnected = true ∧ reply.router.Registered g := by
  have hw' := hw.step (step_eq_some.mpr ⟨reply, hp, rfl⟩)
  obtain ⟨m, hr, hm⟩ := greeted_cases hp hc
  rw [hr] at hw' ⊢
  rw [isConnected_raise]
  rcases hm with ⟨i, handler, endpoint, _, rfl, hconn, hf⟩ | ⟨rest, _, hrem, he, hal, rfl⟩
  · refine ⟨hconn, ?_⟩
    apply hw'.registry.registered
    rw [lookup_raise]
    exact (Option.filter_eq_some_iff.mp hf).1
  · obtain ⟨gw, hg, hal⟩ := isAlive_iff.mp hal
    obtain ⟨hconn, hlook⟩ := h.greeting he g (by rw [hrem]; exact List.mem_cons_self)
    refine ⟨hconn, ?_⟩
    apply hw'.registry.registered
    rw [lookup_raise]
    exact hlook gw hg hal

end ClientRouter

end Ocvsmd.Ipc
