import Ocvsmd.ClientEvents
import Ocvsmd.ServerEvents

set_option autoImplicit false

namespace Ocvsmd.Ipc

def EndsOnce (events : List Event) : Prop :=
  events.Pairwise fun e _ => ∀ errorCode, e ≠ .completed errorCode

theorem EndsOnce.append {events : List Event} (h : EndsOnce events)
    (ho : ∀ c, .completed c ∉ events) (e : Event) : EndsOnce (events ++ [e]) := by
  unfold EndsOnce
  rw [List.pairwise_append]
  refine ⟨h, List.pairwise_singleton _ _, fun a ha _ _ c hc => ?_⟩
  rw [hc] at ha
  exact ho c ha

namespace ServerRouter

/-- The router has nothing more to tell this gateway. -/
def Delisted (r : ServerRouter) (g : GatewayId) : Prop :=
  (∀ ep, r.lookup ep ≠ some g) ∧ g ∉ r.remaining

/-- What a step tells a gateway that was there: one thing at most, if it was listed. -/
inductive Told (r r' : ServerRouter) (g : GatewayId) (gw gw' : GatewayImpl Endpoint) : Prop where
  | nothing (events : gw'.events = gw.events)
  | event (e : Event) (events : gw'.events = gw.events ++ [e]) (listed : ¬ r.Delisted g)
      (last : ∀ c, e = .completed c → r'.Delisted g)

structure Progress (r r' : ServerRouter) : Prop where
  entries : ∀ ep g, r'.lookup ep = some g → r.lookup ep = some g ∨ g = r.gateways.length
  turns : r'.remaining = r.remaining ∨ (∃ g, r.remaining = g :: r'.remaining) ∨
    r'.remaining.Nodup ∧
      ∀ g ∈ r'.remaining, (∃ ep, r.lookup ep = some g) ∧ ∀ ep, r'.lookup ep ≠ some g
  old : ∀ (g : GatewayId) (gw : GatewayImpl Endpoint), r.gateways[g]? = some gw →
    ∃ gw', r'.gateways[g]? = some gw' ∧ gw'.endpoint = gw.endpoint ∧ Told r r' g gw gw'
  new : ∀ (g : GatewayId) (gw : GatewayImpl Endpoint), r.gateways[g]? = none →
    r'.gateways[g]? = some gw → g = r.gateways.length ∧ (∀ c, .completed c ∉ gw.events) ∧
      ∀ i, r'.lookup gw.endpoint = some i → i = g

/-- The lists say of each gateway what there is left to tell it. -/
structure Orderly (r : ServerRouter) : Prop where
  once : r.remaining.Nodup
  made : ∀ g ∈ r.remaining, g < r.gateways.length
  leaving : ∀ g ∈ r.remaining, ∀ ep, r.lookup ep ≠ some g
  ended : Each r.gateways fun g gw => (∃ c, .completed c ∈ gw.events) → r.Delisted g
  newest : ∀ ep g, r.lookup ep = some g → Each r.gateways fun i gw => gw.endpoint = ep → i ≤ g
  events : Each r.gateways fun _ gw => EndsOnce gw.events

theorem orderly_init : ({} : ServerRouter).Orderly where
  once := List.nodup_nil
  made := fun _ h => by cases h
  leaving := fun _ h => by cases h
  ended := Each.nil
  newest := fun _ _ _ => Each.nil
  events := Each.nil

theorem Wf.index_lt {r : ServerRouter} (h : r.Wf) {ep : Endpoint} {g : GatewayId}
    (hl : r.lookup ep = some g) : g < r.gateways.length := by
  obtain ⟨gw, hg, _⟩ := h.registry ep g hl
  exact (List.getElem?_eq_some_iff.mp hg).1

theorem Progress.back {r r' : ServerRouter} (hp : r.Progress r') {g : GatewayId}
    {gw' : GatewayImpl Endpoint} (hg' : r'.gateways[g]? = some gw') : r.gateways[g]? = none ∨
      ∃ gw, r.gateways[g]? = some gw ∧ gw'.endpoint = gw.endpoint ∧ Told r r' g gw gw' := by
  cases hg : r.gateways[g]? with
  | none => exact Or.inl rfl
  | some gw =>
    obtain ⟨x, hx, he, ht⟩ := hp.old g gw hg
    rw [hg'] at hx
    cases hx
    exact Or.inr ⟨gw, rfl, he, ht⟩

theorem Progress.made {r r' : ServerRouter} (hp : r.Progress r') {g : GatewayId}
    (hlt : g < r.gateways.length) : g < r'.gateways.length := by
  obtain ⟨x, hx, _⟩ := hp.old g _ (List.getElem?_eq_getElem hlt)
  exact (List.getElem?_eq_some_iff.mp hx).1

theorem Progress.delisted {r r' : ServerRouter} (hp : r.Progress r') {g : GatewayId}
    (hlt : g < r.gateways.length) (hd : r.Delisted g) : r'.Delisted g := by
  refine ⟨fun ep hl => ?_, fun hmem => ?_⟩
  · rcases hp.entries ep g hl with hl | rfl
    · exact hd.1 ep hl
    · exact Nat.lt_irrefl _ hlt
  · rcases hp.turns with heq | ⟨i, heq⟩ | ⟨_, hids⟩
    · exact hd.2 (heq ▸ hmem)
    · exact hd.2 (heq ▸ List.mem_cons_of_mem _ hmem)
    · obtain ⟨ep, hl⟩ := (hids g hmem).1
      exact hd.1 ep hl

theorem Orderly.once_progress {r r' : ServerRouter} (h : r.Orderly) (hp : r.Progress r') :
    r'.remaining.Nodup := by
  rcases hp.turns with heq | ⟨i, heq⟩ | ⟨hnodup, _⟩
  · rw [heq]
    exact h.once
  · have honce := h.once
    rw [heq] at honce
    exact (List.nodup_cons.mp honce).2
  · exact hnodup

theorem Orderly.made_progress {r r' : ServerRouter} (h : r.Orderly) (hw : r.Wf)
    (hp : r.Progress r') : ∀ g ∈ r'.remaining, g < r'.gateways.length := by
  intro g hmem
  rcases hp.turns with heq | ⟨i, heq⟩ | ⟨_, hids⟩
  · exact hp.made (h.made g (heq ▸ hmem))
  · exact hp.made (h.made g (heq ▸ List.mem_cons_of_mem _ hmem))
  · obtain ⟨ep, hl⟩ := (hids g hmem).1
    exact hp.made (hw.index_lt hl)

theorem Orderly.leaving_progress {r r' : ServerRouter} (h : r.Orderly) (hp : r.Progress r') :
    ∀ g ∈ r'.remaining, ∀ ep, r'.lookup ep ≠ some g := by
  have hleft : ∀ {g}, g ∈ r.remaining → ∀ ep, r'.lookup ep ≠ some g := by
    intro g hmem ep hl
    rcases hp.entries ep g hl with hl | rfl
    · exact h.leaving g hmem ep hl
    · exact Nat.lt_irrefl _ (h.made _ hmem)
  intro g hmem
  rcases hp.turns with heq | ⟨i, heq⟩ | ⟨_, hids⟩
  · exact hleft (heq ▸ hmem)
  · exact hleft (heq ▸ List.mem_cons_of_mem _ hmem)
  · exact (hids g hmem).2

theorem Orderly.ended_progress {r r' : ServerRouter} (h : r.Orderly) (hp : r.Progress r') :
    Each r'.gateways fun g gw => (∃ c, .completed c ∈ gw.events) → r'.Delisted g := by
  rintro g gw' hg' ⟨c, hc⟩
  rcases hp.back hg' with hn | ⟨gw, hg, _, ht⟩
  · exact absurd hc ((hp.new g gw' hn hg').2.1 c)
  · cases ht with
    | nothing events =>
      rw [events] at hc
      exact hp.delisted (List.getElem?_eq_some_iff.mp hg).1 (h.ended g gw hg ⟨c, hc⟩)
    | event e events listed last =>
      rw [events] at hc
      rcases List.mem_append.mp hc with hc | hc
      · exact absurd (h.ended g gw hg ⟨c, hc⟩) listed
      · exact last c (List.mem_singleton.mp hc).symm

theorem Orderly.newest_progress {r r' : ServerRouter} (h : r.Orderly) (hp : r.Progress r')
    (ep : Endpoint) (g : GatewayId) (hl : r'.lookup ep = some g) :
    Each r'.gateways fun i gw => gw.endpoint = ep → i ≤ g := by
  intro i gw' hi he
  rcases hp.back hi with hn | ⟨gw, hg, hep, _⟩
  · subst he
    exact Nat.le_of_eq ((hp.new i gw' hn hi).2.2 g hl).symm
  · rcases hp.entries ep g hl with hl | rfl
    · exact h.newest ep g hl i gw hg (hep.symm.trans he)
    · exact Nat.le_of_lt (List.getElem?_eq_some_iff.mp hg).1

theorem Orderly.events_progress {r r' : ServerRouter} (h : r.Orderly) (hp : r.Progress r') :
    Each r'.gateways fun _ gw => EndsOnce gw.events := by
  intro g gw' hg'
  rcases hp.back hg' with hn | ⟨gw, hg, _, ht⟩
  · refine List.pairwise_iff_forall_sublist.mpr fun {a b} hsub c hc => ?_
    rw [hc] at hsub
    exact (hp.new g gw' hn hg').2.1 c (hsub.subset List.mem_cons_self)
  · cases ht with
    | nothing events =>
      rw [events]
      exact h.events g gw hg
    | event e events listed last =>
      rw [events]
      exact (h.events g gw hg).append (fun c hc => listed (h.ended g gw hg ⟨c, hc⟩)) e

theorem Orderly.progress {r r' : ServerRouter} (h : r.Orderly) (hw : r.Wf)
    (hp : r.Progress r') : r'.Orderly where
  once := h.once_progress hp
  made := h.made_progress hw hp
  leaving := h.leaving_progress hp
  ended := h.ended_progress hp
  newest := h.newest_progress hp
  events := h.events_progress hp

theorem Told.still {r r' : ServerRouter} (g : GatewayId) (gw : GatewayImpl Endpoint) :
    Told r r' g gw gw := .nothing rfl

theorem Progress.still {r r' : ServerRouter} (hg : r'.gateways = r.gateways)
    (hl : ∀ ep g, r'.lookup ep = some g → r.lookup ep = some g)
    (ht : r'.remaining = r.remaining ∨ (∃ g, r.remaining = g :: r'.remaining) ∨
      r'.remaining.Nodup ∧
        ∀ g ∈ r'.remaining, (∃ ep, r.lookup ep = some g) ∧ ∀ ep, r'.lookup ep ≠ some g) :
    r.Progress r' where
  entries := fun ep g h => Or.inl (hl ep g h)
  turns := ht
  old := fun g gw h => ⟨gw, by rw [hg]; exact h, rfl, .still g gw⟩
  new := fun g gw hn h => by rw [hg, hn] at h; cases h

theorem Progress.modify {r r' : ServerRouter} {i : GatewayId}
    {f : GatewayImpl Endpoint → GatewayImpl Endpoint} (hg : r'.gateways = r.gateways.modify i f)
    (he : ∀ gw, (f gw).endpoint = gw.endpoint)
    (htold : ∀ gw, r.gateways[i]? = some gw → Told r r' i gw (f gw))
    (hl : ∀ ep g, r'.lookup ep = some g → r.lookup ep = some g)
    (ht : r'.remaining = r.remaining ∨ ∃ g, r.remaining = g :: r'.remaining) : r.Progress r' where
  entries := fun ep g h => Or.inl (hl ep g h)
  turns := ht.imp_right Or.inl
  old := by
    intro g gw h
    by_cases hi : i = g
    · subst hi
      exact ⟨f gw, by simp [hg, h], he gw, htold gw h⟩
    · exact ⟨gw, by simp [hg, hi, h], rfl, .still g gw⟩
  new := by
    intro g gw hn h
    rw [hg, List.getElem?_modify, hn] at h
    cases h

theorem Progress.after {r m r' : ServerRouter} (h : m.Progress r') {i : GatewayId}
    {f : GatewayImpl Endpoint → GatewayImpl Endpoint} (hg : m.gateways = r.gateways.modify i f)
    (he : ∀ gw, (f gw).endpoint = gw.endpoint) (hev : ∀ gw, (f gw).events = gw.events)
    (hl : m.lookup = r.lookup) (hr : m.remaining = r.remaining) : r.Progress r' where
  entries := fun ep g hlook => by
    have hentry := h.entries ep g hlook
    rwa [hl, hg, List.length_modify] at hentry
  turns := by
    have hturns := h.turns
    rwa [hl, hr] at hturns
  old := by
    intro g gw hgw
    have hm : ∃ x, m.gateways[g]? = some x ∧ x.endpoint = gw.endpoint ∧ x.events = gw.events := by
      by_cases hi : i = g
      · subst hi
        exact ⟨f gw, by simp [hg, hgw], he gw, hev gw⟩
      · exact ⟨gw, by simp [hg, hi, hgw], rfl, rfl⟩
    obtain ⟨x, hx, hxe, hxev⟩ := hm
    obtain ⟨gw', hg', hep, ht⟩ := h.old g x hx
    refine ⟨gw', hg', hep.trans hxe, ?_⟩
    cases ht with
    | nothing events => exact .nothing (events.trans hxev)
    | event e events listed last =>
      refine .event e (by rw [events, hxev]) (fun hd => listed ?_) last
      exact ⟨by rw [hl]; exact hd.1, by rw [hr]; exact hd.2⟩
  new := by
    intro g gw' hn hg'
    have hnew := h.new g gw' (by rw [hg, List.getElem?_modify, hn]; rfl) hg'
    rwa [hg, List.length_modify] at hnew

theorem Progress.append {r r' : ServerRouter} {gw : GatewayImpl Endpoint}
    (hg : r'.gateways = r.gateways ++ [gw]) (hc : ∀ c, .completed c ∉ gw.events)
    (hself : ∀ i, r'.lookup gw.endpoint = some i → i = r.gateways.length)
    (hl : ∀ ep g, r'.lookup ep = some g → r.lookup ep = some g ∨ g = r.gateways.length)
    (hr : r'.remaining = r.remaining) : r.Progress r' where
  entries := hl
  turns := Or.inl hr
  old := fun g x h => by
    have hlt := (List.getElem?_eq_some_iff.mp h).1
    exact ⟨x, by rw [hg, List.getElem?_append_left hlt]; exact h, rfl, .still g x⟩
  new := by
    intro g x hn h
    have hge := List.getElem?_eq_none_iff.mp hn
    rw [hg, List.getElem?_append_right hge, List.getElem?_singleton] at h
    split at h
    · next hzero =>
      cases h
      have hlen : g = r.gateways.length := Nat.le_antisymm (Nat.sub_eq_zero_iff_le.mp hzero) hge
      subst hlen
      exact ⟨rfl, hc, hself⟩
    · cases h

theorem lookup_update_none {r : ServerRouter} {ep ep' : Endpoint} {g : GatewayId}
    (h : Function.update r.lookup ep none ep' = some g) : r.lookup ep' = some g := by
  by_cases he : ep' = ep
  · subst he
    simp at h
  · rwa [Function.update_of_ne he] at h

theorem Progress.destroy {κ : RouteCodec} (r : ServerRouter) (g : GatewayId)
    (gw : GatewayImpl Endpoint) (outcome : Int32) : r.Progress (r.destroy κ g gw outcome) := by
  have hl : ∀ ep i, (r.destroy κ g gw outcome).lookup ep = some i → r.lookup ep = some i := by
    intro ep i h
    rw [lookup_destroy] at h
    exact lookup_update_none h
  have hr := remaining_destroy κ r g gw outcome
  rcases gateways_destroy κ r g gw outcome with hgs | hgs
  · exact .modify hgs (fun _ => rfl) (fun _ _ => .nothing rfl) hl (Or.inl hr)
  · rw [List.modify_modify_eq] at hgs
    exact .modify hgs (fun _ => rfl) (fun _ _ => .nothing rfl) hl (Or.inl hr)

theorem Progress.raise {r : ServerRouter} {ep : Endpoint} {g : GatewayId} {e : Event}
    (hl : r.lookup ep = some g) (he : ∀ c, e ≠ .completed c) :
    r.Progress (r.raise g e).router := by
  unfold ServerRouter.raise
  split
  · exact .modify (f := (·.hear e)) rfl (fun _ => rfl)
      (fun _ _ => .event e rfl (fun hd => hd.1 ep hl) fun c hc => absurd hc (he c))
      (fun _ _ => id) (Or.inl rfl)
  · exact .still rfl (fun _ _ => id) (Or.inl rfl)

/-- Who is taken off the map outside a loop has no turn to come. -/
theorem Wf.delisted_erased {r r' : ServerRouter} (hw : r.Wf) {ep : Endpoint} {g : GatewayId}
    (registered : r.lookup ep = some g)
    (lookup : r'.lookup = Function.update r.lookup ep none) (remaining : r'.remaining = []) :
    r'.Delisted g := by
  refine ⟨fun ep' hl => ?_, by rw [remaining]; exact List.not_mem_nil⟩
  rw [lookup] at hl
  have he := hw.registry.injective (lookup_update_none hl) registered
  subst he
  simp at hl

theorem Orderly.delisted_turn {r r' : ServerRouter} (ho : r.Orderly) {g : GatewayId}
    (lookup : r'.lookup = r.lookup) (remaining : r.remaining = g :: r'.remaining) :
    r'.Delisted g := by
  have hmem : g ∈ r.remaining := by
    rw [remaining]
    exact List.mem_cons_self
  refine ⟨fun ep hl => ?_, ?_⟩
  · rw [lookup] at hl
    exact ho.leaving g hmem ep hl
  · have honce := ho.once
    rw [remaining] at honce
    exact (List.nodup_cons.mp honce).1

theorem Handled.progress {r : ServerRouter} {reply : Reply ServerRouter} (h : r.Handled reply)
    (hw : r.Wf) (ho : r.Orderly)
    (hturns : reply.router.remaining = r.remaining ∨
      (∃ g, r.remaining = g :: reply.router.remaining) ∨
      (r.idle = true ∧ ∃ c, reply.router.remaining.Perm (r.ids c))) :
    r.Progress reply.router := by
  cases h with
  | quiet gateways lookup turns remaining call =>
    refine .still gateways (fun _ _ hl => by rwa [lookup] at hl) ?_
    rcases hturns with heq | hturn | ⟨hidle, _⟩
    · exact Or.inl heq
    · exact Or.inr (Or.inl hturn)
    · have hnil : r.remaining = [] := List.isEmpty_iff.mp hidle
      left
      rw [hnil]
      exact List.eq_nil_iff_forall_not_mem.mpr fun g hg => by
        have hin := remaining g hg
        rw [hnil] at hin
        cases hin
  | heard g gw sequence payload found registered gateways lookup idle remaining call =>
    refine .modify gateways (fun _ => rfl) (fun _ _ => .event _ rfl ?_ ?_)
      (fun _ _ hl => by rwa [lookup] at hl) (Or.inl (remaining.trans idle.symm))
    · exact fun hd => hd.1 _ registered
    · exact fun c hc => by cases hc
  | dropped gw serviceId input payload factory undecodable unregistered dead got gateways lookup
      idle remaining call =>
    refine .append gateways (fun c hc => ?_) (fun i hl => ?_)
      (fun _ _ hl => Or.inl (by rwa [lookup] at hl)) (remaining.trans idle.symm)
    · have hin : .fin c ∈ gw.got := List.mem_filterMap.mpr ⟨_, hc, rfl⟩
      rw [got, List.mem_singleton] at hin
      cases hin
    · rw [lookup, unregistered] at hl
      cases hl
  | opened ep serviceId input payload factory decodable unregistered gateways lookup idle
      remaining call =>
    refine .append gateways (fun c hc => ?_) (fun i hl => ?_) (fun ep' g hl => ?_)
      (remaining.trans idle.symm)
    · rw [List.mem_singleton] at hc
      cases hc
    · rw [lookup, Function.update_self] at hl
      exact (Option.some.inj hl).symm
    · rw [lookup] at hl
      by_cases he : ep' = ep
      · subst he
        rw [Function.update_self] at hl
        exact Or.inr (Option.some.inj hl).symm
      · rw [Function.update_of_ne he] at hl
        exact Or.inl hl
  | ended g gw errorCode found registered gateways lookup idle remaining call =>
    have hgone := hw.delisted_erased registered lookup remaining
    exact .modify gateways (fun _ => rfl)
      (fun _ _ => .event _ rfl (fun hd => hd.1 _ registered) fun _ _ => hgone)
      (fun _ _ hl => by rw [lookup] at hl; exact lookup_update_none hl)
      (Or.inl (remaining.trans idle.symm))
  | lost c gateways lookup idle remaining call =>
    refine .still gateways (fun ep g hl => ?_) (Or.inr (Or.inr ⟨?_, fun g hg => ?_⟩))
    · rw [lookup] at hl
      split at hl
      · cases hl
      · exact hl
    · rcases hturns with heq | ⟨g, heq⟩ | ⟨_, c', hperm⟩
      · rw [heq, idle]
        exact List.nodup_nil
      · rw [idle] at heq
        cases heq
      · exact hperm.nodup_iff.mpr (hw.ids_nodup c')
    · obtain ⟨t, ht⟩ := (remaining g).mp hg
      refine ⟨⟨_, ht⟩, fun ep hl => ?_⟩
      rw [lookup] at hl
      split at hl
      · cases hl
      · next hne => exact hne (congrArg Endpoint.clientId (hw.registry.injective hl ht))
  | turn g gw found alive gateways lookup remaining call =>
    have hmem : g ∈ r.remaining := by
      rw [remaining]
      exact List.mem_cons_self
    have hgone := ho.delisted_turn lookup remaining
    exact .modify gateways (fun _ => rfl)
      (fun _ _ => .event _ rfl (fun hd => hd.2 hmem) fun _ _ => hgone)
      (fun _ _ hl => by rwa [lookup] at hl) (Or.inr ⟨g, remaining⟩)

theorem Orderly.step_progress {κ : RouteCodec} {r r' : ServerRouter} {a : ServerAction}
    (h : r.Orderly) (hw : r.Wf) (hs : r.step κ a = some r') : r.Progress r' := by
  obtain ⟨reply, hp, rfl⟩ := step_eq_some.mp hs
  by_cases ha : a.isIncoming = true
  · exact (hw.handled ha hp).progress hw h
      ((remaining_step hs).imp_right (Or.imp_left fun hturn => hturn.2))
  · cases performs hp with
    | nothing code => exact .still rfl (fun _ _ => id) (Or.inl rfl)
    | registers serviceId input => exact .still rfl (fun _ _ => id) (Or.inl rfl)
    | @sends g gw serviceId payload outcome channel =>
      refine .modify (i := g) (f := (·.advance.post (.msg gw.nextSequence.toNat payload) outcome))
        (gateways_pipeSend _ _ _ _) (fun _ => rfl) (fun _ _ => .nothing rfl) (fun _ _ hl => ?_)
        (Or.inl (remaining_pipeSend _ _ _ _))
      rwa [transmit, lookup_pipeSend] at hl
    | completes errorCode channel =>
      exact .modify (f := (·.complete errorCode)) rfl (fun _ => rfl) (fun _ _ => .nothing rfl)
        (fun _ _ => id) (Or.inl rfl)
    | subscribes handler channel =>
      exact .modify (f := (·.subscribe handler)) rfl (fun _ => rfl) (fun _ _ => .nothing rfl)
        (fun _ _ => id) (Or.inl rfl)
    | greets handler channel found =>
      have hl := (Option.filter_eq_some_iff.mp found).1
      exact Progress.after (f := (·.subscribe handler))
        (Progress.raise hl fun c hc => by cases hc) rfl (fun _ => rfl) (fun _ => rfl) rfl rfl
    | destroys outcome channel => exact .destroy r _ _ outcome
    | connects c outcome => exact absurd rfl ha
    | passes outcome => exact absurd rfl ha
    | opens outcome => exact absurd rfl ha
    | ends outcome => exact absurd rfl ha
    | loses idle => exact absurd rfl ha
    | notifies remaining alive => exact absurd rfl ha
    | skips remaining dead => exact absurd rfl ha

theorem Reachable.orderly {κ : RouteCodec} {r : ServerRouter} (h : Reachable κ r) :
    r.Wf ∧ r.Orderly :=
  Runs.Reachable.invariant (P := fun r => r.Wf ∧ r.Orderly) h ⟨wf_init, orderly_init⟩
    fun hi hs => ⟨hi.1.step hs, hi.2.progress hi.1 (hi.2.step_progress hi.1 hs)⟩

end ServerRouter

namespace ClientRouter

theorem Updates.length {κ : RouteCodec} {r r' : ClientRouter} (h : Updates κ r r') :
    r'.gateways.length = r.gateways.length := by
  refine h.keep (P := fun m => m.gateways.length = r.gateways.length) ?_ rfl
  intro m m' hm hu
  cases hu with
  | gateway i f =>
    rw [gateways_modify, List.length_modify]
    exact hm
  | unregister endpoint => exact hm
  | post channel connected outcome =>
    rw [gateways_pipeSend]
    exact hm

theorem length_step {κ : RouteCodec} {r r' : ClientRouter} {a : ClientAction}
    (hs : r.step κ a = some r') (ha : a ≠ .makeGateway) :
    r'.gateways.length = r.gateways.length := by
  cases step_case hs with
  | updates done => exact done.length
  | makes => exact absurd rfl ha
  | requests outcome => simp [handlePipeConnected]
  | connects payload order idle ids answer =>
    unfold handleRouteConnect
    split <;> rfl
  | loses order idle ids =>
    unfold handlePipeDisconnected
    split <;> rfl
  | turns g rest remaining done => exact done.length
  | drops outcome rest done => exact done.length

theorem Orderly.ends_once {κ : RouteCodec} {r r' : ClientRouter} {a : ClientAction}
    (ho : r.Orderly) (hw : r.Wf) (hs : r.step κ a = some r')
    (h : Each r.gateways fun _ gw => EndsOnce gw.events) :
    Each r'.gateways fun _ gw => EndsOnce gw.events := by
  intro g gw' hg'
  obtain ⟨reply, hp, hr⟩ := step_eq_some.mp hs
  cases hg : r.gateways[g]? with
  | some gw =>
    obtain ⟨x, hx, hhears⟩ := hears hp hg
    rw [hr, hg'] at hx
    cases hx
    cases hhears with
    | nothing events uncalled =>
      rw [events]
      exact h g gw hg
    | event e events called =>
      rw [events]
      refine (h g gw hg).append (fun c hc => ?_) e
      have hsame := ho.over hw hs hg hg' hc
      rw [events] at hsame
      simp at hsame
  | none =>
    by_cases ha : a = .makeGateway
    · subst ha
      obtain ⟨_, rfl⟩ : r.gateways.length < 2^64 ∧ _ = reply := by simpa [perform] using hp
      subst hr
      refine Each.append (P := fun _ gw => EndsOnce gw.events) h ?_ g gw' hg'
      exact List.Pairwise.nil
    · have hlt := (List.getElem?_eq_some_iff.mp hg').1
      rw [length_step hs ha] at hlt
      exact absurd (List.getElem?_eq_none_iff.mp hg) (Nat.not_le.mpr hlt)

theorem Reachable.ends_once {κ : RouteCodec} {r : ClientRouter} (h : Reachable κ r) :
    r.Wf ∧ r.Orderly ∧ Each r.gateways fun _ gw => EndsOnce gw.events :=
  Runs.Reachable.invariant
    (P := fun r => r.Wf ∧ r.Orderly ∧ Each r.gateways fun _ gw => EndsOnce gw.events) h
    ⟨wf_init, orderly_init, Each.nil⟩
    fun hi hs => ⟨hi.1.step hs, hi.2.1.step hi.1 hs, hi.2.1.ends_once hi.1 hs hi.2.2⟩

end ClientRouter

def Newest {E : Type} (gs : List (GatewayImpl E)) (g : GatewayId) (ep : E) : Prop :=
  ∀ (i : GatewayId) (gw : GatewayImpl E), gs[i]? = some gw → g < i → gw.endpoint ≠ ep

/-- On either side a gateway is told of its end once, and then nothing more, whatever
becomes of it. It gives the pipe nothing more, except that on a server its last word is
for a later gateway of its endpoint, if there is one. -/
theorem one_ending (κ : RouteCodec) :
    (∀ r : ClientRouter, ClientRouter.Reachable κ r → Each r.gateways fun g gw =>
      EndsOnce gw.events ∧ ∀ c, .completed c ∈ gw.events → ∀ a r', r.step κ a = some r' →
        ∃ gw', r'.gateways[g]? = some gw' ∧ gw'.events = gw.events ∧ gw'.posts = gw.posts) ∧
    (∀ r : ServerRouter, ServerRouter.Reachable κ r → Each r.gateways fun g gw =>
      EndsOnce gw.events ∧ ∀ c, .completed c ∈ gw.events → ∀ a r', r.step κ a = some r' →
        ∃ gw', r'.gateways[g]? = some gw' ∧ gw'.events = gw.events ∧
          (Newest r.gateways g gw.endpoint → gw'.posts = gw.posts)) := by
  constructor
  · intro r hr g gw hg
    obtain ⟨hw, ho, honce⟩ := hr.ends_once
    refine ⟨honce g gw hg, fun c hc a r' hs => ?_⟩
    obtain ⟨gw', hg', hchanges⟩ := (hw.evolves hs).old g gw hg
    have hsilent := ho.silent hw hg hc hchanges
    exact ⟨gw', hg', hsilent⟩
  · intro r hr g gw hg
    obtain ⟨hw, ho⟩ := hr.orderly
    refine ⟨ho.events g gw hg, fun c hc a r' hs => ?_⟩
    have hd := ho.ended g gw hg ⟨c, hc⟩
    obtain ⟨gw', hg', _, htold⟩ := (ho.step_progress hw hs).old g gw hg
    refine ⟨gw', hg', ?_, fun hnewest => ?_⟩
    · cases htold with
      | nothing events => exact events
      | event e events listed last => exact absurd hd listed
    · obtain ⟨x, hx, hchanges⟩ := (hw.evolves hs).old g gw hg
      rw [hg'] at hx
      cases hx
      refine (hchanges.silent ?_ ?_).2
      · rintro ⟨y, hy, hl⟩
        rw [hg] at hy
        cases hy
        obtain ⟨i, hl⟩ := Option.isSome_iff_exists.mp hl
        obtain ⟨z, hi, he, _⟩ := hw.registry _ _ hl
        have hne : g ≠ i := fun heq => hd.1 _ (heq ▸ hl)
        exact hnewest i z hi (Nat.lt_of_le_of_ne (ho.newest _ _ hl g gw hg rfl) hne) he
      · unfold ServerRouter.due
        split
        · exact if_neg fun hhead => hd.2 (List.mem_of_head? hhead)
        · rfl

def endOfChannel : Bytes := Route.serialize (.channelEnd ⟨0, 5⟩)

def endedClient : ClientRouter :=
  (Runs.run (ClientRouter.step cyphalCodec) connected [.pipeMessage endOfChannel [0]]).getD {}

def endedServer : ServerRouter :=
  (Runs.run (ServerRouter.step cyphalCodec) {}
    [.registerChannelFactory 7 fun _ => true,
     .pipeMessage 1 (Route.serialize (.connect ⟨currentVersion, 0⟩)) 0,
     .pipeMessage 1 firstMessage 0, .pipeMessage 1 endOfChannel 0]).getD {}

theorem endedClient_reachable : ClientRouter.Reachable cyphalCodec endedClient := by
  have hrun : (Runs.run (ClientRouter.step cyphalCodec) connected
      [.pipeMessage endOfChannel [0]]).isSome = true := by decide +kernel
  obtain ⟨r, hr⟩ := Option.isSome_iff_exists.mp hrun
  have heq : endedClient = r := by simp [endedClient, hr]
  rw [heq]
  exact connected_reachable.run hr

theorem endedServer_reachable : ServerRouter.Reachable cyphalCodec endedServer :=
  Runs.Reachable.getD (by decide +kernel)

theorem one_ending_sample :
    (∃ r' gw', endedClient.step cyphalCodec (.subscribe 0 none) = some r' ∧
      r'.gateways[0]? = some gw' ∧ gw'.events = [.connected, .completed 5]) ∧
    (∃ r' gw', endedServer.step cyphalCodec (.release 0 0) = some r' ∧
      r'.gateways[0]? = some gw' ∧ gw'.events = [.message 0 [1], .completed 5] ∧
      gw'.posts = []) := by
  constructor
  · have hgateway : (endedClient.gateways[0]?).any
        (·.events = [.connected, .completed 5]) = true := by decide +kernel
    obtain ⟨gw, hg, hev⟩ := (Option.any_eq_true _ _).mp hgateway
    have hev := of_decide_eq_true hev
    have hstep : (endedClient.step cyphalCodec (.subscribe 0 none)).isSome = true := by
      decide +kernel
    obtain ⟨r', hs⟩ := Option.isSome_iff_exists.mp hstep
    obtain ⟨gw', hg', hsame, _⟩ :=
      ((one_ending cyphalCodec).1 endedClient endedClient_reachable 0 gw hg).2 5 (by simp [hev])
        _ r' hs
    exact ⟨r', gw', hs, hg', hsame.trans hev⟩
  · have hgateway : (endedServer.gateways[0]?).any
        (fun gw => gw.events = [.message 0 [1], .completed 5] ∧ gw.posts = []) = true := by
      decide +kernel
    obtain ⟨gw, hg, hall⟩ := (Option.any_eq_true _ _).mp hgateway
    obtain ⟨hev, hposts⟩ := of_decide_eq_true hall
    have hstep : (endedServer.step cyphalCodec (.release 0 0)).isSome = true := by decide +kernel
    obtain ⟨r', hs⟩ := Option.isSome_iff_exists.mp hstep
    have hone : endedServer.gateways.length = 1 := by decide +kernel
    have hnewest : Newest endedServer.gateways 0 gw.endpoint := fun i x hi hlt => by
      have hbound := (List.getElem?_eq_some_iff.mp hi).1
      rw [hone] at hbound
      exact absurd hlt (Nat.not_lt.mpr (Nat.lt_succ_iff.mp hbound))
    obtain ⟨gw', hg', hsame, hsilent⟩ :=
      ((one_ending cyphalCodec).2 endedServer endedServer_reachable 0 gw hg).2 5 (by simp [hev])
        _ r' hs
    exact ⟨r', gw', hs, hg', hsame.trans hev, (hsilent hnewest).trans hposts⟩

end Ocvsmd.Ipc
