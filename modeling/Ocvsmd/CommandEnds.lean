import Ocvsmd.CommandCarried
import Ocvsmd.CommandLoad

set_option autoImplicit false

namespace Ocvsmd.Ipc.ClientRouter

def Kept (r : ClientRouter) : Prop := Each r.gateways fun _ gw => gw.alive = true → gw.owned = true

theorem Kept.modify {r : ClientRouter} (h : r.Kept) (g : GatewayId)
    {f : GatewayImpl Tag → GatewayImpl Tag} (hf : GatewayImpl.Quiet f) : (r.modify g f).Kept :=
  Each.modify h fun gw _ hgw ha => by
    rw [hf.alive] at ha
    rw [hf.owned]
    exact hgw ha

theorem Kept.raise {r : ClientRouter} (h : r.Kept) (g : GatewayId) (e : Event) :
    (r.raise g e).router.Kept := by
  unfold ClientRouter.raise
  split
  · exact h.modify g (GatewayImpl.quiet_hear e)
  · exact h

theorem Kept.destroy {r : ClientRouter} (h : r.Kept) (κ : RouteCodec) (g : GatewayId)
    (gw : GatewayImpl Tag) (outcome : Int32) : (r.destroy κ g gw outcome).Kept := by
  intro i x hx halive
  by_cases hi : g = i
  · subst hi
    rw [dead_of_destroy hx] at halive
    cases halive
  · have hold : r.gateways[i]? = some x := by
      rcases gateways_destroy κ r g gw outcome with heq | heq
      · simpa [heq, hi] using hx
      · simpa [heq, hi] using hx
    exact h i x hold halive

theorem Kept.turn {κ : RouteCodec} {r r' : ClientRouter} {a : ClientAction} (h : r.Kept)
    (ha : a.isTurn = true) (hs : r.step κ a = some r') : r'.Kept := by
  obtain ⟨reply, hp, rfl⟩ := step_eq_some.mp hs
  cases performs hp with
  | nothing code => exact h
  | makes room => cases ha
  | sends serviceId payload outcome channel =>
    unfold Kept
    rw [transmit, gateways_pipeSend]
    exact h.modify _ (GatewayImpl.quiet_advance_post _ _)
  | completes errorCode channel => cases ha
  | subscribes handler channel => cases ha
  | greets handler channel => cases ha
  | disowns outcome channel pinned => cases ha
  | destroys outcome channel unpinned => cases ha
  | requests outcome idle => cases ha
  | connects payload order idle ids => exact h
  | passes order => exact h.raise _ _
  | @ends g e payload order idle decoded found =>
    exact Kept.raise (r := r.unregister e.tag) h _ _
  | loses order idle => cases ha
  | @notifies g rest remaining alive =>
    exact Kept.raise (r := { r with broadcast := { r.broadcast with remaining := rest } }) h _ _
  | skips remaining dead => exact h
  | drops outcome done pinned held => exact h.destroy κ _ _ outcome
  | unpins outcome done pinned => exact h

theorem Kept.called {r : ClientRouter} (h : r.Kept) {reply : Reply ClientRouter}
    (hn : r.notifyNext = some reply) {g : GatewayId} {e : Event}
    (hc : reply.call = some (.event g e)) : ∃ gw, reply.router.channel g = some gw := by
  unfold notifyNext at hn
  split at hn
  · cases hn
  · next i rest hrem =>
    cases hn
    split at hc
    · next halive =>
      obtain ⟨gw, hg, ha⟩ := isAlive_iff.mp halive
      simp only [ClientRouter.raise, hg] at hc
      split at hc
      · cases hc
        refine ⟨gw.hear r.broadcast.event, channel_eq_some.mpr ⟨?_, h g gw hg ha⟩⟩
        have hnext : ({ r with broadcast := { r.broadcast with remaining := rest } } :
            ClientRouter).gateways[g]? = some gw := hg
        rw [if_pos halive, gateways_raise hnext, List.getElem?_modify_eq, hg]
        rfl
      · cases hc
    · cases hc

end Ocvsmd.Ipc.ClientRouter

namespace Ocvsmd.Svc

open Ipc
open FifoSession (payloads Ended)

namespace System

section AtRest

variable {κ : RouteCodec} {spec : ExecCmdSpec} {s : System} {c : ClientId} {id : Nat}
  {x : ExecCmdClient} {gc : GatewayImpl Tag}

theorem completed_of_got {gw : GatewayImpl Tag} {e : Int32} (h : .fin e ∈ gw.got) :
    .completed e ∈ gw.events := by
  obtain ⟨ev, hev, hi⟩ := List.mem_filterMap.mp h
  cases ev with
  | connected => cases hi
  | message sequence payload => cases hi
  | completed errorCode =>
    cases hi
    exact hev

/-- A client that has asked was told its end, or its request is at the daemon. -/
theorem Heeded.asked (h : Heeded κ spec s) (hx : (s.sdk c).clients[id]? = some x)
    (hg : (s.sdk c).router.gateways[x.channel]? = some gc) (hr : x.receiver ≠ 0)
    (howned : gc.owned = true) (hconn : (s.sdk c).router.isConnected = true)
    (hidle : (s.sdk c).router.idle = true) (hup : (s.sdk c).router.clientPipe = [])
    (hquiet : x.results = []) :
    s.daemon.router.Opened ⟨gc.endpoint, c⟩ := by
  have hattentive := h.attentive c
  have hinv := h.inv.sdk c
  obtain ⟨gw, hgw, hasks⟩ := hattentive.clients id x hx
  cases hg.symm.trans hgw
  obtain ⟨gw, hgw, hinformed⟩ := h.informed c id x hx
  cases hg.symm.trans hgw
  have halive : gc.alive = true := hinv.wf.owned _ gc hg howned
  have hlookup : (s.sdk c).router.lookup gc.endpoint = some x.channel :=
    (hattentive.listed _ gc hg halive).resolve_right
      fun ⟨e, he⟩ => hinformed e he hquiet
  have hwelcomed : x.Welcomed := by
    refine (hattentive.greeted x (List.mem_of_getElem? hx) gc hg hr hconn hlookup).resolve_left ?_
    rw [ClientRouter.remaining_of_idle hidle]
    exact List.not_mem_nil
  have hsent : payloads gc.sent ≠ [] :=
    (hasks.asked hwelcomed).resolve_right fun hne => hne hquiet
  obtain ⟨gw, hgw, hcarried⟩ := h.carried c id x hx
  cases hg.symm.trans hgw
  rcases (hcarried hsent).comes with hopened | ⟨size, payload, hin⟩
  · exact hopened
  · rw [hup] at hin
    cases hin

/-- Where nothing is left to do for a client, its receiver was called. -/
theorem Heeded.told_at_rest (h : Heeded κ spec s) (hx : (s.sdk c).clients[id]? = some x)
    (hg : (s.sdk c).router.gateways[x.channel]? = some gc) (hr : x.receiver ≠ 0)
    (howned : gc.owned = true) (hconn : (s.sdk c).router.isConnected = true)
    (hidle : (s.sdk c).router.idle = true) (hup : (s.sdk c).router.clientPipe = [])
    (hdown : s.daemon.router.serverPipe c = [])
    (hresolved : ∀ fsm, s.Serves c gc.endpoint fsm → fsm.nodeIdToOp.keys = []) :
    x.results ≠ [] := by
  intro hquiet
  obtain ⟨g, gs, hgs, he⟩ := h.asked hx hg hr howned hconn hidle hup hquiet
  have hno : ¬ Daemon.Orphan spec gs := by
    intro horphan
    obtain ⟨payload, hmsg, hbad⟩ := horphan.request
    rw [h.inv.requested hx hg hgs he (by rw [hmsg]; exact List.mem_cons_self)] at hbad
    cases hbad
  obtain ⟨i, fsm, hf, rfl, htold⟩ := h.inv.daemon.partners.owner hgs hno
  have hserves : s.Serves c gc.endpoint fsm := ⟨List.mem_of_getElem? hf, gs, hgs, he⟩
  have hreleased : fsm.released ≠ none := fun hr =>
    (h.inv.daemon.fsms i fsm hf).waiting hr (hresolved fsm hserves)
  have hdead : gs.alive = false := by
    rw [htold.alive]
    exact Option.isNone_eq_false_iff.mpr (Option.isSome_iff_ne_none.mpr hreleased)
  obtain ⟨hsession, hcaller, hcallee⟩ := h.inv.ends hg hgs he
  have hlive : (s.daemon.router.lookup gs.endpoint).isSome = false := by
    have hsteady : s.daemon.router.Steady κ := h.inv.network.server
    by_contra hsome
    have halive := (hsteady.lookup_self hgs (by simpa only [Bool.not_eq_false] using hsome)).2
    rw [hdead] at halive
    cases halive
  have hended : Ended gc.got := by
    rw [h.inv.got_sent hg hgs he howned hdown]
    rcases hsession.calleeDead (by rw [hcallee]; exact hlive) with hmade | hsent | hheard
    · rw [hcallee] at hmade
      cases hmade
    · rwa [hcallee] at hsent
    -- the client has not let go of its channel, and so has not ended it
    · have halive := (h.inv.sdk c).wf.owned _ gc hg howned
      have hall := hheard.of_prefix hsession.callee_heard
      rw [hcaller] at hall
      exact absurd hall (ClientRouter.unended_sent (h.inv.unfinished c) hg halive)
  obtain ⟨e, he⟩ := hended
  obtain ⟨gw, hgw, hinformed⟩ := h.informed c id x hx
  cases hg.symm.trans hgw
  exact hinformed e (completed_of_got he) hquiet

end AtRest

end System

namespace Sdk

theorem dispatch_isSome {κ : RouteCodec} {spec : ExecCmdSpec} {clients : List ExecCmdClient}
    {outcome : Int32} {reply : Reply ClientRouter}
    (h : ∀ g e, reply.call = some (.event g e) → ∃ gw, reply.router.channel g = some gw) :
    (dispatch κ spec clients outcome reply).isSome = true := by
  unfold dispatch
  split
  · next g e hcall =>
    split
    · next id hid =>
      obtain ⟨y, hy, rfl⟩ := clientOf_eq_some hid
      obtain ⟨gw, hgw⟩ := h _ e hcall
      simp [handle, hy, hgw]
    · rfl
  · rfl

theorem goes_on {κ : RouteCodec} {spec : ExecCmdSpec} {s : Sdk} (h : s.router.Kept)
    (hi : s.router.idle = false) :
    (s.step κ spec (.router .notifyNext 0)).isSome = true ∨
    (s.step κ spec (.router (.dropNext 0) 0)).isSome = true := by
  have hforeign : ∀ {a : ClientAction}, a.asker = none → s.isForeign a = true := fun ha =>
    isForeign_iff.mpr fun x _ hx => by
      rw [ha] at hx
      cases hx
  cases hrem : s.router.broadcast.remaining with
  | cons g rest =>
    left
    obtain ⟨reply, hreply⟩ : ∃ reply, s.router.notifyNext = some reply := by
      simp [ClientRouter.notifyNext, hrem]
    have hp : s.router.perform κ .notifyNext = some reply := hreply
    rw [Sdk.step, if_pos (hforeign rfl), hp, Option.bind_some]
    exact dispatch_isSome fun g e hc => h.called hreply hc
  | nil =>
    right
    have hpin : s.router.broadcast.pinned ≠ [] := by
      intro hnil
      simp [ClientRouter.idle, hrem, hnil] at hi
    obtain ⟨g, rest, hpinned⟩ := List.exists_cons_of_ne_nil hpin
    obtain ⟨r, hr⟩ : ∃ r, s.router.dropNext κ 0 = some r := by
      simp only [ClientRouter.dropNext, hrem, hpinned]
      split <;> exact ⟨_, rfl⟩
    have hp : s.router.perform κ (.dropNext 0) = some { router := r } := by
      simp [ClientRouter.perform, hr]
    rw [Sdk.step, if_pos (hforeign rfl), hp, Option.bind_some]
    exact dispatch_isSome fun g e hc => by cases hc

end Sdk

namespace ExecCmdService

theorem handleEvent_isSome (s : ExecCmdService) (g : GatewayId) (e : Event) (outcome : Int32) :
    (s.handleEvent g e outcome).isSome = true := by
  unfold handleEvent
  split
  · next id hid =>
    obtain ⟨hlt, hmatch, -⟩ := List.findIdx?_eq_some_iff_getElem.mp hid
    have hid' : s.idToFsm id = some s.fsms[id] :=
      idToFsm_eq_some.mpr ⟨List.getElem?_eq_getElem hlt, (of_decide_eq_true hmatch).2⟩
    rw [act_eq hid']
    rfl
  · rfl

end ExecCmdService

namespace Daemon

theorem Inv.dispatches {κ : RouteCodec} {spec : ExecCmdSpec} {d : Daemon} (h : Inv spec d)
    {a : ServerAction} (ha : a.isIncoming = true) {reply : Reply ServerRouter}
    (hp : d.router.perform κ a = some reply) (hroom : d.service.fsms.length < 2^64) :
    ∃ p x, dispatch spec p 0 d.service reply.call = some x := by
  have hevent : ∀ {g : GatewayId} {e : Event} {b : Bool},
      reply.call = (if b then some (.event g e) else none) →
      ∃ p x, dispatch spec p 0 d.service reply.call = some x := by
    intro g e b hc
    refine ⟨smooth [], ?_⟩
    rw [hc]
    cases b with
    | true => exact Option.isSome_iff_exists.mp (d.service.handleEvent_isSome g e 0)
    | false => exact ⟨_, rfl⟩
  have hquiet : reply.call = none → ∃ p x, dispatch spec p 0 d.service reply.call = some x :=
    fun hc => ⟨smooth [], (d.service, []), by rw [hc]; rfl⟩
  cases h.wf.handled ha hp with
  | quiet gateways lookup turns remaining call => exact hquiet call
  | heard g gw sequence payload found registered gateways lookup idle remaining call =>
    exact hevent call
  | dropped gw serviceId input payload factory undecodable unregistered dead got gateways lookup
      idle remaining call => exact hquiet call
  | opened ep serviceId input payload factory decodable unregistered gateways lookup idle
      remaining call =>
    have hinput : input = ExecCmdService.input spec := by
      rw [h.factory] at factory
      by_cases hs : serviceId = spec.serviceId
      · subst hs
        simpa using factory.symm
      · simp [Function.update_of_ne hs] at factory
    rw [hinput] at decodable
    obtain ⟨request, hrequest⟩ := Option.isSome_iff_exists.mp decodable
    refine ⟨smooth request.nodeIds.dedup, Option.isSome_iff_exists.mp ?_⟩
    rw [call, dispatch, hrequest, Option.bind_some, ExecCmdService.newChannel,
      if_pos ⟨hroom, List.Perm.refl _⟩]
    rfl
  | ended g gw errorCode found registered gateways lookup idle remaining call => exact hevent call
  | lost c gateways lookup idle remaining call => exact hquiet call
  | turn g gw found alive gateways lookup remaining call => exact hevent call

theorem Inv.resolves {κ : RouteCodec} {spec : ExecCmdSpec} {d : Daemon} (h : Inv spec d)
    (hi : d.router.idle = true) {id : Nat} {fsm : Fsm} (hf : d.service.fsms[id]? = some fsm)
    (hpending : fsm.nodeIdToOp.keys ≠ []) (failure : CyphalFailure) :
    ∃ n, (d.step κ spec (.resolve id n (.error failure) 0 0)).isSome = true := by
  obtain ⟨n, rest, hkeys⟩ := List.exists_cons_of_ne_nil hpending
  have hn : n ∈ fsm.nodeIdToOp := by
    rw [AList.mem_keys, hkeys]
    exact List.mem_cons_self
  have hid : d.service.idToFsm id = some fsm :=
    ExecCmdService.idToFsm_eq_some.mpr ⟨hf, (((h.fsms id fsm hf).pending n).mp hn).1⟩
  have hresolve : (d.service.resolve spec id n (.error failure) 0 0).isSome = true := by
    rw [ExecCmdService.resolve, if_pos (by simpa [hid] using hn), ExecCmdService.act_eq hid]
    rfl
  obtain ⟨x, hx⟩ := Option.isSome_iff_exists.mp hresolve
  obtain ⟨r', hrun, -⟩ := h.resolve (κ := κ) (List.isEmpty_iff.mp hi) hx
  refine ⟨n, ?_⟩
  rw [Daemon.step, if_pos hi, hx, Option.bind_some, follow, hrun]
  rfl

end Daemon

namespace System

variable {κ : RouteCodec} {spec : ExecCmdSpec} {G : ClientId → Nat} {S : Finset ClientId}
  {s s' : System} {c : ClientId}

/-- A program whose users leave it alone, with so many gateways for each client. -/
structure Alone (κ : RouteCodec) (spec : ExecCmdSpec) (G : ClientId → Nat) (S : Finset ClientId)
    (s : System) : Prop where
  heeded : Heeded κ spec s
  kept : ∀ c ∈ S, (s.sdk c).router.Kept
  length : ∀ c, (s.sdk c).router.gateways.length = G c

theorem Alone.step (h : Alone κ spec G S s) {a : SystemAction}
    (hs : s.undisturbed κ spec S a = some s') : Alone κ spec G S s' where
  heeded := h.heeded.step (Option.ite_none_right_eq_some.mp hs).2
  kept := fun c hc =>
    undisturbed_keeps h.heeded.inv.sdk hs id ClientRouter.Kept.turn (h.kept c hc)
  length := fun c => (length_undisturbed h.heeded.inv.sdk hs c).trans (h.length c)

/-- Nothing goes on by itself any more. -/
def Still (κ : RouteCodec) (spec : ExecCmdSpec) (S : Finset ClientId) (s : System) : Prop :=
  ∀ a, s.undisturbed κ spec S a = none

theorem Still.refuses (h : s.Still κ spec S) {a : SystemAction} (hi : a.isInternal = true)
    (hw : a.within S = true) : s.step κ spec a = none := by
  have hnone := h a
  rwa [undisturbed, if_pos ⟨hi, hw⟩] at hnone

/-- No loop over gateways is going on, and the pipe is empty both ways. -/
structure Resting (s : System) (c : ClientId) : Prop where
  idle : (s.sdk c).router.idle = true
  up : (s.sdk c).router.clientPipe = []
  down : s.daemon.router.serverPipe c = []

theorem Alone.resting (h : Alone κ spec G S s) (hstill : s.Still κ spec S) (hc : c ∈ S)
    (hfew : (s.sdk c).fewSends = true) (hroom : s.daemon.service.fsms.length < 2^64) :
    s.Resting c := by
  have hwithin : decide (c ∈ S) = true := decide_eq_true hc
  have hinv := h.heeded.inv
  have hidle : (s.sdk c).router.idle = true := by
    by_contra hbusy
    have hrefused : ∀ {a : ClientAction}, (s.sdk c).ownAction (.router a 0) = true →
        (SystemAction.sdk c (.router a 0)).isInternal = true →
        ¬ ((s.sdk c).step κ spec (.router a 0)).isSome = true := by
      intro a hown hinternal hsome
      have hnone := hstill.refuses (a := .sdk c (.router a 0)) hinternal hwithin
      rw [System.step, if_pos ⟨hown, hfew⟩, Option.map_eq_none_iff] at hnone
      rw [hnone] at hsome
      cases hsome
    rcases @Sdk.goes_on κ spec _ (h.kept c hc) (by simpa using hbusy) with hsome | hsome
    · exact hrefused rfl rfl hsome
    · exact hrefused rfl rfl hsome
  refine ⟨hidle, ?_, ?_⟩
  · by_contra hne
    obtain ⟨message, rest, hq⟩ := List.exists_cons_of_ne_nil hne
    obtain ⟨n, hn, -⟩ := hinv.network.toServer (c := c) hq
    have hclient : (s.network.client c).clientPipe = message :: rest := hq
    simp only [Network.toServer, hclient] at hn
    obtain ⟨r, hr, -⟩ := Option.map_eq_some_iff.mp hn
    obtain ⟨reply, hp, -⟩ := ServerRouter.step_eq_some.mp hr
    have hp : s.daemon.router.perform κ (.pipeMessage c message 0) = some reply := hp
    obtain ⟨p, x, hx⟩ := hinv.daemon.dispatches rfl hp hroom
    obtain ⟨r', hrun, -⟩ := hinv.daemon.incoming rfl hp hx
    have hnone := hstill.refuses (a := .toServer c p) rfl hwithin
    simp [System.step, toServer, hq, Daemon.step, ServerAction.isIncoming,
      ServerAction.isPipeEvent, hp, hx, Daemon.follow, hrun] at hnone
  · by_contra hne
    have hsome := hinv.comes hne hidle
    rw [hstill.refuses (a := .toClient c _) rfl hwithin] at hsome
    cases hsome

theorem Alone.resolved (h : Alone κ spec G S s) (hstill : s.Still κ spec S) {fsm : Fsm}
    (hfsm : fsm ∈ s.daemon.service.fsms) : fsm.nodeIdToOp.keys = [] := by
  by_contra hpending
  obtain ⟨id, hf⟩ := List.mem_iff_getElem?.mp hfsm
  have hserver : s.daemon.router.idle = true := h.heeded.inv.network.server.idle
  obtain ⟨n, hsome⟩ := h.heeded.inv.daemon.resolves (κ := κ) hserver hf hpending
    .responsePromiseExpired
  have hnone := hstill.refuses (a := .resolve id n (.error .responsePromiseExpired)) rfl rfl
  rw [System.step, Option.map_eq_none_iff] at hnone
  rw [hnone] at hsome
  cases hsome

theorem still_of_resting (h : ∀ c ∈ S, s.Resting c)
    (hf : ∀ fsm ∈ s.daemon.service.fsms, fsm.nodeIdToOp.keys = []) : s.Still κ spec S := by
  intro a
  refine Option.eq_none_iff_forall_ne_some.mpr fun s' hs => ?_
  obtain ⟨⟨hinternal, hwithin⟩, hs⟩ := Option.ite_none_right_eq_some.mp hs
  cases a with
  | toServer c p => simp [System.step, toServer, (h c (of_decide_eq_true hwithin)).up] at hs
  | toClient c order => simp [System.step, toClient, (h c (of_decide_eq_true hwithin)).down] at hs
  | resolve id nodeId result =>
    obtain ⟨d, hd, -⟩ := Option.map_eq_some_iff.mp hs
    obtain ⟨-, hd⟩ := Option.ite_none_right_eq_some.mp hd
    obtain ⟨x, hx, -⟩ := Option.bind_eq_some_iff.mp hd
    obtain ⟨hpending, -⟩ := Option.ite_none_right_eq_some.mp hx
    obtain ⟨fsm, hid, hn⟩ := (Option.any_eq_true _ _).mp hpending
    have hkeys := AList.mem_keys.mp (of_decide_eq_true hn)
    rw [hf fsm (List.mem_of_getElem? (ExecCmdService.idToFsm_eq_some.mp hid).1)] at hkeys
    cases hkeys
  | sdk c a =>
    have hidle := (h c (of_decide_eq_true hwithin)).idle
    have hturns : (s.sdk c).router.broadcast.remaining = [] ∧
        (s.sdk c).router.broadcast.pinned = [] := by
      simpa [ClientRouter.idle] using hidle
    obtain ⟨-, hs⟩ := Option.ite_none_right_eq_some.mp hs
    obtain ⟨k, hk, -⟩ := Option.map_eq_some_iff.mp hs
    cases a with
    | router b outcome =>
      obtain ⟨-, hk⟩ := Option.ite_none_right_eq_some.mp hk
      obtain ⟨reply, hp, -⟩ := Option.bind_eq_some_iff.mp hk
      cases b with
      | notifyNext => simp [ClientRouter.perform, ClientRouter.notifyNext, hturns.1] at hp
      | dropNext drop =>
        simp [ClientRouter.perform, ClientRouter.dropNext, hturns.1, hturns.2] at hp
      | _ => cases hinternal
    | _ => cases hinternal

/-- A program that its users leave alone stops, however the pipes and the Cyphal network
take their turns, and by then each client that was submitted and is connected has been
told what came of its command. -/
theorem every_command_ends (h : Reachable κ spec s)
    (hidle : ∀ c ∈ S, (s.sdk c).router.idle = true) :
    ∃ bound, ∀ as s', Runs.run (undisturbed κ spec S) s as = some s' →
      as.length ≤ bound ∧
      (s'.Still κ spec S → s'.daemon.service.fsms.length < 2^64 →
        ∀ c ∈ S, (s'.sdk c).fewSends = true → (s'.sdk c).router.isConnected = true →
          ∀ x ∈ (s'.sdk c).clients, x.receiver ≠ 0 →
            ∀ gw, (s'.sdk c).router.channel x.channel = some gw → x.results ≠ []) := by
  let G : ClientId → Nat := fun c => (s.sdk c).router.gateways.length
  have hstart : Alone κ spec G S s :=
    ⟨h.heeded, fun c hc => (h.inv.sdk c).wf.idle_owned (hidle c hc), fun _ => rfl⟩
  refine ⟨s.load κ G S, fun as s' hrun => ?_⟩
  obtain ⟨hend, hbound⟩ := Runs.run_bounded (Alone κ spec G S) (fun _ => true)
    (fun s => s.load κ G S) (fun hs hstep => hs.step hstep)
    (fun hs hstep _ => load_lt hs.heeded.inv.sdk hs.length hstep) (fun _ _ hc => by cases hc)
    hstart hrun
  rw [List.countP_true] at hbound
  refine ⟨Nat.le_of_add_right_le hbound, fun hstill hroom c hc hfew hconn x hx hr gw hgw => ?_⟩
  obtain ⟨id, hid⟩ := List.mem_iff_getElem?.mp hx
  obtain ⟨hg, howned⟩ := ClientRouter.channel_eq_some.mp hgw
  obtain ⟨hquiet, hup, hdown⟩ := hend.resting hstill hc hfew hroom
  exact hend.heeded.told_at_rest hid hg hr howned hconn hquiet hup hdown
    fun fsm hserves => hend.resolved hstill hserves.1

def submitted : System :=
  (Runs.run (step cyphalCodec (cyphalExecCmdSpec 7)) (init (cyphalExecCmdSpec 7))
    ((asking 1 [3, 4, 3] (Daemon.smooth [])).take 3)).getD (init (cyphalExecCmdSpec 7))

theorem submitted_reachable : Reachable cyphalCodec (cyphalExecCmdSpec 7) submitted :=
  Runs.Reachable.getD (by decide +kernel)

def settling : List SystemAction :=
  (asking 1 [3, 4, 3] (Daemon.smooth [3, 4])).drop 3 ++
  [.resolve 0 3 (.ok ⟨0, [1], oneByte_bounded⟩), .resolve 0 4 (.error .responsePromiseExpired),
   .toClient 1 [0], .toClient 1 [0]]

def settled (s : System) (c : ClientId) : Bool :=
  (s.sdk c).router.idle && (s.sdk c).router.clientPipe.isEmpty &&
  (s.daemon.router.serverPipe c).isEmpty &&
  s.daemon.service.fsms.all (·.nodeIdToOp.keys.isEmpty) && s.daemon.service.fsms.length < 2^64 &&
  (s.sdk c).fewSends && (s.sdk c).router.isConnected &&
  (s.sdk c).clients.any fun x => x.receiver ≠ 0 && ((s.sdk c).router.channel x.channel).isSome

theorem every_command_ends_submitted :
    ∃ s, Runs.run (undisturbed cyphalCodec (cyphalExecCmdSpec 7) {1}) submitted settling =
      some s ∧ ∃ x ∈ (s.sdk 1).clients, x.receiver ≠ 0 ∧ x.results ≠ [] := by
  have hsettled : ((Runs.run (undisturbed cyphalCodec (cyphalExecCmdSpec 7) {1}) submitted
      settling).any (settled · 1)) = true := by decide +kernel
  obtain ⟨s, hrun, hs⟩ := (Option.any_eq_true _ _).mp hsettled
  simp only [settled, Bool.and_eq_true, List.isEmpty_iff, List.all_eq_true, decide_eq_true_eq,
    List.any_eq_true] at hs
  obtain ⟨⟨⟨⟨⟨⟨⟨hidle, hup⟩, hdown⟩, hfsms⟩, hroom⟩, hfew⟩, hconn⟩, x, hx, hr, hchannel⟩ := hs
  obtain ⟨gw, hgw⟩ := Option.isSome_iff_exists.mp hchannel
  obtain ⟨bound, hends⟩ := every_command_ends (S := {1}) submitted_reachable fun c hc => by
    rw [Finset.mem_singleton.mp hc]
    decide +kernel
  have hstill : s.Still cyphalCodec (cyphalExecCmdSpec 7) {1} := by
    refine still_of_resting (fun c hc => ?_) hfsms
    rw [Finset.mem_singleton.mp hc]
    exact ⟨hidle, hup, hdown⟩
  exact ⟨s, hrun, x, hx, hr, (hends settling s hrun).2 hstill hroom 1 (Finset.mem_singleton_self 1)
    hfew hconn x hx hr gw hgw⟩

end System

end Ocvsmd.Svc
