import Mathlib.Data.List.AList
import Ocvsmd.FifoSession
import Ocvsmd.RouteCodec

/-!
Gateways, the objects between a router and its channels, and the store that
holds every gateway a router has ever made.
-/

set_option autoImplicit false

namespace Ocvsmd.Ipc

abbrev Tag := UInt64
abbrev ServiceId := UInt64

/-- The address of a gateway object: its position among all that were made. -/
abbrev GatewayId := Nat

abbrev Decoder := Bytes → Bool

inductive Event where
  | connected : Event
  | message : UInt64 → Bytes → Event
  | completed : Int32 → Event
  deriving DecidableEq, Repr

abbrev Item := FifoSession.Item Bytes Int32

def Event.item : Event → Option Item
  | .connected => none
  | .message sequence payload => some (.msg sequence.toNat payload)
  | .completed errorCode => some (.fin errorCode)

def Adapter.code (input : Decoder) : Event → Int32
  | .message _ payload => if input payload then 0 else EINVAL
  | _ => 0

/-- The first four fields are those of both `GatewayImpl` classes. The rest is what
the program keeps elsewhere, or not at all: whether the channel that owns the
gateway exists, whether the gateway itself does, all the events it was handed
(on a server its first message too, which comes through the channel factory), and
all it gave the pipe, each with the code that the pipe returned. -/
structure GatewayImpl (Endpoint : Type) where
  endpoint : Endpoint
  nextSequence : UInt64 := 0
  eventHandler : Option Decoder := none
  completionErrorCode : Int32 := 0
  owned : Bool := true
  alive : Bool := true
  events : List Event := []
  posts : List (Item × Int32) := []

/-- What a step of a router called outside itself, if anything. -/
inductive Call where
  | event : GatewayId → Event → Call
  | newChannel : GatewayId → ServiceId → Bytes → Call
  deriving DecidableEq, Repr

structure Reply (Router : Type) where
  router : Router
  code : Int32 := 0
  call : Option Call := none

namespace GatewayImpl

def hear {E : Type} (e : Event) (gw : GatewayImpl E) : GatewayImpl E :=
  { gw with events := gw.events ++ [e] }

def eventCode {E : Type} (gw : GatewayImpl E) (e : Event) : Int32 :=
  match gw.eventHandler with
  | some input => Adapter.code input e
  | none => 0

def handles {E : Type} (gw : GatewayImpl E) (e : Event) : Bool :=
  gw.eventHandler.isSome && gw.eventCode e == 0

def post {E : Type} (i : Item) (outcome : Int32) (gw : GatewayImpl E) : GatewayImpl E :=
  { gw with posts := gw.posts ++ [(i, outcome)] }

def advance {E : Type} (gw : GatewayImpl E) : GatewayImpl E :=
  { gw with nextSequence := gw.nextSequence + 1 }

def complete {E : Type} (errorCode : Int32) (gw : GatewayImpl E) : GatewayImpl E :=
  { gw with completionErrorCode := errorCode }

def subscribe {E : Type} (handler : Option Decoder) (gw : GatewayImpl E) : GatewayImpl E :=
  { gw with eventHandler := handler }

def disown {E : Type} (gw : GatewayImpl E) : GatewayImpl E := { gw with owned := false }

def expire {E : Type} (gw : GatewayImpl E) : GatewayImpl E :=
  { gw with owned := false, alive := false }

def sent {E : Type} (gw : GatewayImpl E) : List Item :=
  gw.posts.filterMap fun p => if p.2 = 0 then some p.1 else none

def got {E : Type} (gw : GatewayImpl E) : List Item := gw.events.filterMap Event.item

@[simp] theorem sent_post {E : Type} (gw : GatewayImpl E) (i : Item) (outcome : Int32) :
    (gw.post i outcome).sent = gw.sent ++ if outcome = 0 then [i] else [] := by
  by_cases h : outcome = 0 <;> simp [post, sent, h]

@[simp] theorem got_hear {E : Type} (gw : GatewayImpl E) (e : Event) :
    (gw.hear e).got = gw.got ++ e.item.toList := by
  cases h : e.item <;> simp [hear, got, h]

@[simp] theorem got_post {E : Type} (gw : GatewayImpl E) (i : Item) (outcome : Int32) :
    (gw.post i outcome).got = gw.got := rfl

@[simp] theorem sent_hear {E : Type} (gw : GatewayImpl E) (e : Event) :
    (gw.hear e).sent = gw.sent := rfl

@[simp] theorem sent_advance {E : Type} (gw : GatewayImpl E) : gw.advance.sent = gw.sent := rfl

@[simp] theorem got_advance {E : Type} (gw : GatewayImpl E) : gw.advance.got = gw.got := rfl

structure Quiet {E : Type} (f : GatewayImpl E → GatewayImpl E) : Prop where
  endpoint : ∀ gw, (f gw).endpoint = gw.endpoint
  alive : ∀ gw, (f gw).alive = gw.alive
  owned : ∀ gw, (f gw).owned = gw.owned

theorem quiet_hear {E : Type} (e : Event) : Quiet (hear (E := E) e) :=
  ⟨fun _ => rfl, fun _ => rfl, fun _ => rfl⟩

theorem quiet_post {E : Type} (i : Item) (outcome : Int32) : Quiet (post (E := E) i outcome) :=
  ⟨fun _ => rfl, fun _ => rfl, fun _ => rfl⟩

theorem quiet_advance_post {E : Type} (i : Item) (outcome : Int32) :
    Quiet fun gw : GatewayImpl E => gw.advance.post i outcome :=
  ⟨fun _ => rfl, fun _ => rfl, fun _ => rfl⟩

theorem quiet_complete {E : Type} (errorCode : Int32) : Quiet (complete (E := E) errorCode) :=
  ⟨fun _ => rfl, fun _ => rfl, fun _ => rfl⟩

theorem quiet_subscribe {E : Type} (handler : Option Decoder) :
    Quiet (subscribe (E := E) handler) :=
  ⟨fun _ => rfl, fun _ => rfl, fun _ => rfl⟩

end GatewayImpl

/-- Lifetime of a gateway is managed by its channel; a router keeps weak pointers. -/
abbrev MapOfWeakGateways := AList fun _ : Tag => GatewayId

def MapOfWeakGateways.ids (m : MapOfWeakGateways) : List GatewayId := m.entries.map (·.2)

theorem MapOfWeakGateways.mem_ids {m : MapOfWeakGateways} {g : GatewayId} :
    g ∈ m.ids ↔ ∃ t, m.lookup t = some g := by
  constructor
  · intro h
    obtain ⟨⟨t, g'⟩, hmem, rfl⟩ := List.mem_map.mp h
    exact ⟨t, AList.mem_lookup_iff.mpr hmem⟩
  · rintro ⟨t, h⟩
    exact List.mem_map.mpr ⟨⟨t, g⟩, AList.mem_lookup_iff.mp h, rfl⟩

theorem MapOfWeakGateways.ids_nodup {m : MapOfWeakGateways}
    (h : ∀ {t t' g}, m.lookup t = some g → m.lookup t' = some g → t = t') : m.ids.Nodup := by
  refine List.Nodup.map_on ?_ m.nodupKeys.nodup
  rintro ⟨t, g⟩ ht ⟨t', g'⟩ ht' rfl
  have heq : t = t' := h (AList.mem_lookup_iff.mpr ht) (AList.mem_lookup_iff.mpr ht')
  subst heq
  rfl

def isAlive {E : Type} (gs : List (GatewayImpl E)) (g : GatewayId) : Bool :=
  (gs[g]?).any (·.alive)

theorem isAlive_iff {E : Type} {gs : List (GatewayImpl E)} {g : GatewayId} :
    isAlive gs g = true ↔ ∃ gw, gs[g]? = some gw ∧ gw.alive = true := by
  cases h : gs[g]? <;> simp [isAlive, h]

def Each {E : Type} (gs : List (GatewayImpl E)) (P : GatewayId → GatewayImpl E → Prop) : Prop :=
  ∀ (g : GatewayId) (gw : GatewayImpl E), gs[g]? = some gw → P g gw

theorem Each.nil {E : Type} {P : GatewayId → GatewayImpl E → Prop} : Each [] P := by
  intro g gw h
  simp at h

theorem Each.modify {E : Type} {gs : List (GatewayImpl E)} {P : GatewayId → GatewayImpl E → Prop}
    (h : Each gs P) {g : GatewayId} {f : GatewayImpl E → GatewayImpl E}
    (hf : ∀ gw, gs[g]? = some gw → P g gw → P g (f gw)) : Each (gs.modify g f) P := by
  intro i gw hi
  by_cases hgi : g = i
  · subst hgi
    obtain ⟨gw', hi', rfl⟩ : ∃ gw', gs[g]? = some gw' ∧ f gw' = gw := by simpa using hi
    exact hf gw' hi' (h g gw' hi')
  · exact h i gw (by simpa [hgi] using hi)

theorem Each.append {E : Type} {gs : List (GatewayImpl E)} {P : GatewayId → GatewayImpl E → Prop}
    (h : Each gs P) {gw : GatewayImpl E} (hp : P gs.length gw) : Each (gs ++ [gw]) P := by
  intro i x hi
  rcases Nat.lt_or_ge i gs.length with hlt | hge
  · rw [List.getElem?_append_left hlt] at hi
    exact h i x hi
  · have hlen : i < (gs ++ [gw]).length := (List.getElem?_eq_some_iff.mp hi).1
    have hi' : i = gs.length := Nat.le_antisymm (Nat.lt_succ_iff.mp (by simpa using hlen)) hge
    subst hi'
    simp only [List.getElem?_concat_length, Option.some.injEq] at hi
    subst hi
    exact hp

def gatewayAt {E : Type} [DecidableEq E] (gs : List (GatewayImpl E)) (ep : E) :
    Option (GatewayImpl E) :=
  gs.find? fun gw => gw.endpoint = ep

def Distinct {E : Type} (gs : List (GatewayImpl E)) : Prop := (gs.map (·.endpoint)).Nodup

theorem Distinct.index_eq {E : Type} {gs : List (GatewayImpl E)} (h : Distinct gs)
    {g g' : GatewayId} {gw gw' : GatewayImpl E} (hg : gs[g]? = some gw)
    (hg' : gs[g']? = some gw') (he : gw.endpoint = gw'.endpoint) : g = g' := by
  obtain ⟨hlt, rfl⟩ := List.getElem?_eq_some_iff.mp hg
  obtain ⟨hlt', rfl⟩ := List.getElem?_eq_some_iff.mp hg'
  have hmap : (gs.map (·.endpoint))[g]? = (gs.map (·.endpoint))[g']? := by simp [hlt, hlt', he]
  exact (List.getElem?_inj (by simpa using hlt) h).mp hmap

theorem gatewayAt_eq_none {E : Type} [DecidableEq E] {gs : List (GatewayImpl E)} {ep : E} :
    gatewayAt gs ep = none ↔ ∀ gw ∈ gs, gw.endpoint ≠ ep := by
  simp [gatewayAt]

theorem gatewayAt_some {E : Type} [DecidableEq E] {gs : List (GatewayImpl E)} {ep : E}
    {gw : GatewayImpl E} (h : gatewayAt gs ep = some gw) :
    gw.endpoint = ep ∧ ∃ g : GatewayId, gs[g]? = some gw := by
  refine ⟨by simpa using List.find?_some h, ?_⟩
  exact List.mem_iff_getElem?.mp (List.mem_of_find?_eq_some h)

theorem Distinct.gatewayAt {E : Type} [DecidableEq E] {gs : List (GatewayImpl E)}
    (h : Distinct gs) {g : GatewayId} {gw : GatewayImpl E} (hg : gs[g]? = some gw) :
    gatewayAt gs gw.endpoint = some gw := by
  cases hf : Ipc.gatewayAt gs gw.endpoint with
  | none => exact absurd rfl (gatewayAt_eq_none.mp hf gw (List.mem_of_getElem? hg))
  | some gw' =>
    obtain ⟨he, g', hg'⟩ := gatewayAt_some hf
    have hidx := h.index_eq hg' hg he
    subst hidx
    rw [hg] at hg'
    exact hg'.symm

theorem map_endpoint_modify {E : Type} (gs : List (GatewayImpl E)) (g : GatewayId)
    (f : GatewayImpl E → GatewayImpl E) (hf : ∀ gw, (f gw).endpoint = gw.endpoint) :
    (gs.modify g f).map (·.endpoint) = gs.map (·.endpoint) := by
  apply List.ext_getElem?
  intro i
  simp only [List.getElem?_map, List.getElem?_modify]
  by_cases h : g = i <;> cases gs[i]? <;> simp [h, hf]

theorem Distinct.modify {E : Type} {gs : List (GatewayImpl E)} (h : Distinct gs)
    (g : GatewayId) {f : GatewayImpl E → GatewayImpl E}
    (hf : ∀ gw, (f gw).endpoint = gw.endpoint) : Distinct (gs.modify g f) := by
  unfold Distinct
  rw [map_endpoint_modify gs g f hf]
  exact h

theorem Distinct.gatewayAt_modify {E : Type} [DecidableEq E] {gs : List (GatewayImpl E)}
    (h : Distinct gs) {g : GatewayId} {gw : GatewayImpl E} (hg : gs[g]? = some gw)
    {f : GatewayImpl E → GatewayImpl E} (hf : ∀ gw, (f gw).endpoint = gw.endpoint) (ep : E) :
    Ipc.gatewayAt (gs.modify g f) ep =
      if gw.endpoint = ep then some (f gw) else Ipc.gatewayAt gs ep := by
  have hd := h.modify g hf
  have hg' : (gs.modify g f)[g]? = some (f gw) := by simp [hg]
  split
  · next he =>
    have hat := hd.gatewayAt hg'
    rwa [hf, he] at hat
  · next he =>
    cases hold : Ipc.gatewayAt gs ep with
    | none =>
      rw [gatewayAt_eq_none] at hold ⊢
      intro x hx
      obtain ⟨i, hi⟩ := List.mem_iff_getElem?.mp hx
      rw [List.getElem?_modify] at hi
      by_cases hgi : g = i
      · subst hgi
        simp only [hg, if_true, Option.map_eq_map, Option.map_some, Option.some.injEq] at hi
        rw [← hi, hf]
        exact he
      · simp only [hgi, if_false] at hi
        exact hold x (List.mem_of_getElem? (by simpa using hi))
    | some y =>
      obtain ⟨hy, j, hj⟩ := gatewayAt_some hold
      have hne : g ≠ j := by
        rintro rfl
        rw [hg] at hj
        cases hj
        exact he hy
      have hj' : (gs.modify g f)[j]? = some y := by simp [hne, hj]
      have hat := hd.gatewayAt hj'
      rwa [hy] at hat

theorem Distinct.append {E : Type} [DecidableEq E] {gs : List (GatewayImpl E)}
    (h : Distinct gs) {gw : GatewayImpl E} (hn : Ipc.gatewayAt gs gw.endpoint = none) :
    Distinct (gs ++ [gw]) := by
  have hn' := gatewayAt_eq_none.mp hn
  unfold Distinct at *
  rw [List.map_append, List.nodup_append]
  refine ⟨h, by simp, ?_⟩
  intro a ha b hb
  obtain ⟨x, hx, rfl⟩ := List.mem_map.mp ha
  simp only [List.map_cons, List.map_nil, List.mem_singleton] at hb
  subst hb
  exact hn' x hx

theorem gatewayAt_append {E : Type} [DecidableEq E] (gs : List (GatewayImpl E))
    (gw : GatewayImpl E) (ep : E) :
    gatewayAt (gs ++ [gw]) ep =
      (gatewayAt gs ep).or (if gw.endpoint = ep then some gw else none) := by
  by_cases h : gw.endpoint = ep <;> simp [gatewayAt, List.find?_append, h]

/-- Every entry of a table is a gateway of that endpoint that is still there. -/
def Registry {E : Type} (gs : List (GatewayImpl E)) (table : E → Option GatewayId) : Prop :=
  ∀ ep g, table ep = some g → ∃ gw, gs[g]? = some gw ∧ gw.endpoint = ep ∧ gw.alive = true

theorem Registry.nil {E : Type} : Registry ([] : List (GatewayImpl E)) fun _ => none := by
  intro ep g h
  cases h

theorem Registry.lock {E : Type} {gs : List (GatewayImpl E)} {table : E → Option GatewayId}
    (h : Registry gs table) (ep : E) : (table ep).filter (isAlive gs) = table ep := by
  cases ht : table ep with
  | none => rfl
  | some g =>
    obtain ⟨gw, hg, _, ha⟩ := h ep g ht
    have hlive : isAlive gs g = true := isAlive_iff.mpr ⟨gw, hg, ha⟩
    simp [Option.filter, hlive]

theorem Registry.injective {E : Type} {gs : List (GatewayImpl E)} {table : E → Option GatewayId}
    (h : Registry gs table) {ep ep' : E} {g : GatewayId} (ht : table ep = some g)
    (ht' : table ep' = some g) : ep = ep' := by
  obtain ⟨gw, hg, rfl, _⟩ := h ep g ht
  obtain ⟨gw', hg', rfl, _⟩ := h ep' g ht'
  rw [hg] at hg'
  cases hg'
  rfl

theorem Registry.alive {E : Type} {gs : List (GatewayImpl E)} {table : E → Option GatewayId}
    (h : Registry gs table) {ep : E} {g : GatewayId} {gw : GatewayImpl E} (ht : table ep = some g)
    (hg : gs[g]? = some gw) : gw.alive = true := by
  obtain ⟨x, hx, _, ha⟩ := h ep g ht
  rw [hg] at hx
  cases hx
  exact ha

theorem Registry.mono {E : Type} {gs : List (GatewayImpl E)} {table table' : E → Option GatewayId}
    (h : Registry gs table) (hsub : ∀ ep g, table' ep = some g → table ep = some g) :
    Registry gs table' := fun ep g ht => h ep g (hsub ep g ht)

theorem Registry.modify {E : Type} {gs : List (GatewayImpl E)} {table : E → Option GatewayId}
    (h : Registry gs table) (g : GatewayId) {f : GatewayImpl E → GatewayImpl E}
    (hf : ∀ gw, (f gw).endpoint = gw.endpoint) (ha : ∀ gw, (f gw).alive = gw.alive) :
    Registry (gs.modify g f) table := by
  intro ep i ht
  obtain ⟨gw, hi, hep, hal⟩ := h ep i ht
  by_cases hgi : g = i
  · subst hgi
    exact ⟨f gw, by simp [hi], by rw [hf, hep], by rw [ha, hal]⟩
  · exact ⟨gw, by simp [hgi, hi], hep, hal⟩

/-- A gateway may expire once its endpoint is taken off the table. -/
theorem Registry.expire {E : Type} [DecidableEq E] {gs : List (GatewayImpl E)}
    {table : E → Option GatewayId} (h : Registry gs table) {g : GatewayId}
    {gw : GatewayImpl E} (hg : gs[g]? = some gw) :
    Registry (gs.modify g (·.expire)) (Function.update table gw.endpoint none) := by
  intro ep i ht
  by_cases hep : ep = gw.endpoint
  · subst hep
    simp at ht
  · rw [Function.update_of_ne hep] at ht
    obtain ⟨gw', hi, he, ha⟩ := h ep i ht
    have hgi : g ≠ i := by
      rintro rfl
      rw [hg] at hi
      cases hi
      exact hep he.symm
    exact ⟨gw', by simp [hgi, hi], he, ha⟩

theorem Registry.append {E : Type} [DecidableEq E] {gs : List (GatewayImpl E)}
    {table : E → Option GatewayId} (h : Registry gs table) {gw : GatewayImpl E}
    (ha : gw.alive = true) :
    Registry (gs ++ [gw]) (Function.update table gw.endpoint (some gs.length)) := by
  intro ep i ht
  by_cases hep : ep = gw.endpoint
  · subst hep
    simp only [Function.update_self, Option.some.injEq] at ht
    subst ht
    exact ⟨gw, by simp, rfl, ha⟩
  · rw [Function.update_of_ne hep] at ht
    obtain ⟨gw', hi, he, ha'⟩ := h ep i ht
    have hlt : i < gs.length := (List.getElem?_eq_some_iff.mp hi).1
    exact ⟨gw', by rw [List.getElem?_append_left hlt]; exact hi, he, ha'⟩

end Ocvsmd.Ipc
