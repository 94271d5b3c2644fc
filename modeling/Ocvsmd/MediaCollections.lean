import Mathlib.Data.List.Basic
import Mathlib.Tactic.IntervalCases
import Ocvsmd.RouteCodec
import Ocvsmd.StringView

set_option autoImplicit false

namespace Ocvsmd.Engine

open Ipc (Bytes)
open StringView (splitLoop consume)

def comma : UInt8 := 44
def udpPrefix : Bytes := [117, 100, 112, 58, 47, 47]
def canPrefix : Bytes := [115, 111, 99, 107, 101, 116, 99, 97, 110, 58]

/-- The body of the loop in `make`. A string that gets too long throws. -/
def joinIface (pre joined iface : Bytes) : Option Bytes :=
  if iface.take pre.length = pre then
    (StringView.append joined (iface.drop pre.length)).bind (StringView.append · [comma])
  else some joined

def joinIfaces (pre : Bytes) (ifaces : List Bytes) : Option Bytes :=
  ifaces.foldlM (joinIface pre) []

abbrev MaxMedia : Nat := 3

abbrev MediaIfaces := Vector (Option (Fin MaxMedia)) MaxMedia

def count (ifaces : MediaIfaces) : Nat := ifaces.toList.countP (·.isSome)

structure UdpMedia where
  ifaceAddress : Bytes := []

structure UdpMediaCollection where
  mediaArray : Vector UdpMedia MaxMedia := Vector.replicate MaxMedia {}
  mediaIfaces : MediaIfaces := Vector.replicate MaxMedia none

namespace UdpMediaCollection

def place (ifaceAddress : Bytes) (st : Vector UdpMedia MaxMedia × Nat) :
    Vector UdpMedia MaxMedia × Nat :=
  (st.1.setIfInBounds st.2 ⟨ifaceAddress⟩, st.2 + 1)

def point (st : Vector UdpMedia MaxMedia × Nat) : UdpMediaCollection where
  mediaArray := st.1
  mediaIfaces := Vector.ofFn fun i => if i.val < st.2 then some i else none

def parse (fuel : Nat) (ifaceAddresses : Bytes) (c : UdpMediaCollection) :
    Option UdpMediaCollection :=
  (splitLoop comma (fun st => st.2 < MaxMedia) place fuel ifaceAddresses 0
    (c.mediaArray, 0)).map point

end UdpMediaCollection

/-- An interface that was opened for reading and for writing. -/
structure CanMedia where
  ifaceAddress : Bytes
  socketCanRxFd : Int32
  socketCanTxFd : Int32
  deriving DecidableEq

/-- What `socketcanOpen` returns, the first and the second time. -/
abbrev Opening := Int32 × Int32

def CanMedia.make (ifaceAddress : Bytes) (opening : Opening) : Except Int32 CanMedia :=
  if opening.1 < 0 then .error (-opening.1)
  else if opening.2 < 0 then .error (-opening.2)
  else .ok ⟨ifaceAddress, opening.1, opening.2⟩

structure CanMediaCollection where
  mediaArray : Vector (Option CanMedia) MaxMedia := Vector.replicate MaxMedia none
  mediaIfaces : MediaIfaces := Vector.replicate MaxMedia none

namespace CanMediaCollection

/-- The state of the loop: the collection, the index, and how often something was opened,
which is what decides how it goes. -/
structure Parsing where
  collection : CanMediaCollection := {}
  index : Nat := 0
  opened : Nat := 0

def place (openings : Nat → Bytes → Opening) (ifaceAddress : Bytes) (st : Parsing) :
    Parsing :=
  match CanMedia.make ifaceAddress (openings st.opened ifaceAddress) with
  | .error _ => { st with opened := st.opened + 1 }
  | .ok media =>
    { collection :=
        { mediaArray := st.collection.mediaArray.setIfInBounds st.index (some media)
          mediaIfaces := st.collection.mediaIfaces.setIfInBounds st.index
            (some (Fin.ofNat MaxMedia st.index)) }
      index := st.index + 1
      opened := st.opened + 1 }

/-- The collection is reset first, so that it does not matter what was in it. -/
def parse (openings : Nat → Bytes → Opening) (fuel : Nat) (ifaceAddresses : Bytes)
    (_ : CanMediaCollection) : Option CanMediaCollection :=
  (splitLoop comma (fun st => st.index < MaxMedia) (place openings) fuel ifaceAddresses 0
    ({} : Parsing)).map (·.collection)

end CanMediaCollection

def joined (pre : Bytes) (ifaces : List Bytes) : Bytes :=
  (ifaces.filter fun iface => iface.take pre.length = pre).flatMap fun iface =>
    iface.drop pre.length ++ [comma]

def segments (pre : Bytes) (ifaces : List Bytes) : List Bytes :=
  ((ifaces.filter fun iface => iface.take pre.length = pre).flatMap fun iface =>
    (iface.drop pre.length).splitOn comma).filter (!·.isEmpty)

def selectedUdp (ifaces : List Bytes) : List Bytes := (segments udpPrefix ifaces).take MaxMedia

def Opening.opens (o : Opening) : Bool := 0 ≤ o.1 && 0 ≤ o.2

/-- The first three that open, each with the descriptors of its sockets. -/
def selectedCan (openings : Nat → Bytes → Opening) (ifaces : List Bytes) : List CanMedia :=
  (((segments canPrefix ifaces).zipIdx.filter fun seg =>
    (openings seg.2 seg.1).opens).take MaxMedia).map fun seg =>
      ⟨seg.1, (openings seg.2 seg.1).1, (openings seg.2 seg.1).2⟩

/-- The first pointers are those to the media that were selected, the others are null. -/
structure UdpMediaCollection.Holds (c : UdpMediaCollection) (selected : List Bytes) : Prop where
  pointers : ∀ i : Fin MaxMedia,
    c.mediaIfaces[i] = if i.val < selected.length then some i else none
  media : ∀ i : Fin MaxMedia, ∀ seg ∈ selected[i.val]?, c.mediaArray[i].ifaceAddress = seg
  counted : count c.mediaIfaces = selected.length

structure CanMediaCollection.Holds (c : CanMediaCollection) (selected : List CanMedia) :
    Prop where
  pointers : ∀ i : Fin MaxMedia,
    c.mediaIfaces[i] = if i.val < selected.length then some i else none
  media : ∀ i : Fin MaxMedia, c.mediaArray[i] = selected[i.val]?
  counted : count c.mediaIfaces = selected.length

theorem append_comma (acc iface : Bytes) :
    (StringView.append acc iface).bind (StringView.append · [comma]) =
      if (acc ++ iface ++ [comma]).length ≤ StringView.maxSize then
        some (acc ++ iface ++ [comma])
      else none := by
  unfold StringView.append
  by_cases hacc : acc.length + iface.length ≤ StringView.maxSize
  · rw [if_pos hacc, Option.bind_some, ← List.length_append]
  · have hlong : ¬ (acc ++ iface ++ [comma]).length ≤ StringView.maxSize := by
      simp only [List.length_append]
      omega
    rw [if_neg hacc, if_neg hlong, Option.bind_none]

theorem joinIfaces_from (pre : Bytes) (ifaces : List Bytes) {acc : Bytes}
    (hacc : acc.length ≤ StringView.maxSize) :
    ifaces.foldlM (joinIface pre) acc =
      if (acc ++ joined pre ifaces).length ≤ StringView.maxSize then
        some (acc ++ joined pre ifaces)
      else none := by
  induction ifaces generalizing acc with
  | nil => simp [joined, hacc]
  | cons iface ifaces ih =>
    rw [List.foldlM_cons]
    by_cases hpre : iface.take pre.length = pre
    · have hjoined : acc ++ joined pre (iface :: ifaces) =
          acc ++ iface.drop pre.length ++ [comma] ++ joined pre ifaces := by
        simp [joined, hpre]
      rw [joinIface, if_pos hpre, hjoined, append_comma]
      by_cases hfits : (acc ++ iface.drop pre.length ++ [comma]).length ≤ StringView.maxSize
      · rw [if_pos hfits]
        exact ih hfits
      · have hlong : ¬ (acc ++ iface.drop pre.length ++ [comma] ++
            joined pre ifaces).length ≤ StringView.maxSize := by
          rw [List.length_append]
          omega
        rw [if_neg hfits, if_neg hlong]
        rfl
    · have hjoined : joined pre (iface :: ifaces) = joined pre ifaces := by
        simp [joined, hpre]
      rw [joinIface, if_neg hpre, hjoined]
      exact ih hacc

theorem joinIfaces_eq (pre : Bytes) (ifaces : List Bytes) :
    joinIfaces pre ifaces =
      if (joined pre ifaces).length ≤ StringView.maxSize then some (joined pre ifaces)
      else none :=
  joinIfaces_from pre ifaces (Nat.zero_le _)

theorem splitOn_joined (pre : Bytes) (ifaces : List Bytes) :
    ((joined pre ifaces).splitOn comma).filter (!·.isEmpty) = segments pre ifaces := by
  induction ifaces with
  | nil => rfl
  | cons iface ifaces ih =>
    by_cases hpre : iface.take pre.length = pre
    · have hjoined : joined pre (iface :: ifaces) =
          iface.drop pre.length ++ comma :: joined pre ifaces := by
        simp [joined, hpre]
      have hsegments : segments pre (iface :: ifaces) =
          ((iface.drop pre.length).splitOn comma).filter (!·.isEmpty) ++
            segments pre ifaces := by
        simp [segments, hpre]
      rw [hjoined, hsegments, List.splitOn_append_cons_self, List.filter_append, ih]
    · have hjoined : joined pre (iface :: ifaces) = joined pre ifaces := by
        simp [joined, hpre]
      have hsegments : segments pre (iface :: ifaces) = segments pre ifaces := by
        simp [segments, hpre]
      rw [hjoined, hsegments, ih]

theorem count_eq {ifaces : MediaIfaces} {n : Nat} (hn : n ≤ MaxMedia)
    (h : ∀ i : Fin MaxMedia, ifaces[i] = if i.val < n then some i else none) :
    count ifaces = n := by
  have hifaces : ifaces = Vector.ofFn fun i => if i.val < n then some i else none := by
    ext i hi : 1
    rw [Vector.getElem_ofFn]
    exact h ⟨i, hi⟩
  rw [hifaces]
  interval_cases n <;> rfl

/-- A parse of a joined string ends, and goes through the segments of the entries. -/
theorem splitLoop_joined {σ : Type} (more : σ → Bool) (body : Bytes → σ → σ) (pre : Bytes)
    {ifaces : List Bytes} {s : Bytes} (h : joinIfaces pre ifaces = some s) (st : σ)
    {fuel : Nat} (hfuel : s.length + 2 ≤ fuel) :
    splitLoop comma more body fuel s 0 st =
      some (consume more body st ((joined pre ifaces).splitOn comma)) := by
  rw [joinIfaces_eq] at h
  split at h
  · next hlen =>
    cases h
    exact @StringView.splitLoop_eq _ _ σ comma more body _ [] _ rfl hlen fuel hfuel st
  · cases h

theorem getElem?_concat {M : Type} (made : List M) (m : M) (i : Nat) :
    (made ++ [m])[i]? = if made.length = i then some m else made[i]? := by
  rw [List.getElem?_append]
  split
  · next h => rw [if_neg (by omega)]
  · next h =>
    by_cases hi : made.length = i
    · simp [hi]
    · have hbehind : [m].length ≤ i - made.length := by
        rw [List.length_singleton]
        omega
      rw [if_neg hi, List.getElem?_eq_none hbehind, List.getElem?_eq_none (by omega)]

def UdpMediaCollection.Placed (made : List Bytes) (_ : Nat)
    (st : Vector UdpMedia MaxMedia × Nat) : Prop :=
  st.2 = made.length ∧
    ∀ i : Fin MaxMedia, ∀ seg ∈ made[i.val]?, st.1[i].ifaceAddress = seg

theorem UdpMediaCollection.Placed.place {made : List Bytes} {k : Nat}
    {st : Vector UdpMedia MaxMedia × Nat} (h : Placed made k st) (seg : Bytes) :
    Placed (made ++ [seg]) (k + 1) (place seg st) := by
  obtain ⟨hindex, hmedia⟩ := h
  refine ⟨by simp [UdpMediaCollection.place, hindex], ?_⟩
  intro i seg' hseg
  rw [getElem?_concat] at hseg
  simp only [UdpMediaCollection.place, hindex, Fin.getElem_fin, Vector.getElem_setIfInBounds]
  by_cases hi : made.length = i.val
  · rw [if_pos hi] at hseg ⊢
    exact Option.some.inj hseg
  · rw [if_neg hi] at hseg ⊢
    exact hmedia i seg' hseg

structure CanMediaCollection.Placed (made : List CanMedia) (k : Nat) (st : Parsing) : Prop where
  opened : st.opened = k
  index : st.index = made.length
  pointers : ∀ i : Fin MaxMedia,
    st.collection.mediaIfaces[i] = if i.val < made.length then some i else none
  media : ∀ i : Fin MaxMedia, st.collection.mediaArray[i] = made[i.val]?

theorem CanMediaCollection.Placed.place {openings : Nat → Bytes → Opening}
    {made : List CanMedia} {k : Nat} {st : Parsing} (h : Placed made k st) (seg : Bytes) :
    Placed (made ++ (CanMedia.make seg (openings k seg)).toOption.toList) (k + 1)
      (place openings seg st) := by
  unfold CanMediaCollection.place
  rw [h.opened]
  cases CanMedia.make seg (openings k seg) with
  | error code =>
    simp only [Except.toOption, Option.toList, List.append_nil]
    exact ⟨rfl, h.index, h.pointers, h.media⟩
  | ok media =>
    simp only [Except.toOption, Option.toList]
    refine ⟨rfl, by simp [h.index], fun i => ?_, fun i => ?_⟩
    · have hi := h.pointers i
      simp only [Fin.getElem_fin, Vector.getElem_setIfInBounds, h.index,
        List.length_append, List.length_singleton] at hi ⊢
      by_cases heq : made.length = i.val
      · have hfin : Fin.ofNat MaxMedia made.length = i := by
          rw [heq]
          exact Fin.ofNat_val_eq_self i
        rw [if_pos heq, if_pos (by omega), hfin]
      · rw [if_neg heq, hi]
        split <;> split <;> first | rfl | omega
    · have hi := h.media i
      simp only [Fin.getElem_fin, Vector.getElem_setIfInBounds, h.index,
        getElem?_concat] at hi ⊢
      split
      · rfl
      · exact hi

theorem selectedUdp_eq (ifaces : List Bytes) :
    selectedUdp ifaces = (StringView.selection (fun _ seg => some seg) 0
      ((joined udpPrefix ifaces).splitOn comma)).take MaxMedia := by
  rw [StringView.selection, splitOn_joined, selectedUdp]
  have hall : ((segments udpPrefix ifaces).zipIdx.filterMap fun seg => some seg.1) =
      segments udpPrefix ifaces := by
    rw [List.filterMap_eq_map', List.zipIdx_map_fst]
  rw [hall]

theorem CanMedia.toOption_make (seg : Bytes) (o : Opening) :
    (CanMedia.make seg o).toOption = if o.opens = true then some ⟨seg, o.1, o.2⟩ else none := by
  simp only [CanMedia.make, Opening.opens, Bool.and_eq_true, decide_eq_true_eq]
  by_cases hrx : o.1 < 0
  · rw [if_pos hrx, if_neg fun h => absurd hrx (Int32.not_lt.mpr h.1)]
    rfl
  · rw [if_neg hrx]
    by_cases htx : o.2 < 0
    · rw [if_pos htx, if_neg fun h => absurd htx (Int32.not_lt.mpr h.2)]
      rfl
    · rw [if_neg htx, if_pos ⟨Int32.not_lt.mp hrx, Int32.not_lt.mp htx⟩]
      rfl

theorem selectedCan_eq (openings : Nat → Bytes → Opening) (ifaces : List Bytes) :
    selectedCan openings ifaces =
      (StringView.selection (fun k seg => (CanMedia.make seg (openings k seg)).toOption) 0
        ((joined canPrefix ifaces).splitOn comma)).take MaxMedia := by
  rw [StringView.selection, splitOn_joined, selectedCan, List.map_take]
  simp only [CanMedia.toOption_make]
  rw [← List.filterMap_filter, List.filterMap_eq_map']

theorem UdpMediaCollection.Placed.holds_point {made : List Bytes} {k : Nat}
    {st : Vector UdpMedia MaxMedia × Nat} (h : Placed made k st)
    (hlen : made.length ≤ MaxMedia) : (point st).Holds made := by
  have hpointers : ∀ i : Fin MaxMedia,
      (point st).mediaIfaces[i] = if i.val < made.length then some i else none := by
    intro i
    rw [point, Fin.getElem_fin, Vector.getElem_ofFn, h.1]
  exact ⟨hpointers, h.2, count_eq hlen hpointers⟩

theorem UdpMediaCollection.holds_parse {ifaces : List Bytes} {s : Bytes}
    (h : joinIfaces udpPrefix ifaces = some s) (c : UdpMediaCollection) :
    ∃ c', (∀ fuel, s.length + 2 ≤ fuel → c.parse fuel s = some c') ∧
      c'.Holds (selectedUdp ifaces) := by
  have hinit : Placed [] 0 (c.mediaArray, 0) := ⟨rfl, fun i seg hseg => by simp at hseg⟩
  obtain ⟨k, hplaced⟩ := StringView.consume_selects
    (fun st : Vector UdpMedia MaxMedia × Nat => st.2 < MaxMedia) place MaxMedia
    (fun _ seg => some seg) Placed (fun hp => by rw [hp.1]) (fun hp _ => hp.place _) hinit
    (Nat.zero_le _) ((joined udpPrefix ifaces).splitOn comma)
  rw [List.nil_append, ← selectedUdp_eq] at hplaced
  refine ⟨_, fun fuel hfuel => ?_, hplaced.holds_point (List.length_take_le _ _)⟩
  rw [parse, splitLoop_joined _ _ _ h _ hfuel, Option.map_some]

theorem CanMediaCollection.holds_parse (openings : Nat → Bytes → Opening)
    {ifaces : List Bytes} {s : Bytes} (h : joinIfaces canPrefix ifaces = some s)
    (c : CanMediaCollection) :
    ∃ c', (∀ fuel, s.length + 2 ≤ fuel → c.parse openings fuel s = some c') ∧
      c'.Holds (selectedCan openings ifaces) := by
  have hinit : Placed [] 0 {} := by
    refine ⟨rfl, rfl, fun i => ?_, fun i => ?_⟩ <;> simp
  obtain ⟨k, hplaced⟩ := StringView.consume_selects (fun st : Parsing => st.index < MaxMedia)
    (place openings) MaxMedia
    (fun k seg => (CanMedia.make seg (openings k seg)).toOption) Placed
    (fun hp => by rw [hp.index]) (fun hp _ => hp.place _) hinit (Nat.zero_le _)
    ((joined canPrefix ifaces).splitOn comma)
  rw [List.nil_append, ← selectedCan_eq] at hplaced
  have hlen : (selectedCan openings ifaces).length ≤ MaxMedia := by
    rw [selectedCan_eq]
    exact List.length_take_le _ _
  refine ⟨_, fun fuel hfuel => ?_, hplaced.pointers, hplaced.media,
    count_eq hlen hplaced.pointers⟩
  rw [parse, splitLoop_joined _ _ _ h _ hfuel, Option.map_some]

/-- Whatever is configured, and however the opening of each interface goes: the parse of
what is joined ends, and the collection holds the first three segments, or the first three
that can be opened, whatever it held before. Only a string that is too long is not made. -/
theorem interfaces_split (ifaces : List Bytes) (openings : Nat → Bytes → Opening)
    (udp : UdpMediaCollection) (can : CanMediaCollection) :
    (∀ s, joinIfaces udpPrefix ifaces = some s →
      ∃ udp', (∀ fuel, s.length + 2 ≤ fuel → udp.parse fuel s = some udp') ∧
        udp'.Holds (selectedUdp ifaces)) ∧
    (∀ s, joinIfaces canPrefix ifaces = some s →
      ∃ can', (∀ fuel, s.length + 2 ≤ fuel → can.parse openings fuel s = some can') ∧
        can'.Holds (selectedCan openings ifaces)) ∧
    ∀ pre, joinIfaces pre ifaces = none ↔
      StringView.maxSize < (joined pre ifaces).length := by
  refine ⟨fun s hs => udp.holds_parse hs, fun s hs => can.holds_parse openings hs, ?_⟩
  intro pre
  rw [joinIfaces_eq]
  split
  · next h => simpa using h
  · next h => simpa using h

def writtenIfaces : List Bytes :=
  [canPrefix ++ [97, 44, 44, 98], udpPrefix ++ [49, 44, 44, 50],
    canPrefix ++ [44, 99, 44, 100, 44, 101]]

def bFails (opened : Nat) (ifaceAddress : Bytes) : Opening :=
  (Int32.ofNat (2 * opened), if ifaceAddress = [98] then -19 else Int32.ofNat (2 * opened + 1))

def earlierCan : CanMediaCollection where
  mediaArray := Vector.replicate MaxMedia (some ⟨[122], 7, 8⟩)
  mediaIfaces := Vector.ofFn some

def earlierUdp : UdpMediaCollection where
  mediaArray := Vector.replicate MaxMedia ⟨[122]⟩
  mediaIfaces := Vector.ofFn some

theorem interfaces_split_sample :
    (∃ s can, joinIfaces canPrefix writtenIfaces = some s ∧
      earlierCan.parse bFails (s.length + 2) s = some can ∧
      can.Holds [⟨[97], 0, 1⟩, ⟨[99], 4, 5⟩, ⟨[100], 6, 7⟩]) ∧
    ∃ s udp, joinIfaces udpPrefix writtenIfaces = some s ∧
      earlierUdp.parse (s.length + 2) s = some udp ∧ udp.Holds [[49], [50]] := by
  have hcan : joinIfaces canPrefix writtenIfaces =
      some [97, 44, 44, 98, 44, 44, 99, 44, 100, 44, 101, 44] := by decide +kernel
  have hudp : joinIfaces udpPrefix writtenIfaces = some [49, 44, 44, 50, 44] := by decide +kernel
  obtain ⟨hparseUdp, hparseCan, _⟩ :=
    interfaces_split writtenIfaces bFails earlierUdp earlierCan
  obtain ⟨can, hdone, hholds⟩ := hparseCan _ hcan
  obtain ⟨udp, hdone', hholds'⟩ := hparseUdp _ hudp
  have hselected : selectedCan bFails writtenIfaces =
      [⟨[97], 0, 1⟩, ⟨[99], 4, 5⟩, ⟨[100], 6, 7⟩] := by decide +kernel
  have hselected' : selectedUdp writtenIfaces = [[49], [50]] := by decide +kernel
  rw [hselected] at hholds
  rw [hselected'] at hholds'
  exact ⟨⟨_, can, hcan, hdone _ (Nat.le_refl _), hholds⟩,
    _, udp, hudp, hdone' _ (Nat.le_refl _), hholds'⟩

end Ocvsmd.Engine
