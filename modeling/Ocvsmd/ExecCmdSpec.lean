import Ocvsmd.Gateway

set_option autoImplicit false

namespace Ocvsmd.Svc

open Ipc (Bytes ServiceId writeLE readLE delimited readDelimited)

abbrev NodeId := UInt16

/-- `std::unordered_map::emplace` leaves a value that is there already. -/
def emplace {β : Type} (m : AList fun _ : NodeId => β) (nodeId : NodeId) (value : β) :
    AList fun _ : NodeId => β :=
  if nodeId ∈ m then m else m.insert nodeId value

theorem mem_emplace {β : Type} (m : AList fun _ : NodeId => β) (n n' : NodeId) (value : β) :
    n' ∈ emplace m n value ↔ n' = n ∨ n' ∈ m := by
  unfold emplace
  split
  · next h =>
    constructor
    · exact Or.inr
    · rintro (rfl | h')
      · exact h
      · exact h'
  · exact AList.mem_insert m

theorem lookup_emplace {β : Type} (m : AList fun _ : NodeId => β) (n n' : NodeId) (value : β) :
    (emplace m n value).lookup n' = (m.lookup n').or (if n' = n then some value else none) := by
  unfold emplace
  by_cases he : n' = n
  · subst he
    split
    · next h =>
      obtain ⟨v, hv⟩ := Option.isSome_iff_exists.mp (AList.lookup_isSome.mpr h)
      simp [hv]
    · next h => simp [AList.lookup_eq_none.mpr h]
  · rw [if_neg he, Option.or_none]
    split
    · rfl
    · exact AList.lookup_insert_ne he

structure NodeRequest where
  command : UInt16
  parameter : Bytes
  deriving DecidableEq, Repr

structure NodeResponse where
  status : UInt8
  output : Bytes
  bounded : output.length ≤ 46
  deriving DecidableEq, Repr

structure Request where
  timeoutUs : UInt64
  nodeIds : List NodeId
  payload : NodeRequest
  deriving DecidableEq, Repr

structure Response where
  nodeId : NodeId
  payload : NodeResponse
  deriving DecidableEq, Repr

/-- The id of the service, and the generated code of its messages. What is written is
read back; a request with too many node ids is not written at all. -/
structure ExecCmdSpec where
  serviceId : ServiceId
  serializeRequest : Request → Option Bytes
  deserializeRequest : Bytes → Option Request
  serializeResponse : Response → Bytes
  deserializeResponse : Bytes → Option Response
  deserialize_request : ∀ {r b}, serializeRequest r = some b → deserializeRequest b = some r
  deserialize_response : ∀ r, deserializeResponse (serializeResponse r) = some r

def writeList (size : Nat) (l : List Nat) : Bytes := l.flatMap (writeLE size)

def readList (size : Nat) : Nat → Bytes → List Nat
  | 0, _ => []
  | n+1, bs => readLE size bs :: readList size n (bs.drop size)

@[simp] theorem readList_length (size n : Nat) (bs : Bytes) :
    (readList size n bs).length = n := by
  induction n generalizing bs with
  | zero => rfl
  | succ n ih => simp [readList, ih]

@[simp] theorem writeList_length (size : Nat) (l : List Nat) :
    (writeList size l).length = size * l.length := by
  induction l with
  | nil => simp [writeList]
  | cons v l ih =>
    simp only [writeList, List.flatMap_cons, List.length_append, Ipc.writeLE_length,
      List.length_cons] at ih ⊢
    rw [ih, Nat.mul_succ]
    omega

theorem drop_writeLE (size v : Nat) (tail : Bytes) :
    (writeLE size v ++ tail).drop size = tail := by
  rw [List.drop_append_of_le_length (by simp), List.drop_of_length_le (by simp)]
  rfl

theorem drop_writeList (size : Nat) (l : List Nat) (tail : Bytes) :
    (writeList size l ++ tail).drop (size * l.length) = tail := by
  rw [List.drop_append_of_le_length (by simp), List.drop_of_length_le (by simp)]
  rfl

theorem readList_writeList (size : Nat) (l : List Nat) (tail : Bytes)
    (h : ∀ v ∈ l, v < 256^size) : readList size l.length (writeList size l ++ tail) = l := by
  induction l with
  | nil => rfl
  | cons v l ih =>
    have hv := Ipc.readLE_writeLE_of_lt size v (writeList size l ++ tail) (h v (by simp))
    have hl := ih fun w hw => h w (List.mem_cons_of_mem _ hw)
    simp only [writeList, List.flatMap_cons, List.append_assoc, List.length_cons, readList,
      drop_writeLE] at hv hl ⊢
    rw [hv, hl]

def NodeRequest.body (r : NodeRequest) : Bytes :=
  writeLE 2 r.command.toNat ++ (writeLE 1 r.parameter.length ++
    writeList 1 (r.parameter.map (·.toNat)))

def NodeRequest.read (bs : Bytes) : NodeRequest :=
  ⟨UInt16.ofNat (readLE 2 bs),
   (readList 1 (readLE 1 (bs.drop 2)) ((bs.drop 2).drop 1)).map UInt8.ofNat⟩

def NodeResponse.body (r : NodeResponse) : Bytes :=
  writeLE 1 r.status.toNat ++ (writeLE 1 r.output.length ++
    writeList 1 (r.output.map (·.toNat)))

def NodeResponse.read (bs : Bytes) : Option NodeResponse :=
  let size := readLE 1 (bs.drop 1)
  if h : size ≤ 46 then
    some ⟨UInt8.ofNat (readLE 1 bs),
      (readList 1 size ((bs.drop 1).drop 1)).map UInt8.ofNat, by simpa using h⟩
  else none

def Request.serialize (r : Request) : Option Bytes :=
  if r.nodeIds.length ≤ 128 ∧ r.payload.parameter.length ≤ 255 then
    some (writeLE 8 r.timeoutUs.toNat ++ (writeLE 1 r.nodeIds.length ++
      (writeList 2 (r.nodeIds.map (·.toNat)) ++ delimited r.payload.body)))
  else none

def Request.deserialize (bs : Bytes) : Option Request :=
  let ids := bs.drop 8
  let size := readLE 1 ids
  if size ≤ 128 then
    (readDelimited ((ids.drop 1).drop (2 * size))).map fun body =>
      ⟨UInt64.ofNat (readLE 8 bs), (readList 2 size (ids.drop 1)).map UInt16.ofNat,
        NodeRequest.read body⟩
  else none

def Response.serialize (r : Response) : Bytes :=
  writeLE 2 r.nodeId.toNat ++ delimited r.payload.body

def Response.deserialize (bs : Bytes) : Option Response :=
  (readDelimited (bs.drop 2)).bind fun body =>
    (NodeResponse.read body).map fun payload => ⟨UInt16.ofNat (readLE 2 bs), payload⟩

theorem readList_bytes (l tail : Bytes) :
    (readList 1 l.length (writeList 1 (l.map (·.toNat)) ++ tail)).map UInt8.ofNat = l := by
  have h := readList_writeList 1 (l.map (·.toNat)) tail fun v hv => by
    obtain ⟨b, _, rfl⟩ := List.mem_map.mp hv
    exact b.toNat_lt
  rw [List.length_map] at h
  rw [h, List.map_map]
  simp [Function.comp_def]

theorem NodeRequest.read_body (r : NodeRequest) (h : r.parameter.length ≤ 255) :
    NodeRequest.read r.body = r := by
  obtain ⟨command, parameter⟩ := r
  have hc := Ipc.readLE_writeLE_of_lt 2 command.toNat
  have hs := Ipc.readLE_writeLE_of_lt 1 parameter.length
    (writeList 1 (parameter.map (·.toNat))) (by simp only at h; omega)
  have hp := readList_bytes parameter []
  simp only [List.append_nil] at hp
  simp only [read, body, drop_writeLE, hs, hp, hc _ (by have := command.toNat_lt; omega),
    UInt16.ofNat_toNat]

theorem NodeResponse.read_body (r : NodeResponse) : NodeResponse.read r.body = some r := by
  obtain ⟨status, output, bounded⟩ := r
  have hc := Ipc.readLE_writeLE_of_lt 1 status.toNat
  have hs := Ipc.readLE_writeLE_of_lt 1 output.length
    (writeList 1 (output.map (·.toNat))) (by omega)
  have hp := readList_bytes output []
  simp only [List.append_nil] at hp
  simp only [read, body, drop_writeLE, hs, bounded, dite_true, hp,
    hc _ (by have := status.toNat_lt; omega), UInt8.ofNat_toNat]

theorem Request.deserialize_serialize {r : Request} {b : Bytes} (h : r.serialize = some b) :
    Request.deserialize b = some r := by
  obtain ⟨timeoutUs, nodeIds, payload⟩ := r
  unfold Request.serialize at h
  split at h
  · next hfits =>
    obtain ⟨hids, hparam⟩ := hfits
    simp only at hids hparam
    cases h
    have ht := Ipc.readLE_writeLE_of_lt 8 timeoutUs.toNat
    have hn := Ipc.readLE_writeLE_of_lt 1 nodeIds.length
    have hl := readList_writeList 2 (nodeIds.map (·.toNat)) (delimited payload.body)
      fun v hv => by
        obtain ⟨n, _, rfl⟩ := List.mem_map.mp hv
        exact n.toNat_lt
    have hd := drop_writeList 2 (nodeIds.map (·.toNat)) (delimited payload.body)
    have hb := Ipc.readDelimited_delimited payload.body [] (by
      simp [NodeRequest.body]; omega)
    rw [List.length_map] at hl hd
    simp only [List.append_nil] at hb
    simp only [deserialize, drop_writeLE, hn _ (by omega), hids, if_true, hd, hb, hl,
      ht _ (by have := timeoutUs.toNat_lt; omega), Option.map_some, List.map_map,
      NodeRequest.read_body payload hparam, UInt64.ofNat_toNat]
    simp [Function.comp_def]
  · cases h

theorem Response.deserialize_serialize (r : Response) :
    Response.deserialize r.serialize = some r := by
  obtain ⟨nodeId, payload⟩ := r
  have hbounded := payload.bounded
  have hn := Ipc.readLE_writeLE_of_lt 2 nodeId.toNat
  have hb := Ipc.readDelimited_delimited payload.body [] (by
    simp [NodeResponse.body]; omega)
  simp only [List.append_nil] at hb
  simp [deserialize, serialize, hb, NodeResponse.read_body,
    hn _ (by have := nodeId.toNat_lt; omega)]

/-- The id that `getServiceDesc` makes of the name does not matter here. -/
def cyphalExecCmdSpec (serviceId : ServiceId) : ExecCmdSpec where
  serviceId := serviceId
  serializeRequest := Request.serialize
  deserializeRequest := Request.deserialize
  serializeResponse := Response.serialize
  deserializeResponse := Response.deserialize
  deserialize_request := Request.deserialize_serialize
  deserialize_response := Response.deserialize_serialize

end Ocvsmd.Svc
