import Ocvsmd.CString

/-!
`SocketAddress`: connection strings, the addresses that are made of them, and how these are
printed. The texts of IP addresses are for `inet_pton` and `inet_ntop`, whose documented
behaviour `Inet` is. The layout of the raw bytes is that of Linux on a little-endian machine.
-/

set_option autoImplicit false

namespace Ocvsmd.Io

open CString (Bytes text cstr strtoull)

abbrev Octets (n : Nat) := {bs : Bytes // bs.length = n}

/-- A buffer of zeros after a copy to its beginning. -/
def Octets.fill (n : Nat) (bs : Bytes) : Octets n := ⟨(bs ++ List.replicate n 0).take n, by simp⟩

theorem Octets.val_fill {n : Nat} {bs : Bytes} (h : bs.length ≤ n) :
    (Octets.fill n bs).val = bs ++ List.replicate (n - bs.length) 0 := by
  change (bs ++ List.replicate n 0).take n = _
  rw [List.take_append, List.take_of_length_le h, List.take_replicate]
  congr 2
  omega

/-- `inet_pton` and `inet_ntop`. A conversion of a text that is no address of the family
answers 0; the third answer, -1, is for other families than these two. -/
structure Inet where
  pton4 : Bytes → Option (Octets 4)
  ntop4 : Octets 4 → Bytes
  pton6 : Bytes → Option (Octets 16)
  ntop6 : Octets 16 → Bytes
  pton4_ntop4 : ∀ a, pton4 (ntop4 a) = some a
  pton6_ntop6 : ∀ a, pton6 (ntop6 a) = some a
  pton4_chars : ∀ {t a}, pton4 t = some a → ∀ c ∈ t, c = 46 ∨ CString.isDigit 10 c = true
  pton6_chars : ∀ {t a}, pton6 t = some a →
    ∀ c ∈ t, c = 58 ∨ c = 46 ∨ CString.isDigit 16 c = true

def EINVAL : Int32 := 22

def colon : UInt8 := 58
def openBracket : UInt8 := 91
def closeBracket : UInt8 := 93
def star : UInt8 := 42

inductive Family where
  | inet | inet6
  deriving DecidableEq, Repr

/-- `sockaddr_storage` as the functions see it. The fields that they leave are zero. -/
inductive Storage where
  | unspec
  | un (sunPath : Octets 108)
  | inet (sinPort : UInt16) (sinAddr : Octets 4)
  | inet6 (sin6Port : UInt16) (sin6Addr : Octets 16)
  deriving DecidableEq

structure SocketAddress where
  isWildcard : Bool := false
  addrLen : Nat := 0
  storage : Storage := .unspec
  deriving DecidableEq

def Storage.family : Storage → Nat
  | .unspec => 0
  | .un _ => 1
  | .inet _ _ => 2
  | .inet6 _ _ => 10

def htons (port : UInt16) : Bytes := [UInt8.ofNat (port.toNat / 256), UInt8.ofNat port.toNat]

def Storage.bytes (st : Storage) : Bytes :=
  UInt8.ofNat st.family :: 0 :: match st with
    | .unspec => List.replicate 126 0
    | .un path => path.val ++ List.replicate 18 0
    | .inet port addr => htons port ++ addr.val ++ List.replicate 120 0
    | .inet6 port addr =>
      htons port ++ List.replicate 4 0 ++ addr.val ++ List.replicate 104 0

namespace SocketAddress

def getRaw (a : SocketAddress) : Bytes := a.storage.bytes.take a.addrLen

def isAnyInet (a : SocketAddress) : Bool := a.storage.family = 2 || a.storage.family = 10

def getPort (a : SocketAddress) : UInt16 :=
  match a.storage with
  | .inet port _ => port
  | .inet6 port _ => port
  | _ => 0

def sizeofInet : Nat := 16
def sizeofInet6 : Nat := 28
def sizeofSunPath : Nat := 108
def offsetofSunPath : Nat := 2

def unixPrefix : Bytes := text ['u', 'n', 'i', 'x', ':']
def abstractPrefix : Bytes :=
  text ['u', 'n', 'i', 'x', '-', 'a', 'b', 's', 't', 'r', 'a', 'c', 't', ':']
def tcpPrefix : Bytes := text ['t', 'c', 'p', ':', '/', '/']

/-- The path has the NUL behind it, and an abstract one is without the NUL before it. -/
def getUnixPrefixAndPath (addrLen : Nat) (sunPath : Octets 108) : Bytes × Bytes :=
  let pathLen := addrLen - offsetofSunPath
  if pathLen = 0 then (unixPrefix, [])
  else if sunPath.val.head? = some 0 then
    (abstractPrefix, (sunPath.val.drop 1).take (pathLen - 1))
  else (unixPrefix, sunPath.val.take pathLen)

def toString (inet : Inet) (a : SocketAddress) : Bytes :=
  let portSuffix := colon :: CString.decimal a.getPort.toNat
  if a.isWildcard then star :: portSuffix
  else match a.storage with
    | .inet _ addr => inet.ntop4 addr ++ portSuffix
    | .inet6 _ addr => openBracket :: inet.ntop6 addr ++ closeBracket :: portSuffix
    | .un sunPath =>
      let prefixAndPath := getUnixPrefixAndPath a.addrLen sunPath
      prefixAndPath.1 ++ prefixAndPath.2
    | .unspec =>
      text ['<', 'u', 'n', 'k', 'n', 'o', 'w', 'n', '>', '(', 'f', 'a', 'm', 'i', 'l', 'y', '=']
        ++ CString.decimal a.storage.family ++ text [')']

def findFirstOf (s : Bytes) (c : UInt8) (pos : Nat) : Option Nat :=
  ((s.drop pos).findIdx? (· = c)).map (pos + ·)

def findLastOf (s : Bytes) (c : UInt8) : Option Nat :=
  (s.reverse.findIdx? (· = c)).map (s.length - 1 - ·)

/-- The first half of `extractFamilyHostAndPort`: the family, the host and the port part. -/
def splitHostAndPort (str : Bytes) : Option (Family × Bytes × Bytes) :=
  if findFirstOf str openBracket 0 = some 0 then
    -- IPv6 starts with a bracket when with a port.
    (findLastOf str closeBracket).bind fun endBracketPos =>
      let host := (str.drop 1).take (endBracketPos - 1)
      if endBracketPos + 1 < str.length then
        if str[endBracketPos + 1]? = some colon then
          some (.inet6, host, str.drop (endBracketPos + 2))
        else none
      else some (.inet6, host, [])
  else
    match findFirstOf str colon 0 with
    | some colonPos =>
      -- With a second colon it must be an IPv6 address (without port).
      if (findFirstOf str colon (colonPos + 1)).isSome then some (.inet6, str, [])
      else some (.inet, str.take colonPos, str.drop (colonPos + 1))
    | none => some (.inet, str, [])

/-- The second half: the port if any, otherwise the hint. -/
def parsePort (portPart : Bytes) (portHint : UInt16) : Option UInt16 :=
  if portPart.isEmpty then some portHint
  else
    let maybePort := strtoull (cstr portPart)
    if maybePort.2 ≠ [] then none
    else if 65535 < maybePort.1 then none
    else some maybePort.1.toUInt16

def extractFamilyHostAndPort (str : Bytes) (portHint : UInt16) :
    Option (Family × Bytes × UInt16) :=
  (splitHostAndPort str).bind fun parts =>
    (parsePort parts.2.2 portHint).map fun port => (parts.1, parts.2.1, port)

def tryParseAsWildcard (host : Bytes) (port : UInt16) : Option SocketAddress :=
  if host ≠ [star] then none
  else some {
    isWildcard := true
    addrLen := sizeofInet6
    storage := .inet6 port (.fill 16 []) }

def afterPrefix (pre connStr : Bytes) : Option Bytes :=
  if pre.isPrefixOf connStr then some (connStr.drop pre.length) else none

/-- The end of `tryParseAsTcpAddress`: a wildcard, or what `inet_pton` makes of the host. -/
def resolveHost (inet : Inet) (family : Family) (host : Bytes) (port : UInt16) :
    Except Int32 SocketAddress :=
  match tryParseAsWildcard host port with
  | some result => .ok result
  | none =>
    match family with
    | .inet6 =>
      match inet.pton6 (cstr host) with
      | some addr => .ok { addrLen := sizeofInet6, storage := .inet6 port addr }
      | none => .error EINVAL
    | .inet =>
      match inet.pton4 (cstr host) with
      | some addr => .ok { addrLen := sizeofInet, storage := .inet port addr }
      | none => .error EINVAL

def tryParseAsTcpAddress (inet : Inet) (connStr : Bytes) (portHint : UInt16) :
    Option (Except Int32 SocketAddress) :=
  (afterPrefix tcpPrefix connStr).map fun addrStr =>
    match extractFamilyHostAndPort addrStr portHint with
    | none => .error EINVAL
    | some (family, host, port) => resolveHost inet family host port

def tryParseAsUnixDomain (connStr : Bytes) : Option (Except Int32 SocketAddress) :=
  (afterPrefix unixPrefix connStr).map fun path =>
    -- Reserve one byte for the null terminator.
    if sizeofSunPath < path.length + 1 then .error EINVAL
    else .ok {
      addrLen := offsetofSunPath + path.length + 1
      storage := .un (.fill 108 (cstr path)) }

def tryParseAsAbstractUnixDomain (connStr : Bytes) : Option (Except Int32 SocketAddress) :=
  (afterPrefix abstractPrefix connStr).map fun path =>
    if sizeofSunPath - 1 < path.length + 1 then .error EINVAL
    else .ok {
      addrLen := offsetofSunPath + path.length + 1
      storage := .un (.fill 108 (0 :: path ++ [0])) }

def parse (inet : Inet) (connStr : Bytes) (portHint : UInt16) : Except Int32 SocketAddress :=
  match tryParseAsUnixDomain connStr with
  | some result => result
  | none =>
    match tryParseAsAbstractUnixDomain connStr with
    | some result => result
    | none => (tryParseAsTcpAddress inet connStr portHint).getD (.error EINVAL)

theorem afterPrefix_append (pre s : Bytes) : afterPrefix pre (pre ++ s) = some s := by
  rw [afterPrefix, if_pos (List.isPrefixOf_iff_prefix.mpr (List.prefix_append pre s)),
    List.drop_left]

theorem afterPrefix_eq_some {pre s rest : Bytes} :
    afterPrefix pre s = some rest ↔ s = pre ++ rest := by
  constructor
  · intro h
    rw [afterPrefix] at h
    split_ifs at h with hpre
    obtain ⟨t, rfl⟩ := List.isPrefixOf_iff_prefix.mp hpre
    rw [List.drop_left] at h
    rw [Option.some.inj h]
  · rintro rfl
    exact afterPrefix_append pre rest

theorem parse_tcp (inet : Inet) (s : Bytes) (portHint : UInt16) :
    parse inet (tcpPrefix ++ s) portHint =
      match extractFamilyHostAndPort s portHint with
      | none => .error EINVAL
      | some (family, host, port) => resolveHost inet family host port := by
  have hunix : tryParseAsUnixDomain (tcpPrefix ++ s) = none := rfl
  have habstract : tryParseAsAbstractUnixDomain (tcpPrefix ++ s) = none := rfl
  rw [parse, hunix, habstract, tryParseAsTcpAddress, afterPrefix_append]
  rfl

end SocketAddress

end Ocvsmd.Io
