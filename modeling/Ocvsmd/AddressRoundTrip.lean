import Ocvsmd.TcpGrammar

set_option autoImplicit false

namespace Ocvsmd.Io.SocketAddress

open CString (Bytes cstr)

def ofPath (path : Bytes) : SocketAddress :=
  { addrLen := offsetofSunPath + path.length + 1, storage := .un (.fill 108 (cstr path)) }

def ofAbstract (name : Bytes) : SocketAddress :=
  { addrLen := offsetofSunPath + name.length + 1, storage := .un (.fill 108 (0 :: name ++ [0])) }

def sunName (path : Bytes) : Bytes :=
  cstr path ++ List.replicate (path.length + 1 - (cstr path).length) 0

theorem length_cstr_le (path : Bytes) : (cstr path).length ≤ path.length :=
  (List.takeWhile_prefix _).length_le

theorem length_sunName (path : Bytes) : (sunName path).length = path.length + 1 := by
  have hle := length_cstr_le path
  rw [sunName, List.length_append, List.length_replicate]
  omega

theorem cstr_sunName (path : Bytes) : cstr (sunName path) = cstr path := by
  have hle := length_cstr_le path
  obtain ⟨k, hk⟩ : ∃ k, path.length + 1 - (cstr path).length = k + 1 :=
    ⟨path.length - (cstr path).length, by omega⟩
  rw [sunName, hk, List.replicate_succ, CString.cstr_append_nul (CString.nul_not_mem_cstr path)]

theorem parse_unix (inet : Inet) (path : Bytes) (hint : UInt16) :
    parse inet (unixPrefix ++ path) hint =
      if path.length < 108 then .ok (ofPath path) else .error EINVAL := by
  rw [parse, tryParseAsUnixDomain, afterPrefix_append, Option.map_some]
  by_cases hlen : path.length < 108
  · have hfits : ¬ sizeofSunPath < path.length + 1 := by unfold sizeofSunPath; omega
    rw [if_pos hlen, if_neg hfits]
    rfl
  · have hlong : sizeofSunPath < path.length + 1 := by unfold sizeofSunPath; omega
    rw [if_neg hlen, if_pos hlong]

theorem parse_abstract (inet : Inet) (name : Bytes) (hint : UInt16) :
    parse inet (abstractPrefix ++ name) hint =
      if name.length < 107 then .ok (ofAbstract name) else .error EINVAL := by
  have hunix : tryParseAsUnixDomain (abstractPrefix ++ name) = none := rfl
  rw [parse, hunix, tryParseAsAbstractUnixDomain, afterPrefix_append, Option.map_some]
  by_cases hlen : name.length < 107
  · have hfits : ¬ sizeofSunPath - 1 < name.length + 1 := by unfold sizeofSunPath; omega
    rw [if_pos hlen, if_neg hfits]
    rfl
  · have hlong : sizeofSunPath - 1 < name.length + 1 := by unfold sizeofSunPath; omega
    rw [if_neg hlen, if_pos hlong]

theorem eq_of_afterPrefix {pre s : Bytes} {f : Bytes → Except Int32 SocketAddress}
    {result : Except Int32 SocketAddress} (h : (afterPrefix pre s).map f = some result) :
    ∃ rest, s = pre ++ rest ∧ f rest = result := by
  obtain ⟨rest, hrest, hf⟩ := Option.map_eq_some_iff.mp h
  exact ⟨rest, afterPrefix_eq_some.mp hrest, hf⟩

theorem parse_cases {inet : Inet} {s : Bytes} {hint : UInt16} {a : SocketAddress}
    (h : parse inet s hint = .ok a) :
    (∃ path, s = unixPrefix ++ path ∧ path.length < 108 ∧ a = ofPath path) ∨
      (∃ name, s = abstractPrefix ++ name ∧ name.length < 107 ∧ a = ofAbstract name) ∨
      ∃ t family host mk port, s = tcpPrefix ++ t ∧ Host inet family host mk ∧ a = mk port := by
  cases hunix : tryParseAsUnixDomain s with
  | some result =>
    obtain ⟨path, rfl, -⟩ := eq_of_afterPrefix hunix
    rw [parse_unix] at h
    split_ifs at h with hlen
    exact .inl ⟨path, rfl, hlen, (Except.ok.inj h).symm⟩
  | none =>
    cases habstract : tryParseAsAbstractUnixDomain s with
    | some result =>
      obtain ⟨name, rfl, -⟩ := eq_of_afterPrefix habstract
      rw [parse_abstract] at h
      split_ifs at h with hlen
      exact .inr (.inl ⟨name, rfl, hlen, (Except.ok.inj h).symm⟩)
    | none =>
      cases htcp : tryParseAsTcpAddress inet s hint with
      | none =>
        rw [parse, hunix, habstract, htcp] at h
        cases h
      | some result =>
        obtain ⟨t, rfl, -⟩ := eq_of_afterPrefix htcp
        obtain ⟨family, host, part, port, -, -, hres⟩ := parse_tcp_iff.mp h
        obtain ⟨mk, hhost | hcut, rfl⟩ := host_of_resolves hres
        · exact .inr (.inr ⟨t, family, host, mk, port, rfl, hhost, rfl⟩)
        · cases hcut with
          | cut hhost _ => exact .inr (.inr ⟨t, family, _, mk, port, rfl, hhost, rfl⟩)

theorem val_fill_path {path : Bytes} (h : path.length < 108) :
    (Octets.fill 108 (cstr path)).val = cstr path ++ List.replicate (108 - (cstr path).length) 0 :=
  Octets.val_fill (by have := length_cstr_le path; omega)

theorem val_fill_abstract {name : Bytes} (h : name.length < 107) :
    (Octets.fill 108 (0 :: name ++ [0])).val =
      0 :: name ++ List.replicate (107 - name.length) 0 := by
  obtain ⟨k, hk⟩ : ∃ k, 107 - name.length = k + 1 := ⟨106 - name.length, by omega⟩
  have hfill : 108 - (0 :: name ++ [0]).length = k := by
    simp only [List.length_append, List.length_cons, List.length_nil]
    omega
  rw [Octets.val_fill (by simp; omega), hfill, hk, List.replicate_succ]
  simp

theorem take_fill_path {path : Bytes} (h : path.length < 108) :
    (Octets.fill 108 (cstr path)).val.take (path.length + 1) = sunName path := by
  have hle := length_cstr_le path
  rw [val_fill_path h, sunName, List.take_append, List.take_of_length_le (by omega),
    List.take_replicate]
  congr 2
  omega

theorem take_fill_abstract {name : Bytes} (h : name.length < 107) :
    (Octets.fill 108 (0 :: name ++ [0])).val.take (name.length + 1) = 0 :: name := by
  rw [val_fill_abstract h]
  simp

theorem getRaw_un {len : Nat} (path : Octets 108) (h : len ≤ 108) :
    getRaw { addrLen := offsetofSunPath + len, storage := .un path } =
      1 :: 0 :: path.val.take len := by
  have hbytes : (Storage.un path).bytes = 1 :: 0 :: (path.val ++ List.replicate 18 0) := rfl
  rw [getRaw, hbytes, offsetofSunPath, Nat.add_comm, List.take_succ_cons, List.take_succ_cons,
    List.take_append_of_le_length (by rw [path.2]; exact h)]

theorem getRaw_ofPath {path : Bytes} (h : path.length < 108) :
    (ofPath path).getRaw = 1 :: 0 :: sunName path := by
  rw [← take_fill_path h, ← getRaw_un _ h]
  rfl

theorem getRaw_ofAbstract {name : Bytes} (h : name.length < 107) :
    (ofAbstract name).getRaw = 1 :: 0 :: 0 :: name := by
  rw [← take_fill_abstract h, ← getRaw_un _ (by omega)]
  rfl

theorem toString_un (inet : Inet) (n : Nat) (path : Octets 108) :
    toString inet { addrLen := offsetofSunPath + n + 1, storage := .un path } =
      if path.val.head? = some 0 then abstractPrefix ++ (path.val.take (n + 1)).drop 1
      else unixPrefix ++ path.val.take (n + 1) := by
  have hlen : offsetofSunPath + n + 1 - offsetofSunPath = n + 1 := by omega
  have hdrop : (path.val.drop 1).take n = (path.val.take (n + 1)).drop 1 := by
    rw [List.drop_take]
    rfl
  rw [toString, if_neg Bool.false_ne_true]
  simp only [getUnixPrefixAndPath, hlen, if_neg (Nat.succ_ne_zero n), Nat.add_sub_cancel, hdrop]
  split_ifs <;> rfl

theorem toString_ofAbstract (inet : Inet) {name : Bytes} (h : name.length < 107) :
    (ofAbstract name).toString inet = abstractPrefix ++ name := by
  rw [ofAbstract, toString_un, if_pos, take_fill_abstract h]
  · rfl
  · rw [val_fill_abstract h]
    rfl

theorem toString_ofPath_nul (inet : Inet) {path : Bytes} (h : path.length < 108)
    (hcut : cstr path = []) :
    (ofPath path).toString inet = abstractPrefix ++ List.replicate path.length 0 := by
  rw [ofPath, toString_un, if_pos, take_fill_path h, sunName, hcut]
  · simp
  · rw [val_fill_path h, hcut]
    rfl

theorem toString_ofPath (inet : Inet) {path : Bytes} (h : path.length < 108)
    (hcut : cstr path ≠ []) : (ofPath path).toString inet = unixPrefix ++ sunName path := by
  rw [ofPath, toString_un, if_neg, take_fill_path h]
  rw [val_fill_path h, List.head?_append_of_ne_nil _ hcut]
  intro hhead
  exact CString.nul_not_mem_cstr path (List.mem_of_mem_head? hhead)

/-- The same address for the kernel and for the functions here. -/
structure Same (a b : SocketAddress) : Prop where
  family : a.storage.family = b.storage.family
  wildcard : a.isWildcard = b.isWildcard
  addrLen : a.addrLen = b.addrLen
  raw : a.getRaw = b.getRaw

theorem Same.refl (a : SocketAddress) : Same a a := ⟨rfl, rfl, rfl, rfl⟩

def printed (inet : Inet) (a : SocketAddress) : Bytes :=
  if a.isAnyInet then tcpPrefix ++ a.toString inet else a.toString inet

/-- Printed and parsed again an address is the same. -/
def RoundTrips (inet : Inet) (s : Bytes) (hint : UInt16) : Prop :=
  ∀ a, parse inet s hint = .ok a →
    ∀ hint', ∃ b, parse inet (printed inet a) hint' = .ok b ∧ Same b a

def IsAbstract (a : SocketAddress) : Prop :=
  ∃ path, a.storage = .un path ∧ offsetofSunPath < a.addrLen ∧ path.val.head? = some 0

def StaysPath (inet : Inet) (s : Bytes) (hint : UInt16) : Prop :=
  ∀ a, parse inet s hint = .ok a → unixPrefix <+: s → ¬ a.IsAbstract

def IsUnixString (s : Bytes) : Prop := unixPrefix <+: s ∨ abstractPrefix <+: s

/-- Different strings, of a path or an abstract name, have different addresses. -/
def NamesApart (inet : Inet) (s : Bytes) (hint : UInt16) (s' : Bytes) (hint' : UInt16) : Prop :=
  ∀ a a', parse inet s hint = .ok a → parse inet s' hint' = .ok a' →
    IsUnixString s → IsUnixString s' → s ≠ s' → a.getRaw ≠ a'.getRaw

/-- A path with a byte before its first NUL comes back longer. One without goes through an
abstract name, unless it has the full length, which is too long for that. -/
def Misprinted (s : Bytes) : Prop :=
  ∃ path, s = unixPrefix ++ path ∧ path.length < 108 ∧ (cstr path ≠ [] ∨ path.length = 107)

def TakenAbstract (s : Bytes) : Prop :=
  ∃ path, s = unixPrefix ++ path ∧ path.length < 108 ∧ cstr path = []

/-- Paths of one length that differ behind a NUL only, and a path without a byte before its
first NUL against the abstract name of as many zeros. -/
inductive Clash : Bytes → Bytes → Prop
  | paths {path path' : Bytes} (hne : path ≠ path') (hlen : path.length = path'.length)
      (hfits : path.length < 108) (hcut : cstr path = cstr path') :
      Clash (unixPrefix ++ path) (unixPrefix ++ path')
  | path {path : Bytes} (hfits : path.length < 107) (hcut : cstr path = []) :
      Clash (unixPrefix ++ path) (abstractPrefix ++ List.replicate path.length 0)
  | abstract {path : Bytes} (hfits : path.length < 107) (hcut : cstr path = []) :
      Clash (abstractPrefix ++ List.replicate path.length 0) (unixPrefix ++ path)

theorem printed_ofPath (inet : Inet) (path : Bytes) :
    printed inet (ofPath path) = (ofPath path).toString inet := rfl

theorem printed_ofAbstract (inet : Inet) (name : Bytes) :
    printed inet (ofAbstract name) = (ofAbstract name).toString inet := rfl

theorem printed_host {inet : Inet} {family : Family} {host : Bytes}
    {mk : UInt16 → SocketAddress} (h : Host inet family host mk) (port hint : UInt16) :
    parse inet (printed inet (mk port)) hint = .ok (mk port) := by
  have hport : PortSuffix hint (colon :: CString.decimal port.toNat) port :=
    .colon (.literal (CString.literal_decimal _))
  cases h with
  | any => exact (TcpString.inet .any hport).parses
  | @inet _ addr _ => exact (TcpString.inet (.inet (inet.pton4_ntop4 addr)) hport).parses
  | @inet6 _ addr _ => exact (TcpString.inet6 (.inet6 (inet.pton6_ntop6 addr)) hport).parses

theorem printed_abstract (inet : Inet) {name : Bytes} (h : name.length < 107) (hint : UInt16) :
    parse inet (printed inet (ofAbstract name)) hint = .ok (ofAbstract name) := by
  rw [printed_ofAbstract, toString_ofAbstract inet h, parse_abstract, if_pos h]

theorem ofAbstract_zeros {path : Bytes} (h : path.length < 107) (hcut : cstr path = []) :
    ofAbstract (List.replicate path.length 0) = ofPath path := by
  have hsame : Octets.fill 108 (0 :: List.replicate path.length 0 ++ [0]) = Octets.fill 108 [] := by
    apply Subtype.ext
    rw [val_fill_abstract (by simpa using h), Octets.val_fill (by simp), ← List.replicate_succ,
      List.replicate_append_replicate, List.length_replicate, List.nil_append]
    congr 1
    simp only [List.length_nil]
    omega
  rw [ofAbstract, ofPath, hsame, hcut, List.length_replicate]

theorem roundTrips_ofPath_nul {inet : Inet} {path : Bytes} (h : path.length < 107)
    (hcut : cstr path = []) (hint : UInt16) :
    parse inet (printed inet (ofPath path)) hint = .ok (ofPath path) := by
  rw [printed_ofPath, toString_ofPath_nul inet (by omega) hcut, parse_abstract,
    List.length_replicate, if_pos h, ofAbstract_zeros h hcut]

theorem not_same_of_misprinted {inet : Inet} {path : Bytes} (h : path.length < 108)
    (hbad : cstr path ≠ [] ∨ path.length = 107) {hint : UInt16} {b : SocketAddress}
    (hb : parse inet (printed inet (ofPath path)) hint = .ok b) :
    b.addrLen = (ofPath path).addrLen + 1 := by
  rw [printed_ofPath] at hb
  by_cases hcut : cstr path = []
  · rw [toString_ofPath_nul inet h hcut, parse_abstract, List.length_replicate] at hb
    have hfull := hbad.resolve_left (not_not.mpr hcut)
    rw [if_neg (by omega)] at hb
    cases hb
  · rw [toString_ofPath inet h hcut, parse_unix, length_sunName] at hb
    split_ifs at hb with hfits
    cases hb
    simp only [ofPath, length_sunName]
    omega

theorem roundTrips_iff (inet : Inet) (s : Bytes) (hint : UInt16) :
    RoundTrips inet s hint ↔ ¬ Misprinted s := by
  constructor
  · rintro hround ⟨path, rfl, hlen, hbad⟩
    obtain ⟨b, hb, hsame⟩ := hround (ofPath path) (by rw [parse_unix, if_pos hlen]) hint
    have hlonger := not_same_of_misprinted hlen hbad hb
    have := hsame.addrLen
    omega
  · intro hgood a ha hint'
    refine ⟨a, ?_, .refl a⟩
    obtain ⟨path, rfl, hlen, rfl⟩ | ⟨name, rfl, hlen, rfl⟩ |
      ⟨t, family, host, mk, port, rfl, hhost, rfl⟩ := parse_cases ha
    · have hcut : cstr path = [] := by
        by_contra hne
        exact hgood ⟨path, rfl, hlen, .inl hne⟩
      have hfull : path.length ≠ 107 := fun heq => hgood ⟨path, rfl, hlen, .inr heq⟩
      exact roundTrips_ofPath_nul (by omega) hcut hint'
    · exact printed_abstract inet hlen hint'
    · exact printed_host hhost port hint'

theorem staysPath_iff (inet : Inet) (s : Bytes) (hint : UInt16) :
    StaysPath inet s hint ↔ ¬ TakenAbstract s := by
  constructor
  · rintro hstays ⟨path, rfl, hlen, hcut⟩
    refine hstays (ofPath path) (by rw [parse_unix, if_pos hlen]) (List.prefix_append _ _)
      ⟨_, rfl, ?_, ?_⟩
    · simp only [ofPath]
      omega
    · rw [val_fill_path hlen, hcut]
      rfl
  · rintro hgood a ha ⟨path, rfl⟩ ⟨sunPath, hstorage, -, hnul⟩
    rw [parse_unix] at ha
    split_ifs at ha with hlen
    cases ha
    cases hstorage
    refine hgood ⟨path, rfl, hlen, ?_⟩
    by_contra hcut
    rw [val_fill_path hlen, List.head?_append_of_ne_nil _ hcut] at hnul
    exact CString.nul_not_mem_cstr path (List.mem_of_mem_head? hnul)

theorem sunName_inj {path path' : Bytes} :
    sunName path = sunName path' ↔ path.length = path'.length ∧ cstr path = cstr path' := by
  constructor
  · intro h
    have hlen := congrArg List.length h
    have hcut := congrArg cstr h
    rw [length_sunName, length_sunName] at hlen
    rw [cstr_sunName, cstr_sunName] at hcut
    exact ⟨Nat.succ.inj hlen, hcut⟩
  · rintro ⟨hlen, hcut⟩
    rw [sunName, sunName, hlen, hcut]

theorem sunName_eq_nul {path name : Bytes} :
    sunName path = 0 :: name ↔ cstr path = [] ∧ name = List.replicate path.length 0 := by
  constructor
  · intro h
    have hcut : cstr path = [] := by
      rw [← cstr_sunName, h]
      rfl
    refine ⟨hcut, ?_⟩
    rw [sunName, hcut, List.nil_append, List.length_nil, Nat.sub_zero, List.replicate_succ] at h
    exact (List.cons_eq_cons.mp h).2.symm
  · rintro ⟨hcut, rfl⟩
    rw [sunName, hcut, List.nil_append, List.length_nil, Nat.sub_zero, List.replicate_succ]

theorem ne_of_afterPrefix {pre s : Bytes} (h : afterPrefix pre s = none) (rest : Bytes) :
    s ≠ pre ++ rest := fun heq => by
  rw [afterPrefix_eq_some.mpr heq] at h
  cases h

theorem unix_ne_abstract (path name : Bytes) : unixPrefix ++ path ≠ abstractPrefix ++ name :=
  ne_of_afterPrefix rfl name

/-- What a string of a path or an abstract name is parsed to. -/
theorem unix_cases {inet : Inet} {s : Bytes} {hint : UInt16} {a : SocketAddress}
    (h : parse inet s hint = .ok a) (hs : IsUnixString s) :
    (∃ path, s = unixPrefix ++ path ∧ path.length < 108 ∧ a.getRaw = 1 :: 0 :: sunName path) ∨
      ∃ name, s = abstractPrefix ++ name ∧ name.length < 107 ∧ a.getRaw = 1 :: 0 :: 0 :: name := by
  obtain ⟨path, rfl, hlen, rfl⟩ | ⟨name, rfl, hlen, rfl⟩ | ⟨t, _, _, _, _, rfl, _, _⟩ :=
    parse_cases h
  · exact .inl ⟨path, rfl, hlen, getRaw_ofPath hlen⟩
  · exact .inr ⟨name, rfl, hlen, getRaw_ofAbstract hlen⟩
  · obtain ⟨rest, hrest⟩ | ⟨rest, hrest⟩ := hs
    · exact absurd hrest.symm (ne_of_afterPrefix rfl rest)
    · exact absurd hrest.symm (ne_of_afterPrefix rfl rest)

theorem Clash.raw {s s' : Bytes} (h : Clash s s') (inet : Inet) (hint hint' : UInt16) :
    ∃ a a', parse inet s hint = .ok a ∧ parse inet s' hint' = .ok a' ∧ a.getRaw = a'.getRaw := by
  cases h with
  | @paths path path' _ hlen hfits hcut =>
    refine ⟨ofPath path, ofPath path', ?_, ?_, ?_⟩
    · rw [parse_unix, if_pos hfits]
    · rw [parse_unix, if_pos (hlen ▸ hfits)]
    · rw [getRaw_ofPath hfits, getRaw_ofPath (hlen ▸ hfits), sunName_inj.mpr ⟨hlen, hcut⟩]
  | @path path hfits hcut =>
    refine ⟨ofPath path, ofAbstract (List.replicate path.length 0), ?_, ?_, ?_⟩
    · rw [parse_unix, if_pos (by omega)]
    · rw [parse_abstract, List.length_replicate, if_pos hfits]
    · rw [ofAbstract_zeros hfits hcut]
  | @abstract path hfits hcut =>
    refine ⟨ofAbstract (List.replicate path.length 0), ofPath path, ?_, ?_, ?_⟩
    · rw [parse_abstract, List.length_replicate, if_pos hfits]
    · rw [parse_unix, if_pos (by omega)]
    · rw [ofAbstract_zeros hfits hcut]

theorem Clash.strings {s s' : Bytes} (h : Clash s s') :
    IsUnixString s ∧ IsUnixString s' ∧ s ≠ s' := by
  cases h with
  | paths hne _ _ _ =>
    exact ⟨.inl (List.prefix_append _ _), .inl (List.prefix_append _ _),
      fun heq => hne (List.append_cancel_left heq)⟩
  | path _ _ =>
    exact ⟨.inl (List.prefix_append _ _), .inr (List.prefix_append _ _), unix_ne_abstract _ _⟩
  | abstract _ _ =>
    exact ⟨.inr (List.prefix_append _ _), .inl (List.prefix_append _ _),
      (unix_ne_abstract _ _).symm⟩

theorem namesApart_iff (inet : Inet) (s : Bytes) (hint : UInt16) (s' : Bytes) (hint' : UInt16) :
    NamesApart inet s hint s' hint' ↔ ¬ Clash s s' := by
  constructor
  · intro hapart hclash
    obtain ⟨a, a', ha, ha', hraw⟩ := hclash.raw inet hint hint'
    obtain ⟨hs, hs', hne⟩ := hclash.strings
    exact hapart a a' ha ha' hs hs' hne hraw
  · intro hclash a a' ha ha' hs hs' hne hraw
    refine hclash ?_
    obtain ⟨path, rfl, hlen, hr⟩ | ⟨name, rfl, hlen, hr⟩ := unix_cases ha hs <;>
      obtain ⟨path', rfl, hlen', hr'⟩ | ⟨name', rfl, hlen', hr'⟩ := unix_cases ha' hs' <;>
      rw [hr, hr', List.cons.injEq, List.cons.injEq] at hraw
    · obtain ⟨hsame, hcut⟩ := sunName_inj.mp hraw.2.2
      exact .paths (fun heq => hne (heq ▸ rfl)) hsame hlen hcut
    · obtain ⟨hcut, rfl⟩ := sunName_eq_nul.mp hraw.2.2
      exact .path (by simpa using hlen') hcut
    · obtain ⟨hcut, rfl⟩ := sunName_eq_nul.mp hraw.2.2.symm
      exact .abstract (by simpa using hlen) hcut
    · have hname := (List.cons.inj hraw.2.2).2
      exact absurd (hname ▸ rfl) hne

/-- What is printed is the address that was parsed, and names stay what they are. -/
structure PrintsFaithfully (inet : Inet) (s : Bytes) (hint : UInt16) (s' : Bytes)
    (hint' : UInt16) : Prop where
  roundTrips : RoundTrips inet s hint
  staysPath : StaysPath inet s hint
  namesApart : NamesApart inet s hint s' hint'

theorem printsFaithfully_iff (inet : Inet) (s : Bytes) (hint : UInt16) (s' : Bytes)
    (hint' : UInt16) :
    PrintsFaithfully inet s hint s' hint' ↔
      ¬ Misprinted s ∧ ¬ TakenAbstract s ∧ ¬ Clash s s' := by
  rw [← roundTrips_iff inet s hint, ← staysPath_iff inet s hint,
    ← namesApart_iff inet s hint s' hint']
  exact ⟨fun h => ⟨h.roundTrips, h.staysPath, h.namesApart⟩, fun ⟨hr, hp, hn⟩ => ⟨hr, hp, hn⟩⟩

/-- A path that comes back longer, one that becomes abstract, and two that are the same. -/
theorem paths_unfaithful :
    ¬ PrintsFaithfully plainInet (unixPrefix ++ [97]) 0 (unixPrefix ++ [97]) 0 ∧
      ¬ StaysPath plainInet unixPrefix 0 ∧
      ¬ NamesApart plainInet (unixPrefix ++ [97, 0, 98]) 0 (unixPrefix ++ [97, 0, 99]) 0 := by
  refine ⟨fun h => ?_, fun h => ?_, fun h => ?_⟩
  · exact (roundTrips_iff _ _ _).mp h.roundTrips ⟨[97], rfl, by decide, .inl (by decide)⟩
  · exact (staysPath_iff _ _ _).mp h ⟨[], rfl, by decide, rfl⟩
  · exact (namesApart_iff _ _ _ _ _).mp h (.paths (by decide) rfl (by decide) rfl)

end Ocvsmd.Io.SocketAddress
