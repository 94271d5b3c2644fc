import Ocvsmd.InetText
import Ocvsmd.StringView

set_option autoImplicit false

namespace Ocvsmd.Io.SocketAddress

open CString (Bytes cstr strtoull Literal Sign)

/-- Where the host and the port part are in a string. -/
inductive Layout : Bytes → Family → Bytes → Bytes → Prop
  | plain {host : Bytes} (hopen : host.head? ≠ some openBracket) (hcolon : colon ∉ host) :
      Layout host .inet host []
  | plainPort {host port : Bytes} (hopen : host.head? ≠ some openBracket) (hcolon : colon ∉ host)
      (hport : colon ∉ port) : Layout (host ++ colon :: port) .inet host port
  | bare {s : Bytes} (hopen : s.head? ≠ some openBracket) (htwo : 2 ≤ s.count colon) :
      Layout s .inet6 s []
  | bracket {host : Bytes} : Layout (openBracket :: host ++ [closeBracket]) .inet6 host []
  | bracketPort {host port : Bytes} (hclose : closeBracket ∉ port) :
      Layout (openBracket :: host ++ closeBracket :: colon :: port) .inet6 host port

theorem findFirstOf_append {pre seg : Bytes} {c : UInt8} (h : c ∉ seg) (rest : Bytes) :
    findFirstOf (pre ++ (seg ++ c :: rest)) c pre.length = some (pre.length + seg.length) := by
  rw [findFirstOf, List.drop_left, StringView.findIdx?_append_cons h, Option.map_some]

theorem findIdx?_eq_none {s : Bytes} {c : UInt8} (h : c ∉ s) : s.findIdx? (· = c) = none := by
  rw [List.findIdx?_eq_none_iff]
  intro a ha
  exact decide_eq_false fun heq => h (heq ▸ ha)

theorem findFirstOf_eq_none {pre rest : Bytes} {c : UInt8} (h : c ∉ rest) :
    findFirstOf (pre ++ rest) c pre.length = none := by
  rw [findFirstOf, List.drop_left, findIdx?_eq_none h, Option.map_none]

theorem findLastOf_append {pre rest : Bytes} {c : UInt8} (h : c ∉ rest) :
    findLastOf (pre ++ c :: rest) c = some pre.length := by
  have hrev : (pre ++ c :: rest).reverse = rest.reverse ++ c :: pre.reverse := by simp
  rw [findLastOf, hrev, StringView.findIdx?_append_cons (by simpa using h), Option.map_some]
  simp only [List.length_append, List.length_cons, List.length_reverse, Option.some.injEq]
  omega

theorem findFirstOf_zero {s : Bytes} {c : UInt8} :
    findFirstOf s c 0 = some 0 ↔ s.head? = some c := by
  cases s with
  | nil => simp [findFirstOf]
  | cons a s => by_cases h : a = c <;> simp [findFirstOf, List.findIdx?_cons, h]

theorem eq_append_last_of_mem {s : Bytes} {c : UInt8} (h : c ∈ s) :
    ∃ pre rest, s = pre ++ c :: rest ∧ c ∉ rest := by
  obtain ⟨rest, pre, hs, hrest⟩ := List.eq_append_cons_of_mem (List.mem_reverse.mpr h)
  refine ⟨pre.reverse, rest.reverse, ?_, by simpa using hrest⟩
  rw [← List.reverse_reverse s, hs]
  simp

theorem splitHostAndPort_bracket {host rest : Bytes} (h : closeBracket ∉ rest) :
    splitHostAndPort (openBracket :: host ++ closeBracket :: rest) =
      if rest = [] then some (.inet6, host, [])
      else if rest.head? = some colon then some (.inet6, host, rest.drop 1)
      else none := by
  have hopen : findFirstOf (openBracket :: host ++ closeBracket :: rest) openBracket 0 =
      some 0 := findFirstOf_zero.mpr rfl
  have hhost : ((openBracket :: host ++ closeBracket :: rest).drop 1).take
      ((openBracket :: host).length - 1) = host := by simp
  have hnext : (openBracket :: host ++ closeBracket :: rest)[(openBracket :: host).length + 1]? =
      rest.head? := by
    rw [List.getElem?_append_right (by omega), List.head?_eq_getElem?]
    simp
  have hport : (openBracket :: host ++ closeBracket :: rest).drop
      ((openBracket :: host).length + 2) = rest.drop 1 := by
    rw [List.drop_append]
    simp
  have hlen : (openBracket :: host).length + 1 <
      (openBracket :: host ++ closeBracket :: rest).length ↔ ¬ rest = [] := by
    rw [← List.length_eq_zero_iff]
    simp only [List.length_append, List.length_cons]
    omega
  rw [splitHostAndPort, if_pos hopen, findLastOf_append h, Option.bind_some, hhost, hnext, hport]
  simp only [hlen]
  by_cases hrest : rest = [] <;> simp [hrest]

theorem splitHostAndPort_colon {host rest : Bytes} (hopen : host.head? ≠ some openBracket)
    (hcolon : colon ∉ host) :
    splitHostAndPort (host ++ colon :: rest) =
      if colon ∈ rest then some (.inet6, host ++ colon :: rest, [])
      else some (.inet, host, rest) := by
  have hhead : (host ++ colon :: rest).head? ≠ some openBracket := by
    cases host with
    | nil => exact fun h => absurd (Option.some.inj h) (by decide)
    | cons c host => exact hopen
  have hfirst : findFirstOf (host ++ colon :: rest) colon 0 = some host.length := by
    simpa using @findFirstOf_append [] _ _ hcolon rest
  have hbehind : (host ++ [colon]).length = host.length + 1 := by simp
  rw [splitHostAndPort, if_neg (findFirstOf_zero.not.mpr hhead), hfirst]
  dsimp only
  by_cases hmem : colon ∈ rest
  · obtain ⟨seg, tail, rfl, hseg⟩ := List.eq_append_cons_of_mem hmem
    have hsecond := @findFirstOf_append (host ++ [colon]) _ _ hseg tail
    rw [hbehind, List.append_assoc, List.singleton_append] at hsecond
    rw [if_pos hmem, if_pos (by rw [hsecond]; rfl)]
  · have hnone := @findFirstOf_eq_none (host ++ [colon]) _ _ hmem
    rw [hbehind, List.append_assoc, List.singleton_append] at hnone
    rw [if_neg hmem, if_neg (by rw [hnone]; decide), List.take_left, List.drop_append]
    simp

theorem splitHostAndPort_plain {host : Bytes} (hopen : host.head? ≠ some openBracket)
    (hcolon : colon ∉ host) : splitHostAndPort host = some (.inet, host, []) := by
  have hnone : findFirstOf host colon 0 = none := @findFirstOf_eq_none [] _ _ hcolon
  rw [splitHostAndPort, if_neg (findFirstOf_zero.not.mpr hopen), hnone]

theorem Layout.of_no_bracket {s : Bytes} (hopen : s.head? ≠ some openBracket) :
    colon ∉ s ∨ ∃ host rest, s = host ++ colon :: rest ∧ colon ∉ host ∧
      host.head? ≠ some openBracket := by
  by_cases hcolon : colon ∈ s
  · obtain ⟨host, rest, rfl, hhost⟩ := List.eq_append_cons_of_mem hcolon
    refine .inr ⟨host, rest, rfl, hhost, ?_⟩
    cases host with
    | nil => decide
    | cons c host => exact hopen
  · exact .inl hcolon

theorem two_le_count {host rest : Bytes} (hcolon : colon ∉ host) :
    2 ≤ (host ++ colon :: rest).count colon ↔ colon ∈ rest := by
  rw [List.count_append, List.count_eq_zero_of_not_mem hcolon, List.count_cons_self,
    ← List.count_pos_iff]
  omega

theorem Layout.splits {s host part : Bytes} {family : Family} (h : Layout s family host part) :
    splitHostAndPort s = some (family, host, part) := by
  cases h with
  | plain hopen hcolon => exact splitHostAndPort_plain hopen hcolon
  | plainPort hopen hcolon hport => rw [splitHostAndPort_colon hopen hcolon, if_neg hport]
  | bare hopen htwo =>
    obtain hnone | ⟨host, rest, rfl, hcolon, hhost⟩ := Layout.of_no_bracket hopen
    · rw [List.count_eq_zero_of_not_mem hnone] at htwo
      omega
    · rw [splitHostAndPort_colon hhost hcolon, if_pos ((two_le_count hcolon).mp htwo)]
  | bracket => rw [splitHostAndPort_bracket List.not_mem_nil, if_pos rfl]
  | bracketPort hclose =>
    have hrest : closeBracket ∉ colon :: part :=
      List.not_mem_cons_of_ne_of_not_mem (by decide) hclose
    rw [splitHostAndPort_bracket hrest, if_neg (List.cons_ne_nil _ _), if_pos List.head?_cons]
    rfl

theorem layout_of_splits {s host part : Bytes} {family : Family}
    (h : splitHostAndPort s = some (family, host, part)) : Layout s family host part := by
  by_cases hopen : s.head? = some openBracket
  · obtain ⟨s, rfl⟩ : ∃ t, s = openBracket :: t := by
      cases s with
      | nil => simp at hopen
      | cons c t => exact ⟨t, by rw [Option.some.inj hopen]⟩
    by_cases hclose : closeBracket ∈ openBracket :: s
    · have hmem : closeBracket ∈ s := by
        obtain heq | hmem := List.mem_cons.mp hclose
        · exact absurd heq (by decide)
        · exact hmem
      obtain ⟨inner, rest, rfl, hrest⟩ := eq_append_last_of_mem hmem
      rw [← List.cons_append, splitHostAndPort_bracket hrest] at h
      rw [← List.cons_append]
      split_ifs at h with hnil hnext
      · cases h
        subst hnil
        exact .bracket
      · cases h
        obtain ⟨port, rfl⟩ : ∃ port, rest = colon :: port := by
          cases rest with
          | nil => exact absurd rfl hnil
          | cons c port => exact ⟨port, by rw [Option.some.inj hnext]⟩
        exact .bracketPort (List.ne_and_not_mem_of_not_mem_cons hrest).2
    · -- no closing bracket
      have hlast : findLastOf (openBracket :: s) closeBracket = none := by
        rw [findLastOf, findIdx?_eq_none (List.mem_reverse.not.mpr hclose), Option.map_none]
      rw [splitHostAndPort, if_pos (findFirstOf_zero.mpr hopen), hlast] at h
      exact absurd h (by simp)
  · obtain hnone | ⟨before, rest, rfl, hcolon, hhost⟩ := Layout.of_no_bracket hopen
    · rw [splitHostAndPort_plain hopen hnone] at h
      cases h
      exact .plain hopen hnone
    · rw [splitHostAndPort_colon hhost hcolon] at h
      split_ifs at h with hmem
      · cases h
        exact .bare hopen ((two_le_count hcolon).mpr hmem)
      · cases h
        exact .plainPort hhost hcolon hmem

inductive PortPart (portHint : UInt16) : Bytes → UInt16 → Prop
  | hint : PortPart portHint [] portHint
  | literal {t : Bytes} {port : UInt16} (h : Literal t port.toNat) : PortPart portHint t port

/-- What else `strtoull` gets to the end of with a value that is small enough: white space or a
sign before a literal, a NUL with anything behind it. A minus goes around 2^64. -/
inductive LaxPort : Bytes → Prop
  | nul {junk : Bytes} : LaxPort (0 :: junk)
  | lax {ws lit tail : Bytes} {sg : Sign} {n : Nat} (hws : ∀ c ∈ ws, CString.isSpace c = true)
      (hlit : Literal lit n) (htail : tail = [] ∨ ∃ junk, tail = 0 :: junk)
      (hvalue : sg.apply n ≤ 65535) (hlax : ws ≠ [] ∨ sg ≠ .none ∨ tail ≠ []) :
      LaxPort (ws ++ sg.text ++ lit ++ tail)

theorem parsePort_eq_some {part : Bytes} {hint port : UInt16} (hne : part ≠ []) :
    parsePort part hint = some port ↔
      ∃ v, strtoull (cstr part) = (v, []) ∧ v ≤ 65535 ∧ v.toUInt16 = port := by
  rw [parsePort, if_neg (by simpa using hne)]
  obtain ⟨v, rest⟩ := strtoull (cstr part)
  simp only [Prod.mk.injEq]
  split_ifs with hrest hlarge
  · simp [hrest]
  · constructor
    · intro h
      cases h
    · rintro ⟨w, ⟨rfl, -⟩, hle, -⟩
      exact absurd hle (UInt64.not_le.mpr hlarge)
  · simp [not_not.mp hrest, UInt64.not_lt.mp hlarge]

theorem PortPart.parses {part : Bytes} {hint port : UInt16} (h : PortPart hint part port) :
    parsePort part hint = some port := by
  cases h with
  | hint => rfl
  | literal h =>
    obtain ⟨c, rest, hs, -⟩ := h.starts
    have hne : part ≠ [] := by simp [hs]
    have hcstr : cstr part = part := CString.cstr_of_no_nul (h.not_mem rfl rfl)
    have hscan : strtoull part = (Sign.none.apply port.toNat, []) :=
      CString.strtoull_iff.mpr (.inr ⟨[], .none, part, _, rfl, by simp, h, rfl⟩)
    have hval : (Sign.none.apply port.toNat).toNat = port.toNat :=
      CString.toNat_apply_none (by have := port.toNat_lt; omega)
    rw [parsePort_eq_some hne, hcstr]
    refine ⟨_, hscan, ?_, ?_⟩
    · rw [UInt64.le_iff_toNat_le, hval]
      exact Nat.le_of_lt_succ port.toNat_lt
    · rw [← UInt16.toNat_inj, UInt64.toNat_toUInt16, hval]
      exact Nat.mod_eq_of_lt port.toNat_lt

theorem LaxPort.parses {part : Bytes} (h : LaxPort part) (hint : UInt16) :
    ∃ port, parsePort part hint = some port := by
  cases h with
  | nul => exact ⟨0, (parsePort_eq_some (List.cons_ne_nil _ _)).mpr ⟨0, rfl, by decide, rfl⟩⟩
  | @lax ws lit tail sg n hws hlit htail hvalue hlax =>
    obtain ⟨c, rest, hs, -⟩ := hlit.starts
    have hne : ws ++ sg.text ++ lit ++ tail ≠ [] := by simp [hs]
    have hnul : (0 : UInt8) ∉ ws ++ sg.text ++ lit := by
      rw [List.mem_append, List.mem_append]
      rintro ((hmem | hmem) | hmem)
      · exact absurd (hws 0 hmem) (by decide)
      · cases sg <;> exact absurd hmem (by decide)
      · exact hlit.not_mem rfl rfl hmem
    have hcstr : cstr (ws ++ sg.text ++ lit ++ tail) = ws ++ sg.text ++ lit := by
      obtain rfl | ⟨junk, rfl⟩ := htail
      · rw [List.append_nil, CString.cstr_of_no_nul hnul]
      · exact CString.cstr_append_nul hnul junk
    refine ⟨_, (parsePort_eq_some hne).mpr ⟨sg.apply n, ?_, hvalue, rfl⟩⟩
    rw [hcstr]
    exact CString.strtoull_iff.mpr (.inr ⟨ws, sg, lit, n, rfl, hws, hlit, rfl⟩)

theorem portPart_or_lax {part : Bytes} {hint port : UInt16}
    (h : parsePort part hint = some port) : PortPart hint part port ∨ LaxPort part := by
  by_cases hne : part = []
  · subst hne
    cases h
    exact .inl .hint
  · obtain ⟨v, hscan, hle, rfl⟩ := (parsePort_eq_some hne).mp h
    obtain ⟨tail, hpart, htail⟩ : ∃ tail, part = cstr part ++ tail ∧
        (tail = [] ∨ ∃ junk, tail = 0 :: junk) := by
      obtain heq | ⟨junk, heq⟩ := CString.cstr_cases part
      · exact ⟨[], by rw [List.append_nil, ← heq], .inl rfl⟩
      · exact ⟨_, heq, .inr ⟨junk, rfl⟩⟩
    obtain ⟨hnil, -⟩ | ⟨ws, sg, lit, n, hs, hws, hlit, rfl⟩ := CString.strtoull_iff.mp hscan
    · rw [hnil, List.nil_append] at hpart
      obtain rfl | ⟨junk, rfl⟩ := htail
      · exact absurd hpart hne
      · rw [hpart]
        exact .inr .nul
    · rw [hs] at hpart
      by_cases hstrict : ws = [] ∧ sg = .none ∧ tail = []
      · obtain ⟨rfl, rfl, rfl⟩ := hstrict
        simp only [Sign.text, List.nil_append, List.append_nil] at hpart
        have hn : n < 2 ^ 64 := by
          by_contra hge
          rw [Sign.apply, if_neg hge] at hle
          exact absurd hle (by decide)
        have hval := CString.toNat_apply_none hn
        rw [UInt64.le_iff_toNat_le, hval] at hle
        have hmod : n % 2 ^ 16 = n := Nat.mod_eq_of_lt (Nat.lt_succ_of_le hle)
        refine .inl (.literal ?_)
        rw [UInt64.toNat_toUInt16, hval, hmod, hpart]
        exact hlit
      · rw [hpart]
        refine .inr (.lax hws hlit htail hle ?_)
        tauto

theorem parsePort_of_portPart_or_lax {part : Bytes}
    (h : (∃ hint port, PortPart hint part port) ∨ LaxPort part) (hint : UInt16) :
    ∃ port, parsePort part hint = some port := by
  obtain ⟨_, _, hport⟩ | hlax := h
  · cases hport with
    | hint => exact ⟨hint, rfl⟩
    | literal h => exact ⟨_, (PortPart.literal h).parses⟩
  · exact hlax.parses hint

theorem LaxPort.not_portPart {part : Bytes} (h : LaxPort part) {hint port : UInt16} :
    ¬ PortPart hint part port := by
  intro hp
  cases h with
  | nul =>
    cases hp with
    | literal hlit => exact hlit.not_mem rfl rfl List.mem_cons_self
  | @lax ws lit tail sg n hws hlit htail hvalue hlax =>
    obtain ⟨c, rest, hs, -⟩ := hlit.starts
    generalize hpart : ws ++ sg.text ++ lit ++ tail = part at hp
    cases hp with
    | hint => simp [hs] at hpart
    | literal h =>
      subst hpart
      obtain rfl | ⟨junk, rfl⟩ := htail
      · rw [List.append_nil] at h
        obtain ⟨hws, hsg⟩ := h.eq_of_append hws
        simp [hws, hsg] at hlax
      · exact h.not_mem rfl rfl (List.mem_append_right _ List.mem_cons_self)

def wildcard (port : UInt16) : SocketAddress :=
  { isWildcard := true, addrLen := sizeofInet6, storage := .inet6 port (.fill 16 []) }

def ofInet (addr : Octets 4) (port : UInt16) : SocketAddress :=
  { addrLen := sizeofInet, storage := .inet port addr }

def ofInet6 (addr : Octets 16) (port : UInt16) : SocketAddress :=
  { addrLen := sizeofInet6, storage := .inet6 port addr }

inductive Host (inet : Inet) : Family → Bytes → (UInt16 → SocketAddress) → Prop
  | any {family : Family} : Host inet family [star] wildcard
  | inet {t : Bytes} {addr : Octets 4} (h : inet.pton4 t = some addr) :
      Host inet .inet t (ofInet addr)
  | inet6 {t : Bytes} {addr : Octets 16} (h : inet.pton6 t = some addr) :
      Host inet .inet6 t (ofInet6 addr)

/-- An address that is cut off at a NUL. The star is compared as a whole. -/
inductive CutHost (inet : Inet) : Family → Bytes → (UInt16 → SocketAddress) → Prop
  | cut {family : Family} {t junk : Bytes} {mk : UInt16 → SocketAddress}
      (h : Host inet family t mk) (hstar : t ≠ [star]) : CutHost inet family (t ++ 0 :: junk) mk

section Hosts

variable {inet : Inet} {family : Family} {host : Bytes} {mk : UInt16 → SocketAddress}

theorem Host.chars (h : Host inet family host mk) : ∀ c ∈ host,
    (c = star ∨ c = 46 ∨ CString.isDigit 16 c = true) ∨ (family = .inet6 ∧ c = colon) := by
  cases h with
  | any => exact fun c hc => .inl (.inl (List.mem_singleton.mp hc))
  | inet h =>
    intro c hc
    obtain hdot | hdigit := inet.pton4_chars h c hc
    · exact .inl (.inr (.inl hdot))
    · exact .inl (.inr (.inr (CString.isDigit_mono (by decide) hdigit)))
  | inet6 h =>
    intro c hc
    obtain hcolon | hrest := inet.pton6_chars h c hc
    · exact .inr ⟨rfl, hcolon⟩
    · exact .inl (.inr hrest)

theorem Host.no_nul (h : Host inet family host mk) : 0 ∉ host := fun hc => by
  simpa [star, colon, CString.isDigit, CString.digitVal] using h.chars 0 hc

theorem Host.no_openBracket (h : Host inet family host mk) : openBracket ∉ host := fun hc => by
  simpa [openBracket, star, colon, CString.isDigit, CString.digitVal] using h.chars _ hc

theorem Host.no_colon (h : Host inet .inet host mk) : colon ∉ host := fun hc => by
  simpa [star, colon, CString.isDigit, CString.digitVal] using h.chars _ hc

theorem Host.head (h : Host inet family host mk) : host.head? ≠ some openBracket :=
  fun hc => h.no_openBracket (List.mem_of_mem_head? hc)

theorem pton4_star : inet.pton4 [star] = none :=
  Option.eq_none_iff_forall_not_mem.mpr fun _ h =>
    absurd (inet.pton4_chars h star List.mem_cons_self) (by decide)

theorem pton6_star : inet.pton6 [star] = none :=
  Option.eq_none_iff_forall_not_mem.mpr fun _ h =>
    absurd (inet.pton6_chars h star List.mem_cons_self) (by decide)

theorem Host.resolves (h : Host inet family host mk) (port : UInt16) :
    resolveHost inet family host port = .ok (mk port) := by
  have hcstr : cstr host = host := CString.cstr_of_no_nul h.no_nul
  cases h with
  | any => rfl
  | inet h =>
    have hstar : host ≠ [star] := by
      rintro rfl
      rw [pton4_star] at h
      cases h
    rw [resolveHost, tryParseAsWildcard, if_pos hstar, hcstr, h]
    rfl
  | inet6 h =>
    have hstar : host ≠ [star] := by
      rintro rfl
      rw [pton6_star] at h
      cases h
    rw [resolveHost, tryParseAsWildcard, if_pos hstar, hcstr, h]
    rfl

theorem CutHost.resolves (h : CutHost inet family host mk) (port : UInt16) :
    resolveHost inet family host port = .ok (mk port) := by
  cases h with | @cut t junk _ h hstar => ?_
  have hcut : t ++ 0 :: junk ≠ [star] := fun heq => by
    have hmem : (0 : UInt8) ∈ t ++ 0 :: junk := List.mem_append_right _ List.mem_cons_self
    rw [heq] at hmem
    exact absurd hmem (by decide)
  have hsame : resolveHost inet family (t ++ 0 :: junk) port = resolveHost inet family t port := by
    unfold resolveHost tryParseAsWildcard
    rw [if_pos hcut, if_pos hstar, CString.cstr_append_nul h.no_nul,
      CString.cstr_of_no_nul h.no_nul]
  rw [hsame, h.resolves]

theorem Host.of_cstr (h : Host inet family (cstr host) mk) (hstar : cstr host ≠ [star]) :
    Host inet family host mk ∨ CutHost inet family host mk := by
  obtain heq | ⟨junk, heq⟩ := CString.cstr_cases host
  · exact .inl (heq ▸ h)
  · rw [heq]
    exact .inr (.cut h hstar)

theorem host_of_resolves {port : UInt16} {a : SocketAddress}
    (h : resolveHost inet family host port = .ok a) :
    ∃ mk, (Host inet family host mk ∨ CutHost inet family host mk) ∧ a = mk port := by
  by_cases hstar : host = [star]
  · subst hstar
    cases h
    exact ⟨wildcard, .inl .any, rfl⟩
  · unfold resolveHost tryParseAsWildcard at h
    rw [if_pos hstar] at h
    cases family with
    | inet =>
      cases hpton : inet.pton4 (cstr host) with
      | none => simp [hpton] at h
      | some addr =>
        simp only [hpton, Except.ok.injEq] at h
        refine ⟨ofInet addr, (Host.inet hpton).of_cstr fun heq => ?_, h.symm⟩
        rw [heq, pton4_star] at hpton
        cases hpton
    | inet6 =>
      cases hpton : inet.pton6 (cstr host) with
      | none => simp [hpton] at h
      | some addr =>
        simp only [hpton, Except.ok.injEq] at h
        refine ⟨ofInet6 addr, (Host.inet6 hpton).of_cstr fun heq => ?_, h.symm⟩
        rw [heq, pton6_star] at hpton
        cases hpton

theorem CutHost.not_host (h : CutHost inet family host mk) {mk' : UInt16 → SocketAddress} :
    ¬ Host inet family host mk' := by
  intro h'
  cases h with
  | cut _ _ => exact h'.no_nul (List.mem_append_right _ List.mem_cons_self)

end Hosts

inductive PortSuffix (portHint : UInt16) : Bytes → UInt16 → Prop
  | none : PortSuffix portHint [] portHint
  | colon {t : Bytes} {port : UInt16} (h : PortPart portHint t port) :
      PortSuffix portHint (colon :: t) port

/-- The grammar of what stands behind `tcp://`, and the address of each string. -/
inductive TcpString (inet : Inet) (portHint : UInt16) : Bytes → SocketAddress → Prop
  | inet {t suffix : Bytes} {mk : UInt16 → SocketAddress} {port : UInt16}
      (hhost : Host inet .inet t mk) (hport : PortSuffix portHint suffix port) :
      TcpString inet portHint (t ++ suffix) (mk port)
  | inet6 {t suffix : Bytes} {mk : UInt16 → SocketAddress} {port : UInt16}
      (hhost : Host inet .inet6 t mk) (hport : PortSuffix portHint suffix port) :
      TcpString inet portHint (openBracket :: t ++ closeBracket :: suffix) (mk port)
  | bare {t : Bytes} {addr : Octets 16} (htwo : 2 ≤ t.count colon)
      (haddr : inet.pton6 t = some addr) : TcpString inet portHint t (ofInet6 addr portHint)

/-- What the code takes besides: an address that a NUL ends early, or a lax port. -/
inductive Sloppy (inet : Inet) : Bytes → Prop
  | host {s host part : Bytes} {family : Family} {mk : UInt16 → SocketAddress}
      (hlayout : Layout s family host part) (hhost : CutHost inet family host mk)
      (hport : (∃ hint port, PortPart hint part port) ∨ LaxPort part) : Sloppy inet s
  | port {s host part : Bytes} {family : Family} {mk : UInt16 → SocketAddress}
      (hlayout : Layout s family host part) (hhost : Host inet family host mk)
      (hport : LaxPort part) : Sloppy inet s

theorem PortPart.not_mem {hint port : UInt16} {t : Bytes} (h : PortPart hint t port) {c : UInt8}
    (hx : CString.isX c = false) (hd : CString.isDigit 16 c = false) : c ∉ t := by
  cases h with
  | hint => exact List.not_mem_nil
  | literal h => exact h.not_mem hx hd

theorem PortPart.of_nil {hint port : UInt16} (h : PortPart hint [] port) : port = hint := by
  cases h with
  | hint => rfl
  | literal h =>
    obtain ⟨c, rest, hs, -⟩ := h.starts
    cases hs

theorem tcpString_iff {inet : Inet} {hint : UInt16} {s : Bytes} {a : SocketAddress} :
    TcpString inet hint s a ↔ ∃ family host part mk port, Layout s family host part ∧
      Host inet family host mk ∧ PortPart hint part port ∧ a = mk port := by
  constructor
  · intro h
    cases h with
    | @inet t suffix mk port hhost hport =>
      cases hport with
      | none =>
        rw [List.append_nil]
        exact ⟨_, _, _, _, _, .plain hhost.head hhost.no_colon, hhost, .hint, rfl⟩
      | colon hport =>
        exact ⟨_, _, _, _, _, .plainPort hhost.head hhost.no_colon (hport.not_mem rfl rfl), hhost,
          hport, rfl⟩
    | @inet6 t suffix mk port hhost hport =>
      cases hport with
      | none => exact ⟨_, _, _, _, _, .bracket, hhost, .hint, rfl⟩
      | colon hport =>
        exact ⟨_, _, _, _, _, .bracketPort (hport.not_mem rfl rfl), hhost, hport, rfl⟩
    | bare htwo haddr =>
      have hhost := Host.inet6 haddr
      exact ⟨_, _, _, _, _, .bare hhost.head htwo, hhost, .hint, rfl⟩
  · rintro ⟨family, host, part, mk, port, hlayout, hhost, hport, rfl⟩
    cases hlayout with
    | plain _ _ =>
      rw [hport.of_nil]
      have h := TcpString.inet hhost (@PortSuffix.none hint)
      rwa [List.append_nil] at h
    | plainPort _ _ _ => exact .inet hhost (.colon hport)
    | bare _ htwo =>
      rw [hport.of_nil]
      cases hhost with
      | any => exact absurd htwo (by decide)
      | inet6 haddr => exact .bare htwo haddr
    | bracket =>
      rw [hport.of_nil]
      exact .inet6 hhost .none
    | bracketPort _ => exact .inet6 hhost (.colon hport)

theorem extractFamilyHostAndPort_iff {s host : Bytes} {hint port : UInt16} {family : Family} :
    extractFamilyHostAndPort s hint = some (family, host, port) ↔
      ∃ part, Layout s family host part ∧ parsePort part hint = some port := by
  rw [extractFamilyHostAndPort, Option.bind_eq_some_iff]
  constructor
  · rintro ⟨⟨f, h, part⟩, hsplit, hmap⟩
    obtain ⟨p, hport, heq⟩ := Option.map_eq_some_iff.mp hmap
    cases heq
    exact ⟨part, layout_of_splits hsplit, hport⟩
  · rintro ⟨part, hlayout, hport⟩
    exact ⟨_, hlayout.splits, by rw [hport]; rfl⟩

/-- Which strings are parsed, and to which address: a layout, a host that is resolved and a
port that is parsed. -/
theorem parse_tcp_iff {inet : Inet} {hint : UInt16} {s : Bytes} {a : SocketAddress} :
    parse inet (tcpPrefix ++ s) hint = .ok a ↔ ∃ family host part port,
      Layout s family host part ∧ parsePort part hint = some port ∧
        resolveHost inet family host port = .ok a := by
  rw [parse_tcp]
  constructor
  · intro h
    split at h
    · cases h
    · rename_i family host port hextract
      obtain ⟨part, hlayout, hport⟩ := extractFamilyHostAndPort_iff.mp hextract
      exact ⟨family, host, part, port, hlayout, hport, h⟩
  · rintro ⟨family, host, part, port, hlayout, hport, h⟩
    rw [extractFamilyHostAndPort_iff.mpr ⟨part, hlayout, hport⟩]
    exact h

theorem TcpString.parses {inet : Inet} {hint : UInt16} {s : Bytes} {a : SocketAddress}
    (h : TcpString inet hint s a) : parse inet (tcpPrefix ++ s) hint = .ok a := by
  obtain ⟨family, host, part, mk, port, hlayout, hhost, hport, rfl⟩ := tcpString_iff.mp h
  exact parse_tcp_iff.mpr ⟨family, host, part, port, hlayout, hport.parses, hhost.resolves port⟩

theorem tcpString_or_sloppy {inet : Inet} {hint : UInt16} {s : Bytes} {a : SocketAddress}
    (h : parse inet (tcpPrefix ++ s) hint = .ok a) : TcpString inet hint s a ∨ Sloppy inet s := by
  obtain ⟨family, host, part, port, hlayout, hport, hres⟩ := parse_tcp_iff.mp h
  obtain ⟨mk, hhost | hcut, rfl⟩ := host_of_resolves hres
  · obtain hport | hlax := portPart_or_lax hport
    · exact .inl (tcpString_iff.mpr ⟨_, _, _, _, _, hlayout, hhost, hport, rfl⟩)
    · exact .inr (.port hlayout hhost hlax)
  · exact .inr (.host hlayout hcut ((portPart_or_lax hport).imp_left fun h => ⟨hint, port, h⟩))

/-- A string has one layout. -/
theorem Layout.unique {s host host' part part' : Bytes} {family family' : Family}
    (h : Layout s family host part) (h' : Layout s family' host' part') :
    family = family' ∧ host = host' ∧ part = part' := by
  have heq := h.splits.symm.trans h'.splits
  simpa using heq

theorem Sloppy.parses {inet : Inet} {s : Bytes} (h : Sloppy inet s) (hint : UInt16) :
    ∃ a, parse inet (tcpPrefix ++ s) hint = .ok a := by
  cases h with
  | host hlayout hhost hport =>
    obtain ⟨port, hport⟩ := parsePort_of_portPart_or_lax hport hint
    exact ⟨_, parse_tcp_iff.mpr ⟨_, _, _, port, hlayout, hport, hhost.resolves port⟩⟩
  | port hlayout hhost hlax =>
    obtain ⟨port, hport⟩ := hlax.parses hint
    exact ⟨_, parse_tcp_iff.mpr ⟨_, _, _, port, hlayout, hport, hhost.resolves port⟩⟩

theorem Sloppy.not_tcpString {inet : Inet} {s : Bytes} (h : Sloppy inet s) {hint : UInt16}
    {a : SocketAddress} : ¬ TcpString inet hint s a := by
  intro hg
  obtain ⟨family, host, part, mk, port, hlayout', hhost', hport', -⟩ := tcpString_iff.mp hg
  cases h with
  | host hlayout hhost _ =>
    obtain ⟨rfl, rfl, rfl⟩ := hlayout.unique hlayout'
    exact hhost.not_host hhost'
  | port hlayout _ hlax =>
    obtain ⟨rfl, rfl, rfl⟩ := hlayout.unique hlayout'
    exact hlax.not_portPart hport'

theorem error_of_parse_tcp {inet : Inet} {hint : UInt16} {s : Bytes} {e : Int32}
    (h : parse inet (tcpPrefix ++ s) hint = .error e) : e = EINVAL := by
  rw [parse_tcp] at h
  split at h
  · cases h
    rfl
  · unfold resolveHost at h
    split at h
    · cases h
    · split at h <;> split at h <;> cases h <;> rfl

/-- The strings of the grammar are parsed to their addresses, all others are refused. -/
def FollowsGrammar (inet : Inet) (s : Bytes) (portHint : UInt16) : Prop :=
  (∀ a, parse inet (tcpPrefix ++ s) portHint = .ok a ↔ TcpString inet portHint s a) ∧
    ∀ e, parse inet (tcpPrefix ++ s) portHint = .error e → e ≠ 0

theorem followsGrammar_iff (inet : Inet) (s : Bytes) (portHint : UInt16) :
    FollowsGrammar inet s portHint ↔ ¬ Sloppy inet s := by
  constructor
  · rintro ⟨hparse, -⟩ hsloppy
    obtain ⟨a, ha⟩ := hsloppy.parses portHint
    exact hsloppy.not_tcpString ((hparse a).mp ha)
  · intro hsloppy
    refine ⟨fun a => ⟨?_, TcpString.parses⟩, ?_⟩
    · intro h
      exact (tcpString_or_sloppy h).resolve_right hsloppy
    · intro e h
      rw [error_of_parse_tcp h]
      decide

def signedPort : Bytes := CString.text
  ['1', '.', '2', '.', '3', '.', '4', ':', '-', '1', '8', '4', '4', '6', '7', '4', '4', '0', '7',
    '3', '7', '0', '9', '5', '5', '1', '5', '3', '6']

theorem signedPort_parsed :
    parse plainInet (tcpPrefix ++ signedPort) 0 = .ok (ofInet ⟨[1, 2, 3, 4], rfl⟩ 80) ∧
      ¬ FollowsGrammar plainInet signedPort 0 := by
  have hsplit : splitHostAndPort signedPort =
      some (.inet, signedPort.take 7, signedPort.drop 8) := rfl
  have hport : parsePort (signedPort.drop 8) 0 = some 80 := rfl
  have hpton : plainInet.pton4 (signedPort.take 7) = some ⟨[1, 2, 3, 4], rfl⟩ := by decide
  have hhost : Host plainInet .inet (signedPort.take 7) (ofInet ⟨[1, 2, 3, 4], rfl⟩) :=
    .inet hpton
  have hparse : parse plainInet (tcpPrefix ++ signedPort) 0 =
      .ok (ofInet ⟨[1, 2, 3, 4], rfl⟩ 80) :=
    parse_tcp_iff.mpr ⟨_, _, _, 80, layout_of_splits hsplit, hport, hhost.resolves 80⟩
  refine ⟨hparse, fun h => ?_⟩
  obtain ⟨family, host, part, mk, port, hlayout, -, hport, -⟩ :=
    tcpString_iff.mp ((h.1 _).mp hparse)
  cases hlayout.splits.symm.trans hsplit
  cases hport with
  | literal hlit =>
    obtain ⟨c, rest, hs, hc⟩ := hlit.starts
    cases hs
    exact absurd hc (by decide)

end Ocvsmd.Io.SocketAddress
