/-
  Auth/ClientIp.lean --- the address that a request is attributed to.

  `resolve_client_ip` of `auth.rs`.  The limiters of logins and the source binding of
  single sign-on go by it.  The networks, and how the value of a header is read as
  text, are those of other crates and therefore arguments.
-/
import RouterView.Foundation.Checked
import RouterView.Foundation.IpText
import RouterView.Foundation.Text
import RouterView.Ws.Limits

set_option autoImplicit false

namespace RouterView.Auth

open RouterView.Foundation
open RouterView.Ws (IpAddr SameSource normalizeIp_eq_iff mappedIpv4)

/-! ## Addresses -/

/-- `str::parse::<IpAddr>`: the whole text is an address. -/
def parseIpAddr (text : String) : Option IpAddr :=
  let read := ((readIpv4Addr text.toList).map (fun (address, rest) => (IpAddr.V4 address, rest))).or
    ((readIpv6Addr text.toList).map (fun (address, rest) => (IpAddr.V6 address, rest)))
  read.bind (fun (address, rest) => if rest.isEmpty then some address else none)

/-- `normalize_ip`. -/
def normalizeIp (source : IpAddr) : IpAddr := Ws.normalizeIp source

/-! ## Headers -/

/-- `HeaderValue::to_str`, and what the code relies on: the text has the bytes of the
value, and visible ASCII is text. -/
structure HeaderText where
  toStr : ByteArray → Option String
  sound : ∀ {value text}, toStr value = some text → text.toUTF8 = value
  visible : ∀ text : String, (∀ c ∈ text.toList, '!' ≤ c ∧ c ≤ '~') →
    toStr text.toUTF8 = some text

/-- `HeaderMap`: the names, in lower case, with their values in order. -/
abbrev HeaderMap : Type := List (String × ByteArray)

/-- `HeaderMap::get_all`. -/
def HeaderMap.getAll (headers : HeaderMap) (name : String) : List ByteArray :=
  headers.filterMap (fun header => if header.1 = name then some header.2 else none)

/-- `CLIENT_IP_HEADER`. -/
def clientIpHeader : String := "x-real-ip"

/-- `invalid_proxy_client_ip`. -/
inductive ClientIpError where
  | forbidden (message : String)
  deriving DecidableEq, Repr

def invalidProxyClientIp : ClientIpError :=
  .forbidden "trusted proxy supplied an invalid client address"

/-! ## Resolution -/

section

variable {Net : Type} (contains : Net → IpAddr → Bool) (text : HeaderText)

/-- The address that a trusted proxy forwards. -/
def forwardedIp (headers : HeaderMap) : Except ClientIpError IpAddr :=
  match headers.getAll clientIpHeader with
  | [] => .error invalidProxyClientIp
  | _ :: _ :: _ => .error invalidProxyClientIp
  | [value] => do
      let forwarded ← okOr (text.toStr value) invalidProxyClientIp
      ensure (¬(forwarded.isEmpty = true ∨ trim forwarded ≠ forwarded ∨ ',' ∈ forwarded.toList))
        invalidProxyClientIp
      let address ← okOr (parseIpAddr forwarded) invalidProxyClientIp
      return normalizeIp address

/-- `resolve_client_ip`. -/
def resolveClientIp (peer : IpAddr) (headers : HeaderMap) (trustedProxyCidrs : List Net) :
    Except ClientIpError IpAddr :=
  let peer := normalizeIp peer
  if trustedProxyCidrs.any (fun network => contains network peer) then forwardedIp text headers
  else .ok peer

end

/-! ## Bare addresses -/

theorem parseIpAddr_chars {s : String} {address : IpAddr} (h : parseIpAddr s = some address) :
    s.toList ≠ [] ∧ ∀ c ∈ s.toList, IsAddressChar c := by
  obtain ⟨⟨read, rest⟩, hread, h⟩ := Option.bind_eq_some_iff.mp h
  simp only at h
  split at h
  swap
  · cases h
  · rename_i hempty
    rw [List.isEmpty_iff] at hempty
    subst hempty
    have hnone : ∀ c : List Char, c = [] → readIpv4Addr c = none ∧ readIpv6Addr c = none := by
      rintro c rfl
      exact ⟨by decide +kernel, by decide +kernel⟩
    have htook : Took s.toList [] := by
      rcases Option.or_eq_some_iff.mp hread with hv4 | ⟨_, hv6⟩
      · obtain ⟨⟨v4, left⟩, hparse, heq⟩ := Option.map_eq_some_iff.mp hv4
        cases heq
        exact readIpv4Addr_took hparse
      · obtain ⟨⟨v6, left⟩, hparse, heq⟩ := Option.map_eq_some_iff.mp hv6
        cases heq
        exact readIpv6Addr_took hparse
    obtain ⟨taken, hsplit, hchars⟩ := htook
    rw [List.append_nil] at hsplit
    refine ⟨?_, hsplit ▸ hchars⟩
    intro hnil
    obtain ⟨hv4, hv6⟩ := hnone _ hnil
    rw [hv4, hv6] at hread
    cases hread

theorem addressChar_bounds {c : Char} (h : IsAddressChar c) : 46 ≤ c.toNat ∧ c.toNat ≤ 122 := by
  rcases h with hdigit | rfl | rfl
  · obtain ⟨digit, hdigit⟩ := Option.isSome_iff_exists.mp hdigit
    obtain ⟨hvalue, _⟩ := Option.filter_eq_some_iff.mp hdigit
    unfold digitValue at hvalue
    have hrange : ∀ {low high : UInt32}, low ≤ c.val → c.val ≤ high → 46 ≤ low.toNat →
        high.toNat ≤ 122 → 46 ≤ c.toNat ∧ c.toNat ≤ 122 := by
      intro low high hlow hhigh hfirst hlast
      exact ⟨le_trans hfirst (UInt32.le_iff_toNat_le.mp hlow),
        le_trans (UInt32.le_iff_toNat_le.mp hhigh) hlast⟩
    split at hvalue
    · rename_i hc
      obtain ⟨hlow, hhigh⟩ := Bool.and_eq_true_iff.mp hc
      exact hrange (of_decide_eq_true hlow) (of_decide_eq_true hhigh) (by decide) (by decide)
    · split at hvalue
      · rename_i hc
        obtain ⟨hlow, hhigh⟩ := Bool.and_eq_true_iff.mp hc
        exact hrange (of_decide_eq_true hlow) (of_decide_eq_true hhigh) (by decide) (by decide)
      · split at hvalue
        · rename_i hc
          obtain ⟨hlow, hhigh⟩ := of_decide_eq_true hc
          exact hrange hlow hhigh (by decide) (by decide)
        · cases hvalue
  · decide
  · decide

/-- The characters of an address are visible ASCII, no whitespace and no comma. -/
theorem addressChar_visible {c : Char} (h : IsAddressChar c) :
    ('!' ≤ c ∧ c ≤ '~') ∧ isWhitespace c = false ∧ c ≠ ',' := by
  obtain ⟨hlow, hhigh⟩ := addressChar_bounds h
  refine ⟨⟨?_, ?_⟩, ?_, ?_⟩
  · exact UInt32.le_iff_toNat_le.mpr (le_trans (by decide) hlow)
  · exact UInt32.le_iff_toNat_le.mpr (le_trans hhigh (by decide))
  · unfold isWhitespace
    simp only [Bool.or_eq_false_iff, Bool.and_eq_false_iff, decide_eq_false_iff_not,
      beq_eq_false_iff_ne]
    omega
  · rintro rfl
    exact absurd hlow (by decide)

/-- What is parsed passes the other checks of a forwarded value. -/
theorem parseIpAddr_bare {s : String} {address : IpAddr} (h : parseIpAddr s = some address) :
    ¬(s.isEmpty = true ∨ trim s ≠ s ∨ ',' ∈ s.toList) := by
  obtain ⟨hsome, hchars⟩ := parseIpAddr_chars h
  rintro (hempty | htrim | hcomma)
  · rw [String.isEmpty_iff] at hempty
    exact hsome (by rw [hempty]; rfl)
  · exact htrim (Trimmed.of_forall (fun c hc => (addressChar_visible (hchars c hc)).2.1)).trim
  · exact (addressChar_visible (hchars ',' hcomma)).2.2 rfl

section

variable {Net : Type} {contains : Net → IpAddr → Bool} {text : HeaderText}

/-- A value is accepted exactly when the whole of it is one address. -/
theorem forwardedIp_ok_iff {headers : HeaderMap} {address : IpAddr} :
    forwardedIp text headers = .ok address ↔
      ∃ value given, headers.getAll clientIpHeader = [value.toUTF8] ∧
        parseIpAddr value = some given ∧ address = normalizeIp given := by
  unfold forwardedIp
  constructor
  · intro h
    split at h
    · cases h
    · cases h
    · rename_i value hvalue
      obtain ⟨forwarded, hforwarded, h⟩ := bind_eq_ok_iff.mp h
      obtain ⟨_, h⟩ := ensure_bind_eq_ok_iff.mp h
      obtain ⟨given, hgiven, h⟩ := bind_eq_ok_iff.mp h
      simp only [pure_eq_ok, Except.ok.injEq] at h
      refine ⟨forwarded, given, ?_, okOr_eq_ok_iff.mp hgiven, h.symm⟩
      rw [hvalue, text.sound (okOr_eq_ok_iff.mp hforwarded)]
  · rintro ⟨value, given, hvalue, hgiven, rfl⟩
    have htext : text.toStr value.toUTF8 = some value :=
      text.visible value (fun c hc => (addressChar_visible ((parseIpAddr_chars hgiven).2 c hc)).1)
    rw [hvalue]
    simp only
    rw [bind_eq_ok_iff]
    refine ⟨value, okOr_eq_ok_iff.mpr htext, ensure_bind_eq_ok_iff.mpr ⟨?_, ?_⟩⟩
    · exact parseIpAddr_bare hgiven
    · rw [bind_eq_ok_iff]
      exact ⟨given, okOr_eq_ok_iff.mpr hgiven, rfl⟩

/-! ## Attribution -/

/-- A listed network has the address, in one of its spellings. -/
def Listed (contains : Net → IpAddr → Bool) (networks : List Net) (address : IpAddr) : Prop :=
  ∃ network ∈ networks, ∃ spelling, SameSource spelling address ∧ contains network spelling = true

/-- Attribution under a list of trusted networks: the headers of a peer that is not in
them do not matter; those of a peer that is must have one address, as it is; and the
spelling of the peer does not matter. -/
structure Attributes (contains : Net → IpAddr → Bool) (text : HeaderText)
    (networks : List Net) : Prop where
  untrusted : ∀ peer, ¬Listed contains networks peer → ∀ headers headers' : HeaderMap,
    resolveClientIp contains text peer headers networks =
      resolveClientIp contains text peer headers' networks
  trusted : ∀ peer, Listed contains networks peer → ∀ (headers : HeaderMap) address,
    resolveClientIp contains text peer headers networks = .ok address ↔
      ∃ value given, headers.getAll clientIpHeader = [value.toUTF8] ∧
        parseIpAddr value = some given ∧ address = normalizeIp given
  spelling : ∀ peer peer', SameSource peer peer' → ∀ headers : HeaderMap,
    resolveClientIp contains text peer headers networks =
      resolveClientIp contains text peer' headers networks

/-- The networks list an address in its normal form, if they list it at all. -/
def ListsNormalForms (contains : Net → IpAddr → Bool) (networks : List Net) : Prop :=
  ∀ network ∈ networks, ∀ spelling, contains network spelling = true →
    ∃ other ∈ networks, contains other (normalizeIp spelling) = true

theorem normalizeIp_idem (address : IpAddr) :
    normalizeIp (normalizeIp address) = normalizeIp address := by
  cases address with
  | V4 v4 => rfl
  | V6 v6 =>
      unfold normalizeIp
      rcases Ws.normalizeIp_V6 v6 with ⟨v4, _, hnormal⟩ | ⟨_, hnormal⟩
      · rw [hnormal]
        rfl
      · rw [hnormal, hnormal]

/-- The normal form is a spelling of the address. -/
theorem sameSource_normalizeIp (address : IpAddr) : SameSource (normalizeIp address) address :=
  (normalizeIp_eq_iff _ _).mp (normalizeIp_idem address)

theorem resolveClientIp_trusted {networks : List Net} {peer : IpAddr} {network : Net}
    (hnetwork : network ∈ networks) (hpeer : contains network (normalizeIp peer) = true)
    (headers : HeaderMap) :
    resolveClientIp contains text peer headers networks = forwardedIp text headers :=
  if_pos (List.any_eq_true.mpr ⟨network, hnetwork, hpeer⟩)

theorem resolveClientIp_untrusted {networks : List Net} {peer : IpAddr}
    (h : ∀ network ∈ networks, contains network (normalizeIp peer) ≠ true)
    (headers : HeaderMap) :
    resolveClientIp contains text peer headers networks = .ok (normalizeIp peer) := by
  refine if_neg ?_
  intro hany
  obtain ⟨network, hnetwork, hpeer⟩ := List.any_eq_true.mp hany
  exact h network hnetwork hpeer

/-- A network that lists another spelling only is never matched: its members are
attributed to the proxy, without a header. -/
theorem Attributes.listsNormalForms {networks : List Net}
    (h : Attributes contains text networks) : ListsNormalForms contains networks := by
  intro network hnetwork spelling hspelling
  by_contra hnone
  have hunmatched : ∀ other ∈ networks, contains other (normalizeIp spelling) ≠ true :=
    fun other hother hmatch => hnone ⟨other, hother, hmatch⟩
  have hlisted : Listed contains networks spelling :=
    ⟨network, hnetwork, spelling, Or.inl rfl, hspelling⟩
  obtain ⟨value, given, hvalue, _⟩ := (h.trusted spelling hlisted [] (normalizeIp spelling)).mp
    (resolveClientIp_untrusted hunmatched [])
  cases hvalue

theorem ListsNormalForms.attributes {networks : List Net}
    (h : ListsNormalForms contains networks) : Attributes contains text networks := by
  refine ⟨?_, ?_, ?_⟩
  · intro peer hpeer headers headers'
    have hunmatched : ∀ network ∈ networks, contains network (normalizeIp peer) ≠ true :=
      fun network hnetwork hmatch =>
        hpeer ⟨network, hnetwork, _, sameSource_normalizeIp peer, hmatch⟩
    rw [resolveClientIp_untrusted hunmatched, resolveClientIp_untrusted hunmatched]
  · rintro peer ⟨network, hnetwork, spelling, hsame, hspelling⟩ headers address
    obtain ⟨other, hother, hmatch⟩ := h network hnetwork spelling hspelling
    have hnormal : normalizeIp spelling = normalizeIp peer :=
      (normalizeIp_eq_iff spelling peer).mpr hsame
    rw [hnormal] at hmatch
    rw [resolveClientIp_trusted hother hmatch]
    exact forwardedIp_ok_iff
  · intro peer peer' hsame headers
    have hnormal : normalizeIp peer = normalizeIp peer' := (normalizeIp_eq_iff peer peer').mpr hsame
    unfold resolveClientIp
    rw [hnormal]

/-- Requests are attributed as they should be exactly when the trusted networks list
addresses in their normal form. -/
theorem client_attribution_iff (contains : Net → IpAddr → Bool) (text : HeaderText)
    (networks : List Net) :
    Attributes contains text networks ↔ ListsNormalForms contains networks :=
  ⟨Attributes.listsNormalForms, ListsNormalForms.attributes⟩

end

/-! ### A network of one mapped address -/

/-- Text of visible ASCII, blanks and tabs. -/
def asciiText : HeaderText where
  toStr value := (String.fromUTF8? value).filter (fun text =>
    text.toList.all (fun c => decide (' ' ≤ c ∧ c ≤ '~') || c == '\t'))
  sound := by
    intro value text h
    obtain ⟨hread, _⟩ := Option.filter_eq_some_iff.mp h
    unfold String.fromUTF8? at hread
    split at hread
    · cases hread
      rfl
    · cases hread
  visible := by
    intro text hvisible
    have hread : String.fromUTF8? text.toUTF8 = some text := by
      unfold String.fromUTF8? String.toUTF8
      rw [dif_pos text.isValidUTF8]
      rfl
    rw [hread]
    refine Option.filter_eq_some_iff.mpr ⟨rfl, ?_⟩
    rw [List.all_eq_true]
    intro c hc
    have hc' := hvisible c hc
    have hfirst : ' ' ≤ '!' := by decide
    have hblank : ' ' ≤ c := Char.le_trans hfirst hc'.1
    simp [hblank, hc'.2]

/-- A network of one address, as `ipnet` matches it: the families must be the same. -/
def hostContains (host address : IpAddr) : Bool := decide (address = host)

/-- The address of the proxy, `172.31.254.2`. -/
def proxyV4 : BitVec 32 := 0xac1ffe02#32

/-- The network `::ffff:172.31.254.2/128` has the peer `::ffff:172.31.254.2`, and the
peer is not trusted. -/
theorem mapped_network_is_not_matched :
    hostContains (.V6 (mappedIpv4 proxyV4)) (.V6 (mappedIpv4 proxyV4)) = true ∧
      resolveClientIp hostContains asciiText (.V6 (mappedIpv4 proxyV4))
        [(clientIpHeader, "198.51.100.25".toUTF8)] [.V6 (mappedIpv4 proxyV4)] =
          .ok (.V4 proxyV4) ∧
      ¬Attributes hostContains asciiText [.V6 (mappedIpv4 proxyV4)] := by
  have hnever : ∀ network ∈ [IpAddr.V6 (mappedIpv4 proxyV4)],
      hostContains network (normalizeIp (.V6 (mappedIpv4 proxyV4))) ≠ true := by
    intro network hnetwork
    rw [List.mem_singleton.mp hnetwork]
    decide
  refine ⟨by decide, resolveClientIp_untrusted hnever _, ?_⟩
  intro hattributes
  obtain ⟨other, hother, hmatch⟩ := hattributes.listsNormalForms (.V6 (mappedIpv4 proxyV4))
    (List.mem_singleton.mpr rfl) (.V6 (mappedIpv4 proxyV4)) (by decide)
  exact hnever other hother hmatch

end RouterView.Auth
