/-
  Foundation/Ipv6Print.lean --- IPv6 addresses printed, and read back.

  The `Display` of `core::net` for IPv6: the groups of the address in hexadecimal with
  its longest row of zeros left out, and an IPv4 address that is mapped into an IPv6
  one in its own notation.  What is printed is read back as the address.
-/
import RouterView.Foundation.IpPrint

set_option autoImplicit false

namespace RouterView.Foundation

/-! ## IPv6 -/

/-- The lowest `count` groups of a number, the highest of them first. -/
def groupsOf : Nat → Nat → List Nat
  | 0, _ => []
  | count + 1, n => groupsOf count (n / 65536) ++ [n % 65536]

/-- The groups of an IPv6 address. -/
def segments (address : BitVec 128) : List Nat := groupsOf 8 address.toNat

/-- A row of zeros among the groups. -/
structure ZeroSpan where
  start : Nat
  len : Nat
  deriving DecidableEq, Repr

/-- A row with one more zero, or a new one. -/
def ZeroSpan.grow (i : Nat) (current : ZeroSpan) : ZeroSpan :=
  ⟨if current.len = 0 then i else current.start, current.len + 1⟩

/-- The loop over the groups that finds the first of the longest rows of zeros. -/
def longestZeros : List Nat → Nat → ZeroSpan → ZeroSpan → ZeroSpan
  | [], _, _, longest => longest
  | segment :: rest, i, current, longest =>
      if segment = 0 then
        let current := current.grow i
        longestZeros rest (i + 1) current (if longest.len < current.len then current else longest)
      else longestZeros rest (i + 1) ⟨0, 0⟩ longest

/-- The row of zeros that is left out. -/
def zeroes (groups : List Nat) : ZeroSpan := longestZeros groups 0 ⟨0, 0⟩ ⟨0, 0⟩

/-- `Ipv6Addr` printed. -/
def showIpv6 (address : BitVec 128) : List Char :=
  let groups := segments address
  if groups.take 6 = [0, 0, 0, 0, 0, 65535] then
    "::ffff:".toList ++ showIpv4 (address.extractLsb' 0 32)
  else
    let span := zeroes groups
    if 1 < span.len then
      showSeparated 16 ':' (groups.take span.start) ++ "::".toList ++
        showSeparated 16 ':' (groups.drop (span.start + span.len))
    else showSeparated 16 ':' groups

@[simp] theorem length_groupsOf (count n : Nat) : (groupsOf count n).length = count := by
  induction count generalizing n with
  | zero => rfl
  | succ count ih => rw [groupsOf, List.length_append, ih, List.length_singleton]

theorem groupsOf_lt {count n group : Nat} (h : group ∈ groupsOf count n) : group < 65536 := by
  induction count generalizing n with
  | zero => cases h
  | succ count ih =>
      rw [groupsOf, List.mem_append, List.mem_singleton] at h
      obtain h | rfl := h
      · exact ih h
      · exact Nat.mod_lt n (by decide)

theorem foldl_groupsOf (count n : Nat) :
    (groupsOf count n).foldl (fun value group => value * 65536 + group) 0 = n % 65536 ^ count := by
  induction count generalizing n with
  | zero => rw [groupsOf, List.foldl_nil, pow_zero, Nat.mod_one]
  | succ count ih =>
      rw [groupsOf, List.foldl_append, ih, List.foldl_cons, List.foldl_nil, pow_succ,
        Nat.mul_comm (65536 ^ count), Nat.mod_mul, Nat.mul_comm, Nat.add_comm]

/-- The row is one of the groups, and all zeros. -/
def ZeroSpan.In (groups : List Nat) (span : ZeroSpan) : Prop :=
  span.start + span.len ≤ groups.length ∧
    (groups.drop span.start).take span.len = List.replicate span.len 0

theorem ZeroSpan.in_zero (groups : List Nat) : ZeroSpan.In groups ⟨0, 0⟩ :=
  ⟨Nat.zero_le _, by rw [List.take_zero, List.replicate_zero]⟩

/-- A row that ends at a zero goes on behind it. -/
theorem ZeroSpan.In.extend {seen rest : List Nat} {span : ZeroSpan}
    (h : span.In (seen ++ 0 :: rest)) (hend : span.start + span.len = seen.length) :
    ZeroSpan.In (seen ++ 0 :: rest) ⟨span.start, span.len + 1⟩ := by
  obtain ⟨_, hzeros⟩ := h
  refine ⟨?_, ?_⟩
  · simp only [List.length_append, List.length_cons]
    omega
  · have hget : ((seen ++ 0 :: rest).drop span.start)[span.len]? = some 0 := by
      rw [List.getElem?_drop, hend, List.getElem?_append_right (le_refl _), Nat.sub_self]
      rfl
    rw [List.take_add_one, hzeros, hget, Option.toList_some, List.replicate_succ']

/-- The row that is being read ends where the reading is. -/
def ZeroSpan.Current (seen rest : List Nat) (span : ZeroSpan) : Prop :=
  span.len = 0 ∨ (span.In (seen ++ rest) ∧ span.start + span.len = seen.length)

theorem ZeroSpan.Current.grow {seen rest : List Nat} {span : ZeroSpan}
    (h : span.Current seen (0 :: rest)) :
    (span.grow seen.length).In (seen ++ 0 :: rest) ∧
      (span.grow seen.length).start + (span.grow seen.length).len = seen.length + 1 := by
  unfold ZeroSpan.grow
  split
  · rename_i hempty
    have hfresh : ZeroSpan.In (seen ++ 0 :: rest) ⟨seen.length, 0⟩ :=
      ⟨by simp only [List.length_append]; omega, by rw [List.take_zero, List.replicate_zero]⟩
    rw [hempty]
    exact ⟨hfresh.extend rfl, rfl⟩
  · rename_i hsome
    obtain hempty | ⟨hin, hend⟩ := h
    · exact absurd hempty hsome
    · refine ⟨hin.extend hend, ?_⟩
      change span.start + (span.len + 1) = seen.length + 1
      omega

theorem longestZeros_in (rest seen : List Nat) {current longest : ZeroSpan}
    (hlongest : longest.In (seen ++ rest)) (hcurrent : current.Current seen rest) :
    (longestZeros rest seen.length current longest).In (seen ++ rest) := by
  induction rest generalizing current longest seen with
  | nil => exact hlongest
  | cons segment rest ih =>
      have hshift : seen ++ segment :: rest = (seen ++ [segment]) ++ rest := by
        rw [List.append_assoc, List.singleton_append]
      have hlength : (seen ++ [segment]).length = seen.length + 1 := by
        rw [List.length_append, List.length_singleton]
      rw [longestZeros]
      split
      · rename_i hzero
        subst hzero
        obtain ⟨hin, hend⟩ := hcurrent.grow
        rw [hshift] at hlongest hin ⊢
        rw [← hlength] at hend ⊢
        refine ih _ ?_ (Or.inr ⟨hin, hend⟩)
        split
        · exact hin
        · exact hlongest
      · rw [hshift] at hlongest ⊢
        rw [← hlength]
        exact ih _ hlongest (Or.inl rfl)

theorem zeroes_in (groups : List Nat) : (zeroes groups).In groups :=
  longestZeros_in groups [] (ZeroSpan.in_zero groups) (Or.inl rfl)

/-- The groups are those before the row, its zeros, and those behind it. -/
theorem ZeroSpan.In.append {groups : List Nat} {span : ZeroSpan} (h : span.In groups) :
    groups.take span.start ++ List.replicate span.len 0 ++ groups.drop (span.start + span.len) =
      groups := by
  rw [← h.2, List.append_assoc, ← List.drop_drop, List.take_append_drop,
    List.take_append_drop]

/-! ## IPv6 read back -/

theorem Took.suffix {cs rest : List Char} (h : Took cs rest) {c : Char} (hc : c ∈ rest) :
    c ∈ cs := by
  obtain ⟨read, rfl, _⟩ := h
  exact List.mem_append_right read hc

theorem readGivenChar_eq {target : Char} {cs rest : List Char}
    (h : readGivenChar target cs = some rest) : cs = target :: rest := by
  cases cs with
  | nil => cases h
  | cons c cs =>
      rw [readGivenChar] at h
      split at h
      · rename_i heq
        cases h
        rw [heq]
      · cases h

/-- A text without a dot does not begin with an IPv4 address. -/
theorem readIpv4Addr_none {cs : List Char} (h : '.' ∉ cs) : readIpv4Addr cs = none := by
  cases hread : readIpv4Addr cs with
  | none => rfl
  | some read =>
      refine absurd ?_ h
      rw [eq_showIpv4_of_read hread]
      simp [showIpv4, octets, showSeparated]

theorem readSeparator_ipv4_none {cs : List Char} (h : '.' ∉ cs) (index : Nat) :
    readSeparator ':' index readIpv4Addr cs = none := by
  rw [readSeparator]
  split
  · cases hchar : readGivenChar ':' cs with
    | none => rfl
    | some rest =>
        rw [readGivenChar_eq hchar] at h
        exact readIpv4Addr_none (fun hmem => h (List.mem_cons_of_mem _ hmem))
  · exact readIpv4Addr_none h

theorem readNumber_none {radix maxDigits bound : Nat} (allowZeroPrefix : Bool) {cs : List Char}
    (h : EndsDigits radix cs) : readNumber radix maxDigits bound allowZeroPrefix cs = none := by
  rw [readNumber, readDigits_end h]
  rfl

/-- A group that is printed is read, up to what follows. -/
theorem readGroup_toDigits {group : Nat} (hgroup : group < 65536) (index : Nat)
    {rest : List Char} (hrest : EndsDigits 16 rest) :
    readGroup index ((if 0 < index then [':'] else []) ++ Nat.toDigits 16 group ++ rest) =
      some (group, rest) := by
  have hread : readNumber 16 4 65536 true (Nat.toDigits 16 group ++ rest) = some (group, rest) :=
    readNumber_toDigits (by decide) (by decide) hgroup (by omega) (by decide) true hrest
  rw [readGroup, readSeparator]
  split
  · exact hread
  · exact hread

/-- A text at which the groups of an address end. -/
def EndsGroups (cs : List Char) : Prop := ∀ index, readGroup index cs = none

theorem EndsGroups.nil : EndsGroups [] := by
  intro index
  rw [readGroup, readSeparator]
  split
  · rfl
  · exact readNumber_none true trivial

theorem EndsGroups.double (cs : List Char) : EndsGroups (':' :: ':' :: cs) := by
  have hends : EndsDigits 16 (':' :: cs) := rfl
  intro index
  rw [readGroup, readSeparator]
  split
  · change readNumber 16 4 65536 true (':' :: cs) = none
    exact readNumber_none true hends
  · exact readNumber_none true rfl

theorem EndsGroups.readGroups {cs : List Char} (h : EndsGroups cs) (hdot : '.' ∉ cs)
    (limit remaining : Nat) : readGroups limit remaining cs = ([], false, cs) := by
  cases remaining with
  | zero => rfl
  | succ remaining =>
      rw [Foundation.readGroups]
      simp only [readSeparator_ipv4_none hdot, ite_self, h (limit - (remaining + 1))]

/-- Groups that are printed are read, up to what follows. -/
theorem readGroups_flatMap {limit remaining : Nat} {groups : List Nat} {rest : List Char}
    (hlimit : remaining < limit) (hroom : groups.length ≤ remaining)
    (hlt : ∀ group ∈ groups, group < 65536)
    (hdot : '.' ∉ groups.flatMap (fun n => ':' :: Nat.toDigits 16 n) ++ rest)
    (hdigits : EndsDigits 16 rest)
    (hends : groups.length = remaining ∨ (EndsGroups rest)) :
    readGroups limit remaining (groups.flatMap (fun n => ':' :: Nat.toDigits 16 n) ++ rest) =
      (groups, false, rest) := by
  induction groups generalizing remaining with
  | nil =>
      obtain rfl | hends := hends
      · rfl
      · exact hends.readGroups hdot limit remaining
  | cons group groups ih =>
      cases remaining with
      | zero => exact absurd hroom (by simp)
      | succ remaining =>
          have hindex : 0 < limit - (remaining + 1) := by omega
          have hnext : EndsDigits 16
              (groups.flatMap (fun n => ':' :: Nat.toDigits 16 n) ++ rest) := by
            cases groups with
            | nil => exact hdigits
            | cons next groups => rfl
          have hgroup := readGroup_toDigits (hlt group List.mem_cons_self)
            (limit - (remaining + 1)) hnext
          rw [if_pos hindex] at hgroup
          rw [List.flatMap_cons, List.append_assoc] at hdot ⊢
          rw [Foundation.readGroups]
          have hmore := ih (Nat.lt_of_succ_lt hlimit) (by rw [List.length_cons] at hroom; omega)
            (fun g hg => hlt g (List.mem_cons_of_mem group hg))
            (fun hmem => hdot (List.mem_append_right _ hmem))
            (hends.imp_left (fun h => by rw [List.length_cons] at h; omega))
          simp only [List.singleton_append] at hgroup
          simp only [readSeparator_ipv4_none hdot, ite_self, hgroup, hmore]

theorem readGroups_showSeparated {limit : Nat} {groups : List Nat} {rest : List Char}
    (hroom : groups.length ≤ limit) (hlt : ∀ group ∈ groups, group < 65536)
    (hdot : '.' ∉ showSeparated 16 ':' groups ++ rest) (hdigits : EndsDigits 16 rest)
    (hends : groups.length = limit ∨ EndsGroups rest) :
    readGroups limit limit (showSeparated 16 ':' groups ++ rest) = (groups, false, rest) := by
  cases groups with
  | nil =>
      obtain rfl | hends := hends
      · rfl
      · exact hends.readGroups hdot limit limit
  | cons group groups =>
      cases limit with
      | zero => exact absurd hroom (by simp)
      | succ remaining =>
          have hnext : EndsDigits 16
              (groups.flatMap (fun n => ':' :: Nat.toDigits 16 n) ++ rest) := by
            cases groups with
            | nil => exact hdigits
            | cons next groups => rfl
          have hgroup := readGroup_toDigits (hlt group List.mem_cons_self) 0 hnext
          rw [if_neg (by decide), List.nil_append] at hgroup
          rw [showSeparated, List.append_assoc] at hdot ⊢
          have hmore := readGroups_flatMap (Nat.lt_succ_self remaining)
            (by rw [List.length_cons] at hroom; omega)
            (fun g hg => hlt g (List.mem_cons_of_mem group hg))
            (fun hmem => hdot (List.mem_append_right _ hmem)) hdigits
            (hends.imp_left (fun h => by rw [List.length_cons] at h; omega))
          rw [Foundation.readGroups]
          simp only [readSeparator_ipv4_none hdot, ite_self, Nat.sub_self, hgroup, hmore]

/-! ## What is printed is read back -/

theorem mem_toDigits {radix n : Nat} (hlow : 1 < radix) {c : Char}
    (h : c ∈ Nat.toDigits radix n) : ∃ digit < radix, c = Nat.digitChar digit := by
  induction n using Nat.strong_induction_on with
  | h n ih =>
      obtain hsmall | hlarge := Nat.lt_or_ge n radix
      · rw [Nat.toDigits_of_lt_base hsmall, List.mem_singleton] at h
        exact ⟨n, hsmall, h⟩
      · rw [Nat.toDigits_of_base_le hlow hlarge, List.mem_append, List.mem_singleton] at h
        obtain h | h := h
        · exact ih (n / radix) (Nat.div_lt_self (by omega) hlow) h
        · exact ⟨n % radix, Nat.mod_lt n (by omega), h⟩

theorem dot_notMem_showSeparated (groups : List Nat) : '.' ∉ showSeparated 16 ':' groups := by
  have hdigits : ∀ n, '.' ∉ Nat.toDigits 16 n := by
    intro n hmem
    obtain ⟨digit, hdigit, heq⟩ := mem_toDigits (by decide) hmem
    exact (by decide : ∀ d < 16, '.' ≠ Nat.digitChar d) digit hdigit heq
  cases groups with
  | nil => exact List.not_mem_nil
  | cons group groups =>
      rw [showSeparated, List.mem_append, List.mem_flatMap]
      rintro (h | ⟨n, _, h⟩)
      · exact hdigits group h
      · obtain h | h := List.mem_cons.mp h
        · exact absurd h (by decide)
        · exact hdigits n h

theorem ipv6OfGroups_segments {address : BitVec 128} {head tail : List Nat}
    (h : head ++ List.replicate (8 - head.length - tail.length) 0 ++ tail = segments address) :
    ipv6OfGroups head tail = address := by
  rw [ipv6OfGroups, h, segments, foldl_groupsOf]
  refine BitVec.eq_of_toNat_eq ?_
  rw [BitVec.toNat_ofNat]
  have hlt := address.isLt
  omega

/-- The last two groups are the numbers of the address at the end. -/
theorem drop_segments (address : BitVec 128) :
    (segments address).drop 6 =
      [((address.extractLsb' 0 32).extractLsb' 16 16).toNat,
        ((address.extractLsb' 0 32).extractLsb' 0 16).toNat] := by
  rw [segments, groupsOf, groupsOf, List.append_assoc, List.drop_left' (length_groupsOf _ _)]
  simp only [BitVec.extractLsb'_toNat, Nat.shiftRight_eq_div_pow, List.singleton_append,
    List.cons.injEq, and_true]
  constructor
  · omega
  · omega

theorem readIpv4Addr_ends {cs : List Char} (h : EndsDigits 10 cs) : readIpv4Addr cs = none := by
  rw [readIpv4Addr, readOctet, readSeparator, if_neg (by decide), readNumber_none false h]
  rfl

theorem readIpv6Addr_mapped (address : BitVec 128)
    (h : (segments address).take 6 = [0, 0, 0, 0, 0, 65535]) :
    readIpv6Addr ("::ffff:".toList ++ showIpv4 (address.extractLsb' 0 32)) =
      some (address, []) := by
  have htext : "::ffff:".toList ++ showIpv4 (address.extractLsb' 0 32) =
      ':' :: ':' :: (Nat.toDigits 16 65535 ++ ':' :: showIpv4 (address.extractLsb' 0 32)) := rfl
  have hfirst : ∀ cs, readIpv4Addr (':' :: cs) = none := fun _ => readIpv4Addr_ends rfl
  have hletter : readIpv4Addr
      (Nat.toDigits 16 65535 ++ ':' :: showIpv4 (address.extractLsb' 0 32)) = none :=
    readIpv4Addr_ends rfl
  have hgroup := readGroup_toDigits (show 65535 < 65536 by decide) 0
    (show EndsDigits 16 (':' :: showIpv4 (address.extractLsb' 0 32)) from rfl)
  have hread : readIpv4Addr (showIpv4 (address.extractLsb' 0 32) ++ []) =
      some (address.extractLsb' 0 32, []) := readIpv4Addr_showIpv4 _ trivial
  have hembedded : readSeparator ':' 1 readIpv4Addr
      (':' :: showIpv4 (address.extractLsb' 0 32)) = some (address.extractLsb' 0 32, []) := by
    rw [List.append_nil] at hread
    exact hread
  rw [if_neg (by decide), List.nil_append] at hgroup
  have hhead : ∀ cs, readGroups 8 8 (':' :: ':' :: cs) = ([], false, ':' :: ':' :: cs) := by
    intro cs
    rw [readGroups]
    simp only [Nat.sub_self, readSeparator, Nat.lt_irrefl, if_false, hfirst, ite_self,
      EndsGroups.double cs 0]
  have htail : readGroups 7 7
      (Nat.toDigits 16 65535 ++ ':' :: showIpv4 (address.extractLsb' 0 32)) =
      (65535 :: (segments address).drop 6, true, []) := by
    have hlast : readGroups 7 6 (':' :: showIpv4 (address.extractLsb' 0 32)) =
        ((segments address).drop 6, true, []) := by
      rw [readGroups, drop_segments]
      simp only [Nat.zero_lt_succ, if_true, Nat.reduceAdd, Nat.reduceSub, hembedded]
    rw [readGroups]
    simp only [Nat.sub_self, readSeparator, Nat.lt_irrefl, if_false, hletter, ite_self, hgroup,
      hlast]
  rw [htext, readIpv6Addr, hhead]
  simp only [List.length_nil, Nat.reduceEqDiff, if_false, readGivenChar, if_true,
    Option.bind_some, htail, Nat.reduceAdd, Nat.reduceSub]
  have hgroups : ipv6OfGroups [] (65535 :: (segments address).drop 6) = address := by
    apply ipv6OfGroups_segments
    rw [← List.take_append_drop 6 (segments address), h, drop_segments]
    rfl
  simp [hgroups]

/-- The groups before and behind the row of zeros are read as they are printed. -/
theorem readIpv6Addr_around (address : BitVec 128) {span : ZeroSpan}
    (hin : span.In (segments address)) (hlong : 1 < span.len) :
    readIpv6Addr (showSeparated 16 ':' ((segments address).take span.start) ++ "::".toList ++
      showSeparated 16 ':' ((segments address).drop (span.start + span.len))) =
      some (address, []) := by
  have hlength : (segments address).length = 8 := length_groupsOf 8 _
  have hlt : ∀ group ∈ segments address, group < 65536 := fun group => groupsOf_lt
  have hbound := hin.1
  generalize hhead : (segments address).take span.start = head
  generalize htail : (segments address).drop (span.start + span.len) = tail
  have hheadlt : ∀ group ∈ head, group < 65536 :=
    fun group hgroup => hlt group (List.mem_of_mem_take (hhead ▸ hgroup))
  have htaillt : ∀ group ∈ tail, group < 65536 :=
    fun group hgroup => hlt group (List.mem_of_mem_drop (htail ▸ hgroup))
  have hheadlength : head.length = span.start := by
    rw [← hhead, List.length_take]
    omega
  have htaillength : tail.length = 8 - (span.start + span.len) := by
    rw [← htail, List.length_drop, hlength]
  have hdots : '.' ∉ showSeparated 16 ':' head ++ ':' :: ':' :: showSeparated 16 ':' tail := by
    simp only [List.mem_append, List.mem_cons, not_or]
    exact ⟨dot_notMem_showSeparated head, by decide, by decide, dot_notMem_showSeparated tail⟩
  have hread : readGroups 8 8 (showSeparated 16 ':' head ++
      ':' :: ':' :: showSeparated 16 ':' tail) =
      (head, false, ':' :: ':' :: showSeparated 16 ':' tail) :=
    readGroups_showSeparated (by omega) hheadlt hdots rfl (Or.inr (EndsGroups.double _))
  have hreadTail : readGroups (8 - (head.length + 1)) (8 - (head.length + 1))
      (showSeparated 16 ':' tail ++ []) = (tail, false, []) :=
    readGroups_showSeparated (by omega) htaillt
      (by rw [List.append_nil]; exact dot_notMem_showSeparated tail) trivial
      (Or.inr EndsGroups.nil)
  rw [List.append_nil] at hreadTail
  have hgroups : ipv6OfGroups head tail = address := by
    apply ipv6OfGroups_segments
    rw [show 8 - head.length - tail.length = span.len by omega, ← hhead, ← htail, hin.append]
  rw [List.append_assoc, show "::".toList ++ showSeparated 16 ':' tail =
    ':' :: ':' :: showSeparated 16 ':' tail from rfl, readIpv6Addr, hread]
  simp only [show head.length ≠ 8 by omega, if_false, readGivenChar, if_true, Option.bind_some,
    hreadTail, hgroups, Bool.false_eq_true]

/-- What is printed of an IPv6 address is read back. -/
theorem readIpv6Addr_showIpv6 (address : BitVec 128) :
    readIpv6Addr (showIpv6 address) = some (address, []) := by
  rw [showIpv6]
  simp only
  split
  · rename_i hmapped
    exact readIpv6Addr_mapped address hmapped
  · split
    · rename_i hlong
      exact readIpv6Addr_around address (zeroes_in _) hlong
    · have hlength : (segments address).length = 8 := length_groupsOf 8 _
      have hread : readGroups 8 8 (showSeparated 16 ':' (segments address) ++ []) =
          (segments address, false, []) :=
        readGroups_showSeparated hlength.le (fun group => groupsOf_lt)
          (by rw [List.append_nil]; exact dot_notMem_showSeparated _) trivial (Or.inl hlength)
      rw [List.append_nil] at hread
      rw [readIpv6Addr, hread]
      simp only [hlength, if_true]
      rw [ipv6OfGroups_segments]
      rw [hlength]
      simp

/-- It does not begin with an IPv4 address. -/
theorem readIpv4Addr_showIpv6 (address : BitVec 128) : readIpv4Addr (showIpv6 address) = none := by
  rw [showIpv6]
  simp only
  split
  · exact readIpv4Addr_ends rfl
  · refine readIpv4Addr_none ?_
    split
    · simp only [List.mem_append, not_or]
      exact ⟨⟨dot_notMem_showSeparated _, by decide⟩, dot_notMem_showSeparated _⟩
    · exact dot_notMem_showSeparated _

/-! ## The texts of addresses -/

/-- The groups behind the first stand behind colons. -/
theorem colon_of_readGroups {limit remaining : Nat} {cs : List Char} (hlimit : remaining < limit)
    (h : (readGroups limit remaining cs).1 ≠ []) : ':' ∈ cs := by
  have hcolon : ∀ {α : Type} {reader : List Char → Option (α × List Char)} {read : α × List Char},
      readSeparator ':' (limit - remaining) reader cs = some read → ':' ∈ cs := by
    intro α reader read hread
    rw [readSeparator, if_pos (by omega)] at hread
    obtain ⟨rest, hchar, _⟩ := Option.bind_eq_some_iff.mp hread
    rw [readGivenChar_eq hchar]
    exact List.mem_cons_self
  cases remaining with
  | zero => exact absurd rfl h
  | succ remaining =>
      rw [readGroups] at h
      simp only at h
      split at h
      · rename_i hembedded
        split at hembedded
        · exact hcolon hembedded
        · cases hembedded
      · split at h
        · rename_i hgroup
          exact hcolon hgroup
        · exact absurd rfl h

/-- An IPv6 address is not read from a text without colons. -/
theorem colon_of_readIpv6Addr {cs rest : List Char} {address : BitVec 128}
    (h : readIpv6Addr cs = some (address, rest)) : ':' ∈ cs := by
  have htook := readGroups_took 8 8 cs
  rw [readIpv6Addr] at h
  generalize hread : readGroups 8 8 cs = read at h htook
  obtain ⟨head, headIpv4, left⟩ := read
  simp only at h htook
  split at h
  · rename_i hlength
    rw [readGroups] at hread
    simp only [Nat.sub_self] at hread
    split at hread
    · -- An embedded address gives two groups only.
      rw [← (Prod.mk.inj hread).1] at hlength
      cases hlength
    · split at hread
      · rename_i group more hgroup
        rw [← (Prod.mk.inj hread).1, List.length_cons] at hlength
        refine (readGroup_took 0 hgroup).suffix (colon_of_readGroups (show 7 < 8 by decide) ?_)
        intro hnil
        rw [hnil] at hlength
        cases hlength
      · rw [← (Prod.mk.inj hread).1] at hlength
        cases hlength
  · split at h
    · cases h
    · obtain ⟨second, hchar, _⟩ := Option.bind_eq_some_iff.mp h
      refine htook.suffix ?_
      rw [readGivenChar_eq hchar]
      exact List.mem_cons_self

theorem length_showIpv6_le (address : BitVec 128) : (showIpv6 address).length ≤ 80 := by
  have hdigits : ∀ group ∈ segments address, (Nat.toDigits 16 group).length ≤ 4 :=
    fun group hgroup => (Nat.length_toDigits_le_iff (by decide) (by decide)).mpr
      (groupsOf_lt hgroup)
  have hlength : (segments address).length = 8 := length_groupsOf 8 _
  rw [showIpv6]
  simp only
  split
  · have hipv4 := length_showIpv4_le (address.extractLsb' 0 32)
    rw [List.length_append, show "::ffff:".toList.length = 7 from rfl]
    omega
  · split
    · have hhead := length_showSeparated_le ':'
        (fun group (hgroup : group ∈ (segments address).take (zeroes (segments address)).start) =>
          hdigits group (List.mem_of_mem_take hgroup))
      have htail := length_showSeparated_le ':'
        (fun group (hgroup : group ∈ (segments address).drop
            ((zeroes (segments address)).start + (zeroes (segments address)).len)) =>
          hdigits group (List.mem_of_mem_drop hgroup))
      have hbound := (zeroes_in (segments address)).1
      rw [List.length_take] at hhead
      rw [List.length_drop] at htail
      rw [List.length_append, List.length_append, show "::".toList.length = 2 from rfl]
      omega
    · have h := length_showSeparated_le ':' hdigits
      omega

end RouterView.Foundation
