/-
  Foundation/IpPrint.lean --- IPv4 addresses printed, and read back.

  The `Display` of `core::net` for IPv4: the numbers of the address in decimal.  What
  is printed is read back as the address, and an address is read from nothing but
  what it is printed as.
-/
import RouterView.Foundation.IpText

set_option autoImplicit false

namespace RouterView.Foundation

/-! ## Numbers -/

theorem digitValue_digitChar {digit : Nat} (h : digit < 16) :
    digitValue (Nat.digitChar digit) = some digit :=
  (by decide : ∀ d < 16, digitValue (Nat.digitChar d) = some d) digit h

theorem toDigit_digitChar {radix digit : Nat} (hradix : radix ≤ 16) (h : digit < radix) :
    toDigit radix (Nat.digitChar digit) = some digit := by
  rw [toDigit, digitValue_digitChar (lt_of_lt_of_le h hradix), Option.filter_some,
    decide_eq_true h]
  rfl

theorem digitChar_of_toDigit {c : Char} {digit : Nat} (h : toDigit 10 c = some digit) :
    digit < 10 ∧ Nat.digitChar digit = c := by
  obtain ⟨hvalue, hlt⟩ := Option.filter_eq_some_iff.mp h
  have hsmall : digit < 10 := of_decide_eq_true hlt
  refine ⟨hsmall, ?_⟩
  unfold digitValue at hvalue
  split at hvalue
  · rename_i hdigit
    have hzero : 48 ≤ c.toNat := (Char.isDigit_iff_toNat.mp hdigit).1
    have heq : c.toNat - 48 = digit := Option.some.inj hvalue
    apply Char.toNat_inj.mp
    rw [Nat.toNat_digitChar_of_lt_ten hsmall]
    change c.toNat - 48 = digit at heq
    omega
  · split at hvalue
    · have heq := Option.some.inj hvalue
      omega
    · split at hvalue
      · have heq := Option.some.inj hvalue
        omega
      · cases hvalue

/-- A text at which the digits of a number end. -/
def EndsDigits (radix : Nat) : List Char → Prop
  | [] => True
  | c :: _ => toDigit radix c = none

/-- Reading the digits of a number goes on behind them with the number. -/
theorem readDigits_toDigits {radix maxDigits : Nat} (hlow : 1 < radix) (hhigh : radix ≤ 16)
    (n count : Nat) (rest : List Char)
    (hcount : count + (Nat.toDigits radix n).length ≤ maxDigits) :
    readDigits radix maxDigits (Nat.toDigits radix n ++ rest) 0 count =
      readDigits radix maxDigits rest n (count + (Nat.toDigits radix n).length) := by
  have hread : ∀ {digit value count : Nat} (rest : List Char), digit < radix →
      count + 1 ≤ maxDigits →
      readDigits radix maxDigits (Nat.digitChar digit :: rest) value count =
        readDigits radix maxDigits rest (value * radix + digit) (count + 1) := by
    intro digit value count rest hdigit hroom
    rw [readDigits, toDigit_digitChar hhigh hdigit]
    exact if_neg (by omega)
  induction n using Nat.strong_induction_on generalizing rest with
  | h n ih =>
      obtain hsmall | hlarge := Nat.lt_or_ge n radix
      · rw [Nat.toDigits_of_lt_base hsmall] at hcount ⊢
        rw [List.singleton_append, hread rest hsmall hcount, Nat.zero_mul, Nat.zero_add]
        rfl
      · rw [Nat.toDigits_of_base_le hlow hlarge, List.length_append] at hcount ⊢
        have hless : n / radix < n := Nat.div_lt_self (by omega) hlow
        rw [List.length_singleton] at hcount
        rw [List.append_assoc, ih (n / radix) hless _ (by omega), List.singleton_append,
          hread rest (Nat.mod_lt n (by omega)) (by omega), Nat.div_add_mod']
        rfl

theorem readDigits_end {radix maxDigits value count : Nat} {rest : List Char}
    (h : EndsDigits radix rest) :
    readDigits radix maxDigits rest value count = some (value, count, rest) := by
  cases rest with
  | nil => rfl
  | cons c rest => rw [readDigits, show toDigit radix c = none from h]

/-- Only zero is printed with a zero in front. -/
theorem toDigits_head {radix n : Nat} (hlow : 1 < radix)
    (h : (Nat.toDigits radix n).head? = some '0') : n = 0 := by
  induction n using Nat.strong_induction_on with
  | h n ih =>
      obtain hsmall | hlarge := Nat.lt_or_ge n radix
      · rw [Nat.toDigits_of_lt_base hsmall] at h
        exact Nat.digitChar_eq_zero.mp (Option.some.inj h)
      · rw [Nat.toDigits_of_base_le hlow hlarge, List.head?_append_of_ne_nil _
          Nat.toDigits_ne_nil] at h
        have hzero := ih (n / radix) (Nat.div_lt_self (by omega) hlow) h
        have hpos : 0 < n / radix := Nat.div_pos hlarge (by omega)
        omega

/-- A number that is printed is read, up to what follows. -/
theorem readNumber_toDigits {radix maxDigits bound n : Nat} (hlow : 1 < radix)
    (hhigh : radix ≤ 16) (hbound : n < bound) (hdigits : n < radix ^ maxDigits)
    (hmax : 0 < maxDigits) (allowZeroPrefix : Bool) {rest : List Char}
    (hrest : EndsDigits radix rest) :
    readNumber radix maxDigits bound allowZeroPrefix (Nat.toDigits radix n ++ rest) =
      some (n, rest) := by
  have hlength : (Nat.toDigits radix n).length ≤ maxDigits :=
    (Nat.length_toDigits_le_iff hlow hmax).mpr hdigits
  have hpos : 0 < (Nat.toDigits radix n).length := Nat.length_toDigits_pos
  rw [readNumber, readDigits_toDigits hlow hhigh n 0 rest (by omega), readDigits_end hrest]
  simp only [Option.bind_some, Nat.zero_add]
  rw [if_neg (by omega), if_neg, if_pos hbound]
  rintro h
  simp only [Bool.and_eq_true, decide_eq_true_eq, beq_iff_eq,
    List.head?_append_of_ne_nil _ Nat.toDigits_ne_nil] at h
  obtain ⟨⟨_, hhead⟩, hlong⟩ := h
  rw [toDigits_head hlow hhead, Nat.toDigits_zero] at hlong
  exact absurd hlong (by decide)

/-- The digits that are read are those of the number, once it is not zero. -/
theorem toDigits_of_readDigits {maxDigits : Nat} {cs rest : List Char}
    {value count value' count' : Nat} (hvalue : 0 < value)
    (h : readDigits 10 maxDigits cs value count = some (value', count', rest)) :
    Nat.toDigits 10 value ++ cs = Nat.toDigits 10 value' ++ rest := by
  induction cs generalizing value count with
  | nil =>
      cases h
      rfl
  | cons c cs ih =>
      rw [readDigits] at h
      cases hdigit : toDigit 10 c with
      | none =>
          rw [hdigit] at h
          cases h
          rfl
      | some digit =>
          rw [hdigit] at h
          obtain ⟨hsmall, hchar⟩ := digitChar_of_toDigit hdigit
          simp only at h
          split at h
          · cases h
          · have happend := Nat.toDigits_append_toDigits (b := 10) (by decide) hvalue hsmall
            rw [Nat.toDigits_of_lt_base hsmall, hchar, Nat.mul_comm 10 value] at happend
            rw [← ih (by omega) h, ← happend, List.append_assoc, List.singleton_append]

theorem count_le_of_readDigits {radix maxDigits : Nat} {cs rest : List Char}
    {value count value' count' : Nat}
    (h : readDigits radix maxDigits cs value count = some (value', count', rest)) :
    count < count' ∨ (cs = rest ∧ value = value' ∧ count = count') := by
  induction cs generalizing value count with
  | nil =>
      cases h
      exact Or.inr ⟨rfl, rfl, rfl⟩
  | cons c cs ih =>
      rw [readDigits] at h
      split at h
      · cases h
        exact Or.inr ⟨rfl, rfl, rfl⟩
      · split at h
        · cases h
        · obtain hless | ⟨_, _, heq⟩ := ih h <;> left <;> omega

/-- A decimal number that is read without zeros in front is read from its own print. -/
theorem toDigits_of_readNumber {maxDigits bound n : Nat} {cs rest : List Char}
    (h : readNumber 10 maxDigits bound false cs = some (n, rest)) :
    cs = Nat.toDigits 10 n ++ rest ∧ n < bound := by
  obtain ⟨⟨value, count, left⟩, hdigits, h⟩ := Option.bind_eq_some_iff.mp h
  simp only at h
  split at h
  · cases h
  · rename_i hcount
    split at h
    · cases h
    · rename_i hprefix
      split at h
      · rename_i hbound
        cases h
        refine ⟨?_, hbound⟩
        cases cs with
        | nil =>
            cases hdigits
            exact absurd rfl hcount
        | cons c cs =>
            rw [readDigits] at hdigits
            cases hdigit : toDigit 10 c with
            | none =>
                rw [hdigit] at hdigits
                cases hdigits
                exact absurd rfl hcount
            | some digit =>
                rw [hdigit] at hdigits
                obtain ⟨hsmall, hchar⟩ := digitChar_of_toDigit hdigit
                simp only at hdigits
                split at hdigits
                · cases hdigits
                · rw [Nat.zero_mul, Nat.zero_add] at hdigits
                  obtain rfl | hpos := Nat.eq_zero_or_pos digit
                  · -- A zero in front is the whole number.
                    obtain hless | ⟨rfl, rfl, _⟩ := count_le_of_readDigits hdigits
                    · refine absurd ?_ hprefix
                      rw [← hchar]
                      simp only [List.head?_cons, Bool.not_false, Bool.true_and,
                        Bool.and_eq_true, decide_eq_true_eq]
                      exact ⟨rfl, by omega⟩
                    · rw [Nat.toDigits_zero, ← hchar]
                      rfl
                  · rw [← toDigits_of_readDigits hpos hdigits, Nat.toDigits_of_lt_base hsmall,
                      hchar]
                    rfl
      · cases h

/-! ## IPv4 -/

/-- The numbers of an IPv4 address. -/
def octets (address : BitVec 32) : List Nat :=
  [(address.extractLsb' 24 8).toNat, (address.extractLsb' 16 8).toNat,
    (address.extractLsb' 8 8).toNat, (address.extractLsb' 0 8).toNat]

/-- Numbers, each behind a separator but the first. -/
def showSeparated (radix : Nat) (separator : Char) : List Nat → List Char
  | [] => []
  | first :: tail =>
      Nat.toDigits radix first ++ tail.flatMap (fun n => separator :: Nat.toDigits radix n)

/-- `Ipv4Addr` printed. -/
def showIpv4 (address : BitVec 32) : List Char := showSeparated 10 '.' (octets address)

theorem octets_append (a b c d : BitVec 8) :
    octets (a ++ b ++ c ++ d) = [a.toNat, b.toNat, c.toNat, d.toNat] := by
  have ha : (a ++ b ++ c ++ d).extractLsb' 24 8 = a := by
    rw [BitVec.extractLsb'_append_eq_of_le (by decide),
      BitVec.extractLsb'_append_eq_of_le (by decide),
      BitVec.extractLsb'_append_eq_of_le (by decide)]
    exact BitVec.extractLsb'_eq_self
  have hb : (a ++ b ++ c ++ d).extractLsb' 16 8 = b := by
    rw [BitVec.extractLsb'_append_eq_of_le (by decide),
      BitVec.extractLsb'_append_eq_of_le (by decide)]
    exact BitVec.extractLsb'_append_eq_right
  have hc : (a ++ b ++ c ++ d).extractLsb' 8 8 = c := by
    rw [BitVec.extractLsb'_append_eq_of_le (by decide)]
    exact BitVec.extractLsb'_append_eq_right
  rw [octets, ha, hb, hc, BitVec.extractLsb'_append_eq_right]

theorem append_octets (address : BitVec 32) :
    address.extractLsb' 24 8 ++ address.extractLsb' 16 8 ++ address.extractLsb' 8 8 ++
      address.extractLsb' 0 8 = address := by
  rw [BitVec.extractLsb'_append_extractLsb'_eq_extractLsb' (show 24 = 16 + 8 from rfl),
    BitVec.extractLsb'_append_extractLsb'_eq_extractLsb' (show 16 = 8 + 8 from rfl),
    BitVec.extractLsb'_append_extractLsb'_eq_extractLsb' (show 8 = 0 + 8 from rfl)]
  exact BitVec.extractLsb'_eq_self

/-- A number of an address that is printed is read. -/
theorem readOctet_toDigits {n : Nat} (hn : n < 256) (index : Nat) {rest : List Char}
    (hrest : EndsDigits 10 rest) :
    readOctet index ((if 0 < index then ['.'] else []) ++ Nat.toDigits 10 n ++ rest) =
      some (n, rest) := by
  have hread : readNumber 10 3 256 false (Nat.toDigits 10 n ++ rest) = some (n, rest) :=
    readNumber_toDigits (by decide) (by decide) hn (by omega) (by decide) false hrest
  rw [readOctet, readSeparator]
  split
  · exact hread
  · exact hread

/-- What is printed of an IPv4 address is read back, up to what follows. -/
theorem readIpv4Addr_showIpv4 (address : BitVec 32) {rest : List Char}
    (hrest : EndsDigits 10 rest) :
    readIpv4Addr (showIpv4 address ++ rest) = some (address, rest) := by
  have hdot : ∀ more : List Char, EndsDigits 10 ('.' :: more) := fun _ => rfl
  have hlt : ∀ x : BitVec 8, x.toNat < 256 := fun x => x.isLt
  have hfirst := fun more => readOctet_toDigits (hlt (address.extractLsb' 24 8)) 0
    (hdot (Nat.toDigits 10 (address.extractLsb' 16 8).toNat ++ more))
  have hsecond := fun more => readOctet_toDigits (hlt (address.extractLsb' 16 8)) 1
    (hdot (Nat.toDigits 10 (address.extractLsb' 8 8).toNat ++ more))
  have hthird := fun more => readOctet_toDigits (hlt (address.extractLsb' 8 8)) 2
    (hdot (Nat.toDigits 10 (address.extractLsb' 0 8).toNat ++ more))
  have hfourth := readOctet_toDigits (hlt (address.extractLsb' 0 8)) 3 hrest
  simp only [Nat.lt_irrefl, if_false, Nat.zero_lt_succ, if_true, List.nil_append,
    List.cons_append] at hfirst hsecond hthird hfourth
  simp only [showIpv4, octets, showSeparated, List.flatMap_cons, List.flatMap_nil,
    List.append_nil, List.append_assoc, List.cons_append]
  simp only [readIpv4Addr, hfirst, hsecond, hthird, hfourth, Option.bind_some,
    BitVec.ofNat_toNat, BitVec.setWidth_eq, append_octets]

/-- An IPv4 address is read from nothing but what it is printed as. -/
theorem eq_showIpv4_of_read {cs rest : List Char} {address : BitVec 32}
    (h : readIpv4Addr cs = some (address, rest)) : cs = showIpv4 address ++ rest := by
  have hnext : ∀ {index n : Nat} {cs rest : List Char}, 0 < index →
      readOctet index cs = some (n, rest) →
      cs = '.' :: (Nat.toDigits 10 n ++ rest) ∧ n < 256 := by
    intro index n cs rest hindex hread
    rw [readOctet, readSeparator, if_pos hindex] at hread
    obtain ⟨left, hchar, hread⟩ := Option.bind_eq_some_iff.mp hread
    obtain ⟨rfl, hlt⟩ := toDigits_of_readNumber hread
    cases cs with
    | nil => cases hchar
    | cons c cs =>
        rw [readGivenChar] at hchar
        split at hchar
        · rename_i heq
          cases hchar
          exact ⟨by rw [heq], hlt⟩
        · cases hchar
  obtain ⟨⟨a, first⟩, ha, h⟩ := Option.bind_eq_some_iff.mp h
  obtain ⟨⟨b, second⟩, hb, h⟩ := Option.bind_eq_some_iff.mp h
  obtain ⟨⟨c, third⟩, hc, h⟩ := Option.bind_eq_some_iff.mp h
  obtain ⟨⟨d, fourth⟩, hd, h⟩ := Option.bind_eq_some_iff.mp h
  cases h
  obtain ⟨rfl, halt⟩ := toDigits_of_readNumber ha
  obtain ⟨rfl, hblt⟩ := hnext (by decide) hb
  obtain ⟨rfl, hclt⟩ := hnext (by decide) hc
  obtain ⟨rfl, hdlt⟩ := hnext (by decide) hd
  rw [showIpv4, octets_append]
  simp only [BitVec.toNat_ofNat, Nat.reducePow, Nat.mod_eq_of_lt halt, Nat.mod_eq_of_lt hblt,
    Nat.mod_eq_of_lt hclt, Nat.mod_eq_of_lt hdlt, showSeparated, List.flatMap_cons,
    List.flatMap_nil, List.append_nil, List.append_assoc, List.cons_append]

/-! ## Lengths -/

theorem length_showSeparated_le {radix maxDigits : Nat} (separator : Char) {ns : List Nat}
    (h : ∀ n ∈ ns, (Nat.toDigits radix n).length ≤ maxDigits) :
    (showSeparated radix separator ns).length ≤ ns.length * (maxDigits + 1) := by
  have htail : ∀ {tail : List Nat}, (∀ n ∈ tail, (Nat.toDigits radix n).length ≤ maxDigits) →
      (tail.flatMap (fun n => separator :: Nat.toDigits radix n)).length ≤
        tail.length * (maxDigits + 1) := by
    intro tail
    induction tail with
    | nil => exact fun _ => Nat.zero_le _
    | cons n tail ih =>
        intro htail
        have hn := htail n List.mem_cons_self
        have hmore := ih (fun m hm => htail m (List.mem_cons_of_mem n hm))
        rw [List.flatMap_cons, List.length_append, List.length_cons, List.length_cons,
          Nat.succ_mul]
        omega
  cases ns with
  | nil => exact Nat.zero_le _
  | cons first tail =>
      have hfirst := h first List.mem_cons_self
      have hmore := htail (fun m hm => h m (List.mem_cons_of_mem first hm))
      rw [showSeparated, List.length_append, List.length_cons, Nat.succ_mul]
      omega

theorem length_showIpv4_le (address : BitVec 32) : (showIpv4 address).length ≤ 16 := by
  have hlt : ∀ x : BitVec 8, (Nat.toDigits 10 x.toNat).length ≤ 3 := fun x =>
    (Nat.length_toDigits_le_iff (by decide) (by decide)).mpr
      (lt_of_lt_of_le x.isLt (by decide))
  have hoctets : ∀ n ∈ octets address, (Nat.toDigits 10 n).length ≤ 3 := by
    simp only [octets, List.forall_mem_cons]
    exact ⟨hlt _, hlt _, hlt _, hlt _, fun _ h => absurd h List.not_mem_nil⟩
  exact length_showSeparated_le '.' hoctets

end RouterView.Foundation
