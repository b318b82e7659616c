/-
  Foundation/IpText.lean --- addresses as text.

  The parser of `core::net` behind `str::parse::<IpAddr>`: four decimal numbers, or
  groups of hexadecimal digits with at most one `::` and an embedded IPv4 address at
  the end.  Each reader takes what it can use from the front of the text.  What the
  parser accepts has only the characters of addresses in it.
-/
import Mathlib.Tactic

set_option autoImplicit false

namespace RouterView.Foundation

/-! ## Readers -/

/-- The value of a digit or letter as a digit. -/
def digitValue (c : Char) : Option Nat :=
  if c.isDigit then some (c.toNat - '0'.toNat)
  else if c.isLower then some (c.toNat - 'a'.toNat + 10)
  else if c.isUpper then some (c.toNat - 'A'.toNat + 10)
  else none

/-- `char::to_digit`. -/
def toDigit (radix : Nat) (c : Char) : Option Nat :=
  (digitValue c).filter (fun value => decide (value < radix))

/-- The loop of `read_number`: the value and the number of the digits read so far. -/
def readDigits (radix maxDigits : Nat) : List Char → Nat → Nat → Option (Nat × Nat × List Char)
  | [], value, count => some (value, count, [])
  | c :: rest, value, count =>
      match toDigit radix c with
      | none => some (value, count, c :: rest)
      | some digit =>
          if count + 1 > maxDigits then none
          else readDigits radix maxDigits rest (value * radix + digit) (count + 1)

/-- `Parser::read_number`, of a number below the bound. -/
def readNumber (radix maxDigits bound : Nat) (allowZeroPrefix : Bool) (cs : List Char) :
    Option (Nat × List Char) :=
  (readDigits radix maxDigits cs 0 0).bind (fun (value, count, rest) =>
    if count = 0 then none
    else if !allowZeroPrefix && cs.head? == some '0' && decide (1 < count) then none
    else if value < bound then some (value, rest) else none)

/-- `Parser::read_given_char`. -/
def readGivenChar (target : Char) : List Char → Option (List Char)
  | [] => none
  | c :: rest => if c = target then some rest else none

/-- `Parser::read_separator`. -/
def readSeparator {α : Type} (separator : Char) (index : Nat)
    (inner : List Char → Option (α × List Char)) (cs : List Char) : Option (α × List Char) :=
  if 0 < index then (readGivenChar separator cs).bind inner else inner cs

/-- A number of an IPv4 address. -/
def readOctet (index : Nat) (cs : List Char) : Option (Nat × List Char) :=
  readSeparator '.' index (readNumber 10 3 256 false) cs

/-- `Parser::read_ipv4_addr`. -/
def readIpv4Addr (cs : List Char) : Option (BitVec 32 × List Char) :=
  (readOctet 0 cs).bind (fun (a, cs) =>
    (readOctet 1 cs).bind (fun (b, cs) =>
      (readOctet 2 cs).bind (fun (c, cs) =>
        (readOctet 3 cs).bind (fun (d, cs) =>
          some (BitVec.ofNat 8 a ++ BitVec.ofNat 8 b ++ BitVec.ofNat 8 c ++ BitVec.ofNat 8 d,
            cs)))))

/-- A group of an IPv6 address. -/
def readGroup (index : Nat) (cs : List Char) : Option (Nat × List Char) :=
  readSeparator ':' index (readNumber 16 4 65536 true) cs

/-- The groups of an IPv6 address, as far as they go: up to `limit` of them, of which
some are still to be read, and whether the last two were an IPv4 address. -/
def readGroups (limit : Nat) : Nat → List Char → List Nat × Bool × List Char
  | 0, cs => ([], false, cs)
  | remaining + 1, cs =>
      let index := limit - (remaining + 1)
      let embedded := if 0 < remaining then readSeparator ':' index readIpv4Addr cs else none
      match embedded with
      | some (address, rest) =>
          ([(address.extractLsb' 16 16).toNat, (address.extractLsb' 0 16).toNat], true, rest)
      | none =>
          match readGroup index cs with
          | some (group, rest) =>
              let more := readGroups limit remaining rest
              (group :: more.1, more.2.1, more.2.2)
          | none => ([], false, cs)

/-- The address with the groups at its head and at its tail, and zeros between. -/
def ipv6OfGroups (head tail : List Nat) : BitVec 128 :=
  BitVec.ofNat 128 ((head ++ List.replicate (8 - head.length - tail.length) 0 ++ tail).foldl
    (fun value group => value * 65536 + group) 0)

/-- `Parser::read_ipv6_addr`. -/
def readIpv6Addr (cs : List Char) : Option (BitVec 128 × List Char) :=
  let (head, headIpv4, rest) := readGroups 8 8 cs
  if head.length = 8 then some (ipv6OfGroups head [], rest)
  else if headIpv4 then none
  else
    (readGivenChar ':' rest).bind (fun rest =>
      (readGivenChar ':' rest).bind (fun rest =>
        let limit := 8 - (head.length + 1)
        let (tail, _, rest) := readGroups limit limit rest
        some (ipv6OfGroups head tail, rest)))

/-! ## The characters of an address -/

/-- A hexadecimal digit, a dot or a colon. -/
def IsAddressChar (c : Char) : Prop := (toDigit 16 c).isSome = true ∨ c = '.' ∨ c = ':'

/-- What a reader took from the front. -/
def Took (cs rest : List Char) : Prop := ∃ read, cs = read ++ rest ∧ ∀ c ∈ read, IsAddressChar c

theorem Took.refl (cs : List Char) : Took cs cs :=
  ⟨[], rfl, fun _ hc => absurd hc List.not_mem_nil⟩

theorem Took.trans {first second third : List Char} (h : Took first second)
    (h' : Took second third) : Took first third := by
  obtain ⟨read, rfl, hread⟩ := h
  obtain ⟨read', rfl, hread'⟩ := h'
  refine ⟨read ++ read', (List.append_assoc read read' third).symm, ?_⟩
  intro c hc
  exact (List.mem_append.mp hc).elim (hread c) (hread' c)

theorem Took.cons {c : Char} (hc : IsAddressChar c) (rest : List Char) : Took (c :: rest) rest :=
  ⟨[c], rfl, fun _ hd => (List.mem_singleton.mp hd) ▸ hc⟩

/-- A reader of addresses takes characters of addresses. -/
def TakesAddress {α : Type} (reader : List Char → Option (α × List Char)) : Prop :=
  ∀ {cs a rest}, reader cs = some (a, rest) → Took cs rest

theorem toDigit_some {radix digit : Nat} {c : Char} (hradix : radix ≤ 16)
    (h : toDigit radix c = some digit) : IsAddressChar c := by
  obtain ⟨hvalue, hlt⟩ := Option.filter_eq_some_iff.mp h
  have hsmall : digit < 16 := lt_of_lt_of_le (of_decide_eq_true hlt) hradix
  left
  rw [toDigit, hvalue, Option.filter_some, decide_eq_true hsmall]
  rfl

theorem readDigits_took {radix maxDigits : Nat} (hradix : radix ≤ 16) {cs rest : List Char}
    {value count value' count' : Nat}
    (h : readDigits radix maxDigits cs value count = some (value', count', rest)) :
    Took cs rest := by
  induction cs generalizing value count with
  | nil =>
      cases h
      exact Took.refl []
  | cons c more ih =>
      unfold readDigits at h
      cases hdigit : toDigit radix c with
      | none =>
          rw [hdigit] at h
          cases h
          exact Took.refl _
      | some digit =>
          simp only [hdigit] at h
          split at h
          · cases h
          · exact (Took.cons (toDigit_some hradix hdigit) more).trans (ih h)

theorem readNumber_took {radix maxDigits bound : Nat} (hradix : radix ≤ 16)
    (allowZeroPrefix : Bool) : TakesAddress (readNumber radix maxDigits bound allowZeroPrefix) := by
  intro cs a rest h
  obtain ⟨⟨value, count, left⟩, hdigits, h⟩ := Option.bind_eq_some_iff.mp h
  simp only at h
  split at h
  · cases h
  · split at h
    · cases h
    · split at h
      · cases h
        exact readDigits_took hradix hdigits
      · cases h

theorem readGivenChar_took {target : Char} (htarget : IsAddressChar target)
    {cs rest : List Char} (h : readGivenChar target cs = some rest) : Took cs rest := by
  unfold readGivenChar at h
  split at h
  · cases h
  · split at h
    · rename_i heq
      cases h
      exact Took.cons (heq ▸ htarget) _
    · cases h

theorem readSeparator_took {α : Type} {separator : Char} (hseparator : IsAddressChar separator)
    (index : Nat) {inner : List Char → Option (α × List Char)} (hinner : TakesAddress inner) :
    TakesAddress (readSeparator separator index inner) := by
  intro cs a rest h
  unfold readSeparator at h
  split at h
  · obtain ⟨left, hchar, h⟩ := Option.bind_eq_some_iff.mp h
    exact (readGivenChar_took hseparator hchar).trans (hinner h)
  · exact hinner h

theorem readOctet_took (index : Nat) : TakesAddress (readOctet index) :=
  readSeparator_took (Or.inr (Or.inl rfl)) index (readNumber_took (by decide) false)

theorem readGroup_took (index : Nat) : TakesAddress (readGroup index) :=
  readSeparator_took (Or.inr (Or.inr rfl)) index (readNumber_took (by decide) true)

theorem readIpv4Addr_took : TakesAddress readIpv4Addr := by
  intro cs address rest h
  obtain ⟨⟨a, first⟩, ha, h⟩ := Option.bind_eq_some_iff.mp h
  obtain ⟨⟨b, second⟩, hb, h⟩ := Option.bind_eq_some_iff.mp h
  obtain ⟨⟨c, third⟩, hc, h⟩ := Option.bind_eq_some_iff.mp h
  obtain ⟨⟨d, fourth⟩, hd, h⟩ := Option.bind_eq_some_iff.mp h
  cases h
  exact (readOctet_took 0 ha).trans ((readOctet_took 1 hb).trans
    ((readOctet_took 2 hc).trans (readOctet_took 3 hd)))

theorem readGroups_took (limit remaining : Nat) (cs : List Char) :
    Took cs (readGroups limit remaining cs).2.2 := by
  induction remaining generalizing cs with
  | zero => exact Took.refl cs
  | succ remaining ih =>
      unfold readGroups
      simp only
      split
      · rename_i address rest hembedded
        split at hembedded
        · exact readSeparator_took (Or.inr (Or.inr rfl)) _ readIpv4Addr_took hembedded
        · cases hembedded
      · split
        · rename_i group rest hgroup
          exact (readGroup_took _ hgroup).trans (ih rest)
        · exact Took.refl cs

theorem readIpv6Addr_took : TakesAddress readIpv6Addr := by
  intro cs address rest h
  have hhead := readGroups_took 8 8 cs
  unfold readIpv6Addr at h
  generalize readGroups 8 8 cs = read at h hhead
  obtain ⟨head, headIpv4, left⟩ := read
  simp only at h hhead
  split at h
  · cases h
    exact hhead
  · split at h
    · cases h
    · obtain ⟨first, hfirst, h⟩ := Option.bind_eq_some_iff.mp h
      obtain ⟨second, hsecond, h⟩ := Option.bind_eq_some_iff.mp h
      cases h
      have hcolon : IsAddressChar ':' := Or.inr (Or.inr rfl)
      exact hhead.trans ((readGivenChar_took hcolon hfirst).trans
        ((readGivenChar_took hcolon hsecond).trans (readGroups_took _ _ second)))

end RouterView.Foundation
