/-
  Foundation/Text.lean --- the text functions the code relies on.

  `str::trim` removes the Unicode `White_Space` characters, which are more than the ASCII
  ones; the byte-wise predicates of the code only ask for ASCII bytes and are therefore
  stated on characters.  A text has at least as many bytes as characters, and as many if it
  is ASCII.  A text that was trimmed, or that has no whitespace at its ends, is not trimmed
  further, and changing the characters of a text one by one changes those of its pieces.
  `str::parse` of an unsigned number reads an optional plus sign and at least one ASCII
  digit, and fails when the value does not fit; what `to_string` writes it reads back.
  Left out: normalisation, and any case mapping beyond ASCII.
-/
import Mathlib.Data.List.TakeWhile
import Mathlib.Tactic

set_option autoImplicit false

namespace RouterView.Foundation

/-! ## White space -/

/-- `char::is_whitespace`: the Unicode property `White_Space`. -/
def isWhitespace (c : Char) : Bool :=
  let n := c.toNat
  (0x9 ≤ n && n ≤ 0xD) || n == 0x20 || n == 0x85 || n == 0xA0 || n == 0x1680 ||
    (0x2000 ≤ n && n ≤ 0x200A) || n == 0x2028 || n == 0x2029 || n == 0x202F ||
    n == 0x205F || n == 0x3000

/-- The characters that are left of a text when it is trimmed. -/
def trimChars (cs : List Char) : List Char :=
  ((cs.dropWhile isWhitespace).reverse.dropWhile isWhitespace).reverse

/-- `str::trim`. -/
def trim (s : String) : String := String.ofList (trimChars s.toList)

/-- `value.trim().is_empty()`. -/
def isBlank (s : String) : Bool := s.toList.all isWhitespace

/-- Not empty, and every byte an ASCII digit. -/
def isDecimal (s : String) : Bool := !s.toList.isEmpty && s.toList.all Char.isDigit

/-- `str::to_ascii_lowercase`. -/
def toAsciiLowercase (s : String) : String := String.ofList (s.toList.map Char.toLower)

/-- The first character of a text is that of its first non-empty part. -/
theorem head_append {s t : String} {c : Char} (h : s.toList.head? = some c) :
    (s ++ t).toList.head? = some c := by
  rw [String.toList_append, List.head?_append, h]
  rfl

/-! ## Bytes -/

/-- `str::as_bytes`. -/
def asBytes (s : String) : List UInt8 := s.toByteArray.data.toList

theorem asBytes_inj {s t : String} : asBytes s = asBytes t ↔ s = t := by
  constructor
  · intro h
    exact String.toByteArray_inj.mp (ByteArray.ext (Array.toList_inj.mp h))
  · rintro rfl
    rfl

theorem asBytes_eq (s : String) : asBytes s = s.toList.flatMap String.utf8EncodeChar := by
  rw [asBytes, ← String.utf8Encode_toList, List.utf8Encode, List.data_toByteArray]

theorem utf8ByteSize_ofList_cons (c : Char) (cs : List Char) :
    (String.ofList (c :: cs)).utf8ByteSize = c.utf8Size + (String.ofList cs).utf8ByteSize := by
  rw [String.ofList_cons, String.utf8ByteSize_append, String.utf8ByteSize_singleton]

theorem length_le_utf8ByteSize (s : String) : s.toList.length ≤ s.utf8ByteSize := by
  have h : ∀ cs : List Char, cs.length ≤ (String.ofList cs).utf8ByteSize := by
    intro cs
    induction cs with
    | nil => exact Nat.zero_le _
    | cons c cs ih =>
        have hpos := Char.utf8Size_pos c
        rw [utf8ByteSize_ofList_cons, List.length_cons]
        omega
  have hs := h s.toList
  rwa [String.ofList_toList] at hs

/-- An ASCII character. -/
def IsAscii (c : Char) : Prop := c.toNat ≤ 127

theorem utf8ByteSize_of_ascii {cs : List Char} (h : ∀ c ∈ cs, IsAscii c) :
    (String.ofList cs).utf8ByteSize = cs.length := by
  induction cs with
  | nil => rfl
  | cons c cs ih =>
      have hsize : c.utf8Size = 1 :=
        Char.utf8Size_eq_one_iff.mpr (UInt32.le_iff_toNat_le.mpr (h c List.mem_cons_self))
      rw [utf8ByteSize_ofList_cons, hsize, ih (fun d hd => h d (List.mem_cons_of_mem c hd)),
        List.length_cons, Nat.add_comm]

/-! ## Letters and digits -/

theorem isAlphanum_iff {c : Char} :
    c.isAlphanum = true ↔ (48 ≤ c.toNat ∧ c.toNat ≤ 57) ∨ (65 ≤ c.toNat ∧ c.toNat ≤ 90) ∨
      (97 ≤ c.toNat ∧ c.toNat ≤ 122) := by
  have hle : ∀ {a b : UInt32}, a ≤ b ↔ a.toNat ≤ b.toNat := UInt32.le_iff_toNat_le
  have hupper : c.isUpper = true ↔ 65 ≤ c.toNat ∧ c.toNat ≤ 90 := by
    constructor
    · intro h
      obtain ⟨hlow, hhigh⟩ := of_decide_eq_true h
      exact ⟨hle.mp hlow, hle.mp hhigh⟩
    · rintro ⟨hlow, hhigh⟩
      exact decide_eq_true ⟨hle.mpr hlow, hle.mpr hhigh⟩
  have hlower : c.isLower = true ↔ 97 ≤ c.toNat ∧ c.toNat ≤ 122 := by
    constructor
    · intro h
      obtain ⟨hlow, hhigh⟩ := Bool.and_eq_true_iff.mp h
      exact ⟨hle.mp (of_decide_eq_true hlow), hle.mp (of_decide_eq_true hhigh)⟩
    · rintro ⟨hlow, hhigh⟩
      exact Bool.and_eq_true_iff.mpr
        ⟨decide_eq_true (hle.mpr hlow), decide_eq_true (hle.mpr hhigh)⟩
  have hdigit : c.isDigit = true ↔ 48 ≤ c.toNat ∧ c.toNat ≤ 57 := Char.isDigit_iff_toNat
  have hunfold : c.isAlphanum = ((c.isUpper || c.isLower) || c.isDigit) := rfl
  rw [hunfold, Bool.or_eq_true, Bool.or_eq_true, hupper, hlower, hdigit]
  omega

/-- `char::to_ascii_lowercase` moves the capitals. -/
theorem toNat_toLower (c : Char) :
    c.toLower.toNat = if 65 ≤ c.toNat ∧ c.toNat ≤ 90 then c.toNat + 32 else c.toNat := by
  have hle : ∀ {a b : UInt32}, a ≤ b ↔ a.toNat ≤ b.toNat := UInt32.le_iff_toNat_le
  unfold Char.toLower
  split
  · rename_i hupper
    have hnat : 65 ≤ c.toNat ∧ c.toNat ≤ 90 := ⟨hle.mp hupper.1, hle.mp hupper.2⟩
    rw [if_pos hnat]
    change (c.toNat + 32) % 4294967296 = c.toNat + 32
    omega
  · rename_i hother
    rw [if_neg]
    exact fun hnat => hother ⟨hle.mpr hnat.1, hle.mpr hnat.2⟩

theorem toLower_toLower (c : Char) : c.toLower.toLower = c.toLower := by
  apply Char.toNat_inj.mp
  rw [toNat_toLower, if_neg]
  rw [toNat_toLower]
  split <;> omega

theorem isAlphanum_toLower {c : Char} (h : c.isAlphanum = true) : c.toLower.isAlphanum = true := by
  rw [isAlphanum_iff] at h ⊢
  rw [toNat_toLower]
  split <;> omega

/-- What is no letter is the lower case of nothing else. -/
theorem toLower_eq_iff {c other : Char} (h : other.toNat < 65) :
    c.toLower = other ↔ c = other := by
  rw [← Char.toNat_inj, ← Char.toNat_inj, toNat_toLower]
  split <;> omega

/-! ## Trimming -/

theorem toList_trim (s : String) : (trim s).toList = trimChars s.toList := by
  rw [trim, String.toList_ofList]

/-- The text neither starts nor ends with whitespace. -/
structure Trimmed (cs : List Char) : Prop where
  front : ∀ c, cs.head? = some c → isWhitespace c = false
  back : ∀ c, cs.getLast? = some c → isWhitespace c = false

instance (cs : List Char) : Decidable (Trimmed cs) :=
  decidable_of_iff (cs.head?.all (fun c => !isWhitespace c) = true ∧
      cs.getLast?.all (fun c => !isWhitespace c) = true) (by
    simp only [Option.all_eq_true, Bool.not_eq_true']
    exact ⟨fun h => ⟨h.1, h.2⟩, fun h => ⟨h.front, h.back⟩⟩)

theorem dropWhile_of_front {cs : List Char}
    (h : ∀ c, cs.head? = some c → isWhitespace c = false) : cs.dropWhile isWhitespace = cs := by
  cases cs with
  | nil => rfl
  | cons c rest =>
      rw [List.dropWhile_cons_of_neg]
      rw [h c rfl]
      decide

theorem Trimmed.trimChars {cs : List Char} (h : Trimmed cs) : trimChars cs = cs := by
  rw [Foundation.trimChars, dropWhile_of_front h.front, dropWhile_of_front, List.reverse_reverse]
  intro c hc
  rw [List.head?_reverse] at hc
  exact h.back c hc

theorem Trimmed.trim {s : String} (h : Trimmed s.toList) : trim s = s := by
  apply String.toList_inj.mp
  rw [toList_trim, h.trimChars]

theorem Trimmed.of_forall {cs : List Char} (h : ∀ c ∈ cs, isWhitespace c = false) : Trimmed cs :=
  ⟨fun c hc => h c (List.mem_of_head? hc), fun c hc => h c (List.mem_of_getLast? hc)⟩

theorem head_dropWhile {cs : List Char} {c : Char}
    (h : (cs.dropWhile isWhitespace).head? = some c) : isWhitespace c = false := by
  induction cs with
  | nil => cases h
  | cons d rest ih =>
      rw [List.dropWhile_cons] at h
      split at h
      · exact ih h
      · rename_i hd
        cases h
        exact Bool.eq_false_of_not_eq_true hd

/-- What is left when a text is trimmed is trimmed. -/
theorem trimmed_trimChars (cs : List Char) : Trimmed (trimChars cs) := by
  refine ⟨?_, ?_⟩
  · intro c hc
    -- What is cut off at the end leaves the first character in place.
    rw [trimChars, List.head?_reverse] at hc
    have hsuffix := List.dropWhile_suffix isWhitespace (l := (cs.dropWhile isWhitespace).reverse)
    obtain ⟨front, heq⟩ := hsuffix
    have hhead : (cs.dropWhile isWhitespace).head? = some c := by
      rw [← List.getLast?_reverse, ← heq, List.getLast?_append, hc]
      rfl
    exact head_dropWhile hhead
  · intro c hc
    rw [trimChars, List.getLast?_reverse] at hc
    exact head_dropWhile hc

theorem trim_trim (s : String) : trim (trim s) = trim s :=
  Trimmed.trim (by rw [toList_trim]; exact trimmed_trimChars _)

/-- Something is left of a text that is not blank. -/
theorem isEmpty_trim {s : String} (h : isBlank s = false) : (trim s).isEmpty = false := by
  by_contra hempty
  have hnil : trimChars s.toList = [] := by
    rw [Bool.not_eq_false, String.isEmpty_iff] at hempty
    rw [← toList_trim, hempty]
    rfl
  have hrest : ∀ c ∈ s.toList.dropWhile isWhitespace, isWhitespace c = true := by
    intro c hc
    exact List.dropWhile_eq_nil_iff.mp (List.reverse_eq_nil_iff.mp hnil) c
      (List.mem_reverse.mpr hc)
  have hall : s.toList.dropWhile isWhitespace = [] := by
    cases hcut : s.toList.dropWhile isWhitespace with
    | nil => rfl
    | cons c rest =>
        have hhead : (s.toList.dropWhile isWhitespace).head? = some c := by
          rw [hcut]
          rfl
        have hfront := head_dropWhile hhead
        rw [hrest c (List.mem_of_head? hhead)] at hfront
        cases hfront
  have hblank : isBlank s = true :=
    List.all_eq_true.mpr (List.dropWhile_eq_nil_iff.mp hall)
  rw [h] at hblank
  cases hblank

/-! ## Pieces -/

/-- Changing the characters of a text changes those of its pieces, if no character
becomes a separator or stops being one. -/
theorem splitOn_map {f : Char → Char} {separator : Char} {cs : List Char}
    (hf : ∀ c ∈ cs, (f c = separator ↔ c = separator)) :
    (cs.map f).splitOn separator = (cs.splitOn separator).map (List.map f) := by
  induction cs with
  | nil => rfl
  | cons c cs ih =>
      have htail := ih (fun d hd => hf d (List.mem_cons_of_mem c hd))
      rw [List.map_cons, List.splitOn_cons_eq_if_modifyHead, List.splitOn_cons_eq_if_modifyHead,
        htail]
      by_cases hc : c = separator
      · have hfc := (hf c List.mem_cons_self).mpr hc
        rw [if_pos (beq_iff_eq.mpr hfc), if_pos (beq_iff_eq.mpr hc), List.map_cons, List.map_nil]
      · have hfc : ¬ f c = separator := fun h => hc ((hf c List.mem_cons_self).mp h)
        rw [if_neg (by simpa using hfc), if_neg (by simpa using hc)]
        cases cs.splitOn separator with
        | nil => rfl
        | cons piece pieces => rfl

/-- A character of a text is a separator or stands in a piece. -/
theorem mem_splitOn {separator c : Char} {cs : List Char} (h : c ∈ cs) (hc : c ≠ separator) :
    ∃ piece ∈ cs.splitOn separator, c ∈ piece := by
  induction cs with
  | nil => cases h
  | cons d cs ih =>
      rw [List.splitOn_cons_eq_if_modifyHead]
      obtain rfl | h := List.mem_cons.mp h
      · rw [if_neg (by simpa using hc)]
        cases hpieces : cs.splitOn separator with
        | nil => exact absurd hpieces (List.splitOn_ne_nil _ _)
        | cons piece pieces => exact ⟨c :: piece, List.mem_cons_self, List.mem_cons_self⟩
      · obtain ⟨piece, hpiece, hmem⟩ := ih h
        split
        · exact ⟨piece, List.mem_cons_of_mem _ hpiece, hmem⟩
        · cases hpieces : cs.splitOn separator with
          | nil => exact absurd hpieces (List.splitOn_ne_nil _ _)
          | cons first pieces =>
              rw [hpieces] at hpiece
              obtain rfl | hpiece := List.mem_cons.mp hpiece
              · exact ⟨d :: piece, List.mem_cons_self, List.mem_cons_of_mem d hmem⟩
              · exact ⟨piece, List.mem_cons_of_mem _ hpiece, hmem⟩

/-! ## Numbers -/

/-- The digits of a number, after an optional plus sign. -/
def unsignedDigits (s : String) : List Char :=
  match s.toList with
  | '+' :: rest => rest
  | digits => digits

/-- The value of a text of digits. -/
def parseUnsigned (s : String) : Option Nat :=
  if unsignedDigits s ≠ [] ∧ (unsignedDigits s).all Char.isDigit = true then
    some (Nat.ofDigitChars 10 (unsignedDigits s) 0)
  else none

/-- `str::parse::<u64>`. -/
def parseU64 (s : String) : Option UInt64 :=
  (parseUnsigned s).bind (fun n => if n < 2 ^ 64 then some (UInt64.ofNat n) else none)

/-- `str::parse::<u16>`. -/
def parseU16 (s : String) : Option UInt16 :=
  (parseUnsigned s).bind (fun n => if n < 2 ^ 16 then some (UInt16.ofNat n) else none)

/-- `str::parse::<u128>`. -/
def parseU128 (s : String) : Option Nat :=
  (parseUnsigned s).bind (fun n => if n < 2 ^ 128 then some n else none)

theorem unsignedDigits_toString (n : Nat) : unsignedDigits (toString n) = Nat.toDigits 10 n := by
  have hlist : (toString n).toList = Nat.toDigits 10 n := by
    rw [Nat.toString_eq_ofList_toDigits, String.toList_ofList]
  unfold unsignedDigits
  rw [hlist]
  split
  · rename_i rest hplus
    have hdigit : ('+' : Char).isDigit = true := by
      apply Nat.isDigit_of_mem_toDigits (b := 10) (n := n) (by decide) (by decide)
      rw [hplus]
      exact List.mem_cons_self
    exact absurd hdigit (by decide)
  · rfl

/-- A number is read back from its text. -/
theorem parseUnsigned_toString (n : Nat) : parseUnsigned (toString n) = some n := by
  unfold parseUnsigned
  rw [unsignedDigits_toString, if_pos]
  · rw [Nat.ofDigitChars_ten_toDigits]
  · refine ⟨?_, ?_⟩
    · exact Nat.toDigits_ne_nil
    · rw [List.all_eq_true]
      exact fun c hc => Nat.isDigit_of_mem_toDigits (by decide) (by decide) hc

@[simp] theorem parseU64_toString (n : UInt64) : parseU64 (toString n) = some n := by
  have htext : toString n = toString n.toNat := rfl
  rw [parseU64, htext, parseUnsigned_toString, Option.bind_some, if_pos n.toNat_lt,
    UInt64.ofNat_toNat]

@[simp] theorem parseU16_toString (n : UInt16) : parseU16 (toString n) = some n := by
  have htext : toString n = toString n.toNat := rfl
  rw [parseU16, htext, parseUnsigned_toString, Option.bind_some, if_pos n.toNat_lt,
    UInt16.ofNat_toNat]

theorem parseU128_toString {n : Nat} (h : n < 2 ^ 128) : parseU128 (toString n) = some n := by
  rw [parseU128, parseUnsigned_toString, Option.bind_some, if_pos h]

end RouterView.Foundation
