/-
  Api/ProbesSpec.lean --- what the targets of the probes are.

  A host that passed the check passes it again and stays as it is, so that a list of
  targets that was stored can be sent back unchanged.  Every list that is stored is
  one that passed the check, whichever requests run at once; and whenever no request
  holds the write lock, the list that the engine reads is the one that is stored.
-/
import RouterView.Api.Probes
import RouterView.Foundation.Text
import RouterView.Foundation.Run

set_option autoImplicit false

namespace RouterView.Api

open RouterView.Foundation
open RouterView.Auth (parseIpAddr parseIpAddr_bare parseIpAddr_chars addressChar_bounds)
open RouterView.Config (SaveOutcome)
open RouterView.Maintenance (ProbeTargetRow)
open RouterView.Ws (IpAddr)

/-! ## Hosts -/

/-- An address that is printed is parsed again. -/
theorem parseIpAddr_showIpAddr (address : IpAddr) :
    parseIpAddr (showIpAddr address) = some address := by
  cases address with
  | V4 address =>
      have hread : readIpv4Addr (showIpv4 address ++ []) = some (address, []) :=
        readIpv4Addr_showIpv4 address trivial
      rw [List.append_nil] at hread
      rw [parseIpAddr, showIpAddr, String.toList_ofList, hread]
      rfl
  | V6 address =>
      rw [parseIpAddr, showIpAddr, String.toList_ofList, readIpv4Addr_showIpv6,
        readIpv6Addr_showIpv6]
      rfl

/-- An address without colons is parsed from its own print. -/
theorem showIpAddr_of_parse {s : String} {address : IpAddr} (hcolon : ':' ∉ s.toList)
    (h : parseIpAddr s = some address) : showIpAddr address = s := by
  obtain ⟨⟨read, rest⟩, hread, h⟩ := Option.bind_eq_some_iff.mp h
  simp only at h
  split at h
  · rename_i hempty
    cases h
    obtain rfl := List.isEmpty_iff.mp hempty
    rcases Option.or_eq_some_iff.mp hread with hv4 | ⟨_, hv6⟩
    · obtain ⟨⟨v4, left⟩, hparse, heq⟩ := Option.map_eq_some_iff.mp hv4
      cases heq
      have htext := eq_showIpv4_of_read hparse
      rw [List.append_nil] at htext
      rw [showIpAddr, ← htext, String.ofList_toList]
    · obtain ⟨⟨v6, left⟩, hparse, heq⟩ := Option.map_eq_some_iff.mp hv6
      cases heq
      exact absurd (colon_of_readIpv6Addr hparse) hcolon
  · cases h

theorem showIpAddr_bytes (address : IpAddr) :
    (showIpAddr address).utf8ByteSize ≤ maxProbeHostBytes := by
  have hascii : ∀ c ∈ (showIpAddr address).toList, IsAscii c := by
    intro c hc
    have hbounds := addressChar_bounds ((parseIpAddr_chars (parseIpAddr_showIpAddr address)).2 c hc)
    exact le_trans hbounds.2 (by decide)
  have hsize := utf8ByteSize_of_ascii hascii
  rw [String.ofList_toList] at hsize
  rw [hsize]
  cases address with
  | V4 address =>
      rw [showIpAddr, String.toList_ofList]
      exact le_trans (length_showIpv4_le address) (by decide)
  | V6 address =>
      rw [showIpAddr, String.toList_ofList]
      exact le_trans (length_showIpv6_le address) (by decide)

/-- The characters of host names. -/
def IsHostChar (c : Char) : Prop := c.isAlphanum = true ∨ c = '-' ∨ c = '.'

/-- What a label of a host name is. -/
theorem isHostLabel_iff {label : List Char} :
    isHostLabel label = true ↔
      label ≠ [] ∧ label.length ≤ 63 ∧ (∀ c ∈ label, c.isAlphanum = true ∨ c = '-') ∧
        (∃ c, label.head? = some c ∧ c.isAlphanum = true) ∧
        ∃ c, label.getLast? = some c ∧ c.isAlphanum = true := by
  simp only [isHostLabel, Bool.and_eq_true, Bool.not_eq_true', List.isEmpty_eq_false_iff,
    decide_eq_true_eq, List.all_eq_true, Bool.or_eq_true, beq_iff_eq, Option.any_eq_true,
    and_assoc]

theorem isHostLabel_lower {label : List Char} (h : isHostLabel label = true) :
    isHostLabel (label.map Char.toLower) = true := by
  obtain ⟨hsome, hlength, hall, ⟨first, hfirst, hfirstAlphanum⟩, last, hlast, hlastAlphanum⟩ :=
    isHostLabel_iff.mp h
  refine isHostLabel_iff.mpr ⟨?_, ?_, ?_, ?_, ?_⟩
  · simpa using hsome
  · rwa [List.length_map]
  · intro c hc
    obtain ⟨d, hd, rfl⟩ := List.mem_map.mp hc
    exact (hall d hd).imp isAlphanum_toLower (toLower_eq_iff (by decide)).mpr
  · exact ⟨first.toLower, by rw [List.head?_map, hfirst]; rfl, isAlphanum_toLower hfirstAlphanum⟩
  · exact ⟨last.toLower, by rw [List.getLast?_map, hlast]; rfl, isAlphanum_toLower hlastAlphanum⟩

/-- The characters of a host name whose labels pass. -/
theorem hostChar_of_labels {host : List Char}
    (h : ∀ label ∈ host.splitOn '.', isHostLabel label = true) : ∀ c ∈ host, IsHostChar c := by
  intro c hc
  by_cases hdot : c = '.'
  · exact Or.inr (Or.inr hdot)
  · obtain ⟨label, hlabel, hmem⟩ := mem_splitOn hc hdot
    obtain ⟨_, _, hall, _⟩ := isHostLabel_iff.mp (h label hlabel)
    exact (hall c hmem).imp_right Or.inl

/-- A host name whose labels pass does not end in a dot. -/
theorem stripDot_of_labels {host : List Char}
    (h : ∀ label ∈ host.splitOn '.', isHostLabel label = true) : stripDot host = host := by
  rw [stripDot, if_neg]
  intro hlast
  obtain ⟨front, rfl⟩ := List.getLast?_eq_some_iff.mp hlast
  have hempty : isHostLabel [] = true := by
    apply h
    rw [List.splitOn_append_cons_self]
    exact List.mem_append_right _ (by rw [List.splitOn_nil]; exact List.mem_singleton_self [])
  cases hempty

theorem IsHostChar.lower {c : Char} (h : IsHostChar c) : IsHostChar c.toLower :=
  h.imp isAlphanum_toLower (Or.imp (toLower_eq_iff (by decide)).mpr (toLower_eq_iff (by decide)).mpr)

theorem IsHostChar.bounds {c : Char} (h : IsHostChar c) : 45 ≤ c.toNat ∧ c.toNat ≤ 122 := by
  obtain h | rfl | rfl := h
  · rw [isAlphanum_iff] at h
    omega
  · decide
  · decide

theorem IsHostChar.ascii {c : Char} (h : IsHostChar c) : IsAscii c :=
  le_trans h.bounds.2 (by decide)

theorem IsHostChar.notWhitespace {c : Char} (h : IsHostChar c) : isWhitespace c = false := by
  obtain ⟨hlow, hhigh⟩ := h.bounds
  unfold isWhitespace
  simp only [Bool.or_eq_false_iff, Bool.and_eq_false_iff, decide_eq_false_iff_not,
    beq_eq_false_iff_ne]
  omega

theorem IsHostChar.ne_colon {c : Char} (h : IsHostChar c) : c ≠ ':' := by
  rintro rfl
  obtain h | h | h := h <;> exact absurd h (by decide)

theorem length_stripDot_le (host : List Char) : (stripDot host).length ≤ host.length := by
  rw [stripDot]
  split
  · rw [List.length_dropLast]
    omega
  · exact le_refl _

/-- The labels of a host name pass in lower case. -/
theorem labels_lower {name : List Char}
    (h : ∀ label ∈ name.splitOn '.', isHostLabel label = true) :
    ∀ label ∈ (name.map Char.toLower).splitOn '.', isHostLabel label = true := by
  rw [splitOn_map (fun c _ => toLower_eq_iff (by decide))]
  intro label hlabel
  obtain ⟨given, hgiven, rfl⟩ := List.mem_map.mp hlabel
  exact isHostLabel_lower (h given hgiven)

theorem trim_of_hostChars {name : List Char} (h : ∀ c ∈ name, IsHostChar c) :
    trim (String.ofList name) = String.ofList name := by
  apply Trimmed.trim
  rw [String.toList_ofList]
  exact Trimmed.of_forall (fun c hc => (h c hc).notWhitespace)

/-- A host name without capitals passes as it is. -/
theorem normalizeProbeHost_of_labels {name : List Char} (hsome : name ≠ [])
    (hlabels : ∀ label ∈ name.splitOn '.', isHostLabel label = true)
    (hlower : name.map Char.toLower = name) (hlength : name.length ≤ maxProbeHostBytes) :
    normalizeProbeHost (String.ofList name) = some (String.ofList name) := by
  have hchars : ∀ c ∈ name, IsHostChar c := hostChar_of_labels hlabels
  have hbytes : (String.ofList name).utf8ByteSize ≤ maxProbeHostBytes := by
    rw [utf8ByteSize_of_ascii (fun c hc => (hchars c hc).ascii)]
    exact hlength
  have hnonempty : ¬ (String.ofList name).isEmpty = true := by
    rw [String.isEmpty_iff, ← String.toList_inj, String.toList_ofList]
    exact hsome
  rw [normalizeProbeHost, if_neg (by rintro (hempty | hlong); exacts [hnonempty hempty, by omega])]
  cases hparse : parseIpAddr (String.ofList name) with
  | some address =>
      -- A host name may read as an IPv4 address, which is printed as it was read.
      have hcolon : ':' ∉ (String.ofList name).toList := by
        rw [String.toList_ofList]
        exact fun hmem => (hchars _ hmem).ne_colon rfl
      exact congrArg some (showIpAddr_of_parse hcolon hparse)
  | none =>
      simp only [String.toList_ofList, stripDot_of_labels hlabels, toAsciiLowercase, hlower]
      rw [if_neg]
      simp only [Bool.or_eq_true, Bool.not_eq_true', not_or, Bool.not_eq_false,
        List.all_eq_true, List.isEmpty_iff]
      exact ⟨hsome, hlabels⟩

/-- A host name in lower case passes as it is. -/
theorem lowered_again {host : String} (hsome : stripDot host.toList ≠ [])
    (hlabels : ∀ label ∈ (stripDot host.toList).splitOn '.', isHostLabel label = true)
    (hbytes : host.utf8ByteSize ≤ maxProbeHostBytes) :
    normalizeProbeHost (toAsciiLowercase (String.ofList (stripDot host.toList))) =
        some (toAsciiLowercase (String.ofList (stripDot host.toList))) ∧
      trim (toAsciiLowercase (String.ofList (stripDot host.toList))) =
        toAsciiLowercase (String.ofList (stripDot host.toList)) := by
  have hlength : (stripDot host.toList).length ≤ maxProbeHostBytes :=
    le_trans (length_stripDot_le _) (le_trans (length_le_utf8ByteSize host) hbytes)
  have hlower := labels_lower hlabels
  rw [toAsciiLowercase, String.toList_ofList]
  refine ⟨normalizeProbeHost_of_labels ?_ hlower ?_ ?_, trim_of_hostChars (hostChar_of_labels hlower)⟩
  · simpa using hsome
  · rw [List.map_map]
    exact List.map_congr_left (fun c _ => toLower_toLower c)
  · rw [List.length_map]
    exact hlength

/-- A host that passed is passed again as it is, and has no blanks around it. -/
theorem normalizeProbeHost_again {host normal : String}
    (h : normalizeProbeHost host = some normal) :
    normalizeProbeHost normal = some normal ∧ trim normal = normal := by
  rw [normalizeProbeHost] at h
  split at h
  · cases h
  · rename_i hgiven
    split at h
    · rename_i address _
      cases h
      have hparse := parseIpAddr_showIpAddr address
      have hbare := parseIpAddr_bare hparse
      have hbytes := showIpAddr_bytes address
      refine ⟨?_, not_not.mp (fun htrim => hbare (Or.inr (Or.inl htrim)))⟩
      rw [normalizeProbeHost, if_neg, hparse]
      rintro (hempty | hlong)
      · exact hbare (Or.inl hempty)
      · omega
    · simp only at h
      split at h
      · cases h
      · rename_i hlabels
        cases h
        simp only [Bool.or_eq_true, Bool.not_eq_true', not_or, Bool.not_eq_false,
          List.all_eq_true, List.isEmpty_iff] at hlabels
        obtain ⟨hsome, hlabels⟩ := hlabels
        exact lowered_again hsome hlabels (not_lt.mp (fun hlong => hgiven (Or.inr hlong)))

/-! ## Lists that passed -/

/-- A target as the check leaves it. -/
structure Settled (row : ProbeTargetRow) : Prop where
  name : trim row.name = row.name
  named : row.name.isEmpty = false
  nameLength : row.name.length ≤ maxProbeNameChars
  host : normalizeProbeHost row.host = some row.host
  hostTrimmed : trim row.host = row.host
  category : trim row.category = row.category
  known : row.category ∈ probeCategories

/-- The hosts of the rows are different from each other and from those given. -/
def FreshHosts (hosts : List String) (rows : List ProbeTargetRow) : Prop :=
  (rows.map (·.host)).Nodup ∧ ∀ row ∈ rows, row.host ∉ hosts

/-- The rows are numbered from an index on. -/
def NumberedFrom : Nat → List ProbeTargetRow → Prop
  | _, [] => True
  | index, row :: rows => row.sortOrder = (index : Int) ∧ NumberedFrom (index + 1) rows

theorem checkProbeTarget_settled {index : Nat} {hosts : List String} {target : ProbeTargetInput}
    {row : ProbeTargetRow} (h : checkProbeTarget index hosts target = .ok row) :
    Settled row ∧ row.host ∉ hosts ∧ row.sortOrder = (index : Int) := by
  obtain ⟨hname, h⟩ := ensure_bind_eq_ok_iff.mp h
  obtain ⟨host, hhost, h⟩ := bind_eq_ok_iff.mp h
  obtain ⟨hfresh, h⟩ := ensure_bind_eq_ok_iff.mp h
  obtain ⟨hcategory, h⟩ := ensure_bind_eq_ok_iff.mp h
  cases h
  obtain ⟨hagain, htrimmed⟩ := normalizeProbeHost_again (okOr_eq_ok_iff.mp hhost)
  rw [not_or, Bool.not_eq_true, not_lt] at hname
  exact ⟨⟨trim_trim _, hname.1, hname.2, hagain, htrimmed, trim_trim _, hcategory⟩, hfresh, rfl⟩

theorem checkProbeTargets_settled {index : Nat} {hosts : List String}
    {targets : List ProbeTargetInput} {rows : List ProbeTargetRow}
    (h : checkProbeTargets index hosts targets = .ok rows) :
    rows.length = targets.length ∧ (∀ row ∈ rows, Settled row) ∧ FreshHosts hosts rows ∧
      NumberedFrom index rows := by
  induction targets generalizing index hosts rows with
  | nil =>
      cases h
      exact ⟨rfl, fun _ hrow => absurd hrow List.not_mem_nil, ⟨List.nodup_nil, fun _ hrow =>
        absurd hrow List.not_mem_nil⟩, trivial⟩
  | cons target rest ih =>
      obtain ⟨row, hrow, h⟩ := bind_eq_ok_iff.mp h
      obtain ⟨others, hothers, h⟩ := bind_eq_ok_iff.mp h
      cases h
      obtain ⟨hsettled, hfresh, hindex⟩ := checkProbeTarget_settled hrow
      obtain ⟨hlength, hall, ⟨hnodup, hdisjoint⟩, hnumbered⟩ := ih hothers
      refine ⟨by rw [List.length_cons, List.length_cons, hlength],
        List.forall_mem_cons.mpr ⟨hsettled, hall⟩, ⟨?_, ?_⟩, hindex, hnumbered⟩
      · rw [List.map_cons, List.nodup_cons]
        refine ⟨?_, hnodup⟩
        intro hmem
        obtain ⟨other, hother, heq⟩ := List.mem_map.mp hmem
        exact hdisjoint other hother (heq ▸ List.mem_cons_self)
      · refine List.forall_mem_cons.mpr ⟨hfresh, ?_⟩
        intro other hother hmem
        exact hdisjoint other hother (List.mem_cons_of_mem row.host hmem)

/-- The request that sends a row back. -/
def asInput (row : ProbeTargetRow) : ProbeTargetInput := ⟨row.name, row.host, row.category⟩

/-- A list of targets that passed the check. -/
structure Listed (rows : List ProbeTargetRow) : Prop where
  some : rows ≠ []
  bounded : rows.length ≤ maxProbeTargets
  settled : ∀ row ∈ rows, Settled row
  hosts : (rows.map (·.host)).Nodup
  numbered : NumberedFrom 0 rows

theorem Listed.of_validate {targets : List ProbeTargetInput} {rows : List ProbeTargetRow}
    (h : validateProbeTargets targets = .ok rows) : Listed rows := by
  obtain ⟨hsome, h⟩ := ensure_bind_eq_ok_iff.mp h
  obtain ⟨hbounded, h⟩ := ensure_bind_eq_ok_iff.mp h
  obtain ⟨hlength, hall, ⟨hnodup, _⟩, hnumbered⟩ := checkProbeTargets_settled h
  refine ⟨?_, hlength ▸ hbounded, hall, hnodup, hnumbered⟩
  rintro rfl
  exact hsome (List.length_eq_zero_iff.mp hlength.symm)

theorem Settled.check {row : ProbeTargetRow} (h : Settled row) {index : Nat}
    {hosts : List String} (hfresh : row.host ∉ hosts) (hindex : row.sortOrder = (index : Int)) :
    checkProbeTarget index hosts (asInput row) = .ok { row with id := 0 } := by
  refine ensure_bind_eq_ok_iff.mpr ⟨?_, bind_eq_ok_iff.mpr ⟨row.host, ?_, ensure_bind_eq_ok_iff.mpr
    ⟨hfresh, ensure_bind_eq_ok_iff.mpr ⟨?_, ?_⟩⟩⟩⟩
  · simp only [asInput, h.name, not_or, Bool.not_eq_true, not_lt]
    exact ⟨h.named, h.nameLength⟩
  · simp only [asInput, h.hostTrimmed, okOr_eq_ok_iff, h.host]
  · simp only [asInput, h.category, h.known]
  · simp only [asInput, h.name, h.category, hindex, pure_eq_ok]

theorem checkProbeTargets_again {index : Nat} {hosts : List String} {rows : List ProbeTargetRow}
    (hsettled : ∀ row ∈ rows, Settled row) (hfresh : FreshHosts hosts rows)
    (hnumbered : NumberedFrom index rows) :
    checkProbeTargets index hosts (rows.map asInput) =
      .ok (rows.map (fun row => { row with id := 0 })) := by
  induction rows generalizing index hosts with
  | nil => rfl
  | cons row rows ih =>
      obtain ⟨hnodup, hdisjoint⟩ := hfresh
      obtain ⟨hown, hnodup⟩ := List.nodup_cons.mp hnodup
      obtain ⟨hindex, hnumbered⟩ := hnumbered
      have hrow := (hsettled row List.mem_cons_self).check (hdisjoint row List.mem_cons_self) hindex
      have hothers : FreshHosts (row.host :: hosts) rows := by
        refine ⟨hnodup, ?_⟩
        intro other hother hmem
        obtain heq | hmem := List.mem_cons.mp hmem
        · exact hown (List.mem_map.mpr ⟨other, hother, heq⟩)
        · exact hdisjoint other (List.mem_cons_of_mem row hother) hmem
      have hrest := ih (fun other hother => hsettled other (List.mem_cons_of_mem row hother)) hothers
        hnumbered
      exact bind_eq_ok_iff.mpr ⟨_, hrow, bind_eq_ok_iff.mpr ⟨_, hrest, rfl⟩⟩

/-- A list that passed passes again, and stays as it is. -/
theorem Listed.validate {rows : List ProbeTargetRow} (h : Listed rows) :
    validateProbeTargets (rows.map asInput) = .ok (rows.map (fun row => { row with id := 0 })) := by
  refine ensure_bind_eq_ok_iff.mpr ⟨?_, ensure_bind_eq_ok_iff.mpr ⟨?_, ?_⟩⟩
  · simpa using h.some
  · rw [List.length_map]
    exact h.bounded
  · exact checkProbeTargets_again h.settled ⟨h.hosts, fun _ _ => List.not_mem_nil⟩ h.numbered

/-- The targets of the seed pass the check. -/
theorem listed_default : Listed defaultProbeTargetRows := by
  have h : validateProbeTargets defaultLatencyProbeTargets = .ok defaultProbeTargetRows := by
    decide +kernel
  exact Listed.of_validate h

/-! ## The table -/

/-- The rows as they are inserted after an identifier. -/
def inserted : Int → List ProbeTargetRow → List ProbeTargetRow
  | _, [] => []
  | lastId, row :: rows => { row with id := lastId + 1 } :: inserted (lastId + 1) rows

theorem foldl_insert_rows (rows : List ProbeTargetRow) (db : ProbeDb) :
    (rows.foldl ProbeDb.insert db).rows = db.rows ++ inserted db.lastId rows := by
  induction rows generalizing db with
  | nil => exact (List.append_nil _).symm
  | cons row rows ih =>
      rw [List.foldl_cons, ih, ProbeDb.insert, List.append_assoc]
      rfl

theorem inserted_map {α : Type} (f : ProbeTargetRow → α)
    (hf : ∀ (row : ProbeTargetRow) (id : Int), f { row with id := id } = f row) (lastId : Int)
    (rows : List ProbeTargetRow) : (inserted lastId rows).map f = rows.map f := by
  induction rows generalizing lastId with
  | nil => rfl
  | cons row rows ih => rw [inserted, List.map_cons, List.map_cons, ih, hf]

theorem mem_inserted {lastId : Int} {rows : List ProbeTargetRow} {row : ProbeTargetRow}
    (h : row ∈ inserted lastId rows) : ∃ given ∈ rows, ∃ id, row = { given with id := id } := by
  induction rows generalizing lastId with
  | nil => cases h
  | cons first rows ih =>
      obtain rfl | h := List.mem_cons.mp h
      · exact ⟨first, List.mem_cons_self, _, rfl⟩
      · obtain ⟨given, hgiven, hid⟩ := ih h
        exact ⟨given, List.mem_cons_of_mem first hgiven, hid⟩

theorem NumberedFrom.inserted {index : Nat} {rows : List ProbeTargetRow}
    (h : NumberedFrom index rows) (lastId : Int) : NumberedFrom index (inserted lastId rows) := by
  induction rows generalizing index lastId with
  | nil => trivial
  | cons row rows ih => exact ⟨h.1, ih h.2 _⟩

/-- A list that passed is stored as a list that passed. -/
theorem Listed.inserted {rows : List ProbeTargetRow} (h : Listed rows) (lastId : Int) :
    Listed (inserted lastId rows) := by
  have hlength : (Api.inserted lastId rows).length = rows.length := by
    have hmap := congrArg List.length (inserted_map (fun row => row.name) (fun _ _ => rfl) lastId rows)
    rwa [List.length_map, List.length_map] at hmap
  refine ⟨?_, hlength ▸ h.bounded, ?_, ?_, h.numbered.inserted lastId⟩
  · intro hnil
    rw [hnil] at hlength
    exact h.some (List.length_eq_zero_iff.mp hlength.symm)
  · intro row hrow
    obtain ⟨given, hgiven, id, rfl⟩ := mem_inserted hrow
    obtain ⟨h1, h2, h3, h4, h5, h6, h7⟩ := h.settled given hgiven
    exact ⟨h1, h2, h3, h4, h5, h6, h7⟩
  · rw [inserted_map _ (fun _ _ => rfl)]
    exact h.hosts

/-- Rows that are numbered in order are listed in that order. -/
theorem NumberedFrom.pairwise {index : Nat} {rows : List ProbeTargetRow}
    (h : NumberedFrom index rows) :
    (∀ row ∈ rows, (index : Int) ≤ row.sortOrder) ∧
      rows.Pairwise (fun a b => a.sortOrder < b.sortOrder) := by
  induction rows generalizing index with
  | nil => exact ⟨fun _ hrow => absurd hrow List.not_mem_nil, List.Pairwise.nil⟩
  | cons row rows ih =>
      obtain ⟨hrow, hrest⟩ := h
      obtain ⟨hlow, hpairwise⟩ := ih hrest
      refine ⟨?_, List.Pairwise.cons ?_ hpairwise⟩
      · refine List.forall_mem_cons.mpr ⟨hrow.ge, ?_⟩
        intro other hother
        have hother := hlow other hother
        omega
      · intro other hother
        have hother := hlow other hother
        omega

theorem Listed.queryProbeTargets {db : ProbeDb} (h : Listed db.rows) :
    db.queryProbeTargets = db.rows := by
  refine List.mergeSort_of_pairwise (h.numbered.pairwise.2.imp ?_)
  intro a b hless
  exact decide_eq_true (Or.inl hless)

/-- What replaces the rows of the table is listed next. -/
theorem replaceAll_listed {rows : List ProbeTargetRow} (h : Listed rows) (db : ProbeDb) :
    Listed (db.replaceAllProbeTargets rows).rows ∧
      runtimeProbeTargets (db.replaceAllProbeTargets rows).queryProbeTargets =
        runtimeProbeTargets rows := by
  have hrows : (db.replaceAllProbeTargets rows).rows = inserted db.lastId rows := by
    rw [ProbeDb.replaceAllProbeTargets, foldl_insert_rows, List.nil_append]
  have hlisted : Listed (db.replaceAllProbeTargets rows).rows := by
    rw [hrows]
    exact h.inserted db.lastId
  refine ⟨hlisted, ?_⟩
  rw [hlisted.queryProbeTargets, hrows]
  exact inserted_map _ (fun _ _ => rfl) _ _

theorem ProbeWrite.store_listed {write : ProbeWrite}
    (h : ∀ rows, write = .replaceAll rows → Listed rows) (db : ProbeDb) :
    Listed (write.store db).rows := by
  cases write with
  | replaceAll rows => exact (replaceAll_listed (h rows rfl) db).1
  | reset => exact (replaceAll_listed listed_default db).1

theorem seed_listed {db : ProbeDb} (h : db.rows = [] ∨ Listed db.rows) :
    Listed db.seedDefaultProbeTargets.rows := by
  rw [ProbeDb.seedDefaultProbeTargets]
  split
  · rename_i hsome
    obtain hempty | hlisted := h
    · rw [hempty] at hsome
      exact absurd hsome (by decide)
    · exact hlisted
  · rename_i hnone
    have hempty : db.rows = [] := List.length_eq_zero_iff.mp (by omega)
    rw [foldl_insert_rows, hempty]
    exact listed_default.inserted db.lastId

/-! ## The requests -/

namespace ProbeServer

/-- The rows that a request is about to store passed the check. -/
def WriteListed (write : ProbeWrite) : Prop := ∀ rows, write = .replaceAll rows → Listed rows

/-- A phase that holds the lock. -/
def Holds : ProbePhase → Prop
  | .holding _ => True
  | .stored _ => True
  | _ => False

/-- What holds of a phase, given the table. -/
def PhaseSound (db : ProbeDb) : ProbePhase → Prop
  | .waiting write => WriteListed write
  | .holding write => WriteListed write
  | .stored rows => rows = db.queryProbeTargets
  | _ => True

/-- What every step keeps. -/
structure Sound (s : ProbeServer) : Prop where
  listed : Listed s.db.rows
  live : ∃ rows, Listed rows ∧ s.live = runtimeProbeTargets rows
  phases : ∀ i, PhaseSound s.db (s.requests i)
  lock : ∀ i, Holds (s.requests i) ↔ s.lock = some i

/-- The list is the one that is stored, unless a request is about to publish. -/
def UpToDate (s : ProbeServer) : Prop :=
  s.live = runtimeProbeTargets s.db.queryProbeTargets ∨ ∃ i rows, s.requests i = .stored rows

variable {s : ProbeServer}

theorem Sound.start {db : ProbeDb} (h : db.rows = [] ∨ Listed db.rows) : Sound (start db) := by
  have hseeded := seed_listed h
  refine ⟨hseeded, ⟨db.seedDefaultProbeTargets.rows, hseeded, ?_⟩, fun _ => trivial, fun i => ?_⟩
  · rw [ProbeServer.start, hseeded.queryProbeTargets]
  · exact ⟨fun hholds => hholds.elim, fun hlock => nomatch hlock⟩

/-- Changing a request that does not hold the lock, to a phase that does not either. -/
theorem Sound.setPhase (h : Sound s) {i : Nat} {phase : ProbePhase} (hbefore : ¬ Holds (s.requests i))
    (hafter : ¬ Holds phase) (hsound : PhaseSound s.db phase) : Sound (s.setPhase i phase) := by
  refine ⟨h.listed, h.live, ?_, ?_⟩
  · intro j
    by_cases hj : j = i
    · rw [hj, Phases.set_self]
      exact hsound
    · rw [Phases.set_of_ne _ phase hj]
      exact h.phases j
  · intro j
    by_cases hj : j = i
    · rw [hj, Phases.set_self]
      exact ⟨fun hholds => absurd hholds hafter, fun hlock => absurd ((h.lock i).mpr hlock) hbefore⟩
    · rw [Phases.set_of_ne _ phase hj]
      exact h.lock j

/-- Changing the request that holds the lock: every other request only waits. -/
theorem Sound.replace (h : Sound s) {i : Nat} (hholds : s.lock = some i ∨ s.lock = none)
    {db : ProbeDb} {live : List ProbeTarget} {lock : Option Nat} {phase : ProbePhase}
    (hlisted : Listed db.rows) (hlive : ∃ rows, Listed rows ∧ live = runtimeProbeTargets rows)
    (hsound : PhaseSound db phase) (hphase : Holds phase ↔ lock = some i)
    (hlock : lock = some i ∨ lock = none) :
    Sound (ProbeServer.setPhase ⟨db, live, lock, s.requests⟩ i phase) := by
  have hothers : ∀ j, j ≠ i → ¬ Holds (s.requests j) := by
    intro j hj hother
    have hlock' := (h.lock j).mp hother
    obtain hholds | hholds := hholds
    · rw [hholds] at hlock'
      exact hj (Option.some.inj hlock').symm
    · rw [hholds] at hlock'
      cases hlock'
  refine ⟨hlisted, hlive, ?_, ?_⟩
  · intro j
    by_cases hj : j = i
    · rw [hj, Phases.set_self]
      exact hsound
    · rw [Phases.set_of_ne _ phase hj]
      have hwaits := h.phases j
      have hnot := hothers j hj
      change PhaseSound db (s.requests j)
      revert hwaits hnot
      cases s.requests j with
      | stored rows => exact fun _ hnot => absurd trivial hnot
      | absent => exact fun hwaits _ => hwaits
      | waiting write => exact fun hwaits _ => hwaits
      | holding write => exact fun hwaits _ => hwaits
      | answered answer => exact fun hwaits _ => hwaits
      | dropped => exact fun hwaits _ => hwaits
  · intro j
    by_cases hj : j = i
    · rw [hj, Phases.set_self]
      exact hphase
    · rw [Phases.set_of_ne _ phase hj]
      refine ⟨fun hother => absurd hother (hothers j hj), fun hlock' => ?_⟩
      obtain hlock | hlock := hlock
      · have heq : some i = some j := hlock.symm.trans hlock'
        exact absurd (Option.some.inj heq).symm hj
      · exact absurd (hlock.symm.trans hlock') (by simp)

theorem Sound.arrive (h : Sound s) {i : Nat} (habsent : s.requests i = .absent)
    (request : ProbeRequest) : Sound (s.arrive i request) := by
  have hnot : ¬ Holds (s.requests i) := by
    rw [habsent]
    exact id
  cases request with
  | reset => exact h.setPhase hnot id (fun rows hrows => nomatch hrows)
  | update body =>
      rw [ProbeServer.arrive]
      cases hcheck : validateProbeTargets body with
      | error e => exact h.setPhase hnot id trivial
      | ok rows =>
          refine h.setPhase hnot id ?_
          rintro rows' ⟨rfl⟩
          exact Listed.of_validate hcheck

theorem Sound.step (h : Sound s) (event : Event) : Sound (s.step event) := by
  cases event with
  | arrive i request =>
      rw [ProbeServer.step]
      split
      · rename_i habsent
        exact h.arrive habsent request
      · exact h
  | acquire i =>
      rw [ProbeServer.step]
      split
      · rename_i write hwaits hfree
        have hwrite : WriteListed write := by
          have hphase := h.phases i
          rw [hwaits] at hphase
          exact hphase
        exact h.replace (Or.inr hfree) h.listed h.live hwrite ⟨fun _ => rfl, fun _ => trivial⟩
          (Or.inl rfl)
      · exact h
  | store i outcome =>
      rw [ProbeServer.step]
      split
      · rename_i write hholding
        have hlock : s.lock = some i := (h.lock i).mp (by rw [hholding]; trivial)
        have hwrite : WriteListed write := by
          have hphase := h.phases i
          rw [hholding] at hphase
          exact hphase
        have hstored := ProbeWrite.store_listed hwrite s.db
        have hreleased : Holds (.answered (.error .database)) ↔ (none : Option Nat) = some i :=
          ⟨fun hholds => hholds.elim, fun hnone => nomatch hnone⟩
        cases outcome with
        | returned =>
            exact h.replace (Or.inl hlock) hstored h.live rfl
              ⟨fun _ => hlock, fun _ => trivial⟩ (Or.inl hlock)
        | failed =>
            exact h.replace (Or.inl hlock) h.listed h.live trivial hreleased (Or.inr rfl)
        | unacknowledged =>
            exact h.replace (Or.inl hlock) hstored h.live trivial hreleased (Or.inr rfl)
      · exact h
  | publish i =>
      rw [ProbeServer.step]
      split
      · rename_i rows hrows
        have hlock : s.lock = some i := (h.lock i).mp (by rw [hrows]; trivial)
        have hlisted : Listed rows := by
          have hphase := h.phases i
          rw [hrows] at hphase
          rw [show rows = s.db.queryProbeTargets from hphase, h.listed.queryProbeTargets]
          exact h.listed
        exact h.replace (Or.inl hlock) h.listed ⟨rows, hlisted, rfl⟩ trivial
          ⟨fun hholds => hholds.elim, fun hnone => nomatch hnone⟩ (Or.inr rfl)
      · exact h
  | drop i =>
      rw [ProbeServer.step]
      split
      · rename_i write hwaits
        exact h.setPhase (by rw [hwaits]; exact id) id trivial
      · exact h
  | restart => exact Sound.start (Or.inr h.listed)

theorem Sound.run (h : Sound s) (events : List Event) :
    Sound (Foundation.run ProbeServer.step s events) := by
  have hstep : ∀ s event, Sound s → Sound (ProbeServer.step s event) :=
    fun s event h => Sound.step h event
  exact run_preserves hstep h events

/-- Whatever the requests do, from a database without targets. -/
theorem sound_after (lastId : Int) (events : List Event) :
    Sound (run step (start ⟨[], lastId⟩) events) := by
  have hstart : Sound (start ⟨[], lastId⟩) := Sound.start (Or.inl rfl)
  exact hstart.run events

/-- The transaction of the step is acknowledged, or has no effect. -/
def Event.Acknowledged : Event → Prop
  | .store _ .unacknowledged => False
  | _ => True

/-- A phase that does not publish. -/
theorem UpToDate.setPhase (h : UpToDate s) {i : Nat} {phase : ProbePhase}
    (hbefore : ¬ Holds (s.requests i)) : UpToDate (s.setPhase i phase) := by
  obtain heq | ⟨j, rows, hrows⟩ := h
  · exact Or.inl heq
  · right
    have hj : j ≠ i := by
      rintro rfl
      rw [hrows] at hbefore
      exact hbefore trivial
    exact ⟨j, rows, by rw [Phases.set_of_ne _ phase hj, hrows]⟩

theorem UpToDate.step (h : UpToDate s) (hsound : Sound s) {event : Event}
    (hevent : event.Acknowledged) : UpToDate (s.step event) := by
  have halone : ∀ {i j rows}, s.lock = some i → s.requests j = .stored rows → j = i := by
    intro i j rows hlock hrows
    have hholds : s.lock = some j := (hsound.lock j).mp (by rw [hrows]; trivial)
    rw [hlock] at hholds
    exact (Option.some.inj hholds).symm
  cases event with
  | arrive i request =>
      rw [ProbeServer.step]
      split
      · rename_i habsent
        have hnot : ¬ Holds (s.requests i) := by
          rw [habsent]
          exact id
        cases request with
        | reset => exact h.setPhase hnot
        | update body =>
            rw [ProbeServer.arrive]
            split
            · exact h.setPhase hnot
            · exact h.setPhase hnot
      · exact h
  | acquire i =>
      rw [ProbeServer.step]
      split
      · rename_i write hwaits hfree
        have hnot : ¬ Holds (s.requests i) := by
          rw [hwaits]
          exact id
        exact h.setPhase hnot
      · exact h
  | store i outcome =>
      rw [ProbeServer.step]
      split
      · rename_i write hholding
        have hlock : s.lock = some i := (hsound.lock i).mp (by rw [hholding]; trivial)
        cases outcome with
        | returned => exact Or.inr ⟨i, _, Phases.set_self _ i _⟩
        | failed =>
            -- The request that failed was the only one that could be about to publish.
            left
            obtain heq | ⟨j, rows, hrows⟩ := h
            · exact heq
            · rw [halone hlock hrows, hholding] at hrows
              cases hrows
        | unacknowledged => exact hevent.elim
      · exact h
  | publish i =>
      rw [ProbeServer.step]
      split
      · rename_i rows hrows
        have hphase := hsound.phases i
        rw [hrows] at hphase
        exact Or.inl (congrArg runtimeProbeTargets hphase)
      · exact h
  | drop i =>
      rw [ProbeServer.step]
      split
      · rename_i write hwaits
        exact h.setPhase (by rw [hwaits]; exact id)
      · exact h
  | restart => exact Or.inl rfl

/-- The state that a restart reaches, and what happens after it. -/
def afterRestart (lastId : Int) (earlier later : List Event) : ProbeServer :=
  run step ((run step (start ⟨[], lastId⟩) earlier).step .restart) later

theorem afterRestart_sound (lastId : Int) (earlier later : List Event) :
    Sound (afterRestart lastId earlier later) :=
  ((sound_after lastId earlier).step .restart).run later

theorem afterRestart_upToDate (lastId : Int) (earlier : List Event) {later : List Event}
    (hlater : ∀ event ∈ later, event.Acknowledged) : UpToDate (afterRestart lastId earlier later) := by
  have hstep : ∀ (s : ProbeServer) (event : Event), (Sound s ∧ UpToDate s) → event.Acknowledged →
      (Sound (step s event) ∧ UpToDate (step s event)) :=
    fun s event h hevent => ⟨h.1.step event, h.2.step h.1 hevent⟩
  have halong : ∀ s, Along step (fun _ event => event.Acknowledged) s later :=
    Along.of_forall (fun event hevent _ => hlater event hevent)
  exact (run_invariant hstep ⟨(sound_after lastId earlier).step .restart, Or.inl rfl⟩
    (halong _)).2

/-! ## A list that is sent back -/

/-- The steps of a request that sends back the list that is stored. -/
def sendBack (i : Nat) (s : ProbeServer) : ProbeServer :=
  Foundation.run ProbeServer.step s [.arrive i (.update (s.listProbes.map asInput)), .acquire i,
    .store i .returned, .publish i]

/-- The list that is sent back is accepted, and published as it was. -/
theorem sendBack_published (h : Sound s) {i : Nat} (hfree : s.lock = none)
    (habsent : s.requests i = .absent) :
    (s.sendBack i).live = runtimeProbeTargets s.listProbes ∧
      runtimeProbeTargets (s.sendBack i).listProbes = runtimeProbeTargets s.listProbes ∧
      (s.sendBack i).requests i = .answered (.ok (s.sendBack i).listProbes) := by
  have hlisted : Listed s.listProbes := by
    rw [listProbes, h.listed.queryProbeTargets]
    exact h.listed
  have hvalidate := hlisted.validate
  have hsame : runtimeProbeTargets (s.listProbes.map (fun row => { row with id := 0 })) =
      runtimeProbeTargets s.listProbes := by
    rw [runtimeProbeTargets, List.map_map]
    rfl
  generalize s.listProbes.map (fun row => { row with id := 0 }) = rows at hvalidate hsame
  have hstored := (replaceAll_listed (Listed.of_validate hvalidate) s.db).2
  have harrive : s.step (.arrive i (.update (s.listProbes.map asInput))) =
      s.setPhase i (.waiting (.replaceAll rows)) := by
    simp only [ProbeServer.step, habsent, ProbeServer.arrive, hvalidate]
  have hsent : s.sendBack i = setPhase (setPhase (setPhase (setPhase
      ⟨s.db.replaceAllProbeTargets rows,
        runtimeProbeTargets (s.db.replaceAllProbeTargets rows).queryProbeTargets, none, s.requests⟩
      i (.waiting (.replaceAll rows))) i (.holding (.replaceAll rows))) i
      (.stored (s.db.replaceAllProbeTargets rows).queryProbeTargets)) i
      (.answered (.ok (s.db.replaceAllProbeTargets rows).queryProbeTargets)) := by
    rw [ProbeServer.sendBack, run_cons, harrive]
    simp only [run_cons, run_nil, ProbeServer.step, Phases.set_self, hfree, ProbeServer.store]
    rfl
  rw [hsent]
  exact ⟨hstored.trans hsame, hstored.trans hsame, Phases.set_self _ i _⟩

/-- In every run of the process, from a database without targets and with restarts at any
time: the list that is stored and the list that the engine reads are ones that passed the
check.  They are the same whenever no request holds the lock, as long as every transaction
since the last restart is acknowledged or has no effect.  And a client that sends back the
list that it was given changes nothing. -/
theorem targets_published (lastId : Int) (earlier later : List Event) :
    Listed (afterRestart lastId earlier later).listProbes ∧
      (∃ rows, Listed rows ∧
        (afterRestart lastId earlier later).live = runtimeProbeTargets rows) ∧
      ((∀ event ∈ later, event.Acknowledged) → (afterRestart lastId earlier later).lock = none →
        (afterRestart lastId earlier later).live =
          runtimeProbeTargets (afterRestart lastId earlier later).listProbes) ∧
      ∀ i, (afterRestart lastId earlier later).lock = none →
        (afterRestart lastId earlier later).requests i = .absent →
        ((afterRestart lastId earlier later).sendBack i).live =
            runtimeProbeTargets (afterRestart lastId earlier later).listProbes ∧
          runtimeProbeTargets ((afterRestart lastId earlier later).sendBack i).listProbes =
            runtimeProbeTargets (afterRestart lastId earlier later).listProbes ∧
          ((afterRestart lastId earlier later).sendBack i).requests i =
            .answered (.ok ((afterRestart lastId earlier later).sendBack i).listProbes) := by
  have hsound := afterRestart_sound lastId earlier later
  refine ⟨?_, hsound.live, ?_, fun i hfree habsent => sendBack_published hsound hfree habsent⟩
  · rw [listProbes, hsound.listed.queryProbeTargets]
    exact hsound.listed
  · intro hlater hfree
    obtain heq | ⟨i, rows, hrows⟩ := afterRestart_upToDate lastId earlier hlater
    · exact heq
    · have hlock := (hsound.lock i).mp (by rw [hrows]; trivial)
      rw [hfree] at hlock
      cases hlock

/-- Two requests on a new database, of which the second is stored before a restart
and is not published. -/
def restartedRun : List Event :=
  [.arrive 0 .reset, .acquire 0, .store 0 .returned, .publish 0,
    .arrive 1 (.update [⟨" Resolver ", "EXAMPLE.com.", "dns"⟩]), .acquire 1, .store 1 .returned]

/-- After the restart, a request that cannot be stored. -/
def failedRun : List Event := [.arrive 0 .reset, .acquire 0, .store 0 .failed]

theorem targets_published_restarted :
    (afterRestart 0 restartedRun failedRun).live =
        runtimeProbeTargets (afterRestart 0 restartedRun failedRun).listProbes ∧
      ((afterRestart 0 restartedRun failedRun).sendBack 1).live =
        runtimeProbeTargets (afterRestart 0 restartedRun failedRun).listProbes := by
  obtain ⟨_, _, hsame, hback⟩ := targets_published 0 restartedRun failedRun
  refine ⟨hsame ?_ rfl, (hback 1 rfl rfl).1⟩
  simp only [failedRun, List.forall_mem_cons, Event.Acknowledged, true_and]
  exact fun _ h => absurd h List.not_mem_nil

end ProbeServer

end RouterView.Api
