/-
  Oidc/FlowSpec.lean --- the steps of the login flows.

  An insertion keeps the limits of the store, a consumption takes its state out
  whatever comes of it, and a callback whose query and cookie agree on a state
  does the latter.
-/
import Mathlib.Data.LawfulXor.Basic
import RouterView.Oidc.Flow

set_option autoImplicit false

namespace RouterView.Oidc

open RouterView.Foundation

/-! ## Comparisons -/

theorem foldl_or_eq_zero (f : Nat → Nat) (indices : List Nat) (start : Nat) :
    indices.foldl (fun difference index => difference ||| f index) start = 0 ↔
      start = 0 ∧ ∀ index ∈ indices, f index = 0 := by
  induction indices generalizing start with
  | nil => simp
  | cons index rest ih =>
      rw [List.foldl_cons, ih, Nat.or_eq_zero_iff, List.forall_mem_cons, and_assoc]

theorem xor_toNat_eq_zero (a b : UInt8) : (a ^^^ b).toNat = 0 ↔ a = b := by
  rw [← UInt8.xor_eq_zero_iff, ← UInt8.toNat_inj]
  rfl

/-- The comparison in constant time is an equality. -/
theorem constantTimeEq_iff (left right : List UInt8) :
    constantTimeEq left right = true ↔ left = right := by
  rw [constantTimeEq, beq_iff_eq, foldl_or_eq_zero, xor_eq_zero_iff]
  constructor
  · rintro ⟨hlength, hbytes⟩
    apply List.ext_getElem hlength
    intro index hleft hright
    have hbyte := hbytes index (List.mem_range.mpr (lt_max_of_lt_left hleft))
    rw [xor_toNat_eq_zero, List.getElem?_eq_getElem hleft, List.getElem?_eq_getElem hright] at hbyte
    exact hbyte
  · rintro rfl
    exact ⟨rfl, fun index _ => (xor_toNat_eq_zero _ _).mpr rfl⟩

theorem constantTimeEq_asBytes (left right : String) :
    constantTimeEq (asBytes left) (asBytes right) = true ↔ left = right := by
  rw [constantTimeEq_iff, asBytes_inj]

/-! ## The store -/

section Store

variable {Addr : Type} [DecidableEq Addr] {store : FlowStore Addr} {state : String}
  {source : Addr} {now : Nat}

/-- The limits of the store. -/
structure Bounded (store : FlowStore Addr) : Prop where
  size : store.size ≤ flowCapacity
  perSource : ∀ source, store.ofSource source ≤ flowPerSource

theorem Bounded.empty : Bounded (Dict.empty : FlowStore Addr) :=
  ⟨Nat.zero_le _, fun _ => Nat.zero_le _⟩

theorem Bounded.purge (h : Bounded store) (now : Nat) : Bounded (store.purge now) :=
  ⟨le_trans (Dict.size_retain_le _ _) h.size,
    fun source => le_trans (Dict.count_retain_le _ _ _) (h.perSource source)⟩

theorem Bounded.remove (h : Bounded store) (state : String) : Bounded (store.remove state) :=
  ⟨le_trans (Dict.size_remove_le _ _) h.size,
    fun source => le_trans (Dict.count_remove_le _ _ _) (h.perSource source)⟩

theorem Bounded.insert (h : Bounded store) (state : String) (flow : LoginFlow Addr) (now : Nat) :
    Bounded (store.insert state flow now).2 := by
  have hkept := h.purge now
  unfold FlowStore.insert
  simp only
  split
  · exact hkept
  · rename_i hroom
    obtain ⟨hsize, hsource⟩ := not_or.mp hroom
    refine ⟨?_, ?_⟩
    · have hremove := Dict.size_remove_le (store.purge now) state
      rw [← Dict.count_true, ← Dict.count_true] at hremove
      rw [← Dict.count_true, Dict.count_put, if_pos rfl]
      rw [Dict.count_true (store.purge now)] at hremove
      omega
    · intro source
      have hremove : FlowStore.ofSource ((store.purge now).remove state) source ≤
          (store.purge now).ofSource source := Dict.count_remove_le _ _ _
      have hbound := hkept.perSource source
      have hput : FlowStore.ofSource ((store.purge now).put state flow) source =
          FlowStore.ofSource ((store.purge now).remove state) source +
            (if decide (flow.source = source) = true then 1 else 0) := Dict.count_put _ _ _ _
      rw [hput]
      by_cases hsame : flow.source = source
      · subst hsame
        rw [if_pos (decide_eq_true rfl)]
        omega
      · rw [if_neg (by rw [decide_eq_true_eq]; exact hsame)]
        omega

theorem Bounded.consume (h : Bounded store) (state : String) (source : Addr) (now : Nat) :
    Bounded (store.consume state source now).2 := by
  unfold FlowStore.consume
  cases hfind : (store.purge now).find? state with
  | none =>
      simp only [hfind]
      exact h.purge now
  | some flow =>
      simp only [hfind]
      exact (h.purge now).remove state

theorem insert_find? {flow stored : LoginFlow Addr} {key : String}
    (h : (store.insert state flow now).2.find? key = some stored) :
    store.find? key = some stored ∨ key = state := by
  unfold FlowStore.insert at h
  simp only at h
  split at h
  · exact Or.inl (Dict.find?_retain_eq_some_iff.mp h).1
  · rw [Dict.find?_put] at h
    split at h
    · exact Or.inr ‹_›
    · exact Or.inl (Dict.find?_retain_eq_some_iff.mp h).1

theorem consume_find? {stored : LoginFlow Addr} {key : String}
    (h : (store.consume state source now).2.find? key = some stored) :
    store.find? key = some stored := by
  unfold FlowStore.consume at h
  cases hfind : (store.purge now).find? state with
  | none =>
      simp only [hfind] at h
      exact (Dict.find?_retain_eq_some_iff.mp h).1
  | some flow =>
      simp only [hfind, Dict.find?_remove] at h
      split at h
      · cases h
      · exact (Dict.find?_retain_eq_some_iff.mp h).1

/-- The state is gone after its consumption, whatever comes of it. -/
theorem consume_gone (store : FlowStore Addr) (state : String) (source : Addr) (now : Nat) :
    (store.consume state source now).2.find? state = none := by
  unfold FlowStore.consume
  cases hfind : (store.purge now).find? state with
  | none => simp only [hfind]
  | some flow => simp only [hfind, Dict.find?_remove_self]

/-- What is consumed was stored for the source, and is not expired. -/
theorem consume_eq_some {flow : LoginFlow Addr}
    (h : (store.consume state source now).1 = some flow) :
    store.find? state = some flow ∧ flow.source = source ∧ now < flow.expiresAt := by
  unfold FlowStore.consume at h
  cases hfind : (store.purge now).find? state with
  | none =>
      simp only [hfind] at h
      cases h
  | some stored =>
      simp only [hfind] at h
      split at h
      · rename_i hgood
        cases h
        exact ⟨(Dict.find?_retain_eq_some_iff.mp hfind).1, hgood⟩
      · cases h

end Store

/-! ## The handlers -/

section Handlers

variable {Addr Identity : Type}

/-- The state on which an admissible query and the cookie of a callback agree. -/
def agreedState (request : CallbackRequest Addr) : Option String :=
  match parseQuery request.query callbackFields with
  | none => none
  | some values =>
      if strayErrorDetails values then none
      else
        match values.find? "state", singleCookie request.cookies flowCookie with
        | some queryState, some cookieState =>
            if queryState = cookieState then some queryState else none
        | _, _ => none

theorem agreedState_eq_some {request : CallbackRequest Addr} {state : String}
    (h : agreedState request = some state) :
    ∃ values, parseQuery request.query callbackFields = some values ∧
      strayErrorDetails values = false ∧ values.find? "state" = some state ∧
      singleCookie request.cookies flowCookie = some state := by
  unfold agreedState at h
  cases hparse : parseQuery request.query callbackFields with
  | none =>
      rw [hparse] at h
      cases h
  | some values =>
      rw [hparse] at h
      cases hstray : strayErrorDetails values with
      | true =>
          simp only [hstray, if_true] at h
          cases h
      | false =>
          simp only [hstray, Bool.false_eq_true, if_false] at h
          cases hquery : values.find? "state" with
          | none =>
              rw [hquery] at h
              cases h
          | some queryState =>
              cases hcookie : singleCookie request.cookies flowCookie with
              | none =>
                  rw [hquery, hcookie] at h
                  cases h
              | some cookieState =>
                  simp only [hquery, hcookie] at h
                  split at h
                  · rename_i hsame
                    cases h
                    exact ⟨values, rfl, hstray, hquery, by rw [hsame]⟩
                  · cases h

variable [DecidableEq Addr] {store : FlowStore Addr} {now : Nat}

/-- What a callback leaves of the store when it has a state to look for. -/
def burn (store : FlowStore Addr) (state : String) (now : Nat) : Option Addr → FlowStore Addr
  | none => store.remove state
  | some source => (store.consume state source now).2

/-- A callback whose query and cookie agree burns the state. -/
theorem admitCallback_agreed {request : CallbackRequest Addr} {state : String}
    (h : agreedState request = some state) :
    (admitCallback store request now).2 = burn store state now request.source ∧
      ∀ values flow, (admitCallback store request now).1 = .ok (values, flow) →
        ∃ source stored, request.source = some source ∧
          (store.consume state source now).1 = some stored ∧ flow = stored.consumed ∧
          parseQuery request.query callbackFields = some values := by
  obtain ⟨values, hparse, hstray, hquery, hcookie⟩ := agreedState_eq_some h
  have hequal := (constantTimeEq_asBytes state state).mpr rfl
  unfold admitCallback
  simp only [hparse, hstray, hquery, hcookie, hequal, Bool.false_eq_true, if_false, if_true]
  cases hsource : request.source with
  | none => exact ⟨rfl, fun _ _ herror => by cases herror⟩
  | some source =>
      cases hconsume : store.consume state source now with
      | mk found store' =>
          have hburn : burn store state now (some source) = store' := by rw [burn, hconsume]
          simp only [hconsume, hburn]
          cases found with
          | none => exact ⟨rfl, fun _ _ herror => by cases herror⟩
          | some stored =>
              refine ⟨rfl, ?_⟩
              intro values' flow hok
              cases hok
              exact ⟨source, stored, rfl, by rw [hconsume], rfl, rfl⟩

/-- Any other callback leaves the store, and does not go on. -/
theorem admitCallback_other (store : FlowStore Addr) (now : Nat)
    {request : CallbackRequest Addr} (h : agreedState request = none) :
    (admitCallback store request now).2 = store ∧
      ∃ error, (admitCallback store request now).1 = .error error := by
  unfold agreedState at h
  unfold admitCallback
  cases hparse : parseQuery request.query callbackFields with
  | none => exact ⟨rfl, _, rfl⟩
  | some values =>
      rw [hparse] at h
      cases hstray : strayErrorDetails values with
      | true =>
          simp only [hstray, if_true]
          exact ⟨trivial, _, rfl⟩
      | false =>
          simp only [hstray, Bool.false_eq_true, if_false] at h ⊢
          cases hquery : values.find? "state" with
          | none => exact ⟨rfl, _, rfl⟩
          | some queryState =>
              cases hcookie : singleCookie request.cookies flowCookie with
              | none => exact ⟨rfl, _, rfl⟩
              | some cookieState =>
                  simp only [hquery, hcookie] at h ⊢
                  split at h
                  · cases h
                  · rename_i hdiffer
                    rw [if_neg (fun hequal => hdiffer ((constantTimeEq_asBytes _ _).mp hequal))]
                    exact ⟨rfl, _, rfl⟩

theorem callback_snd (provider : Provider Identity) (store : FlowStore Addr)
    (request : CallbackRequest Addr) (now : Nat) :
    (callback provider store request now).2 = (admitCallback store request now).2 := by
  unfold callback
  rcases admitCallback store request now with ⟨⟨_, _⟩ | ⟨_, _⟩, _⟩ <;> rfl

theorem burn_gone (store : FlowStore Addr) (state : String) (now : Nat) (source : Option Addr) :
    (burn store state now source).find? state = none := by
  cases source with
  | none => exact Dict.find?_remove_self store state
  | some source => exact consume_gone store state source now

theorem burn_find? {state key : String} {source : Option Addr} {stored : LoginFlow Addr}
    (h : (burn store state now source).find? key = some stored) :
    store.find? key = some stored := by
  cases source with
  | none =>
      rw [burn, Dict.find?_remove] at h
      split at h
      · cases h
      · exact h
  | some source => exact consume_find? h

theorem Bounded.burn (h : Bounded store) (state : String) (now : Nat) (source : Option Addr) :
    Bounded (burn store state now source) := by
  cases source with
  | none => exact h.remove state
  | some source => exact h.consume state source now

theorem beginFlow_snd (store : FlowStore Addr) (request : StartRequest Addr) (source : Addr)
    (redirect : String) (now : Nat) : (beginFlow store request source redirect now).2 = store ∨
      ∃ flow, (beginFlow store request source redirect now).2 =
        (store.insert request.tokens.state flow now).2 := by
  unfold beginFlow
  split
  · exact Or.inr ⟨_, rfl⟩
  · exact Or.inl rfl

/-- A start leaves the store, or inserts a flow under its state. -/
theorem start_snd (store : FlowStore Addr) (request : StartRequest Addr) (now : Nat) :
    (start store request now : Response Identity × FlowStore Addr).2 = store ∨
      ∃ flow, (start store request now : Response Identity × FlowStore Addr).2 =
        (store.insert request.tokens.state flow now).2 := by
  unfold start
  split
  · exact Or.inl rfl
  · split
    · exact Or.inl rfl
    · split
      · exact beginFlow_snd store request _ _ now
      · exact Or.inl rfl

end Handlers

end RouterView.Oidc
