/-
  Foundation/Json.lean --- JSON values, and readers of them.

  A value as a serialiser writes it, with the entries of an object in the order of the
  fields, and an object as a script sees it: its properties, whatever their order.  A
  number is the value that its text denotes; the text itself, its white space and its
  escapes are left out.

  A reader looks at a value, or finds none, at a path that its errors name.  `Reads` says
  of a reader and a writer both that the reader takes what the writer wrote exactly where
  the value is accepted, and what it takes it as; it composes through the fields of a
  record and the items of an array.
-/
import RouterView.Foundation.F64
import RouterView.Foundation.Checked

set_option autoImplicit false

namespace RouterView.Foundation

/-- A JSON value. -/
inductive Json where
  | null
  | bool (value : Bool)
  | number (value : Rat)
  | string (value : String)
  | array (items : List Json)
  | object (entries : List (String × Json))

/-- The properties of an object. -/
abbrev JsObject : Type := String → Option Json

namespace Json

/-- An `f64`: what is not a number is written as `null`. -/
def ofF64 : F64 → Json
  | .finite value => .number value
  | _ => .null

def ofNat (n : Nat) : Json := .number n

def ofInt (n : Int) : Json := .number n

/-- An `Option` that is written as `null` where it is absent. -/
def nullable : Option Json → Json
  | some value => value
  | none => .null

/-- The entry of a field that is left out where it is absent. -/
def skipNone (name : String) : Option Json → List (String × Json)
  | some value => [(name, value)]
  | none => []

/-- The properties of the entries, the last one of a name. -/
def ofEntries (entries : List (String × Json)) : JsObject :=
  fun key => (entries.reverse.find? (fun entry => entry.1 == key)).map Prod.snd

/-- The properties of a value. -/
def properties : Json → JsObject
  | .object entries => ofEntries entries
  | _ => fun _ => none

/-- Whether a test of the value succeeds. -/
def truthy : Json → Bool
  | .null => false
  | .bool value => value
  | .number value => decide (value ≠ 0)
  | .string value => !value.isEmpty
  | .array _ => true
  | .object _ => true

end Json

/-- The value of a property that passes a test of it, `undefined` failing. -/
def truthyProperty (object : JsObject) (name : String) : Option Json :=
  (object name).filter Json.truthy

/-- `Object.assign`. -/
def JsObject.assign (target source : JsObject) : JsObject :=
  fun key => (source key).or (target key)

theorem Json.ofEntries_eq_none_iff {entries : List (String × Json)} {key : String} :
    Json.ofEntries entries key = none ↔ key ∉ entries.map Prod.fst := by
  unfold Json.ofEntries
  rw [Option.map_eq_none_iff, List.find?_eq_none]
  simp only [List.mem_reverse, beq_iff_eq, List.mem_map, not_exists, not_and]

theorem Json.ofEntries_append_eq_none_iff {first second : List (String × Json)} {key : String} :
    Json.ofEntries (first ++ second) key = none ↔
      Json.ofEntries first key = none ∧ Json.ofEntries second key = none := by
  simp only [Json.ofEntries_eq_none_iff, List.map_append, List.mem_append, not_or]

theorem Json.ofEntries_skipNone_eq_none_iff {name key : String} {value : Option Json} :
    Json.ofEntries (Json.skipNone name value) key = none ↔ (key = name → value = none) := by
  rw [Json.ofEntries_eq_none_iff]
  cases value with
  | none => simp [Json.skipNone]
  | some value => simp [Json.skipNone]

/-- An assignment gives exactly the source where the source has every property of
the target. -/
theorem JsObject.assign_eq_iff {target source : JsObject} :
    target.assign source = source ↔ ∀ key, source key = none → target key = none := by
  constructor
  · intro h key hnone
    have hkey := congrFun h key
    rw [JsObject.assign, hnone, Option.none_or] at hkey
    exact hkey
  · intro h
    funext key
    cases hkey : source key with
    | some value => rw [JsObject.assign, hkey, Option.some_or]
    | none => rw [JsObject.assign, hkey, Option.none_or, h key hkey]

/-! ## Readers -/

section

variable {ε α β γ : Type}

/-- A reader of the value at a path, or of the absence of one. -/
abbrev Reader (ε α : Type) : Type := Option Json → String → Except ε α

/-- What `write` writes is read, at every path, exactly where it is accepted, and then as
its view. -/
def Reads (read : Reader ε β) (write : α → Json) (Accepts : α → Prop) (view : α → β) : Prop :=
  ∀ a path b, read (some (write a)) path = .ok b ↔ Accepts a ∧ view a = b

namespace Reads

variable {read : Reader ε β} {write : α → Json} {Accepts Accepts' : α → Prop} {view : α → β}

/-- A reader that takes everything that is written. -/
theorem total (h : ∀ a path, read (some (write a)) path = .ok (view a)) :
    Reads read write (fun _ => True) view := by
  intro a path b
  rw [h a path]
  simp only [Except.ok.injEq, true_and]

theorem congr (h : Reads read write Accepts view) (hiff : ∀ a, Accepts a ↔ Accepts' a) :
    Reads read write Accepts' view := by
  intro a path b
  rw [h a path b, hiff a]

/-- A field that is read before the rest. -/
theorem bind_iff (h : Reads read write Accepts view) {a : α} {path : String}
    {f : β → Except ε γ} {c : γ} :
    (read (some (write a)) path >>= f) = .ok c ↔ Accepts a ∧ f (view a) = .ok c := by
  rw [bind_eq_ok_iff]
  constructor
  · rintro ⟨b, hread, hf⟩
    obtain ⟨haccepts, rfl⟩ := (h a path b).mp hread
    exact ⟨haccepts, hf⟩
  · rintro ⟨haccepts, hf⟩
    exact ⟨view a, (h a path (view a)).mpr ⟨haccepts, rfl⟩, hf⟩

/-- A field whose value the record holds as present. -/
theorem map_bind_iff (h : Reads read write Accepts view) {a : α} {path : String} {g : β → γ}
    {δ : Type} {f : γ → Except ε δ} {c : δ} :
    ((g <$> read (some (write a)) path) >>= f) = .ok c ↔ Accepts a ∧ f (g (view a)) = .ok c := by
  have hbind : ((g <$> read (some (write a)) path) >>= f) =
      (read (some (write a)) path >>= fun b => f (g b)) := by
    cases read (some (write a)) path <;> rfl
  rw [hbind, h.bind_iff]

/-- The items of an array, each read at a path of its own. -/
theorem mapM_iff (h : Reads read write Accepts view) (at_ : Nat → String) (l : List α) (n : Nat)
    (bs : List β) :
    ((l.map write).zipIdx n).mapM (fun item => read (some item.1) (at_ item.2)) = .ok bs ↔
      (∀ a ∈ l, Accepts a) ∧ l.map view = bs := by
  induction l generalizing n bs with
  | nil =>
      rw [List.map_nil, List.zipIdx_nil, List.mapM_nil, pure_eq_ok]
      simp only [Except.ok.injEq, List.not_mem_nil, false_implies, implies_true, true_and,
        List.map_nil]
  | cons a rest ih =>
      rw [List.map_cons, List.zipIdx_cons, List.mapM_cons, h.bind_iff, bind_eq_ok_iff]
      simp only [ih, List.mem_cons, forall_eq_or_imp, List.map_cons, pure_eq_ok,
        Except.ok.injEq]
      constructor
      · rintro ⟨ha, rest', ⟨hrest, rfl⟩, rfl⟩
        exact ⟨⟨ha, hrest⟩, rfl⟩
      · rintro ⟨⟨ha, hrest⟩, rfl⟩
        exact ⟨ha, _, ⟨hrest, rfl⟩, rfl⟩

end Reads

end

end RouterView.Foundation
