/-
JSON values as nlohmann's library keeps them: numbers in three kinds, strings as bytes and
an object as its members by name.

The library's part in a conversion is that of `find`, of the index operator and of
`get_to`, each of them documented.  What a type is written as and how it is read back is
`JsonValue`, one instance for each overload in use, and `LawfulJsonValue` says that a value
is read back as it was written.  `get` is the step every tolerant reader is made of: a
member that is missing or null leaves what stands there.

`AgreesOn` is the notion the round trips need.  A value reads as an object does under the
names in a list, whatever it holds under any other.
-/
import Mathlib

namespace UrnetworkWindows.Lib

/-- The bytes of a text, as a narrow literal holds them. -/
def utf8 (s : String) : ByteArray := s.toUTF8

@[simp] lemma utf8_inj {s t : String} : utf8 s = utf8 t ↔ s = t := by
  rw [utf8, utf8, String.toUTF8_eq_toByteArray, String.toUTF8_eq_toByteArray,
    String.toByteArray_inj]

/-! ### Values -/

inductive Json
  | null
  | boolean (b : Bool)
  | integer (n : Int64)
  | unsigned (n : UInt64)
  | float (x : Float)
  | string (s : ByteArray)
  | array (elements : List Json)
  | object (members : List (ByteArray × Json))

/-- The members of an object.  The order does not matter, and a name comes once. -/
abbrev Members := List (ByteArray × Json)

/-- What the library throws, and what a reader throws itself. -/
inductive Thrown
  | typeError (wanted found : String)
  | runtimeError (what : ByteArray)
deriving DecidableEq

/-- The members a literal lists. -/
def members (ms : List (String × Json)) : Members := ms.map fun m => (utf8 m.1, m.2)

/-- The member of a name. -/
def Members.find : Members → String → Option Json
  | [], _ => none
  | m :: ms, k => if m.1 = utf8 k then some m.2 else Members.find ms k

/-- `j[k] = x`. -/
def Members.set (ms : Members) (k : String) (x : Json) : Members :=
  (utf8 k, x) :: ms.filter fun m => m.1 ≠ utf8 k

namespace Json

/-- `type_name`. -/
def typeName : Json → String
  | null => "null"
  | boolean _ => "boolean"
  | integer _ => "number"
  | unsigned _ => "number"
  | float _ => "number"
  | string _ => "string"
  | array _ => "array"
  | object _ => "object"

def isNull : Json → Bool
  | null => true
  | _ => false

def isString : Json → Bool
  | string _ => true
  | _ => false

def isArray : Json → Bool
  | array _ => true
  | _ => false

def isObject : Json → Bool
  | object _ => true
  | _ => false

/-- `find`, which finds nothing in a value of another kind. -/
def find : Json → String → Option Json
  | object ms, k => Members.find ms k
  | _, _ => none

end Json

@[simp] lemma find_object (ms : Members) (k : String) : (Json.object ms).find k = ms.find k :=
  rfl

@[simp] lemma find_members_nil (k : String) : (members []).find k = none := rfl

@[simp] lemma find_members_cons (m : String × Json) (ms : List (String × Json)) (k : String) :
    (members (m :: ms)).find k = if m.1 = k then some m.2 else (members ms).find k := by
  rw [members, List.map_cons, Members.find]
  simp only [utf8_inj]
  rfl

/-- Filtering out one name leaves what stands under the others. -/
lemma find_filter {k k' : String} (h : k' ≠ k) (ms : Members) :
    Members.find (ms.filter fun m => m.1 ≠ utf8 k) k' = ms.find k' := by
  induction ms with
  | nil => rfl
  | cons m ms ih =>
    by_cases hm : m.1 = utf8 k
    · have hne : m.1 ≠ utf8 k' := by
        rw [hm]
        simpa using h.symm
      rw [List.filter_cons_of_neg (by simpa using hm), Members.find, if_neg hne, ih]
    · rw [List.filter_cons_of_pos (by simpa using hm), Members.find, Members.find, ih]

@[simp] lemma find_set (ms : Members) (k k' : String) (x : Json) :
    (ms.set k x).find k' = if k = k' then some x else ms.find k' := by
  rw [Members.set, Members.find]
  by_cases h : k = k'
  · rw [if_pos (congrArg utf8 h), if_pos h]
  · rw [if_neg (by simpa using h), if_neg h, find_filter (Ne.symm h)]

/-! ### Conversions -/

/-- How a type is written and read back. -/
class JsonValue (α : Type) where
  toJson : α → Json
  getTo : Json → Except Thrown α

export JsonValue (toJson getTo)

/-- A value is never written as null, and is read back as it was written. -/
class LawfulJsonValue (α : Type) [JsonValue α] : Prop where
  isNull_toJson (a : α) : (toJson a).isNull = false
  getTo_toJson (a : α) : getTo (toJson a) = .ok a

attribute [simp] LawfulJsonValue.isNull_toJson LawfulJsonValue.getTo_toJson

instance : JsonValue ByteArray where
  toJson := .string
  getTo
    | .string s => .ok s
    | j => .error (.typeError "string" j.typeName)

instance : JsonValue Bool where
  toJson := .boolean
  getTo
    | .boolean b => .ok b
    | j => .error (.typeError "boolean" j.typeName)

instance : JsonValue Int64 where
  toJson := .integer
  getTo
    | .integer n => .ok n
    | .unsigned n => .ok n.toInt64
    | .float x => .ok x.toInt64
    | j => .error (.typeError "number" j.typeName)

/-- An arithmetic type other than the library's own also takes a boolean. -/
instance : JsonValue Int32 where
  toJson n := .integer n.toInt64
  getTo
    | .integer n => .ok n.toInt32
    | .unsigned n => .ok n.toInt64.toInt32
    | .float x => .ok x.toInt32
    | .boolean b => .ok b.toInt32
    | j => .error (.typeError "number" j.typeName)

instance : JsonValue (List ByteArray) where
  toJson xs := .array (xs.map .string)
  getTo
    | .array js => js.mapM getTo
    | j => .error (.typeError "array" j.typeName)

instance : LawfulJsonValue ByteArray := ⟨fun _ => rfl, fun _ => rfl⟩

instance : LawfulJsonValue Bool := ⟨fun _ => rfl, fun _ => rfl⟩

instance : LawfulJsonValue Int64 := ⟨fun _ => rfl, fun _ => rfl⟩

instance : LawfulJsonValue Int32 where
  isNull_toJson _ := rfl
  getTo_toJson n := congrArg Except.ok (Int32.toInt32_toInt64 n)

lemma mapM_getTo_strings (xs : List ByteArray) :
    (xs.map Json.string).mapM (getTo (α := ByteArray)) = .ok xs := by
  induction xs with
  | nil => rfl
  | cons x xs ih =>
    rw [List.map_cons, List.mapM_cons, ih]
    rfl

instance : LawfulJsonValue (List ByteArray) where
  isNull_toJson _ := rfl
  getTo_toJson := mapM_getTo_strings

namespace Json

/-- The tolerant reader's step: a missing or null member leaves `out`. -/
def get {α : Type} [JsonValue α] (j : Json) (k : String) (out : α) : Except Thrown α :=
  match j.find k with
  | some x => if x.isNull then .ok out else getTo x
  | none => .ok out

/-- A member is kept where it is of the kind `p`, and leaves `out` otherwise. -/
def keep (j : Json) (p : Json → Bool) (k : String) (out : Json) : Json :=
  match j.find k with
  | some x => if p x then x else out
  | none => out

section Lemmas

variable {j : Json} {k : String}

section

variable {α : Type} [JsonValue α] [LawfulJsonValue α]

lemma get_of_written {a out : α} (h : j.find k = some (toJson a)) : j.get k out = .ok a := by
  simp [get, h]

/-- A field that is left out where it has its default is read back all the same. -/
lemma get_of_optional {a out : α} {c : Bool} (hc : c = false → a = out)
    (h : j.find k = if c then some (toJson a) else none) : j.get k out = .ok a := by
  cases c with
  | false =>
    rw [hc rfl]
    simp [get, h]
  | true => exact get_of_written h

end

/-- A flag that is written only where it stands. -/
lemma get_of_flag {b : Bool} (h : j.find k = if b then some (toJson true) else none) :
    j.get k false = .ok b := by
  cases b with
  | false => simp [get, h]
  | true => exact get_of_written h

lemma keep_of_kind {p : Json → Bool} {x out : Json} (h : j.find k = some x) (hx : p x) :
    j.keep p k out = x := by
  simp [keep, h, hx]

end Lemmas

end Json

/-- A computation that ended well did so step by step. -/
lemma bind_eq_ok {ε α β : Type} {x : Except ε α} {f : α → Except ε β} {b : β}
    (h : x >>= f = .ok b) : ∃ a, x = .ok a ∧ f a = .ok b := by
  cases x with
  | error e => cases h
  | ok a => exact ⟨a, rfl, h⟩

/-! ### Objects that agree -/

/-- The value reads as the object does under each of the names, whatever else it holds. -/
def AgreesOn (ks : List String) (j : Json) (ms : Members) : Prop :=
  ∀ k ∈ ks, j.find k = ms.find k

namespace AgreesOn

variable {ks : List String} {j : Json} {ms : Members}

lemma refl (ks : List String) (ms : Members) : AgreesOn ks (.object ms) ms := fun _ _ => rfl

/-- A member of a name outside the list makes no difference. -/
lemma set {k : String} (h : k ∉ ks) (x : Json) : AgreesOn ks (.object (ms.set k x)) ms := by
  intro k' hk'
  have hne : k ≠ k' := by
    rintro rfl
    exact h hk'
  rw [find_object, find_set, if_neg hne]

end AgreesOn

end UrnetworkWindows.Lib
