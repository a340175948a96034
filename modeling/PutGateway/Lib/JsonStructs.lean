import PutGateway.Lib.Json
/-!
# Structs in JSON

How a value of JSON encodes a number, a text, a list and a struct. A struct
is an object whose members are fields of it, each at most once; a field
without a member has its default.

`ReadsTexts` is what one relies on of a function that reads texts at a
type: a well-formed text of a value that encodes something of the type is
read as that. Of all other texts nothing is assumed. Such functions there
are, one is `readText` over a function on values that follows the encoding.
-/

namespace Json

variable {α : Type}

/-! ## Encodings -/

def EncodesU64 (v : Value) (n : UInt64) : Prop :=
  ∃ lexeme, v = .number lexeme ∧ natural lexeme = some n.toNat

def EncodesBool (v : Value) (b : Bool) : Prop := v = .bool b

def EncodesString (v : Value) (text : String) : Prop := v = .string text.toList

/-- A list is encoded item by item. -/
def EncodesVec (encodes : Value → α → Prop) (v : Value) (l : List α) : Prop :=
  ∃ items, v = .array items ∧ List.Forall₂ encodes items l

/-- What may be missing is encoded as null where it is. -/
def EncodesOption (encodes : Value → α → Prop) (v : Value) : Option α → Prop
  | none => v = .null
  | some a => encodes v a

/-- The members of an object. -/
abbrev Members := List (List Char × Value)

namespace Members

/-- The member of a name. -/
def get (members : Members) (name : String) : Option Value := members.lookup name.toList

/-- The members are fields of these names, each at most once. -/
structure AreFields (members : Members) (names : List String) : Prop where
  known : members.map Prod.fst ⊆ names.map String.toList
  once : (members.map Prod.fst).Nodup

end Members

/-- A field is encoded by its member. Without one it has its default. -/
def EncodesField (encodes : Value → α → Prop) (default : α) : Option Value → α → Prop
  | none, a => a = default
  | some v, a => encodes v a

/-- A struct is encoded as an object, with members for fields of it. -/
def EncodesStruct (names : List String) (encodes : Members → α → Prop) (v : Value) (a : α) :
    Prop :=
  ∃ members : Members, v = .object members ∧ members.AreFields names ∧ encodes members a

/-- **A reader of texts**: it reads what a well-formed text encodes. -/
def ReadsTexts (fromStr : List Char → Option α) (encodes : Value → α → Prop) : Prop :=
  ∀ (text : List Char) (v : Value) (a : α), Text (JsonString.utf8 text) v → encodes v a →
    fromStr text = some a

theorem EncodesVec.map {γ : Type} {encodes : Value → α → Prop} {value : γ → Value} {a : γ → α}
    (h : ∀ c, encodes (value c) (a c)) (l : List γ) :
    EncodesVec encodes (.array (l.map value)) (l.map a) := by
  refine ⟨_, rfl, ?_⟩
  rw [List.forall₂_map_left_iff, List.forall₂_map_right_iff]
  exact List.forall₂_same.mpr fun c _ => h c

/-- An object with a member for some of the fields, in their order. -/
theorem Members.AreFields.of_sublist {members : Members} {names : List String}
    (h : (members.map Prod.fst).Sublist (names.map String.toList))
    (hnames : (names.map String.toList).Nodup) : members.AreFields names :=
  ⟨h.subset, h.nodup hnames⟩

/-! ## A reader -/

/-- A function on values gives what they encode. -/
def Follows (read : Value → Option α) (encodes : Value → α → Prop) : Prop :=
  ∀ (v : Value) (a : α), encodes v a → read v = some a

/-- Read a text by its value. -/
def readText (read : Value → Option α) (text : List Char) : Option α :=
  (parse (JsonString.utf8 text)).bind read

theorem readsTexts_readText {read : Value → Option α} {encodes : Value → α → Prop}
    (h : Follows read encodes) : ReadsTexts (readText read) encodes := by
  intro text v a htext hencodes
  rw [readText, htext.parse, Option.bind_some, h v a hencodes]

def readU64 : Value → Option UInt64
  | .number lexeme =>
    (natural lexeme).bind fun n => if n < 2 ^ 64 then some (UInt64.ofNat n) else none
  | _ => none

def readBool : Value → Option Bool
  | .bool b => some b
  | _ => none

def readString : Value → Option String
  | .string text => some (String.ofList text)
  | _ => none

def readVec (read : Value → Option α) : Value → Option (List α)
  | .array items => items.mapM read
  | _ => none

/-- Null is read as nothing. -/
def readOption (read : Value → Option α) : Value → Option (Option α)
  | .null => some none
  | v => (read v).map some

/-- A field without a member is read as its default. -/
def readField (read : Value → Option α) (default : α) : Option Value → Option α
  | none => some default
  | some v => read v

/-- An object is read by its members. -/
def readStruct (read : Members → Option α) : Value → Option α
  | .object members => read members
  | _ => none

theorem follows_readU64 : Follows readU64 EncodesU64 := by
  rintro v n ⟨lexeme, rfl, hn⟩
  rw [readU64, hn, Option.bind_some, if_pos n.toNat_lt, UInt64.ofNat_toNat]

theorem follows_readBool : Follows readBool EncodesBool := by
  rintro v b rfl
  rfl

theorem follows_readString : Follows readString EncodesString := by
  rintro v text rfl
  rw [readString, String.ofList_toList]

theorem follows_readVec {read : Value → Option α} {encodes : Value → α → Prop}
    (h : Follows read encodes) : Follows (readVec read) (EncodesVec encodes) := by
  rintro v l ⟨items, rfl, hitems⟩
  rw [readVec]
  induction hitems with
  | nil => rfl
  | cons hitem _ ih => rw [List.mapM_cons, h _ _ hitem, ih]; rfl

theorem follows_readOptionString :
    Follows (readOption readString) (EncodesOption EncodesString) := by
  intro v text h
  cases text with
  | none =>
    obtain rfl : v = .null := h
    rfl
  | some text =>
    obtain rfl : v = .string text.toList := h
    exact congrArg (Option.map some) (follows_readString _ text rfl)

theorem follows_readField {read : Value → Option α} {encodes : Value → α → Prop}
    (h : Follows read encodes) {default a : α} {member : Option Value}
    (hmember : EncodesField encodes default member a) :
    readField read default member = some a := by
  cases member with
  | none => exact congrArg some hmember.symm
  | some v => exact h v a hmember

theorem follows_readStruct {names : List String} {read : Members → Option α}
    {encodes : Members → α → Prop} (h : ∀ members a, encodes members a → read members = some a) :
    Follows (readStruct read) (EncodesStruct names encodes) := by
  rintro v a ⟨members, rfl, _, hencodes⟩
  exact h members a hencodes

end Json
