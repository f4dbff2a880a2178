import SchemaStructs.Text.Basic
import SchemaStructs.Number.Shortest

/-!
# JSON values

The values of a decoded document.  The members of an object keep the order in which their keys
first appear, and integers are kept apart from floating-point numbers: both show in messages.

Two values are *alike* (`Json.alike`) when a comparison does not tell them apart: a truth value
counts as `0` or `1`, an integral number equals the integer, and the order of an object's members
does not matter.  Alikeness is the equality of a canonical spelling (`Json.spelling`).
-/

namespace SchemaStructs

/-- A JSON value. -/
inductive Json where
  /-- The value `null`. -/
  | null
  /-- A truth value. -/
  | bool (b : Bool)
  /-- An integer, of any size. -/
  | int (n : Int)
  /-- A floating-point number. -/
  | float (x : Binary)
  /-- A text. -/
  | str (t : Text)
  /-- A list. -/
  | arr (items : List Json)
  /-- An object, as its members in order. -/
  | obj (members : List (Text × Json))
  deriving Inhabited

namespace Json

instance : Coe Text Json := ⟨Json.str⟩

/-- The word for the kind of a value. -/
def kind : Json → Text
  | null => "NoneType"
  | bool _ => "bool"
  | int _ => "int"
  | float _ => "float"
  | str _ => "str"
  | arr _ => "list"
  | obj _ => "dict"

/-- The value counts as true: it is neither null, false, zero nor empty. -/
def truthy : Json → Bool
  | null => false
  | bool b => b
  | int n => n != 0
  | float x => !x.isZero
  | str t => !t.isEmpty
  | arr items => !items.isEmpty
  | obj members => !members.isEmpty

/-- The value is a text. -/
def isText : Json → Bool
  | str _ => true
  | _ => false

/-- The text that the value is, if it is one. -/
def text? : Json → Option Text
  | str t => some t
  | _ => none

/-- The value is a list or an object, which cannot be looked up in a set. -/
def isContainer : Json → Bool
  | arr _ | obj _ => true
  | _ => false

/-! ### Members of an object -/

/-- A member of an object. -/
def entry (key : Text) (value : Json) : Text × Json := (key, value)

/-- The value of a key. -/
def lookup {α : Type} (members : List (Text × α)) (key : Text) : Option α :=
  match members with
  | [] => none
  | (k, v) :: rest => if k = key then some v else lookup rest key

/-- The member of an object with the given key; no other value has members. -/
def get? (j : Json) (key : Text) : Option Json :=
  match j with
  | obj members => lookup members key
  | _ => none

/-- The members after a key is set: a known key keeps its place, a new one comes last. -/
def insert {α : Type} (members : List (Text × α)) (key : Text) (value : α) : List (Text × α) :=
  match members with
  | [] => [(key, value)]
  | (k, v) :: rest => if k = key then (key, value) :: rest else (k, v) :: insert rest key value

/-- A new key comes last. -/
theorem insert_of_not_mem {α : Type} {members : List (Text × α)} {key : Text} (value : α)
    (h : key ∉ members.map (·.1)) : insert members key value = members ++ [(key, value)] := by
  induction members with
  | nil => rfl
  | cons m members ih =>
    rw [List.map_cons, List.mem_cons, not_or] at h
    rw [insert, if_neg (Ne.symm h.1), ih h.2, List.cons_append]

/-- The first members updated with the second. -/
def update (members others : List (Text × Json)) : List (Text × Json) :=
  others.foldl (fun ms (k, v) => insert ms k v) members

/-! ### Alikeness -/

/-- A spelling with its length in front, so that the end of a part is never in doubt. -/
def framed (mark : Char) (t : Text) : Text := mark :: (Text.ofNat t.length ++ ':' :: t)

/-- Inserts a spelled member before the first greater one. -/
def insertSorted (m : Text) : List Text → List Text
  | [] => [m]
  | x :: rest => if m < x then m :: x :: rest else x :: insertSorted m rest

mutual

/-- The canonical spelling of a value: values that compare equal are spelled alike. -/
def spelling : Json → Text
  | null => ['z']
  | bool b => framed 'n' (Text.ofNat b.toNat)
  | int n => framed 'n' (Text.ofInt n)
  | float x =>
    match x.toInt? with
    | some n => framed 'n' (Text.ofInt n)
    | none => framed 'f' x.render
  | str t => framed 's' t
  | arr items => framed 'l' (spellings items)
  | obj members => framed 'o' (memberSpellings members).flatten

/-- The spellings of the items of a list, one after another. -/
def spellings : List Json → Text
  | [] => []
  | item :: rest => spelling item ++ spellings rest

/-- The spellings of the members of an object in sorted order. -/
def memberSpellings : List (Text × Json) → List Text
  | [] => []
  | (key, value) :: rest =>
    insertSorted (framed 'k' key ++ spelling value) (memberSpellings rest)

end

/-- Two values that a comparison does not tell apart. -/
def alike (a b : Json) : Bool := a.spelling == b.spelling

end Json

end SchemaStructs
