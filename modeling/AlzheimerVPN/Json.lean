import Mathlib.Data.Rat.Defs

/-! JSON values with the reading conventions of `QJsonValue` and `QJsonObject`:
a reader of the wrong kind returns a default, a missing key reads as
`undefined`, and inserting `undefined` removes the key. -/
namespace AlzheimerVPN

inductive Json
  | undefined | null | bool (b : Bool) | num (q : ℚ) | str (s : String)
  | arr (items : List Json) | obj (fields : List (String × Json))

abbrev JsonObject := List (String × Json)

namespace Json

def isString : Json → Bool
  | .str _ => true
  | _ => false

def isDouble : Json → Bool
  | .num _ => true
  | _ => false

def isBool : Json → Bool
  | .bool _ => true
  | _ => false

def isArray : Json → Bool
  | .arr _ => true
  | _ => false

def isObject : Json → Bool
  | .obj _ => true
  | _ => false

def isUndefined : Json → Bool
  | .undefined => true
  | _ => false

def toBool : Json → Bool
  | .bool b => b
  | _ => false

def toString : Json → String
  | .str s => s
  | _ => ""

/-- `QJsonValue::toInt`: zero unless the number is an integer of 32 bits. -/
def toInt : Json → ℤ
  | .num q => if q.den = 1 ∧ -2147483648 ≤ q.num ∧ q.num ≤ 2147483647 then q.num else 0
  | _ => 0

def toArray : Json → List Json
  | .arr items => items
  | _ => []

def toObject : Json → JsonObject
  | .obj fields => fields
  | _ => []

@[simp] lemma toString_str (s : String) : (Json.str s).toString = s := rfl
@[simp] lemma toArray_arr (items : List Json) : (Json.arr items).toArray = items := rfl
@[simp] lemma toObject_obj (fields : JsonObject) : (Json.obj fields).toObject = fields := rfl

lemma toInt_num {n : ℤ} (hlo : -2147483648 ≤ n) (hhi : n ≤ 2147483647) :
    (Json.num n).toInt = n := by
  simp [toInt,hlo,hhi]

/-- Equality of a JSON array with an array of texts. -/
def equalsTexts : List Json → List String → Bool
  | [], [] => true
  | .str s::items, t::ts => s == t && equalsTexts items ts
  | _, _ => false

end Json

namespace JsonObject

def empty : JsonObject := []

variable (o : JsonObject) (key : String)

def value : Json := (o.lookup key).getD .undefined

def contains : Bool := (o.lookup key).isSome

def insert (v : Json) : JsonObject :=
  let rest := o.filter fun f => f.1 != key
  if v.isUndefined then rest else (key,v)::rest

def remove : JsonObject := o.filter fun f => f.1 != key

lemma lookup_filter_ne (key' : String) :
    (o.filter fun f => f.1 != key).lookup key' = if key' = key then none else o.lookup key' := by
  induction o with
  | nil => simp
  | cons f o ih =>
    rcases f with ⟨k,v⟩
    by_cases hk : k = key
    · subst hk
      by_cases h : key' = k
      · subst h
        simpa using ih
      · have hb : (key' == k) = false := by simpa using h
        simpa [List.lookup_cons,hb,h] using ih
    · by_cases h : key' = k
      · subst h
        simp [hk]
      · have hb : (key' == k) = false := by simpa using h
        simpa [hk,List.lookup_cons,hb] using ih

lemma lookup_insert (key' : String) (v : Json) : (o.insert key v).lookup key' =
      if key' = key then (if v.isUndefined then none else some v) else o.lookup key' := by
  have hf := lookup_filter_ne o key key'
  by_cases hv : v.isUndefined
  · have hi : o.insert key v = o.filter fun f => f.1 != key := by simp [insert,hv]
    rw [hi,hf]
    simp [hv]
  · have hi : o.insert key v = (key,v)::o.filter fun f => f.1 != key := by simp [insert,hv]
    rw [hi]
    by_cases h : key' = key
    · simp [h,hv]
    · have hb : (key' == key) = false := by simpa using h
      simp [List.lookup_cons,hb,hf,h]

@[simp] lemma value_empty : empty.value key = .undefined := rfl
@[simp] lemma value_insert (key' : String) (v : Json) :
    (o.insert key v).value key' = if key' = key then v else o.value key' := by
  by_cases h : key' = key
  · cases v <;> simp [value,lookup_insert,h,Json.isUndefined]
  · simp [value,lookup_insert,h]

lemma remove_insert (v : Json) : (o.insert key v).remove key = o.remove key := by
  by_cases hv : v.isUndefined <;> simp [insert,remove,hv]

lemma insert_remove (v : Json) : (o.remove key).insert key v = o.insert key v := by
  simp [insert,remove]

lemma value_of_not_contains {o : JsonObject} {key : String} (h : o.contains key = false) :
    o.value key = .undefined := by
  rw [contains,Option.isSome_eq_false_iff,Option.isNone_iff_eq_none] at h
  simp [value,h]

end JsonObject
end AlzheimerVPN
