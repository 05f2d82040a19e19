/-
  Data of JavaScript whose objects may be instances of classes: what `JSON.stringify` writes of it,
  and what a serializer makes of it that knows which properties each class excludes.
-/
import Mathlib.Data.Int.Notation
import Mathlib.Data.List.Forall2

namespace Lib

/-- An object lists its properties in their order, and has a class unless it is a plain one. -/
inductive JsInstance (Class : Type)
  | null
  | bool (b : Bool)
  | number (n : ℤ)
  | string (s : String)
  | date (time : ℤ)
  | array (items : List (JsInstance Class))
  | object (cls : Option Class) (fields : List (String × JsInstance Class))

namespace JsInstance
variable {Class : Type}

section
variable (excluded : Class → String → Bool)

mutual

/-- Instances lose their class and the properties that it excludes. -/
def toPlain : JsInstance Class → JsInstance Class
  | null => null
  | bool b => bool b
  | number n => number n
  | string s => string s
  | date time => date time
  | array items => array (toPlainItems items)
  | object cls fields => object none (toPlainFields cls fields)

def toPlainItems : List (JsInstance Class) → List (JsInstance Class)
  | [] => []
  | item :: items => toPlain item :: toPlainItems items

def toPlainFields (cls : Option Class) :
    List (String × JsInstance Class) → List (String × JsInstance Class)
  | [] => []
  | (key, value) :: fields =>
    if cls.any (excluded · key) then toPlainFields cls fields
    else (key, toPlain value) :: toPlainFields cls fields

end

end

/-- The data in the text of a value: classes are not written. -/
def stringify (value : JsInstance Class) : JsInstance Class := toPlain (fun _ _ => false) value

mutual

/-- No object in it has a class. -/
def isPlain : JsInstance Class → Bool
  | null | bool _ | number _ | string _ | date _ => true
  | array items => itemsPlain items
  | object cls fields => cls.isNone && fieldsPlain fields

def itemsPlain : List (JsInstance Class) → Bool
  | [] => true
  | item :: items => isPlain item && itemsPlain items

def fieldsPlain : List (String × JsInstance Class) → Bool
  | [] => true
  | (_, value) :: fields => isPlain value && fieldsPlain fields

end

variable {excluded : Class → String → Bool}

mutual

/-- **Plain data is left as it is.** -/
theorem toPlain_of_isPlain : ∀ value : JsInstance Class, isPlain value →
    toPlain excluded value = value
  | null, _ | bool _, _ | number _, _ | string _, _ | date _, _ => by rw [toPlain]
  | array items, h => by
    rw [isPlain] at h
    rw [toPlain, toPlainItems_of_isPlain items h]
  | object cls fields, h => by
    rw [isPlain, Bool.and_eq_true, Option.isNone_iff_eq_none] at h
    obtain ⟨rfl, h⟩ := h
    rw [toPlain, toPlainFields_of_isPlain fields h]

theorem toPlainItems_of_isPlain : ∀ items : List (JsInstance Class), itemsPlain items →
    toPlainItems excluded items = items
  | [], _ => by rw [toPlainItems]
  | item :: items, h => by
    rw [itemsPlain, Bool.and_eq_true] at h
    rw [toPlainItems, toPlain_of_isPlain item h.1, toPlainItems_of_isPlain items h.2]

theorem toPlainFields_of_isPlain : ∀ fields : List (String × JsInstance Class), fieldsPlain fields →
    toPlainFields excluded none fields = fields
  | [], _ => by rw [toPlainFields]
  | (key, value) :: fields, h => by
    rw [fieldsPlain, Bool.and_eq_true] at h
    rw [toPlainFields, toPlain_of_isPlain value h.1, toPlainFields_of_isPlain fields h.2]
    rfl

end

theorem itemsPlain_iff {items : List (JsInstance Class)} :
    itemsPlain items ↔ ∀ item ∈ items, isPlain item := by
  induction items with
  | nil => simp [itemsPlain]
  | cons item items ih => simp [itemsPlain, ih]

theorem fieldsPlain_iff {fields : List (String × JsInstance Class)} :
    fieldsPlain fields ↔ ∀ field ∈ fields, isPlain field.2 := by
  induction fields with
  | nil => simp [fieldsPlain]
  | cons field fields ih => simp [fieldsPlain, ih]

/-- **Excluded properties of an instance do not matter.** -/
theorem toPlain_instance_congr {cls : Class} {fields fields' : List (String × JsInstance Class)}
    (h : List.Forall₂ (fun a b => a.1 = b.1 ∧ (excluded cls a.1 ∨ a.2 = b.2)) fields fields') :
    toPlain excluded (object (some cls) fields) = toPlain excluded (object (some cls) fields') := by
  rw [toPlain, toPlain]
  congr 1
  induction h with
  | nil => rfl
  | @cons a b fields fields' hab _ ih =>
    obtain ⟨key, value⟩ := a
    obtain ⟨key', value'⟩ := b
    obtain ⟨rfl, hvalue⟩ := hab
    rw [toPlainFields, toPlainFields, ih]
    rcases hvalue with hexcluded | rfl
    · exact (if_pos hexcluded).trans (if_pos hexcluded).symm
    · rfl

end JsInstance

end Lib
