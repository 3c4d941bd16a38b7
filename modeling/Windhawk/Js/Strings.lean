import Windhawk.Js.Builtins
import Mathlib.Data.List.Sort

/-! The string methods the mods browsers use, and `Array.prototype.sort`. A string is a
list of code points; letters are lower-cased in the ASCII range. -/

set_option autoImplicit false

namespace Windhawk.Js

/-! ## Strings -/

/-- `value.toLowerCase()` on ASCII letters; JavaScript also lower-cases the letters outside
ASCII, which this keeps. -/
def toLowerCase (value : String) : String := ⟨value.data.map Char.toLower⟩

@[simp] theorem toLowerCase_eq_empty_iff (value : String) :
    toLowerCase value = "" ↔ value = "" := by
  obtain ⟨chars⟩ := value
  simp [toLowerCase, String.ext_iff]

def includes (value searchString : String) : Bool := decide (searchString.data <:+: value.data)

def startsWith (value searchString : String) : Bool := searchString.data.isPrefixOf value.data

def lastIndexOf (value : String) (searchString : Char) : Int :=
  if searchString ∈ value.data then
    value.data.length - 1 - value.data.reverse.indexOf searchString
  else -1

def substring (value : String) (start : Int) : String := ⟨value.data.drop start.toNat⟩

def trim (value : String) : String :=
  ⟨((value.data.dropWhile isStrWhiteSpace).reverse.dropWhile isStrWhiteSpace).reverse⟩

/-- `value.split(/\s+/)`, up to empty pieces between adjacent white space, which every
caller filters out. -/
def splitWhiteSpace (value : String) : List String :=
  (value.data.splitOnP isStrWhiteSpace).map String.mk

/-- `a < b` on strings, by code points. JavaScript compares UTF-16 code units, which orders
the characters outside the Basic Multilingual Plane differently. -/
def lessThan (a b : String) : Bool := decide (a.data < b.data)

/-- `a.localeCompare(b)`, by code points in place of the default locale's collation. -/
def localeCompare (a b : String) : Int :=
  if lessThan a b then -1 else if lessThan b a then 1 else 0

theorem startsWith_append (searchString rest : String) :
    startsWith (searchString ++ rest) searchString = true := by
  simp [startsWith, List.isPrefixOf_iff_prefix]

theorem substring_append (searchString rest : String) :
    substring (searchString ++ rest) searchString.length = rest := by
  show String.mk ((searchString.data ++ rest.data).drop (searchString.data.length : Int).toNat) =
    rest
  rw [Int.toNat_ofNat, List.drop_left]

/-! ## Arrays -/

/-- `items.sort(compareFn)`: a stable sort that puts `a` before `b` when `compareFn(a, b)`
is not positive, which is what `Array.prototype.sort` gives for a comparator that is a
consistent order. -/
def sort {α : Type} (items : List α) (compareFn : α → α → Int) : List α :=
  items.insertionSort (fun a b => compareFn a b ≤ 0)

theorem sort_perm {α : Type} (items : List α) (compareFn : α → α → Int) :
    (sort items compareFn).Perm items :=
  List.perm_insertionSort _ items

section KeyFirst

/-! A comparator whose first criterion is a flag, the items that have it first: the sort
puts every item that has the flag before every item that does not. -/

variable {α : Type} (compareFn : α → α → Int) (key : α → Bool)
  (keyFirst : ∀ a b, key a ≠ key b → (compareFn a b ≤ 0 ↔ key a = true))
include keyFirst

theorem pairwise_orderedInsert_key (a : α) :
    ∀ items : List α, items.Pairwise (fun x y => key y = true → key x = true) →
      (items.orderedInsert (fun x y => compareFn x y ≤ 0) a).Pairwise
        (fun x y => key y = true → key x = true)
  | [], _ => List.pairwise_singleton _ _
  | b :: rest, sorted => by
      rw [List.pairwise_cons] at sorted
      simp only [List.orderedInsert]
      split
      · case isTrue before =>
          have ahead : key b = true → key a = true := fun keyB => by
            by_contra keyA
            exact keyA ((keyFirst a b (by simp [keyB, keyA])).mp before)
          refine .cons (fun x member keyX => ?_) (.cons sorted.1 sorted.2)
          rcases List.mem_cons.mp member with rfl | later
          · exact ahead keyX
          · exact ahead (sorted.1 x later keyX)
      · case isFalse after =>
          refine .cons (fun x member keyX => ?_) (pairwise_orderedInsert_key a rest sorted.2)
          rcases (List.mem_orderedInsert _).mp member with rfl | later
          · by_contra keyB
            exact after ((keyFirst x b (by simp [keyB, keyX])).mpr keyX)
          · exact sorted.1 x later keyX

theorem sort_pairwise_key (items : List α) :
    (sort items compareFn).Pairwise (fun x y => key y = true → key x = true) := by
  induction items with
  | nil => exact .nil
  | cons a rest ih => exact pairwise_orderedInsert_key compareFn key keyFirst a _ ih

end KeyFirst

end Windhawk.Js
