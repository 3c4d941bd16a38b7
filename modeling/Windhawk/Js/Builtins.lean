import Mathlib.Data.Nat.Digits
import Mathlib.Data.List.Basic
import Mathlib.Data.String.Basic
import Mathlib.Tactic.IntervalCases

/-! JavaScript built-ins the TypeScript sources rely on: `split` and `join` on a
one-character separator, `parseInt` in base 10 and `Number.prototype.toString` on
integers. Strings are Lean strings; a JavaScript number is an `Int`. -/

set_option autoImplicit false

namespace Windhawk.Js

/-! ## Splitting and joining on one character -/

/-- `value.split(separator)` for a one-character separator. -/
def split (value : String) (separator : Char) : List String :=
  (value.data.splitOn separator).map String.mk

/-- `values.join(separator)` for a one-character separator. -/
def join (values : List String) (separator : Char) : String :=
  ⟨[separator].intercalate (values.map String.data)⟩

theorem split_eq_string_split (value : String) (separator : Char) :
    split value separator = value.split (· == separator) := by
  rw [String.split_of_valid]
  rfl

@[simp] theorem data_join (values : List String) (separator : Char) :
    (join values separator).data = [separator].intercalate (values.map String.data) := rfl

theorem join_split (value : String) (separator : Char) :
    join (split value separator) separator = value := by
  simp [join, split, Function.comp_def, List.intercalate_splitOn]

theorem split_join {values : List String} {separator : Char}
    (separatorFree : ∀ value ∈ values, separator ∉ value.data) (nonempty : values ≠ []) :
    split (join values separator) separator = values := by
  have pieces := List.splitOn_intercalate (values.map String.data) separator
    (by simpa using separatorFree) (by simpa using nonempty)
  simp [split, join, pieces, Function.comp_def]

private theorem splitOnP_go_free {p : Char → Bool} :
    ∀ (chars accumulated : List Char), (∀ c ∈ accumulated, p c = false) →
      ∀ piece ∈ List.splitOnP.go p chars accumulated, ∀ c ∈ piece, p c = false
  | [], accumulated, free, piece, member => by
      simp only [List.splitOnP.go, List.mem_singleton] at member
      subst member
      simpa using free
  | c :: rest, accumulated, free, piece, member => by
      simp only [List.splitOnP.go] at member
      split at member
      · rcases List.mem_cons.mp member with rfl | later
        · simpa using free
        · exact splitOnP_go_free rest [] (by simp) piece later
      · refine splitOnP_go_free rest (c :: accumulated) ?_ piece member
        simpa [*] using free

theorem not_mem_of_mem_split {value piece : String} {separator : Char}
    (member : piece ∈ split value separator) : separator ∉ piece.data := by
  obtain ⟨chars, found, rfl⟩ := List.mem_map.mp member
  intro inside
  have := splitOnP_go_free (p := (· == separator)) value.data [] (by simp) chars found separator inside
  simp at this

theorem join_eq_empty_iff (values : List String) (separator : Char) :
    join values separator = "" ↔ values = [] ∨ values = [""] := by
  rw [String.ext_iff]
  match values with
  | [] => simp [List.intercalate]
  | [value] => simp [List.intercalate, String.ext_iff]
  | first :: second :: rest => simp [List.intercalate, List.intersperse]

/-! ## `parseInt` and `Number.prototype.toString` -/

/-- `StrWhiteSpaceChar`: the white space and line terminators `parseInt` skips. -/
def isStrWhiteSpace (c : Char) : Bool :=
  c.toNat ∈ [0x9, 0xA, 0xB, 0xC, 0xD, 0x20, 0xA0, 0x1680, 0x2000, 0x2001, 0x2002, 0x2003,
    0x2004, 0x2005, 0x2006, 0x2007, 0x2008, 0x2009, 0x200A, 0x2028, 0x2029, 0x202F, 0x205F,
    0x3000, 0xFEFF]

def takeSign : List Char → Bool × List Char
  | '-' :: rest => (true, rest)
  | '+' :: rest => (false, rest)
  | rest => (false, rest)

def digitValue (digit : Char) : Nat := digit.toNat - '0'.toNat

def decimalValue (digits : List Char) : Nat :=
  digits.foldl (fun value digit => value * 10 + digitValue digit) 0

/-- `parseInt(value, 10)`; `none` is `NaN`. -/
def parseInt (value : String) : Option Int :=
  let (negative, unsigned) := takeSign (value.data.dropWhile isStrWhiteSpace)
  let digits := unsigned.takeWhile Char.isDigit
  if digits.isEmpty then none
  else if negative then some (-(decimalValue digits : Int)) else some (decimalValue digits)

/-- `value.toString()` on an integer: its decimal digits, after a minus sign when negative.
JavaScript writes integers of magnitude `10 ^ 21` or more in exponent notation; the values
written here are below `2 ^ 32`. -/
def numberToString (value : Int) : String := toString value

example : parseInt " \t-42px" = some (-42) := by decide

theorem isDigit_iff {c : Char} : c.isDigit = true ↔ 48 ≤ c.toNat ∧ c.toNat ≤ 57 := by
  simp only [Char.isDigit, Bool.and_eq_true, decide_eq_true_eq]
  exact Iff.rfl

theorem isStrWhiteSpace_of_isDigit {c : Char} (digit : c.isDigit = true) :
    isStrWhiteSpace c = false := by
  have range := isDigit_iff.mp digit
  rw [isStrWhiteSpace, decide_eq_false_iff_not]
  simp only [List.mem_cons, List.mem_singleton, List.not_mem_nil, or_false]
  omega

theorem takeSign_of_isDigit {c : Char} (digit : c.isDigit = true) (rest : List Char) :
    takeSign (c :: rest) = (false, c :: rest) := by
  have range := isDigit_iff.mp digit
  unfold takeSign
  split
  · rename_i minus; cases minus; simp at range
  · rename_i plus; cases plus; simp at range
  · rfl

private theorem digitValue_digitChar {digit : Nat} (small : digit < 10) :
    digitValue (Nat.digitChar digit) = digit := by
  interval_cases digit <;> rfl

private theorem isDigit_digitChar {digit : Nat} (small : digit < 10) :
    (Nat.digitChar digit).isDigit = true := by
  interval_cases digit <;> rfl

private theorem foldl_toDigitsCore :
    ∀ (fuel n : Nat) (rest : List Char), n < fuel →
      (Nat.toDigitsCore 10 fuel n rest).foldl (fun value digit => value * 10 + digitValue digit) 0 =
        rest.foldl (fun value digit => value * 10 + digitValue digit) n
  | 0, n, _, bound => absurd bound (Nat.not_lt_zero n)
  | fuel + 1, n, rest, bound => by
      have low := digitValue_digitChar (Nat.mod_lt n (by decide : 10 > 0))
      simp only [Nat.toDigitsCore]
      split
      · simp only [List.foldl_cons, low]
        congr 1
        omega
      · rw [foldl_toDigitsCore fuel (n / 10) _ (by omega)]
        simp only [List.foldl_cons, low]
        congr 1
        omega

private theorem isDigit_toDigitsCore :
    ∀ (fuel n : Nat) (rest : List Char), (∀ c ∈ rest, c.isDigit = true) →
      ∀ c ∈ Nat.toDigitsCore 10 fuel n rest, c.isDigit = true
  | 0, _, _, digits => digits
  | fuel + 1, n, rest, digits => by
      have low := isDigit_digitChar (Nat.mod_lt n (by decide : 10 > 0))
      have extended : ∀ c ∈ Nat.digitChar (n % 10) :: rest, c.isDigit = true := by
        intro c member
        rcases List.mem_cons.mp member with rfl | later
        · exact low
        · exact digits c later
      simp only [Nat.toDigitsCore]
      split
      · exact extended
      · exact isDigit_toDigitsCore fuel (n / 10) _ extended

private theorem toDigitsCore_ne_nil :
    ∀ (fuel n : Nat) (rest : List Char), Nat.toDigitsCore 10 (fuel + 1) n rest ≠ []
  | 0, n, rest => by simp only [Nat.toDigitsCore]; split <;> simp
  | fuel + 1, n, rest => by
      simp only [Nat.toDigitsCore] at *
      split
      · simp
      · exact toDigitsCore_ne_nil fuel (n / 10) _

theorem toDigits_spec (n : Nat) :
    ∃ first rest, Nat.toDigits 10 n = first :: rest ∧
      (∀ c ∈ first :: rest, c.isDigit = true) ∧ decimalValue (first :: rest) = n := by
  have digits := isDigit_toDigitsCore (n + 1) n [] (by simp)
  have value := foldl_toDigitsCore (n + 1) n [] (by omega)
  cases shape : Nat.toDigits 10 n with
  | nil => exact absurd shape (toDigitsCore_ne_nil n n [])
  | cons first rest =>
      refine ⟨first, rest, rfl, ?_, ?_⟩
      · rw [← shape]; exact digits
      · rw [← shape]; exact value

theorem repr_injective : Function.Injective Nat.repr := by
  intro n m same
  obtain ⟨_, _, shapeN, -, worthN⟩ := toDigits_spec n
  obtain ⟨_, _, shapeM, -, worthM⟩ := toDigits_spec m
  have digits : Nat.toDigits 10 n = Nat.toDigits 10 m := congrArg String.data same
  rw [← worthN, ← worthM, ← shapeN, ← shapeM, digits]

private theorem parseInt_of_digits {first : Char} {rest : List Char}
    (digits : ∀ c ∈ first :: rest, c.isDigit = true) :
    parseInt ⟨first :: rest⟩ = some (decimalValue (first :: rest) : Int) ∧
      parseInt ⟨'-' :: first :: rest⟩ = some (-(decimalValue (first :: rest) : Int)) := by
  have leading := digits first (List.mem_cons_self _ _)
  have taken : (first :: rest).takeWhile Char.isDigit = first :: rest :=
    List.takeWhile_eq_self_iff.mpr digits
  have dropped : (first :: rest).dropWhile isStrWhiteSpace = first :: rest := by
    simp [List.dropWhile, isStrWhiteSpace_of_isDigit leading]
  have droppedMinus : ('-' :: first :: rest).dropWhile isStrWhiteSpace = '-' :: first :: rest := by
    simp [List.dropWhile, isStrWhiteSpace]
  constructor
  · simp [parseInt, dropped, takeSign_of_isDigit leading, taken]
  · simp [parseInt, droppedMinus, takeSign, taken]

theorem parseInt_numberToString (value : Int) : parseInt (numberToString value) = some value := by
  cases value with
  | ofNat n =>
      obtain ⟨first, rest, shape, digits, worth⟩ := toDigits_spec n
      have text : numberToString (.ofNat n) = ⟨first :: rest⟩ := congrArg String.mk shape
      rw [text, (parseInt_of_digits digits).1, worth]
      rfl
  | negSucc n =>
      obtain ⟨first, rest, shape, digits, worth⟩ := toDigits_spec (n + 1)
      have text : numberToString (.negSucc n) = ⟨'-' :: first :: rest⟩ := by
        simp only [numberToString, toString, ← shape]
        rfl
      rw [text, (parseInt_of_digits digits).2, worth]
      rfl

/-! ## 32-bit conversions -/

/-- `value >>> 0`: `ToUint32`. -/
def toUint32 (value : Int) : Int := value % 2 ^ 32

/-- `value | 0`: `ToInt32`. -/
def toInt32 (value : Int) : Int :=
  if value % 2 ^ 32 < 2 ^ 31 then value % 2 ^ 32 else value % 2 ^ 32 - 2 ^ 32

theorem toInt32_toUint32 (value : Int) : toInt32 (toUint32 value) = toInt32 value := by
  simp [toInt32, toUint32, Int.emod_emod_of_dvd]

theorem toInt32_of_lt {value : Int} (low : -2 ^ 31 ≤ value) (high : value < 2 ^ 31) :
    toInt32 value = value := by
  unfold toInt32
  split <;> omega

/-! ## `string | number` -/

/-- A `string | number` value; a number is an integer or `NaN`. -/
inductive Scalar where
  | str (value : String)
  | num (value : Int)
  | nan
  deriving DecidableEq, Repr

namespace Scalar

def toString : Scalar → String
  | .str value => value
  | .num value => numberToString value
  | .nan => "NaN"

def truthy : Scalar → Bool
  | .str value => value != ""
  | .num value => value != 0
  | .nan => false

def ofParseInt : Option Int → Scalar
  | some value => .num value
  | none => .nan

@[simp] theorem ofParseInt_numberToString (value : Int) :
    ofParseInt (parseInt (numberToString value)) = .num value := by
  simp [ofParseInt, parseInt_numberToString]

end Scalar

/-! ## Plain objects -/

/-- A plain object's own enumerable properties, in the order they were defined. -/
@[ext] structure Object (α : Type) where
  entries : List (String × α)
  unique : (entries.map (·.1)).Nodup

namespace Object

variable {α : Type}

instance [DecidableEq α] : DecidableEq (Object α) := fun _ _ =>
  decidable_of_iff _ Object.ext_iff.symm

def empty : Object α := ⟨[], List.nodup_nil⟩

/-- `object[key]` for an own property; `none` is `undefined`. -/
def get (object : Object α) (key : String) : Option α := object.entries.lookup key

def keys (object : Object α) : List String := object.entries.map (·.1)

def setEntry (key : String) (value : α) : List (String × α) → List (String × α)
  | [] => [(key, value)]
  | (name, old) :: rest =>
      if name = key then (key, value) :: rest else (name, old) :: setEntry key value rest

private theorem mem_keys_setEntry (key name : String) (value : α) :
    ∀ entries : List (String × α),
      name ∈ (setEntry key value entries).map (·.1) ↔ name = key ∨ name ∈ entries.map (·.1)
  | [] => by simp [setEntry]
  | (first, old) :: rest => by
      unfold setEntry
      split
      · subst first; simp
      · simp only [List.map_cons, List.mem_cons, mem_keys_setEntry key name value rest,
          or_left_comm]

private theorem nodup_setEntry (key : String) (value : α) :
    ∀ entries : List (String × α), (entries.map (·.1)).Nodup →
      ((setEntry key value entries).map (·.1)).Nodup
  | [] => fun _ => by simp [setEntry]
  | (first, old) :: rest => fun unique => by
      rw [List.map_cons, List.nodup_cons] at unique
      unfold setEntry
      split
      · subst first; simpa using unique
      · rename_i different
        rw [List.map_cons, List.nodup_cons, mem_keys_setEntry]
        exact ⟨not_or.mpr ⟨different, unique.1⟩, nodup_setEntry key value rest unique.2⟩

/-- Defines the own property `key` (`CreateDataProperty`). -/
def set (object : Object α) (key : String) (value : α) : Object α :=
  ⟨setEntry key value object.entries, nodup_setEntry key value _ object.unique⟩

/-- `object[key] = value` for a primitive `value`: the key `__proto__` reaches the
accessor inherited from `Object.prototype`, which ignores primitives. -/
def assign (object : Object α) (key : String) (value : α) : Object α :=
  if key = "__proto__" then object else object.set key value

def spread (target source : Object α) : Object α :=
  source.entries.foldl (fun object entry => object.set entry.1 entry.2) target

def assignEntries {β : Type} (target : Object α) (source : Object β) (convert : β → α) : Object α :=
  source.entries.foldl (fun object entry => object.assign entry.1 (convert entry.2)) target

def assignEach {β : Type} (target : Object α) (items : List β) (key : β → String)
    (value : β → Option α) : Object α :=
  items.foldl
    (fun result item =>
      match value item with
      | none => result
      | some value => result.assign (key item) value)
    target

def modify (object : Object α) (key : String) (recipe : α → α) : Object α :=
  match object.get key with
  | some value => object.set key (recipe value)
  | none => object

def delete (object : Object α) (key : String) : Object α :=
  ⟨object.entries.filter (·.1 ≠ key), ((List.filter_sublist _).map _).nodup object.unique⟩

def map {β : Type} (object : Object α) (convert : α → β) : Object β :=
  ⟨object.entries.map (fun entry => (entry.1, convert entry.2)), by
    simpa [Function.comp_def] using object.unique⟩

@[simp] theorem get_empty (key : String) : (empty : Object α).get key = none := rfl

theorem lookup_cons_eq (key name : String) (value : α) (rest : List (String × α)) :
    ((key, value) :: rest).lookup name = if name = key then some value else rest.lookup name := by
  by_cases hit : name = key
  · subst hit; simp [List.lookup_cons]
  · have different : (name == key) = false := by simpa using hit
    simp [List.lookup_cons, hit, different]

theorem lookup_eq_none_of_not_mem {name : String} {entries : List (String × α)}
    (absent : name ∉ entries.map (·.1)) : entries.lookup name = none :=
  List.lookup_eq_none_iff.mpr fun entry member => by
    simpa using fun same : name = entry.1 => absent (List.mem_map.mpr ⟨entry, member, same.symm⟩)

theorem lookup_filter (keep : String → Bool) (name : String) :
    ∀ entries : List (String × α),
      (entries.filter (fun entry => keep entry.1)).lookup name =
        if keep name then entries.lookup name else none
  | [] => by simp
  | (first, value) :: rest => by
      have later := lookup_filter keep name rest
      by_cases hit : name = first
      · subst hit; by_cases kept : keep name <;> simp [kept, later, lookup_cons_eq]
      · by_cases kept : keep first <;> simp [kept, later, lookup_cons_eq, hit]

private theorem lookup_setEntry (key name : String) (value : α) :
    ∀ entries : List (String × α),
      (setEntry key value entries).lookup name =
        if name = key then some value else entries.lookup name
  | [] => by simp [setEntry, lookup_cons_eq]
  | (first, old) :: rest => by
      have later := lookup_setEntry key name value rest
      unfold setEntry
      by_cases same : first = key
      · subst same; by_cases hit : name = first <;> simp [hit, lookup_cons_eq]
      · by_cases hit : name = key
        · subst hit; simp [same, later, lookup_cons_eq, Ne.symm same]
        · simp [same, hit, later, lookup_cons_eq]

@[simp] theorem get_set (object : Object α) (key name : String) (value : α) :
    (object.set key value).get name = if name = key then some value else object.get name :=
  lookup_setEntry key name value object.entries

theorem get_assign (object : Object α) (key name : String) (value : α) :
    (object.assign key value).get name =
      if name = key ∧ key ≠ "__proto__" then some value else object.get name := by
  unfold assign
  by_cases proto : key = "__proto__" <;> simp [proto]

private theorem get_foldl_set :
    ∀ (entries : List (String × α)) (target : Object α), (entries.map (·.1)).Nodup →
      ∀ name, (entries.foldl (fun object entry => object.set entry.1 entry.2) target).get name =
        (entries.lookup name).or (target.get name)
  | [], target, _, name => by simp
  | (first, value) :: rest, target, unique, name => by
      rw [List.map_cons, List.nodup_cons] at unique
      rw [List.foldl_cons, get_foldl_set rest _ unique.2, get_set, lookup_cons_eq]
      by_cases hit : name = first
      · subst hit
        simp [lookup_eq_none_of_not_mem unique.1]
      · simp [hit]

@[simp] theorem get_spread (target source : Object α) (name : String) :
    (target.spread source).get name = (source.get name).or (target.get name) :=
  get_foldl_set source.entries target source.unique name

theorem get_foldl_assign {β : Type} (convert : β → α) :
    ∀ (entries : List (String × β)) (target : Object α), (entries.map (·.1)).Nodup →
      ∀ name, (entries.foldl (fun object entry => object.assign entry.1 (convert entry.2)) target).get name =
        if name = "__proto__" then target.get name
        else ((entries.lookup name).map convert).or (target.get name)
  | [], target, _, name => by simp
  | (first, value) :: rest, target, unique, name => by
      rw [List.map_cons, List.nodup_cons] at unique
      rw [List.foldl_cons, get_foldl_assign convert rest _ unique.2 name, get_assign, lookup_cons_eq]
      by_cases proto : name = "__proto__"
      · simp only [proto, if_true]
        exact if_neg (fun both => both.2 both.1.symm)
      by_cases hit : name = first
      · subst hit
        simp [lookup_eq_none_of_not_mem unique.1, proto]
      · simp [hit, proto]

theorem get_assignEntries {β : Type} (target : Object α) (source : Object β) (convert : β → α)
    (name : String) :
    (target.assignEntries source convert).get name =
      if name = "__proto__" then target.get name
      else ((source.get name).map convert).or (target.get name) :=
  get_foldl_assign convert source.entries target source.unique name

section AssignEach

variable {β : Type} (key : β → String) (value : β → Option α)

theorem get_assignEach_of_not_mem :
    ∀ (items : List β) (target : Object α) (name : String), name ∉ items.map key →
      (target.assignEach items key value).get name = target.get name
  | [], _, _, _ => rfl
  | first :: rest, target, name, absent => by
      rw [List.map_cons, List.mem_cons, not_or] at absent
      rw [assignEach, List.foldl_cons, ← assignEach, get_assignEach_of_not_mem rest _ name absent.2]
      cases value first <;> simp [get_assign, absent.1]

theorem get_assignEach_of_mem :
    ∀ (items : List β) (target : Object α), (items.map key).Nodup → ∀ item ∈ items,
      key item ≠ "__proto__" →
        (target.assignEach items key value).get (key item) = (value item).or (target.get (key item))
  | [], _, _, _, absurd, _ => nomatch absurd
  | first :: rest, target, unique, item, member, noProto => by
      rw [List.map_cons, List.nodup_cons] at unique
      rw [assignEach, List.foldl_cons, ← assignEach]
      rcases List.mem_cons.mp member with rfl | later
      · rw [get_assignEach_of_not_mem key value rest _ _ unique.1]
        cases value item <;> simp [get_assign, noProto]
      · have different : key item ≠ key first := fun same =>
          unique.1 (same ▸ List.mem_map_of_mem key later)
        rw [get_assignEach_of_mem rest _ unique.2 item later noProto]
        cases value first <;> simp [get_assign, different]

theorem get_assignEach (items : List β) (target : Object α) (unique : (items.map key).Nodup)
    (noProto : ∀ item ∈ items, key item ≠ "__proto__") (item : β) (member : item ∈ items) :
    (target.assignEach items key value).get (key item) = (value item).or (target.get (key item)) :=
  get_assignEach_of_mem key value items target unique item member (noProto item member)

end AssignEach

@[simp] theorem get_modify (object : Object α) (key name : String) (recipe : α → α) :
    (object.modify key recipe).get name =
      if name = key then (object.get key).map recipe else object.get name := by
  unfold modify
  cases found : object.get key with
  | none => by_cases hit : name = key <;> simp [hit, found]
  | some value => simp

@[simp] theorem get_delete (object : Object α) (key name : String) :
    (object.delete key).get name = if name = key then none else object.get name := by
  simp only [delete, get]
  rw [lookup_filter (fun name => decide (name ≠ key)) name object.entries]
  by_cases hit : name = key <;> simp [hit]

@[simp] theorem get_map {β : Type} (object : Object α) (convert : α → β) (name : String) :
    (object.map convert).get name = (object.get name).map convert := by
  simp only [map, get]
  induction object.entries with
  | nil => rfl
  | cons entry rest ih =>
      obtain ⟨first, value⟩ := entry
      by_cases hit : name = first <;> simp [hit, lookup_cons_eq, ih]

theorem mem_keys_iff (object : Object α) (name : String) :
    name ∈ object.keys ↔ (object.get name).isSome := by
  simp only [keys, get]
  induction object.entries with
  | nil => simp
  | cons entry rest ih =>
      obtain ⟨first, value⟩ := entry
      by_cases hit : name = first <;> simp [hit, lookup_cons_eq, ih]

theorem get_of_mem_entries {object : Object α} {key : String} {value : α}
    (member : (key, value) ∈ object.entries) : object.get key = some value := by
  obtain ⟨entries, unique⟩ := object
  simp only [get]
  induction entries with
  | nil => cases member
  | cons entry rest ih =>
      obtain ⟨first, old⟩ := entry
      rw [List.map_cons, List.nodup_cons] at unique
      rw [lookup_cons_eq]
      rcases List.mem_cons.mp member with same | later
      · cases same; simp
      · have different : key ≠ first := fun same =>
          unique.1 (same ▸ List.mem_map_of_mem (·.1) later)
        simp only [different, if_false]
        exact ih unique.2 later

end Object

/-! ## Sets -/

/-- A `Set`: its values in insertion order, each once. -/
@[ext] structure Set (α : Type) where
  values : List α
  unique : values.Nodup

namespace Set

variable {α : Type}

def empty : Set α := ⟨[], List.nodup_nil⟩

@[simp] theorem not_mem_empty (value : α) : value ∉ (empty : Set α).values := List.not_mem_nil _

variable [DecidableEq α]

instance : DecidableEq (Set α) := fun _ _ => decidable_of_iff _ Set.ext_iff.symm

def has (set : Set α) (value : α) : Bool := decide (value ∈ set.values)

def add (set : Set α) (value : α) : Set α :=
  if present : value ∈ set.values then set
  else ⟨set.values ++ [value], set.unique.append (List.nodup_singleton value)
    (List.disjoint_singleton.mpr present)⟩

def delete (set : Set α) (value : α) : Set α :=
  ⟨set.values.filter (· ≠ value), (List.filter_sublist _).nodup set.unique⟩

@[simp] theorem has_eq (set : Set α) (value : α) :
    set.has value = decide (value ∈ set.values) := rfl

@[simp] theorem mem_add (set : Set α) (value name : α) :
    name ∈ (set.add value).values ↔ name = value ∨ name ∈ set.values := by
  unfold add
  split
  · case isTrue present => exact ⟨.inr, fun | .inl rfl => present | .inr member => member⟩
  · case isFalse _ => simp [or_comm]

@[simp] theorem mem_delete (set : Set α) (value name : α) :
    name ∈ (set.delete value).values ↔ name ≠ value ∧ name ∈ set.values := by
  simp [delete, and_comm]

end Set

end Windhawk.Js
