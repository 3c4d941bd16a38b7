import Windhawk.Js.Builtins

/-! `splitPipeDelimited`, of which `modConfigUtils.ts` and `appSettingsUtils.ts` each keep a
copy: it reads back the string arrays both files store joined by `'|'`. -/

set_option autoImplicit false

namespace Windhawk

open Js

/-- `!value ? [] : value.split(separator)`, the body of both copies. -/
def splitDelimited (value : String) (separator : Char) : List String :=
  if value = "" then [] else split value separator

namespace ModConfigUtils

def splitPipeDelimited (value : String) : List String := splitDelimited value '|'

end ModConfigUtils

namespace AppSettingsUtils

def splitPipeDelimited (value : String) : List String := splitDelimited value '|'

end AppSettingsUtils

def PipeSafe (values : List String) : Prop :=
  (∀ value ∈ values, '|' ∉ value.data) ∧ values ≠ [""]

instance (values : List String) : Decidable (PipeSafe values) :=
  inferInstanceAs (Decidable (_ ∧ _))

theorem splitDelimited_join_iff (values : List String) :
    splitDelimited (join values '|') '|' = values ↔ PipeSafe values := by
  by_cases empty : join values '|' = ""
  · rcases (join_eq_empty_iff values '|').mp empty with rfl | rfl <;> decide
  · unfold splitDelimited PipeSafe
    simp only [empty, if_false]
    have notSingletonEmpty : values ≠ [""] := fun same => empty (by subst same; rfl)
    constructor
    · intro roundTrip
      refine ⟨fun value member => ?_, notSingletonEmpty⟩
      rw [← roundTrip] at member
      exact not_mem_of_mem_split member
    · intro ⟨separatorFree, _⟩
      exact split_join separatorFree (fun nil => empty (by subst nil; rfl))

theorem join_splitDelimited (value : String) (separator : Char) :
    join (splitDelimited value separator) separator = value := by
  unfold splitDelimited
  split
  · rename_i empty; subst empty; rfl
  · exact join_split value separator

example : ModConfigUtils.splitPipeDelimited "a.exe|b.exe" = ["a.exe", "b.exe"] := by decide

/-- Both copies characterise the arrays they read back, and undo `join('|')`. -/
theorem splitPipeDelimited_roundTrip :
    ((∀ values, ModConfigUtils.splitPipeDelimited (join values '|') = values ↔ PipeSafe values) ∧
      ∀ value, join (ModConfigUtils.splitPipeDelimited value) '|' = value) ∧
    ((∀ values, AppSettingsUtils.splitPipeDelimited (join values '|') = values ↔ PipeSafe values) ∧
      ∀ value, join (AppSettingsUtils.splitPipeDelimited value) '|' = value) :=
  ⟨⟨splitDelimited_join_iff, fun value => join_splitDelimited value '|'⟩,
    ⟨splitDelimited_join_iff, fun value => join_splitDelimited value '|'⟩⟩

end Windhawk
