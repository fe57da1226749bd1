import UnitForge.Text.Basic

set_option autoImplicit false

/-!
# Values by key

Values under texts as keys, in the order in which the keys were first put in.

## Main definitions

* `UnitForge.Keyed`: a list of keys with their values, in which no key occurs twice.
* `UnitForge.Keyed.get?`, `UnitForge.Keyed.put`: looks a key up, and puts a value under one.
-/

namespace UnitForge

/-- Values by key in order of first insertion; no key occurs twice. -/
abbrev Keyed (α : Type) := List (Text × α)

namespace Keyed

variable {α : Type}

/-- The value under a key. -/
def get? (entries : Keyed α) (key : Text) : Option α :=
  (entries.find? (·.1 == key)).map (·.2)

/-- Whether there is a value under a key. -/
def has (entries : Keyed α) (key : Text) : Bool := entries.any (·.1 == key)

/-- Puts a value under a key: in the place of the value that was there, or at the end. -/
def put (key : Text) (value : α) : Keyed α → Keyed α
  | [] => [(key, value)]
  | (k, v) :: rest => if k = key then (key, value) :: rest else (k, v) :: put key value rest

/-- The keys in order of first insertion. -/
def keys (entries : Keyed α) : List Text := entries.map (·.1)

@[simp] theorem get?_nil (key : Text) : get? ([] : Keyed α) key = none := rfl

theorem get?_put (entries : Keyed α) (key other : Text) (value : α) :
    get? (put key value entries) other =
      if other = key then some value else get? entries other := by
  induction entries with
  | nil =>
    by_cases h : other = key
    · simp [put, get?, h]
    · have h' : ¬ key = other := fun e => h e.symm
      simp [put, get?, h, h']
  | cons entry rest ih =>
    obtain ⟨k, v⟩ := entry
    simp only [get?] at ih
    by_cases hk : k = key
    · subst hk
      by_cases h : other = k
      · simp [put, get?, h]
      · have h' : ¬ k = other := fun e => h e.symm
        simp [put, get?, h, h']
    · by_cases h : k = other
      · subst h
        simp [put, get?, hk]
      · simp [put, get?, hk, h, ih]

end Keyed

end UnitForge
