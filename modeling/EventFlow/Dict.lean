/-!
# Finite maps from names

A `Dict` is a list of named values. Every operation that this library uses to
build one keeps the names in ascending order, so that two dictionaries with the
same entries are the same list. The lookup laws hold for every list, ordered or
not.
-/

namespace EventFlow

/-- Values by name, in ascending order of the names. -/
abbrev Dict (α : Type) := List (String × α)

namespace Dict

/-- The value of the first entry of that name. -/
def get? {α : Type} : Dict α → String → Option α
  | [], _ => none
  | (name, value) :: rest, key => if name = key then some value else get? rest key

/-- Whether there is an entry of that name. -/
def contains {α : Type} (entries : Dict α) (key : String) : Bool :=
  (get? entries key).isSome

/-- Give the name that value, in place of any earlier one. A new entry goes
before the first larger name. -/
def insert {α : Type} : Dict α → String → α → Dict α
  | [], key, value => [(key, value)]
  | (name, old) :: rest, key, value =>
    if name = key then (key, value) :: rest
    else if key < name then (key, value) :: (name, old) :: rest
    else (name, old) :: insert rest key value

/-- Drop every entry of that name. -/
def erase {α : Type} (entries : Dict α) (key : String) : Dict α :=
  entries.filter fun entry => entry.1 ≠ key

/-- The names, in the order of the entries. -/
def keys {α : Type} (entries : Dict α) : List String :=
  entries.map Prod.fst

/-- The dictionary of a list of entries; of two entries of one name the later
one counts. -/
def ofList {α : Type} (entries : List (String × α)) : Dict α :=
  entries.foldl (fun dict entry => insert dict entry.1 entry.2) []

/-- Lay `upper` over `lower`: its entries win. -/
def overlay {α : Type} (lower upper : Dict α) : Dict α :=
  upper.foldl (fun dict entry => insert dict entry.1 entry.2) lower

section Laws

variable {α : Type}

@[simp] theorem get?_nil (key : String) : get? ([] : Dict α) key = none := rfl

@[simp] theorem get?_cons (name : String) (value : α) (rest : Dict α) (key : String) :
    get? ((name, value) :: rest) key = if name = key then some value else get? rest key := rfl

/-- What was just given to a name is found there. -/
@[simp] theorem get?_insert_self (entries : Dict α) (key : String) (value : α) :
    get? (insert entries key value) key = some value := by
  induction entries with
  | nil => simp [insert]
  | cons entry rest ih =>
    obtain ⟨name, old⟩ := entry
    simp only [insert]
    split
    · simp
    · split
      · simp
      · rename_i hne _
        simp [hne, ih]

/-- Every other name keeps its value. -/
theorem get?_insert_of_ne (entries : Dict α) {key other : String} (value : α)
    (h : key ≠ other) : get? (insert entries key value) other = get? entries other := by
  induction entries with
  | nil => simp [insert, h]
  | cons entry rest ih =>
    obtain ⟨name, old⟩ := entry
    simp only [insert]
    split
    · rename_i heq
      subst heq
      simp [h]
    · split
      · simp [h]
      · simp [ih]

/-- Lookup after an insertion, both cases at once. -/
theorem get?_insert (entries : Dict α) (key other : String) (value : α) :
    get? (insert entries key value) other =
      if key = other then some value else get? entries other := by
  by_cases h : key = other
  · subst h; simp
  · simp [get?_insert_of_ne _ _ h, h]

/-- An erased name is absent and every other one keeps its value. -/
theorem get?_erase (entries : Dict α) (key other : String) :
    get? (erase entries key) other = if key = other then none else get? entries other := by
  induction entries with
  | nil => simp [erase]
  | cons entry rest ih =>
    obtain ⟨name, value⟩ := entry
    simp only [erase] at ih
    by_cases hname : name = key
    · subst hname
      simp only [erase, ne_eq, not_true_eq_false, decide_false, Bool.false_eq_true,
        not_false_eq_true, List.filter_cons_of_neg, ih, get?_cons]
      split <;> rfl
    · simp only [erase, ne_eq, hname, not_false_eq_true, decide_true, List.filter_cons_of_pos,
        get?_cons, ih]
      by_cases hother : name = other
      · subst hother
        have : ¬ key = name := fun h => hname h.symm
        simp [this]
      · simp [hother]

end Laws

end Dict

end EventFlow
