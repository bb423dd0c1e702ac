import Mathlib.Data.List.Basic

/-!
# Entries by key

A cache, an index of paths and a disk are each a list of entries with a key.  An entry
is put in place of the one with its key, and the entries with other keys are found
where they were found before.
-/

namespace Marginalia

set_option autoImplicit false

variable {Key Value : Type} [DecidableEq Key]

theorem find?_others (entries : List (Key × Value)) {key key' : Key} (apart : key ≠ key') :
    (entries.filter fun e => e.1 ≠ key).find? (fun e => e.1 = key')
      = entries.find? fun e => e.1 = key' := by
  rw [List.find?_filter]
  congr 1
  funext e
  by_cases found : e.1 = key'
  · simp [found, Ne.symm apart]
  · simp [found]

/-- **An entry that is put at the end in place of the one with its key is found**, and those with
other keys stay. -/
theorem find?_replaced (entries : List (Key × Value)) (key key' : Key) (value : Value) :
    ((entries.filter fun e => e.1 ≠ key) ++ [(key, value)]).find? (fun e => e.1 = key')
      = if key = key' then some (key, value) else entries.find? fun e => e.1 = key' := by
  by_cases same : key = key'
  · have cleared : (entries.filter fun e => e.1 ≠ key).find? (fun e => e.1 = key') = none := by
      simp [same]
    rw [if_pos same, List.find?_append, cleared, Option.none_or]
    simp [same]
  · rw [if_neg same, List.find?_append, find?_others entries same,
      List.find?_cons_of_neg (by simpa using same), List.find?_nil, Option.or_none]

end Marginalia
