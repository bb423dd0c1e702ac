import Marginalia.Disk
import Marginalia.Proofs.Path.Names

/-!
# Walking to a directory and on

A walk that ends at a directory can be continued: walking along more elements goes on
from there (`walk_append`).  For a clean path, the elements that are walked along are
those of the path, so a name that is joined to it leads from the directory of the path
to the entry with this name (`find_join`).  Without cleaning this fails: what a path
means after a link and a step up is not what its elements say.
-/

namespace Marginalia.Disk

set_option autoImplicit false

open Marginalia.Path (IsName CleanStack cleanElements)

variable {d : Disk} {place here : Place} {todo es : List Bytes} {budget : Nat} {path name : Bytes}
  {follow rooted : Bool}

/-! ## Steps -/

section Step

variable {e : Bytes} (more : List Bytes)

theorem walk_skip (skipped : e = [] ∨ e = Path.here) :
    d.walk follow budget (e :: more) here = d.walk follow budget more here := by
  rw [walk, if_pos skipped]

theorem walk_up : d.walk follow budget (Path.up :: more) here = d.walk follow budget more here.dropLast := by
  rw [walk, if_neg (by decide), if_pos rfl]

variable (other : ¬ (e = [] ∨ e = Path.here)) (down : e ≠ Path.up) (short : ¬ 255 < e.length)

include other down short

theorem walk_dir (there : d.at? (here ++ [e]) = some .dir) :
    d.walk follow budget (e :: more) here = d.walk follow budget more (here ++ [e]) := by
  rw [walk, if_neg other, if_neg down, if_neg short, there]

theorem walk_link {target : Bytes} (there : d.at? (here ++ [e]) = some (.link target)) :
    d.walk true (budget + 1) (e :: more) here
      = d.walk true budget (Path.elements target ++ more)
          (if Path.isAbsolute target then [] else here) := by
  rw [walk, if_neg other, if_neg down, if_neg short, there]
  simp only [Bool.not_true, Bool.and_false, Bool.false_eq_true, if_false]

end Step

/-- What a walk ends at is what stands there. -/
theorem at?_of_walk {found : Place × Entry} (reached : d.walk follow budget todo here = .ok found) :
    d.at? found.1 = some found.2 := by
  fun_induction d.walk follow budget todo here with
  | case1 _ _ _ there | case8 _ _ _ _ _ _ _ _ there | case10 _ _ _ _ _ _ _ _ there =>
    cases reached
    exact there
  | case2 | case5 | case6 | case9 | case11 => cases reached
  | case3 _ _ _ _ _ ih => exact ih reached
  | case4 _ _ _ _ ih => exact ih reached
  | case7 _ _ _ _ _ _ _ _ ih => exact ih reached
  | case12 _ _ _ _ _ _ _ _ _ _ ih => exact ih reached

/-- **A walk goes on where it has come to.**  Some of the links that may be followed are used up. -/
theorem walk_append (reached : d.walk true budget todo here = .ok (place, .dir)) :
    ∃ left, ∀ more, d.walk true budget (todo ++ more) here = d.walk true left more place := by
  fun_induction d.walk true budget todo here with
  | case1 =>
    cases reached
    exact ⟨_, fun _ => rfl⟩
  | case2 | case5 | case6 | case8 | case9 | case10 | case11 => cases reached
  | case3 budget e todo here skipped ih =>
    obtain ⟨left, same⟩ := ih reached
    exact ⟨left, fun more => (walk_skip _ skipped).trans (same more)⟩
  | case4 budget todo here _ ih =>
    obtain ⟨left, same⟩ := ih reached
    exact ⟨left, fun more => (walk_up _).trans (same more)⟩
  | case7 budget e todo here other down short there ih =>
    obtain ⟨left, same⟩ := ih reached
    exact ⟨left, fun more => (walk_dir _ other down short there).trans (same more)⟩
  | case12 e todo here other down short target there _ budget ih =>
    obtain ⟨left, same⟩ := ih reached
    refine ⟨left, fun more => ?_⟩
    rw [List.cons_append, walk_link _ other down short there, ← List.append_assoc]
    exact same more

/-- A directory at the end of a walk is found whether or not a link there is followed. -/
theorem walk_follow (reached : d.walk false budget todo here = .ok (place, .dir)) :
    d.walk true budget todo here = .ok (place, .dir) := by
  fun_induction d.walk false budget todo here with
  | case1 _ _ _ there =>
    cases reached
    rw [walk, there]
  | case2 | case5 | case6 | case8 | case9 | case10 | case11 => cases reached
  | case3 _ _ _ _ skipped ih => exact (walk_skip _ skipped).trans (ih reached)
  | case4 _ _ _ _ ih => exact (walk_up _).trans (ih reached)
  | case7 _ _ _ _ other down short there ih =>
    exact (walk_dir _ other down short there).trans (ih reached)
  | case12 _ _ _ other down short _ there _ _ ih =>
    exact (walk_link _ other down short there).trans (ih reached)

theorem find_follow (found : d.find false path = .ok (place, .dir)) :
    d.find true path = .ok (place, .dir) := by
  rw [find] at found ⊢
  split at found
  next started => exact walk_follow found
  next => cases found

/-! ## Clean paths -/

/-- To walk along a clean path is to walk along its elements. -/
theorem walk_ofElements (clean : CleanStack rooted es.reverse) :
    d.walk follow budget (Path.elements (Path.ofElements rooted es)) here
      = d.walk follow budget es here := by
  have apart : d.walk follow budget (Path.elements (Bytes.join [Bytes.slash] es)) here
      = d.walk follow budget es here := by
    by_cases none : es = []
    · rw [none]
      exact walk_skip [] (.inl rfl)
    · rw [Path.elements, Bytes.splitAtByte_join none fun e member =>
        (clean.nonempty_noSlash (List.mem_reverse.2 member)).2]
  cases rooted with
  | true =>
    rw [Path.ofElements, if_pos rfl, Path.elements, Bytes.splitAtByte_cons_sep, walk_skip _ (.inl rfl)]
    exact apart
  | false =>
    rw [Path.ofElements, if_neg Bool.false_ne_true]
    split
    next none =>
      rw [List.isEmpty_iff.1 none]
      exact walk_skip [] (.inr rfl)
    next => exact apart

/-- The place where the walk along a path starts. -/
def base (d : Disk) (path : Bytes) : Place := if Path.isAbsolute path then [] else cleanElements d.cwd

theorem walk_of_find {found : Place × Entry} (ok : d.find follow path = .ok found) :
    d.walk follow linkBudget (Path.elements path) (d.base path) = .ok found := by
  rw [find, start] at ok
  split at ok
  next todo here started =>
    split at started
    · cases started
    · split at started
      · cases started
      · split at started
        · cases started
        · cases started
          exact ok
  next => cases ok

theorem at?_of_find {found : Place × Entry} (ok : d.find follow path = .ok found) :
    d.at? found.1 = some found.2 :=
  at?_of_walk (walk_of_find ok)

theorem walk_clean (path : Bytes) :
    d.walk follow budget (Path.elements (Path.clean path)) here
      = d.walk follow budget (cleanElements path) here :=
  walk_ofElements (Path.cleanStack_cleanElements path)

/-- **A name below a directory leads to its entry** if the path of the directory is clean, the entry is
a directory and something is found there at all. -/
theorem find_join {q : Place} (cleaned : Path.clean path = path) (isName : IsName name)
    (found : d.find true path = .ok (place, .dir)) (there : d.at? (place ++ [name]) = some .dir)
    (below : d.find true (Path.join [path, name]) = .ok (q, .dir)) : q = place ++ [name] := by
  have nonempty : path ≠ [] := cleaned ▸ Path.clean_ne_nil path
  have along := walk_of_find found
  have along' := walk_of_find below
  have sameBase : d.base (Path.join [path, name]) = d.base path := by
    rw [base, Path.isAbsolute_join nonempty isName, base]
  rw [← cleaned, walk_clean, cleaned] at along
  rw [← Path.clean_join_name nonempty isName, walk_clean, Path.cleanElements_join_name nonempty isName,
    Path.clean_join_name nonempty isName, sameBase] at along'
  obtain ⟨left, same⟩ := walk_append along
  rw [same [name]] at along'
  have other : ¬ (name = [] ∨ name = Path.here) := not_or.2 ⟨isName.nonempty, isName.ne_here⟩
  by_cases long : 255 < name.length
  · rw [walk, if_neg other, if_neg isName.ne_up, if_pos long] at along'
    cases along'
  · rw [walk_dir _ other isName.ne_up long there, walk, there] at along'
    exact (Prod.mk.inj (Except.ok.inj along')).1.symm

end Marginalia.Disk
