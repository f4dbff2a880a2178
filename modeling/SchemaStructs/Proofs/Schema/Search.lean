import Mathlib.Logic.Function.Iterate
import SchemaStructs.Proofs.Schema.Preorder

/-!
# Searching depth first

The recursive search visits an element, searches its children, and only then goes on with the
elements beside it (`Graph.Searches`).  A loop keeps what is left to do on a stack instead
(`Graph.pass`), where one element can lie many times and where others lie that were visited since.
On every graph, with whatever cycles, the two visit the same elements in the same order, which is
the preorder.

* `Graph.iterate_pass`: the loop comes to its end, after one pass for each number that was ever on
  the stack;
* `Graph.nodup_preorder`: no element is visited twice;
* `Graph.searches_iff`: the recursive search comes to its end with the preorder, and with nothing
  else;
* `Graph.depthFirst_preorder`: all three of the preorder of some roots (`Graph.DepthFirst`).
-/

namespace SchemaStructs

namespace Graph

/-- The recursive search: elements are searched one after another, those below an element before
the next one.  `visited` holds what was visited before, in order, and `after` what was visited in
the end. -/
inductive Searches (g : Graph) (keep : ElementId → Bool) :
    (visited is after : List ElementId) → Prop
  | nil {visited : List ElementId} : Searches g keep visited [] visited
  /-- An element that was visited or is not admitted is passed over. -/
  | pass {visited rest after : List ElementId} {i : ElementId}
      (hi : i ∈ visited ∨ keep i = false) (hrest : Searches g keep visited rest after) :
      Searches g keep visited (i :: rest) after
  /-- Any other element is visited, and its children are searched. -/
  | visit {visited below rest after : List ElementId} {i : ElementId} (hi : i ∉ visited)
      (hkeep : keep i = true) (hbelow : Searches g keep (visited ++ [i]) (g.children i) below)
      (hrest : Searches g keep below rest after) : Searches g keep visited (i :: rest) after

/-- One pass of the loop: the top of the stack is taken off, and unless it is passed over it is
visited and its children are put on the stack, the first one on top.  Without a stack the loop has
come to its end. -/
def pass (g : Graph) (keep : ElementId → Bool) :
    List ElementId × List ElementId → List ElementId × List ElementId
  | (visited, []) => (visited, [])
  | (visited, i :: rest) =>
    if i ∈ visited ∨ keep i = false then (visited, rest)
    else (visited ++ [i], g.children i ++ rest)

/-- What is visited depth first from the roots, in order. -/
structure DepthFirst (g : Graph) (keep : ElementId → Bool) (roots visited : List ElementId) :
    Prop where
  /-- The loop comes to its end with it. -/
  loop : ∃ n, (g.pass keep)^[n] ([], roots) = (visited, [])
  /-- So does the recursive search, and with nothing else. -/
  search : ∀ after, g.Searches keep [] roots after ↔ after = visited
  /-- Nothing is visited twice. -/
  nodup : visited.Nodup

variable {g : Graph} {keep : ElementId → Bool}
variable {visited after after' is js seen stack roots : List ElementId} {i : ElementId}

/-! ### The loop -/

theorem pass_of_skip (hi : i ∈ visited ∨ keep i = false) :
    g.pass keep (visited, i :: stack) = (visited, stack) := if_pos hi

theorem pass_of_visit (hi : i ∉ visited) (hkeep : keep i = true) :
    g.pass keep (visited, i :: stack) = (visited ++ [i], g.children i ++ stack) :=
  if_neg (by simp [hi, hkeep])

/-- **The loop comes to its end** after one pass for each number that was on the stack first or was
put there with the children of an element that was visited. -/
theorem iterate_pass (g : Graph) (keep : ElementId → Bool) (seen stack : List ElementId) :
    (g.pass keep)^[stack.length + ((g.preorderFrom keep seen stack).flatMap g.children).length]
      (seen.reverse, stack) = (seen.reverse ++ g.preorderFrom keep seen stack, []) := by
  fun_induction preorderFrom g keep seen stack with
  | case1 seen => simp
  | case2 seen i rest hseen ih =>
    rw [List.length_cons, Nat.succ_add, Function.iterate_succ_apply,
      pass_of_skip (.inl (List.mem_reverse.2 hseen)), ih]
  | case3 seen i rest hseen hkeep ih =>
    -- this pass takes one number off the stack and puts the children there
    have hpasses : ∀ later : List ElementId,
        (i :: rest).length + ((i :: later).flatMap g.children).length =
          (g.children i ++ rest).length + (later.flatMap g.children).length + 1 := by
      intro later
      simp only [List.length_cons, List.flatMap_cons, List.length_append]
      omega
    rw [hpasses, Function.iterate_succ_apply, pass_of_visit (by simpa using hseen) hkeep,
      ← List.reverse_cons, ih]
    simp
  | case4 seen i rest _ hkeep ih =>
    rw [List.length_cons, Nat.succ_add, Function.iterate_succ_apply,
      pass_of_skip (.inr (by simpa using hkeep)), ih]

/-- What is visited was not seen before, and is not visited again. -/
theorem nodup_preorderFrom (g : Graph) (keep : ElementId → Bool) (seen stack : List ElementId) :
    (g.preorderFrom keep seen stack).Nodup ∧ ∀ i ∈ g.preorderFrom keep seen stack, i ∉ seen := by
  fun_induction preorderFrom g keep seen stack with
  | case1 => simp
  | case2 seen i rest _ ih => exact ih
  | case3 seen i rest hseen _ ih =>
    obtain ⟨hnodup, hfresh⟩ := ih
    refine ⟨List.nodup_cons.2 ⟨fun hi => hfresh i hi List.mem_cons_self, hnodup⟩, ?_⟩
    exact List.forall_mem_cons.2 ⟨hseen, fun j hj => List.not_mem_of_not_mem_cons (hfresh j hj)⟩
  | case4 seen i rest _ _ ih => exact ih

/-- **No element is visited twice.** -/
theorem nodup_preorder : (g.preorder keep roots).Nodup := (nodup_preorderFrom g keep [] roots).1

/-! ### The recursion -/

/-- A search of two lists has searched the first one before the second one. -/
theorem Searches.exists_of_append (h : g.Searches keep visited (is ++ js) after) :
    ∃ mid, g.Searches keep visited is mid ∧ g.Searches keep mid js after := by
  induction is generalizing visited with
  | nil => exact ⟨visited, .nil, h⟩
  | cons i rest ih =>
    cases h with
    | pass hi hrest =>
      obtain ⟨mid, hfirst, hsecond⟩ := ih hrest
      exact ⟨mid, .pass hi hfirst, hsecond⟩
    | visit hi hkeep hbelow hrest =>
      obtain ⟨mid, hfirst, hsecond⟩ := ih hrest
      exact ⟨mid, .visit hi hkeep hbelow hfirst, hsecond⟩

/-- A search has one end. -/
theorem Searches.unique (h : g.Searches keep visited is after)
    (h' : g.Searches keep visited is after') : after = after' := by
  induction h generalizing after' with
  | nil =>
    cases h'
    rfl
  | pass hi _ ih =>
    cases h' with
    | pass _ hrest' => exact ih hrest'
    | visit hi' hkeep' _ _ => simp [hi', hkeep'] at hi
  | visit hi hkeep _ _ ihbelow ih =>
    cases h' with
    | pass hi' _ => simp [hi, hkeep] at hi'
    | visit _ _ hbelow' hrest' =>
      obtain rfl := ihbelow hbelow'
      exact ih hrest'

/-- What lies on a stack can be searched, and is visited in the order of the loop. -/
theorem searches_preorderFrom (g : Graph) (keep : ElementId → Bool) (seen stack : List ElementId) :
    g.Searches keep seen.reverse stack (seen.reverse ++ g.preorderFrom keep seen stack) := by
  fun_induction preorderFrom g keep seen stack with
  | case1 seen =>
    rw [List.append_nil]
    exact .nil
  | case2 seen i rest hseen ih => exact .pass (.inl (List.mem_reverse.2 hseen)) ih
  | case3 seen i rest hseen hkeep ih =>
    -- the children lie on top of the stack, so they have been searched before what was below
    obtain ⟨below, hbelow, hrest⟩ := ih.exists_of_append
    rw [List.reverse_cons] at hbelow hrest
    rw [List.append_assoc] at hrest
    exact .visit (by simpa using hseen) hkeep hbelow hrest
  | case4 seen i rest _ hkeep ih => exact .pass (.inr (by simpa using hkeep)) ih

/-- **The recursive search comes to its end with the preorder**, and with nothing else. -/
theorem searches_iff : g.Searches keep [] roots after ↔ after = g.preorder keep roots := by
  have hpreorder : g.Searches keep [] roots (g.preorder keep roots) :=
    searches_preorderFrom g keep [] roots
  constructor
  · intro h
    exact h.unique hpreorder
  · rintro rfl
    exact hpreorder

/-- **The preorder is what is visited depth first**, by the loop and by the recursive search. -/
theorem depthFirst_preorder (g : Graph) (keep : ElementId → Bool) (roots : List ElementId) :
    g.DepthFirst keep roots (g.preorder keep roots) where
  loop := ⟨_, iterate_pass g keep [] roots⟩
  search _ := searches_iff
  nodup := nodup_preorder

end Graph

end SchemaStructs
