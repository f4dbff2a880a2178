import SchemaStructs.Template.Library

/-!
# Steps of a program

What single statements and expressions of a template do, given what their parts do.  A program is
run by putting these steps together: `runAll_cons` joins a statement with those after it,
`run_each` the rounds of a repeated part, and `Scope.value_cons_self` and `Scope.value_cons_of_ne`
look names up.
-/

namespace SchemaStructs

namespace Template

variable {cx : Context} {reach : Reach} {scope scope' scope'' : Scope}
variable {e : Expr} {s : Statement} {rest body : List Statement} {name field other : Text}
variable {t ts : Text} {v : Value} {vs : List Value} {filter : Filter} {args : List Argument}

/-! ### Names -/

theorem Scope.value_cons_self : Scope.value ((name, some v) :: scope) name = v := by
  simp [Scope.value, Text.equivalent]

theorem Scope.value_cons_of_ne {v : Option Value} (h : Text.equivalent other name = false) :
    Scope.value ((other, v) :: scope) name = scope.value name := by
  simp [Scope.value, h]

/-! ### Expressions -/

theorem eval_named (hv : scope.value name = v) :
    (Expr.named name).eval cx reach scope = .ok v :=
  congrArg Except.ok hv

theorem eval_member (he : e.eval cx reach scope = .ok v) :
    (Expr.member e field).eval cx reach scope = v.member cx.graph field := by
  change (e.eval cx reach scope >>= fun v => v.member cx.graph field) = _
  rw [he]
  rfl

theorem eval_filtered (he : e.eval cx reach scope = .ok v)
    (hf : cx.filter? name = some filter) :
    (Expr.filtered e name []).eval cx reach scope = filter.apply cx.graph v [] := by
  have hargs : evalArgs cx reach scope [] = .ok [] := rfl
  rw [Expr.eval, he, hargs, hf]
  rfl

/-- A routine is applied to one argument, whatever comes of it. -/
theorem eval_call_eq {r : Routine} {arg : Expr} (he : e.eval cx reach scope = .ok (.routine r))
    (ha : arg.eval cx reach scope = .ok v) :
    (Expr.call e [(none, arg)]).eval cx reach scope = (reach.apply r [v]).map .ofText := by
  have hargs : evalArgs cx reach scope [(none, arg)] = .ok [(none, v)] := by
    change (arg.eval cx reach scope >>= fun v => pure [(none, v)]) = _
    rw [ha]
    rfl
  change (e.eval cx reach scope >>= fun f => evalArgs cx reach scope [(none, arg)] >>=
    fun vs => reach.applyValue f vs) = _
  rw [he, hargs]
  rfl

theorem eval_call {r : Routine} {arg : Expr} (he : e.eval cx reach scope = .ok (.routine r))
    (ha : arg.eval cx reach scope = .ok v) (hr : reach.apply r [v] = .ok t) :
    (Expr.call e [(none, arg)]).eval cx reach scope = .ok (.ofText t) := by
  rw [eval_call_eq he ha, hr]
  rfl

theorem eval_join {left right : Expr} (hleft : left.eval cx reach scope = .ok (.ofText t))
    (hright : right.eval cx reach scope = .ok (.ofText ts)) :
    (Expr.binary .join left right).eval cx reach scope = .ok (.ofText (t ++ ts)) := by
  change (left.eval cx reach scope >>= fun a =>
    Operator.apply cx.graph .join a (right.eval cx reach scope)) = _
  rw [hleft, hright]
  rfl

/-! ### Statements -/

theorem runAll_nil : runAll cx reach scope [] = .ok ([], scope) := rfl

theorem runAll_cons (hs : s.run cx reach scope = .ok (t, scope'))
    (hrest : runAll cx reach scope' rest = .ok (ts, scope'')) :
    runAll cx reach scope (s :: rest) = .ok (t ++ ts, scope'') := by
  change (s.run cx reach scope >>= fun first => runAll cx reach first.2 rest >>=
    fun later => pure (first.1 ++ later.1, later.2)) = _
  rw [hs]
  simp [bind, Except.bind, hrest, pure, Except.pure]

theorem run_text : (Statement.text t).run cx reach scope = .ok (t, scope) := rfl

theorem run_output (he : e.eval cx reach scope = .ok (.ofText t)) :
    (Statement.output e).run cx reach scope = .ok (t, scope) := by
  change (e.eval cx reach scope >>= fun v => v.display? cx.graph >>= fun t =>
    pure (t, scope)) = _
  rw [he]
  rfl

/-- The value of an expression is bound, if it has one. -/
theorem run_assign_eq (name : Text) (e : Expr) : (Statement.assign name e).run cx reach scope =
    (e.eval cx reach scope).map fun v => ([], (name, some v) :: scope) := by
  change (e.eval cx reach scope >>= fun v => pure ([], (name, some v) :: scope)) = _
  cases e.eval cx reach scope <;> rfl

theorem run_assign (he : e.eval cx reach scope = .ok v) :
    (Statement.assign name e).run cx reach scope = .ok ([], (name, some v) :: scope) := by
  rw [run_assign_eq, he]
  rfl

/-- A template is bound, if it can be run. -/
theorem run_load (template name : Text) : (Statement.load template name).run cx reach scope =
    (reach.load template).map fun v => ([], (name, some v) :: scope) := by
  change (reach.load template >>= fun v => pure ([], (name, some v) :: scope)) = _
  cases reach.load template <;> rfl

/-- A part that is run if a condition holds. -/
theorem run_choose {holds : Bool} (he : e.eval cx reach scope = .ok v)
    (hv : v.truthy = .ok holds) (hbody : runAll cx reach scope body = .ok (t, scope)) :
    (Statement.choose e body []).run cx reach scope =
      .ok (if holds then t else [], scope) := by
  change (e.eval cx reach scope >>= fun v => v.truthy >>= fun holds =>
    if holds then runAll cx reach scope body else runAll cx reach scope []) = _
  rw [he]
  cases holds <;> simp [bind, Except.bind, hv, hbody, runAll_nil]

theorem mapM_map_eq_ok {α β γ ε : Type} {f : β → Except ε γ} {value : α → β} {h : α → γ}
    {l : List α} (hf : ∀ a ∈ l, f (value a) = .ok (h a)) :
    (l.map value).mapM f = .ok (l.map h) := by
  induction l with
  | nil => rfl
  | cons a l ih =>
    rw [List.map_cons, List.mapM_cons, hf a List.mem_cons_self,
      ih fun b hb => hf b (List.mem_cons_of_mem a hb)]
    rfl

/-- A part that is run for each item of a list. -/
theorem run_each {α : Type} {items : List α} {value : α → Value} {print : α → Text}
    (he : e.eval cx reach scope = .ok (.list (items.map value)))
    (hbody : ∀ a ∈ items, ∃ scope',
      runAll cx reach ((name, some (value a)) :: scope) body = .ok (print a, scope')) :
    (Statement.each name e body).run cx reach scope = .ok (items.flatMap print, scope) := by
  let round (item : Value) : Except Failure Text := do
    return (← runAll cx reach ((name, some item) :: scope) body).1
  have hrounds : (items.map value).mapM round = .ok (items.map print) :=
    mapM_map_eq_ok fun a ha => by
      obtain ⟨scope', hrun⟩ := hbody a ha
      simp only [round, hrun]
      rfl
  change (e.eval cx reach scope >>= fun v => itemsOf v >>= fun items =>
    items.mapM round >>= fun printed => pure (printed.flatten, scope)) = _
  rw [he]
  change ((items.map value).mapM round >>= fun printed => pure (printed.flatten, scope)) = _
  rw [hrounds]
  rfl

/-! ### Templates -/

/-- A template that another one runs. -/
theorem load_of_run {depth : Nat} {program : List Statement}
    (hprogram : cx.program? name = .ok program)
    (hrun : runWith cx (reachTo cx depth) (selfNamed (Json.quoted name)) program =
      .ok (t, scope)) :
    (reachTo cx (depth + 1)).load name = .ok (.template name t scope.offered) := by
  simp [reachTo, hprogram, hrun, bind, Except.bind, pure, Except.pure]

/-- A routine of one parameter prints what its body prints for the argument. -/
theorem apply_eq {depth : Nat} {r : Routine} {param : Text} (hparams : r.params = [param])
    (hopened : Scope.opened [(param, v)] r.body = [(param, some v)]) :
    (reachTo cx (depth + 1)).apply r [v] =
      (runAll cx (reachTo cx depth) [(param, some v)] r.body).map (·.1) := by
  simp only [reachTo, hparams, List.length_cons, List.length_nil, Nat.lt_irrefl, if_false,
    bindParams, runWith, hopened]
  cases runAll cx (reachTo cx depth) [(param, some v)] r.body <;> rfl

/-- A template prints what its program prints in the scope that it starts with. -/
theorem Library.render_eq {lib : Library} {g : Graph} {given : Given} {program : List Statement}
    (hprogram : lib.program? name = .ok program) (hself : given.any (·.1 == selfName) = false) :
    lib.render g name given = (runAll (lib.context g) (reachTo (lib.context g) maxDepth)
      (Scope.opened (selfNamed (Json.quoted name) ++ given) program) program).map (·.1) := by
  simp only [Library.render, hprogram, bind, Except.bind, Library.perform, hself,
    Bool.false_eq_true, if_false, run, runWith]
  cases runAll (lib.context g) (reachTo (lib.context g) maxDepth)
    (Scope.opened (selfNamed (Json.quoted name) ++ given) program) program <;> rfl

theorem Library.render_of_run {lib : Library} {g : Graph} {given : Given}
    {program : List Statement} (hprogram : lib.program? name = .ok program)
    (hself : given.any (·.1 == selfName) = false)
    (hrun : runAll (lib.context g) (reachTo (lib.context g) maxDepth)
      (Scope.opened (selfNamed (Json.quoted name) ++ given) program) program = .ok (t, scope')) :
    lib.render g name given = .ok t := by
  rw [Library.render_eq hprogram hself, hrun]
  rfl

end Template

end SchemaStructs
