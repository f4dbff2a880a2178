import SchemaStructs.Proofs.Computation
import SchemaStructs.Proofs.Template.Steps

/-!
# Two runs of one program

A program that is run in two scopes ends in the same way (`SameRun`) if its expressions have the
same values in both, or at least values that the program does not tell apart: the values of a
condition count the same, the rounds for the items of two lists print the same, and a routine prints
the same for two arguments.  No value needs to be known for this, and a run may fail.

* `SameRun.cons` joins a statement with those after it, as `runAll_cons` does for one run;
* `sameRun_output`, `sameRun_choose`, `sameRun_each`: statements that bind no names;
* `printed_eq_of_bound`: a statement that binds one, with what is printed after it;
* `apply_congr`: a routine of one parameter, with two arguments;
* `Library.render_congr`: a template, with two lists of names given to it.
-/

namespace SchemaStructs

namespace Template

/-- Two runs end in the same way: with the same text, in the scopes `ended` and `ended'`, or for the
same reason. -/
inductive SameRun (ended ended' : Scope) :
    Except Failure (Text × Scope) → Except Failure (Text × Scope) → Prop where
  /-- Both print the text. -/
  | prints (t : Text) : SameRun ended ended' (.ok (t, ended)) (.ok (t, ended'))
  /-- Both fail. -/
  | fails (e : Failure) : SameRun ended ended' (.error e) (.error e)

variable {cx : Context} {reach : Reach} {scope scope' mid mid' ended ended' : Scope}
variable {e : Expr} {s : Statement} {rest body : List Statement} {name param : Text}
variable {v w : Value} {vs ws : List Value} {x y : Except Failure (Text × Scope)} {r : Routine}

/-- What is printed is the same. -/
theorem SameRun.printed_eq (h : SameRun ended ended' x y) : x.map (·.1) = y.map (·.1) := by
  cases h with
  | prints t => rfl
  | fails e => rfl

/-- Two runs that go on in the same way. -/
theorem SameRun.bind {f f' : Text × Scope → Except Failure (Text × Scope)}
    (h : SameRun mid mid' x y) (hf : ∀ t, SameRun ended ended' (f (t, mid)) (f' (t, mid'))) :
    SameRun ended ended' (x >>= f) (y >>= f') := by
  cases h with
  | prints t => exact hf t
  | fails e => exact .fails e

/-- What is computed in the same way is printed in the same way, and no names are bound. -/
theorem sameRun_map {α : Type} (x : Except Failure α) (print : α → Text) :
    SameRun scope scope' (x.map fun a => (print a, scope)) (x.map fun a => (print a, scope')) := by
  cases x with
  | error e => exact .fails e
  | ok a => exact .prints (print a)

/-! ### Statements -/

theorem SameRun.cons (hs : SameRun mid mid' (s.run cx reach scope) (s.run cx reach scope'))
    (hrest : SameRun ended ended' (runAll cx reach mid rest) (runAll cx reach mid' rest)) :
    SameRun ended ended' (runAll cx reach scope (s :: rest))
      (runAll cx reach scope' (s :: rest)) := by
  rw [runAll, runAll]
  exact hs.bind fun t => hrest.bind fun ts => .prints (t ++ ts)

theorem sameRun_text (t : Text) : SameRun scope scope' ((Statement.text t).run cx reach scope)
    ((Statement.text t).run cx reach scope') :=
  .prints t

theorem sameRun_output (he : e.eval cx reach scope = e.eval cx reach scope') :
    SameRun scope scope' ((Statement.output e).run cx reach scope)
      ((Statement.output e).run cx reach scope') := by
  have hrun : ∀ scope, (Statement.output e).run cx reach scope =
      (e.eval cx reach scope >>= fun v => v.display? cx.graph).map fun t => (t, scope) := by
    intro scope
    rw [Statement.run]
    cases e.eval cx reach scope <;> rfl
  rw [hrun, hrun, he]
  exact sameRun_map _ id

/-- A condition that counts the same in both scopes. -/
theorem sameRun_choose
    (he : (e.eval cx reach scope >>= Value.truthy) = (e.eval cx reach scope' >>= Value.truthy))
    (hbody : SameRun scope scope' (runAll cx reach scope body) (runAll cx reach scope' body)) :
    SameRun scope scope' ((Statement.choose e body []).run cx reach scope)
      ((Statement.choose e body []).run cx reach scope') := by
  have hrun : ∀ scope, (Statement.choose e body []).run cx reach scope =
      (e.eval cx reach scope >>= Value.truthy) >>= fun holds =>
        if holds then runAll cx reach scope body else runAll cx reach scope [] := by
    intro scope
    rw [Statement.run, bind_assoc]
  rw [hrun, hrun, he]
  cases e.eval cx reach scope' >>= Value.truthy with
  | error failure => exact .fails failure
  | ok holds =>
    cases holds with
    | true => exact hbody
    | false => exact .prints []

/-- Two lists whose items print the same, one by one. -/
theorem sameRun_each (hvs : e.eval cx reach scope = .ok (.list vs))
    (hws : e.eval cx reach scope' = .ok (.list ws))
    (hbody : List.Forall₂ (fun v w =>
      SameRun ((name, some v) :: scope) ((name, some w) :: scope')
        (runAll cx reach ((name, some v) :: scope) body)
        (runAll cx reach ((name, some w) :: scope') body)) vs ws) :
    SameRun scope scope' ((Statement.each name e body).run cx reach scope)
      ((Statement.each name e body).run cx reach scope') := by
  have hrun : ∀ {scope vs}, e.eval cx reach scope = .ok (.list vs) →
      (Statement.each name e body).run cx reach scope =
        (vs.mapM fun v => (runAll cx reach ((name, some v) :: scope) body).map (·.1)).map
          fun printed => (printed.flatten, scope) := by
    intro scope vs h
    rw [Statement.run, h]
    rfl
  have hprinted := mapM_eq_of_forall₂ (hbody.imp fun _ _ h => h.printed_eq)
  rw [hrun hvs, hrun hws, hprinted]
  exact sameRun_map _ List.flatten

/-- A statement that binds one value in both scopes, or fails. -/
theorem printed_eq_of_bound {value : Except Failure Value}
    (hs : s.run cx reach scope = value.map fun v => ([], (name, some v) :: scope))
    (hs' : s.run cx reach scope' = value.map fun v => ([], (name, some v) :: scope'))
    (hrest : ∀ v, value = .ok v → (runAll cx reach ((name, some v) :: scope) rest).map (·.1) =
      (runAll cx reach ((name, some v) :: scope') rest).map (·.1)) :
    (runAll cx reach scope (s :: rest)).map (·.1) =
      (runAll cx reach scope' (s :: rest)).map (·.1) := by
  rw [runAll, runAll, hs, hs']
  cases value with
  | error failure => rfl
  | ok v =>
    have hprinted : ∀ scope, ((runAll cx reach ((name, some v) :: scope) rest >>= fun later =>
        pure ([] ++ later.1, later.2)) : Except Failure (Text × Scope)).map (·.1) =
          (runAll cx reach ((name, some v) :: scope) rest).map (·.1) := by
      intro scope
      cases runAll cx reach ((name, some v) :: scope) rest <;> rfl
    exact (hprinted scope).trans ((hrest v rfl).trans (hprinted scope').symm)

/-! ### Routines and templates -/

/-- A routine of one parameter prints the same for two arguments if its body does. -/
theorem apply_congr {depth : Nat} (hparams : r.params = [param])
    (hopened : ∀ v, Scope.opened [(param, v)] r.body = [(param, some v)])
    (hbody : SameRun ended ended' (runAll cx (reachTo cx depth) [(param, some v)] r.body)
      (runAll cx (reachTo cx depth) [(param, some w)] r.body)) :
    (reachTo cx (depth + 1)).apply r [v] = (reachTo cx (depth + 1)).apply r [w] := by
  rw [apply_eq hparams (hopened v), apply_eq hparams (hopened w), hbody.printed_eq]

/-- A template prints the same with two lists of names if its program does in the scopes that it
starts with. -/
theorem Library.render_congr {lib : Library} {g : Graph} {given given' : Given}
    {program : List Statement} (hprogram : lib.program? name = .ok program)
    (hself : given.any (·.1 == selfName) = false) (hself' : given'.any (·.1 == selfName) = false)
    (hrun : (runAll (lib.context g) (reachTo (lib.context g) maxDepth)
        (Scope.opened (selfNamed (Json.quoted name) ++ given) program) program).map (·.1) =
      (runAll (lib.context g) (reachTo (lib.context g) maxDepth)
        (Scope.opened (selfNamed (Json.quoted name) ++ given') program) program).map (·.1)) :
    lib.render g name given = lib.render g name given' := by
  rw [render_eq hprogram hself, render_eq hprogram hself', hrun]

end Template

end SchemaStructs
