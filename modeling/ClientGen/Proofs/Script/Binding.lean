import ClientGen.Proofs.Results
import ClientGen.Script.Evaluation

/-!
# What a script binds

A script binds a name if it comes to a statement that sets it in the namespace, at its top level or
in a function that it calls (`Binds`). Whether it comes there depends on the memory it starts in:
the functions that it calls may be left over from other scripts. A script that does not bind a name
may still read it, call what it stands for, and delete it; what can be called under the name at the
end was there at the start (`Keeps`, `keeps_of_not_binds`).
-/

set_option autoImplicit false
set_option relaxedAutoImplicit false

namespace ClientGen.Script

/-! ### Binding a name -/

/-- Where code runs, with calls that nest up to a depth. -/
def settingAt (depth : Nat) (scope : Scope) : Setting :=
  ⟨scope, invokeWithin depth, depth⟩

/-- A statement that sets the name sets it in the namespace. -/
def Memory.Shares (memory : Memory) (name : String) (scope : Scope) : Prop :=
  ∀ frame, memory.place name scope ≠ .own frame

mutual

/-- The value of an expression takes a call that binds the name. -/
inductive ExprBinds (target : String) : Nat → Scope → Expr → Memory → Prop
  | upper {depth : Nat} {scope : Scope} {body : Expr} {memory : Memory}
      (h : ExprBinds target depth scope body memory) :
      ExprBinds target depth scope (.upper body) memory
  | lower {depth : Nat} {scope : Scope} {body : Expr} {memory : Memory}
      (h : ExprBinds target depth scope body memory) :
      ExprBinds target depth scope (.lower body) memory
  | argument {depth : Nat} {scope : Scope} {callee : String} {arguments : List Expr}
      {memory middle : Memory} {value : Value}
      (hcallee : (scope.value callee).run.run memory = (.ok value, middle))
      (h : AllBind target depth scope arguments middle) :
      ExprBinds target depth scope (.call callee arguments) memory
  | call {depth : Nat} {scope : Scope} {callee : String} {arguments : List Expr}
      {memory middle last : Memory} {value : Value} {values : List Value}
      (hcallee : (scope.value callee).run.run memory = (.ok value, middle))
      (harguments :
        (runAll (settingAt depth scope) arguments).run.run middle = (.ok values, last))
      (h : CallBinds target depth value values last) :
      ExprBinds target depth scope (.call callee arguments) memory
  | concat {depth : Nat} {scope : Scope} {parts : List Expr} {memory : Memory}
      (h : AllBind target depth scope parts memory) :
      ExprBinds target depth scope (.concat parts) memory

/-- One of the values of expressions takes a call that binds the name. -/
inductive AllBind (target : String) : Nat → Scope → List Expr → Memory → Prop
  | head {depth : Nat} {scope : Scope} {part : Expr} {rest : List Expr} {memory : Memory}
      (h : ExprBinds target depth scope part memory) :
      AllBind target depth scope (part :: rest) memory
  | tail {depth : Nat} {scope : Scope} {part : Expr} {rest : List Expr}
      {memory middle : Memory} {value : Value}
      (hpart : (part.run (settingAt depth scope)).run.run memory = (.ok value, middle))
      (h : AllBind target depth scope rest middle) :
      AllBind target depth scope (part :: rest) memory

/-- A call comes to a statement that binds the name. -/
inductive CallBinds (target : String) : Nat → Value → List Value → Memory → Prop
  | mk {depth : Nat} {function : Function} {arguments : List Value} {memory middle : Memory}
      {scope : Scope}
      (henter : (function.enter arguments).run.run memory = (.ok scope, middle))
      (h : BodyBinds target depth scope function.body middle) :
      CallBinds target (depth + 1) (.function function) arguments memory

/-- A statement binds the name, or takes a call that does. -/
inductive StmtBinds (target : String) : Nat → Scope → Stmt → Memory → Prop
  | define {depth : Nat} {scope : Scope} {parameters : List String} {rest : Option String}
      {body : List Stmt} {globals : List String} {memory : Memory}
      (h : memory.Shares target scope) :
      StmtBinds target depth scope (.define target parameters rest body globals) memory
  | assign {depth : Nat} {scope : Scope} {expr : Expr} {memory middle : Memory} {value : Value}
      (hexpr : (expr.run (settingAt depth scope)).run.run memory = (.ok value, middle))
      (h : middle.Shares target scope) :
      StmtBinds target depth scope (.assign target expr) memory
  | value {depth : Nat} {scope : Scope} {name : String} {expr : Expr} {memory : Memory}
      (h : ExprBinds target depth scope expr memory) :
      StmtBinds target depth scope (.assign name expr) memory
  | give {depth : Nat} {scope : Scope} {expr : Expr} {memory : Memory}
      (h : ExprBinds target depth scope expr memory) :
      StmtBinds target depth scope (.give expr) memory
  | fail {depth : Nat} {scope : Scope} {expr : Expr} {memory : Memory}
      (h : ExprBinds target depth scope expr memory) :
      StmtBinds target depth scope (.fail expr) memory

/-- Statements come to one that binds the name. -/
inductive BodyBinds (target : String) : Nat → Scope → List Stmt → Memory → Prop
  | here {depth : Nat} {scope : Scope} {stmt : Stmt} {rest : List Stmt} {memory : Memory}
      (h : StmtBinds target depth scope stmt memory) :
      BodyBinds target depth scope (stmt :: rest) memory
  | later {depth : Nat} {scope : Scope} {stmt : Stmt} {rest : List Stmt}
      {memory middle : Memory}
      (hstmt : (runBody (settingAt depth scope) [stmt]).run.run memory = (.ok none, middle))
      (h : BodyBinds target depth scope rest middle) :
      BodyBinds target depth scope (stmt :: rest) memory

end

/-- A script binds a name, in the memory that it starts in: it can be read, and comes to a statement
that sets the name in the namespace. -/
def Binds (target : String) (script : Script) (memory : Memory) : Prop :=
  fault? script = none ∧ BodyBinds target depthLimit .top script
    { memory with bindings := memory.bindings.withLibrary }

/-- A script that only sets another name to a literal does not bind the name. -/
theorem not_binds_of_ne {target name : String} (hname : name ≠ target) (value : Literal)
    (memory : Memory) : ¬Binds target [.assign name (.literal value)] memory := by
  rintro ⟨-, hbody⟩
  cases hbody with
  | here h =>
    cases h with
    | assign => exact hname rfl
    | value h => cases h
  | later _ h => cases h

/-! ### What is kept -/

/-- What can be called under a name in a later memory was there in an earlier one. -/
def Keeps (target : String) (memory later : Memory) : Prop :=
  ∀ callee : Value, callee.isCallable = true → later.bindings.get? target = some callee →
    memory.bindings.get? target = some callee

variable {target : String} {memory middle later : Memory} {α β : Type}

theorem Keeps.refl (target : String) (memory : Memory) : Keeps target memory memory :=
  fun _ _ ↦ id

theorem Keeps.trans (h : Keeps target memory middle) (hmore : Keeps target middle later) :
    Keeps target memory later :=
  fun callee hcallable hlater ↦ h callee hcallable (hmore callee hcallable hlater)

/-- Two steps keep what each of them keeps. -/
theorem Keeps.bind {x : Run α} {f : α → Run β} (hx : Keeps target memory (x.run.run memory).2)
    (hf : ∀ a middle, x.run.run memory = (.ok a, middle) →
      Keeps target middle ((f a).run.run middle).2) :
    Keeps target memory ((x >>= f).run.run memory).2 := by
  rw [run_bind_eq]
  generalize hrun : x.run.run memory = outcome at hx
  obtain ⟨result, middle⟩ := outcome
  cases result with
  | error raised => exact hx
  | ok a => exact hx.trans (hf a middle hrun)

theorem run_modify (change : Memory → Memory) (memory : Memory) :
    ((modify change : Run Unit).run.run memory).2 = change memory :=
  rfl

/-- A step leaves the memory as it is. -/
def Quiet (step : Run α) : Prop :=
  ∀ memory, (step.run.run memory).2 = memory

namespace Quiet

theorem keeps {step : Run α} (h : Quiet step) (target : String) (memory : Memory) :
    Keeps target memory (step.run.run memory).2 := by
  rw [h memory]
  exact .refl target memory

theorem pure (a : α) : Quiet (pure a : Run α) :=
  fun _ ↦ rfl

theorem throw (raised : Raised) : Quiet (throw raised : Run α) :=
  fun _ ↦ rfl

theorem get : Quiet (get : Run Memory) :=
  fun _ ↦ rfl

theorem bind {x : Run α} {f : α → Run β} (hx : Quiet x) (hf : ∀ a, Quiet (f a)) :
    Quiet (x >>= f) := by
  intro memory
  have hmemory := hx memory
  rw [run_bind_eq]
  generalize x.run.run memory = outcome at hmemory
  obtain ⟨result, middle⟩ := outcome
  obtain rfl : middle = memory := hmemory
  cases result with
  | error raised => rfl
  | ok a => exact hf a middle

theorem map {x : Run α} (f : α → β) (hx : Quiet x) : Quiet (f <$> x) := by
  rw [map_eq_pure_bind]
  exact hx.bind fun _ ↦ .pure _

theorem within {setting : Setting} {step : Run α} (h : Quiet step) :
    Quiet (setting.within step) := by
  unfold Setting.within
  split
  · exact .throw _
  · exact h

theorem value (name : String) (scope : Scope) : Quiet (scope.value name) := by
  unfold Scope.value
  refine .bind .get fun memory ↦ ?_
  split <;> split
  all_goals first
    | exact .pure _
    | exact .throw _

theorem make (kind : Kind) (arguments : List Value) : Quiet (kind.make arguments) := by
  unfold Kind.make
  split
  · split
    · exact .pure _
    · exact .throw _
  · exact .pure _

theorem changeText (setting : Setting) (method : String) (change : List Char → List Char)
    (value : Value) : Quiet (changeText setting method change value) := by
  unfold Script.changeText
  split
  · exact .within (.pure _)
  · exact .throw _

theorem joinTexts (index : Nat) (values : List Value) : Quiet (joinTexts index values) := by
  induction values generalizing index with
  | nil => exact .pure _
  | cons value rest ih =>
    cases value with
    | text s => exact .map _ (ih _)
    | _ => exact .throw _

theorem raise (setting : Setting) (value : Value) : Quiet (raise setting value) := by
  cases value with
  | error kind arguments => exact .throw _
  | kind kind => exact .within (.bind (.make kind []) fun _ ↦ .throw _)
  | _ => exact .throw _

end Quiet

/-! ### Setting and removing names -/

theorem Bindings.get?_erase (bindings : Bindings) (name other : String) :
    (bindings.erase name).get? other = if other = name then none else bindings.get? other := by
  induction bindings with
  | nil => simp [Bindings.erase, Bindings.get?]
  | cons first rest ih =>
    obtain ⟨key, value⟩ := first
    unfold Bindings.erase Bindings.get? at ih ⊢
    by_cases hkey : key = name
    · rw [List.filter_cons_of_neg (by simpa using hkey), ih]
      split_ifs with hother
      · rfl
      · rw [List.lookup_cons, beq_false_of_ne (fun h ↦ hother (h.trans hkey))]
    · rw [List.filter_cons_of_pos (by simpa using hkey), List.lookup_cons, ih, List.lookup_cons]
      by_cases hother : other = name
      · rw [beq_false_of_ne (fun h ↦ hkey (h.symm.trans hother)), if_pos hother]
      · rw [if_neg hother, if_neg hother]

theorem Bindings.get?_set (bindings : Bindings) (name other : String) (value : Value) :
    (bindings.set name value).get? other =
      if other = name then some value else bindings.get? other := by
  have herase := bindings.get?_erase name other
  unfold Bindings.set
  rw [Bindings.get?, List.lookup_cons]
  by_cases hother : other = name
  · simp [hother]
  · rw [beq_false_of_ne hother, if_neg hother]
    exact herase.trans (if_neg hother)

theorem keeps_erase (target name : String) (memory : Memory) :
    Keeps target memory { memory with bindings := memory.bindings.erase name } := by
  intro callee _ hlater
  rw [Bindings.get?_erase] at hlater
  split_ifs at hlater
  exact hlater

/-- Assumes: the name is another one, or cannot be called. -/
theorem keeps_set {name : String} {value : Value}
    (h : target = name → value.isCallable = false) (memory : Memory) :
    Keeps target memory { memory with bindings := memory.bindings.set name value } := by
  intro callee hcallable hlater
  rw [Bindings.get?_set] at hlater
  split_ifs at hlater with hsame
  · obtain rfl := Option.some.inj hlater
    rw [h hsame] at hcallable
    cases hcallable
  · exact hlater

/-- The library cannot be called. -/
theorem keeps_withLibrary (target : String) (memory : Memory) :
    Keeps target memory { memory with bindings := memory.bindings.withLibrary } := by
  unfold Bindings.withLibrary
  split
  · exact .refl target memory
  · exact keeps_set (fun _ ↦ rfl) memory

/-- Assumes: the name is another one, or the call's own. -/
theorem keeps_assign {name : String} {scope : Scope}
    (h : target = name → ¬memory.Shares target scope) (value : Value) :
    Keeps target memory ((scope.assign name value).run.run memory).2 := by
  unfold Scope.assign
  rw [run_modify]
  split
  · exact .refl target memory
  · next hplace =>
    refine keeps_set (fun hname ↦ ?_) memory
    subst hname
    exact absurd (fun frame ↦ hplace frame) (h rfl)

theorem keeps_delete (target name : String) (scope : Scope) (memory : Memory) :
    Keeps target memory ((scope.delete name).run.run memory).2 := by
  unfold Scope.delete
  refine .bind (.refl target memory) fun found middle hfound ↦ ?_
  cases hfound
  split
  · split
    · exact .refl target memory
    · exact .refl target memory
  · split
    · exact .refl target memory
    · exact keeps_erase target name memory

theorem keeps_enter (target : String) (function : Function) (arguments : List Value)
    (memory : Memory) : Keeps target memory ((function.enter arguments).run.run memory).2 := by
  unfold Function.enter
  refine .bind ?_ fun bindings middle _ ↦ ?_
  · cases function.bind arguments <;> exact .refl target memory
  · exact .refl target middle

/-! ### Running statements -/

/-- A body runs statement by statement, up to the first that gives a value. -/
theorem runBody_cons (setting : Setting) (stmt : Stmt) (rest : List Stmt) :
    runBody setting (stmt :: rest) = runBody setting [stmt] >>= fun
      | none => runBody setting rest
      | some value => pure (some value) := by
  cases stmt <;> simp only [runBody, map_eq_pure_bind, bind_assoc, pure_bind]

section

variable {depth : Nat} {scope : Scope}

/-- Calls at a depth keep a name unless they bind it. -/
def CallsKeep (target : String) (depth : Nat) : Prop :=
  ∀ callee arguments memory, ¬CallBinds target depth callee arguments memory →
    Keeps target memory ((invokeWithin depth callee arguments).run.run memory).2

mutual

theorem keeps_of_not_exprBinds (hcalls : CallsKeep target depth) :
    ∀ (expr : Expr) (memory : Memory), ¬ExprBinds target depth scope expr memory →
      Keeps target memory ((expr.run (settingAt depth scope)).run.run memory).2
  | .literal value, memory, _ => .refl target memory
  | .name name, memory, _ => (Quiet.value name scope).keeps target memory
  | .upper body, memory, h => by
    rw [Expr.run]
    exact .bind (keeps_of_not_exprBinds hcalls body memory fun hbody ↦ h (.upper hbody))
      fun value middle _ ↦ (Quiet.changeText _ _ _ value).keeps target middle
  | .lower body, memory, h => by
    rw [Expr.run]
    exact .bind (keeps_of_not_exprBinds hcalls body memory fun hbody ↦ h (.lower hbody))
      fun value middle _ ↦ (Quiet.changeText _ _ _ value).keeps target middle
  | .call callee arguments, memory, h => by
    rw [Expr.run]
    refine .bind ((Quiet.value callee scope).keeps target memory) fun value middle hcallee ↦ ?_
    refine .bind (keeps_of_not_allBind hcalls arguments middle fun harguments ↦ ?_)
      fun values last hvalues ↦ hcalls value values last fun hcall ↦ ?_
    · exact h (.argument hcallee harguments)
    · exact h (.call hcallee hvalues hcall)
  | .concat parts, memory, h => by
    rw [Expr.run]
    exact .bind (keeps_of_not_allBind hcalls parts memory fun hparts ↦ h (.concat hparts))
      fun values middle _ ↦ (Quiet.within (.map _ (.joinTexts 0 values))).keeps target middle

theorem keeps_of_not_allBind (hcalls : CallsKeep target depth) :
    ∀ (parts : List Expr) (memory : Memory), ¬AllBind target depth scope parts memory →
      Keeps target memory ((runAll (settingAt depth scope) parts).run.run memory).2
  | [], memory, _ => .refl target memory
  | part :: rest, memory, h => by
    rw [runAll]
    refine .bind (keeps_of_not_exprBinds hcalls part memory fun hpart ↦ h (.head hpart))
      fun value middle hpart ↦ ?_
    exact .bind (keeps_of_not_allBind hcalls rest middle fun hrest ↦ h (.tail hpart hrest))
      fun values last _ ↦ .refl target last

end

theorem keeps_of_not_stmtBinds (hcalls : CallsKeep target depth) (stmt : Stmt)
    (h : ¬StmtBinds target depth scope stmt memory) :
    Keeps target memory ((runBody (settingAt depth scope) [stmt]).run.run memory).2 := by
  cases stmt with
  | define name parameters rest body globals =>
    rw [runBody]
    refine .bind (.refl target memory) fun found middle hfound ↦ ?_
    cases hfound
    refine .bind (keeps_assign (fun hname hshares ↦ ?_) _) fun _ last _ ↦ .refl target last
    subst hname
    exact h (.define hshares)
  | assign name expr =>
    rw [runBody]
    refine .bind (keeps_of_not_exprBinds hcalls expr memory fun hexpr ↦ h (.value hexpr))
      fun value middle hvalue ↦ ?_
    refine .bind (keeps_assign (fun hname hshares ↦ ?_) value) fun _ last _ ↦ .refl target last
    subst hname
    exact h (.assign hvalue hshares)
  | delete name =>
    rw [runBody]
    exact .bind (keeps_delete target name scope memory) fun _ last _ ↦ .refl target last
  | give expr =>
    rw [runBody, map_eq_pure_bind]
    exact .bind (keeps_of_not_exprBinds hcalls expr memory fun hexpr ↦ h (.give hexpr))
      fun value last _ ↦ .refl target last
  | fail expr =>
    rw [runBody]
    refine .bind (keeps_of_not_exprBinds hcalls expr memory fun hexpr ↦ h (.fail hexpr))
      fun value middle _ ↦ ?_
    exact .bind ((Quiet.raise _ value).keeps target middle) fun _ last _ ↦ .refl target last
  | broken fault => exact .refl target memory

theorem keeps_of_not_bodyBinds (hcalls : CallsKeep target depth) (body : List Stmt)
    (h : ¬BodyBinds target depth scope body memory) :
    Keeps target memory ((runBody (settingAt depth scope) body).run.run memory).2 := by
  induction body generalizing memory with
  | nil => exact .refl target memory
  | cons stmt rest ih =>
    rw [runBody_cons]
    refine .bind (keeps_of_not_stmtBinds hcalls stmt fun hstmt ↦ h (.here hstmt))
      fun given middle hgiven ↦ ?_
    cases given with
    | none => exact ih fun hrest ↦ h (.later hgiven hrest)
    | some value => exact .refl target middle

end

/-- The induction is on the depth, since the body of a function can only make calls that are less
deep. -/
theorem callsKeep (target : String) (depth : Nat) : CallsKeep target depth := by
  induction depth with
  | zero =>
    intro callee arguments memory _
    cases callee <;> exact .refl target memory
  | succ depth ih =>
    intro callee arguments memory h
    cases callee with
    | function function =>
      rw [invokeWithin]
      refine .bind (keeps_enter target function arguments memory) fun scope middle hscope ↦ ?_
      refine .bind (keeps_of_not_bodyBinds ih function.body fun hbody ↦ h (.mk hscope hbody))
        fun given last _ ↦ .refl target last
    | kind kind => exact (Quiet.make kind arguments).keeps target memory
    | _ => exact .refl target memory

/-- A script that does not bind a name keeps what can be called under it, or removes it. -/
theorem keeps_of_not_binds {script : Script} (h : ¬Binds target script memory) (place : String) :
    Keeps target memory ((run place script).run.run memory).2 := by
  unfold run
  split
  · exact .refl target memory
  · next hread =>
    refine .bind (keeps_withLibrary target memory) fun _ middle hmiddle ↦ ?_
    cases hmiddle
    refine .bind (keeps_of_not_bodyBinds (callsKeep target depthLimit) script fun hbody ↦ ?_)
      fun _ last _ ↦ .refl target last
    exact h ⟨hread, hbody⟩

end ClientGen.Script
