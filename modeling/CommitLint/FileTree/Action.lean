import CommitLint.Failure
import CommitLint.FileTree.Access

/-!
# Actions on files

What a program does with files, one step after another. A failure ends an
action where it is, and what was changed before it stays changed.
-/

namespace CommitLint

abbrev FileAction := ExceptT Failure (StateM FileTree)

namespace FileAction

variable {α β : Type}

/-- Do an action on a tree: what it answers, and the tree that it leaves. -/
def on (action : FileAction α) (tree : FileTree) : Except Failure α × FileTree :=
  action.run tree

/-- Ask something about the tree. -/
def ask (question : FileTree → Except FileFault α) : FileAction α :=
  fun tree => ((question tree).mapError .file, tree)

/-- Fail unless a condition is met. -/
def check (met : Bool) (failure : Failure) : FileAction Unit :=
  fun tree => (if met then .ok () else .error failure, tree)

/-- Go on with a result that needs no files. -/
def demand (result : Except Failure α) : FileAction α :=
  fun tree => (result, tree)

/-- Make one change, which a fault keeps from being made. -/
def change (next : FileTree → Except FileFault FileTree) : FileAction Unit :=
  fun tree =>
    match next tree with
    | .ok changed => (.ok (), changed)
    | .error fault => (.error (.file fault), tree)

/-! ## One step at a time -/

variable (tree : FileTree)

@[simp] theorem on_pure (answer : α) : (pure answer : FileAction α).on tree = (.ok answer, tree) :=
  rfl

theorem on_bind (action : FileAction α) (next : α → FileAction β) :
    (action >>= next).on tree =
      match action.on tree with
      | (.ok answer, changed) => (next answer).on changed
      | (.error failure, changed) => (.error failure, changed) := by
  simp only [on, ExceptT.run, bind, ExceptT.bind, ExceptT.mk, StateT.bind]
  cases action tree with
  | mk outcome changed => cases outcome <;> rfl

@[simp] theorem on_ask_bind (question : FileTree → Except FileFault α)
    (next : α → FileAction β) :
    (ask question >>= next).on tree =
      match question tree with
      | .ok answer => (next answer).on tree
      | .error fault => (.error (.file fault), tree) := by
  rw [on_bind]
  simp only [on, ExceptT.run, ask]
  cases question tree <;> rfl

@[simp] theorem on_check_bind (met : Bool) (failure : Failure) (next : Unit → FileAction α) :
    (check met failure >>= next).on tree =
      if met then (next ()).on tree else (.error failure, tree) := by
  cases met <;> rfl

@[simp] theorem on_demand_bind (result : Except Failure α) (next : α → FileAction β) :
    (demand result >>= next).on tree =
      match result with
      | .ok answer => (next answer).on tree
      | .error failure => (.error failure, tree) := by
  rw [on_bind]
  cases result <;> rfl

@[simp] theorem on_change_bind (step : FileTree → Except FileFault FileTree)
    (next : Unit → FileAction α) :
    (change step >>= next).on tree =
      match step tree with
      | .ok changed => (next ()).on changed
      | .error fault => (.error (.file fault), tree) := by
  rw [on_bind]
  simp only [on, ExceptT.run, change]
  cases step tree <;> rfl

end FileAction

end CommitLint
