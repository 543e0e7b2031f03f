import CommitLint.Rule.Declared
import CommitLint.Rule.Length

/-!
# Modules of rules

A project can define rules of its own in files. A file is a sequence of
classes, each built on another one, and of further names for them. The
rules of a file are the classes defined in it that can be constructed, in
the order of the names that they are bound to.
-/

namespace CommitLint

/-- What a class is built on: the class of all rules, nothing, or a class of some name. -/
inductive Base where
  | rule
  | nothing
  | named (name : String)
deriving DecidableEq, Repr

/-- A class as it is written; what it does not say itself it has from its base. -/
structure RuleClass where
  title : String
  base : Base
  name : Option String
  behaviour : Option Behaviour
  breaksDown : Bool
deriving Repr

structure RuleModule where
  importsRule : Bool
  importsHeaderLength : Bool
  classes : List RuleClass
  aliases : List (String × String)
  /-- Whether the file can be read at all. -/
  wellFormed : Bool
  /-- Whether the file breaks down at its end. -/
  breaksDown : Bool
deriving Repr

/-- A rule that a project defines, with the title of its class. -/
structure CustomRule where
  title : String
  rule : Rule

namespace RuleModule

/-- A class with all that it has from its base. -/
structure Defined where
  title : String
  /-- Whether the class is defined in the file, and is a class of rules. -/
  isOwnRule : Bool
  isRule : Bool
  name : Option String
  validate : Option (String → Option Entries → Reply)
  breaksDown : Bool

/-- The classes by the names that they are bound to. -/
abbrev Bindings := List (String × Defined)

def bind (bindings : Bindings) (name : String) (content : Defined) : Bindings :=
  (name, content) :: bindings.filter fun binding => binding.1 != name

/-- The class of all rules, which has no name and judges nothing. -/
def ruleClass : Defined :=
  ⟨"Rule", false, true, none, none, false⟩

def nothingClass : Defined :=
  ⟨"object", false, false, none, none, false⟩

def headerLengthClass : Defined :=
  ⟨"HeaderMaxLength", false, true, some HeaderLength.rule.name, some HeaderLength.rule.validate,
    false⟩

/-- The names that are bound before the first class. -/
def imported (file : RuleModule) : Bindings :=
  ("_Rule", ruleClass) ::
    (if file.importsRule then [("Rule", ruleClass)] else []) ++
      if file.importsHeaderLength then [("HeaderMaxLength", headerLengthClass)] else []

def baseOf? (bindings : Bindings) : Base → Option Defined
  | .rule => bindings.lookup "_Rule"
  | .nothing => some nothingClass
  | .named name => bindings.lookup name

def derive (base : Defined) (written : RuleClass) : Defined where
  title := written.title
  isOwnRule := base.isRule
  isRule := base.isRule
  name := written.name.or base.name
  validate := (written.behaviour.map (·.validate)).or base.validate
  breaksDown := written.breaksDown || base.breaksDown

/-- Define classes in turn; a base that is not bound breaks the file down. -/
def define (bindings : Bindings) : List RuleClass → Option Bindings
  | [] => some bindings
  | written :: rest =>
      match baseOf? bindings written.base with
      | none => none
      | some base => define (bind bindings written.title (derive base written)) rest

def addAliases (bindings : Bindings) : List (String × String) → Option Bindings
  | [] => some bindings
  | (name, target) :: rest =>
      match bindings.lookup target with
      | none => none
      | some content => addAliases (bind bindings name content) rest

/-- The names bound at the end of a file, if it gets there. -/
def bindings? (file : RuleModule) : Option Bindings :=
  if !file.wellFormed then none
  else
    match (define file.imported file.classes).bind (addAliases · file.aliases) with
    | none => none
    | some bindings => if file.breaksDown then none else some bindings

/-- The classes to construct, in the order of their names. -/
def candidates (bindings : Bindings) : List Defined :=
  ((bindings.mergeSort fun first second => first.1 ≤ second.1).map (·.2)).filter fun content =>
    content.isOwnRule && content.name.isSome

/-- The rule of a class; one that judges nothing or breaks down cannot be constructed. -/
def construct? (content : Defined) : Option CustomRule :=
  match content.name, content.validate with
  | some name, some validate =>
      if content.breaksDown then none else some ⟨content.title, ⟨name, "Custom", validate⟩⟩
  | _, _ => none

/-- Construct classes up to the first failure, which is told. -/
def constructAll : List Defined → List CustomRule × Bool
  | [] => ([], false)
  | content :: rest =>
      match construct? content with
      | none => ([], true)
      | some rule =>
          let (others, failed) := constructAll rest
          (rule :: others, failed)

/-- The rules of a file, and whether it failed. -/
def load (file : RuleModule) : List CustomRule × Bool :=
  match file.bindings? with
  | none => ([], true)
  | some bindings => constructAll (candidates bindings)

/-- A file that defines nothing. -/
def empty : RuleModule :=
  ⟨false, false, [], [], true, false⟩

end RuleModule

end CommitLint
