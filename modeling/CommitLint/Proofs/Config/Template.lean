import CommitLint.Config.Template
import CommitLint.Proofs.Config.Loading
import CommitLint.Proofs.Lint.Notations
import CommitLint.Proofs.Text.Written
import CommitLint.Proofs.Value.Equality
import Mathlib.Control.Monad.Basic

/-!
# What the starter file says

The starter file says in words, in a pair and in a map what the default says
in numbers. A project that is given the file loads a configuration that lints
every message as the default does.
-/

namespace CommitLint

namespace Config

/-! ## The document -/

def starterRules : Entries :=
  [(.text "conventional-commits", .text "error"),
    (.text "header-max-length", .list [.text "error", limit 72]),
    (.text "body-max-line-length",
      .map [(.text "severity", .text "error"), (.text "maxLength", .int 100)]),
    (.text "body-leading-blank", .text "error"),
    (.text "no-trailing-whitespace", .text "warning")]

def starterEntries : Entries :=
  [(.text "verbose", .bool true), (.text "rules", .map starterRules), (.text "ignores", .list [])]

/-- The default with the starter file laid over it. -/
def starter : Config :=
  { default with rules := starterRules }

/-- The bytes of the starter file are read as its text. -/
theorem textOf_template :
    FileTree.textOf (Text.Utf8.encode template.toList) = .ok templateText := by
  have plain : '\r' ∉ templateText := by
    simp only [templateText, templateLines, List.flatMap_cons, List.flatMap_nil,
      String.toList_append, String.reduceToList]
    decide +kernel
  rw [toList_template]
  exact FileTree.textOf_encode plain

theorem read_template : Yaml.read templateText = .ok (.map starterEntries) := by
  simp only [templateText, templateLines, List.flatMap_cons, List.flatMap_nil, String.toList_append,
    String.reduceToList]
  decide +kernel

theorem overlay_starterEntries : overlay (.map starterEntries) default = .ok ⟨starter, []⟩ := by
  rfl

/-- Words for numbers, a list for a tuple and a map for a tuple set the rules alike. -/
theorem default_saysTheSame_starter : default.SaysTheSame starter := by
  refine ⟨rfl, ?_, rfl⟩
  refine .cons ⟨rfl, ⟨.error, ?_, ?_⟩, ?_⟩ (.cons ⟨rfl, ⟨.error, ?_, ?_⟩, ?_⟩
    (.cons ⟨rfl, ⟨.error, ?_, ?_⟩, ?_⟩ (.cons ⟨rfl, ⟨.error, ?_, ?_⟩, ?_⟩
      (.cons ⟨rfl, ⟨.warning, ?_, ?_⟩, ?_⟩ .nil)))) <;>
    decide +kernel

/-! ## Loading it -/

theorem load_starter {tree : FileTree} {project path : Path} {file : Option String}
    (reads : Reads tree project file path templateText) :
    load tree project file = ⟨.ok starter, [.loadingConfig path.text]⟩ :=
  load_of_laid reads read_template overlay_starterEntries

end Config

/-- With the starter file a project lints like any one by default. -/
theorem Project.lintWith_starter [CharacterNames] (tree other : FileTree) (project : Path)
    (message : String) (asked : Option Bool) :
    lintWith other project Config.starter message asked =
      lintWith tree project Config.default message asked := by
  have same := lint_eq_of_saysTheSame Config.default_saysTheSame_starter Rule.builtin message asked
  have plain : Project.rules other project Config.starter = .quiet (.ok Rule.builtin) := rfl
  have plain' : Project.rules tree project Config.default = .quiet (.ok Rule.builtin) := rfl
  rw [lintWith, lintWith, plain, plain']
  simp only [andThen, Logged.quiet_bind, same]

end CommitLint
