import CommitLint.Proofs.Yaml.Tokens
import CommitLint.Yaml.Node

/-!
# Faults of the tree

The tree of a document is read from its tokens. A reader says that the form
is wrong, or that a collection contains itself, or comes to the end of the
tokens and passes on the fault behind them. So a document whose tree cannot be
read is malformed, or has no tree at all, or one of its escapes is to blame.
-/

namespace CommitLint.Yaml

namespace NodeReader

/-- A fault of reading: one of the form, a collection that contains itself, or the one that scanning
has left. -/
def Possible (scanned : Option Fault) (fault : Fault) : Prop :=
  fault = .malformed ∨ fault = .selfContaining ∨ scanned = some fault

/-- A reader leaves the fault of scanning alone, and fails with a possible one. -/
def Keeps {α : Type} (reader : NodeReader α) : Prop :=
  ∀ source, match reader source with
    | .ok found => found.2.fault = source.fault
    | .error fault => Possible source.fault fault

namespace Keeps

variable {α β : Type}

theorem pure (value : α) : Keeps (pure value) :=
  fun _ => rfl

theorem malformed : Keeps (malformed : NodeReader α) :=
  fun _ => .inl rfl

theorem selfContaining : Keeps (throw .selfContaining : NodeReader α) :=
  fun _ => .inr (.inl rfl)

theorem get : Keeps get :=
  fun _ => rfl

theorem modify {change : Source → Source} (kept : ∀ source, (change source).fault = source.fault) :
    Keeps (modify change) :=
  kept

theorem bind {reader : NodeReader α} {next : α → NodeReader β} (first : Keeps reader)
    (rest : ∀ value, Keeps (next value)) : Keeps (reader >>= next) := by
  intro source
  have start := first source
  change match (reader source >>= fun found => next found.1 found.2) with
    | .ok found => found.2.fault = source.fault
    | .error fault => Possible source.fault fault
  cases read : reader source with
  | error fault =>
      rw [read] at start
      exact start
  | ok found =>
      rw [read] at start
      have finish := rest found.1 found.2
      rw [start] at finish
      exact finish

theorem ite {condition : Prop} [Decidable condition] {first second : NodeReader α}
    (one : Keeps first) (other : Keeps second) : Keeps (if condition then first else second) := by
  split
  · exact one
  · exact other

end Keeps

theorem peek_keeps : Keeps peek := by
  rintro ⟨tokens, fault, handles, anchors⟩
  cases tokens with
  | cons token rest => rfl
  | nil =>
      cases fault with
      | none => rfl
      | some fault => exact .inr (.inr rfl)

theorem skip_keeps : Keeps skip :=
  .modify fun _ => rfl

section Parts

variable (properties : Properties)

theorem resolveTag_keeps (tag : WrittenTag) : Keeps (resolveTag tag) := by
  unfold resolveTag
  split
  · exact .pure _
  · refine .bind .get fun source => ?_
    split
    · exact .pure _
    · exact .malformed

theorem readProperties_keeps : Keeps readProperties := by
  refine .bind peek_keeps fun token => ?_
  split
  · refine .bind skip_keeps fun _ => .bind peek_keeps fun token => ?_
    split
    · exact .bind skip_keeps fun _ => .bind (resolveTag_keeps _) fun _ => .pure _
    · exact .pure _
  · refine .bind skip_keeps fun _ => .bind peek_keeps fun token => ?_
    split
    · exact .bind skip_keeps fun _ => .bind (resolveTag_keeps _) fun _ => .pure _
    · exact .bind (resolveTag_keeps _) fun _ => .pure _
  · exact .pure _

theorem bindAnchor_keeps (node : Option Node) : Keeps (bindAnchor properties node) := by
  unfold bindAnchor
  split
  · exact .pure _
  · exact .modify fun _ => rfl

theorem reserveAnchor_keeps (node : Option Node) : Keeps (reserveAnchor properties node) := by
  unfold reserveAnchor
  split
  · refine .bind .get fun source => ?_
    split
    · exact .bind .malformed fun _ => bindAnchor_keeps properties node
    · exact bindAnchor_keeps properties node
  · exact bindAnchor_keeps properties node

theorem readAlias_keeps (name : String) : Keeps (readAlias name) := by
  refine .bind .get fun source => ?_
  split
  · exact .pure _
  · exact .selfContaining
  · exact .malformed

theorem finishScalar_keeps (text : List Char) (plain : Bool) :
    Keeps (finishScalar properties text plain) :=
  .bind (reserveAnchor_keeps properties _) fun _ => .pure _

theorem finishSequence_keeps {readItems : NodeReader (List Node)} (reads : Keeps readItems) :
    Keeps (finishSequence properties readItems) :=
  .bind (reserveAnchor_keeps properties _) fun _ => .bind skip_keeps fun _ =>
    .bind reads fun _ => .bind (bindAnchor_keeps properties _) fun _ => .pure _

theorem finishMapping_keeps {readEntries : NodeReader (List (Node × Node))}
    (reads : Keeps readEntries) : Keeps (finishMapping properties readEntries) :=
  .bind (reserveAnchor_keeps properties _) fun _ => .bind skip_keeps fun _ =>
    .bind reads fun _ => .bind (bindAnchor_keeps properties _) fun _ => .pure _

/-- What is read behind a comma, which only the first item does without. -/
theorem behindComma_keeps {α : Type} (first : Bool) {isComma : Token → Bool} {next : NodeReader α}
    (reads : Keeps next) :
    Keeps (if !first then
      peek >>= fun token => if isComma token then skip >>= fun _ => next
        else malformed >>= fun (_ : PUnit) => next
      else next) :=
  .ite (.bind peek_keeps fun _ =>
    .ite (.bind skip_keeps fun _ => reads) (.bind .malformed fun _ => reads)) reads

end Parts

mutual

theorem readNode_keeps : ∀ fuel context, Keeps (readNode fuel context)
  | 0, _ => .malformed
  | fuel + 1, context => by
      rw [readNode]
      refine .bind peek_keeps fun token => ?_
      split
      · exact .bind skip_keeps fun _ => readAlias_keeps _
      · refine .bind readProperties_keeps fun properties => .bind peek_keeps fun token => ?_
        split
        · exact .bind skip_keeps fun _ => finishScalar_keeps properties _ _
        · exact finishSequence_keeps properties (readFlowItems_keeps fuel true)
        · exact finishMapping_keeps properties (readFlowEntries_keeps fuel true)
        · exact finishSequence_keeps properties (readBlockItems_keeps fuel)
        · exact finishSequence_keeps properties (readBlockItems_keeps fuel)
        · exact finishMapping_keeps properties (readBlockEntries_keeps fuel)
        · exact finishMapping_keeps properties (readBlockEntries_keeps fuel)
        · exact finishSequence_keeps properties (readUnindented_keeps fuel)
        · exact .ite .malformed (finishScalar_keeps properties [] true)

theorem readNodeUnless_keeps : ∀ fuel isGap context, Keeps (readNodeUnless fuel isGap context)
  | 0, _, _ => .malformed
  | fuel + 1, isGap, context => by
      rw [readNodeUnless]
      exact .bind peek_keeps fun token => .ite (.pure _) (readNode_keeps fuel context)

theorem readValue_keeps : ∀ fuel isGap context, Keeps (readValue fuel isGap context)
  | 0, _, _ => .malformed
  | fuel + 1, isGap, context => by
      rw [readValue]
      refine .bind peek_keeps fun token => ?_
      split
      · exact .bind skip_keeps fun _ => readNodeUnless_keeps fuel isGap context
      · exact .pure _

theorem readBlockItems_keeps : ∀ fuel, Keeps (readBlockItems fuel)
  | 0 => .malformed
  | fuel + 1 => by
      rw [readBlockItems]
      refine .bind peek_keeps fun token => ?_
      split
      · exact .bind skip_keeps fun _ => .bind (readNodeUnless_keeps fuel _ _) fun _ =>
          .bind (readBlockItems_keeps fuel) fun _ => .pure _
      · exact .bind skip_keeps fun _ => .pure _
      · exact .malformed

theorem readUnindented_keeps : ∀ fuel, Keeps (readUnindented fuel)
  | 0 => .malformed
  | fuel + 1 => by
      rw [readUnindented]
      refine .bind (readNodeUnless_keeps fuel _ _) fun item => .bind peek_keeps fun token => ?_
      split
      · exact .bind skip_keeps fun _ => .bind (readUnindented_keeps fuel) fun _ => .pure _
      · exact .pure _

theorem readBlockEntries_keeps : ∀ fuel, Keeps (readBlockEntries fuel)
  | 0 => .malformed
  | fuel + 1 => by
      rw [readBlockEntries]
      refine .bind peek_keeps fun token => ?_
      split
      · exact .bind skip_keeps fun _ => .bind (readNodeUnless_keeps fuel _ _) fun _ =>
          .bind (readValue_keeps fuel _ _) fun _ =>
            .bind (readBlockEntries_keeps fuel) fun _ => .pure _
      · exact .bind skip_keeps fun _ => .pure _
      · exact .malformed

theorem readFlowItems_keeps : ∀ fuel first, Keeps (readFlowItems fuel first)
  | 0, _ => .malformed
  | fuel + 1, first => by
      rw [readFlowItems]
      refine .bind peek_keeps fun token => .ite (.bind skip_keeps fun _ => .pure _) ?_
      refine behindComma_keeps first (.bind peek_keeps fun token => ?_)
      split
      · exact .bind skip_keeps fun _ => .bind (readNodeUnless_keeps fuel _ _) fun _ =>
          .bind (readValue_keeps fuel _ _) fun _ =>
            .bind (readFlowItems_keeps fuel false) fun _ => .pure _
      · exact .bind skip_keeps fun _ => .pure _
      · exact .bind (readNode_keeps fuel .flow) fun _ =>
          .bind (readFlowItems_keeps fuel false) fun _ => .pure _

theorem readFlowEntries_keeps : ∀ fuel first, Keeps (readFlowEntries fuel first)
  | 0, _ => .malformed
  | fuel + 1, first => by
      rw [readFlowEntries]
      refine .bind peek_keeps fun token => .ite (.bind skip_keeps fun _ => .pure _) ?_
      refine behindComma_keeps first (.bind peek_keeps fun token => ?_)
      split
      · exact .bind skip_keeps fun _ => .bind (readNodeUnless_keeps fuel _ _) fun _ =>
          .bind (readValue_keeps fuel _ _) fun _ =>
            .bind (readFlowEntries_keeps fuel false) fun _ => .pure _
      · exact .bind skip_keeps fun _ => .pure _
      · exact .bind (readNode_keeps fuel .flow) fun _ =>
          .bind (readFlowEntries_keeps fuel false) fun _ => .pure _

end

theorem readDirectives_fault {seen : Bool} {handles : List (String × String)} {tokens : List Token}
    {fault : Fault} (failed : readDirectives seen handles tokens = .error fault) :
    fault = .malformed := by
  fun_induction readDirectives seen handles tokens with
  | case1 => cases failed; rfl
  | case2 _ _ _ _ _ ih => exact ih failed
  | case3 => cases failed; rfl
  | case4 _ _ _ _ _ _ ih => exact ih failed
  | case5 _ _ _ ih => exact ih failed
  | case6 => cases failed

/-- The mark behind the directives. -/
theorem startMark_keeps : Keeps (peek >>= fun token =>
    match token with
    | .documentStart => skip
    | _ => malformed) := by
  refine .bind peek_keeps fun token => ?_
  split
  · exact skip_keeps
  · exact .malformed

theorem readStart_keeps : Keeps readStart := by
  intro source
  have opened : readStart source =
      ((readDirectives false [] source.tokens >>= fun found => pure (found, source)) >>=
        fun found => (peek >>= fun token =>
          match token with
          | .documentStart => skip
          | _ => malformed) { source with handles := found.1.1, tokens := found.1.2 }) :=
    rfl
  rw [opened]
  cases read : readDirectives false [] source.tokens with
  | error fault => exact .inl (readDirectives_fault read)
  | ok found => exact startMark_keeps { source with handles := found.1, tokens := found.2 }

theorem readEnd_keeps : Keeps readEnd := by
  refine .bind (.modify fun _ => rfl) fun _ => .bind peek_keeps fun token => ?_
  split
  · exact .pure _
  · exact .bind readStart_keeps fun _ => .malformed

theorem readStream_keeps (fuel : Nat) : Keeps (readStream fuel) := by
  refine .bind peek_keeps fun token => ?_
  split
  · exact .pure _
  · exact .bind readStart_keeps fun _ => .bind (readNodeUnless_keeps fuel _ _) fun _ =>
      .bind readEnd_keeps fun _ => .pure _
  · exact .bind readStart_keeps fun _ => .bind (readNodeUnless_keeps fuel _ _) fun _ =>
      .bind readEnd_keeps fun _ => .pure _
  · exact .bind (readNode_keeps fuel .block) fun _ => .bind readEnd_keeps fun _ => .pure _

end NodeReader

/-- A document whose tree cannot be read is malformed, or a collection contains itself, or one of
the escapes is to blame. -/
theorem Node.ofText?_fault {text : List Char} {fault : Fault}
    (failed : Node.ofText? text = .error fault) :
    fault = .malformed ∨ fault = .selfContaining ∨ HasBadEscape text fault := by
  let tokens := Tokens.ofText text
  have kept := NodeReader.readStream_keeps (4 * tokens.items.length + 4)
    ⟨tokens.items, tokens.fault, NodeReader.defaultHandles, []⟩
  unfold Node.ofText? at failed
  dsimp only at failed
  split at kept
  · rename_i found read
    rw [read] at failed
    cases failed
  · rename_i other read
    rw [read] at failed
    cases failed
    rcases kept with form | own | scanned
    · exact .inl form
    · exact .inr (.inl own)
    · exact (Tokens.ofText_fault scanned).imp_right .inr

end CommitLint.Yaml
