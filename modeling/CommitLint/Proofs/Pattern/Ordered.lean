import CommitLint.Pattern.Search
import CommitLint.Proofs.Pattern.Matching

/-!
# Patterns as they are read

A pattern is read only if its repetitions have their bounds in order: the
signs have fixed bounds, and counts in braces are compared. So every pattern
that can be read is found in a text exactly if it matches somewhere in it.
-/

namespace CommitLint.Pattern

/-- Whatever a reader gives has a property. -/
def Yields {α : Type} (reader : Reader α) (holds : α → Prop) : Prop :=
  ∀ source value later, reader source = .ok (value, later) → holds value

namespace Yields

variable {α β : Type} {holds : α → Prop} {follows : β → Prop}

theorem pure {value : α} (held : holds value) : Yields (pure value) holds := by
  rintro source _ _ ⟨⟩
  exact held

theorem throw {fault : Fault} : Yields (throw fault : Reader α) holds := by
  rintro source _ _ ⟨⟩

theorem fail : Yields (Reader.fail : Reader α) holds :=
  .throw

/-- Behind a failure nothing is read. -/
theorem failThen {next : β → Reader α} : Yields (Reader.fail >>= next) holds := by
  rintro source _ _ ⟨⟩

theorem bind {reader : Reader β} {next : β → Reader α} (first : Yields reader follows)
    (rest : ∀ value, follows value → Yields (next value) holds) :
    Yields (reader >>= next) holds := by
  intro source value later ran
  change Except.bind (reader source) (fun found => next found.1 found.2) = _ at ran
  cases read : reader source with
  | error fault =>
      rw [read] at ran
      cases ran
  | ok found =>
      rw [read] at ran
      exact rest found.1 (first source found.1 found.2 read) _ _ _ ran

/-- What is read first does not matter. -/
theorem after {reader : Reader β} {next : β → Reader α}
    (rest : ∀ value, Yields (next value) holds) : Yields (reader >>= next) holds := by
  have anything : Yields reader fun _ => True := fun _ _ _ _ => trivial
  exact .bind anything fun value _ => rest value

theorem ite {condition : Prop} [Decidable condition] {first second : Reader α}
    (one : Yields first holds) (other : Yields second holds) :
    Yields (if condition then first else second) holds := by
  split
  · exact one
  · exact other

/-- What is read first, one thing or another, does not matter. -/
theorem afterEither {condition : Prop} [Decidable condition] {one other : Reader β}
    {next : β → Reader α} (rest : ∀ value, Yields (next value) holds) :
    Yields (if condition then one >>= next else other >>= next) holds :=
  .ite (.after rest) (.after rest)

/-- A step that is done on a condition does not matter. -/
theorem afterWhen {condition : Prop} [Decidable condition] {step : Reader PUnit}
    {next : PUnit → Reader α} (rest : ∀ done, Yields (next done) holds) :
    Yields (if condition then step >>= next else next ⟨⟩) holds :=
  .ite (.after rest) (rest ⟨⟩)

end Yields

/-! ## Single parts -/

theorem readSet_yields (flags : Flags) : Yields (readSet flags) Node.Ordered :=
  .after fun _ => .after fun _ => .after fun _ => .pure trivial

theorem readBackReference_yields (flags : Flags) (index : Nat) :
    Yields (readBackReference flags index) Node.Ordered := by
  unfold readBackReference
  exact .after fun _ => .afterWhen fun _ => .after fun _ => .pure trivial

theorem readNumberEscape_yields (flags : Flags) (first : Char) :
    Yields (readNumberEscape flags first) Node.Ordered := by
  unfold readNumberEscape
  refine .ite (.after fun _ => .pure trivial) (.after fun digits => ?_)
  split
  · refine .ite (.after fun more => ?_) (readBackReference_yields _ _)
    split
    · exact .afterWhen fun _ => .pure trivial
    · exact readBackReference_yields _ _
  · exact readBackReference_yields _ _

theorem readEscape_yields (flags : Flags) (c : Char) :
    Yields (readEscape flags c) Node.Ordered := by
  unfold readEscape
  split
  · exact .pure trivial
  · exact .pure trivial
  · exact .pure trivial
  · exact .pure trivial
  · dsimp only
    split
    · exact .pure trivial
    · split
      · exact .pure trivial
      · refine .after fun code => ?_
        split
        · exact .pure trivial
        · exact .ite (readNumberEscape_yields _ _) (.ite .fail (.pure trivial))

/-- A piece has all bounds in order. -/
def Piece.Ordered (piece : Piece) : Prop :=
  piece.node.Ordered

theorem readSimple_yields (flags : Flags) (c : Char) :
    Yields (readSimple flags c) Piece.Ordered := by
  unfold readSimple
  split
  · exact .pure trivial
  · exact .pure trivial
  · exact .pure trivial
  · exact .bind (readSet_yields flags) fun _ ordered => .pure ordered
  · exact .pure trivial

/-! ## Repetitions -/

/-- Bounds are in order if they are there and have an end. -/
def BoundsOrdered (bounds : Option (Nat × Option Nat)) : Prop :=
  ∀ pair ∈ bounds, ∀ limit ∈ pair.2, pair.1 ≤ limit

theorem boundsOrdered_none : BoundsOrdered none :=
  nofun

theorem boundsOrdered_endless (least : Nat) : BoundsOrdered (some (least, none)) := by
  rintro _ ⟨⟩ limit impossible
  cases impossible

theorem boundsOrdered_some {least most : Nat} (ordered : least ≤ most) :
    BoundsOrdered (some (least, some most)) := by
  rintro _ ⟨⟩ _ ⟨⟩
  exact ordered

theorem readBounds?_yields : Yields readBounds? BoundsOrdered := by
  unfold readBounds?
  refine .after fun source => .ite (.pure boundsOrdered_none) ?_
  refine .after fun low => .after fun comma => .afterEither fun high => .after fun closed => ?_
  refine .ite (.after fun _ => .pure boundsOrdered_none) (.afterEither fun least => ?_)
  refine .ite (.pure (boundsOrdered_endless least)) (.after fun most => ?_)
  split
  · exact .failThen
  · next enough => exact .pure (boundsOrdered_some (Nat.le_of_not_lt enough))

theorem readRepetition?_yields (c : Char) : Yields (readRepetition? c) BoundsOrdered := by
  unfold readRepetition?
  split
  · exact .pure (boundsOrdered_some (Nat.zero_le 1))
  · exact .pure (boundsOrdered_endless 0)
  · exact .pure (boundsOrdered_endless 1)
  · exact readBounds?_yields
  · exact .pure boundsOrdered_none

def AllOrdered (pieces : List Piece) : Prop :=
  ∀ piece ∈ pieces, piece.Ordered

theorem AllOrdered.cons {piece : Piece} {pieces : List Piece} (first : piece.Ordered)
    (others : AllOrdered pieces) : AllOrdered (piece :: pieces) :=
  List.forall_mem_cons.mpr ⟨first, others⟩

theorem repeatLast_yields {pieces : List Piece} {least : Nat} {most : Option Nat}
    (ordered : AllOrdered pieces) (bounds : ∀ limit ∈ most, least ≤ limit) :
    Yields (repeatLast pieces least most) AllOrdered := by
  unfold repeatLast
  split
  · exact .fail
  · next last before =>
      obtain ⟨first, others⟩ := List.forall_mem_cons.mp ordered
      have repeated : ∀ greed, (Node.iterate greed least most last.node).Ordered :=
        fun greed => ⟨bounds, first⟩
      exact .afterWhen fun _ => .after fun greed => .pure (.cons (repeated greed) others)

theorem branchOf_ordered {pieces : List Piece} (ordered : AllOrdered pieces) :
    (branchOf pieces).Ordered := by
  refine List.foldlRecOn pieces _ trivial fun branch held piece member => ?_
  cases branch with
  | empty => exact ordered piece member
  | _ => exact ⟨ordered piece member, held⟩

/-! ## Groups and branches -/

/-- A group that stands for a part which is read already. -/
def Opening.Ordered : Opening → Prop
  | .reference node => node.Ordered
  | _ => True

theorem readNamed_yields (flags : Flags) : Yields (readNamed flags) Opening.Ordered := by
  unfold readNamed
  refine .after fun named => .ite (.after fun _ => .pure trivial) ?_
  refine .after fun _ => .after fun name => .after fun source => ?_
  split
  · exact .fail
  · exact .bind (readBackReference_yields flags _) fun _ ordered => .pure ordered

theorem readExtension_yields (flags : Flags) (atStart : Bool) :
    Yields (readExtension flags atStart) Opening.Ordered := by
  unfold readExtension
  refine .after fun mark => ?_
  split
  · exact readNamed_yields flags
  · exact .pure trivial
  · exact .after fun _ => .after fun _ => .pure trivial
  · exact .pure trivial
  · exact .pure trivial
  · refine .after fun next => ?_
    split
    · exact .pure trivial
    · exact .pure trivial
    · exact .fail
  · exact .after fun _ => .pure trivial
  · exact .pure trivial
  · refine .after fun setting => ?_
    split
    · exact .pure trivial
    · exact .afterWhen fun _ => .after fun _ => .pure trivial
  · exact .fail

theorem readOpening_yields (flags : Flags) (atStart : Bool) :
    Yields (readOpening flags atStart) Opening.Ordered :=
  .after fun _ => .ite (readExtension_yields flags atStart) (.pure trivial)

mutual

theorem readAlternation_yields : ∀ budget flags top first,
    Yields (readAlternation budget flags top first) Node.Ordered
  | 0, _, _, _ => .fail
  | budget + 1, flags, top, first => by
      rw [readAlternation]
      refine .bind (readBranch_yields budget _ _ nofun) fun branch before => .after fun more => ?_
      have others : ∀ flags, Yields (readAlternation budget flags top false >>= fun others =>
          pure (.either branch others)) Node.Ordered := fun flags =>
        .bind (readAlternation_yields budget flags top false) fun _ after => .pure ⟨before, after⟩
      exact .ite (.ite (.after fun _ => .after others) (.after others)) (.pure before)

theorem readBranch_yields : ∀ budget flags first {pieces : List Piece}, AllOrdered pieces →
    Yields (readBranch budget flags first pieces) Node.Ordered
  | 0, _, _, _, _ => .fail
  | budget + 1, flags, first, pieces, ordered => by
      have simple : ∀ c, Yields (readSimple flags c >>= fun piece =>
          readBranch budget flags first (piece :: pieces)) Node.Ordered := fun c =>
        .bind (readSimple_yields flags c) fun piece next =>
          readBranch_yields budget flags first (.cons next ordered)
      rw [readBranch]
      refine .after fun mark => ?_
      split
      · exact .pure (branchOf_ordered ordered)
      · exact .fail
      · refine .after fun _ => .bind (readEscape_yields flags _) fun node next => ?_
        exact readBranch_yields budget flags first (.cons next ordered)
      · next c =>
        refine .ite (.pure (branchOf_ordered ordered)) (.after fun _ => ?_)
        refine .ite (readBranch_yields budget flags first ordered) (.ite ?remark (.ite ?sign
          (.ite ?opening (simple c))))
        case remark => exact .after fun _ => .after fun _ =>
          readBranch_yields budget flags first ordered
        case sign =>
          refine .bind (readRepetition?_yields c) fun bounds inOrder => ?_
          split
          · exact simple c
          · exact .bind (repeatLast_yields ordered (inOrder _ rfl)) fun pieces repeated =>
              readBranch_yields budget flags first repeated
        case opening =>
          refine .bind (readOpening_yields flags _) fun opening known => ?_
          split
          · have rest := fun flags => readBranch_yields budget flags first ordered
            exact .ite (.after fun _ => .after rest) (.after rest)
          · exact readBranch_yields budget flags first (.cons known ordered)
          · exact .bind (readGroup_yields budget flags known) fun node next =>
              readBranch_yields budget flags first (.cons next ordered)

theorem readGroup_yields : ∀ budget flags {opening : Opening}, opening.Ordered →
    Yields (readGroup budget flags opening) Node.Ordered
  | 0, _, _, _ => .fail
  | budget + 1, flags, opening, known => by
      have body := readAlternation_yields budget
      rw [readGroup.eq_def]
      dsimp only
      split
      · exact .after fun index => .bind (body _ _ _) fun node ordered => .after fun _ =>
          .after fun _ => .pure ordered
      · exact .bind (body _ _ _) fun node ordered => .after fun _ => .pure ordered
      · exact .bind (body _ _ _) fun node ordered => .after fun _ => .pure ordered
      · exact .bind (body _ _ _) fun node ordered => .after fun _ => .pure ordered
      · refine .after fun source => .afterWhen fun _ => ?_
        exact .bind (body _ _ _) fun node ordered => .after fun _ => .after fun _ => .after fun _ =>
          .pure ordered
      · refine .after fun _ => .bind (readBranch_yields budget _ _ nofun) fun present before => ?_
        have rest : ∀ index (absent : Node), absent.Ordered → Yields (Reader.expect ')' >>= fun _ =>
            pure (Node.whether index present absent)) Node.Ordered := fun index absent after =>
          .after fun _ => .pure ⟨before, after⟩
        refine .after fun more => .ite ?_ (rest _ .empty trivial)
        refine .bind (readBranch_yields budget _ _ nofun) fun absent after => .after fun next => ?_
        exact .afterWhen fun _ => rest _ absent after
      · exact .pure known
      · exact .pure trivial

end

/-- Whatever is read as a pattern has all its bounds in order. -/
theorem read_ordered [CharacterNames] {text : List Char} {node : Node}
    (done : read text = .ok node) :
    node.Ordered := by
  have whole : Yields (readWhole (3 * (marks text).length + 3)) Node.Ordered := by
    unfold readWhole
    refine .after fun mark => .afterWhen fun _ => ?_
    refine .bind (readAlternation_yields _ _ _ _) fun node ordered => .after fun source => ?_
    exact .afterWhen fun _ => .afterWhen fun _ => .afterWhen fun _ => .afterWhen fun _ =>
      .afterWhen fun _ => .pure ordered
  rw [read] at done
  cases ran : readWhole (3 * (marks text).length + 3)
      ⟨marks text, #[none], [], none, [], {}, CharacterNames.named?⟩ with
  | error fault =>
      rw [StateT.run', ran] at done
      cases done
  | ok found =>
      rw [StateT.run', ran] at done
      cases done
      exact whole _ _ _ ran

/-- A pattern is found in a text exactly if it can be read and matches from some place. -/
theorem search_eq_true_iff [CharacterNames] {pattern text : List Char} :
    search pattern text = .ok true ↔
      ∃ node, read pattern = .ok node ∧
        ∃ start next, start ≤ text.length ∧ node.Matches text.toArray ⟨start, []⟩ next := by
  rw [search]
  cases done : read pattern with
  | error fault => simp [Except.map]
  | ok node => simp [Except.map, Node.found_eq_true_iff node (read_ordered done)]

end CommitLint.Pattern
