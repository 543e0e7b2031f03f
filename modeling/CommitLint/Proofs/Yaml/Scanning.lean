import CommitLint.Yaml.Token
import Mathlib.Data.List.TakeDrop

/-!
# Faults of scanning

Scanning goes through a document from front to end: what is left to read is
always an end of the document. It stops at a fault of the form, or at an
escape with a code that is no character, and then that escape stands in the
document.
-/

namespace CommitLint.Yaml

/-- An escape in a text gives a code that is no character, and this is the fault of it. -/
def HasBadEscape (text : List Char) (fault : Fault) : Prop :=
  ∃ mark width digits code, codeEscapes.lookup mark = some width ∧
    '\\' :: mark :: digits <:+ text ∧ Text.hexNumber? width digits = some code ∧
    charOfCode code = .error fault

theorem HasBadEscape.mono {shorter text : List Char} {fault : Fault} (within : shorter <:+ text)
    (escaped : HasBadEscape shorter fault) : HasBadEscape text fault := by
  obtain ⟨mark, width, digits, code, known, stands, written, refused⟩ := escaped
  exact ⟨mark, width, digits, code, known, stands.trans within, written, refused⟩

/-- A step of scanning: it goes on at an end of the text, or its fault is one of the form or that
of an escape in the text. -/
def Scans {α : Type} (ahead : α → List Char) (text : List Char) : Except Fault α → Prop
  | .ok value => ahead value <:+ text
  | .error fault => fault = .malformed ∨ HasBadEscape text fault

namespace Scans

variable {α β : Type} {ahead : α → List Char} {next : β → List Char} {text : List Char}

theorem malformed : Scans ahead text (.error .malformed) :=
  .inl rfl

theorem longer {shorter : List Char} {result : Except Fault α} (scans : Scans ahead shorter result)
    (within : shorter <:+ text) : Scans ahead text result := by
  cases result with
  | ok value => exact List.IsSuffix.trans scans within
  | error fault =>
      rcases scans with form | escaped
      · exact .inl form
      · exact .inr (escaped.mono within)

theorem bind {result : Except Fault α} {go : α → Except Fault β} (first : Scans ahead text result)
    (rest : ∀ value, Scans next (ahead value) (go value)) : Scans next text (result >>= go) := by
  cases result with
  | ok value => exact (rest value).longer first
  | error fault => exact first

theorem map {result : Except Fault α} {change : α → β} (first : Scans ahead text result)
    (kept : ∀ value, next (change value) <:+ ahead value) :
    Scans next text (result.map change) := by
  cases result with
  | ok value => exact (kept value).trans first
  | error fault => exact first

theorem ite {condition : Prop} [Decidable condition] {first second : Except Fault α}
    (one : Scans ahead text first) (other : Scans ahead text second) :
    Scans ahead text (if condition then first else second) := by
  split
  · exact one
  · exact other

/-- A condition on the form. -/
theorem refuse {condition : Prop} [Decidable condition] {result : Except Fault α}
    (scans : Scans ahead text result) :
    Scans ahead text (if condition then .error .malformed else result) :=
  .ite .malformed scans

theorem require {condition : Prop} [Decidable condition] {result : Except Fault α}
    (scans : Scans ahead text result) :
    Scans ahead text (if condition then result else .error .malformed) :=
  .ite scans .malformed

end Scans

namespace Cursor

theorem next_suffix (cursor : Cursor) : cursor.next.rest <:+ cursor.rest := by
  unfold next
  split
  · exact List.suffix_refl _
  · rename_i c rest ahead
    rw [ahead]
    exact List.suffix_cons c rest

theorem take_suffix (cursor : Cursor) (p : Char → Bool) :
    (cursor.take p).2.rest <:+ cursor.rest := by
  rw [take, List.span_eq_takeWhile_dropWhile]
  exact List.dropWhile_suffix p

theorem skip_suffix (cursor : Cursor) (p : Char → Bool) : (cursor.skip p).rest <:+ cursor.rest :=
  cursor.take_suffix p

theorem skipBlanks_suffix (cursor : Cursor) : cursor.skipBlanks.rest <:+ cursor.rest :=
  cursor.skip_suffix _

theorem finishLine_scans (cursor : Cursor) : Scans (·.rest) cursor.rest cursor.finishLine := by
  unfold finishLine
  dsimp only
  split
  · exact .require
      (((next_suffix _).trans (skip_suffix _ _)).trans cursor.skipBlanks_suffix)
  · exact .require ((next_suffix _).trans cursor.skipBlanks_suffix)

end Cursor

/-- What is left behind a part that was read. -/
def leftBehind {α : Type} (found : α × Cursor) : List Char :=
  found.2.rest

theorem readAnchor_scans (cursor : Cursor) : Scans leftBehind cursor.rest (readAnchor cursor) :=
  .refuse ((Cursor.take_suffix _ _).trans cursor.next_suffix)

namespace Address

variable {text : List Char}

theorem decodeBytes_scans (reversed : List UInt8) :
    Scans (fun _ => text) text (decodeBytes reversed) := by
  unfold decodeBytes
  cases Text.Utf8.decode reversed.reverse with
  | ok decoded => exact List.suffix_refl text
  | error fault => exact .malformed

/-- An address is resolved where it was read; it holds no escape of a quoted scalar. -/
theorem resolve_scans (reversed : List UInt8) (written : List Char) :
    Scans (fun _ => text) text (resolve reversed written) := by
  fun_induction resolve reversed written with
  | case1 reversed => exact decodeBytes_scans reversed
  | case2 reversed high low rest code _ ih => exact ih
  | case3 reversed high low rest _ => exact .malformed
  | case4 reversed c rest _ percent => exact .malformed
  | case5 reversed c rest _ other _ ih =>
      have front : Scans (fun _ => text) text (decodeBytes reversed) := decodeBytes_scans reversed
      exact front.bind fun _ => ih.bind fun _ => List.suffix_refl text

theorem read_scans (cursor : Cursor) : Scans leftBehind cursor.rest (read cursor) :=
  .refuse (.bind (resolve_scans [] _) fun _ => cursor.take_suffix isSign)

end Address

namespace WrittenTag

theorem readHandle_scans (cursor : Cursor) : Scans leftBehind cursor.rest (readHandle cursor) := by
  unfold readHandle
  dsimp only
  split
  · exact cursor.next_suffix
  · exact ((Cursor.next_suffix _).trans (Cursor.take_suffix _ _)).trans cursor.next_suffix
  · exact .malformed

theorem readWritten_scans (cursor : Cursor) :
    Scans leftBehind cursor.rest (readWritten cursor) := by
  have addressed : ∀ found : String × Cursor, Scans leftBehind (leftBehind found)
      (do
        let address ← Address.read found.2
        return ((⟨some found.1, address.1⟩ : WrittenTag), address.2)) :=
    fun found => .bind (Address.read_scans found.2) fun _ => List.suffix_refl _
  unfold readWritten
  dsimp only
  split
  · refine .bind ((Address.read_scans _).longer
      ((Cursor.next_suffix _).trans cursor.next_suffix)) fun found => ?_
    obtain ⟨address, behind⟩ := found
    dsimp only
    split
    · exact behind.next_suffix
    · exact .malformed
  · split
    · exact cursor.next_suffix
    · split
      · exact .bind (readHandle_scans cursor) addressed
      · exact (addressed ("!", cursor.next)).longer cursor.next_suffix

theorem read_scans (cursor : Cursor) : Scans leftBehind cursor.rest (read cursor) := by
  unfold read
  refine .bind (readWritten_scans cursor) fun found => ?_
  obtain ⟨tag, behind⟩ := found
  dsimp only
  split
  · exact List.suffix_refl _
  · exact .malformed

end WrittenTag

namespace Directive

theorem readNumber_scans (cursor : Cursor) : Scans leftBehind cursor.rest (readNumber cursor) :=
  .refuse (cursor.take_suffix _)

theorem readVersion_scans (cursor : Cursor) :
    Scans leftBehind cursor.rest (readVersion cursor) := by
  unfold readVersion
  refine .bind ((readNumber_scans _).longer cursor.skipBlanks_suffix) fun found => ?_
  obtain ⟨major, behind⟩ := found
  dsimp only
  split
  · exact .bind ((readNumber_scans _).longer behind.next_suffix) fun found =>
      .require (List.suffix_refl found.2.rest)
  · exact .malformed

theorem readDeclaration_scans (cursor : Cursor) :
    Scans leftBehind cursor.rest (readDeclaration cursor) := by
  unfold readDeclaration
  refine .bind ((WrittenTag.readHandle_scans _).longer cursor.skipBlanks_suffix) fun found => ?_
  obtain ⟨name, behind⟩ := found
  dsimp only
  split
  · exact .bind ((Address.read_scans _).longer behind.skipBlanks_suffix) fun found =>
      .require (List.suffix_refl found.2.rest)
  · exact .malformed

theorem read_scans (cursor : Cursor) : Scans leftBehind cursor.rest (read cursor) := by
  have finished : ∀ found : Directive × Cursor, Scans leftBehind (leftBehind found)
      (do return (found.1, ← found.2.finishLine)) :=
    fun found => .bind found.2.finishLine_scans fun _ => List.suffix_refl _
  have named : (cursor.next.take isNameSign).2.rest <:+ cursor.rest :=
    (Cursor.take_suffix _ _).trans cursor.next_suffix
  unfold read
  dsimp only
  split
  · exact .malformed
  · split
    · exact .bind ((readVersion_scans _).longer named) finished
    · exact .bind ((readDeclaration_scans _).longer named) finished
    · exact (finished (.unknown, _)).longer ((Cursor.skip_suffix _ _).trans named)

end Directive

/-- What is left behind a scalar. -/
def Scanned.behind (scanned : Scanned) : List Char :=
  scanned.cursor.rest

/-- Text put before a scalar leaves what is behind it. -/
theorem Scans.before {text : List Char} {result : Except Fault Scanned}
    (scans : Scans Scanned.behind text result) (front : List Char) :
    Scans Scanned.behind text (result.map (.before front)) :=
  scans.map fun scanned => List.suffix_refl scanned.behind

/-- An escape that cannot be read is no escape, or it stands in the text with its backslash. -/
theorem readEscape_fault {text : List Char} {fault : Fault}
    (failed : readEscape text = .error fault) :
    fault = .malformed ∨ HasBadEscape ('\\' :: text) fault := by
  unfold readEscape at failed
  split at failed
  · cases failed
    exact .inl rfl
  · rename_i mark digits
    split at failed
    · cases failed
    · rename_i width _ known
      split at failed
      · rename_i code written
        cases meant : charOfCode code with
        | ok c =>
            rw [meant] at failed
            cases failed
        | error other =>
            rw [meant] at failed
            cases failed
            exact .inr ⟨mark, width, digits, code, known, List.suffix_refl _, written, meant⟩
      · cases failed
        exact .inl rfl
    · cases failed
      exact .inl rfl

theorem readSingle_scans (place : Place) (gap : Gap) (text : List Char) :
    Scans Scanned.behind text (readSingle place gap text) := by
  fun_induction readSingle place gap text with
  | case1 => exact .malformed
  | case2 _ _ rest ih =>
      exact (ih.before _).longer
        ((List.suffix_cons _ _).trans (List.suffix_cons _ _))
  | case3 => exact List.suffix_cons _ _
  | case4 _ _ c rest _ _ _ ih => exact ih.longer (List.suffix_cons c rest)
  | case5 => exact .malformed
  | case6 _ _ c rest _ _ _ _ _ ih => exact ih.longer (List.suffix_cons c rest)
  | case7 _ _ c rest _ _ _ _ ih =>
      exact (ih.before _).longer (List.suffix_cons c rest)

theorem readDouble_scans (place : Place) (gap : Gap) (text : List Char) :
    Scans Scanned.behind text (readDouble place gap text) := by
  fun_induction readDouble place gap text with
  | case1 => exact .malformed
  | case2 => exact List.suffix_cons _ _
  | case3 => exact .malformed
  | case4 _ _ c rest _ _ ih =>
      exact (ih.before _).longer
        ((List.suffix_cons c rest).trans (List.suffix_cons '\\' _))
  | case5 _ _ c rest _ fault failed => exact readEscape_fault failed
  | case6 _ _ c rest _ meant width _ ih =>
      exact (ih.before _).longer
        (((List.drop_suffix _ rest).trans (List.suffix_cons c rest)).trans
          (List.suffix_cons '\\' _))
  | case7 => exact .malformed
  | case8 _ _ c rest _ _ _ _ ih => exact ih.longer (List.suffix_cons c rest)
  | case9 => exact .malformed
  | case10 _ _ c rest _ _ _ _ _ _ ih => exact ih.longer (List.suffix_cons c rest)
  | case11 _ _ c rest _ _ _ _ _ ih =>
      exact (ih.before _).longer (List.suffix_cons c rest)

theorem BlockHeader.read_scans (cursor : Cursor) :
    Scans leftBehind cursor.rest (BlockHeader.read cursor) := by
  unfold BlockHeader.read
  refine .refuse (.refuse ?_)
  refine .bind ((Cursor.finishLine_scans _).longer (List.drop_suffix _ cursor.rest))
    fun behind => ?_
  exact List.suffix_refl behind.rest

theorem readLeading_suffix (breaks : List Char) (widest : Nat) (place : Place) (text : List Char) :
    (readLeading breaks widest place text).cursor.rest <:+ text := by
  fun_induction readLeading breaks widest place text with
  | case1 => exact List.suffix_refl _
  | case2 _ _ _ c rest _ ih => exact ih.trans (List.suffix_cons c rest)
  | case3 _ _ _ c rest _ _ ih => exact ih.trans (List.suffix_cons c rest)
  | case4 => exact List.suffix_refl _

theorem readBlock_suffix (folded : Bool) (chomping : Chomping) (indent : Nat) (state : BlockState)
    (place : Place) (text : List Char) :
    (readBlock folded chomping indent state place text).cursor.rest <:+ text := by
  fun_induction readBlock folded chomping indent state place text with
  | case1 => exact List.suffix_refl _
  | case2 => exact List.suffix_refl _
  | case3 _ c rest _ _ ih => exact ih.trans (List.suffix_cons c rest)
  | case4 _ c rest _ _ ih => exact ih.trans (List.suffix_cons c rest)
  | case5 _ c rest _ _ ih => exact ih.trans (List.suffix_cons c rest)
  | case6 _ c rest _ _ _ ih => exact ih.trans (List.suffix_cons c rest)
  | case7 _ c rest _ _ _ _ ih => exact ih.trans (List.suffix_cons c rest)
  | case8 => exact List.suffix_refl _

theorem readBlockScalar_scans (folded : Bool) (least : Nat) (cursor : Cursor) :
    Scans Scanned.behind cursor.rest (readBlockScalar folded least cursor) := by
  unfold readBlockScalar
  refine .bind (BlockHeader.read_scans cursor) fun found => ?_
  obtain ⟨header, start⟩ := found
  dsimp only
  split
  · exact readBlock_suffix ..
  · exact (readBlock_suffix ..).trans (readLeading_suffix ..)

theorem readPlain_suffix (inFlow : Bool) (indent : Nat) (gap : Gap) (place : Place)
    (text : List Char) : (readPlain inFlow indent gap place text).cursor.rest <:+ text := by
  fun_induction readPlain inFlow indent gap place text with
  | case1 => exact List.suffix_refl _
  | case2 _ _ c rest _ ih => exact ih.trans (List.suffix_cons c rest)
  | case3 _ _ c rest => exact List.suffix_cons c rest
  | case4 _ _ c rest _ _ _ _ ih => exact ih.trans (List.suffix_cons c rest)
  | case5 => exact List.suffix_refl _
  | case6 _ _ c rest _ _ _ ih => exact ih.trans (List.suffix_cons c rest)

end CommitLint.Yaml
