import CommitLint.Proofs.Hook.Calls

/-!
# The bytes that make a hook ours

Removing the hook looks for the marker in the text of the file, but what
decides is in its bytes: reading passes over bytes that are no text, and
unifies line ends, and neither makes a marker nor takes one away. So a file is
deleted exactly if the bytes of the marker stand in it in one piece.
-/

namespace CommitLint.Hook

variable {tree : FileTree} {directory path : Path} {place : Location} {content : List UInt8}
  {mode : Nat}

/-- The bytes of the marker, one for each of its characters. -/
def markerBytes : List UInt8 :=
  marker.toList.map fun c => c.toNat.toUInt8

theorem isMarked_bytes_iff : IsMarked (.bytes content) ↔ markerBytes <:+: content := by
  have written : Text.Utf8.encode marker.toList = markerBytes :=
    Text.Utf8.encode_of_basic fun c among => (marker_plain c among).1
  rw [IsMarked, written, Content.toBytes]

theorem marker_shown_iff (content : List UInt8) :
    marker.toList <:+: Text.unifyNewlines (Text.Utf8.decodeLossy content) ↔
      markerBytes <:+: content := by
  rw [Text.infix_textOf_iff marker_plain, ← isMarked_bytes_iff, IsMarked, Content.toBytes]

theorem isOurs_eq_ok_iff (whole : path.hasNull = false) (located : tree.locate path = .ok place)
    (held : tree.get? place = some (.file (.bytes content) mode)) (ours : Bool) :
    isOurs tree path = .ok ours ↔ (ours = true ↔ markerBytes <:+: content) := by
  obtain ⟨found, answered, meaning⟩ := isOurs_of_file whole located held
  rw [answered, Except.ok.injEq, ← isMarked_bytes_iff, ← meaning, Bool.eq_iff_iff]
  exact Iff.comm

/-- A hook without the marker is refused, and nothing is changed. -/
theorem uninstall_on_of_foreign (refusals : Refusals)
    (whole : (directory.child name).hasNull = false)
    (located : tree.locate (directory.child name) = .ok place)
    (held : tree.get? place = some (.file (.bytes content) mode))
    (foreign : ¬ markerBytes <:+: content) :
    (uninstall refusals directory).on tree = (.error (.hook .foreign), tree) := by
  have answered : isOurs tree (directory.child name) = .ok false :=
    (isOurs_eq_ok_iff whole located held false).mpr (iff_of_false Bool.false_ne_true foreign)
  simp [uninstall, FileTree.isThere_of_locate whole located, held, answered]

/-- A hook with the marker is deleted, unless the system refuses to. -/
theorem uninstall_on_of_marked (refusals : Refusals)
    (whole : (directory.child name).hasNull = false)
    (located : tree.locate (directory.child name) = .ok place)
    (held : tree.get? place = some (.file (.bytes content) mode))
    (marked : markerBytes <:+: content) :
    (uninstall refusals directory).on tree =
      match refusals.removing with
      | some error => (.error (.file (.system error (directory.child name).text)), tree)
      | none => (.ok true, tree.erase place) :=
  uninstall_on_of_removable
    ⟨whole, located, .bytes content, mode, held, isMarked_bytes_iff.mpr marked⟩ refusals

/--
For a file of any bytes: the text that is read from it shows the marker
exactly if the bytes of the marker stand in it, and then it is recognised as
ours. As the hook of a directory it is deleted by a removal that the system
does not refuse exactly in this case, and nothing else changes. In the other
case the removal is refused as that of a hook of others. Whoever refuses it,
nothing changes at all.
-/
theorem uninstall_iff_markerBytes (tree : FileTree) (content : List UInt8) (mode : Nat) :
    (marker.toList <:+: Text.unifyNewlines (Text.Utf8.decodeLossy content) ↔
      markerBytes <:+: content) ∧
    (∀ path place, path.hasNull = false → tree.locate path = .ok place →
      tree.get? place = some (.file (.bytes content) mode) →
      (isOurs tree path = .ok true ↔ markerBytes <:+: content) ∧
      (isOurs tree path = .ok false ↔ ¬ markerBytes <:+: content)) ∧
    ∀ (refusals : Refusals) (directory : Path) (place : Location),
      (directory.child name).hasNull = false →
      tree.locate (directory.child name) = .ok place →
      tree.get? place = some (.file (.bytes content) mode) →
      (∀ next, (uninstall refusals directory).on tree = (.ok true, next) ↔
        markerBytes <:+: content ∧ refusals.removing = none ∧ next = tree.erase place) ∧
      (∀ failure next, (uninstall refusals directory).on tree = (.error failure, next) ↔
        (¬ markerBytes <:+: content ∧ failure = .hook .foreign ∨
          markerBytes <:+: content ∧ ∃ error, refusals.removing = some error ∧
            failure = .file (.system error (directory.child name).text)) ∧ next = tree) ∧
      (tree.erase place).get? place = none ∧
      (tree.IsClosed → ∀ location, location ≠ place →
        (tree.erase place).get? location = tree.get? location) := by
  refine ⟨marker_shown_iff content, ?recognised, ?removed⟩
  case recognised =>
    intro path place whole located held
    rw [isOurs_eq_ok_iff whole located held, isOurs_eq_ok_iff whole located held]
    simp
  case removed =>
    intro refusals directory place whole located held
    have flat : tree.get? place ≠ some .directory := by simp [held]
    have below : place ≠ [] := FileTree.ne_nil_of_flat flat
    refine ⟨?_, ?_, ?_, ?_⟩
    · intro next
      by_cases marked : markerBytes <:+: content
      · rw [uninstall_on_of_marked refusals whole located held marked]
        cases refusals.removing <;> simp [marked, eq_comm]
      · rw [uninstall_on_of_foreign refusals whole located held marked]
        simp [marked]
    · intro failure next
      by_cases marked : markerBytes <:+: content
      · rw [uninstall_on_of_marked refusals whole located held marked]
        cases refusals.removing <;> simp [marked, eq_comm]
      · rw [uninstall_on_of_foreign refusals whole located held marked]
        simp [marked, eq_comm]
    · rw [FileTree.get?_erase tree place below, if_pos]
      exact List.isPrefixOf_iff_prefix.mpr (List.prefix_refl place)
    · intro closed location apart
      rw [FileTree.get?_erase_of_flat closed flat, if_neg apart]

/-- The working directory is the directory of the hooks, and the hook has these bytes. -/
def hookOf (content : List UInt8) : FileTree :=
  (FileTree.initial ["hooks"]).insert ["hooks", name] (.file (.bytes content) 0o755)

/-- A character that breaks off does not take away the marker behind it; in the middle of the marker
it keeps the file. -/
theorem uninstall_iff_markerBytes_truncated :
    (∃ next, (uninstall {} ⟨"", []⟩).on (hookOf ([0xE2, 0x82] ++ markerBytes ++ [0x0D])) =
      (.ok true, next)) ∧
    (uninstall {} ⟨"", []⟩).on (hookOf (markerBytes.take 3 ++ [0xE2, 0x82] ++ markerBytes.drop 3)) =
      (.error (.hook .foreign),
        hookOf (markerBytes.take 3 ++ [0xE2, 0x82] ++ markerBytes.drop 3)) := by
  have located (content : List UInt8) :
      (hookOf content).locate (Path.child ⟨"", []⟩ name) = .ok ["hooks", name] := rfl
  have held (content : List UInt8) : (hookOf content).get? ["hooks", name] =
      some (.file (.bytes content) 0o755) := rfl
  constructor
  · obtain ⟨-, -, removed⟩ := uninstall_iff_markerBytes
      (hookOf ([0xE2, 0x82] ++ markerBytes ++ [0x0D])) ([0xE2, 0x82] ++ markerBytes ++ [0x0D]) 0o755
    obtain ⟨deleted, -⟩ := removed {} ⟨"", []⟩ ["hooks", name] rfl (located _) (held _)
    exact ⟨_, (deleted _).mpr ⟨List.infix_append _ _ _, rfl, rfl⟩⟩
  · obtain ⟨-, -, removed⟩ := uninstall_iff_markerBytes
      (hookOf (markerBytes.take 3 ++ [0xE2, 0x82] ++ markerBytes.drop 3))
      (markerBytes.take 3 ++ [0xE2, 0x82] ++ markerBytes.drop 3) 0o755
    obtain ⟨-, refused, -⟩ := removed {} ⟨"", []⟩ ["hooks", name] rfl (located _) (held _)
    exact (refused _ _).mpr ⟨.inl ⟨by decide +kernel, rfl⟩, rfl⟩

end CommitLint.Hook
