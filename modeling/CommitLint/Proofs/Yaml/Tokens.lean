import CommitLint.Proofs.Yaml.Scanning

/-!
# Faults of the scanner

Every token is taken at an end of the document, and fetching one leaves an
end of it. So the fault behind the tokens of a document is one of the form,
or an escape of the document is to blame.
-/

namespace CommitLint.Yaml

namespace Scanner

def ahead (s : Scanner) : List Char :=
  s.cursor.rest

theorem dropStale_scans (s : Scanner) : Scans ahead s.ahead s.dropStale :=
  .refuse (List.suffix_refl s.ahead)

theorem dropKey_scans (s : Scanner) : Scans ahead s.ahead s.dropKey := by
  unfold dropKey
  split
  · exact .refuse (List.suffix_refl s.ahead)
  · exact List.suffix_refl s.ahead

theorem saveKey_scans (s : Scanner) : Scans ahead s.ahead s.saveKey :=
  .ite (s.dropKey_scans.map fun s => List.suffix_refl s.ahead) (List.suffix_refl s.ahead)

@[simp] theorem closeBlocks_ahead (s : Scanner) (column : Option Nat) :
    (s.closeBlocks column).ahead = s.ahead := by
  have closed : ∀ (columns : List Nat) (t : Scanner),
      (columns.foldl (fun t _ => t.emit .blockEnd) t).ahead = t.ahead := by
    intro columns
    induction columns with
    | nil => exact fun _ => rfl
    | cons column rest ih => exact fun t => ih (t.emit .blockEnd)
  unfold closeBlocks
  split
  · rfl
  · exact closed _ _

@[simp] theorem openBlock_ahead (s : Scanner) (token : Token) :
    (s.openBlock token).ahead = s.ahead := by
  unfold openBlock
  split
  · rfl
  · rfl

theorem passGap_suffix (commented crossed : Bool) (place : Place) (text : List Char) :
    (passGap commented crossed place text).2.rest <:+ text := by
  fun_induction passGap commented crossed place text with
  | case1 => exact List.suffix_refl _
  | case2 _ _ _ c rest _ ih => exact ih.trans (List.suffix_cons c rest)
  | case3 _ _ _ c rest _ _ ih => exact ih.trans (List.suffix_cons c rest)
  | case4 _ _ _ c rest _ _ _ ih => exact ih.trans (List.suffix_cons c rest)
  | case5 => exact List.suffix_refl _

theorem skipGap_suffix (s : Scanner) : s.skipGap.ahead <:+ s.ahead := by
  unfold skipGap
  dsimp only
  refine (passGap_suffix ..).trans ?_
  split
  · split
    · exact s.cursor.next_suffix
    · exact List.suffix_refl _
  · exact List.suffix_refl _

section Fetching

variable (s : Scanner)

/-- At the end of all blocks. -/
theorem closeAll_scans : Scans ahead s.ahead (s.closeBlocks none).dropKey := by
  simpa using (s.closeBlocks none).dropKey_scans

theorem fetchEnd_scans : Scans ahead s.ahead s.fetchEnd :=
  .bind s.closeAll_scans fun s => List.suffix_refl s.ahead

theorem fetchDirective_scans : Scans ahead s.ahead s.fetchDirective := by
  refine .bind s.closeAll_scans fun s => ?_
  exact .bind (Directive.read_scans s.cursor) fun found => List.suffix_refl found.2.rest

theorem fetchMarker_scans (token : Token) : Scans ahead s.ahead (s.fetchMarker token) := by
  refine .bind s.closeAll_scans fun s => ?_
  exact ((Cursor.next_suffix _).trans (Cursor.next_suffix _)).trans s.cursor.next_suffix

theorem fetchOpening_scans (token : Token) : Scans ahead s.ahead (s.fetchOpening token) :=
  .bind s.saveKey_scans fun s => s.cursor.next_suffix

theorem fetchClosing_scans (token : Token) : Scans ahead s.ahead (s.fetchClosing token) :=
  .bind s.dropKey_scans fun s => s.cursor.next_suffix

theorem fetchFlowEntry_scans : Scans ahead s.ahead s.fetchFlowEntry :=
  .bind s.dropKey_scans fun s => s.cursor.next_suffix

theorem openEntry_scans (token : Token) (allowed : Bool) :
    Scans ahead s.ahead ((s.openBlock token).allowKey allowed).dropKey := by
  rw [← s.openBlock_ahead token]
  exact ((s.openBlock token).allowKey allowed).dropKey_scans

theorem fetchBlockEntry_scans : Scans ahead s.ahead s.fetchBlockEntry :=
  .refuse (.bind (s.openEntry_scans _ _) fun s => s.cursor.next_suffix)

theorem fetchKey_scans : Scans ahead s.ahead s.fetchKey :=
  .refuse (.bind (s.openEntry_scans _ _) fun s => s.cursor.next_suffix)

theorem fetchValue_scans : Scans ahead s.ahead s.fetchValue := by
  unfold fetchValue
  split
  · dsimp only
    split
    · exact s.cursor.next_suffix
    · exact s.cursor.next_suffix
  · refine .refuse ?_
    rw [← s.openBlock_ahead .blockMapping]
    exact (s.openBlock .blockMapping).cursor.next_suffix

theorem fetchAlias_scans : Scans ahead s.ahead s.fetchAlias := by
  refine .bind s.saveKey_scans fun s => ?_
  exact .bind (readAnchor_scans s.cursor) fun found => List.suffix_refl found.2.rest

theorem fetchAnchor_scans : Scans ahead s.ahead s.fetchAnchor := by
  refine .bind s.saveKey_scans fun s => ?_
  exact .bind (readAnchor_scans s.cursor) fun found => List.suffix_refl found.2.rest

theorem fetchTag_scans : Scans ahead s.ahead s.fetchTag := by
  refine .bind s.saveKey_scans fun s => ?_
  exact .bind (WrittenTag.read_scans s.cursor) fun found => List.suffix_refl found.2.rest

theorem fetchBlockScalar_scans (folded : Bool) :
    Scans ahead s.ahead (s.fetchBlockScalar folded) := by
  refine .bind (s.allowKey true).dropKey_scans fun s => ?_
  refine .bind ((readBlockScalar_scans folded s.least s.cursor.next).longer
    s.cursor.next_suffix) fun scanned => ?_
  exact List.suffix_refl scanned.behind

theorem fetchQuoted_scans {read : Place → Gap → List Char → Except Fault Scanned}
    (reads : ∀ place gap text, Scans Scanned.behind text (read place gap text)) :
    Scans ahead s.ahead (s.fetchQuoted read) := by
  refine .bind s.saveKey_scans fun s => ?_
  refine .bind ((reads s.cursor.next.place .empty s.cursor.next.rest).longer
    s.cursor.next_suffix) fun scanned => ?_
  exact List.suffix_refl scanned.behind

theorem fetchPlain_scans : Scans ahead s.ahead s.fetchPlain :=
  .bind s.saveKey_scans fun _ => readPlain_suffix ..

/-- Whatever a token begins with, it is taken off the front. -/
theorem fetchAt_scans (c : Char) (rest : List Char) : Scans ahead s.ahead (s.fetchAt c rest) := by
  unfold fetchAt
  refine .ite s.fetchDirective_scans <| .ite (s.fetchMarker_scans _) <|
    .ite (s.fetchMarker_scans _) ?_
  refine .ite (s.fetchOpening_scans _) <| .ite (s.fetchOpening_scans _) <|
    .ite (s.fetchClosing_scans _) <| .ite (s.fetchClosing_scans _) ?_
  refine .ite s.fetchFlowEntry_scans <| .ite s.fetchBlockEntry_scans <|
    .ite s.fetchKey_scans <| .ite s.fetchValue_scans ?_
  refine .ite s.fetchAlias_scans <| .ite s.fetchAnchor_scans <| .ite s.fetchTag_scans ?_
  refine .ite (s.fetchBlockScalar_scans _) <| .ite (s.fetchBlockScalar_scans _) ?_
  exact .ite (s.fetchQuoted_scans readSingle_scans) <|
    .ite (s.fetchQuoted_scans readDouble_scans) <| .require s.fetchPlain_scans

theorem fetch_scans : Scans ahead s.ahead s.fetch := by
  refine .bind (s.skipGap.dropStale_scans.longer s.skipGap_suffix) fun s => ?_
  rw [← s.closeBlocks_ahead (some s.column)]
  dsimp only
  split
  · exact .bind (fetchEnd_scans _) dropStale_scans
  · exact .bind (fetchAt_scans _ _ _) dropStale_scans

end Fetching

/-- A run stops at a fault of the form, or at an escape in what was left to read. -/
theorem run_fault {fuel : Nat} {s : Scanner} {fault : Fault}
    (failed : (run fuel s).fault = some fault) :
    fault = .malformed ∨ HasBadEscape s.ahead fault := by
  induction fuel generalizing s with
  | zero => cases failed
  | succ fuel ih =>
      have scans := s.fetch_scans
      rw [run] at failed
      split at failed
      · cases failed
      · split at failed
        · rename_i next fetched
          rw [fetched] at scans
          exact (ih failed).imp_right (.mono scans)
        · rename_i other fetched
          rw [fetched] at scans
          cases failed
          exact scans

end Scanner

/-- Behind the tokens of a document stands a fault of the form or an escape of the document. -/
theorem Tokens.ofText_fault {text : List Char} {fault : Fault}
    (failed : (Tokens.ofText text).fault = some fault) :
    fault = .malformed ∨ HasBadEscape text fault :=
  Scanner.run_fault failed

end CommitLint.Yaml
