import CommitLint.Proofs.CommandLine.Linting
import CommitLint.Proofs.Json.Writing

/-!
# Documents for other programs

The documents of diagnostics and of parsed messages denote what was found,
and nothing else. Since no code for a terminal can stand in one, a command
says it as it is, on lines of its own.
-/

namespace CommitLint

/-- A text that denotes one document, lays it out over lines, and is shown as it is. -/
structure Json.IsTextOf (document : Json) (text : String) : Prop where
  denotes (other : Json) : Json.Denotes text other ↔ other = document
  laid : ∀ c ∈ text.toList, c = '\n' ∨ 0x20 ≤ c.toNat
  shown : Terminal.shown text = text

namespace Json

theorem isTextOf_render (ascii : Bool) (document : Json) :
    document.IsTextOf (document.render ascii) where
  denotes := denotes_render_iff ascii document
  laid := fun c among => (allWritten_render ascii document c among).imp id And.left
  shown := Terminal.shown_of_no_code (not_mem_render ascii document)

/-- A text that is absent is not taken for an empty one. -/
theorem ofOption_inj {first second : Option String} :
    ofOption first = ofOption second ↔ first = second := by
  cases first <;> cases second <;> simp [ofOption]

theorem map_text_inj {first second : List String} :
    first.map text = second.map text ↔ first = second :=
  List.map_inj_right fun _ _ => Json.text.inj

end Json

theorem Reference.toJson_inj {first second : Reference} :
    first.toJson = second.toJson ↔ first = second := by
  obtain ⟨action, owner, repository, issue, raw⟩ := first
  obtain ⟨action', owner', repository', issue', raw'⟩ := second
  have spelled (text text' : Option (List Char)) :
      text.map String.ofList = text'.map String.ofList ↔ text = text' :=
    Option.map_inj_right fun _ _ => String.ofList_injective
  simp [toJson, Json.ofOption_inj, spelled, String.ofList_inj]

theorem Parsed.toJson_inj {first second : Parsed} :
    first.toJson = second.toJson ↔ first = second := by
  have references : first.references.map (·.toJson) = second.references.map (·.toJson) ↔
      first.references = second.references :=
    List.map_inj_right fun _ _ => Reference.toJson_inj.mp
  cases first
  cases second
  simp_all [toJson, Json.ofOption_inj, Json.map_text_inj]

namespace Program

/--
The documents denote what was found and what was read: whoever decodes one
comes to exactly the given fields, with their texts in the same order, and a
field that is absent is told from one that is empty. The document of
diagnostics keeps to the basic alphabet. The commands say their documents
unchanged, on lines of their own.
-/
theorem run_says_documents [CharacterNames] :
    (∀ diagnostics : Diagnostics,
      Json.IsTextOf
        (.object [("valid", .bool (decide (diagnostics.errors = []))),
          ("errors", .array (diagnostics.errors.map .text)),
          ("warnings", .array (diagnostics.warnings.map .text))]) diagnostics.json ∧
      ∀ c ∈ diagnostics.json.toList, c.toNat < 0x80) ∧
    (∀ parsed : Parsed,
      Json.IsTextOf
        (.object [("header", .text parsed.header), ("type", .ofOption parsed.type),
          ("scope", .ofOption parsed.scope), ("subject", .ofOption parsed.subject),
          ("body", .ofOption parsed.body), ("footer", .ofOption parsed.footer),
          ("mentions", .array (parsed.mentions.map .text)),
          ("references", .array (parsed.references.map fun reference =>
            .object [("action", .text (String.ofList reference.action)),
              ("owner", .ofOption (reference.owner.map String.ofList)),
              ("repository", .ofOption (reference.repository.map String.ofList)),
              ("issue", .text (String.ofList reference.issue)),
              ("raw", .text (String.ofList reference.raw)), ("prefix", .text "#")])),
          ("raw", .text parsed.raw)]) parsed.json ∧
      ∀ other : Parsed, Json.Denotes parsed.json other.toJson ↔ other = parsed) ∧
    (∀ world level arguments words message diagnostics,
      Starts level Catalogue.lint words arguments → words.has "--json" = true →
      Command.readMessage world Catalogue.lint (words.value? "--edit") words.arguments.head? =
        .ok message →
      (Command.outcome world words message).value = .ok diagnostics →
        (run world level arguments).stdout = diagnostics.json ++ "\n") ∧
    ∀ world level arguments words message,
      Starts level Catalogue.parse words arguments →
      Command.readMessage world Catalogue.parse (words.value? "--edit")
        (Surroundings.answer? words.arguments.head?) = .ok message →
        (run world level arguments).stdout = (parse message).json ++ "\n" ∧
          (run world level arguments).ending = .ok 0 := by
  refine ⟨?diagnostics, ?parsed, ?lint, ?parse⟩
  case diagnostics =>
    intro diagnostics
    have valid : diagnostics.isValid = decide (diagnostics.errors = []) := by
      rw [Diagnostics.isValid, Bool.eq_iff_iff, List.isEmpty_iff, decide_eq_true_iff]
    rw [← valid]
    refine ⟨Json.isTextOf_render true diagnostics.toJson, fun c among => ?_⟩
    rcases Json.allWritten_render true diagnostics.toJson c among with rfl | ⟨-, basic⟩
    · decide
    · exact Nat.lt_trans (basic rfl) (by decide)
  case parsed =>
    intro parsed
    refine ⟨Json.isTextOf_render false parsed.toJson, fun other => ?_⟩
    rw [Parsed.json, Json.denotes_render_iff, Parsed.toJson_inj]
  case lint =>
    intro world level arguments words message diagnostics starts asJson given judged
    obtain ⟨config, -, answer⟩ := Command.lint_of_diagnostics given judged
    rw [run_of_starts (.head _) starts, answer, asJson]
    exact ((Command.finish_shows world true _ 0 _ diagnostics).document rfl).1
  case parse =>
    intro world level arguments words message starts given
    have said := Command.stdout_outs [(parse message).json]
    rw [run_of_starts (.tail _ (.head _)) starts, Command.parse, given]
    refine ⟨?_, rfl⟩
    rw [Run.stdout]
    refine said.trans ?_
    simp [Parsed.line_json]

open CharacterNames in
/-- A message that colours a terminal is parsed: the code stands escaped in the document, and is
what the document denotes. -/
theorem run_says_documents_coloured :
    let message := "fix: \x1B[31mred"
    Json.Denotes (parse message).json (parse message).toJson ∧
      (run (piped message) none ["parse"]).stdout = (parse message).json ++ "\n" ∧
      (run (piped "fix: x") none ["lint", "--json"]).stdout =
        (Diagnostics.mk [] []).json ++ "\n" := by
  intro message
  obtain ⟨-, parsed, linted, read⟩ := run_says_documents
  have threshold : ∃ weight, LogLevel.threshold none = .ok weight := ⟨_, rfl⟩
  have starts : Starts none Catalogue.parse ⟨[], []⟩ ["parse"] :=
    ⟨threshold, ⟨[], .direct, rfl⟩, by decide, rfl⟩
  have starts' : Starts none Catalogue.lint ⟨[⟨"--json", none⟩], []⟩ ["lint", "--json"] :=
    ⟨threshold, ⟨["--json"], .direct, by decide +kernel⟩, by decide, rfl⟩
  have unchanged : String.ofList (InputStream.text ⟨message, true⟩) = message := by decide +kernel
  have unchanged' : String.ofList (InputStream.text ⟨"fix: x", true⟩) = "fix: x" := by
    decide +kernel
  refine ⟨((parsed (parse message)).2 _).mpr rfl, ?_, ?_⟩
  · exact (read (piped message) _ _ _ message starts (congrArg Except.ok unchanged)).1
  · exact linted (piped "fix: x") _ _ _ "fix: x" _ starts' (by decide)
      (congrArg Except.ok unchanged') (by decide +kernel)

end Program

end CommitLint
