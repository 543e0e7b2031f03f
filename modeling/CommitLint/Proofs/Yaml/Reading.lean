import CommitLint.Proofs.Yaml.Nodes
import CommitLint.Yaml.Reading

/-!
# Faults of values

The value of a document is put together from those of its scalars. Putting
them together has no fault but that of the form, so every other one is the
fault of a scalar that the tree shows, or of an escape in the document.
-/

namespace CommitLint.Yaml

namespace Levelled

theorem both_fault {α β : Type} {first : Levelled α} {second : Levelled β} {found : LevelFault}
    (failed : both first second = .error found) :
    first = .error found ∨ second = .error found := by
  cases first with
  | ok a =>
      cases second with
      | ok b => cases failed
      | error other =>
          cases failed
          exact .inr rfl
  | error fault =>
      cases second with
      | ok b =>
          cases failed
          exact .inl rfl
      | error other =>
          injection failed with chosen
          split at chosen
          · exact .inr (congrArg Except.error chosen)
          · exact .inl (congrArg Except.error chosen)

theorem map_fault {α β : Type} {result : Levelled α} {change : α → β} {found : LevelFault}
    (failed : result.map change = .error found) : result = .error found := by
  cases result with
  | ok value => cases failed
  | error fault =>
      cases failed
      rfl

/-- The fault of several results is that of one of them. -/
theorem all_fault {α : Type} {results : List (Levelled α)} {found : LevelFault}
    (failed : all results = .error found) : .error found ∈ results := by
  induction results with
  | nil => cases failed
  | cons first rest ih =>
      rcases both_fault (map_fault failed) with here | behind
      · rw [here]
        exact List.mem_cons_self
      · exact List.mem_cons_of_mem first (ih behind)

theorem fault_of_mem_fail {α : Type} {level : Nat} {fault : Fault} {found : LevelFault}
    (among : .error found ∈ [(fail level fault : Levelled α)]) : found.fault = fault := by
  cases List.mem_singleton.mp among
  rfl

end Levelled

namespace Node

/-- A node shows a text in a kind: as a scalar, or as the text under the default key of a mapping;
or something in the node shows it. -/
inductive Shows (under : Bool) (shown : Kind) (text : List Char) : Node → Prop where
  | scalar (own : under = false) : Shows under shown text (.scalar shown text)
  | default {entries : List (Node × Node)} (keyed : under = true)
      (found : defaultText entries = .ok text) : Shows under shown text (.mapping shown entries)
  | item {kind : Kind} {items : List Node} {item : Node} (among : item ∈ items)
      (shows : Shows under shown text item) : Shows under shown text (.sequence kind items)
  | key {kind : Kind} {entries : List (Node × Node)} {key content : Node}
      (among : (key, content) ∈ entries) (shows : Shows under shown text key) :
      Shows under shown text (.mapping kind entries)
  | content {kind : Kind} {entries : List (Node × Node)} {key content : Node}
      (among : (key, content) ∈ entries) (shows : Shows under shown text content) :
      Shows under shown text (.mapping kind entries)

/-- What a text means, under a default key or not. -/
def meaning (under : Bool) (kind : Kind) (text : List Char) : Except Fault Value :=
  if under then Scalar.underDefault kind text else Scalar.value kind text

/-- A fault of the form, or of a text that a node shows. -/
def Explains (node : Node) (fault : Fault) : Prop :=
  fault = .malformed ∨
    ∃ under kind text, node.Shows under kind text ∧ meaning under kind text = .error fault

def ItemsExplain (items : List Node) (fault : Fault) : Prop :=
  fault = .malformed ∨ ∃ item ∈ items, item.Explains fault

def EntriesExplain (entries : List (Node × Node)) (fault : Fault) : Prop :=
  fault = .malformed ∨
    ∃ entry ∈ entries, entry.1.Explains fault ∨ entry.2.Explains fault

theorem ItemsExplain.sequence {items : List Node} {fault : Fault}
    (explained : ItemsExplain items fault) (kind : Kind) :
    (sequence kind items).Explains fault := by
  rcases explained with form | ⟨item, among, form | ⟨under, shown, text, shows, refused⟩⟩
  · exact .inl form
  · exact .inl form
  · exact .inr ⟨under, shown, text, .item among shows, refused⟩

theorem EntriesExplain.mapping {entries : List (Node × Node)} {fault : Fault}
    (explained : EntriesExplain entries fault) (kind : Kind) :
    (mapping kind entries).Explains fault := by
  rcases explained with form | ⟨⟨key, content⟩, among, ofKey | ofContent⟩
  · exact .inl form
  · rcases ofKey with form | ⟨under, shown, text, shows, refused⟩
    · exact .inl form
    · exact .inr ⟨under, shown, text, .key among shows, refused⟩
  · rcases ofContent with form | ⟨under, shown, text, shows, refused⟩
    · exact .inl form
    · exact .inr ⟨under, shown, text, .content among shows, refused⟩

theorem ItemsExplain.cons {items : List Node} {fault : Fault}
    (explained : ItemsExplain items fault) (first : Node) : ItemsExplain (first :: items) fault :=
  explained.imp_right fun ⟨item, among, blamed⟩ => ⟨item, List.mem_cons_of_mem first among, blamed⟩

theorem EntriesExplain.cons {entries : List (Node × Node)} {fault : Fault}
    (explained : EntriesExplain entries fault) (first : Node × Node) :
    EntriesExplain (first :: entries) fault :=
  explained.imp_right fun ⟨entry, among, blamed⟩ =>
    ⟨entry, List.mem_cons_of_mem first among, blamed⟩

mutual

theorem scalarText_fault : ∀ (node : Node) {fault : Fault},
    node.scalarText = .error fault → fault = .malformed
  | .scalar _ _, _, failed => nomatch failed
  | .sequence _ _, _, failed => by
      cases failed
      rfl
  | .mapping _ entries, _, failed => defaultText_fault entries failed

theorem defaultText_fault : ∀ (entries : List (Node × Node)) {fault : Fault},
    defaultText entries = .error fault → fault = .malformed
  | [], _, failed => by
      cases failed
      rfl
  | (key, content) :: rest, fault, failed => by
      rw [defaultText] at failed
      split at failed
      · exact scalarText_fault content failed
      · exact defaultText_fault rest failed

end

theorem keyed_fault {level : Nat} {key : Node} {value content : Levelled Value}
    {found : LevelFault} (failed : keyed level key value content = .error found) :
    found.fault = .malformed ∨ value = .error found ∨ content = .error found := by
  unfold keyed at failed
  split at failed
  · split at failed
    · rcases Levelled.both_fault failed with impossible | here
      · cases impossible
      · exact .inr (.inr here)
    · rename_i fault none
      cases failed
      exact .inl (scalarText_fault key none)
  · split at failed
    · cases failed
      exact .inl rfl
    · exact .inr (Levelled.both_fault failed)

/-- Every fault among the entries of a result, or the one that there is instead of them, has an
explanation. -/
def Accounts {α : Type} (explains : Fault → Prop) (entries : α → List (Levelled (Value × Value))) :
    Except Fault α → Prop
  | .ok result => ∀ found, .error found ∈ entries result → explains found.fault
  | .error fault => explains fault

namespace Accounts

variable {α β γ : Type} {explains : Fault → Prop} {ofFirst : α → List (Levelled (Value × Value))}
  {ofSecond : β → List (Levelled (Value × Value))} {ofBoth : γ → List (Levelled (Value × Value))}

theorem mono {other : Fault → Prop} {result : Except Fault α}
    (accounts : Accounts explains ofFirst result) (widen : ∀ fault, explains fault → other fault) :
    Accounts other ofFirst result := by
  cases result with
  | ok value => exact fun found among => widen _ (accounts found among)
  | error fault => exact widen _ accounts

theorem map {result : Except Fault α} (accounts : Accounts explains ofFirst result) :
    Accounts explains id (result.map ofFirst) := by
  cases result with
  | ok value => exact accounts
  | error fault => exact accounts

/-- The entries of two results together. -/
theorem join {first : Except Fault α} {second : Except Fault β} {together : α → β → γ}
    (one : Accounts explains ofFirst first) (other : Accounts explains ofSecond second)
    (joined : ∀ {a b entry}, entry ∈ ofBoth (together a b) →
      entry ∈ ofFirst a ∨ entry ∈ ofSecond b) :
    Accounts explains ofBoth (first >>= fun a => second >>= fun b => pure (together a b)) := by
  cases first with
  | error fault => exact one
  | ok a =>
      cases second with
      | error fault => exact other
      | ok b =>
          intro found among
          rcases joined among with here | there
          · exact one found here
          · exact other found there

end Accounts

theorem gather_fault {level : Nat} {assembled : Except Fault Assembled} {found : LevelFault}
    {explains : Fault → Prop} (accounts : Accounts explains Assembled.all assembled)
    (failed : gather level assembled = .error found) : explains found.fault := by
  cases assembled with
  | ok parts => exact accounts found (Levelled.all_fault (Levelled.map_fault failed))
  | error fault =>
      cases failed
      exact accounts

/-- The text under the default key of a mapping counts as one that the mapping shows. -/
theorem default_fault {level : Nat} {kind : Kind} {entries : List (Node × Node)}
    {found : LevelFault}
    (failed : (match (defaultText entries).bind (Scalar.underDefault kind) with
      | .ok value => (.ok value : Levelled Value)
      | .error fault => Levelled.fail level fault) = .error found) :
    (mapping kind entries).Explains found.fault := by
  cases shown : defaultText entries with
  | error fault =>
      rw [shown] at failed
      cases failed
      exact .inl (defaultText_fault entries shown)
  | ok text =>
      cases meant : Scalar.underDefault kind text with
      | ok value =>
          simp only [shown, Except.bind, meant] at failed
          cases failed
      | error fault =>
          simp only [shown, Except.bind, meant] at failed
          cases failed
          exact .inr ⟨true, kind, text, .default rfl shown, meant⟩

mutual

theorem value_fault (level : Nat) : ∀ (node : Node) {found : LevelFault},
    node.value level = .error found → node.Explains found.fault
  | .scalar kind text, found, failed => by
      rw [value] at failed
      split at failed
      · cases failed
        exact .inl rfl
      · cases meant : Scalar.value kind text with
        | ok value =>
            rw [meant] at failed
            cases failed
        | error fault =>
            rw [meant] at failed
            cases failed
            exact .inr ⟨false, kind, text, .scalar rfl, meant⟩
  | .sequence kind items, found, failed => by
      have listed : ∀ {values : List (Levelled Value)},
          (.error found ∈ values → ItemsExplain items found.fault) →
          (Levelled.all values).map Value.list = .error found →
          (sequence kind items).Explains found.fault :=
        fun explained failed =>
          (explained (Levelled.all_fault (Levelled.map_fault failed))).sequence kind
      cases kind with
      | sequence => exact listed (itemValues_fault (level + 1) items) failed
      | orderedPairs => exact listed (pairValues_fault (level + 1) items) failed
      | pairs => exact listed (pairValues_fault (level + 1) items) failed
      | _ =>
          cases failed
          exact .inl rfl
  | .mapping kind entries, found, failed => by
      have gathered : gather (level + 1) (assemble (level + 1) entries) = .error found →
          (mapping kind entries).Explains found.fault :=
        fun failed => (gather_fault (assemble_accounts (level + 1) entries) failed).mapping kind
      cases kind with
      | mapping => exact gathered (Levelled.map_fault failed)
      | set => exact gathered (Levelled.map_fault failed)
      | sequence | orderedPairs | pairs =>
          cases failed
          exact .inl rfl
      | _ => exact default_fault failed

theorem itemValues_fault (level : Nat) : ∀ (items : List Node) {found : LevelFault},
    .error found ∈ itemValues level items → ItemsExplain items found.fault
  | [], _, among => nomatch among
  | item :: rest, found, among => by
      rcases List.mem_cons.mp among with here | behind
      · exact .inr ⟨item, List.mem_cons_self, value_fault level item here.symm⟩
      · exact (itemValues_fault level rest behind).cons item

theorem pairValues_fault (level : Nat) : ∀ (items : List Node) {found : LevelFault},
    .error found ∈ pairValues level items → ItemsExplain items found.fault
  | [], _, among => nomatch among
  | .mapping kind [(key, content)] :: rest, found, among => by
      rcases List.mem_cons.mp among with here | behind
      · have entry : EntriesExplain [(key, content)] found.fault := by
          refine .inr ⟨(key, content), List.mem_cons_self, ?_⟩
          rcases Levelled.both_fault (Levelled.map_fault here.symm) with ofKey | ofContent
          · exact .inl (value_fault level key ofKey)
          · exact .inr (value_fault level content ofContent)
        exact .inr ⟨_, List.mem_cons_self, entry.mapping kind⟩
      · exact (pairValues_fault level rest behind).cons _
  | .scalar _ _ :: _, _, among => .inl (Levelled.fault_of_mem_fail among)
  | .sequence _ _ :: _, _, among => .inl (Levelled.fault_of_mem_fail among)
  | .mapping _ [] :: _, _, among => .inl (Levelled.fault_of_mem_fail among)
  | .mapping _ (_ :: _ :: _) :: _, _, among => .inl (Levelled.fault_of_mem_fail among)

theorem assemble_accounts (level : Nat) : ∀ entries : List (Node × Node),
    Accounts (EntriesExplain entries) Assembled.all (assemble level entries)
  | [] => fun _ among => nomatch among
  | (key, content) :: rest => by
      have behind := (assemble_accounts level rest).mono
        fun _ explained => explained.cons (key, content)
      have here : ∀ {fault}, key.Explains fault ∨ content.Explains fault →
          EntriesExplain ((key, content) :: rest) fault :=
        fun explained => .inr ⟨(key, content), List.mem_cons_self, explained⟩
      rw [assemble]
      split
      · have brought := (broughtEntries_accounts level content).mono
          fun _ explained => here (.inr explained)
        refine .join brought behind fun among => ?_
        simpa [Assembled.all, or_assoc] using among
      · have own : Accounts (EntriesExplain ((key, content) :: rest)) (fun entry => [entry])
            (.ok (keyed level key (value level key) (value level content))) := by
          intro found among
          rcases keyed_fault (List.mem_singleton.mp among).symm with form | ofKey | ofContent
          · exact .inl form
          · exact here (.inl (value_fault level key ofKey))
          · exact here (.inr (value_fault level content ofContent))
        have joined : Accounts (EntriesExplain ((key, content) :: rest)) Assembled.all
            (.ok (keyed level key (value level key) (value level content)) >>= fun first =>
              assemble level rest >>= fun others => pure ⟨others.merged, first :: others.own⟩) :=
          own.join behind fun among => by
            simpa [Assembled.all, or_left_comm] using among
        exact joined

theorem broughtEntries_accounts (level : Nat) : ∀ node : Node,
    Accounts node.Explains id (broughtEntries level node)
  | .scalar _ _ => .inl rfl
  | .mapping kind entries =>
      ((assemble_accounts level entries).mono fun _ explained => explained.mapping kind).map
  | .sequence kind items =>
      (broughtByAll_accounts level items).mono fun _ explained => explained.sequence kind

theorem broughtByAll_accounts (level : Nat) : ∀ items : List Node,
    Accounts (ItemsExplain items) id (broughtByAll level items)
  | [] => fun _ among => nomatch among
  | .mapping kind entries :: rest => by
      have first := (assemble_accounts level entries).mono fun fault explained =>
        (.inr ⟨mapping kind entries, List.mem_cons_self, explained.mapping kind⟩ :
          ItemsExplain (mapping kind entries :: rest) fault)
      have behind := (broughtByAll_accounts level rest).mono
        fun _ explained => explained.cons (mapping kind entries)
      exact first.join behind fun among => (List.mem_append.mp among).symm
  | .scalar _ _ :: _ => .inl rfl
  | .sequence _ _ :: _ => .inl rfl

end

end Node

/-- The fault of a document, if it has one. -/
def fault? (text : List Char) : Option Fault :=
  match read text with
  | .ok _ => none
  | .error fault => some fault

theorem read_of_fault? {text : List Char} {fault : Fault} (told : fault? text = some fault) :
    read text = .error fault := by
  unfold fault? at told
  split at told
  · cases told
  · rename_i other failed
    cases told
    exact failed

/-- Only truth values, numbers and times say more of a text than that its form is wrong. -/
theorem Node.kind_of_grave {under : Bool} {kind : Kind} {text : List Char} {fault : Fault}
    (failed : meaning under kind text = .error fault) (grave : fault ≠ .malformed) :
    kind ∈ [Kind.bool, .int, .real, .timestamp] := by
  by_cases time : kind = .timestamp
  · simp [time]
  · have plain : meaning under kind text = Scalar.value kind text := by
      unfold meaning
      split
      · cases kind <;> first | rfl | exact absurd rfl time
      · rfl
    rw [plain] at failed
    cases kind with
    | null => cases failed
    | text => cases failed
    | bytes =>
        change (Scalar.toBytes text).map Value.bytes = .error fault at failed
        unfold Scalar.toBytes at failed
        split at failed
        · cases failed
        · cases failed
          exact absurd rfl grave
    | bool | int | real | timestamp => simp
    | _ =>
        cases failed
        exact absurd rfl grave

/--
Where a document that has no value goes wrong: in its form, in a collection
that contains itself, in an escape with a code that is no character, or in a
text that its tree shows as a truth value, a number or a time and that is none.
-/
theorem read_fault {text : List Char} {fault : Fault} (failed : read text = .error fault) :
    fault = .malformed ∨ fault = .selfContaining ∨ HasBadEscape text fault ∨
      ∃ node content, Node.ofText? text = .ok (some node) ∧
        ∃ under, ∃ kind ∈ [Kind.bool, .int, .real, .timestamp], node.Shows under kind content ∧
          Node.meaning under kind content = .error fault := by
  unfold read at failed
  split at failed
  · cases failed
    exact .inl rfl
  · cases tree : Node.ofText? text with
    | error other =>
        rw [tree] at failed
        cases failed
        exact (Node.ofText?_fault tree).imp_right (.imp_right .inl)
    | ok found =>
        rw [tree] at failed
        cases found with
        | none => cases failed
        | some node =>
            cases meant : node.value 0 with
            | ok value =>
                simp only [bind, Except.bind, meant] at failed
                cases failed
            | error found =>
                simp only [bind, Except.bind, meant] at failed
                cases failed
                rcases Node.value_fault 0 node meant with
                  form | ⟨under, kind, content, shows, refused⟩
                · exact .inl form
                · by_cases form : found.fault = .malformed
                  · exact .inl form
                  · exact .inr (.inr (.inr ⟨node, content, rfl, under, kind,
                      Node.kind_of_grave refused form, shows, refused⟩))

end CommitLint.Yaml
