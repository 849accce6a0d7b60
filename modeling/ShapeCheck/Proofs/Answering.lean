import Mathlib.Data.List.TakeWhile
import ShapeCheck.Proofs.Sources

/-!
# Answering a question

A `Question` is what the command `validate` is asked, with all there is to answer it. What the library makes of its parts is said
here without the command: `Question.schemas` are the schemas that the files make, each by itself, `Question.document` is the value
in the file with the data, and `Question.validates` is how a validation ends. `Question.Agrees` is what exit status and output are
to be, and `Question.Escapes` are the failures that nobody expects. The command itself is taken apart in the order in which it
works: each of the theorems `command_unbuilt`, `command_malformed`, `command_unregistered`, `command_unparsed`,
`command_passing`, `command_failing`, `command_unwritten` and `command_faulty` is one way for it to end. What it prints it prints
line by line, up to the first line that cannot be written (`prints_ending`).
-/

namespace ShapeCheck

/-! ## Operations that print nothing -/

namespace Work

variable {α β : Type}

section Keeps

variable {γ : Type} {part : Workspace → γ}

/-- An operation leaves some part of the workspace as it is, whether it goes well or not. -/
def Keeps (part : Workspace → γ) (op : Work α) : Prop := ∀ w, part (op.ending w).2 = part w

theorem keeps_pure (a : α) : Keeps part (pure a) := fun _ => rfl

theorem keeps_throw (f : Failure) : Keeps part (throw f : Work α) := fun _ => rfl

theorem keeps_get : Keeps part get := fun _ => rfl

theorem keeps_bind {op : Work α} {k : α → Work β} (h : Keeps part op) (hk : ∀ a, Keeps part (k a)) : Keeps part (op >>= k) := by
  intro w
  have hw := h w
  rw [ending_bind]
  rcases hop : op.ending w with ⟨f | a, w'⟩ <;> rw [hop] at hw
  · exact hw
  · exact (hk a w').trans hw

theorem keeps_tellAll (h : ∀ n, Keeps part (tell n)) : ∀ ns : List Notice, Keeps part (tellAll ns)
  | [] => keeps_pure ()
  | n :: rest => keeps_bind (h n) fun _ => keeps_tellAll h rest

end Keeps

/-- An operation leaves the output as it is. -/
def Silent (op : Work α) : Prop := Keeps Workspace.output op

theorem silent_settings (overrides : List (Key × Datum)) : Silent (settings overrides) := by
  have hsources : Silent variableSources := by
    refine keeps_bind keeps_get fun w => ?_
    split
    · exact keeps_pure _
    · exact keeps_throw _
    · exact keeps_pure _
  unfold settings
  refine keeps_bind keeps_get fun w => ?_
  split
  · exact keeps_pure _
  · refine keeps_bind hsources fun sources => ?_
    split
    · exact keeps_throw _
    · exact fun _ => rfl

theorem silent_depthBound : ∀ maxDepth : Option Int, Silent (depthBound maxDepth)
  | some n => keeps_pure n
  | none => keeps_bind (silent_settings []) fun s => keeps_pure s.maxDepth

theorem silent_conclude (t : ObjectType) (σ : Store) (found : Findings) : Silent (conclude t σ found) := by
  cases found with
  | nil => exact fun _ => rfl
  | cons f rest => exact fun _ => rfl

/-- A validation prints nothing. -/
theorem silent_validate (t : ObjectType) (resolve : Resolver) (maxDepth : Option Int) (v : Value) :
    Silent (validate t resolve maxDepth v) := by
  refine keeps_bind (silent_depthBound maxDepth) fun limit => ?_
  refine keeps_bind keeps_get fun w => ?_
  refine keeps_bind (fun _ => rfl) fun _ => ?_
  refine keeps_bind (keeps_tellAll (fun _ _ => rfl) _) fun _ => ?_
  split
  · exact keeps_throw _
  · exact silent_conclude t _ _

theorem resolver_ending {r : RegistryHandle} {reg : Registry} {w : Workspace} (hreg : w.registries[r]? = some reg) :
    (resolver r).ending w = (.ok (w.resolver reg), w) := by
  unfold resolver
  rw [ending_bind_ok (ending_get w), ending_bind_ok (registry_ending hreg)]
  rfl

end Work

/-! ## The report as JSON -/

/-- The text of a report about violations, from the JSON texts of the violations. -/
def CommandLine.reportText (typeName : Option String) (parts : List String) : String :=
  jsonBlock 0 "\x7b" "\x7d" [Text.jsonString "type" ++ ": " ++ typeName.elim "null" Text.jsonString,
    Text.jsonString "error_count" ++ ": " ++ toString parts.length,
    Text.jsonString "errors" ++ ": " ++ jsonBlock 1 "[" "]" parts]

/-- The items of a list are written one after the other. -/
theorem Datum.jsonItems_ok {depth : Nat} : ∀ {xs : List Datum} {parts : List String}, jsonItems depth xs = .ok parts →
    List.Forall₂ (fun x part => x.jsonAt depth = .ok part) xs parts
  | [], parts, h => by
    unfold jsonItems at h
    cases h
    exact .nil
  | x :: xs, parts, h => by
    unfold jsonItems at h
    obtain ⟨first, hfirst, h⟩ := Except.bind_eq_ok.1 h
    obtain ⟨rest, hrest, h⟩ := Except.bind_eq_ok.1 h
    cases h
    exact .cons hfirst (jsonItems_ok hrest)

/-- An entry under a text is written behind that text. -/
theorem Datum.jsonEntries_text {depth : Nat} {k : String} {d : Datum} {rest : List (Key × Datum)} {parts : List String} :
    jsonEntries depth ((.text k, d) :: rest) = .ok parts ↔
      ∃ part others, d.jsonAt depth = .ok part ∧ jsonEntries depth rest = .ok others ∧
        parts = (Text.jsonString k ++ ": " ++ part) :: others := by
  rw [jsonEntries]
  constructor
  · intro h
    obtain ⟨key, hkey, h⟩ := Except.bind_eq_ok.1 h
    obtain ⟨part, hpart, h⟩ := Except.bind_eq_ok.1 h
    obtain ⟨others, hothers, h⟩ := Except.bind_eq_ok.1 h
    cases hkey
    cases h
    exact ⟨part, others, hpart, hothers, rfl⟩
  · rintro ⟨part, others, hpart, hothers, rfl⟩
    exact Except.bind_eq_ok.2 ⟨_, rfl, Except.bind_eq_ok.2 ⟨part, hpart, Except.bind_eq_ok.2 ⟨others, hothers, rfl⟩⟩⟩

/-- A count is written with its digits, if it is not too long. -/
theorem Datum.jsonAt_count {depth n : Nat} {text : String} :
    (Datum.int n).jsonAt depth = .ok text ↔ (Scalar.int n).isTooLong = false ∧ text = toString n := by
  rw [Datum.int, jsonAt]
  cases hlong : (Scalar.int n).isTooLong with
  | false => exact ⟨fun h => ⟨rfl, (Except.ok.inj h).symm⟩, fun h => congrArg Except.ok h.2.symm⟩
  | true => exact ⟨nofun, nofun⟩

theorem Datum.jsonAt_textOrNull (depth : Nat) (s : Option String) :
    (Datum.textOrNull s).jsonAt depth = .ok (s.elim "null" Text.jsonString) := by
  cases s <;> rfl

namespace CommandLine

/-- A report has the texts of all violations, in their order. -/
theorem resultDatum_json {typeName : Option String} {violations : List (Violation Datum)} {text : String}
    (h : (resultDatum typeName violations).json = .ok text) :
    ∃ parts, List.Forall₂ (fun v part => (violationDatum v).jsonAt 2 = .ok part) violations parts ∧
      text = reportText typeName parts := by
  unfold resultDatum Datum.json Datum.record at h
  simp only [List.map_cons, List.map_nil] at h
  unfold Datum.jsonAt at h
  obtain ⟨fields, hfields, h⟩ := Except.bind_eq_ok.1 h
  obtain ⟨name, behindName, hname, hbehindName, rfl⟩ := Datum.jsonEntries_text.1 hfields
  obtain ⟨count, behindCount, hcount, hbehindCount, rfl⟩ := Datum.jsonEntries_text.1 hbehindName
  obtain ⟨errors, behindErrors, herrors, hbehindErrors, rfl⟩ := Datum.jsonEntries_text.1 hbehindCount
  rw [Datum.jsonAt_textOrNull] at hname
  obtain ⟨-, rfl⟩ := Datum.jsonAt_count.1 hcount
  unfold Datum.jsonAt at herrors
  obtain ⟨parts, hparts, herrors⟩ := Except.bind_eq_ok.1 herrors
  have hall := Datum.jsonItems_ok hparts
  rw [List.forall₂_map_left_iff] at hall
  refine ⟨parts, hall, ?_⟩
  cases hname
  cases herrors
  cases hbehindErrors
  cases h
  rw [hall.length_eq]
  rfl

theorem resultDatum_json_nil (typeName : Option String) : (resultDatum typeName []).json = .ok (reportText typeName []) := by
  have hpow : ∀ digits, decide (Nat.pow 10 digits ≤ 0) = false := fun digits =>
    decide_eq_false (Nat.not_le_of_gt (Nat.pow_pos (by decide)))
  have hzero : (Scalar.int 0).isTooLong = false := by
    rw [Scalar.int, Scalar.isTooLong, Int.natAbs_zero]
    exact hpow _
  have hentries : Datum.jsonEntries 1 [(.text "type", Datum.textOrNull typeName), (.text "error_count", .int (0 : Nat)),
      (.text "errors", .list [])] = .ok [Text.jsonString "type" ++ ": " ++ typeName.elim "null" Text.jsonString,
        Text.jsonString "error_count" ++ ": " ++ toString 0, Text.jsonString "errors" ++ ": " ++ jsonBlock 1 "[" "]" []] :=
    Datum.jsonEntries_text.2 ⟨_, _, Datum.jsonAt_textOrNull 1 typeName,
      Datum.jsonEntries_text.2 ⟨_, _, Datum.jsonAt_count.2 ⟨hzero, rfl⟩, Datum.jsonEntries_text.2 ⟨_, _, rfl, rfl, rfl⟩, rfl⟩, rfl⟩
  unfold resultDatum Datum.json Datum.record
  rw [Datum.jsonAt]
  exact Except.bind_eq_ok.2 ⟨_, hentries, rfl⟩

/-! ## Failures that are expected -/

/-- The failures of a schema file that no part of a command expects: it is no text, or no document and not found to be malformed,
it asks for a pattern that is too large, or there is no end to what contains itself in it. -/
inductive Unexpected : Failure → Prop
  | bytes : Unexpected (.run .undecodable)
  | document {e : Yaml.Error} (unlike : e ≠ .malformed) (unlike' : e ≠ .stampInMapping) : Unexpected (.yaml e)
  | pattern {location source : String} {e : Pattern.ReadError} (large : e.isTooLarge = true) :
      Unexpected (.schema (.compile location (.pattern source e)))
  | endless {location : String} : Unexpected (.schema (.compile location (.fault .endless)))

/-- Of the failures of a file those are reported that are expected. -/
theorem isReported_eq {f : Failure} (h : Schema.Unmade f) : isReported f = true ↔ ¬ Unexpected f := by
  cases h with
  | unread e =>
    constructor
    · rintro hreported (_ | _)
      cases e <;> contradiction
    · intro hexpected
      by_contra hunreported
      refine hexpected (.document ?_ ?_) <;> rintro rfl <;> exact hunreported rfl
  | undecodable => exact ⟨nofun, fun hexpected => absurd .bytes hexpected⟩
  | root path sort => exact ⟨fun _ => nofun, fun _ => rfl⟩
  | structural subject violations => exact ⟨fun _ => nofun, fun _ => rfl⟩
  | authoring location e => exact ⟨fun _ => nofun, fun _ => rfl⟩
  | pattern location source large => exact ⟨nofun, fun hexpected => absurd (.pattern large) hexpected⟩
  | endless location => exact ⟨nofun, fun hexpected => absurd .endless hexpected⟩

/-- Of the failures of a file with data one is expected. -/
theorem isMalformed_iff {f : Failure} : isMalformed f = true ↔ f = .yaml .malformed := by
  unfold isMalformed
  split
  · exact iff_of_true rfl rfl
  · next hother => exact iff_of_false Bool.false_ne_true hother

/-! ## Questions -/

/-- What a command line wants to know, and all there is to answer it. -/
structure Question where
  files : Files
  clock : Clock
  settings : Settings
  /-- The paths to schema files, and to directories of such. -/
  paths : List FilePath
  reference : String
  asJson : Bool
  /-- The path to the file with the data. -/
  file : FilePath

namespace Question

variable (q : Question)

/-- The schema files, in the order in which they are registered. -/
def sources : List FilePath := q.paths.flatMap q.files.schemaFiles

/-- The schema of a file by itself. -/
def schema (path : FilePath) : Except Failure Schema := q.files.schema q.clock path

/-- The schemas of all schema files, or why the first of them that makes none does not. -/
def schemas : Except Failure (List Schema) := q.sources.mapM q.schema

/-- The value of the document in the file with the data. -/
def document : Except Failure (Value × Store) :=
  match q.files.at? q.file with
  | some (.file content) => Work.valueIn content {}
  | _ => .error (.yaml .malformed)

/-- All that is needed for an answer is there: a type, what references lead to, and a value in a store. Of two schemas with
one key the later one is registered. -/
inductive Poses : ObjectType → Resolver → Value → Store → Prop
  | intro {schemas : List Schema} {ref : TypeRef} {t : ObjectType} {v : Value} {σ : Store} (built : q.schemas = .ok schemas)
      (named : TypeRef.ofKey (.text q.reference) = .ok ref) (registered : Schema.typeAmong? schemas.reverse ref = some t)
      (parsed : q.document = .ok (v, σ)) :
      Poses t (fun ref => (Schema.typeAmong? schemas.reverse ref).map ObjectType.checker) v σ

/-- How a validation ends that is done without the command line, with the settings of the question. -/
def validates (t : ObjectType) (resolve : Resolver) (v : Value) (σ : Store) : Except Failure Unit :=
  ((Work.validate t resolve none v).ending { clock := q.clock, files := q.files, settings := some q.settings, store := σ }).1

/-- Some schema file cannot be parsed or built. -/
def Unbuilt : Prop := ∃ path ∈ q.sources, ∃ f, q.schema path = .error f

/-- The reference is malformed. -/
def Malformed : Prop := ∃ e, TypeRef.ofKey (.text q.reference) = .error e

/-- The reference leads to no type of the schemas. -/
def Unregistered : Prop := ∃ schemas ref, q.schemas = .ok schemas ∧ TypeRef.ofKey (.text q.reference) = .ok ref ∧
  Schema.typeAmong? schemas.reverse ref = none

/-- The file with the data cannot be parsed. -/
def Unparsed : Prop := ∃ e, q.document = .error e

/-- There is nothing to validate, or nothing to validate with. -/
def Unusable : Prop := q.Unbuilt ∨ q.Malformed ∨ q.Unregistered ∨ q.Unparsed

/-- The value conforms to the type. -/
def Passes : Prop := ∃ t resolve v σ, q.Poses t resolve v σ ∧ q.validates t resolve v σ = .ok ()

/-- The value does not conform to the type, for the given violations. -/
def Fails (typeName : Option String) (violations : List (Violation Datum)) : Prop :=
  ∃ t resolve v σ, q.Poses t resolve v σ ∧ q.validates t resolve v σ = .error (.nonconforming typeName violations)

/-- Lines that tell all violations, in their order. -/
def Tells (typeName : Option String) (violations : List (Violation Datum)) (lines : List String) : Prop :=
  if q.asJson then ∃ parts, List.Forall₂ (fun v part => (violationDatum v).jsonAt 2 = .ok part) violations parts ∧
    lines = [reportText typeName parts]
  else lines = ("[FAIL] " ++ q.file.text ++ " does not conform to " ++ q.reference) ::
    violations.map fun v => "  - " ++ v.text

/-- The lines that confirm that the value conforms to the type. -/
def confirmation (t : ObjectType) : List String :=
  [if q.asJson then reportText t.name [] else "[OK]   " ++ q.file.text ++ " conforms to " ++ q.reference]

/-- The lines about violations, if these have a text in the form that is asked for. -/
def account (typeName : Option String) (violations : List (Violation Datum)) : Except JsonError (List String) :=
  if q.asJson then
    match (resultDatum typeName violations).json with
    | .ok text => .ok [text]
    | .error e => .error e
  else .ok (("[FAIL] " ++ q.file.text ++ " does not conform to " ++ q.reference) :: violations.map fun v => "  - " ++ v.text)

/-- Lines that are to be printed. -/
inductive Reports : List String → Prop
  | confirmation {t : ObjectType} {resolve : Resolver} {v : Value} {σ : Store} (poses : q.Poses t resolve v σ)
      (validates : q.validates t resolve v σ = .ok ()) : Reports (q.confirmation t)
  | account {typeName : Option String} {violations : List (Violation Datum)} {lines : List String}
      (fails : q.Fails typeName violations) (written : q.account typeName violations = .ok lines) : Reports lines

/-- An ending with some lines of output is what the library gives cause for. -/
structure Agrees (e : Ending) (lines : List String) : Prop where
  /-- The exit status is 2 exactly if there is nothing to validate, or nothing to validate with. -/
  two : e = .exit 2 ↔ q.Unusable
  /-- Otherwise it is 0 exactly if the value conforms to the type. -/
  zero : ¬ q.Unusable → (e = .exit 0 ↔ q.Passes)
  /-- It is 1 exactly if the value does not conform. -/
  one : ¬ q.Unusable → (e = .exit 1 ↔ ∃ typeName violations, q.Fails typeName violations)
  confirmed : ∀ t resolve v σ, e = .exit 0 → q.Poses t resolve v σ → lines = q.confirmation t
  told : ∀ typeName violations, e = .exit 1 → q.Fails typeName violations → q.Tells typeName violations lines
  /-- No failure escapes. -/
  caught : ∀ f, e ≠ .escaped f

/-- The failures that no part of the command expects. -/
inductive Escapes : Failure → Prop
  /-- The first schema file that makes no schema does not for a reason that is not expected. -/
  | source {f : Failure} (first : q.schemas = .error f) (unexpected : Unexpected f) : Escapes f
  /-- The file with the data is no text, or no document and not found to be malformed. -/
  | document {schemas : List Schema} {ref : TypeRef} {t : ObjectType} {f : Failure} (built : q.schemas = .ok schemas)
      (named : TypeRef.ofKey (.text q.reference) = .ok ref) (registered : Schema.typeAmong? schemas.reverse ref = some t)
      (unparsed : q.document = .error f) (unlike : f ≠ .yaml .malformed) : Escapes f
  /-- The validation ends in a fault. -/
  | fault {t : ObjectType} {resolve : Resolver} {v : Value} {σ : Store} {e : Fault} (poses : q.Poses t resolve v σ)
      (validates : q.validates t resolve v σ = .error (.run e)) : Escapes (.run e)
  /-- The violations have no text as JSON. -/
  | writing {typeName : Option String} {violations : List (Violation Datum)} {e : JsonError}
      (fails : q.Fails typeName violations) (unwritten : q.account typeName violations = .error e) : Escapes (.json e)
  /-- A line of the report has lone surrogates. -/
  | printing {lines : List String} {line : String} (reports : q.Reports lines)
      (first : lines.find? Text.hasSurrogate = some line) : Escapes (.run (.unencodable line))

end Question

/-! ## Parts of the command -/

section Parts

variable {α : Type} {w : Workspace}

theorem ending_tryCatch (op : Work α) (handle : Failure → Work α) (w : Workspace) :
    (tryCatch op handle).ending w =
      match op.ending w with
      | (.ok a, w') => (.ok a, w')
      | (.error f, w') => (handle f).ending w' := by
  unfold Work.ending
  rcases hop : op.run.run w with ⟨f | a, w'⟩
  · simp only [ExceptT.run_tryCatch, StateT.run_bind, hop]
    rfl
  · simp only [ExceptT.run_tryCatch, StateT.run_bind, hop]
    rfl

theorem reporting_ok {op : Work α} {a : α} {w' : Workspace} (h : op.ending w = (.ok a, w')) (isReported : Failure → Bool) :
    (reporting isReported op).ending w = (.ok (.ok a), w') := by
  unfold reporting
  rw [Work.ending_bind, ending_tryCatch, Work.ending_bind_ok h]
  rfl

theorem reporting_error {op : Work α} {f : Failure} {w' : Workspace} (h : op.ending w = (.error f, w'))
    (isReported : Failure → Bool) :
    (reporting isReported op).ending w = (if isReported f then .ok (.error f) else .error f, w') := by
  unfold reporting
  rw [Work.ending_bind, ending_tryCatch, Work.ending_bind, h]
  dsimp only
  by_cases hreported : isReported f = true
  · rw [if_pos hreported, if_pos hreported]
    rfl
  · rw [if_neg hreported, if_neg hreported]
    rfl

/-- The command after the validation: what was found is printed. -/
def report (t : ObjectType) (reference : String) (asJson : Bool) (file : FilePath) :
    Option (Option String × List (Violation Datum)) → Work Nat
  | none => do
    if asJson then printResult t.name []
    else Work.print ("[OK]   " ++ file.text ++ " conforms to " ++ reference)
    return 0
  | some (typeName, violations) => do
    if asJson then printResult typeName violations
    else
      Work.print ("[FAIL] " ++ file.text ++ " does not conform to " ++ reference)
      (violations.map fun v => "  - " ++ v.text).forM Work.print
    return 1

/-- The command after the document was read. -/
def afterReading (r : RegistryHandle) (t : ObjectType) (reference : String) (asJson : Bool) (file : FilePath) :
    Except Failure Value → Work Nat
  | .error f => do
    Work.say ("Error: cannot parse " ++ file.text ++ ": " ++ f.message)
    return 2
  | .ok v => do validateValue t (← Work.resolver r) reference asJson file v

/-- The command after the type was looked up. -/
def afterLookup (r : RegistryHandle) (reference : String) (asJson : Bool) (file : FilePath) :
    Except Failure (Option ObjectType) → Work Nat
  | .error f => do
    Work.say ("Error: " ++ f.message)
    return 2
  | .ok none => do
    Work.say ("Error: type not registered: " ++ reference)
    return 2
  | .ok (some t) => do
    let read ← reporting isMalformed (readValue file)
    afterReading r t reference asJson file read

theorem validate_eq (schemas : List String) (reference : String) (asJson : Bool) (dataFile : String) :
    validate schemas reference asJson dataFile = (do
      let r ← Work.makeRegistry .memory
      let found ← reporting isReported (do
        (schemas.map FilePath.ofText).forM (registerPath r)
        Work.lookup r (.text reference))
      afterLookup r reference asJson (FilePath.ofText dataFile) found) := rfl

/-- What a validation finds is no failure of the command. -/
def findingOf : Failure → Work (Option (Option String × List (Violation Datum)))
  | .nonconforming typeName violations => return some (typeName, violations)
  | f => throw f

theorem validateValue_eq (t : ObjectType) (resolve : Resolver) (reference : String) (asJson : Bool) (file : FilePath) (v : Value) :
    validateValue t resolve reference asJson file v = (do
      let found ← tryCatch (do
        Work.validate t resolve none v
        return none) findingOf
      report t reference asJson file found) := rfl

/-- How an operation ends that prints lines. -/
def printed (lines : List String) : Except Failure Unit :=
  match lines.find? Text.hasSurrogate with
  | none => .ok ()
  | some line => .error (.run (.unencodable line))

/-- The lines in front of the first one that cannot be written. -/
def written (lines : List String) : List String := lines.takeWhile fun line => !Text.hasSurrogate line

theorem written_eq {lines : List String} (h : lines.find? Text.hasSurrogate = none) : written lines = lines := by
  refine List.takeWhile_eq_self_iff.2 fun line hline => ?_
  rw [Bool.not_eq_true']
  exact Bool.eq_false_iff.2 (List.find?_eq_none.1 h line hline)

theorem printed_ok {lines : List String} (h : lines.find? Text.hasSurrogate = none) : printed lines = .ok () := by
  unfold printed
  rw [h]

theorem printed_error {lines : List String} {line : String} (h : lines.find? Text.hasSurrogate = some line) :
    printed lines = .error (.run (.unencodable line)) := by
  unfold printed
  rw [h]

/-- Lines are printed up to the first one that cannot be written, and nothing else happens. -/
theorem prints_ending : ∀ (lines : List String) (w : Workspace), ∃ output,
    (lines.forM Work.print).ending w = (printed lines, { w with output := output }) ∧
      output.toList = w.output.toList ++ written lines
  | [], w => ⟨w.output, rfl, (List.append_nil _).symm⟩
  | line :: rest, w => by
    have hcons : (line :: rest).forM Work.print = Work.print line >>= fun _ => rest.forM Work.print := rfl
    unfold printed written
    rw [hcons, List.find?_cons, List.takeWhile_cons]
    by_cases hlone : Text.hasSurrogate line = true
    · have hprint : (Work.print line).ending w = (.error (.run (.unencodable line)), w) := by
        unfold Work.print
        rw [if_pos hlone]
        rfl
      rw [Work.ending_bind, hprint, hlone]
      exact ⟨w.output, rfl, (List.append_nil _).symm⟩
    · have hprint : (Work.print line).ending w = (.ok (), { w with output := w.output.push line }) := by
        unfold Work.print
        rw [if_neg hlone]
        rfl
      obtain ⟨output, hend, houtput⟩ := prints_ending rest { w with output := w.output.push line }
      rw [Work.ending_bind_ok hprint, Bool.eq_false_iff.2 hlone]
      refine ⟨output, hend, ?_⟩
      rw [houtput, Array.toList_push, List.append_assoc]
      rfl

/-- How an operation ends, and what the output is then. -/
def Shows (op : Work Nat) (w : Workspace) (result : Except Failure Nat) (lines : List String) : Prop :=
  ∃ w', op.ending w = (result, w') ∧ w'.output.toList = lines

theorem Shows.of_bind {op : Work α} {k : α → Work Nat} {a : α} {w' : Workspace} {result : Except Failure Nat}
    {lines : List String} (h : op.ending w = (.ok a, w')) (hk : Shows (k a) w' result lines) : Shows (op >>= k) w result lines := by
  obtain ⟨w'', hend, hlines⟩ := hk
  exact ⟨w'', by rw [Work.ending_bind_ok h, hend], hlines⟩

theorem Shows.of_failing {op : Work α} {k : α → Work Nat} {f : Failure} {w' : Workspace} (h : op.ending w = (.error f, w')) :
    Shows (op >>= k) w (.error f) w'.output.toList :=
  ⟨w', by rw [Work.ending_bind, h], rfl⟩

section Report

variable {t : ObjectType} {reference : String} {asJson : Bool} {file : FilePath} {typeName : Option String}
  {violations : List (Violation Datum)}

/-- What is printed, and then a status. -/
theorem Shows.prints (hout : w.output = #[]) (lines : List String) (status : Nat) :
    Shows (lines.forM Work.print >>= fun _ => pure status) w ((printed lines).map fun _ => status) (written lines) := by
  obtain ⟨output, hend, houtput⟩ := prints_ending lines w
  rw [hout] at houtput
  refine ⟨{ w with output := output }, ?_, houtput⟩
  rw [Work.ending_bind, hend]
  cases printed lines <;> rfl

theorem report_passing : report t reference asJson file none =
    ([if asJson then reportText t.name [] else "[OK]   " ++ file.text ++ " conforms to " ++ reference].forM Work.print >>=
      fun _ => pure 0) := by
  unfold report printResult
  rw [resultDatum_json_nil]
  cases asJson <;>
    simp only [List.forM_eq_forM, List.forM_cons, List.forM_nil, bind_assoc, pure_bind, if_true, Bool.false_eq_true, if_false]

theorem report_lines : report t reference false file (some (typeName, violations)) =
    ((("[FAIL] " ++ file.text ++ " does not conform to " ++ reference) ::
      violations.map fun v => "  - " ++ v.text).forM Work.print >>= fun _ => pure 1) := by
  unfold report
  simp only [List.forM_eq_forM, List.forM_cons, bind_assoc, Bool.false_eq_true, if_false]

theorem report_written {text : String} (hjson : (resultDatum typeName violations).json = .ok text) :
    report t reference true file (some (typeName, violations)) = ([text].forM Work.print >>= fun _ => pure 1) := by
  unfold report printResult
  dsimp only
  rw [hjson]
  simp only [List.forM_eq_forM, List.forM_cons, List.forM_nil, bind_assoc, pure_bind, if_true]

theorem report_unwritten {e : JsonError} (hjson : (resultDatum typeName violations).json = .error e) :
    Shows (report t reference true file (some (typeName, violations))) w (.error (.json e)) w.output.toList := by
  refine ⟨w, ?_, rfl⟩
  unfold report printResult
  dsimp only
  rw [hjson]
  rfl

end Report

section Validation

variable {t : ObjectType} {resolve : Resolver} {v : Value} {reference : String} {asJson : Bool} {file : FilePath}

/-- What a validation finds is handed on, and any other failure ends the command. -/
theorem finding_ending : (tryCatch (do
      Work.validate t resolve none v
      return none) findingOf).ending w =
    match (Work.validate t resolve none v).ending w with
    | (.ok _, w') => (.ok none, w')
    | (.error f, w') => (findingOf f).ending w' := by
  rw [ending_tryCatch, Work.ending_bind]
  rcases (Work.validate t resolve none v).ending w with ⟨f | u, w'⟩ <;> rfl

variable {w' : Workspace}

theorem validateValue_passing (hend : (Work.validate t resolve none v).ending w = (.ok (), w')) :
    (validateValue t resolve reference asJson file v).ending w = (report t reference asJson file none).ending w' := by
  rw [validateValue_eq]
  refine Work.ending_bind_ok ?_
  rw [finding_ending, hend]

theorem validateValue_failing {typeName : Option String} {violations : List (Violation Datum)}
    (hend : (Work.validate t resolve none v).ending w = (.error (.nonconforming typeName violations), w')) :
    (validateValue t resolve reference asJson file v).ending w =
      (report t reference asJson file (some (typeName, violations))).ending w' := by
  rw [validateValue_eq]
  refine Work.ending_bind_ok ?_
  rw [finding_ending, hend]
  rfl

theorem validateValue_faulty {e : Fault} (hend : (Work.validate t resolve none v).ending w = (.error (.run e), w')) :
    (validateValue t resolve reference asJson file v).ending w = (.error (.run e), w') := by
  rw [validateValue_eq, Work.ending_bind, finding_ending, hend]
  rfl

end Validation

theorem readValue_ending {file : FilePath} {content : FileContent} (hfile : w.files.at? file = some (.file content)) :
    (readValue file).ending w =
      match Work.valueIn content w.store with
      | .ok (v, σ) => (.ok v, { w with store := σ })
      | .error f => (.error f, w) := by
  unfold readValue
  rw [Work.ending_bind_ok (Work.ending_get w), hfile]
  dsimp only
  cases Work.valueIn content w.store <;> rfl

end Parts

/-! ## The command -/

/-- The command that asks a question. -/
def Question.command (q : Question) : Work Nat := do
  let r ← Work.makeRegistry .memory
  let found ← reporting isReported (do
    q.paths.forM (registerPath r)
    Work.lookup r (.text q.reference))
  afterLookup r q.reference q.asJson q.file found

/-- The workspace in which the command starts. -/
structure Question.Starts (q : Question) (w : Workspace) : Prop where
  files : w.files = q.files
  clock : w.clock = q.clock
  settings : w.settings = some q.settings
  standard : w.Standard
  loaded : w.loaded = []
  store : w.store = {}
  output : w.output = #[]

/-- There is something at each path of a question, and a file with the data. -/
structure Question.HasFiles (q : Question) : Prop where
  paths : ∀ path ∈ q.paths, ∃ e, q.files.at? path = some e
  file : ∃ content, q.files.at? q.file = some (.file content)

section Command

open Workspace

variable {q : Question} {w : Workspace}

/-- The workspace of a command after it has made its registry. -/
def withRegistry (w : Workspace) : Workspace := { w with registries := w.registries.push ⟨.memory, []⟩ }

theorem makeRegistry_ending (w : Workspace) :
    (Work.makeRegistry .memory).ending w = (.ok w.registries.size, withRegistry w) := rfl

theorem stocked_withRegistry (hq : q.Starts w) : (withRegistry w).Stocked w.registries.size [] (withRegistry w) where
  standard := ⟨hq.standard.capabilities, hq.standard.types⟩
  loads := .refl _
  known full h hknown := by
    have hnone : (withRegistry w).loaded = [] := hq.loaded
    unfold recalled? at hknown
    rw [hnone] at hknown
    cases hknown
  found := ⟨⟨.memory, []⟩, Array.getElem?_push_size, fun _ => .none⟩

/-- Loading and registering all schema files fails as the first of them that makes no schema, or leaves a registry with the
schemas of all. -/
theorem stocks_paths (hq : q.Starts w) (hfiles : q.HasFiles) :
    match q.schemas with
    | .ok schemas => ∃ w', (q.paths.forM (registerPath w.registries.size)).ending (withRegistry w) = (.ok (), w') ∧
        (withRegistry w).Stocked w.registries.size schemas.reverse w'
    | .error f => ∃ w', (q.paths.forM (registerPath w.registries.size)).ending (withRegistry w) = (.error f, w') ∧
        (withRegistry w).Loads w' := by
  have hsame : (withRegistry w).files = q.files := hq.files
  have hclock : (withRegistry w).clock = q.clock := hq.clock
  have hstocks : Work.Stocks (withRegistry w) w.registries.size (q.paths.forM (registerPath w.registries.size))
      (q.paths.flatMap (withRegistry w).files.schemaFiles) := by
    refine Work.stocks_forM fun path hpath => ?_
    obtain ⟨e, he⟩ := hfiles.paths path hpath
    exact stocks_registerPath (hsame ▸ he)
  have hall := hstocks (withRegistry w) [] (stocked_withRegistry hq)
  rw [hsame, hclock] at hall
  have hschemas : q.schemas = (q.paths.flatMap q.files.schemaFiles).mapM (q.files.schema q.clock) := rfl
  rw [hschemas]
  cases hmapM : (q.paths.flatMap q.files.schemaFiles).mapM (q.files.schema q.clock) with
  | error f =>
    rw [hmapM] at hall
    exact hall
  | ok schemas =>
    rw [hmapM] at hall
    obtain ⟨⟨⟩, w', hend, hw'⟩ := hall
    rw [List.append_nil] at hw'
    exact ⟨w', hend, hw'⟩

theorem lookup_stocked {w₀ : Workspace} {r : RegistryHandle} {latest : List Schema} (hw : w₀.Stocked r latest w) (key : Datum) :
    (Work.lookup r key).ending w =
      match TypeRef.ofKey key with
      | .ok ref => (.ok (Schema.typeAmong? latest ref), w)
      | .error e => (.error (.ofLookup e), w) := by
  obtain ⟨reg, hreg, hlists⟩ := hw.found
  unfold Work.lookup Work.reference
  rw [Work.ending_bind_ok (Work.registry_ending hreg)]
  cases TypeRef.ofKey key with
  | error e => rfl
  | ok ref =>
    dsimp only
    rw [← hlists.typeAt? ref]
    rfl

/-- What loading leaves prints nothing. -/
theorem output_of_loads (hq : q.Starts w) {w' : Workspace} (hw' : (withRegistry w).Loads w') : w'.output = #[] :=
  hw'.output.trans hq.output

variable {schemas : List Schema} {ref : TypeRef}

/-- The first schema file that makes no schema decides. -/
theorem command_unbuilt (hq : q.Starts w) (hfiles : q.HasFiles) {f : Failure} (hfails : q.schemas = .error f) :
    Shows q.command w (if isReported f then .ok 2 else .error f) [] := by
  have hall := stocks_paths hq hfiles
  rw [hfails] at hall
  obtain ⟨w', hend, hloads⟩ := hall
  have hout := output_of_loads hq hloads
  have hphase : (do
      q.paths.forM (registerPath w.registries.size)
      Work.lookup w.registries.size (.text q.reference)).ending (withRegistry w) = (.error f, w') := by
    rw [Work.ending_bind, hend]
  have hreporting := reporting_error hphase isReported
  refine .of_bind (makeRegistry_ending w) ?_
  by_cases hreported : isReported f = true
  · rw [if_pos hreported] at hreporting ⊢
    exact .of_bind hreporting ⟨_, rfl, congrArg Array.toList hout⟩
  · rw [if_neg hreported] at hreporting ⊢
    have hshows := Shows.of_failing (k := afterLookup w.registries.size q.reference q.asJson q.file) hreporting
    rw [hout] at hshows
    exact hshows

/-- With all schemas registered the reference decides what follows. -/
theorem command_built (hq : q.Starts w) (hfiles : q.HasFiles) (hbuilt : q.schemas = .ok schemas) :
    ∃ w', (withRegistry w).Stocked w.registries.size schemas.reverse w' ∧
      ∀ result lines, Shows (afterLookup w.registries.size q.reference q.asJson q.file
        ((TypeRef.ofKey (.text q.reference)).map (Schema.typeAmong? schemas.reverse)|>.mapError Failure.ofLookup)) w' result lines →
        Shows q.command w result lines := by
  have hall := stocks_paths hq hfiles
  rw [hbuilt] at hall
  obtain ⟨w', hend, hw'⟩ := hall
  refine ⟨w', hw', fun result lines hshows => .of_bind (makeRegistry_ending w) (.of_bind ?_ hshows)⟩
  have hlookup := lookup_stocked hw' (.text q.reference)
  have hphase := Work.ending_bind_ok (k := fun _ => Work.lookup w.registries.size (.text q.reference)) hend
  rw [hlookup] at hphase
  cases hkey : TypeRef.ofKey (.text q.reference) with
  | error e =>
    have hreported : isReported (Failure.ofLookup e) = true := by
      rw [Work.ofLookup_text hkey]
      rfl
    rw [hkey] at hphase
    have hreporting := reporting_error hphase isReported
    rw [if_pos hreported] at hreporting
    exact hreporting
  | ok ref =>
    rw [hkey] at hphase
    exact reporting_ok hphase isReported

/-- A malformed reference ends the command. -/
theorem command_malformed (hq : q.Starts w) (hfiles : q.HasFiles) (hbuilt : q.schemas = .ok schemas) {e : LookupError}
    (hkey : TypeRef.ofKey (.text q.reference) = .error e) : Shows q.command w (.ok 2) [] := by
  obtain ⟨w', hw', hshows⟩ := command_built hq hfiles hbuilt
  have hout : w'.output = #[] := output_of_loads hq hw'.loads
  rw [hkey] at hshows
  exact hshows _ _ ⟨_, rfl, congrArg Array.toList hout⟩

/-- A reference that leads nowhere ends the command. -/
theorem command_unregistered (hq : q.Starts w) (hfiles : q.HasFiles) (hbuilt : q.schemas = .ok schemas)
    (hkey : TypeRef.ofKey (.text q.reference) = .ok ref) (htype : Schema.typeAmong? schemas.reverse ref = none) :
    Shows q.command w (.ok 2) [] := by
  obtain ⟨w', hw', hshows⟩ := command_built hq hfiles hbuilt
  have hfound : ((TypeRef.ofKey (.text q.reference)).map (Schema.typeAmong? schemas.reverse)).mapError Failure.ofLookup = .ok none := by
    rw [hkey, ← htype]
    rfl
  have hout : w'.output = #[] := output_of_loads hq hw'.loads
  rw [hfound] at hshows
  exact hshows _ _ ⟨_, rfl, congrArg Array.toList hout⟩

/-- With a type at hand the document decides what follows. -/
theorem command_named (hq : q.Starts w) (hfiles : q.HasFiles) (hbuilt : q.schemas = .ok schemas)
    (hkey : TypeRef.ofKey (.text q.reference) = .ok ref) {t : ObjectType} (htype : Schema.typeAmong? schemas.reverse ref = some t) :
    ∃ w', (withRegistry w).Stocked w.registries.size schemas.reverse w' ∧
      ∀ result lines, Shows (do
        let read ← reporting isMalformed (readValue q.file)
        afterReading w.registries.size t q.reference q.asJson q.file read) w' result lines → Shows q.command w result lines := by
  obtain ⟨w', hw', hshows⟩ := command_built hq hfiles hbuilt
  have hfound : ((TypeRef.ofKey (.text q.reference)).map (Schema.typeAmong? schemas.reverse)).mapError Failure.ofLookup =
      .ok (some t) := by
    rw [hkey, ← htype]
    rfl
  rw [hfound] at hshows
  exact ⟨w', hw', hshows⟩

theorem readValue_document (hq : q.Starts w) (hfiles : q.HasFiles) {w' : Workspace} (hw' : (withRegistry w).Loads w') :
    (readValue q.file).ending w' =
      match q.document with
      | .ok (v, σ) => (.ok v, { w' with store := σ })
      | .error f => (.error f, w') := by
  obtain ⟨content, hcontent⟩ := hfiles.file
  have hthere : w'.files.at? q.file = some (.file content) := by
    have hsame : w'.files = q.files := hw'.files.trans hq.files
    rw [hsame, hcontent]
  have hstore : w'.store = {} := hw'.store.trans hq.store
  unfold Question.document
  rw [readValue_ending hthere, hstore, hcontent]

/-- A document that cannot be read ends the command. -/
theorem command_unparsed (hq : q.Starts w) (hfiles : q.HasFiles) (hbuilt : q.schemas = .ok schemas)
    (hkey : TypeRef.ofKey (.text q.reference) = .ok ref) {t : ObjectType} (htype : Schema.typeAmong? schemas.reverse ref = some t)
    {f : Failure} (hdocument : q.document = .error f) : Shows q.command w (if isMalformed f then .ok 2 else .error f) [] := by
  obtain ⟨w', hw', hshows⟩ := command_named hq hfiles hbuilt hkey htype
  refine hshows _ _ ?_
  have hread := readValue_document hq hfiles hw'.loads
  rw [hdocument] at hread
  have hreporting := reporting_error hread isMalformed
  have hout := output_of_loads hq hw'.loads
  by_cases hmalformed : isMalformed f = true
  · rw [if_pos hmalformed] at hreporting ⊢
    exact .of_bind hreporting ⟨_, rfl, congrArg Array.toList hout⟩
  · rw [if_neg hmalformed] at hreporting ⊢
    have hfails := Shows.of_failing (k := afterReading w.registries.size t q.reference q.asJson q.file) hreporting
    rw [hout] at hfails
    exact hfails

/-- The command goes on to validate the value, in a workspace with its store and the settings of the question. -/
theorem command_poses (hq : q.Starts w) (hfiles : q.HasFiles) {t : ObjectType} {resolve : Resolver} {v : Value} {σ : Store}
    (hposes : q.Poses t resolve v σ) :
    ∃ w', w'.store = σ ∧ w'.settings = some q.settings ∧ w'.output = #[] ∧
      ∀ result lines, Shows (validateValue t resolve q.reference q.asJson q.file v) w' result lines →
        Shows q.command w result lines := by
  cases hposes with
  | @intro schemas ref _ _ _ hbuilt hkey htype hparsed =>
    obtain ⟨w', hw', hshows⟩ := command_named hq hfiles hbuilt hkey htype
    obtain ⟨reg, hreg, hlists⟩ := hw'.found
    have hread := readValue_document hq hfiles hw'.loads
    rw [hparsed] at hread
    let w'' : Workspace := { w' with store := σ }
    have hresolver : (Work.resolver w.registries.size).ending w'' =
        (.ok fun ref => (Schema.typeAmong? schemas.reverse ref).map ObjectType.checker, w'') := by
      have hsame : w''.resolver reg = fun ref => (Schema.typeAmong? schemas.reverse ref).map ObjectType.checker := by
        funext ref
        have htypes : w''.typeAt? reg ref = Schema.typeAmong? schemas.reverse ref := hlists.typeAt? ref
        rw [← htypes]
        rfl
      rw [← hsame]
      exact Work.resolver_ending hreg
    have hout : w'.output = #[] := output_of_loads hq hw'.loads
    refine ⟨w'', rfl, hw'.loads.settings.trans hq.settings, hout, fun result lines h => ?_⟩
    exact hshows _ _ (.of_bind (reporting_ok hread isMalformed) (.of_bind hresolver h))

/-- In a workspace with the store and the settings of a question a validation ends as it does without the command line. -/
theorem validates_eq {t : ObjectType} {resolve : Resolver} {v : Value} {σ : Store} (hstore : w.store = σ)
    (hsettings : w.settings = some q.settings) :
    ((Work.validate t resolve none v).ending w).1 = q.validates t resolve v σ := by
  have hbound : Work.bound? none w = some q.settings.maxDepth := by
    unfold Work.bound?
    rw [hsettings]
    rfl
  unfold Question.validates
  rw [Work.validate_result hbound, Work.validate_result (n := q.settings.maxDepth) rfl, hstore]

section Validated

variable {t : ObjectType} {resolve : Resolver} {v : Value} {σ : Store}

/-- What the command does with a value is what its last part does after the validation. -/
theorem command_validates (hq : q.Starts w) (hfiles : q.HasFiles) (hposes : q.Poses t resolve v σ) :
    ∃ w₁ w₂, w₂.output = #[] ∧ (Work.validate t resolve none v).ending w₁ = (q.validates t resolve v σ, w₂) ∧
      ∀ result lines, Shows (validateValue t resolve q.reference q.asJson q.file v) w₁ result lines →
        Shows q.command w result lines := by
  obtain ⟨w₁, hstore, hsettings, hout, hshows⟩ := command_poses hq hfiles hposes
  refine ⟨w₁, ((Work.validate t resolve none v).ending w₁).2, ?_, ?_, hshows⟩
  · rw [Work.silent_validate, hout]
  · rw [← validates_eq hstore hsettings]

/-- That the value conforms is told, as far as it can be written. -/
theorem command_passing (hq : q.Starts w) (hfiles : q.HasFiles) (hposes : q.Poses t resolve v σ)
    (hvalid : q.validates t resolve v σ = .ok ()) :
    Shows q.command w ((printed (q.confirmation t)).map fun _ => 0) (written (q.confirmation t)) := by
  obtain ⟨w₁, w₂, hout, hend, hshows⟩ := command_validates hq hfiles hposes
  rw [hvalid] at hend
  obtain ⟨w₃, hend', hlines⟩ := Shows.prints hout (q.confirmation t) 0
  refine hshows _ _ ⟨w₃, (validateValue_passing hend).trans ?_, hlines⟩
  rw [report_passing]
  exact hend'

theorem command_faulty (hq : q.Starts w) (hfiles : q.HasFiles) (hposes : q.Poses t resolve v σ) {e : Fault}
    (hfault : q.validates t resolve v σ = .error (.run e)) : Shows q.command w (.error (.run e)) [] := by
  obtain ⟨w₁, w₂, hout, hend, hshows⟩ := command_validates hq hfiles hposes
  rw [hfault] at hend
  exact hshows _ _ ⟨w₂, validateValue_faulty hend, congrArg Array.toList hout⟩

theorem command_reports (hq : q.Starts w) (hfiles : q.HasFiles) (hposes : q.Poses t resolve v σ) {typeName : Option String}
    {violations : List (Violation Datum)} (hinvalid : q.validates t resolve v σ = .error (.nonconforming typeName violations)) :
    ∃ w₂, w₂.output = #[] ∧ ∀ result lines,
      Shows (report t q.reference q.asJson q.file (some (typeName, violations))) w₂ result lines → Shows q.command w result lines := by
  obtain ⟨w₁, w₂, hout, hend, hshows⟩ := command_validates hq hfiles hposes
  rw [hinvalid] at hend
  refine ⟨w₂, hout, ?_⟩
  rintro result lines ⟨w₃, hend', hlines⟩
  exact hshows _ _ ⟨w₃, (validateValue_failing hend).trans hend', hlines⟩

/-- All violations are told, as far as they can be written. -/
theorem command_failing (hq : q.Starts w) (hfiles : q.HasFiles) (hposes : q.Poses t resolve v σ) {typeName : Option String}
    {violations : List (Violation Datum)} (hinvalid : q.validates t resolve v σ = .error (.nonconforming typeName violations))
    {lines : List String} (hlines : q.account typeName violations = .ok lines) :
    Shows q.command w ((printed lines).map fun _ => 1) (written lines) := by
  obtain ⟨w₂, hout, hreport⟩ := command_reports hq hfiles hposes hinvalid
  refine hreport _ _ ?_
  unfold Question.account at hlines
  split at hlines
  · next hjson =>
    split at hlines
    · next text htext =>
      cases hlines
      rw [hjson, report_written htext]
      exact .prints hout [text] 1
    · cases hlines
  · next hplain =>
    cases hlines
    rw [Bool.eq_false_iff.2 hplain, report_lines]
    exact .prints hout _ 1

theorem command_unwritten (hq : q.Starts w) (hfiles : q.HasFiles) (hposes : q.Poses t resolve v σ) {typeName : Option String}
    {violations : List (Violation Datum)} (hinvalid : q.validates t resolve v σ = .error (.nonconforming typeName violations))
    {e : JsonError} (hunwritten : q.account typeName violations = .error e) : Shows q.command w (.error (.json e)) [] := by
  obtain ⟨w₂, hout, hreport⟩ := command_reports hq hfiles hposes hinvalid
  unfold Question.account at hunwritten
  split at hunwritten
  · next hjson =>
    split at hunwritten
    · cases hunwritten
    next hnone =>
    cases hunwritten
    rw [hjson] at hreport
    have hshows : Shows (report t q.reference true q.file (some (typeName, violations))) w₂ _ _ := report_unwritten hnone
    rw [hout] at hshows
    exact hreport _ _ hshows
  · cases hunwritten

/-- Lines about violations tell all of them. -/
theorem tells_of_account {typeName : Option String} {violations : List (Violation Datum)} {lines : List String}
    (h : q.account typeName violations = .ok lines) : q.Tells typeName violations lines := by
  unfold Question.account at h
  unfold Question.Tells
  split at h
  · next hjson =>
    split at h
    · next text htext =>
      cases h
      obtain ⟨parts, hparts, rfl⟩ := resultDatum_json htext
      rw [if_pos hjson]
      exact ⟨parts, hparts, rfl⟩
    · cases h
  · next hplain =>
    cases h
    rw [if_neg hplain]

end Validated

end Command

end CommandLine

end ShapeCheck
