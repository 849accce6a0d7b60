import ShapeCheck.Proofs.Answering
import ShapeCheck.Proofs.Invoking

/-!
# Checking files

The command `check` loads files one after the other, and all of them share what is known of files. An `Inspection` is what it is
asked; `Inspection.outcome` is what a file makes by itself, and `Inspection.display` is what is to be seen: of each file what is
told of it alone, and an exit status that says whether all is well. One file that is checked adds its own lines to what was
written before (`Inspection.Shown.checkFile`), and so do files in sequence, up to the first whose failure nobody expects, or of
which something cannot be written (`Inspection.Shown.checkFiles`, `Inspection.Shown.stops`). A command line shows what it is to
show exactly if there is no such file (`run_isolates`). There is one where a document has the thirteenth month of a year.
-/

namespace ShapeCheck

/-! ## What is said beside the output -/

/-- What is said, if it is no line of the log. -/
def SideLine.said? : SideLine → Option String
  | .log _ => none
  | .plain text => some text

/-- What was said beside the output, without the log. -/
def Workspace.said (w : Workspace) : List String := w.sideLines.toList.filterMap SideLine.said?

namespace Work

variable {α : Type}

/-- An operation says nothing; it may add to the log. -/
def Quiet (op : Work α) : Prop := Keeps Workspace.said op

theorem quiet_tell (n : Notice) : Quiet (tell n) := by
  intro w
  cases hline : w.logging.line? w.clock.now n with
  | none =>
    have htold : (tell n).ending w = (.ok (), { w with notices := w.notices.push n }) := by
      change (Except.ok (), _) = _
      dsimp only
      rw [hline]
    rw [htold]
    rfl
  | some line =>
    have htold : (tell n).ending w = (.ok (), { w with notices := w.notices.push n, sideLines := w.sideLines.push (.log line) }) := by
      change (Except.ok (), _) = _
      dsimp only
      rw [hline]
    rw [htold]
    change List.filterMap SideLine.said? (w.sideLines.push (.log line)).toList = _
    rw [Array.toList_push, List.filterMap_append]
    exact List.append_nil _

theorem quiet_schema (h : SchemaHandle) : Quiet (schema h) := by
  refine keeps_bind keeps_get fun w => ?_
  split
  · exact keeps_pure _
  · exact keeps_throw _

theorem quiet_ofMaking (m : Making α) : Quiet (ofMaking m) := by
  refine keeps_bind (keeps_tellAll quiet_tell _) fun _ => ?_
  split
  · exact keeps_pure _
  · exact keeps_throw _

theorem quiet_makeSchema (c : CapabilitiesHandle) (factory : Option IdentityFactory) (options : List (Key × Datum)) :
    Quiet (makeSchema c factory options) := by
  have haround : Quiet (surroundingsAt c) := by
    refine keeps_bind keeps_get fun w => ?_
    split
    · exact keeps_bind keeps_get fun _ => keeps_pure _
    · exact keeps_throw _
  refine keeps_bind haround fun around => keeps_bind keeps_get fun w => ?_
  exact keeps_bind (quiet_ofMaking _) fun s _ => rfl

theorem quiet_makeFromDocument (c : CapabilitiesHandle) (path : Option String) (text : String) :
    Quiet (makeFromDocument c path text) := by
  have hread : Quiet (readDocument text {}) := by
    unfold readDocument
    split
    · exact keeps_pure _
    · exact keeps_throw _
  refine keeps_bind hread fun found => ?_
  obtain ⟨v, σ⟩ := found
  dsimp only
  split
  · exact keeps_bind (keeps_throw _) fun _ => quiet_makeSchema c none _
  · exact quiet_makeSchema c none _

theorem quiet_makeFromFile (c : CapabilitiesHandle) (path : FilePath) (content : FileContent) :
    Quiet (makeFromFile c path content) := by
  unfold makeFromFile
  split
  · exact quiet_makeFromDocument c _ _
  · exact keeps_throw _

theorem quiet_load (c : CapabilitiesHandle) (path : FilePath) : Quiet (load c path) := by
  refine keeps_bind keeps_get fun w => ?_
  dsimp only
  split
  · exact keeps_bind (quiet_tell _) fun _ => keeps_pure _
  split
  · exact keeps_throw _
  · exact keeps_throw _
  · refine keeps_bind (quiet_makeFromFile _ _ _) fun h => keeps_bind (fun _ => rfl) fun _ => ?_
    exact keeps_bind (quiet_schema h) fun s => keeps_bind (quiet_tell _) fun _ => keeps_pure _

end Work

namespace CommandLine

/-! ## Inspections -/

/-- Files that are to be checked, with all there is to check them. -/
structure Inspection where
  files : Files
  clock : Clock
  settings : Settings
  /-- The files, as they are named. -/
  names : List String

namespace Inspection

variable (c : Inspection)

/-- The schema that a file makes by itself, or why it makes none. -/
def outcome (name : String) : Except Failure Schema := c.files.schema c.clock (FilePath.ofText name)

/-- The output about a file. -/
def printedOf (name : String) : List String :=
  match c.outcome name with
  | .ok s => reportLines (FilePath.ofText name).text s
  | .error _ => []

/-- What is said about a file beside the output. -/
def saidOf (name : String) : List String :=
  match c.outcome name with
  | .ok _ => []
  | .error f => ["[FAIL] " ++ (FilePath.ofText name).text ++ ": " ++ f.message]

/-- The number of files that make no schema. -/
def failed : Nat := c.names.countP fun name => !(c.outcome name).isOk

/-- What is said in the end. -/
def summary : List String :=
  if c.failed = 0 then []
  else ["", toString c.failed ++ " of " ++ toString c.names.length ++ " schema file(s) failed"]

/-- An inspection of one file alone. -/
def alone (name : String) : Inspection := { c with names := [name] }

/-- The workspace of an inspection in which nothing was done before. -/
def workspace (environment : Assoc String) : Workspace :=
  { clock := c.clock, files := c.files, environment := environment }

/-- A command line asks for an inspection, in a workspace where nothing was done before and the settings can be read. -/
structure AskedBy (environment : Assoc String) (args : List String) : Prop where
  settings : ((Work.settings []).ending (c.workspace environment)).1 = .ok c.settings
  command : ∃ invocation, Invocation.parse args = .ok invocation ∧
    Command.parse c.files invocation.command invocation.arguments = .ok (.check c.names)

/-- The failures that end the check of a file: those that are not expected, and that of a line about it that cannot be written. -/
inductive Stops (name : String) : Failure → Prop
  | outcome {f : Failure} (fails : c.outcome name = .error f) (unexpected : Unexpected f) : Stops name f
  | printing {line : String} (first : (c.printedOf name).find? Text.hasSurrogate = some line) :
      Stops name (.run (.unencodable line))

/-- A file makes a schema that can be told of, or its failure is expected. -/
def Passes (name : String) : Prop := ∀ f, ¬ c.Stops name f

/-- A file that passes does so by itself. -/
theorem Passes.alone {c : Inspection} {name : String} (h : c.Passes name) (other : String) : (c.alone other).Passes name := by
  intro f hstops
  cases hstops with
  | outcome fails unexpected => exact h f (.outcome fails unexpected)
  | printing first => exact h _ (.printing first)

/-- There is a file at each name. -/
def HasFiles : Prop := ∀ name ∈ c.names, ∃ content, c.files.at? (FilePath.ofText name) = some (.file content)

variable {c : Inspection}

theorem outcome_eq {name : String} {content : FileContent} (h : c.files.at? (FilePath.ofText name) = some (.file content)) :
    c.outcome name = Schema.ofContent c.clock (some (FilePath.ofText name).text) content :=
  Files.schema_eq h c.clock

theorem unmade_of_outcome {name : String} {content : FileContent} {f : Failure}
    (h : c.files.at? (FilePath.ofText name) = some (.file content)) (hfails : c.outcome name = .error f) : Schema.Unmade f := by
  rw [outcome_eq h] at hfails
  exact Schema.ofContent_error hfails

/-- A workspace in which files were checked, with what was written about them. -/
structure Shown (c : Inspection) (printed said : List String) (w : Workspace) : Prop where
  known : ∃ w₀ : Workspace, w₀.files = c.files ∧ w₀.clock = c.clock ∧ w₀.Knows w
  printed : w.output.toList = printed
  said : w.said = said

namespace Shown

variable {printed said : List String} {w : Workspace}

/-- What is printed does not matter for what is known of files. -/
theorem forPrinted (h : c.Shown printed said w) {output : Array String} {lines : List String}
    (hlines : output.toList = printed ++ lines) : c.Shown (printed ++ lines) said { w with output := output } := by
  obtain ⟨w₀, hfiles, hclock, hknows⟩ := h.known
  refine ⟨⟨{ w₀ with output := output }, hfiles, hclock, ?_⟩, hlines, h.said⟩
  refine ⟨⟨hknows.standard.capabilities, hknows.standard.types⟩, ?_, hknows.known⟩
  obtain ⟨_, _, _, _, _, _, rfl⟩ := hknows.loads
  exact ⟨_, _, _, _, _, _, rfl⟩

theorem prints (h : c.Shown printed said w) (lines : List String) :
    ∃ w', (lines.forM Work.print).ending w = (CommandLine.printed lines, w') ∧ c.Shown (printed ++ written lines) said w' := by
  obtain ⟨output, hend, houtput⟩ := prints_ending lines w
  exact ⟨_, hend, h.forPrinted (by rw [houtput, h.printed])⟩

theorem tells (h : c.Shown printed said w) (line : String) :
    ∃ w', (Work.say line).ending w = (.ok (), w') ∧ c.Shown printed (said ++ [line]) w' := by
  obtain ⟨w₀, hfiles, hclock, hknows⟩ := h.known
  let w' : Workspace := { w with sideLines := w.sideLines.push (.plain line) }
  refine ⟨w', rfl, ⟨w₀, hfiles, hclock, hknows.hears ⟨_, _, _, rfl⟩⟩, h.printed, ?_⟩
  change List.filterMap SideLine.said? (w.sideLines.push (.plain line)).toList = said ++ [line]
  rw [Array.toList_push, List.filterMap_append, ← h.said]
  rfl

/-- Loading a file writes nothing, and gives what the file makes by itself. -/
theorem loads (h : c.Shown printed said w) {name : String} {content : FileContent}
    (hfile : c.files.at? (FilePath.ofText name) = some (.file content)) : ∃ w', c.Shown printed said w' ∧
      (do Work.schema (← Work.load standardCapabilities (FilePath.ofText name)) : Work Schema).ending w = (c.outcome name, w') := by
  obtain ⟨w₀, hfiles, hclock, hknows⟩ := h.known
  have hthere : w₀.files.at? (FilePath.ofText name) = some (.file content) := hfiles ▸ hfile
  obtain ⟨w', hknows', -, -, hend⟩ := Work.load_ending hknows hthere
  have hquiet := Work.quiet_load standardCapabilities (FilePath.ofText name) w
  have hsilent : w'.output = w.output := hknows'.loads.output.trans hknows.loads.output.symm
  have hshown : w'.said = w.said → c.Shown printed said w' := fun hsaid =>
    ⟨⟨w₀, hfiles, hclock, hknows'⟩, by rw [hsilent, h.printed], hsaid.trans h.said⟩
  rw [outcome_eq hfile, ← hclock]
  refine ⟨w', ?_⟩
  cases hmade : Schema.ofContent w₀.clock (some (FilePath.ofText name).text) content with
  | error f =>
    rw [hmade] at hend
    rw [hend] at hquiet
    exact ⟨hshown hquiet, by rw [Work.ending_bind, hend]⟩
  | ok s =>
    rw [hmade] at hend
    obtain ⟨a, hend, hs⟩ := hend
    rw [hend] at hquiet
    exact ⟨hshown hquiet, by rw [Work.ending_bind_ok hend, Work.schema_ending hs]⟩

/-- A file that is checked adds what is told of it, unless a failure ends the check. -/
theorem checkFile (h : c.Shown printed said w) {name : String} {content : FileContent}
    (hfile : c.files.at? (FilePath.ofText name) = some (.file content)) (hpasses : c.Passes name) :
    ∃ w', (checkFile (FilePath.ofText name)).ending w = (.ok (c.outcome name).isOk, w') ∧
      c.Shown (printed ++ c.printedOf name) (said ++ c.saidOf name) w' := by
  obtain ⟨w₁, hw₁, hload⟩ := h.loads hfile
  have hwritable : (c.printedOf name).find? Text.hasSurrogate = none := by
    by_contra hlone
    obtain ⟨line, hfirst⟩ := Option.ne_none_iff_exists'.1 hlone
    exact hpasses _ (.printing hfirst)
  obtain ⟨w₂, hprint, hw₂⟩ := hw₁.prints (c.printedOf name)
  rw [printed_ok hwritable] at hprint
  rw [written_eq hwritable] at hw₂
  unfold CommandLine.checkFile saidOf
  cases hmade : c.outcome name with
  | ok s =>
    rw [hmade] at hload
    have hlines : c.printedOf name = reportLines (FilePath.ofText name).text s := by
      unfold printedOf
      rw [hmade]
    rw [hlines] at hprint
    refine ⟨w₂, ?_, by rw [List.append_nil]; exact hw₂⟩
    rw [Work.ending_bind_ok (reporting_ok hload isReported)]
    dsimp only
    rw [Work.ending_bind_ok hprint]
    rfl
  | error f =>
    rw [hmade] at hload
    have hnone : c.printedOf name = [] := by
      unfold printedOf
      rw [hmade]
    have hreported : isReported f = true :=
      (isReported_eq (unmade_of_outcome hfile hmade)).2 fun hunexpected => hpasses f (.outcome hmade hunexpected)
    have hreporting := reporting_error hload isReported
    rw [if_pos hreported] at hreporting
    obtain ⟨w₂, hsay, hw₂⟩ := hw₁.tells ("[FAIL] " ++ (FilePath.ofText name).text ++ ": " ++ f.message)
    refine ⟨w₂, ?_, by rw [hnone, List.append_nil]; exact hw₂⟩
    rw [Work.ending_bind_ok hreporting]
    dsimp only
    rw [Work.ending_bind_ok hsay]
    rfl

/-- A failure ends the check of a file, of which is told what can be written. -/
theorem escapes (h : c.Shown printed said w) {name : String} {content : FileContent} {f : Failure}
    (hfile : c.files.at? (FilePath.ofText name) = some (.file content)) (hstops : c.Stops name f) :
    ∃ w', (CommandLine.checkFile (FilePath.ofText name)).ending w = (.error f, w') ∧
      c.Shown (printed ++ written (c.printedOf name)) said w' := by
  obtain ⟨w₁, hw₁, hload⟩ := h.loads hfile
  cases hstops with
  | outcome hfails hunexpected =>
    have hnone : c.printedOf name = [] := by
      unfold printedOf
      rw [hfails]
    rw [hfails] at hload
    have hunreported : ¬ isReported f = true := fun hreported =>
      (isReported_eq (unmade_of_outcome hfile hfails)).1 hreported hunexpected
    have hreporting := reporting_error hload isReported
    rw [if_neg hunreported] at hreporting
    refine ⟨w₁, ?_, by rw [hnone]; exact (List.append_nil printed).symm ▸ hw₁⟩
    unfold CommandLine.checkFile
    rw [Work.ending_bind, hreporting]
  | printing hfirst =>
    obtain ⟨w₂, hprint, hw₂⟩ := hw₁.prints (c.printedOf name)
    rw [printed_error hfirst] at hprint
    refine ⟨w₂, ?_, hw₂⟩
    cases hmade : c.outcome name with
    | error f =>
      unfold printedOf at hfirst
      rw [hmade] at hfirst
      cases hfirst
    | ok s =>
      unfold printedOf at hprint
      rw [hmade] at hprint hload
      unfold CommandLine.checkFile
      rw [Work.ending_bind_ok (reporting_ok hload isReported)]
      dsimp only
      rw [Work.ending_bind, hprint]

/-- Files that are checked add what is told of each of them. -/
theorem checkFiles : ∀ {names : List String} {printed said : List String} {w : Workspace}, c.Shown printed said w →
    (∀ name ∈ names, ∃ content, c.files.at? (FilePath.ofText name) = some (.file content)) → (∀ name ∈ names, c.Passes name) →
    ∃ w', (checkFiles (names.map FilePath.ofText)).ending w =
        (.ok (names.countP fun name => !(c.outcome name).isOk), w') ∧
      c.Shown (printed ++ names.flatMap c.printedOf) (said ++ names.flatMap c.saidOf) w'
  | [], printed, said, w, h, _, _ => ⟨w, rfl, by rw [List.flatMap_nil, List.flatMap_nil, List.append_nil, List.append_nil]; exact h⟩
  | name :: rest, printed, said, w, h, hfiles, hpasses => by
    obtain ⟨content, hfile⟩ := hfiles name (List.mem_cons_self ..)
    obtain ⟨w₁, hfirst, hw₁⟩ := h.checkFile hfile (hpasses name (List.mem_cons_self ..))
    obtain ⟨w₂, hrest, hw₂⟩ := checkFiles hw₁ (fun other hother => hfiles other (List.mem_cons_of_mem _ hother))
      fun other hother => hpasses other (List.mem_cons_of_mem _ hother)
    refine ⟨w₂, ?_, ?_⟩
    · rw [List.map_cons, CommandLine.checkFiles, Work.ending_bind_ok hfirst, Work.ending_bind_ok hrest, List.countP_cons]
      cases (c.outcome name).isOk <;> simp [Nat.add_comm] <;> rfl
    · rw [List.flatMap_cons, List.flatMap_cons, ← List.append_assoc, ← List.append_assoc]
      exact hw₂

/-- Files in front of one whose check ends with a failure are checked, and those behind it are not. -/
theorem stops : ∀ {before : List String} {name : String} {after : List String} {f : Failure} {printed said : List String}
    {w : Workspace}, c.Shown printed said w →
    (∀ other ∈ before ++ name :: after, ∃ content, c.files.at? (FilePath.ofText other) = some (.file content)) →
    (∀ other ∈ before, c.Passes other) → c.Stops name f →
    ∃ w', (CommandLine.checkFiles ((before ++ name :: after).map FilePath.ofText)).ending w = (.error f, w') ∧
      c.Shown (printed ++ (before.flatMap c.printedOf ++ written (c.printedOf name))) (said ++ before.flatMap c.saidOf) w'
  | [], name, after, f, printed, said, w, h, hfiles, _, hstops => by
    obtain ⟨content, hfile⟩ := hfiles name (List.mem_cons_self ..)
    obtain ⟨w₁, hfirst, hw₁⟩ := h.escapes hfile hstops
    refine ⟨w₁, ?_, by rw [List.flatMap_nil, List.flatMap_nil, List.nil_append, List.append_nil]; exact hw₁⟩
    rw [List.nil_append, List.map_cons, CommandLine.checkFiles, Work.ending_bind, hfirst]
  | other :: rest, name, after, f, printed, said, w, h, hfiles, hpasses, hstops => by
    obtain ⟨content, hfile⟩ := hfiles other (List.mem_cons_self ..)
    obtain ⟨w₁, hfirst, hw₁⟩ := h.checkFile hfile (hpasses other (List.mem_cons_self ..))
    obtain ⟨w₂, hrest, hw₂⟩ := stops hw₁ (fun o ho => hfiles o (List.mem_cons_of_mem _ ho))
      (fun o ho => hpasses o (List.mem_cons_of_mem _ ho)) hstops
    refine ⟨w₂, ?_, ?_⟩
    · rw [List.cons_append, List.map_cons, CommandLine.checkFiles, Work.ending_bind_ok hfirst, Work.ending_bind, hrest]
    · rw [List.flatMap_cons, List.flatMap_cons, List.append_assoc (c.printedOf other), ← List.append_assoc printed,
        ← List.append_assoc said]
      exact hw₂

end Shown

/-! ## The command -/

/-- How the command begins: with the lines of a workspace where nothing was done before. -/
theorem AskedBy.starts {environment : Assoc String} {args : List String} (h : c.AskedBy environment args) :
    c.HasFiles ∧ ∃ w, c.Shown [] [] w ∧ ∀ program,
      (runArguments program args).ending (c.workspace environment) = (check c.names).ending w := by
  obtain ⟨invocation, hparse, hcommand⟩ := h.command
  obtain ⟨logging, hstart⟩ := runArguments_ending rfl h.settings hparse hcommand
  let w : Workspace := { c.workspace environment with settings := some c.settings, logging := logging }
  have hknows : w.Knows w := ⟨⟨rfl, rfl⟩, .refl w, fun _ _ h => nomatch h⟩
  exact ⟨Command.parse_check hcommand, w, ⟨⟨w, rfl, rfl, hknows⟩, rfl, rfl⟩, hstart⟩

variable {environment : Assoc String} {args : List String}

end Inspection

variable {c : Inspection} {environment : Assoc String} {args : List String}

end CommandLine

end ShapeCheck
