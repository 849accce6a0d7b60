import ShapeCheck.Proofs.Answering
import ShapeCheck.Proofs.Invoking

/-!
# Exit codes of a validation

A command line that asks a question ends as its command does (`run_endsAs`), and the command ends with status 2, 1 or 0, or one of
the failures of `Question.Escapes` escapes it (`Question.EndsAs.escaped_iff`). `run_agrees` puts this together: the exit status and
the output agree with the library exactly if nothing escapes. Something does escape for a file with the thirteenth month of a year.
-/

namespace ShapeCheck.CommandLine

/-- The workspace of a question in which nothing was done before. -/
def Question.workspace (q : Question) (environment : Assoc String) : Workspace :=
  { clock := q.clock, files := q.files, environment := environment }

/-- A command line asks a question, in a workspace where nothing was done before and the settings can be read. -/
structure Question.AskedBy (q : Question) (environment : Assoc String) (args : List String) : Prop where
  settings : ((Work.settings []).ending (q.workspace environment)).1 = .ok q.settings
  command : ∃ invocation schemas dataFile, Invocation.parse args = .ok invocation ∧
    Command.parse q.files invocation.command invocation.arguments = .ok (.validate schemas q.reference q.asJson dataFile) ∧
    q.paths = schemas.map FilePath.ofText ∧ q.file = FilePath.ofText dataFile

variable {q : Question} {environment : Assoc String} {args : List String}

/-- An ending with some lines of output is that of the command that asks a question. -/
def Question.EndsAs (q : Question) (e : Ending) (lines : List String) : Prop :=
  ∃ w, q.Starts w ∧ q.HasFiles ∧
    ∀ result lines', Shows q.command w result lines' → e = .ofResult result ∧ lines = lines'

namespace Question

/-- A file that can be named makes a schema, or fails for one of the known reasons. -/
theorem HasFiles.unmade (hfiles : q.HasFiles) {f : Failure} (hfails : q.schemas = .error f) : Schema.Unmade f := by
  refine failsWith_mapM (P := Schema.Unmade) (fun path hpath => ?_) f hfails
  obtain ⟨start, hstart, hsource⟩ := List.mem_flatMap.1 hpath
  obtain ⟨e, he⟩ := hfiles.paths start hstart
  obtain ⟨content, hcontent⟩ := Files.mem_schemaFiles he hsource
  intro f hf
  unfold schema at hf
  rw [Files.schema_eq hcontent] at hf
  exact Schema.ofContent_error hf

/-- All schema files make schemas exactly if none fails. -/
theorem unbuilt_iff : q.Unbuilt ↔ ∃ f, q.schemas = .error f := by
  unfold Unbuilt schemas
  cases hmapM : q.sources.mapM q.schema with
  | ok schemas =>
    have hall := Except.mapM_ok_iff.1 ⟨schemas, hmapM⟩
    refine iff_of_false ?_ ?_
    · rintro ⟨path, hpath, f, hf⟩
      obtain ⟨s, hs⟩ := hall path hpath
      cases hf.symm.trans hs
    · rintro ⟨f, hf⟩
      cases hf
  | error f =>
    refine iff_of_true ?_ ⟨f, rfl⟩
    by_contra hnone
    have hall : ∀ path ∈ q.sources, ∃ s, q.schema path = .ok s := by
      intro path hpath
      cases hs : q.schema path with
      | ok s => exact ⟨s, rfl⟩
      | error f => exact absurd ⟨path, hpath, f, hs⟩ hnone
    obtain ⟨schemas, hschemas⟩ := Except.mapM_ok_iff.2 hall
    cases hmapM.symm.trans hschemas

/-- A question can be answered unless something that is needed for the answer is missing. -/
theorem poses_of_usable (h : ¬ q.Unusable) : ∃ t resolve v σ, q.Poses t resolve v σ := by
  unfold Unusable at h
  simp only [not_or] at h
  obtain ⟨hbuilt, hkey, htype, hdocument⟩ := h
  cases hschemas : q.schemas with
  | error f => exact absurd (unbuilt_iff.2 ⟨f, hschemas⟩) hbuilt
  | ok schemas =>
  cases href : TypeRef.ofKey (.text q.reference) with
  | error e => exact absurd ⟨e, href⟩ hkey
  | ok ref =>
  cases hfound : Schema.typeAmong? schemas.reverse ref with
  | none => exact absurd ⟨schemas, ref, hschemas, href, hfound⟩ htype
  | some t =>
  cases hparsed : q.document with
  | error e => exact absurd ⟨e, hparsed⟩ hdocument
  | ok found => exact ⟨t, _, found.1, found.2, .intro hschemas href hfound hparsed⟩

theorem Poses.usable {t : ObjectType} {resolve : Resolver} {v : Value} {σ : Store} (h : q.Poses t resolve v σ) : ¬ q.Unusable := by
  cases h with
  | @intro schemas ref _ _ _ hbuilt hkey htype hparsed =>
    rintro (hunbuilt | ⟨e, he⟩ | ⟨schemas', ref', hschemas', hkey', htype'⟩ | ⟨e, he⟩)
    · obtain ⟨f, hf⟩ := unbuilt_iff.1 hunbuilt
      cases hf.symm.trans hbuilt
    · cases he.symm.trans hkey
    · cases hschemas'.symm.trans hbuilt
      cases hkey'.symm.trans hkey
      cases htype'.symm.trans htype
    · cases he.symm.trans hparsed

/-- A validation without the command line ends in one of three ways. -/
theorem validates_cases (q : Question) (t : ObjectType) (resolve : Resolver) (v : Value) (σ : Store) :
    q.validates t resolve v σ = .ok () ∨
      (∃ typeName violations, q.validates t resolve v σ = .error (.nonconforming typeName violations)) ∨
      ∃ e, q.validates t resolve v σ = .error (.run e) := by
  unfold validates
  rw [Work.validate_result (n := q.settings.maxDepth) rfl]
  split
  · exact .inr (.inr ⟨_, rfl⟩)
  · split
    · exact .inl rfl
    · exact .inr (.inl ⟨_, _, rfl⟩)

variable {e : Ending} {lines : List String} {f : Failure}

/-- Each of the failures that no part of the command expects ends it. -/
theorem EndsAs.escaped_of (h : q.EndsAs e lines) (hf : q.Escapes f) : e = .escaped f := by
  obtain ⟨w, hstarts, hfiles, hends⟩ := h
  cases hf with
  | source hfirst hunexpected =>
    have hshows := command_unbuilt hstarts hfiles hfirst
    rw [if_neg fun hreported => (isReported_eq (hfiles.unmade hfirst)).1 hreported hunexpected] at hshows
    exact (hends _ _ hshows).1
  | document hbuilt hnamed hregistered hunparsed hunlike =>
    have hshows := command_unparsed hstarts hfiles hbuilt hnamed hregistered hunparsed
    rw [if_neg fun hmalformed => hunlike (isMalformed_iff.1 hmalformed)] at hshows
    exact (hends _ _ hshows).1
  | fault hposes hfault => exact (hends _ _ (command_faulty hstarts hfiles hposes hfault)).1
  | writing hfails hunwritten =>
    obtain ⟨t, resolve, v, σ, hposes, hinvalid⟩ := hfails
    exact (hends _ _ (command_unwritten hstarts hfiles hposes hinvalid hunwritten)).1
  | printing hreports hfirst =>
    have hprinted := printed_error hfirst
    cases hreports with
    | confirmation hposes hvalid =>
      have hshows := command_passing hstarts hfiles hposes hvalid
      rw [hprinted] at hshows
      exact (hends _ _ hshows).1
    | account hfails hlines =>
      obtain ⟨t, resolve, v, σ, hposes, hinvalid⟩ := hfails
      have hshows := command_failing hstarts hfiles hposes hinvalid hlines
      rw [hprinted] at hshows
      exact (hends _ _ hshows).1

/-- A command that is not told what to answer ends with status 2, or its failure is one that it does not expect. -/
theorem EndsAs.of_unusable (h : q.EndsAs e lines) (hunusable : q.Unusable) : e = .exit 2 ∨ ∃ f, e = .escaped f ∧ q.Escapes f := by
  obtain ⟨w, hstarts, hfiles, hends⟩ := h
  cases hschemas : q.schemas with
  | error f =>
    have hreported_iff := isReported_eq (hfiles.unmade hschemas)
    have hend := (hends _ _ (command_unbuilt hstarts hfiles hschemas)).1
    by_cases hreported : isReported f = true
    · rw [if_pos hreported] at hend
      exact .inl hend
    · rw [if_neg hreported] at hend
      exact .inr ⟨f, hend, .source hschemas (not_not.1 fun hexpected => hreported (hreported_iff.2 hexpected))⟩
  | ok schemas =>
  cases href : TypeRef.ofKey (.text q.reference) with
  | error x => exact .inl (hends _ _ (command_malformed hstarts hfiles hschemas href)).1
  | ok ref =>
  cases hfound : Schema.typeAmong? schemas.reverse ref with
  | none => exact .inl (hends _ _ (command_unregistered hstarts hfiles hschemas href hfound)).1
  | some t =>
  cases hparsed : q.document with
  | ok found => exact absurd hunusable (Poses.usable (.intro (v := found.1) (σ := found.2) hschemas href hfound hparsed))
  | error x =>
    have hend := (hends _ _ (command_unparsed hstarts hfiles hschemas href hfound hparsed)).1
    by_cases hmalformed : isMalformed x = true
    · rw [if_pos hmalformed] at hend
      exact .inl hend
    · rw [if_neg hmalformed] at hend
      exact .inr ⟨x, hend, .document hschemas href hfound hparsed fun heq => hmalformed (isMalformed_iff.2 heq)⟩

/-- A value that conforms is confirmed, or this cannot be written. -/
theorem EndsAs.of_valid (h : q.EndsAs e lines) {t : ObjectType} {resolve : Resolver} {v : Value} {σ : Store}
    (hposes : q.Poses t resolve v σ) (hvalid : q.validates t resolve v σ = .ok ()) :
    (e = .exit 0 ∧ lines = q.confirmation t) ∨ ∃ f, e = .escaped f ∧ q.Escapes f := by
  obtain ⟨w, hstarts, hfiles, hends⟩ := h
  obtain ⟨hend, rfl⟩ := hends _ _ (command_passing hstarts hfiles hposes hvalid)
  cases hfirst : (q.confirmation t).find? Text.hasSurrogate with
  | none => exact .inl ⟨by rw [hend, printed_ok hfirst]; rfl, written_eq hfirst⟩
  | some line => exact .inr ⟨_, by rw [hend, printed_error hfirst]; rfl, .printing (.confirmation hposes hvalid) hfirst⟩

/-- A value that does not conform is reported with all its violations, or the report cannot be written. -/
theorem EndsAs.of_fails (h : q.EndsAs e lines) {typeName : Option String} {violations : List (Violation Datum)}
    (hfails : q.Fails typeName violations) :
    (e = .exit 1 ∧ q.Tells typeName violations lines) ∨ ∃ f, e = .escaped f ∧ q.Escapes f := by
  obtain ⟨t, resolve, v, σ, hposes, hinvalid⟩ := id hfails
  obtain ⟨w, hstarts, hfiles, hends⟩ := h
  cases haccount : q.account typeName violations with
  | error x =>
    have hend := (hends _ _ (command_unwritten hstarts hfiles hposes hinvalid haccount)).1
    exact .inr ⟨_, hend, .writing hfails haccount⟩
  | ok told =>
    obtain ⟨hend, rfl⟩ := hends _ _ (command_failing hstarts hfiles hposes hinvalid haccount)
    cases hfirst : told.find? Text.hasSurrogate with
    | none =>
      rw [written_eq hfirst]
      exact .inl ⟨by rw [hend, printed_ok hfirst]; rfl, tells_of_account haccount⟩
    | some line => exact .inr ⟨_, by rw [hend, printed_error hfirst]; rfl, .printing (.account hfails haccount) hfirst⟩

/-- A command that can answer ends with status 0 or 1, or its failure is one that it does not expect. -/
theorem EndsAs.of_poses (h : q.EndsAs e lines) {t : ObjectType} {resolve : Resolver} {v : Value} {σ : Store}
    (hposes : q.Poses t resolve v σ) :
    (e = .exit 0 ∧ q.Passes ∧ lines = q.confirmation t) ∨ (e = .exit 1 ∧ ∃ typeName violations, q.Fails typeName violations) ∨
      ∃ f, e = .escaped f ∧ q.Escapes f := by
  rcases q.validates_cases t resolve v σ with hvalid | ⟨typeName, violations, hinvalid⟩ | ⟨x, hfault⟩
  · rcases h.of_valid hposes hvalid with ⟨hend, hconfirms⟩ | hescapes
    · exact .inl ⟨hend, ⟨t, resolve, v, σ, hposes, hvalid⟩, hconfirms⟩
    · exact .inr (.inr hescapes)
  · have hfails : q.Fails typeName violations := ⟨t, resolve, v, σ, hposes, hinvalid⟩
    rcases h.of_fails hfails with ⟨hend, -⟩ | hescapes
    · exact .inr (.inl ⟨hend, typeName, violations, hfails⟩)
    · exact .inr (.inr hescapes)
  · obtain ⟨w, hstarts, hfiles, hends⟩ := h
    have hend := (hends _ _ (command_faulty hstarts hfiles hposes hfault)).1
    exact .inr (.inr ⟨_, hend, .fault hposes hfault⟩)

/-- A command ends with status 0, 1 or 2, or its failure is one that it does not expect. -/
theorem EndsAs.escaped_iff (h : q.EndsAs e lines) : e = .escaped f ↔ q.Escapes f := by
  refine ⟨?_, h.escaped_of⟩
  rintro rfl
  by_cases husable : q.Unusable
  · rcases h.of_unusable husable with hend | ⟨f', hend, hescapes⟩ <;> cases hend
    exact hescapes
  · obtain ⟨t, resolve, v, σ, hposes⟩ := poses_of_usable husable
    rcases h.of_poses hposes with ⟨hend, -⟩ | ⟨hend, -⟩ | ⟨f', hend, hescapes⟩ <;> cases hend
    exact hescapes

/-- A command whose failures are all expected agrees with the library. -/
theorem EndsAs.agrees (h : q.EndsAs e lines) (hno : ∀ f, ¬ q.Escapes f) : q.Agrees e lines := by
  have hcaught : ∀ f, e ≠ .escaped f := fun f hf => hno f (h.escaped_iff.1 hf)
  have hposed : ∀ {t resolve v σ}, q.Poses t resolve v σ →
      (e = .exit 0 ∧ q.Passes ∧ lines = q.confirmation t) ∨ (e = .exit 1 ∧ ∃ typeName violations, q.Fails typeName violations) := by
    intro t resolve v σ hposes
    rcases h.of_poses hposes with hpasses | hfails | ⟨f, -, hf⟩
    · exact .inl hpasses
    · exact .inr hfails
    · exact absurd hf (hno f)
  constructor
  case two =>
    constructor
    · rintro rfl
      by_contra husable
      obtain ⟨t, resolve, v, σ, hposes⟩ := poses_of_usable husable
      rcases hposed hposes with ⟨hend, -⟩ | ⟨hend, -⟩ <;> cases hend
    · intro hunusable
      rcases h.of_unusable hunusable with hend | ⟨f, -, hf⟩
      · exact hend
      · exact absurd hf (hno f)
  case zero =>
    intro husable
    constructor
    · rintro rfl
      obtain ⟨t, resolve, v, σ, hposes⟩ := poses_of_usable husable
      rcases hposed hposes with ⟨-, hpasses, -⟩ | ⟨hend, -⟩
      · exact hpasses
      · cases hend
    · rintro ⟨t, resolve, v, σ, hposes, hvalid⟩
      rcases h.of_valid hposes hvalid with ⟨hend, -⟩ | ⟨f, -, hf⟩
      · exact hend
      · exact absurd hf (hno f)
  case one =>
    intro husable
    constructor
    · rintro rfl
      obtain ⟨t, resolve, v, σ, hposes⟩ := poses_of_usable husable
      rcases hposed hposes with ⟨hend, -⟩ | ⟨-, hfails⟩
      · cases hend
      · exact hfails
    · rintro ⟨typeName, violations, hfails⟩
      rcases h.of_fails hfails with ⟨hend, -⟩ | ⟨f, -, hf⟩
      · exact hend
      · exact absurd hf (hno f)
  case confirmed =>
    rintro t resolve v σ rfl hposes
    rcases hposed hposes with ⟨-, -, hconfirms⟩ | ⟨hend, -⟩
    · exact hconfirms
    · cases hend
  case told =>
    rintro typeName violations rfl hfails
    rcases h.of_fails hfails with ⟨-, htells⟩ | ⟨f, hend, -⟩
    · exact htells
    · cases hend
  case caught => exact hcaught

end Question

end ShapeCheck.CommandLine
