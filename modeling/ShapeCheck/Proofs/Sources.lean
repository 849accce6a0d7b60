import ShapeCheck.CommandLine.Run
import ShapeCheck.Proofs.Refusals

/-!
# Schemas from files

A file that was loaded before is not read again, and one file may be named in several ways. Neither shows: all paths that lead to
a file resolve to one path (`Files.at?_resolve`), so what is known of that path is what the file makes (`Workspace.Knows`), and a
file makes the schema that it makes by itself, whatever else was loaded (`Work.load_ending`). `Workspace.Stocked` is a workspace
in which some schemas were registered: a reference leads to the last one with its key. `Work.Stocks` are operations that load
and register files in order, up to the first one that makes no schema.
-/

namespace ShapeCheck

/-! ## Paths to one file -/

namespace Files

/-- Following parts leads to where climbing them leads. -/
theorem walk_eq (fs : Files) : ∀ {parts here there : List String}, fs.walk here parts = some there →
    there = FilePath.climb here.reverse parts
  | [], here, there, h => by
    unfold walk at h
    unfold FilePath.climb
    rw [List.reverse_reverse]
    exact (Option.some.inj h).symm
  | part :: rest, here, there, h => by
    unfold walk at h
    unfold FilePath.climb
    split at h
    · by_cases hup : part = ".."
      · rw [if_pos hup] at h ⊢
        rw [List.tail_reverse]
        exact walk_eq fs h
      · rw [if_neg hup] at h ⊢
        have hwalk := walk_eq fs h
        rwa [List.reverse_append] at hwalk
    · cases h

/-- What a path leads to stands at the path that it resolves to. -/
theorem at?_resolve {fs : Files} {path : FilePath} {e : FileEntry} (h : fs.at? path = some e) :
    fs.entryAt? (path.resolve fs.present).parts = some e := by
  unfold at? at h
  obtain ⟨there, hwalk, hentry⟩ := Option.bind_eq_some_iff.1 h
  rw [walk_eq fs hwalk] at hentry
  exact hentry

end Files

/-! ## What is only told -/

/-- A workspace and what telling and tracing leave of it. -/
def Workspace.Hears (w w' : Workspace) : Prop :=
  ∃ notices sideLines spans, w' = { w with notices := notices, sideLines := sideLines, spans := spans }

namespace Workspace.Hears

theorem refl (w : Workspace) : Hears w w := ⟨w.notices, w.sideLines, w.spans, rfl⟩

theorem trans {w w' w'' : Workspace} (h : Hears w w') (h' : Hears w' w'') : Hears w w'' := by
  obtain ⟨_, _, _, rfl⟩ := h
  obtain ⟨_, _, _, rfl⟩ := h'
  exact ⟨_, _, _, rfl⟩

theorem schemas {w w' : Workspace} (h : Hears w w') : w'.schemas = w.schemas := by
  obtain ⟨_, _, _, rfl⟩ := h
  rfl

theorem registries {w w' : Workspace} (h : Hears w w') : w'.registries = w.registries := by
  obtain ⟨_, _, _, rfl⟩ := h
  rfl

end Workspace.Hears

namespace Work

variable {α β : Type}

theorem tell_hears (n : Notice) (w : Workspace) : ∃ w', (tell n).ending w = (.ok (), w') ∧ w.Hears w' :=
  ⟨_, rfl, _, _, _, rfl⟩

theorem tellAll_hears : ∀ (ns : List Notice) (w : Workspace), ∃ w', (tellAll ns).ending w = (.ok (), w') ∧ w.Hears w'
  | [], w => ⟨w, rfl, .refl w⟩
  | n :: rest, w => by
    obtain ⟨w₁, hfirst, hhears⟩ := tell_hears n w
    obtain ⟨w₂, hrest, hhears'⟩ := tellAll_hears rest w₁
    refine ⟨w₂, ?_, hhears.trans hhears'⟩
    change (tell n >>= fun _ => tellAll rest).ending w = _
    rw [ending_bind_ok hfirst, hrest]

theorem ofMaking_hears (m : Making α) (w : Workspace) :
    ∃ w', (ofMaking m).ending w = ((m.run.run []).1.mapError Failure.schema, w') ∧ w.Hears w' := by
  unfold ofMaking
  rcases m.run.run [] with ⟨result, ns⟩
  obtain ⟨w', hend, hhears⟩ := tellAll_hears ns w
  refine ⟨w', ?_, hhears⟩
  dsimp only
  rw [ending_bind_ok hend]
  cases result <;> rfl

end Work

/-! ## The schema of a document -/

namespace Schema

/-- The schema that entries make with capabilities, if there are some. -/
def fromEntries (capabilities : Option Capabilities) (built : TypeHandle → Option ObjectType) (clock : Clock)
    (options : List (Key × Datum)) : Except Failure Schema :=
  match capabilities with
  | none => .error .strayHandle
  | some caps => ((make ⟨caps, built⟩ clock none options).run.run []).1.mapError .schema

/-- The schema that a document makes with capabilities, if there are some. -/
def fromDocument (capabilities : Option Capabilities) (built : TypeHandle → Option ObjectType) (clock : Clock)
    (path : Option String) (text : String) : Except Failure Schema :=
  match Yaml.load text {} with
  | .error e => .error (.yaml e)
  | .ok (v, σ) =>
    if (σ.entries? v).isNone then .error (.notMapping path (σ.sortName v))
    else fromEntries capabilities built clock ((σ.definition v).entries?.getD [])

/-- The schema that a document makes under the standard capabilities, where no types were built before. -/
def ofDocument (clock : Clock) (path : Option String) (text : String) : Except Failure Schema :=
  match Yaml.load text {} with
  | .error e => .error (.yaml e)
  | .ok (v, σ) =>
    if (σ.entries? v).isNone then .error (.notMapping path (σ.sortName v))
    else ((make ⟨.standard, fun _ => none⟩ clock none ((σ.definition v).entries?.getD [])).run.run []).1.mapError .schema

/-- The schema that a file makes with capabilities, if there are some. -/
def fromContent (capabilities : Option Capabilities) (built : TypeHandle → Option ObjectType) (clock : Clock)
    (path : Option String) (content : FileContent) : Except Failure Schema :=
  match content.document with
  | .ok text => fromDocument capabilities built clock path text
  | .error f => .error f

/-- The schema that a file makes under the standard capabilities, where no types were built before. -/
def ofContent (clock : Clock) (path : Option String) (content : FileContent) : Except Failure Schema :=
  match content.document with
  | .ok text => ofDocument clock path text
  | .error f => .error f

/-- The path counts only where a file makes no schema. -/
theorem fromContent_ok {capabilities : Option Capabilities} {built : TypeHandle → Option ObjectType} {clock : Clock}
    {path : Option String} {content : FileContent} {s : Schema} (h : fromContent capabilities built clock path content = .ok s)
    (other : Option String) : fromContent capabilities built clock other content = .ok s := by
  unfold fromContent fromDocument at h ⊢
  split at h
  · split at h
    · cases h
    · split at h
      · cases h
      · next hmapping =>
        rw [if_neg hmapping]
        exact h
  · cases h

theorem ofContent_eq (clock : Clock) (path : Option String) (content : FileContent) :
    ofContent clock path content = fromContent (some .standard) (fun _ => none) clock path content := rfl

theorem ofContent_ok {clock : Clock} {path : Option String} {content : FileContent} {s : Schema}
    (h : ofContent clock path content = .ok s) (other : Option String) : ofContent clock other content = .ok s := by
  rw [ofContent_eq] at h ⊢
  exact fromContent_ok h other

variable {clock : Clock} {path : Option String} {text : String}

/-- Why a document makes no schema. -/
inductive Unmade : Failure → Prop
  | unread (e : Yaml.Error) : Unmade (.yaml e)
  | undecodable : Unmade (.run .undecodable)
  | root (path : Option String) (sort : String) : Unmade (.notMapping path sort)
  | structural (subject : String) (violations : List (Violation Datum)) : Unmade (.schema (.structural subject violations))
  | authoring (location : String) (e : AuthoringError) : Unmade (.schema (.compile location (.authoring e)))
  | pattern (location source : String) {e : Pattern.ReadError} (large : e.isTooLarge = true) :
      Unmade (.schema (.compile location (.pattern source e)))
  | endless (location : String) : Unmade (.schema (.compile location (.fault .endless)))

theorem RefusesMapping.unmade {around : Surroundings} {options : List (Key × Datum)} {e : SchemaError}
    (h : RefusesMapping around options e) : Unmade (.schema e) := by
  cases h with
  | header bad => exact .structural _ _
  | type read first sort =>
    rcases sort with hrefuses | hescapes
    · cases hrefuses with
      | structural within => exact .structural _ _
      | authoring e => exact .authoring _ e
    · cases hescapes with
      | pattern asked unread large => exact .pattern _ _ large
      | endless there => exact .endless _

theorem ofDocument_error {f : Failure} (h : ofDocument clock path text = .error f) : Unmade f := by
  unfold ofDocument at h
  split at h
  · next e _ =>
    cases h
    exact .unread e
  · split at h
    · cases h
      exact .root _ _
    · next v σ _ _ =>
      have hmake : Concludes (RefusesMapping ⟨.standard, fun _ => none⟩ _) _ :=
        make_concludes clock ((σ.definition v).entries?.getD [])
      cases hmake with
      | returns s run =>
        rw [run []] at h
        cases h
      | throws e sort run =>
        rw [run []] at h
        cases h
        exact sort.unmade

theorem ofContent_error {content : FileContent} {f : Failure} (h : ofContent clock path content = .error f) : Unmade f := by
  unfold ofContent at h
  split at h
  · exact ofDocument_error h
  · next hbytes =>
    cases h
    unfold FileContent.document at hbytes
    split at hbytes
    · cases hbytes
    · cases hbytes
      exact .undecodable
    · cases hbytes
      exact .unread _

end Schema

/-- The schema of a file under the standard capabilities, loaded in a workspace of its own. -/
def Files.schema (fs : Files) (clock : Clock) (path : FilePath) : Except Failure Schema :=
  ((do Work.schema (← Work.load standardCapabilities path) : Work Schema).ending { clock := clock, files := fs }).1

/-! ## Loading -/

namespace Workspace

/-- A workspace with the standard capabilities, where no types were built apart from schemas. -/
structure Standard (w : Workspace) : Prop where
  capabilities : w.capabilities[standardCapabilities]? = some .standard
  types : w.types = #[]

theorem Standard.built {w : Workspace} (h : w.Standard) : w.built = fun _ => none := by
  unfold Workspace.built
  rw [h.types]
  rfl

/-- What loading and registering schemas leaves of a workspace: nothing else has changed. -/
def Loads (w w' : Workspace) : Prop :=
  ∃ schemas registries loaded notices sideLines spans, w' =
    { w with
      schemas := schemas, registries := registries, loaded := loaded,
      notices := notices, sideLines := sideLines, spans := spans }

namespace Loads

variable {w w' w'' : Workspace}

theorem refl (w : Workspace) : Loads w w := ⟨_, _, _, _, _, _, rfl⟩

theorem trans (h : Loads w w') (h' : Loads w' w'') : Loads w w'' := by
  obtain ⟨_, _, _, _, _, _, rfl⟩ := h
  obtain ⟨_, _, _, _, _, _, rfl⟩ := h'
  exact ⟨_, _, _, _, _, _, rfl⟩

theorem standard (h : Loads w w') (hw : w.Standard) : w'.Standard := by
  obtain ⟨_, _, _, _, _, _, rfl⟩ := h
  exact ⟨hw.capabilities, hw.types⟩

theorem clock (h : Loads w w') : w'.clock = w.clock := by
  obtain ⟨_, _, _, _, _, _, rfl⟩ := h
  rfl

theorem files (h : Loads w w') : w'.files = w.files := by
  obtain ⟨_, _, _, _, _, _, rfl⟩ := h
  rfl

theorem settings (h : Loads w w') : w'.settings = w.settings := by
  obtain ⟨_, _, _, _, _, _, rfl⟩ := h
  rfl

theorem store (h : Loads w w') : w'.store = w.store := by
  obtain ⟨_, _, _, _, _, _, rfl⟩ := h
  rfl

theorem output (h : Loads w w') : w'.output = w.output := by
  obtain ⟨_, _, _, _, _, _, rfl⟩ := h
  rfl

end Loads

/-- What is recalled of a file was built with the capabilities. -/
theorem recalled?_eq_some {w : Workspace} {full : FilePath} {c : CapabilitiesHandle} {h : SchemaHandle} :
    w.recalled? full c = some h ↔ w.loaded.lookup (full, w.ids c) = some ⟨h, c⟩ := by
  unfold recalled?
  cases w.loaded.lookup (full, w.ids c) with
  | none => exact iff_of_false nofun nofun
  | some cached =>
    obtain ⟨a, d⟩ := cached
    dsimp only
    split
    · next heq => rw [Option.some.injEq, Option.some.injEq, heq, CachedSchema.mk.injEq, and_iff_left rfl]
    · next hne => exact iff_of_false nofun fun heq => hne (congrArg CachedSchema.capabilities (Option.some.inj heq))

theorem recalled?_cons (w : Workspace) (full full' : FilePath) (c c' : CapabilitiesHandle) (h : SchemaHandle) :
    { w with loaded := ((full, w.ids c), ⟨h, c⟩) :: w.loaded }.recalled? full' c' =
      if full' = full ∧ w.ids c' = w.ids c then (if c = c' then some h else none) else w.recalled? full' c' := by
  unfold recalled?
  dsimp only
  rw [List.lookup_cons]
  by_cases heq : full' = full ∧ w.ids c' = w.ids c
  · rw [if_pos heq, heq.1, heq.2, beq_self_eq_true]
  · rw [if_neg heq, beq_eq_false_iff_ne.2 fun hkey => heq (Prod.mk.inj hkey)]

/-- The schema that a handle names is what a file makes, if it is there. -/
def Holds (w₀ w : Workspace) (full : FilePath) (h : SchemaHandle) : Prop :=
  ∃ s content, w.schemas[h]? = some s ∧ w₀.files.entryAt? full.parts = some (.file content) ∧
    Schema.ofContent w₀.clock none content = .ok s

/-- A workspace that came from a standard one by loading schemas. What is known of a file is what it makes. -/
structure Knows (w₀ w : Workspace) : Prop where
  standard : w₀.Standard
  loads : w₀.Loads w
  known : ∀ full h, w.recalled? full standardCapabilities = some h → w₀.Holds w full h

namespace Knows

variable {w₀ w w' : Workspace}

theorem hears (h : w₀.Knows w) (hw : w.Hears w') : w₀.Knows w' := by
  obtain ⟨_, _, _, rfl⟩ := hw
  exact ⟨h.standard, h.loads.trans ⟨_, _, _, _, _, _, rfl⟩, h.known⟩

theorem push (h : w₀.Knows w) (s : Schema) : w₀.Knows { w with schemas := w.schemas.push s } where
  standard := h.standard
  loads := h.loads.trans ⟨_, _, _, _, _, _, rfl⟩
  known full a ha := by
    obtain ⟨s', text, hs', hentry, hmade⟩ := h.known full a ha
    have hlt := (Array.getElem?_eq_some_iff.1 hs').1
    exact ⟨s', text, by rw [Array.getElem?_push, if_neg (by omega)]; exact hs', hentry, hmade⟩

theorem remember (h : w₀.Knows w) {full : FilePath} {a : SchemaHandle} (ha : w₀.Holds w full a) :
    w₀.Knows { w with loaded := ((full, w.ids standardCapabilities), ⟨a, standardCapabilities⟩) :: w.loaded } where
  standard := h.standard
  loads := h.loads.trans ⟨_, _, _, _, _, _, rfl⟩
  known other b hb := by
    rw [recalled?_cons] at hb
    split at hb
    · next heq =>
      rw [if_pos rfl] at hb
      obtain rfl : other = full := heq.1
      cases hb
      exact ha
    · exact h.known other b hb

end Knows

end Workspace

namespace Work

open Workspace

variable {w₀ w : Workspace} {path : FilePath} {content : FileContent}

theorem makeSchema_hears (w : Workspace) (c : CapabilitiesHandle) (options : List (Key × Datum)) :
    ∃ w', w.Hears w' ∧ (makeSchema c none options).ending w =
      match Schema.fromEntries w.capabilities[c]? w.built w.clock options with
      | .ok s => (addSchema s).ending w'
      | .error f => (.error f, w') := by
  unfold makeSchema Schema.fromEntries
  cases hcaps : w.capabilities[c]? with
  | none =>
    have hstray : (surroundingsAt c).ending w = (.error .strayHandle, w) := by
      unfold surroundingsAt
      rw [ending_bind_ok (ending_get w), hcaps]
      rfl
    exact ⟨w, .refl w, by rw [ending_bind, hstray]⟩
  | some caps =>
    obtain ⟨w', hend, hhears⟩ := ofMaking_hears (Schema.make ⟨caps, w.built⟩ w.clock none options) w
    refine ⟨w', hhears, ?_⟩
    have haround : (surroundingsAt c).ending w = (.ok ⟨caps, w.built⟩, w) := surroundingsAt_ending hcaps
    rw [ending_bind_ok haround, ending_bind_ok (ending_get w), ending_bind, hend]
    dsimp only
    cases ((Schema.make ⟨caps, w.built⟩ w.clock none options).run.run []).1 <;> rfl

theorem makeFromDocument_hears (w : Workspace) (c : CapabilitiesHandle) (path : Option String) (text : String) :
    ∃ w', w.Hears w' ∧ (makeFromDocument c path text).ending w =
      match Schema.fromDocument w.capabilities[c]? w.built w.clock path text with
      | .ok s => (addSchema s).ending w'
      | .error f => (.error f, w') := by
  unfold makeFromDocument readDocument Schema.fromDocument
  cases hload : Yaml.load text {} with
  | error e => exact ⟨w, .refl w, rfl⟩
  | ok found =>
    obtain ⟨v, σ⟩ := found
    have hread : (pure (v, σ) : Work (Value × Store)).ending w = (.ok (v, σ), w) := rfl
    dsimp only
    rw [ending_bind_ok hread]
    by_cases hroot : (σ.entries? v).isNone
    · rw [if_pos hroot, if_pos hroot]
      exact ⟨w, .refl w, rfl⟩
    · rw [if_neg hroot, if_neg hroot]
      exact makeSchema_hears w c ((σ.definition v).entries?.getD [])

/-- A file makes the schema that it makes by itself. -/
theorem makeFromFile_hears (w : Workspace) (c : CapabilitiesHandle) (path : FilePath) (content : FileContent) :
    ∃ w', w.Hears w' ∧ (makeFromFile c path content).ending w =
      match Schema.fromContent w.capabilities[c]? w.built w.clock (some path.text) content with
      | .ok s => (addSchema s).ending w'
      | .error f => (.error f, w') := by
  unfold makeFromFile Schema.fromContent
  cases content.document with
  | ok text => exact makeFromDocument_hears w c (some path.text) text
  | error f => exact ⟨w, .refl w, rfl⟩

/-- The last part of loading a file: the schema is remembered for the file. -/
def remember (full : FilePath) (c : CapabilitiesHandle) (h : SchemaHandle) : Work SchemaHandle := do
  modify fun w => { w with loaded := ((full, w.ids c), ⟨h, c⟩) :: w.loaded }
  let s ← schema h
  tell (.loaded s.key full.text s.types.length s.references.length)
  return h

theorem remember_hears {full : FilePath} {c : CapabilitiesHandle} {h : SchemaHandle} {s : Schema} (hs : w.schemas[h]? = some s) :
    ∃ w', { w with loaded := ((full, w.ids c), ⟨h, c⟩) :: w.loaded }.Hears w' ∧ (remember full c h).ending w = (.ok h, w') := by
  let w₁ : Workspace := { w with loaded := ((full, w.ids c), ⟨h, c⟩) :: w.loaded }
  have hschema : (schema h).ending w₁ = (.ok s, w₁) := schema_ending hs
  obtain ⟨w', htell, hhears⟩ := tell_hears (.loaded s.key full.text s.types.length s.references.length) w₁
  refine ⟨w', hhears, ?_⟩
  unfold remember
  rw [ending_bind_ok (rfl : (modify _ : Work PUnit).ending w = (.ok PUnit.unit, w₁)), ending_bind_ok hschema, ending_bind_ok htell]
  rfl

/-- The ways in which loading can go: the file is known, or there is none, or it makes a schema or none. -/
inductive Loading (w : Workspace) (c : CapabilitiesHandle) (path : FilePath) : Except Failure SchemaHandle × Workspace → Prop
  | known {h : SchemaHandle} {w' : Workspace} (found : w.recalled? (path.resolve w.files.present) c = some h)
      (hears : w.Hears w') : Loading w c path (.ok h, w')
  | missing (unknown : w.recalled? (path.resolve w.files.present) c = none) (nowhere : w.files.at? path = none) :
      Loading w c path (.error (.noFile path.text), w)
  | directory {names : List String} (unknown : w.recalled? (path.resolve w.files.present) c = none)
      (there : w.files.at? path = some (.directory names)) : Loading w c path (.error (.isDirectory path.text), w)
  | refused {content : FileContent} {f : Failure} {w' : Workspace}
      (unknown : w.recalled? (path.resolve w.files.present) c = none) (there : w.files.at? path = some (.file content))
      (unmade : Schema.fromContent w.capabilities[c]? w.built w.clock (some path.text) content = .error f)
      (hears : w.Hears w') : Loading w c path (.error f, w')
  | made {content : FileContent} {s : Schema} {w' : Workspace}
      (unknown : w.recalled? (path.resolve w.files.present) c = none) (there : w.files.at? path = some (.file content))
      (made : Schema.fromContent w.capabilities[c]? w.built w.clock (some path.text) content = .ok s)
      (hears : { w with
        schemas := w.schemas.push s,
        loaded := ((path.resolve w.files.present, w.ids c), ⟨w.schemas.size, c⟩) :: w.loaded }.Hears w') :
      Loading w c path (.ok w.schemas.size, w')

theorem load_loading (w : Workspace) (c : CapabilitiesHandle) (path : FilePath) : Loading w c path ((load c path).ending w) := by
  unfold load
  rw [ending_bind_ok (ending_get w)]
  dsimp only
  split
  · next h hknown =>
    obtain ⟨w', htell, hhears⟩ := tell_hears (.cacheHit (path.resolve w.files.present).text) w
    rw [ending_bind_ok htell]
    exact .known hknown hhears
  next hunknown =>
  split
  · next hnowhere => exact .missing hunknown hnowhere
  · next names hthere => exact .directory hunknown hthere
  · next content hthere =>
    obtain ⟨w₁, hhears, hmake⟩ := makeFromFile_hears w c path content
    cases hmade : Schema.fromContent w.capabilities[c]? w.built w.clock (some path.text) content with
    | error f =>
      rw [hmade] at hmake
      rw [ending_bind, hmake]
      exact .refused hunknown hthere hmade hhears
    | ok s =>
      rw [hmade] at hmake
      let w₂ : Workspace := { w₁ with schemas := w₁.schemas.push s }
      have hadded : (makeFromFile c path content).ending w =
          (.ok w₁.schemas.size, w₂) := hmake
      have hnew : w₂.schemas[w₁.schemas.size]? = some s := Array.getElem?_push_size
      obtain ⟨w', hhears', hend⟩ := @remember_hears w₂ (path.resolve w.files.present) c w₁.schemas.size s hnew
      rw [ending_bind_ok hadded]
      change Loading w c path ((remember (path.resolve w.files.present) c w₁.schemas.size).ending w₂)
      rw [hend, hhears.schemas]
      refine .made hunknown hthere hmade (.trans ?_ hhears')
      obtain ⟨_, _, _, rfl⟩ := hhears
      exact ⟨_, _, _, rfl⟩

/-- Loading a file gives the schema that it makes, whether it was loaded before or not. -/
theorem load_ending (hw : w₀.Knows w) (hfile : w₀.files.at? path = some (.file content)) :
    ∃ w', w₀.Knows w' ∧ w'.registries = w.registries ∧
      (∀ (h : SchemaHandle) (s : Schema), w.schemas[h]? = some s → w'.schemas[h]? = some s) ∧
      match Schema.ofContent w₀.clock (some path.text) content with
      | .ok s => ∃ h, (load standardCapabilities path).ending w = (.ok h, w') ∧ w'.schemas[h]? = some s
      | .error f => (load standardCapabilities path).ending w = (.error f, w') := by
  have hentry := Files.at?_resolve hfile
  have hstandard := hw.loads.standard hw.standard
  have hloading := load_loading w standardCapabilities path
  generalize (load standardCapabilities path).ending w = result at hloading ⊢
  cases hloading with
  | @known h w' found hears =>
    rw [hw.loads.files] at found
    obtain ⟨s, content', hs, hentry', hmade⟩ := hw.known _ _ found
    cases hentry.symm.trans hentry'
    refine ⟨w', hw.hears hears, hears.registries, fun a t ht => hears.schemas ▸ ht, ?_⟩
    rw [Schema.ofContent_ok hmade]
    exact ⟨h, rfl, hears.schemas ▸ hs⟩
  | missing _ nowhere =>
    rw [hw.loads.files, hfile] at nowhere
    cases nowhere
  | directory _ there =>
    rw [hw.loads.files, hfile] at there
    cases there
  | @refused _ f w' _ there unmade hears =>
    rw [hw.loads.files, hfile] at there
    cases there
    rw [hstandard.capabilities, hstandard.built, hw.loads.clock, ← Schema.ofContent_eq] at unmade
    refine ⟨w', hw.hears hears, hears.registries, fun a t ht => hears.schemas ▸ ht, ?_⟩
    rw [unmade]
  | @made _ s w' _ there made hears =>
    rw [hw.loads.files, hfile] at there
    cases there
    rw [hstandard.capabilities, hstandard.built, hw.loads.clock, ← Schema.ofContent_eq] at made
    have hnew : (w.schemas.push s)[w.schemas.size]? = some s := Array.getElem?_push_size
    have hknows : w₀.Knows { w with
        schemas := w.schemas.push s,
        loaded := ((path.resolve w.files.present, w.ids standardCapabilities), ⟨w.schemas.size, standardCapabilities⟩) :: w.loaded } := by
      refine (hw.push s).remember ⟨s, content, hnew, ?_, Schema.ofContent_ok made none⟩
      rw [hw.loads.files]
      exact hentry
    refine ⟨w', hknows.hears hears, hears.registries, fun a t ht => ?_, ?_⟩
    · have hlt := (Array.getElem?_eq_some_iff.1 ht).1
      rw [hears.schemas]
      dsimp only
      rw [Array.getElem?_push, if_neg (by omega)]
      exact ht
    · rw [made]
      exact ⟨_, rfl, hears.schemas ▸ hnew⟩

end Work

/-- By itself a file makes what is in it makes. -/
theorem Files.schema_eq {fs : Files} {path : FilePath} {content : FileContent} (hfile : fs.at? path = some (.file content)) (clock : Clock) :
    fs.schema clock path = Schema.ofContent clock (some path.text) content := by
  let w₀ : Workspace := { clock := clock, files := fs }
  have hw₀ : w₀.Knows w₀ := ⟨⟨rfl, rfl⟩, .refl w₀, fun _ _ h => nomatch h⟩
  obtain ⟨w', -, -, -, hend⟩ := Work.load_ending hw₀ hfile
  unfold schema
  cases hmade : Schema.ofContent clock (some path.text) content with
  | error f =>
    rw [hmade] at hend
    rw [Work.ending_bind, hend]
  | ok s =>
    rw [hmade] at hend
    obtain ⟨h, hend, hs⟩ := hend
    rw [Work.ending_bind_ok hend, Work.schema_ending hs]

/-! ## Registering -/

/-- The type that a reference leads to among schemas, of which the first one with its key counts. -/
def Schema.typeAmong? (schemas : List Schema) (ref : TypeRef) : Option ObjectType :=
  (schemas.find? fun s => s.key = ref.schemaKey).bind fun s => s.types.get? (some ref.name)

namespace Workspace

/-- Under each key a registry has the first one of some schemas with that key. -/
def Lists (w : Workspace) (reg : Registry) (latest : List Schema) : Prop :=
  ∀ key, Option.Rel (fun h s => w.schemas[h]? = some s) (reg.find? key) (latest.find? fun s => s.key = key)

/-- A workspace with a registry of schemas from files. The schema that was registered last comes first. -/
structure Stocked (w₀ : Workspace) (r : RegistryHandle) (latest : List Schema) (w : Workspace) : Prop extends Knows w₀ w where
  found : ∃ reg, w.registries[r]? = some reg ∧ w.Lists reg latest

variable {w₀ w w' : Workspace} {r : RegistryHandle} {reg : Registry} {latest : List Schema}

theorem Lists.mono (h : w.Lists reg latest)
    (hkept : ∀ (a : SchemaHandle) (s : Schema), w.schemas[a]? = some s → w'.schemas[a]? = some s) : w'.Lists reg latest := by
  intro key
  have hkey := h key
  generalize reg.find? key = found at hkey ⊢
  generalize latest.find? (fun s => s.key = key) = s at hkey ⊢
  cases hkey with
  | none => exact .none
  | some hs => exact .some (hkept _ _ hs)

/-- A schema that is registered is found under its key, and the others as before. -/
theorem Lists.register (h : w.Lists reg latest) {a : SchemaHandle} {s : Schema} (hs : w.schemas[a]? = some s) :
    w.Lists (reg.register s.key a) (s :: latest) := by
  intro key
  rw [List.find?_cons]
  by_cases hkey : s.key = key
  · subst hkey
    rw [Registry.find?_register_self, decide_eq_true rfl]
    exact .some hs
  · have hother : (reg.register s.key a).find? key = reg.find? key := Assoc.get?_put_other a reg.schemas hkey
    rw [hother, decide_eq_false hkey]
    exact h key

/-- A reference leads to the type of the first schema with its key. -/
theorem Lists.typeAt? (h : w.Lists reg latest) (ref : TypeRef) : w.typeAt? reg ref = Schema.typeAmong? latest ref := by
  have hkey := h ref.schemaKey
  unfold Workspace.typeAt? Schema.typeAmong?
  generalize reg.find? ref.schemaKey = found at hkey ⊢
  generalize latest.find? (fun s => s.key = ref.schemaKey) = s at hkey ⊢
  cases hkey with
  | none => rfl
  | some hs => rw [Option.bind_some, hs, Option.bind_some]

theorem Stocked.hears (h : w₀.Stocked r latest w) (hw : w.Hears w') : w₀.Stocked r latest w' := by
  obtain ⟨reg, hreg, hlists⟩ := h.found
  exact ⟨h.toKnows.hears hw, reg, hw.registries ▸ hreg, hlists.mono fun _ _ hs => hw.schemas ▸ hs⟩

end Workspace

namespace Work

open Workspace

variable {α β : Type} {w₀ w : Workspace} {r : RegistryHandle} {reg : Registry} {latest : List Schema}

theorem register_stocked (hw : w₀.Knows w) (hreg : w.registries[r]? = some reg) (hlists : w.Lists reg latest)
    {h : SchemaHandle} {s : Schema} (hs : w.schemas[h]? = some s) :
    ∃ w', (register r h).ending w = (.ok (), w') ∧ w₀.Stocked r (s :: latest) w' := by
  let w₁ : Workspace := { w with registries := w.registries.setIfInBounds r (reg.register s.key h) }
  have hw₁ : w₀.Stocked r (s :: latest) w₁ := by
    refine ⟨⟨hw.standard, hw.loads.trans ⟨_, _, _, _, _, _, rfl⟩, hw.known⟩, reg.register s.key h, ?_, hlists.register hs⟩
    exact Array.getElem?_setIfInBounds_self_of_lt (Array.getElem?_eq_some_iff.1 hreg).1
  unfold register
  rw [ending_bind_ok (registry_ending hreg), ending_bind_ok (schema_ending hs)]
  cases reg.tellsReplacing s.key with
  | false => exact ⟨_, rfl, hw₁.hears ⟨_, _, _, rfl⟩⟩
  | true => exact ⟨_, rfl, hw₁.hears ⟨_, _, _, rfl⟩⟩

/-- An operation loads and registers the schemas of files, one after the other, up to the first that makes none. -/
def Stocks (w₀ : Workspace) (r : RegistryHandle) (op : Work α) (paths : List FilePath) : Prop :=
  ∀ w latest, w₀.Stocked r latest w →
    match paths.mapM (w₀.files.schema w₀.clock) with
    | .ok schemas => ∃ a w', op.ending w = (.ok a, w') ∧ w₀.Stocked r (schemas.reverse ++ latest) w'
    | .error f => ∃ w', op.ending w = (.error f, w') ∧ w₀.Loads w'

theorem stocks_pure (a : α) : Stocks w₀ r (pure a) [] := fun w _ hw => ⟨a, w, rfl, hw⟩

theorem stocks_tell (n : Notice) : Stocks w₀ r (tell n) [] := by
  intro w latest hw
  obtain ⟨w', hend, hhears⟩ := tell_hears n w
  exact ⟨(), w', hend, hw.hears hhears⟩

theorem stocks_bind {op : Work α} {k : α → Work β} {before after : List FilePath} (h : Stocks w₀ r op before)
    (hk : ∀ a, Stocks w₀ r (k a) after) : Stocks w₀ r (op >>= k) (before ++ after) := by
  intro w latest hw
  have hop := h w latest hw
  rw [List.mapM_append]
  cases hbefore : before.mapM (w₀.files.schema w₀.clock) with
  | error f =>
    rw [hbefore] at hop
    obtain ⟨w', hend, hloads⟩ := hop
    exact ⟨w', by rw [ending_bind, hend], hloads⟩
  | ok schemas =>
    rw [hbefore] at hop
    obtain ⟨a, w', hend, hw'⟩ := hop
    have hrest := hk a w' _ hw'
    cases hafter : after.mapM (w₀.files.schema w₀.clock) with
    | error f =>
      rw [hafter] at hrest
      obtain ⟨w'', hend', hloads⟩ := hrest
      exact ⟨w'', by rw [ending_bind_ok hend, hend'], hloads⟩
    | ok others =>
      rw [hafter] at hrest
      obtain ⟨b, w'', hend', hw''⟩ := hrest
      refine ⟨b, w'', by rw [ending_bind_ok hend, hend'], ?_⟩
      rw [List.reverse_append, List.append_assoc]
      exact hw''

/-- Loading and registering one file. -/
theorem stocks_load {path : FilePath} {content : FileContent} (hfile : w₀.files.at? path = some (.file content)) :
    Stocks w₀ r (do
      let h ← load standardCapabilities path
      register r h
      return h) [path] := by
  intro w latest hw
  obtain ⟨reg, hreg, hlists⟩ := hw.found
  obtain ⟨w₁, hw₁, hregistries, hkept, hend⟩ := load_ending hw.toKnows hfile
  rw [List.mapM_cons, Files.schema_eq hfile]
  cases hmade : Schema.ofContent w₀.clock (some path.text) content with
  | error f =>
    rw [hmade] at hend
    exact ⟨w₁, by rw [ending_bind, hend], hw₁.loads⟩
  | ok s =>
    rw [hmade] at hend
    obtain ⟨h, hend, hs⟩ := hend
    obtain ⟨w₂, hend', hw₂⟩ := register_stocked hw₁ (hregistries ▸ hreg) (hlists.mono hkept) hs
    exact ⟨h, w₂, by rw [ending_bind_ok hend, ending_bind_ok hend']; rfl, hw₂⟩

/-- Loading and registering files of a directory. -/
theorem stocks_loadAll (directory : FilePath) : ∀ names : List String,
    (∀ name ∈ names, ∃ content, w₀.files.at? (directory.child name) = some (.file content)) →
    Stocks w₀ r (loadAll standardCapabilities directory r names) (names.map directory.child)
  | [], _ => by
    unfold loadAll
    exact stocks_pure []
  | name :: rest, hnames => by
    obtain ⟨content, hfile⟩ := hnames name (List.mem_cons_self ..)
    have hrest : Stocks w₀ r (loadAll standardCapabilities directory r rest) (rest.map directory.child) :=
      stocks_loadAll directory rest fun other hother => hnames other (List.mem_cons_of_mem _ hother)
    have hboth := stocks_bind (stocks_load hfile) fun h => stocks_bind hrest fun hs => stocks_pure (h :: hs)
    simp only [bind_assoc, pure_bind, List.append_nil] at hboth
    exact hboth

end Work

/-! ## The files that a path stands for -/

/-- Whether a file is there to make a schema. -/
def Files.isSchemaFile (fs : Files) (path : FilePath) : Bool :=
  Work.schemaSuffixes.contains path.suffix.toLower &&
    match fs.at? path with
    | some (.file _) => true
    | _ => false

/-- The files with schemas that a path stands for: those of a directory, in the order of their names, or itself. -/
def Files.schemaFiles (fs : Files) (path : FilePath) : List FilePath :=
  match fs.at? path with
  | some (.directory names) =>
    ((names.filter fun name => fs.isSchemaFile (path.child name)).mergeSort fun a b => decide (a ≤ b)).map path.child
  | _ => [path]

/-- There are files at all the paths that a path stands for. -/
theorem Files.mem_schemaFiles {fs : Files} {path file : FilePath} {e : FileEntry} (hpath : fs.at? path = some e)
    (hfile : file ∈ fs.schemaFiles path) : ∃ content, fs.at? file = some (.file content) := by
  unfold schemaFiles at hfile
  rw [hpath] at hfile
  cases e with
  | file content =>
    rw [List.mem_singleton.1 hfile]
    exact ⟨content, hpath⟩
  | directory names =>
    obtain ⟨name, hname, rfl⟩ := List.mem_map.1 hfile
    have hkept := (List.mem_filter.1 (List.mem_mergeSort.1 hname)).2
    unfold isSchemaFile at hkept
    rw [Bool.and_eq_true] at hkept
    split at hkept
    · next content hcontent => exact ⟨content, hcontent⟩
    · exact absurd hkept.2 Bool.false_ne_true

namespace Work

open Workspace

variable {w₀ w : Workspace} {r : RegistryHandle}

theorem stocks_loadDirectory {path : FilePath} {names : List String} (hpath : w₀.files.at? path = some (.directory names)) :
    Stocks w₀ r (loadDirectory standardCapabilities path r) (w₀.files.schemaFiles path) := by
  have hfiles : w₀.files.schemaFiles path =
      ((names.filter fun name => w₀.files.isSchemaFile (path.child name)).mergeSort fun a b => decide (a ≤ b)).map path.child := by
    unfold Files.schemaFiles
    rw [hpath]
  have hall : Stocks w₀ r (loadAll standardCapabilities path r _) _ := stocks_loadAll path
    ((names.filter fun name => w₀.files.isSchemaFile (path.child name)).mergeSort fun a b => decide (a ≤ b))
    fun name hname => Files.mem_schemaFiles hpath (hfiles ▸ List.mem_map_of_mem hname)
  have hboth := stocks_bind hall fun handles =>
    stocks_bind (stocks_tell (.loadedDirectory handles.length path.text)) fun _ => stocks_pure handles
  rw [← hfiles, List.append_nil, List.append_nil] at hboth
  intro w latest hw
  unfold loadDirectory
  rw [ending_bind_ok (ending_get w), hw.loads.files, hpath]
  exact hboth w latest hw

theorem stocks_forM {op : FilePath → Work Unit} {files : FilePath → List FilePath} : ∀ {paths : List FilePath},
    (∀ path ∈ paths, Stocks w₀ r (op path) (files path)) → Stocks w₀ r (paths.forM op) (paths.flatMap files)
  | [], _ => stocks_pure ()
  | path :: rest, h => by
    rw [List.flatMap_cons]
    exact stocks_bind (h path (List.mem_cons_self ..)) fun _ => stocks_forM fun other hother => h other (List.mem_cons_of_mem _ hother)

end Work

namespace CommandLine

open Work

variable {w₀ : Workspace} {r : RegistryHandle}

theorem stocks_registerPath {path : FilePath} {e : FileEntry} (hpath : w₀.files.at? path = some e) :
    Stocks w₀ r (registerPath r path) (w₀.files.schemaFiles path) := by
  intro w latest hw
  unfold registerPath
  rw [ending_bind_ok (ending_get w), hw.loads.files, hpath]
  cases e with
  | directory names =>
    have hboth := stocks_bind (stocks_loadDirectory (r := r) hpath) fun _ => stocks_pure ()
    rw [List.append_nil] at hboth
    exact hboth w latest hw
  | file content =>
    have hone : w₀.files.schemaFiles path = [path] := by
      unfold Files.schemaFiles
      rw [hpath]
    have hboth := stocks_bind (stocks_load (r := r) hpath) fun _ => stocks_pure ()
    rw [List.append_nil, ← hone] at hboth
    simp only [bind_assoc, pure_bind, bind_pure_unit] at hboth
    exact hboth w latest hw

end CommandLine

end ShapeCheck
