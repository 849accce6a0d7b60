import ShapeCheck.Proofs.Sources

/-!
# Loading again

A `LoaderStep` loads a file, forgets what was loaded, supplies capabilities for later loaders, or lets time pass. What a
workspace remembers of a file is what the text of the file makes with the capabilities that it is remembered for
(`Workspace.Recalls`), and each step keeps it so. It is remembered by the id of the capabilities, and what `Workspace.recalled?`
finds was built with the capabilities that are asked for, whatever the ids are. A file that is loaded again thus gives what it would give if nothing were
remembered, apart from ids and moments (`Work.Loading.alike`). The exception are paths that lead nowhere and still resolve to a
file that is remembered: only by itself is such a path told to lead nowhere.
-/

namespace ShapeCheck

/-! ## Runs of loaders -/

/-- A step that loaders take. -/
inductive LoaderStep where
  /-- Loads a file with given capabilities, or else with the standard ones. -/
  | load (capabilities : Option CapabilitiesHandle) (path : FilePath)
  | forget
  /-- Adds capabilities that later loaders may have. -/
  | supply (capabilities : Capabilities)
  | tick (clock : Clock)

/-- The capabilities that a loader builds with. -/
def loaderCapabilities (given : Option CapabilitiesHandle) : CapabilitiesHandle := given.getD standardCapabilities

namespace LoaderStep

/-- The operation of a step. -/
def op : LoaderStep → Work Unit
  | .load given path => do
    let _ ← Work.load (loaderCapabilities given) path
  | .forget => Work.forgetLoaded
  | .supply capabilities => do
    let _ ← Work.addCapabilities capabilities
  | .tick clock => modify fun w => { w with clock }

/-- What a step leaves of a workspace, whether it goes well or not. -/
def after (w : Workspace) (step : LoaderStep) : Workspace := (step.op.ending w).2

def run (steps : List LoaderStep) (w : Workspace) : Workspace := steps.foldl after w

end LoaderStep

/-! ## Schemas that are alike -/

/-- Two schemas say the same, perhaps with different identities. -/
def Schema.Alike (s s' : Schema) : Prop := s' = { s with identity := s'.identity }

namespace Schema

theorem Alike.refl (s : Schema) : s.Alike s := rfl

/-- Two attempts to make a schema make schemas that are alike, or fail alike. -/
inductive SameOutcome : Except Failure Schema → Except Failure Schema → Prop
  | ok {s s' : Schema} (alike : s.Alike s') : SameOutcome (.ok s) (.ok s')
  | error (f : Failure) : SameOutcome (.error f) (.error f)

theorem SameOutcome.refl : ∀ x : Except Failure Schema, SameOutcome x x
  | .ok s => .ok (.refl s)
  | .error f => .error f

variable {capabilities : Option Capabilities} {built : TypeHandle → Option ObjectType}

/-- The time at which a schema is made counts for its identity only. -/
theorem fromEntries_clock (clock clock' : Clock) (options : List (Key × Datum)) :
    SameOutcome (fromEntries capabilities built clock options) (fromEntries capabilities built clock' options) := by
  unfold fromEntries
  cases capabilities with
  | none => exact .error _
  | some caps =>
    dsimp only
    unfold make
    cases Header.read options with
    | bad issues => exact .error _
    | ok header =>
      dsimp only
      rw [run_bind, run_bind]
      rcases (makeTypes ⟨caps, built⟩ header.types).run.run [] with ⟨e | types, notices⟩
      · exact .error _
      · cases header.id <;> exact .ok rfl

theorem fromDocument_clock (clock clock' : Clock) (path : Option String) (text : String) :
    SameOutcome (fromDocument capabilities built clock path text) (fromDocument capabilities built clock' path text) := by
  unfold fromDocument
  split
  · exact .error _
  · split
    · exact .error _
    · exact fromEntries_clock clock clock' _

/-- A schema has the capabilities that it is made with. -/
theorem fromDocument_capabilities {clock : Clock} {path : Option String} {text : String} {s : Schema}
    (h : fromDocument capabilities built clock path text = .ok s) : capabilities = some s.capabilities := by
  unfold fromDocument fromEntries at h
  split at h
  · cases h
  split at h
  · cases h
  split at h
  · cases h
  next caps =>
  unfold make at h
  split at h
  · cases h
  next header _ =>
  rw [run_bind] at h
  generalize (makeTypes ⟨caps, built⟩ header.types).run.run [] = made at h
  obtain ⟨e | types, notices⟩ := made
  · cases h
  · generalize header.id = id at h
    cases id <;> (cases h; rfl)

theorem fromContent_clock (clock clock' : Clock) (path : Option String) (content : FileContent) :
    SameOutcome (fromContent capabilities built clock path content) (fromContent capabilities built clock' path content) := by
  unfold fromContent
  split
  · exact fromDocument_clock clock clock' path _
  · exact .error _

theorem fromContent_capabilities {clock : Clock} {path : Option String} {content : FileContent} {s : Schema}
    (h : fromContent capabilities built clock path content = .ok s) : capabilities = some s.capabilities := by
  unfold fromContent at h
  split at h
  · exact fromDocument_capabilities h
  · cases h

end Schema

/-! ## What is remembered -/

namespace Workspace

/-- A schema is what a file makes with some capabilities, at some time. -/
def Remembers (w : Workspace) (full : FilePath) (c : CapabilitiesHandle) (h : SchemaHandle) : Prop :=
  ∃ s caps content clock, w.schemas[h]? = some s ∧ w.capabilities[c]? = some caps ∧
    w.files.entryAt? full.parts = some (.file content) ∧ Schema.fromContent (some caps) w.built clock none content = .ok s

/-- What is remembered is what the files make, and nothing is remembered for two files or for two capabilities. -/
structure Recalls (w : Workspace) : Prop where
  standard : w.capabilities[standardCapabilities]? = some .standard
  known : ∀ e ∈ w.loaded, w.Remembers e.1.1 e.2.capabilities e.2.schema
  apart : ∀ e ∈ w.loaded, ∀ e' ∈ w.loaded, e.2.schema = e'.2.schema → e = e'

/-- What the steps of loaders keep of a workspace: its files, types and ids, and the schemas and capabilities that it has. -/
structure Widens (w w' : Workspace) : Prop where
  files : w'.files = w.files
  ids : w'.ids = w.ids
  types : w'.types = w.types
  schemas : ∀ (h : SchemaHandle) (s : Schema), w.schemas[h]? = some s → w'.schemas[h]? = some s
  capabilities : ∀ (c : CapabilitiesHandle) (caps : Capabilities), w.capabilities[c]? = some caps → w'.capabilities[c]? = some caps

variable {w w' w'' : Workspace}

theorem Widens.refl (w : Workspace) : Widens w w := ⟨rfl, rfl, rfl, fun _ _ h => h, fun _ _ h => h⟩

theorem Widens.trans (h : Widens w w') (h' : Widens w' w'') : Widens w w'' where
  files := h'.files.trans h.files
  ids := h'.ids.trans h.ids
  types := h'.types.trans h.types
  schemas a s hs := h'.schemas a s (h.schemas a s hs)
  capabilities c caps hc := h'.capabilities c caps (h.capabilities c caps hc)

theorem Hears.widens (h : Hears w w') : Widens w w' := by
  obtain ⟨_, _, _, rfl⟩ := h
  exact ⟨rfl, rfl, rfl, fun _ _ h => h, fun _ _ h => h⟩

theorem Remembers.widens {full : FilePath} {c : CapabilitiesHandle} {h : SchemaHandle} (hw : w.Remembers full c h)
    (hwidens : Widens w w') : w'.Remembers full c h := by
  obtain ⟨s, caps, text, clock, hs, hcaps, hentry, hmade⟩ := hw
  refine ⟨s, caps, text, clock, hwidens.schemas h s hs, hwidens.capabilities c caps hcaps, hwidens.files ▸ hentry, ?_⟩
  unfold built at hmade ⊢
  rw [hwidens.types]
  exact hmade

/-- Growing without loading keeps what is remembered true. -/
theorem Recalls.widens (hw : w.Recalls) (hwidens : Widens w w') (hloaded : w'.loaded ⊆ w.loaded) : w'.Recalls where
  standard := hwidens.capabilities _ _ hw.standard
  known e he := (hw.known e (hloaded he)).widens hwidens
  apart e he e' he' := hw.apart e (hloaded he) e' (hloaded he')

theorem Hears.loaded (h : Hears w w') : w'.loaded = w.loaded := by
  obtain ⟨_, _, _, rfl⟩ := h
  rfl

theorem Hears.capabilities (h : Hears w w') : w'.capabilities = w.capabilities := by
  obtain ⟨_, _, _, rfl⟩ := h
  rfl

theorem Recalls.hears (hw : w.Recalls) (h : Hears w w') : w'.Recalls := hw.widens h.widens (by rw [h.loaded]; exact List.Subset.refl _)

/-- What is recalled is known, since it is asked what it was built with: ids do not count. -/
theorem Recalls.recalled (hw : w.Recalls) {full : FilePath} {c : CapabilitiesHandle} {h : SchemaHandle}
    (hknown : w.recalled? full c = some h) : ((full, w.ids c), ⟨h, c⟩) ∈ w.loaded ∧ w.Remembers full c h := by
  obtain ⟨before, after, hsplit, -⟩ := List.lookup_eq_some_iff.1 (recalled?_eq_some.1 hknown)
  have hmem : ((full, w.ids c), ⟨h, c⟩) ∈ w.loaded := hsplit ▸ List.mem_append_cons_self
  exact ⟨hmem, hw.known _ hmem⟩

theorem recalled?_congr (hloaded : w'.loaded = w.loaded) (hids : w'.ids = w.ids) : w'.recalled? = w.recalled? := by
  unfold recalled?
  rw [hloaded, hids]

theorem Hears.recalled? (h : Hears w w') : w'.recalled? = w.recalled? := recalled?_congr h.loaded h.widens.ids

/-- Schemas that are remembered stand in the table. -/
theorem Remembers.lt {full : FilePath} {c : CapabilitiesHandle} {h : SchemaHandle} (hw : w.Remembers full c h) :
    h < w.schemas.size := by
  obtain ⟨s, -, -, -, hs, -⟩ := hw
  exact (Array.getElem?_eq_some_iff.1 hs).1

end Workspace

namespace Work

open Workspace

variable {w : Workspace} {c : CapabilitiesHandle} {path : FilePath} {result : Except Failure SchemaHandle × Workspace}

theorem Loading.widens (h : Loading w c path result) : Widens w result.2 := by
  cases h with
  | known _ hears => exact hears.widens
  | missing => exact .refl w
  | directory => exact .refl w
  | refused _ _ _ hears => exact hears.widens
  | @made _ s w' _ _ _ hears =>
    have hadded : Widens w { w with schemas := w.schemas.push s, loaded := w'.loaded } := by
      refine ⟨rfl, rfl, rfl, fun a t ht => ?_, fun _ _ hc => hc⟩
      have hlt := (Array.getElem?_eq_some_iff.1 ht).1
      rw [Array.getElem?_push, if_neg (by omega)]
      exact ht
    exact hadded.trans (hears.loaded ▸ hears.widens)

/-- A load keeps what is remembered true. -/
theorem Loading.recalls (hw : w.Recalls) (h : Loading w c path result) : result.2.Recalls := by
  have hwidens := h.widens
  cases h with
  | known _ hears => exact hw.hears hears
  | missing => exact hw
  | directory => exact hw
  | refused _ _ _ hears => exact hw.hears hears
  | @made content s w' _ there made hears =>
    have hloaded : w'.loaded = ((path.resolve w.files.present, w.ids c), ⟨w.schemas.size, c⟩) :: w.loaded := hears.loaded
    have hnew : ∀ e ∈ w.loaded, e.2.schema < w.schemas.size := fun e he => (hw.known e he).lt
    refine ⟨hwidens.capabilities _ _ hw.standard, ?_, ?_⟩
    · rw [hloaded, List.forall_mem_cons]
      refine ⟨?_, fun e he => (hw.known e he).widens hwidens⟩
      cases hcaps : w.capabilities[c]? with
      | none =>
        rw [hcaps] at made
        cases Schema.fromContent_capabilities made
      | some caps =>
        rw [hcaps] at made
        have hsize : w'.schemas[w.schemas.size]? = some s := by
          rw [hears.schemas]
          exact Array.getElem?_push_size
        have hentry : w'.files.entryAt? (path.resolve w.files.present).parts = some (.file content) :=
          hwidens.files.symm ▸ Files.at?_resolve there
        have hbuilt : w'.built = w.built := by
          unfold built
          rw [show w'.types = w.types from hwidens.types]
        exact ⟨s, caps, content, w.clock, hsize, hwidens.capabilities _ _ hcaps, hentry, hbuilt ▸ Schema.fromContent_ok made none⟩
    · rw [hloaded]
      intro e he e' he' heq
      rcases List.mem_cons.1 he with rfl | he <;> rcases List.mem_cons.1 he' with rfl | he'
      · rfl
      · exact absurd heq.symm (Nat.ne_of_lt (hnew e' he'))
      · exact absurd heq (Nat.ne_of_lt (hnew e he))
      · exact hw.apart e he e' he' heq

/-- A load that fails leaves what is remembered. -/
theorem Loading.failed {f : Failure} (h : Loading w c path result) (hf : result.1 = .error f) : result.2.loaded = w.loaded := by
  cases h with
  | known | made => cases hf
  | missing | directory => rfl
  | refused _ _ _ hears => exact hears.loaded

/-- A load only adds to what is remembered. -/
theorem Loading.loaded (h : Loading w c path result) : w.loaded ⊆ result.2.loaded := by
  cases h with
  | known _ hears => exact hears.loaded ▸ List.Subset.refl _
  | missing | directory => exact List.Subset.refl _
  | refused _ _ _ hears => exact hears.loaded ▸ List.Subset.refl _
  | made _ _ _ hears =>
    rw [hears.loaded]
    exact List.subset_cons_self _ _

/-- After a load that goes well the schema is remembered for the file. -/
theorem Loading.recalled {h : SchemaHandle} (hload : Loading w c path result) (hh : result.1 = .ok h) :
    result.2.recalled? (path.resolve w.files.present) c = some h := by
  cases hload with
  | known found hears =>
    cases hh
    rw [hears.recalled?]
    exact found
  | made _ _ _ hears =>
    cases hh
    rw [hears.recalled?]
    exact recalled?_eq_some.2 List.lookup_cons_self
  | missing | directory | refused => cases hh

/-- A load keeps what is remembered for other files, and for its own file what is remembered for its own capabilities. Only with
other capabilities that have the id of these does it take the place of what is remembered. -/
theorem Loading.recalled_kept {full : FilePath} {d : CapabilitiesHandle} {h : SchemaHandle} (hload : Loading w c path result)
    (hids : w.ids c = w.ids d → c = d) (hknown : w.recalled? full d = some h) : result.2.recalled? full d = some h := by
  cases hload with
  | known _ hears => exact hears.recalled? ▸ hknown
  | missing | directory => exact hknown
  | refused _ _ _ hears => exact hears.recalled? ▸ hknown
  | @made _ s _ unknown _ _ hears =>
    rw [hears.recalled?]
    have hcons := recalled?_cons { w with schemas := w.schemas.push s } (path.resolve w.files.present) full c d w.schemas.size
    refine hcons.trans ?_
    split
    · next heq =>
      obtain rfl : c = d := hids heq.2.symm
      rw [heq.1, unknown] at hknown
      cases hknown
    · exact hknown

end Work

/-! ## Runs -/

namespace LoaderStep

open Workspace

variable {w : Workspace}

theorem after_load (w : Workspace) (given : Option CapabilitiesHandle) (path : FilePath) :
    after w (.load given path) = ((Work.load (loaderCapabilities given) path).ending w).2 := by
  unfold after op
  rw [Work.ending_bind]
  rcases (Work.load (loaderCapabilities given) path).ending w with ⟨e | h, w'⟩ <;> rfl

theorem after_widens (w : Workspace) (step : LoaderStep) : Widens w (step.after w) := by
  cases step with
  | load given path =>
    rw [after_load]
    exact (Work.load_loading w _ path).widens
  | forget => exact ⟨rfl, rfl, rfl, fun _ _ h => h, fun _ _ h => h⟩
  | supply capabilities =>
    refine ⟨rfl, rfl, rfl, fun _ _ h => h, fun c caps hc => ?_⟩
    have hlt := (Array.getElem?_eq_some_iff.1 hc).1
    change (w.capabilities.push capabilities)[c]? = some caps
    rw [Array.getElem?_push, if_neg (by omega)]
    exact hc
  | tick clock => exact ⟨rfl, rfl, rfl, fun _ _ h => h, fun _ _ h => h⟩

/-- Each step keeps what is remembered true. -/
theorem after_recalls (hw : w.Recalls) (step : LoaderStep) : (step.after w).Recalls := by
  cases step with
  | load given path =>
    rw [after_load]
    exact (Work.load_loading w _ path).recalls hw
  | forget => exact hw.widens (after_widens w .forget) (List.nil_subset _)
  | supply capabilities => exact hw.widens (after_widens w (.supply capabilities)) (List.Subset.refl _)
  | tick clock => exact hw.widens (after_widens w (.tick clock)) (List.Subset.refl _)

/-- A step loads with no other capabilities that have the id of the given ones. While a schema with these is remembered they are
in use, and so their id is theirs alone. -/
def KeepsApart (ids : CapabilitiesHandle → Nat) (c : CapabilitiesHandle) : LoaderStep → Prop
  | .load given _ => ids (loaderCapabilities given) = ids c → loaderCapabilities given = c
  | _ => True

/-- Each step but one that forgets keeps what is remembered for a file. -/
theorem after_recalled {full : FilePath} {c : CapabilitiesHandle} {h : SchemaHandle} {step : LoaderStep} (hstep : step ≠ .forget)
    (hids : step.KeepsApart w.ids c) (hknown : w.recalled? full c = some h) : (step.after w).recalled? full c = some h := by
  cases step with
  | load given path =>
    rw [after_load]
    exact (Work.load_loading w _ path).recalled_kept hids hknown
  | forget => exact absurd rfl hstep
  | supply | tick => exact hknown

theorem run_widens (steps : List LoaderStep) : ∀ w : Workspace, Widens w (run steps w) := by
  induction steps with
  | nil => exact fun w => .refl w
  | cons step rest ih => exact fun w => (after_widens w step).trans (ih _)

theorem run_recalls (steps : List LoaderStep) : ∀ {w : Workspace}, w.Recalls → (run steps w).Recalls := by
  induction steps with
  | nil => exact id
  | cons step rest ih => exact fun hw => ih (after_recalls hw step)

/-- Each step but one that forgets only adds to what is remembered. -/
theorem after_loaded (w : Workspace) {step : LoaderStep} (hstep : step ≠ .forget) : w.loaded ⊆ (step.after w).loaded := by
  cases step with
  | load given path =>
    rw [after_load]
    exact (Work.load_loading w _ path).loaded
  | forget => exact absurd rfl hstep
  | supply | tick => exact List.Subset.refl _

theorem run_loaded (steps : List LoaderStep) : ∀ w : Workspace, .forget ∉ steps → w.loaded ⊆ (run steps w).loaded := by
  induction steps with
  | nil => exact fun _ _ => List.Subset.refl _
  | cons step rest ih =>
    intro w hsteps
    rw [List.mem_cons, not_or] at hsteps
    exact List.Subset.trans (after_loaded w (Ne.symm hsteps.1)) (ih _ hsteps.2)

theorem run_recalled {full : FilePath} {c : CapabilitiesHandle} {h : SchemaHandle} (steps : List LoaderStep) :
    ∀ {w : Workspace}, .forget ∉ steps → (∀ step ∈ steps, step.KeepsApart w.ids c) → w.recalled? full c = some h →
      (run steps w).recalled? full c = some h := by
  induction steps with
  | nil => exact fun _ _ hknown => hknown
  | cons step rest ih =>
    intro w hsteps hids hknown
    rw [List.mem_cons, not_or] at hsteps
    rw [List.forall_mem_cons] at hids
    refine ih hsteps.2 ?_ (after_recalled (Ne.symm hsteps.1) hids.1 hknown)
    rw [(after_widens w step).ids]
    exact hids.2

end LoaderStep

/-! ## Loading with and without what is remembered -/

/-- What loading a file gives when nothing is remembered. -/
def Workspace.fresh (w : Workspace) (c : CapabilitiesHandle) (path : FilePath) : Except Failure Schema :=
  match w.files.at? path with
  | none => .error (.noFile path.text)
  | some (.directory _) => .error (.isDirectory path.text)
  | some (.file content) => Schema.fromContent w.capabilities[c]? w.built w.clock (some path.text) content

namespace Work

open Workspace

/-- A load that has ended gives a schema or an error. -/
inductive Gives : Except Failure SchemaHandle × Workspace → Except Failure Schema → Prop
  | schema {h : SchemaHandle} {s : Schema} {w : Workspace} (there : w.schemas[h]? = some s) : Gives (.ok h, w) (.ok s)
  | error (f : Failure) (w : Workspace) : Gives (.error f, w) (.error f)

theorem Gives.unique {x : Except Failure SchemaHandle × Workspace} {a b : Except Failure Schema} (ha : Gives x a) (hb : Gives x b) :
    a = b := by
  cases ha with
  | schema there =>
    cases hb with
    | schema there' => exact congrArg _ (Option.some.inj (there.symm.trans there'))
  | error =>
    cases hb
    rfl

/-- Two loads give schemas that are alike, or fail alike. -/
def LoadsAlike (x y : Except Failure SchemaHandle × Workspace) : Prop := ∃ a b, Gives x a ∧ Gives y b ∧ Schema.SameOutcome a b

variable {w : Workspace} {c : CapabilitiesHandle} {path : FilePath} {result : Except Failure SchemaHandle × Workspace}

/-- What is not remembered is loaded as if nothing were. -/
theorem Loading.gives_fresh (h : Loading w c path result)
    (hunknown : w.recalled? (path.resolve w.files.present) c = none) : Gives result (w.fresh c path) := by
  unfold Workspace.fresh
  cases h with
  | known found => cases hunknown.symm.trans found
  | missing _ nowhere =>
    rw [nowhere]
    exact .error _ _
  | directory _ there =>
    rw [there]
    exact .error _ _
  | refused _ there unmade =>
    rw [there]
    dsimp only
    rw [unmade]
    exact .error _ _
  | @made _ s w' _ there made hears =>
    rw [there]
    have hnew : w'.schemas[w.schemas.size]? = some s := by
      rw [hears.schemas]
      exact Array.getElem?_push_size
    dsimp only
    rw [made]
    exact .schema hnew

/-- What is remembered for a path that leads somewhere is what the path gives by itself, at some time. -/
theorem Loading.gives_known (h : Loading w c path result) (hw : w.Recalls) {a : SchemaHandle}
    (hknown : w.recalled? (path.resolve w.files.present) c = some a) :
    ∃ s, Gives result (.ok s) ∧ (w.files.at? path ≠ none → Schema.SameOutcome (w.fresh c path) (.ok s)) := by
  obtain ⟨-, s, caps, content, clock, hs, hcaps, hentry, hmade⟩ := hw.recalled hknown
  refine ⟨s, ?_, fun hthere => ?_⟩
  · cases h with
    | known found hears =>
      cases hknown.symm.trans found
      exact .schema (hears.schemas ▸ hs)
    | missing unknown | directory unknown | refused unknown | made unknown => cases hknown.symm.trans unknown
  · obtain ⟨e, he⟩ := Option.ne_none_iff_exists'.1 hthere
    cases (Files.at?_resolve he).symm.trans hentry
    unfold Workspace.fresh
    rw [he, hcaps, ← Schema.fromContent_ok hmade (some path.text)]
    exact Schema.fromContent_clock _ _ _ _

/-- A load does as if nothing were remembered, unless the path leads nowhere and resolves to a file that is remembered. -/
theorem Loading.alike_iff (hw : w.Recalls) {warm cold : Except Failure SchemaHandle × Workspace} (hwarm : Loading w c path warm)
    (hcold : Loading { w with loaded := [] } c path cold) :
    LoadsAlike cold warm ↔ (w.files.at? path = none → w.recalled? (path.resolve w.files.present) c = none) := by
  have hfresh : Gives cold (w.fresh c path) := hcold.gives_fresh rfl
  cases hknown : w.recalled? (path.resolve w.files.present) c with
  | none => exact iff_of_true ⟨_, _, hfresh, hwarm.gives_fresh hknown, .refl _⟩ fun _ => rfl
  | some h =>
    obtain ⟨s, hgives, hsame⟩ := hwarm.gives_known hw hknown
    refine ⟨fun ⟨a, b, ha, hb, hab⟩ hnowhere => ?_, fun hthere => ⟨_, _, hfresh, hgives, hsame fun h => nomatch hthere h⟩⟩
    rw [ha.unique hfresh, hb.unique hgives] at hab
    unfold Workspace.fresh at hab
    rw [hnowhere] at hab
    cases hab

/-- What is remembered is given. -/
theorem Loading.known_ok (hload : Loading w c path result) {h : SchemaHandle}
    (hknown : w.recalled? (path.resolve w.files.present) c = some h) : result.1 = .ok h := by
  cases hload with
  | known found =>
    cases hknown.symm.trans found
    rfl
  | missing unknown | directory unknown | refused unknown | made unknown => cases hknown.symm.trans unknown

/-- A path that leads nowhere gives what is remembered for the file that it resolves to, and by itself it fails. -/
theorem Loading.nowhere {warm cold : Except Failure SchemaHandle × Workspace} (hwarm : Loading w c path warm)
    (hcold : Loading { w with loaded := [] } c path cold) (hnowhere : w.files.at? path = none) {h : SchemaHandle}
    (hknown : w.recalled? (path.resolve w.files.present) c = some h) :
    cold.1 = .error (.noFile path.text) ∧ warm.1 = .ok h := by
  refine ⟨?_, hwarm.known_ok hknown⟩
  cases hcold with
  | known found => cases found
  | missing => rfl
  | directory _ there | refused _ there | made _ there => cases hnowhere.symm.trans there

/-- A load gives a schema with the capabilities of the loader. -/
theorem Loading.capabilities (hload : Loading w c path result) (hw : w.Recalls) {h : SchemaHandle} (hh : result.1 = .ok h) :
    ∃ s, result.2.schemas[h]? = some s ∧ result.2.capabilities[c]? = some s.capabilities := by
  have hwidens := hload.widens
  cases hload with
  | known found hears =>
    cases hh
    obtain ⟨-, s, caps, content, clock, hs, hcaps, -, hmade⟩ := hw.recalled found
    cases Schema.fromContent_capabilities hmade
    exact ⟨s, hwidens.schemas _ _ hs, hwidens.capabilities _ _ hcaps⟩
  | @made _ s w' _ _ made hears =>
    cases hh
    have hnew : w'.schemas[w.schemas.size]? = some s := by
      rw [hears.schemas]
      exact Array.getElem?_push_size
    exact ⟨s, hnew, hwidens.capabilities _ _ (Schema.fromContent_capabilities made)⟩
  | missing | directory | refused => cases hh

/-- What is remembered with some capabilities is loaded with no others. -/
theorem Loading.apart (hload : Loading w c path result) (hw : w.Recalls) {e : (FilePath × Nat) × CachedSchema}
    (he : e ∈ w.loaded) (hne : c ≠ e.2.capabilities) : result.1 ≠ .ok e.2.schema := by
  rintro hh
  cases hload with
  | known found =>
    cases hh
    exact hne (congrArg (fun known => known.2.capabilities) (hw.apart _ (hw.recalled found).1 e he rfl))
  | made =>
    have hnew : w.schemas.size = e.2.schema := Except.ok.inj hh
    exact absurd (hw.known e he).lt (Nat.not_lt_of_le (Nat.le_of_eq hnew))
  | missing | directory | refused => cases hh

/-- **What is remembered does not show.** Take any loads of any files with any capabilities, where what was loaded may be
forgotten, capabilities added, and time passes. Then a load does as it would if nothing were remembered, except where its path
leads nowhere and still resolves to a file that is remembered: there it gives the schema of that file, where by itself it fails.
A load that fails changes nothing that is remembered. A load that goes well gives a schema with the capabilities of the loader,
the standard ones if it has no others, and until all is forgotten no load with other capabilities gives this schema. All this is
so whatever ids capabilities have, also if two have one id. As long as the id of the capabilities is theirs alone, each load of
the same file with the same capabilities gives this very schema. -/
theorem load_cached {w₀ : Workspace} (hempty : w₀.loaded = [])
    (hstandard : w₀.capabilities[standardCapabilities]? = some .standard) (steps : List LoaderStep)
    (given : Option CapabilitiesHandle) (path : FilePath) :
    let w := LoaderStep.run steps w₀
    let c := loaderCapabilities given
    let full := path.resolve w.files.present
    let warm := (load c path).ending w
    let cold := (load c path).ending { w with loaded := [] }
    (LoadsAlike cold warm ↔ (w.files.at? path = none → w.recalled? full c = none)) ∧
    (w.files.at? path = none → ∀ h, w.recalled? full c = some h →
      cold.1 = .error (.noFile path.text) ∧ warm.1 = .ok h) ∧
    (∀ f, warm.1 = .error f → warm.2.loaded = w.loaded) ∧
    ∀ h, warm.1 = .ok h →
      (∃ s, warm.2.schemas[h]? = some s ∧ warm.2.capabilities[c]? = some s.capabilities ∧
        (given = none → s.capabilities = .standard)) ∧
      ∀ later : List LoaderStep, .forget ∉ later → ∀ given' path',
        let again := ((load (loaderCapabilities given') path').ending (LoaderStep.run later warm.2)).1
        ((∀ step ∈ later, step.KeepsApart w.ids c) → path'.resolve w.files.present = full → loaderCapabilities given' = c →
          again = .ok h) ∧
        (loaderCapabilities given' ≠ c → again ≠ .ok h) := by
  intro w c full warm cold
  have hw : w.Recalls := LoaderStep.run_recalls steps ⟨hstandard, by simp [hempty], by simp [hempty]⟩
  have hwarm : Loading w c path warm := load_loading w c path
  have hcold : Loading { w with loaded := [] } c path cold := load_loading _ c path
  refine ⟨hwarm.alike_iff hw hcold, fun hnowhere h hknown => hwarm.nowhere hcold hnowhere hknown,
    fun f hf => hwarm.failed hf, fun h hh => ⟨?_, fun later hlater given' path' => ?_⟩⟩
  · obtain ⟨s, hs, hcaps⟩ := hwarm.capabilities hw hh
    refine ⟨s, hs, hcaps, ?_⟩
    rintro rfl
    exact Option.some.inj (hcaps.symm.trans (hwarm.recalls hw).standard)
  · intro again
    have hknown : warm.2.recalled? full c = some h := hwarm.recalled hh
    have hrecalls := hwarm.recalls hw
    have hagain := load_loading (LoaderStep.run later warm.2) (loaderCapabilities given') path'
    refine ⟨fun hids hfull hsame => ?_, fun hother => ?_⟩
    · have hlast : (LoaderStep.run later warm.2).recalled? full c = some h :=
        LoaderStep.run_recalled later hlater (hwarm.widens.ids.symm ▸ hids) hknown
      have hfiles : (LoaderStep.run later warm.2).files = w.files :=
        (LoaderStep.run_widens later warm.2).files.trans hwarm.widens.files
      rw [← hfull, ← hsame, ← hfiles] at hlast
      exact hagain.known_ok hlast
    · have hmem := LoaderStep.run_loaded later warm.2 hlater (hrecalls.recalled hknown).1
      exact hagain.apart (LoaderStep.run_recalls later hrecalls) hmem hother

end Work

/-! A directory with one schema, which is loaded with two capabilities that have one id, forgotten, and loaded by another name. -/

def loaderText : String := "namespace: ns://a\nversion: 1.0.0\ndescription: A schema\n"

/-- The capabilities beside the standard ones all have one id. -/
def loaderWorkspace : Workspace where
  clock := ⟨default, "id"⟩
  files := ⟨"/", [(["a.yaml"], .text loaderText)]⟩
  ids := fun c => if c = standardCapabilities then 0 else 7

def loaderSteps : List LoaderStep :=
  [.supply ⟨[], []⟩, .load (some 1) ⟨false, ["a.yaml"]⟩, .supply ⟨[], []⟩, .load (some 2) ⟨false, ["a.yaml"]⟩, .forget,
    .load (some 1) ⟨true, ["a.yaml"]⟩, .tick ⟨default, "later"⟩, .load (some 2) ⟨false, ["b.yaml"]⟩]

/-- What is remembered with capabilities of the same id is not taken, and the schema that is made instead is given again. -/
theorem loaderSteps_cached :
    let w := LoaderStep.run loaderSteps loaderWorkspace
    let path : FilePath := ⟨false, ["a.yaml"]⟩
    let warm := (Work.load 2 path).ending w
    let cold := (Work.load 2 path).ending { w with loaded := [] }
    w.loaded.lookup (path.resolve w.files.present, w.ids 2) = some ⟨2, 1⟩ ∧ Work.LoadsAlike cold warm ∧ warm.1.toOption = some 3 ∧
      ((Work.load 2 ⟨true, ["a.yaml"]⟩).ending (LoaderStep.run [.load none path] warm.2)).1 = .ok 3 := by
  intro w path warm cold
  obtain ⟨halike, -, -, hgiven⟩ := @Work.load_cached loaderWorkspace rfl rfl loaderSteps (some 2) path
  have hok : warm.1.toOption = some 3 := by decide +kernel
  refine ⟨by decide +kernel, halike.2 fun hnowhere => ?_, hok, ?_⟩
  · have hthere : (w.files.at? path).isSome = true := by decide +kernel
    rw [hnowhere] at hthere
    cases hthere
  · refine ((hgiven 3 (congrArg Prod.fst (Work.eq_ok_of_toOption hok))).2 [.load none path] (by simp) (some 2) ⟨true, ["a.yaml"]⟩).1 ?_
      (by decide +kernel) rfl
    rintro step hstep
    obtain rfl : step = .load none path := List.mem_singleton.1 hstep
    intro hid
    exact absurd hid (by decide +kernel)

/-- A path through a directory that is not there leads nowhere, and gives the schema that was loaded from the path it resolves
to. -/
theorem loaderWorkspace_not_alike :
    let w := LoaderStep.run [.load none ⟨false, ["a.yaml"]⟩] loaderWorkspace
    let path : FilePath := ⟨false, ["missing", "..", "a.yaml"]⟩
    let warm := (Work.load standardCapabilities path).ending w
    let cold := (Work.load standardCapabilities path).ending { w with loaded := [] }
    warm.1.toOption = some 0 ∧ cold.1 = .error (.noFile "missing/../a.yaml") ∧ ¬ Work.LoadsAlike cold warm := by
  intro w path warm cold
  have hnowhere : w.files.at? path = none := Option.isNone_iff_eq_none.1 (by decide +kernel)
  have hknown : w.recalled? (path.resolve w.files.present) standardCapabilities = some 0 := by decide +kernel
  have hw : w.Recalls := LoaderStep.run_recalls _ ⟨rfl, nofun, nofun⟩
  have hloads := Work.load_loading w standardCapabilities path
  have halone := Work.load_loading { w with loaded := [] } standardCapabilities path
  obtain ⟨hcold, hwarm⟩ := hloads.nowhere halone hnowhere hknown
  refine ⟨congrArg Except.toOption hwarm, hcold, fun halike => ?_⟩
  cases hknown.symm.trans ((hloads.alike_iff hw halone).1 halike hnowhere)

end ShapeCheck
