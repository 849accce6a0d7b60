import ShapeCheck.Proofs.Gates
import ShapeCheck.Proofs.Repeating

/-!
# One more constraint

A constraint at the end of a property moves what the property accepts in one direction. `PropertyChecker.Looser` compares two
checkers part by part, so that the looser one accepts whatever the other one does, `Looser.clears`, as long as it comes to an
end: comparing a value that contains itself with more values may have none. Each method but `valid` leads to a looser checker
or to a stricter one, `Method.apply_looser` and `Method.apply_stricter`, and `valid` does both: it allows values, and accepts
no others from then on. `Capabilities.compileProperty_append` puts this together for properties.
-/

namespace ShapeCheck

open PropertyChecker

/-! ## Nothing is found -/

/-- A check of a value comes to a result, and nothing is found. -/
def PropertyChecker.Clears (c : PropertyChecker) (f : Follow) (ctx : Context) (path : Path) (present : Bool)
    (parent : Option Value) (r : Run) (v : Value) : Prop :=
  ∃ w, ((c.collect f ctx path present parent v).ending r).1 = .ok ([], w)

/-- A check of a value has no end: the value is compared with one of those that are allowed or denied, and both contain
themselves. -/
def PropertyChecker.RunsOn (c : PropertyChecker) (f : Follow) (ctx : Context) (path : Path) (present : Bool)
    (parent : Option Value) (r : Run) (v : Value) : Prop :=
  ((c.collect f ctx path present parent v).ending r).1 = .error .endless

/-- A value, or what it counts as, is the same as one of some data. -/
def Kind.Listed (k : Kind) (convert : Bool) (σ : Store) (data : List Datum) (v : Value) : Prop :=
  ∃ counted, k.convert convert σ v = .ok counted ∧ (readings v (counted.getD v)).any (σ.isAmong data) = true

section Clears

variable {c : PropertyChecker} {convert present : Bool} {path : Path} {σ : Store} {v w : Value} {f : Follow} {ctx : Context}
  {parent : Option Value} {r : Run}

/-- What passes before the rules: what may be missing, null where it is fine, and what is listed as allowed. -/
theorem PropertyChecker.early_passes_iff :
    (∃ w, c.early convert path present σ v = .ok (.done [] w)) ↔
      present = false ∧ c.required = false ∨
      present = true ∧ v = .scalar .null ∧ (c.nullOk = true ∨ holds c.allowed .null = true) ∨
      present = true ∧ v ≠ .scalar .null ∧ c.comparesOn σ v = false ∧ c.kind.Listed convert σ c.allowed v := by
  cases present with
  | false => cases hrequired : c.required <;> simp [early, hrequired, pure, Except.pure]
  | true =>
      by_cases hnull : v = .scalar .null
      · cases hok : c.nullOk <;> cases hholds : holds c.allowed .null <;>
          simp [early, hnull, hok, hholds, pure, Except.pure]
      · have hlisted : (∃ w, c.early convert path true σ v = .ok (.done [] w)) ↔
            c.comparesOn σ v = false ∧ c.kind.Listed convert σ c.allowed v := by
          constructor
          · rintro ⟨w, h⟩
            unfold early at h
            rw [if_neg nofun, if_neg hnull] at h
            obtain ⟨counted, hcounted, h⟩ := Except.bind_eq_ok.1 h
            simp only [bind, Except.bind] at h
            split at h
            · cases h
            next hends =>
            split at h
            · next hallowed => exact ⟨Bool.eq_false_iff.2 hends, counted, hcounted, hallowed⟩
            · -- All that is decided after this has a finding.
              split at h
              · split at h <;> cases h
              split at h
              · split at h <;> cases h
              split at h
              · cases h
              · split at h <;> cases h
          · rintro ⟨hends, counted, hcounted, hallowed⟩
            exact ⟨_, early_allowed hnull hcounted hends hallowed⟩
        simp [hlisted, hnull]

/-- A value that is there and is of the kind, or not, is compared without an end before all else is decided. -/
theorem PropertyChecker.early_endless {counted : Option Value} (hnull : v ≠ .scalar .null)
    (hkind : c.kind.convert convert σ v = .ok counted) (hon : c.comparesOn σ v = true) :
    c.early convert path true σ v = .error .endless := by
  unfold early
  rw [if_neg nofun, if_neg hnull, hkind]
  simp only [bind, Except.bind]
  rw [if_pos hon]
  rfl

theorem PropertyChecker.runsOn_of_early (h : c.early ctx.convert path present r.store v = .error .endless) :
    c.RunsOn f ctx path present parent r v := by
  unfold RunsOn
  rw [collect_eq, Check.ending_bind_ok (Check.ending_store r), h, Check.ending_bind_error (Check.ending_ofExcept _ r)]

/-- Nothing is found exactly if a value passes before the rules, or it goes on to them and neither the keys beside it nor
the rules find anything. -/
theorem PropertyChecker.clears_iff :
    c.Clears f ctx path present parent r v ↔
      (∃ w, c.early ctx.convert path present r.store v = .ok (.done [] w)) ∨
      ∃ w s, c.early ctx.convert path present r.store v = .ok (.goOn w) ∧ peerFindings c path r.store parent v = .ok [] ∧
        (Rule.runAll f ctx path c.rules w).ending r = (.ok [], s) := by
  unfold Clears
  rw [collect_eq, Check.ending_bind_ok (Check.ending_store r)]
  cases hearly : c.early ctx.convert path present r.store v with
  | error e =>
      rw [Check.ending_bind_error (Check.ending_ofExcept _ r)]
      simp
  | ok early =>
      rw [Check.ending_bind_ok (Check.ending_ofExcept _ r)]
      cases early with
      | done found w =>
          constructor
          · rintro ⟨u, h⟩
            cases h
            exact .inl ⟨w, rfl⟩
          · rintro (⟨u, h⟩ | ⟨u, s, h, _⟩)
            · cases h
              exact ⟨w, rfl⟩
            · cases h
      | goOn w =>
          dsimp only
          rw [Check.ending_bind_ok (Check.ending_store r)]
          constructor
          · rintro ⟨u, h⟩
            obtain ⟨peers, s, hpeers, hrest⟩ := Check.ending_bind_eq_ok (Prod.ext h rfl)
            rw [Check.ending_ofExcept] at hpeers
            obtain ⟨hbeside, rfl⟩ := Prod.mk.inj hpeers
            obtain ⟨others, t, hothers, hend⟩ := Check.ending_bind_eq_ok hrest
            obtain ⟨hfound, -⟩ := Prod.mk.inj (Except.ok.inj (Prod.mk.inj hend).1)
            obtain ⟨rfl, rfl⟩ := List.append_eq_nil_iff.1 hfound
            exact .inr ⟨w, t, rfl, hbeside, hothers⟩
          · rintro (⟨u, h⟩ | ⟨u, s, h, hpeers, hrules⟩)
            · cases h
            · cases h
              refine ⟨w, ?_⟩
              rw [hpeers, Check.ending_bind_ok (Check.ending_ofExcept _ r), Check.ending_bind_ok hrules]
              rfl

end Clears

/-! ## Looser checkers -/

/-- One checker is looser than another: it asks for less, allows more, and has only some of the first rules. -/
structure PropertyChecker.Looser (c c' : PropertyChecker) : Prop where
  kind : c'.kind = c.kind
  required : c'.required = true → c.required = true
  nullOk : c.nullOk = true → c'.nullOk = true
  emptyOk : c.emptyOk = true → c'.emptyOk = true
  onlyValid : c'.onlyValid = true → c.onlyValid = true
  allowed : c.allowed ⊆ c'.allowed
  denied : c'.denied ⊆ c.denied
  peersWith : c'.peersWith <+: c.peersWith
  peersWithout : c'.peersWithout <+: c.peersWithout
  rules : c'.rules <+: c.rules

theorem Store.isAmong_mono {σ : Store} {data data' : List Datum} (h : data ⊆ data') {v : Value} (hv : σ.isAmong data v = true) :
    σ.isAmong data' v = true := by
  unfold isAmong at hv ⊢
  obtain ⟨d, hd, hsame⟩ := List.any_eq_true.1 hv
  exact List.any_eq_true.2 ⟨d, h hd, hsame⟩

theorem Store.any_isAmong_mono {σ : Store} {data data' : List Datum} (h : data ⊆ data') {vs : List Value}
    (hv : vs.any (σ.isAmong data) = true) : vs.any (σ.isAmong data') = true := by
  obtain ⟨v, hmem, hv⟩ := List.any_eq_true.1 hv
  exact List.any_eq_true.2 ⟨v, hmem, isAmong_mono h hv⟩

theorem Kind.Listed.mono {k : Kind} {convert : Bool} {σ : Store} {data data' : List Datum} {v : Value}
    (h : k.Listed convert σ data v) (hsub : data ⊆ data') : k.Listed convert σ data' v := by
  obtain ⟨counted, hcounted, hany⟩ := h
  exact ⟨counted, hcounted, Store.any_isAmong_mono hsub hany⟩

theorem holds_mono {data data' : List Datum} (h : data ⊆ data') {d : Datum} (hd : holds data d = true) :
    holds data' d = true := by
  obtain ⟨x, hx, hsame⟩ := List.any_eq_true.1 hd
  exact List.any_eq_true.2 ⟨x, h hx, hsame⟩

/-- Where no peers of a list are shown, none of the first of them are. -/
theorem peersShown_append {σ : Store} {parent : Value} {standing : Bool} {peers more : List Datum}
    (h : peersShown σ parent standing (peers ++ more) = .ok []) : peersShown σ parent standing peers = .ok [] := by
  induction peers with
  | nil => rfl
  | cons peer rest ih =>
      rw [List.cons_append] at h
      unfold peersShown at h ⊢
      obtain ⟨held, hheld, h⟩ := Except.bind_eq_ok.1 h
      rw [hheld]
      simp only [bind, Except.bind] at h ⊢
      split at h
      · next hshow =>
        -- A peer that is shown is no empty list.
        cases hwritten : peer.written Datum.literal with
        | error e => simp [hwritten, Except.map] at h
        | ok s => cases hrest : peersShown σ parent standing (rest ++ more) <;> simp [hwritten, Except.map, hrest, pure, Except.pure] at h
      · next hhide =>
        cases hrest : peersShown σ parent standing (rest ++ more) with
        | error e => simp [hrest] at h
        | ok others =>
            simp only [hrest, List.nil_append] at h
            rw [if_neg hhide, ih (hrest.trans h)]
            rfl

namespace PropertyChecker.Looser

variable {c c' : PropertyChecker} {f : Follow} {ctx : Context} {path : Path} {present : Bool} {parent : Option Value}
  {σ : Store} {r : Run} {v w : Value} {convert : Bool}

theorem refl (c : PropertyChecker) : c.Looser c :=
  ⟨rfl, id, id, id, id, List.Subset.refl _, List.Subset.refl _, List.prefix_refl _, List.prefix_refl _, List.prefix_refl _⟩

theorem trans {c'' : PropertyChecker} (h : c.Looser c') (h' : c'.Looser c'') : c.Looser c'' where
  kind := h'.kind.trans h.kind
  required hr := h.required (h'.required hr)
  nullOk hn := h'.nullOk (h.nullOk hn)
  emptyOk he := h'.emptyOk (h.emptyOk he)
  onlyValid ho := h.onlyValid (h'.onlyValid ho)
  allowed := List.Subset.trans h.allowed h'.allowed
  denied := List.Subset.trans h'.denied h.denied
  peersWith := h'.peersWith.trans h.peersWith
  peersWithout := h'.peersWithout.trans h.peersWithout
  rules := h'.rules.trans h.rules

/-- The same rule at the end of the same rules. -/
theorem addRule (h : c.Looser c') (hrules : c'.rules = c.rules) (x : Rule) : (c.addRule x).Looser (c'.addRule x) :=
  { h with rules := by rw [addRule_rules, addRule_rules, hrules] }

/-- What passes a checker before the rules passes a looser one, as long as looking for it has an end. -/
theorem early_passes (h : c.Looser c') (hc : ∃ w, c.early convert path present σ v = .ok (.done [] w)) :
    (∃ w, c'.early convert path present σ v = .ok (.done [] w)) ∨ c'.early convert path present σ v = .error .endless := by
  rw [early_passes_iff] at hc ⊢
  rcases hc with ⟨hpresent, hrequired⟩ | ⟨hpresent, hnull, hok⟩ | ⟨rfl, hnull, _, hlisted⟩
  · exact .inl (.inl ⟨hpresent, Bool.eq_false_iff.2 fun h' => by simp [h.required h'] at hrequired⟩)
  · exact .inl (.inr (.inl ⟨hpresent, hnull, hok.imp h.nullOk (holds_mono h.allowed)⟩))
  · obtain ⟨counted, hcounted, hany⟩ := h.kind.symm ▸ hlisted.mono h.allowed
    cases hon : c'.comparesOn σ v with
    | true => exact .inr (early_endless hnull hcounted hon)
    | false => exact .inl (.inr (.inr ⟨rfl, hnull, rfl, counted, hcounted, hany⟩))

/-- What goes on to the rules of a checker passes a looser one before the rules, or goes on to its rules as well, as long as
looking for it has an end. -/
theorem early_goOn (h : c.Looser c') (hc : c.early convert path present σ v = .ok (.goOn w)) :
    (∃ u, c'.early convert path present σ v = .ok (.done [] u)) ∨ c'.early convert path present σ v = .ok (.goOn w) ∨
      c'.early convert path present σ v = .error .endless := by
  obtain ⟨rfl, hadmits⟩ := early_goOn_iff.1 hc
  have hkind : c'.kind.convert convert σ v = .ok (some w) := h.kind ▸ hadmits.kind
  cases hon : c'.comparesOn σ v with
  | true => exact .inr (.inr (early_endless hadmits.notNull hkind hon))
  | false =>
      by_cases hallowed : (readings v w).any (σ.isAmong c'.allowed) = true
      · exact .inl (early_passes_iff.2 (.inr (.inr ⟨rfl, hadmits.notNull, hon, some w, hkind, hallowed⟩)))
      · refine .inr (.inl (early_goOn_iff.2 ⟨rfl, hadmits.notNull, hkind, hon, hallowed, fun hdenied => ?_, fun honly => ?_,
          fun hempty => ?_⟩))
        · exact hadmits.notDenied (Store.any_isAmong_mono h.denied hdenied)
        · exact hadmits.anyValue (h.onlyValid honly)
        · refine hadmits.notEmpty ?_
          rw [h.kind] at hempty
          simp only [Bool.and_eq_true, Bool.not_eq_true'] at hempty ⊢
          exact ⟨hempty.1, Bool.eq_false_iff.2 fun hok => by simp [h.emptyOk hok] at hempty⟩

theorem peerFindings_nil (h : c.Looser c') (hc : peerFindings c path σ parent v = .ok []) :
    peerFindings c' path σ parent v = .ok [] := by
  cases parent with
  | none => rfl
  | some p =>
      unfold peerFindings at hc ⊢
      dsimp only at hc ⊢
      obtain ⟨absent, habsent, hc⟩ := Except.bind_eq_ok.1 hc
      obtain ⟨there, hthere, hc⟩ := Except.bind_eq_ok.1 hc
      have hnil := List.append_eq_nil_iff.1 (Except.ok.inj hc)
      obtain ⟨rfl, rfl⟩ := hnil.imp List.map_eq_nil_iff.1 List.map_eq_nil_iff.1
      obtain ⟨_, hwith⟩ := h.peersWith
      obtain ⟨_, hwithout⟩ := h.peersWithout
      rw [← hwith] at habsent
      rw [← hwithout] at hthere
      rw [peersShown_append habsent, peersShown_append hthere]
      rfl

/-- Where all rules find nothing the first of them do not either. -/
theorem runAll_nil (h : c.Looser c') {s : Run} (hc : (Rule.runAll f ctx path c.rules w).ending r = (.ok [], s)) :
    ∃ t, (Rule.runAll f ctx path c'.rules w).ending r = (.ok [], t) := by
  obtain ⟨rest, hrest⟩ := h.rules
  rw [← hrest, Rule.runAll_append] at hc
  obtain ⟨found, t, hfound, hc⟩ := Check.ending_bind_eq_ok hc
  obtain ⟨others, u, _, hc⟩ := Check.ending_bind_eq_ok hc
  obtain ⟨rfl, _⟩ := List.append_eq_nil_iff.1 (Except.ok.inj (Prod.mk.inj hc).1)
  exact ⟨t, hfound⟩

/-- A looser checker finds nothing where the other one finds nothing, as long as it comes to an end. -/
theorem clears (h : c.Looser c') (hc : c.Clears f ctx path present parent r v) :
    c'.Clears f ctx path present parent r v ∨ c'.RunsOn f ctx path present parent r v := by
  rw [clears_iff] at hc ⊢
  rcases hc with hpasses | ⟨w, s, hearly, hpeers, hrules⟩
  · exact (h.early_passes hpasses).imp .inl runsOn_of_early
  · rcases h.early_goOn hearly with hpasses | hearly' | hon
    · exact .inl (.inl hpasses)
    · obtain ⟨t, ht⟩ := h.runAll_nil hrules
      exact .inl (.inr ⟨w, t, hearly', h.peerFindings_nil hpeers, ht⟩)
    · exact .inr (runsOn_of_early hon)

end PropertyChecker.Looser

/-! ## What one method does -/

theorem subset_including (data : List Datum) (d : Datum) : data ⊆ including data d := by
  unfold including
  split
  · exact List.Subset.refl _
  · exact List.subset_append_left _ _

theorem including_sublist (data : List Datum) (d : Datum) : (including data d).Sublist (data ++ [d]) := by
  unfold including
  split
  · exact List.sublist_append_left _ _
  · exact List.Sublist.refl _

theorem PropertyChecker.looser_allow (c : PropertyChecker) (d : Datum) : c.Looser (c.allow d) :=
  { Looser.refl c with allowed := subset_including _ _, denied := List.filter_sublist.subset }

theorem PropertyChecker.deny_looser (c : PropertyChecker) (d : Datum) : (c.deny d).Looser c :=
  { Looser.refl c with allowed := List.filter_sublist.subset, denied := subset_including _ _ }

theorem PropertyChecker.addRule_looser (c : PropertyChecker) (x : Rule) : (c.addRule x).Looser c :=
  { Looser.refl c with rules := List.prefix_append _ _ }

theorem PropertyChecker.looser_allowAll (args : List Datum) (c : PropertyChecker) : c.Looser (args.foldl .allow c) := by
  induction args generalizing c with
  | nil => exact .refl c
  | cons a rest ih => exact (c.looser_allow a).trans (ih (c.allow a))

theorem PropertyChecker.denyAll_looser (args : List Datum) (c : PropertyChecker) : (args.foldl .deny c).Looser c := by
  induction args generalizing c with
  | nil => exact .refl c
  | cons a rest ih => exact (ih (c.deny a)).trans (c.deny_looser a)

namespace Method

/-- The methods that only ever let more pass. -/
def loosens : Method → Bool
  | .allow | .nullOk | .emptyOk => true
  | _ => false

variable {element : Datum → Except CompileError PropertyChecker} {args : List Datum} {m : Method} {c c' : PropertyChecker}

theorem apply_looser (h : m.apply args (fun a _ => element a) c = .ok c') (hm : m.loosens = true) : c.Looser c' := by
  cases m with
  | allow =>
      rw [takeAll_eq_ok h]
      exact looser_allowAll args c
  | nullOk =>
      cases h
      exact { Looser.refl c with nullOk := fun _ => rfl }
  | emptyOk =>
      cases h
      exact { Looser.refl c with emptyOk := fun _ => rfl }
  | _ => cases hm

theorem apply_stricter (h : m.apply args (fun a _ => element a) c = .ok c') (hm : m.loosens = false) (hvalid : m ≠ .valid) :
    c'.Looser c := by
  rcases apply_cases h with ⟨_, rfl⟩ | ⟨x, _, rfl⟩
  · cases m with
    | required => exact { Looser.refl c with required := fun _ => rfl }
    | deny => exact denyAll_looser args c
    | withPeers => exact { Looser.refl c with peersWith := List.prefix_append _ _ }
    | withoutPeers => exact { Looser.refl c with peersWithout := List.prefix_append _ _ }
    | allow | nullOk | emptyOk => cases hm
    | valid => exact absurd rfl hvalid
    | _ => exact .refl c
  · exact c.addRule_looser x

end Method

/-! ## Listed values -/

section Valid

variable {described : Descriptions} {σ : Store} {data args : List Datum} {v : Value} {c : PropertyChecker} {f : Follow}
  {ctx : Context} {path : Path} {present : Bool} {parent : Option Value} {r : Run}

/-- What stands after more values were allowed. -/
theorem PropertyChecker.allowAll_allowed (args : List Datum) (c : PropertyChecker) :
    (args.foldl .allow c).allowed = args.foldl including c.allowed :=
  Method.foldl_part allowed (fun _ _ => rfl) args c

theorem foldl_including_sublist (args data : List Datum) : (args.foldl including data).Sublist (data ++ args) := by
  induction args generalizing data with
  | nil => simp
  | cons a rest ih =>
      rw [List.append_cons]
      exact (ih (including data a)).trans ((including_sublist data a).append_right rest)

/-- A value that is the same as one of some data is still so where those that are the same as others are left out. -/
theorem Store.isAmong_foldl_including (hdata : ∀ d ∈ data ++ args, d.Proper described) (hv : (σ.datum v).Proper described)
    (h : σ.isAmong (data ++ args) v = true) : σ.isAmong (args.foldl including data) v = true := by
  induction args generalizing data with
  | nil => rwa [List.append_nil] at h
  | cons a rest ih =>
      rw [List.append_cons] at hdata h
      rw [List.foldl_cons]
      refine ih (fun d hd => hdata d (((including_sublist data a).append_right rest).subset hd)) ?_
      unfold isAmong at h ⊢
      obtain ⟨d, hd, hsame⟩ := List.any_eq_true.1 h
      rw [List.any_eq_true]
      by_cases hin : d ∈ including data a ++ rest
      · exact ⟨d, hin, hsame⟩
      · -- The value is left out, since another one is the same.
        have hholds : PropertyChecker.holds data a = true := by
          by_contra hnot
          rw [including, if_neg hnot] at hin
          exact hin hd
        have ha : d = a := by
          rw [including, if_pos hholds] at hin
          simp only [List.mem_append, List.mem_singleton] at hd hin
          tauto
        obtain ⟨b, hb, hba⟩ := List.any_eq_true.1 hholds
        have hbmem : b ∈ data ++ [a] ++ rest := List.mem_append_left _ (List.mem_append_left _ hb)
        subst ha
        rw [Bool.and_eq_true, beq_iff_eq] at hsame
        refine ⟨b, List.mem_append_left _ (subset_including _ _ hb), ?_⟩
        rw [Bool.and_eq_true, beq_iff_eq]
        exact ⟨(Datum.isScalar_of_same hba).trans hsame.1,
          (hdata b hbmem).same_trans (hdata d hd) hv hba hsame.2⟩

/-- Null passes where it is fine or allowed, and so what is listed passes if only null and missing values are looked at before,
as long as looking for it has an end. -/
theorem PropertyChecker.Looser.clears_of_listed {d : PropertyChecker} (h : c.Looser d) (hc : c.Clears f ctx path present parent r v)
    (hlisted : d.kind.Listed ctx.convert r.store d.allowed v) (only : Bool) :
    let d' : PropertyChecker := { d with onlyValid := only }
    d'.Clears f ctx path present parent r v ∨ d'.RunsOn f ctx path present parent r v := by
  intro d'
  have hpassed : ∀ {w}, d.early ctx.convert path present r.store v = .ok (.done [] w) →
      d'.Clears f ctx path present parent r v := by
    intro w hw
    have hpasses := early_passes_iff.1 ⟨w, hw⟩
    exact clears_iff.2 (.inl (early_passes_iff.2 hpasses))
  have hthere : present = true → v ≠ .scalar .null →
      d'.Clears f ctx path present parent r v ∨ d'.RunsOn f ctx path present parent r v := by
    rintro rfl hnull
    obtain ⟨counted, hcounted, hany⟩ := hlisted
    cases hon : d.comparesOn r.store v with
    | true => exact .inr (runsOn_of_early (early_endless hnull hcounted hon))
    | false => exact .inl (clears_iff.2 (.inl (early_passes_iff.2 (.inr (.inr ⟨rfl, hnull, hon, counted, hcounted, hany⟩)))))
  rcases clears_iff.1 hc with hpasses | ⟨w, _, hearly, _⟩
  · rcases h.early_passes hpasses with ⟨w, hw⟩ | hon
    · exact .inl (hpassed hw)
    · rcases early_passes_iff.1 hpasses with ⟨rfl, _⟩ | ⟨rfl, rfl, _⟩ | ⟨hpresent, hnot, _⟩
      · unfold early at hon
        cases hon
      · unfold early at hon
        cases hon
      · exact hthere hpresent hnot
  · obtain ⟨hpresent, hadmits⟩ := early_goOn_iff.1 hearly
    exact hthere hpresent hadmits.notNull

/-- Where only allowed values pass, what is not among them does not. -/
theorem PropertyChecker.not_clears_of_not_listed (honly : c.onlyValid = true) (hnull : v ≠ .scalar .null)
    (hlisted : ¬ c.kind.Listed ctx.convert r.store c.allowed v) : ¬ c.Clears f ctx path true parent r v := by
  intro hc
  rcases clears_iff.1 hc with hpasses | ⟨w, _, hearly, _⟩
  · rcases early_passes_iff.1 hpasses with ⟨h, _⟩ | ⟨_, h, _⟩ | ⟨_, _, _, h⟩
    · cases h
    · exact hnull h
    · exact hlisted h
  · exact (early_goOn_iff.1 hearly).2.anyValue honly

/-- What is listed among some data or others is listed among the first with the others allowed as well. -/
theorem Kind.Listed.foldl_including {k : Kind} {convert : Bool} (hdata : ∀ d ∈ data ++ args, d.Proper described)
    (hv : (σ.datum v).Proper described) (h : k.Listed convert σ (data ++ args) v) :
    k.Listed convert σ (args.foldl including data) v := by
  obtain ⟨counted, hcounted, hany⟩ := h
  obtain ⟨w, hw, hamong⟩ := List.any_eq_true.1 hany
  refine ⟨counted, hcounted, List.any_eq_true.2 ⟨w, hw, Store.isAmong_foldl_including hdata ?_ hamong⟩⟩
  rcases readings_cases hcounted hw with rfl | hw
  · exact hv
  · cases hw with
    | _ => exact Datum.proper_scalar _

end Valid

/-! ## Constraints at the end -/

/-- The last of some constraints is applied to what the others compile to. -/
theorem Capabilities.compileConstraints_last {caps : Capabilities} {kind : Kind}
    {element : String → Datum → Except CompileError PropertyChecker} {cs : List Constraint} {x : Constraint}
    {start c c' : PropertyChecker} (h : caps.compileConstraints kind cs (fun m a _ => element m a) start = .ok c)
    (h' : caps.compileConstraints kind (cs ++ [x]) (fun m a _ => element m a) start = .ok c') :
    caps.compileConstraint kind x (fun a _ => element x.method a) c = .ok c' := by
  rw [compileConstraints_append, h] at h'
  obtain ⟨b, hb, hlast⟩ := Except.bind_eq_ok.1 (show caps.compileConstraints kind [x] (fun m a _ => element m a) c = .ok c' from h')
  unfold compileConstraints at hlast
  cases hlast
  exact hb

theorem Capabilities.compileConstraints_kind {caps : Capabilities} {kind : Kind}
    {element : String → Datum → Except CompileError PropertyChecker} {cs : List Constraint} {c : PropertyChecker}
    (h : caps.compileConstraints kind cs (fun m a _ => element m a) (.ofKind kind) = .ok c) : c.kind = kind := by
  refine compileConstraints_induct (I := fun c => c.kind = kind) (fun y _ {_ m b b'} _ _ happly hb => ?_) h rfl
  rcases Method.apply_cases happly with ⟨_, rfl⟩ | ⟨_, _, rfl⟩
  · rw [Method.adjust_kind, hb]
  · exact hb

theorem Method.eq_reference_of_addsRule {name : String} {m : Method} (h : ofName? .object name = some m)
    (hm : m.addsRule = true) : m = .reference := by
  have hall : ∀ e ∈ own .object ++ base, e.2.addsRule = true → e.2 = .reference := by decide
  exact hall _ (ofName?_mem h) hm

/-- The checkers of a property without a constraint and with it at the end, and what the method of it did: the inline type is
put behind both. -/
theorem Capabilities.compileProperty_append_eq_ok {caps : Capabilities} {kindName : String} {cs : List Constraint}
    {x : Constraint} {types : Option (List TypeChecker)} {c c' : PropertyChecker}
    (h : caps.compileProperty kindName cs types = .ok c) (h' : caps.compileProperty kindName (cs ++ [x]) types = .ok c') :
    ∃ m b b', Method.ofName? c.kind x.method = some m ∧
      m.apply x.args (fun a _ => caps.compileElement x.method a) b = .ok b' ∧
      (c = b ∧ c' = b' ∨ ∃ y, c = b.addRule y ∧ c' = b'.addRule y ∧ b'.rules = b.rules) := by
  obtain ⟨kind, b, hkind, hcs, hrest⟩ := compileProperty_eq_ok h
  obtain ⟨kind', b', hkind', hcs', hrest'⟩ := compileProperty_eq_ok h'
  obtain rfl := Except.ok.inj (hkind.symm.trans hkind')
  obtain ⟨_, m, _, hm, happly⟩ := compileConstraint_eq_ok (compileConstraints_last hcs hcs')
  have hb : b.kind = kind := compileConstraints_kind hcs
  rcases hrest with ⟨rfl, rfl⟩ | ⟨t, rfl, hobject, _, rfl⟩
  · rcases hrest' with ⟨_, rfl⟩ | ⟨t, ht, _⟩
    · exact ⟨m, c, c', hb ▸ hm, happly, .inl ⟨rfl, rfl⟩⟩
    · cases ht
  · rcases hrest' with ⟨ht, _⟩ | ⟨t', ht, _, hreference, rfl⟩
    · cases ht
    · obtain rfl : t = t' := by simpa using ht
      refine ⟨m, b, b', ?_, happly, .inr ⟨_, rfl, rfl, ?_⟩⟩
      · rw [addRule_kind, hb]
        exact hm
      · rcases Method.apply_cases happly with ⟨_, rfl⟩ | ⟨y, hy, rfl⟩
        · exact Method.adjust_rules m x.args b
        · -- Of the methods of mappings only a reference adds a rule, and it cannot stand beside an inline type.
          rw [hobject] at hm
          obtain rfl := Method.eq_reference_of_addsRule hm hy.addsRule
          cases hy
          simp [Rule.isReference] at hreference

/-- **One more constraint moves what is accepted in one direction.** Take any property that compiles, also with one more
constraint at its end, and any way to follow references, context, place, mapping around and value, present or not. If the
constraint is `allow`, `nullOk` or `emptyOk`, then what passed without it passes with it. If it is any other but `valid`, then
what passes with it passed without it. If it is `valid`, then what passed without it and is listed, as it stands or as it is
converted, among the values allowed before or those given now, still passes; and a value that is there, is not null and is not
listed so does not pass. That a value passes always means that the check comes to its end. What is left is the check that has
none, since it compares a value that contains itself with one that does. Listed values stand for one another as far as they
are proper data. -/
theorem Capabilities.compileProperty_append {caps : Capabilities} {kindName : String} {cs : List Constraint} {x : Constraint}
    {types : Option (List TypeChecker)} {c c' : PropertyChecker} (h : caps.compileProperty kindName cs types = .ok c)
    (h' : caps.compileProperty kindName (cs ++ [x]) types = .ok c') :
    ∃ m, Method.ofName? c.kind x.method = some m ∧
      ∀ (f : Follow) (ctx : Context) (path : Path) (present : Bool) (parent : Option Value) (r : Run) (v : Value),
        (m.loosens = true → c.Clears f ctx path present parent r v →
          c'.Clears f ctx path present parent r v ∨ c'.RunsOn f ctx path present parent r v) ∧
        (m.loosens = false → m ≠ .valid → c'.Clears f ctx path present parent r v →
          c.Clears f ctx path present parent r v ∨ c.RunsOn f ctx path present parent r v) ∧
        (m = .valid →
          (∀ described, (∀ d ∈ c.allowed ++ x.args, d.Proper described) → (r.store.datum v).Proper described →
            c.kind.Listed ctx.convert r.store (c.allowed ++ x.args) v →
              c.Clears f ctx path present parent r v →
                c'.Clears f ctx path present parent r v ∨ c'.RunsOn f ctx path present parent r v) ∧
          (present = true → v ≠ .scalar .null → ¬ c.kind.Listed ctx.convert r.store (c.allowed ++ x.args) v →
            ¬ c'.Clears f ctx path present parent r v)) := by
  obtain ⟨m, b, b', hm, happly, hends⟩ := compileProperty_append_eq_ok h h'
  refine ⟨m, hm, fun f ctx path present parent r v => ⟨fun hloosens => ?_, fun hloosens hvalid => ?_, ?_⟩⟩
  · have hbb := Method.apply_looser happly hloosens
    rcases hends with ⟨rfl, rfl⟩ | ⟨y, rfl, rfl, hrules⟩
    · exact hbb.clears
    · exact (hbb.addRule hrules y).clears
  · have hbb := Method.apply_stricter happly hloosens hvalid
    rcases hends with ⟨rfl, rfl⟩ | ⟨y, rfl, rfl, hrules⟩
    · exact hbb.clears
    · exact (hbb.addRule hrules.symm y).clears
  · rintro rfl
    obtain ⟨b₁, hb₁, happly⟩ := Except.bind_eq_ok.1 happly
    cases happly
    obtain rfl := takeAll_eq_ok hb₁
    -- The inline type stands behind both checkers, so allowing comes to the same with it.
    obtain ⟨d, hlooser, hallowed, rfl⟩ : ∃ d : PropertyChecker, c.Looser d ∧ d.allowed = x.args.foldl including c.allowed ∧
        c' = { d with onlyValid := true } := by
      rcases hends with ⟨rfl, rfl⟩ | ⟨y, rfl, rfl, hrules⟩
      · exact ⟨_, looser_allowAll x.args c, allowAll_allowed x.args c, rfl⟩
      · exact ⟨(x.args.foldl PropertyChecker.allow b).addRule y, (looser_allowAll x.args b).addRule hrules y,
          allowAll_allowed x.args b, rfl⟩
    refine ⟨fun described hdata hv hlisted hc => ?_, fun hpresent hnull hlisted => ?_⟩
    · refine hlooser.clears_of_listed hc ?_ true
      rw [hallowed, hlooser.kind]
      exact hlisted.foldl_including hdata hv
    · subst hpresent
      refine not_clears_of_not_listed rfl hnull fun hmore => hlisted ?_
      change d.kind.Listed ctx.convert r.store d.allowed v at hmore
      rw [hallowed, hlooser.kind] at hmore
      exact hmore.mono (foldl_including_sublist _ _).subset

/-! A number that may be five and then has to be five or six. -/

def allowingFive : PropertyChecker := { PropertyChecker.ofKind .number with allowed := [.int 5] }

def fiveOrSix : PropertyChecker := { allowingFive with allowed := [.int 5, .int 6], onlyValid := true }

theorem allowingFive_compiles :
    Capabilities.standard.compileProperty "Number" [⟨"allow", [.int 5]⟩] none = .ok allowingFive := by rfl

theorem fiveOrSix_compiles :
    Capabilities.standard.compileProperty "Number" ([⟨"allow", [.int 5]⟩] ++ [⟨"valid", [.int 6]⟩]) none = .ok fiveOrSix := by
    with_unfolding_all rfl

theorem fiveOrSix_append :
    Capabilities.standard.compileProperty "Number" [⟨"allow", [.int 5]⟩] none = .ok allowingFive ∧
    Capabilities.standard.compileProperty "Number" ([⟨"allow", [.int 5]⟩] ++ [⟨"valid", [.int 6]⟩]) none = .ok fiveOrSix ∧
    allowingFive.Clears (fun _ _ _ _ => return []) ⟨64, true, 0, []⟩ {} true none { store := ⟨#[]⟩ } (.scalar (.text "5")) ∧
    fiveOrSix.Clears (fun _ _ _ _ => return []) ⟨64, true, 0, []⟩ {} true none { store := ⟨#[]⟩ } (.scalar (.text "5")) ∧
    ¬ fiveOrSix.Clears (fun _ _ _ _ => return []) ⟨64, true, 0, []⟩ {} true none { store := ⟨#[]⟩ } (.scalar (.text "7")) := by
  obtain ⟨m, hm, hall⟩ := Capabilities.compileProperty_append allowingFive_compiles fiveOrSix_compiles
  obtain rfl : m = .valid := (Option.some.inj hm).symm
  have hconvert : ∀ s n, Number.ofText? s = some (.int n) → (Number.int n).isFinite? = some true →
      Kind.number.convert true ⟨#[]⟩ (.scalar (.text s)) = .ok (some (.scalar (.int n))) := by
    intro s n hs hn
    rw [Kind.convert_number_text, hs]
    simp [finite?, hn, Scalar.int]
  have hfive := hconvert "5" 5 (by decide +kernel) (by decide +kernel)
  have hseven := hconvert "7" 7 (by decide +kernel) (by decide +kernel)
  have hclears : allowingFive.Clears (fun _ _ _ _ => return []) ⟨64, true, 0, []⟩ {} true none { store := ⟨#[]⟩ }
      (.scalar (.text "5")) :=
    clears_iff.2 (.inl (early_passes_iff.2 (.inr (.inr ⟨rfl, by simp, (Store.acyclic_scalar _).comparesOn _, _, hfive,
      by decide +kernel⟩))))
  have hends : ¬ fiveOrSix.RunsOn (fun _ _ _ _ => return []) ⟨64, true, 0, []⟩ {} true none { store := ⟨#[]⟩ }
      (.scalar (.text "5")) := by
    intro hon
    unfold RunsOn at hon
    have hok : ((fiveOrSix.collect (fun _ _ _ _ => return []) ⟨64, true, 0, []⟩ {} true none (.scalar (.text "5"))).ending
      { store := ⟨#[]⟩ }).1.isOk = true := by decide +kernel
    rw [hon] at hok
    cases hok
  refine ⟨allowingFive_compiles, fiveOrSix_compiles, hclears, ?_, ?_⟩
  · have hdata : ∀ d ∈ allowingFive.allowed ++ [.int 6], d.Proper fun _ => none := by
      simp [allowingFive, Datum.int, Datum.proper_scalar]
    have hpasses := ((hall (fun _ _ _ _ => return []) ⟨64, true, 0, []⟩ {} true none { store := ⟨#[]⟩ } (.scalar (.text "5"))).2.2
      rfl).1 (fun _ => none) hdata (Datum.proper_scalar _) ⟨_, hfive, by decide +kernel⟩ hclears
    exact hpasses.resolve_right hends
  · refine ((hall _ _ _ _ _ _ _).2.2 rfl).2 rfl (by simp) ?_
    rintro ⟨counted, hcounted, hlisted⟩
    obtain rfl := Except.ok.inj (hseven.symm.trans hcounted)
    revert hlisted
    decide +kernel

end ShapeCheck
