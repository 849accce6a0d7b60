import ShapeCheck.Proofs.Constraints
import ShapeCheck.Proofs.Frame

/-!
# What the standard capabilities let pass

By the standard capabilities each method takes arguments of one form, `Method.form`. So what the rules and peers of a checker
need is there: limits are numbers, and peers are texts. `PropertyChecker.Standard` says so, and types that are built with
the standard capabilities have it everywhere.
-/

namespace ShapeCheck

/-- The form of arguments that a method takes by the standard capabilities. -/
def Method.form : Method → ArgumentForm
  | .required | .nullOk | .emptyOk | .email | .date | .whole | .fraction => .nothing
  | .allow | .deny | .valid => .values
  | .withPeers | .withoutPeers => .keys
  | .length .. => .count
  | .pattern => .pattern
  | .alphanumeric => .optionalFlag
  | .atLeast | .atMost => .number
  | .includes | .excludes => .elements
  | .reference => .reference

theorem Capabilities.standard_lookup (kind : Kind) : ∀ p ∈ Method.own kind ++ Method.base,
    (Capabilities.standard.lookup (.text kind.name) p.1).toOption = some p.2.form := by
  cases kind <;> decide

/-- What is let pass is what is found, with arguments that fit. -/
theorem Capabilities.check_eq_ok {caps : Capabilities} {kind : Datum} {method : String} {args : List Datum} {form : ArgumentForm} :
    caps.check kind method args = .ok form ↔ caps.lookup kind method = .ok form ∧ form.fit args = .fits := by
  unfold check
  cases caps.lookup kind method with
  | error e => simp
  | ok form' =>
    dsimp only
    constructor
    · intro h
      split at h
      · next hfit =>
        cases h
        exact ⟨rfl, hfit⟩
      · cases h
      · cases h
    · rintro ⟨heq, hfit⟩
      cases heq
      rw [hfit]

/-- What passes the standard capabilities has the form that its method takes. -/
theorem Capabilities.standard_check {kind : Kind} {name : String} {m : Method} {args : List Datum} {form : ArgumentForm}
    (h : Capabilities.standard.check (.text kind.name) name args = .ok form) (hm : Method.ofName? kind name = some m) :
    m.form.fit args = .fits := by
  have hlookup := Capabilities.standard_lookup kind _ (Method.ofName?_mem hm)
  obtain ⟨hform, hfits⟩ := check_eq_ok.1 h
  rw [hform] at hlookup
  cases hlookup
  exact hfits

namespace ArgumentForm

theorem fit_count {args : List Datum} (h : count.fit args = .fits) : ∃ n, args = [.scalar (.number (.int n))] ∧ 0 ≤ n := by
  match args, h with
  | [.scalar (.number (.int n))], h =>
      unfold fit at h
      dsimp only at h
      split at h
      · next hn => exact ⟨n, rfl, hn⟩
      · cases h

theorem fit_number {args : List Datum} (h : number.fit args = .fits) : ∃ n, args = [.scalar (.number n)] := by
  match args, h with
  | [.scalar (.number n)], _ => exact ⟨n, rfl⟩

theorem fit_keys {args : List Datum} (h : keys.fit args = .fits) : ∀ a ∈ args, ∃ s, a = .scalar (.text s) := by
  unfold fit at h
  dsimp only at h
  split at h
  · cases h
  · next hkeys =>
    intro a ha
    obtain ⟨_, hall⟩ : args ≠ [] ∧ ∀ x ∈ args, isKeyName x = true := by simpa using hkeys
    have hname := hall a ha
    match a, hname with
    | .scalar (.text s), _ => exact ⟨s, rfl⟩

end ArgumentForm

/-- The limit that a rule compares with. -/
def Rule.limit? : Rule → Option Datum
  | .length _ _ limit => some limit
  | .atLeast limit => some limit
  | .atMost limit => some limit
  | _ => none

/-- What the standard capabilities make sure of in a checker. -/
structure PropertyChecker.Standard (c : PropertyChecker) : Prop where
  followsObjects : c.FollowsObjects
  limits : ∀ r ∈ c.rules, ∀ limit ∈ r.limit?, ∃ n, limit = .scalar (.number n)
  peersWith : ∀ d ∈ c.peersWith, ∃ s, d = .scalar (.text s)
  peersWithout : ∀ d ∈ c.peersWithout, ∃ s, d = .scalar (.text s)

theorem Method.adjust_peersWith {m : Method} (hm : m ≠ .withPeers) (args : List Datum) (c : PropertyChecker) :
    (m.adjust args c).peersWith = c.peersWith := by
  cases m with
  | withPeers => exact absurd rfl hm
  | allow => exact PropertyChecker.foldl_eq (f := .allow) (g := PropertyChecker.peersWith) (fun _ _ => rfl) args c
  | valid => exact PropertyChecker.foldl_eq (f := .allow) (g := PropertyChecker.peersWith) (fun _ _ => rfl) args c
  | deny => exact PropertyChecker.foldl_eq (f := .deny) (g := PropertyChecker.peersWith) (fun _ _ => rfl) args c
  | _ => rfl

theorem Method.adjust_peersWithout {m : Method} (hm : m ≠ .withoutPeers) (args : List Datum) (c : PropertyChecker) :
    (m.adjust args c).peersWithout = c.peersWithout := by
  cases m with
  | withoutPeers => exact absurd rfl hm
  | allow => exact PropertyChecker.foldl_eq (f := .allow) (g := PropertyChecker.peersWithout) (fun _ _ => rfl) args c
  | valid => exact PropertyChecker.foldl_eq (f := .allow) (g := PropertyChecker.peersWithout) (fun _ _ => rfl) args c
  | deny => exact PropertyChecker.foldl_eq (f := .deny) (g := PropertyChecker.peersWithout) (fun _ _ => rfl) args c
  | _ => rfl

/-- The limit of a rule that a method with fitting arguments adds is a number. -/
theorem Method.Adds.limit_number {m : Method} {args : List Datum} {element : Datum → Except CompileError PropertyChecker}
    {r : Rule} (h : m.Adds element args r) (hfits : m.form.fit args = .fits) {limit : Datum} (hlimit : limit ∈ r.limit?) :
    ∃ n, limit = .scalar (.number n) := by
  cases h with
  | length hfirst _ =>
      cases hlimit
      obtain ⟨n, rfl, _⟩ := ArgumentForm.fit_count hfits
      cases hfirst
      exact ⟨_, rfl⟩
  | atLeast hfirst _ =>
      cases hlimit
      obtain ⟨n, rfl⟩ := ArgumentForm.fit_number hfits
      cases hfirst
      exact ⟨_, rfl⟩
  | atMost hfirst _ =>
      cases hlimit
      obtain ⟨n, rfl⟩ := ArgumentForm.fit_number hfits
      cases hfirst
      exact ⟨_, rfl⟩
  | _ => cases hlimit

theorem PropertyChecker.standard_settles : Settles (· = .standard) PropertyChecker.Standard where
  ofKind kind := ⟨fun _ h => (nomatch h), fun _ h => (nomatch h), fun _ h => (nomatch h), fun _ h => (nomatch h)⟩
  constraint := by
    rintro _ kind form m c element checker checker' rfl hcheck hm hkind happly hc
    have hfits := Capabilities.standard_check hcheck hm
    have hfollows := (PropertyChecker.followsObjects_settles (· = .standard)).constraint rfl hcheck hm hkind happly
      hc.followsObjects
    rcases Method.apply_cases happly with ⟨_, rfl⟩ | ⟨r, hr, rfl⟩
    · refine ⟨hfollows, ?_, ?_, ?_⟩
      · rw [Method.adjust_rules]
        exact hc.limits
      · by_cases hwith : m = .withPeers
        · subst hwith
          intro d hd
          rcases List.mem_append.1 hd with hd | hd
          · exact hc.peersWith d hd
          · exact ArgumentForm.fit_keys hfits d hd
        · rw [Method.adjust_peersWith hwith]
          exact hc.peersWith
      · by_cases hwithout : m = .withoutPeers
        · subst hwithout
          intro d hd
          rcases List.mem_append.1 hd with hd | hd
          · exact hc.peersWithout d hd
          · exact ArgumentForm.fit_keys hfits d hd
        · rw [Method.adjust_peersWithout hwithout]
          exact hc.peersWithout
    · refine ⟨hfollows, fun rule hrule limit hlimit => ?_, hc.peersWith, hc.peersWithout⟩
      rw [PropertyChecker.addRule_rules] at hrule
      rcases List.mem_append.1 hrule with hrule | hrule
      · exact hc.limits rule hrule limit hlimit
      · obtain rfl := List.mem_singleton.1 hrule
        exact hr.limit_number hfits hlimit
  inlineType := by
    intro checker t hobject hc
    refine ⟨fun _ _ => hobject, fun rule hrule limit hlimit => ?_, hc.peersWith, hc.peersWithout⟩
    rw [PropertyChecker.addRule_rules] at hrule
    rcases List.mem_append.1 hrule with hrule | hrule
    · exact hc.limits rule hrule limit hlimit
    · obtain rfl := List.mem_singleton.1 hrule
      cases hlimit

/-- Types that are built with the standard capabilities are standard everywhere. -/
theorem ObjectType.Built.standard {t : ObjectType} (h : t.Built (· = .standard)) :
    t.checker.Every PropertyChecker.Standard :=
  h.compiles.every PropertyChecker.standard_settles

end ShapeCheck
