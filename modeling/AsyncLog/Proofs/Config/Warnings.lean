import Mathlib.Data.List.Nodup
import AsyncLog.Proofs.Config.Variables
import AsyncLog.Report.Diagnostic
/-!
# Warnings about values

A value that a variable does not understand is warned about once, and nothing else is,
if the variable is looked at.  The variable for the wait of a policy is not, unless there
is a policy, so what is wrong with it can go unnoticed.
-/

namespace AsyncLog

open Text

namespace Environment

def warnings (env : Environment) : List IgnoredValue :=
  (Builder.ofEnvironment env).2

/-- How many warnings name a variable and a value of it. -/
def warningsAbout (env : Environment) (v : Variable) (raw : String) : Nat :=
  (env.warnings.map fun w => (w.key, w.raw)).count (v, raw)

/-- Every value that is not understood is warned about exactly once, and nothing else is. -/
def EachReported (env : Environment) : Prop :=
  (forall v raw, env.Unusable v raw -> env.warningsAbout v raw = 1) ∧
    ∀ w ∈ env.warnings, env.Unusable w.key w.raw

theorem unusable_iff {env : Environment} {v : Variable} {raw : String} :
    env.Unusable v raw ↔
      env.Holds v raw ∧ exists cause, v.parse (trim raw.toList) = .error cause := by
  rw [Unusable, Variable.accepts_iff]
  cases v.parse (trim raw.toList) with
  | error cause => simp
  | ok a => simp

theorem mem_inspected_iff {env : Environment} {v : Variable} :
    v ∈ env.inspected ↔ (v = .blockMillis -> env.Usable .overflow) := by
  unfold inspected
  rw [← value_isSome_iff]
  cases v <;> simp

theorem nodup_inspected (env : Environment) : env.inspected.Nodup := by
  unfold inspected
  split
  · decide
  · decide

theorem mem_warnings_iff {env : Environment} {w : IgnoredValue} :
    w ∈ env.warnings ↔
      (w.key = .blockMillis -> env.Usable .overflow) ∧ env.Holds w.key w.raw ∧
        w.key.parse (trim w.raw.toList) = .error w.cause := by
  simp only [warnings, Builder.ofEnvironment_snd, List.mem_flatMap, mem_ignored_iff,
    ← mem_inspected_iff]
  constructor
  · rintro ⟨v, hv, rfl, hholds, hcause⟩
    exact ⟨hv, hholds, hcause⟩
  · rintro ⟨hv, hholds, hcause⟩
    exact ⟨w.key, hv, rfl, hholds, hcause⟩

theorem keys_ignored_sublist (env : Environment) (v : Variable) :
    ((env.reading v).ignored.map (·.key)).Sublist [v] := by
  unfold reading read
  cases env.text? v.name with
  | none => exact List.nil_sublist [v]
  | some raw =>
      dsimp only
      cases v.parse (trim raw.toList) with
      | ok a => exact List.nil_sublist [v]
      | error cause => exact List.Sublist.refl [v]

theorem nodup_keys_warnings (env : Environment) : (env.warnings.map (·.key)).Nodup := by
  have hsublist : forall vs : List Variable,
      ((vs.flatMap fun v => (env.reading v).ignored).map (·.key)).Sublist vs := by
    intro vs
    induction vs with
    | nil => exact List.Sublist.refl []
    | cons v rest ih =>
        rw [List.flatMap_cons, List.map_append]
        exact (env.keys_ignored_sublist v).append ih
  rw [warnings, Builder.ofEnvironment_snd]
  exact env.nodup_inspected.sublist (hsublist env.inspected)

theorem warningsAbout_of_mem {env : Environment} {w : IgnoredValue} (h : w ∈ env.warnings) :
    env.warningsAbout w.key w.raw = 1 := by
  have hnodup : (env.warnings.map fun w => (w.key, w.raw)).Nodup := by
    apply List.Nodup.of_map Prod.fst
    rw [List.map_map]
    exact env.nodup_keys_warnings
  exact List.count_eq_one_of_mem hnodup (List.mem_map_of_mem h)

theorem warningsAbout_of_unusable {env : Environment} {v : Variable} {raw : String}
    (h : env.Unusable v raw) (hv : v = .blockMillis -> env.Usable .overflow) :
    env.warningsAbout v raw = 1 := by
  rcases unusable_iff.mp h with ⟨hholds, cause, hcause⟩
  have hmem : { key := v, raw, cause } ∈ env.warnings :=
    mem_warnings_iff.mpr ⟨hv, hholds, hcause⟩
  exact warningsAbout_of_mem hmem

theorem usable_overflow_of_warning {env : Environment} {raw : String}
    (h : env.warningsAbout .blockMillis raw = 1) : env.Usable .overflow := by
  have hmem : (Variable.blockMillis, raw) ∈ env.warnings.map fun w => (w.key, w.raw) := by
    rw [← List.count_pos_iff]
    rw [warningsAbout] at h
    omega
  rcases List.mem_map.mp hmem with ⟨w, hw, hsame⟩
  exact (mem_warnings_iff.mp hw).1 (congrArg Prod.fst hsame)

end Environment

/-- What is not understood is warned about exactly once, by the name of the variable and the
value as it was set, except that the wait of a policy is not looked at without a policy. -/
theorem values_reported_iff (env : Environment) :
    (forall v raw, env.Unusable v raw -> (v = .blockMillis -> env.Usable .overflow) ->
      env.warningsAbout v raw = 1) ∧
    (∀ w ∈ env.warnings,
      env.Unusable w.key w.raw ∧ (w.key = .blockMillis -> env.Usable .overflow) ∧
      w.key.parse (trim w.raw.toList) = .error w.cause ∧
      (Diagnostic.valueIgnored w).level = .warn ∧
      (Diagnostic.valueIgnored w).message =
        "ignoring " ++ w.key.name ++ "=" ++ quote w.raw ++ ": " ++ w.cause.message) ∧
    (env.EachReported ↔ forall raw, env.Unusable .blockMillis raw -> env.Usable .overflow) := by
  have hunusable : ∀ w ∈ env.warnings, env.Unusable w.key w.raw := by
    intro w hw
    have hreported := Environment.mem_warnings_iff.mp hw
    exact Environment.unusable_iff.mpr ⟨hreported.2.1, w.cause, hreported.2.2⟩
  refine ⟨fun v raw => Environment.warningsAbout_of_unusable, ?_, ?_⟩
  · intro w hw
    have hreported := Environment.mem_warnings_iff.mp hw
    exact ⟨hunusable w hw, hreported.1, hreported.2.2, rfl, rfl⟩
  · constructor
    · intro h raw hraw
      exact Environment.usable_overflow_of_warning (h.1 .blockMillis raw hraw)
    · intro h
      constructor
      · intro v raw hraw
        apply Environment.warningsAbout_of_unusable hraw
        rintro rfl
        exact h raw hraw
      · exact hunusable

/-- A wait that is no number, and no policy that it is for. -/
def hasty : Environment :=
  Environment.empty.set "BOTLOG_BLOCK_MS" (Utf8.encode "soon".toList)

theorem hasty_unreported :
    hasty.Unusable .blockMillis "soon" ∧ hasty.warnings = [] ∧ ¬ hasty.EachReported := by
  have hunusable : hasty.Unusable .blockMillis "soon" :=
    Environment.unusable_iff.mpr ⟨rfl, .numeral .invalidDigit, by decide⟩
  have hnone : hasty.warnings = [] := by decide +kernel
  refine ⟨hunusable, hnone, ?_⟩
  intro h
  have hone := h.1 .blockMillis "soon" hunusable
  rw [Environment.warningsAbout, hnone] at hone
  cases hone

def patient : Environment :=
  hasty.set "BOTLOG_OVERFLOW" (Utf8.encode "drop-newest".toList)

theorem values_reported_iff_patient :
    patient.warningsAbout .blockMillis "soon" = 1 ∧ patient.EachReported := by
  have hunusable : patient.Unusable .blockMillis "soon" :=
    Environment.unusable_iff.mpr ⟨rfl, .numeral .invalidDigit, by decide⟩
  have hpolicy : patient.Usable .overflow := Environment.value_isSome_iff.mp (by decide +kernel)
  constructor
  · exact (values_reported_iff patient).1 .blockMillis "soon" hunusable fun _ => hpolicy
  · exact (values_reported_iff patient).2.2.mpr fun _ _ => hpolicy

end AsyncLog
