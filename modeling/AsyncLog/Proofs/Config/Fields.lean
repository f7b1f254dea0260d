import AsyncLog.Proofs.Config.Variables
/-!
# The fields of a configuration

What a configuration will hold in a field is decided by the last setting for that
field.  Without one it is what the builder started with, which is what the
environment says or else the default.  Nothing that was overwritten matters.
-/

namespace AsyncLog

open Text

inductive Config.Field where
  | openMode
  | pollInterval
  | capacity
  | overflow
  | drainMode
  | writeRetries
  | retryBackoff
  deriving DecidableEq, Repr

abbrev Config.Field.Value : Config.Field -> Type
  | .openMode => OpenMode
  | .pollInterval | .retryBackoff => Duration
  | .capacity => Option Nat
  | .overflow => OverflowPolicy
  | .drainMode => DrainMode
  | .writeRetries => UInt32

def Config.value (c : Config) : (f : Config.Field) -> f.Value
  | .openMode => c.openMode
  | .pollInterval => c.pollInterval
  | .capacity => c.capacity
  | .overflow => c.overflow
  | .drainMode => c.drainMode
  | .writeRetries => c.writeRetries
  | .retryBackoff => c.retryBackoff

theorem Config.ext_value {c c' : Config} (h : forall f, c.value f = c'.value f) : c = c' := by
  cases c
  cases c'
  simp only [Config.mk.injEq]
  exact ⟨h .openMode, h .pollInterval, h .capacity, h .overflow, h .drainMode, h .writeRetries,
    h .retryBackoff⟩

/-!
## Settings
-/

namespace Setting

def field : Setting -> Config.Field
  | .openMode _ => .openMode
  | .pollInterval _ => .pollInterval
  | .capacity _ | .unbounded => .capacity
  | .overflow _ => .overflow
  | .drainMode _ => .drainMode
  | .writeRetries _ => .writeRetries
  | .retryBackoff _ => .retryBackoff

def value? : (f : Config.Field) -> Setting -> Option f.Value
  | .openMode, .openMode mode => some mode
  | .pollInterval, .pollInterval interval => some interval
  | .capacity, .capacity entries => some (some entries)
  | .capacity, .unbounded => some none
  | .overflow, .overflow policy => some policy
  | .drainMode, .drainMode mode => some mode
  | .writeRetries, .writeRetries retries => some retries
  | .retryBackoff, .retryBackoff backoff => some backoff
  | _, _ => none

theorem value?_of_ne {f : Config.Field} {s : Setting} (h : s.field ≠ f) : s.value? f = none := by
  cases f <;> cases s <;> first | rfl | exact absurd rfl h

def last? (f : Config.Field) (settings : List Setting) : Option f.Value :=
  (settings.filterMap (value? f)).getLast?

end Setting

/-!
## Builders
-/

namespace Builder

/-- What a configuration that is built now will hold in a field. -/
def final (b : Builder) : (f : Config.Field) -> f.Value
  | .openMode => b.openMode.getD Config.default.openMode
  | .pollInterval => b.effectivePoll
  | .capacity => b.capacity.limit
  | .overflow => b.overflow.getD Config.default.overflow
  | .drainMode => b.drainMode.getD Config.default.drainMode
  | .writeRetries => b.writeRetries.getD Config.default.writeRetries
  | .retryBackoff => b.retryBackoff.getD Config.default.retryBackoff

theorem final_fresh (f : Config.Field) : ({} : Builder).final f = Config.default.value f := by
  cases f <;> rfl

theorem final_set (b : Builder) (s : Setting) (f : Config.Field) :
    (b.set s).final f = (s.value? f).getD (b.final f) := by
  cases f <;> cases s <;> rfl

theorem final_setAll (b : Builder) (settings : List Setting) (f : Config.Field) :
    (b.setAll settings).final f = (Setting.last? f settings).getD (b.final f) := by
  induction settings generalizing b with
  | nil => rfl
  | cons s rest ih =>
      rw [setAll_cons, ih, final_set, Setting.last?, Setting.last?]
      cases hs : s.value? f with
      | none => rw [List.filterMap_cons_none hs, Option.getD_none]
      | some a => rw [List.filterMap_cons_some hs, List.getLast?_cons, Option.getD_some]; rfl

/-!
## Building
-/

theorem build_cases (b : Builder) :
    b.final .capacity = some 0 ∧ b.build = .error .zeroCapacity ∨
    b.final .capacity ≠ some 0 ∧ (b.final .pollInterval).isZero = true ∧
      b.build = .error .zeroPollInterval ∨
    b.final .capacity ≠ some 0 ∧ (b.final .pollInterval).isZero = false ∧
      exists c, b.build = .ok c ∧ forall f, c.value f = b.final f := by
  by_cases hcapacity : b.capacity.limit = some 0
  · left
    refine ⟨hcapacity, ?_⟩
    rw [build, dif_pos hcapacity]
  · right
    by_cases hpoll : b.effectivePoll.isZero = true
    · left
      refine ⟨hcapacity, hpoll, ?_⟩
      rw [build, dif_neg hcapacity, dif_pos hpoll]
    · right
      refine ⟨hcapacity, Bool.eq_false_iff.mpr hpoll, ?_⟩
      rw [build, dif_neg hcapacity, dif_neg hpoll]
      refine ⟨_, rfl, ?_⟩
      intro f
      cases f <;> rfl

theorem build_eq_zeroCapacity_iff {b : Builder} :
    b.build = .error .zeroCapacity ↔ b.final .capacity = some 0 := by
  rcases b.build_cases with ⟨hzero, hb⟩ | ⟨hroom, _, hb⟩ | ⟨hroom, _, c, hb, _⟩
  · simp [hzero, hb]
  · simp [hroom, hb]
  · simp [hroom, hb]

theorem build_eq_zeroPollInterval_iff {b : Builder} :
    b.build = .error .zeroPollInterval ↔
      b.final .capacity ≠ some 0 ∧ (b.final .pollInterval).isZero = true := by
  rcases b.build_cases with ⟨hzero, hb⟩ | ⟨hroom, hpoll, hb⟩ | ⟨hroom, hpoll, c, hb, _⟩
  · simp [hzero, hb]
  · simp [hroom, hpoll, hb]
  · simp [hpoll, hb]

theorem build_eq_ok_iff {b : Builder} {c : Config} :
    b.build = .ok c ↔ forall f, c.value f = b.final f := by
  rcases b.build_cases with ⟨hzero, hb⟩ | ⟨_, hpoll, hb⟩ | ⟨_, _, c', hb, hvalues⟩
  · rw [hb]
    constructor
    · intro h
      cases h
    · intro h
      exact absurd ((h .capacity).trans hzero) c.capacity_ne_zero
  · rw [hb]
    constructor
    · intro h
      cases h
    · intro h
      have hpoll' : c.pollInterval.isZero = true := by
        rw [← hpoll, ← h .pollInterval, Config.value]
      rw [c.pollInterval_ne_zero] at hpoll'
      cases hpoll'
  · rw [hb, Except.ok.injEq]
    constructor
    · rintro rfl
      exact hvalues
    · intro h
      exact Config.ext_value fun f => (hvalues f).trans (h f).symm

theorem build_congr {b b' : Builder} (h : forall f, b.final f = b'.final f) :
    b.build = b'.build := by
  cases hb : b.build with
  | error cause =>
      cases cause with
      | zeroCapacity =>
          rw [build_eq_zeroCapacity_iff, h] at hb
          rw [build_eq_zeroCapacity_iff.mpr hb]
      | zeroPollInterval =>
          rw [build_eq_zeroPollInterval_iff, h, h] at hb
          rw [build_eq_zeroPollInterval_iff.mpr hb]
  | ok c =>
      rw [build_eq_ok_iff] at hb
      rw [build_eq_ok_iff.mpr fun f => (hb f).trans (h f)]

end Builder

/-!
## Starting points
-/

/-- What a builder starts from: nothing, or an environment. -/
inductive Builder.Origin where
  | fresh
  | environment (env : Environment)

namespace Builder.Origin

def builder : Origin -> Builder
  | .fresh => {}
  | .environment env => (Builder.ofEnvironment env).1

def value? : Origin -> (f : Config.Field) -> Option f.Value
  | .fresh, _ => none
  | .environment env, .openMode => (env.reading .openMode).value
  | .environment env, .pollInterval => (env.reading .pollMillis).value
  | .environment env, .capacity => (env.reading .capacity).value.map Capacity.limit
  | .environment env, .overflow =>
      (env.reading .overflow).value.map (·.waiting (env.reading .blockMillis).value)
  | .environment env, .drainMode => (env.reading .drainMode).value
  | .environment env, .writeRetries => (env.reading .writeRetries).value
  | .environment env, .retryBackoff => (env.reading .retryBackoffMillis).value

theorem final_builder (origin : Origin) (f : Config.Field) :
    origin.builder.final f = (origin.value? f).getD (Config.default.value f) := by
  cases origin with
  | fresh => exact Builder.final_fresh f
  | environment env =>
      rw [builder, Builder.ofEnvironment_fst]
      cases f with
      | capacity =>
          show ((env.reading .capacity).value.getD (.bounded 65536)).limit =
            ((env.reading .capacity).value.map Capacity.limit).getD (some 65536)
          cases (env.reading .capacity).value with
          | none => rfl
          | some capacity => rfl
      | openMode | pollInterval | overflow | drainMode | writeRetries | retryBackoff => rfl

/-- What the last setting for a field says, or else the starting point, or else the default. -/
def chosen (origin : Origin) (settings : List Setting) (f : Config.Field) : f.Value :=
  ((Setting.last? f settings).or (origin.value? f)).getD (Config.default.value f)

theorem final_setAll (origin : Origin) (settings : List Setting) (f : Config.Field) :
    (origin.builder.setAll settings).final f = origin.chosen settings f := by
  rw [Builder.final_setAll, final_builder, chosen]
  cases Setting.last? f settings with
  | none => rfl
  | some a => rfl

end Builder.Origin

namespace Setting

theorem last?_filter (f : Config.Field) (settings : List Setting) :
    last? f (settings.filter (·.field = f)) = last? f settings := by
  have hsame : forall s : Setting,
      (if decide (s.field = f) = true then s.value? f else none) = s.value? f := by
    intro s
    by_cases hs : s.field = f
    · rw [if_pos (decide_eq_true hs)]
    · rw [if_neg (by simpa using hs), value?_of_ne hs]
  rw [last?, last?, List.filterMap_filter]
  simp only [hsame]

end Setting

/-- Building fails exactly if in the end the queue has no room, which is said first, or the
poll interval is zero.  Otherwise every field is what was chosen last for it, whatever else
was chosen before, in between or after, so choices for different fields can change places. -/
theorem Builder.last_setting_wins (origin : Builder.Origin) (settings : List Setting) :
    let build := fun choices => (origin.builder.setAll choices).build
    let chosen := origin.chosen settings
    (build settings = .error .zeroCapacity ↔ chosen .capacity = some 0) ∧
    (build settings = .error .zeroPollInterval ↔
      chosen .capacity ≠ some 0 ∧ (chosen .pollInterval).isZero = true) ∧
    (chosen .capacity ≠ some 0 -> (chosen .pollInterval).isZero = false ->
      exists c, build settings = .ok c ∧ forall f, c.value f = chosen f) ∧
    (forall others, (forall f, Setting.last? f others = Setting.last? f settings) ->
      build others = build settings) ∧
    forall others, (forall f, others.filter (·.field = f) = settings.filter (·.field = f)) ->
      build others = build settings := by
  have hfinal : forall choices f,
      (origin.builder.setAll choices).final f = origin.chosen choices f :=
    origin.final_setAll
  have hlast : forall others, (forall f, Setting.last? f others = Setting.last? f settings) ->
      (origin.builder.setAll others).build = (origin.builder.setAll settings).build := by
    intro others hsame
    apply build_congr
    intro f
    rw [hfinal, hfinal, Origin.chosen, Origin.chosen, hsame]
  refine ⟨?_, ?_, ?_, hlast, ?_⟩
  · rw [build_eq_zeroCapacity_iff, hfinal]
  · rw [build_eq_zeroPollInterval_iff, hfinal, hfinal]
  · intro hcapacity hpoll
    rcases (origin.builder.setAll settings).build_cases with
      ⟨hzero, _⟩ | ⟨_, hzero, _⟩ | ⟨_, _, c, hc, hvalues⟩
    · rw [hfinal] at hzero
      exact absurd hzero hcapacity
    · rw [hfinal, hpoll] at hzero
      cases hzero
    · exists c
      exact ⟨hc, fun f => (hvalues f).trans (hfinal settings f)⟩
  · intro others hsame
    apply hlast
    intro f
    rw [← Setting.last?_filter, hsame f, Setting.last?_filter]

def overwrittenOrigin : Builder.Origin :=
  .environment
    (((Environment.empty.set "BOTLOG_CAPACITY" (Utf8.encode "0".toList)).set
      "BOTLOG_OVERFLOW" (Utf8.encode "block".toList)).set
      "BOTLOG_BLOCK_MS" (Utf8.encode "25".toList))

def overwritingSettings : List Setting :=
  [.pollInterval .zero, .openMode .append, .capacity 0, .unbounded, .pollInterval (.ofMillis 5)]

theorem Builder.last_setting_wins_overwritten :
    overwrittenOrigin.builder.build = .error .zeroCapacity ∧
    (exists c, (overwrittenOrigin.builder.setAll overwritingSettings).build = .ok c ∧
      c.capacity = none ∧ c.pollInterval = .ofMillis 5 ∧ c.openMode = .append ∧
      c.overflow = .block (.ofMillis 25) ∧ c.drainMode = .batch) ∧
    (overwrittenOrigin.builder.setAll
        [.unbounded, .pollInterval (.ofMillis 5), .openMode .append]).build =
      (overwrittenOrigin.builder.setAll overwritingSettings).build ∧
    (overwrittenOrigin.builder.setAll
        [.openMode .append, .capacity 0, .pollInterval .zero, .pollInterval (.ofMillis 5),
          .unbounded]).build =
      (overwrittenOrigin.builder.setAll overwritingSettings).build := by
  rcases last_setting_wins overwrittenOrigin overwritingSettings with
    ⟨_, _, hbuild, hlast, horder⟩
  constructor
  · exact (last_setting_wins overwrittenOrigin []).1.mpr (by decide +kernel)
  constructor
  · rcases hbuild (by decide) (by decide) with ⟨c, hc, hvalues⟩
    refine ⟨c, hc, hvalues .capacity, hvalues .pollInterval, hvalues .openMode, ?_, ?_⟩
    · exact (hvalues .overflow).trans (by decide +kernel)
    · exact (hvalues .drainMode).trans (by decide +kernel)
  constructor
  · apply hlast
    intro f
    cases f <;> rfl
  · apply horder
    intro f
    cases f <;> rfl

end AsyncLog
