import AsyncLog.Proofs.Config.Fields
/-!
# What an environment asks for

The configuration of an environment depends on nothing but what the eight variables
say, and that does not depend on the case of letters or the blanks around a value.
A value that says nothing is as good as none.  The numerals among the values are
taken at their worth.
-/

namespace AsyncLog

open Text

namespace Duration

theorem isZero_iff {d : Duration} : d.isZero = true ↔ d.toNanos = 0 := by
  simp only [isZero, toNanos, Bool.and_eq_true, beq_iff_eq, ← UInt64.toNat_inj, ← UInt32.toNat_inj]
  show d.secs.toNat = 0 ∧ d.nanos.toNat = 0 ↔ _
  omega

theorem toNanos_ofMillis {n : Nat} (h : n < UInt64.size) :
    (ofMillis (UInt64.ofNat n)).toNanos = n * 1000000 := by
  have hmillis : (UInt64.ofNat n).toNat = n := Nat.mod_eq_of_lt h
  have hrest : n % 1000 < 1000 := Nat.mod_lt n (by decide)
  simp only [ofMillis, toNanos, UInt64.toNat_div, UInt32.toNat_mul, UInt64.toNat_toUInt32,
    UInt64.toNat_mod, hmillis, UInt64.reduceToNat, UInt32.reduceToNat]
  rw [Nat.mod_eq_of_lt (a := n % 1000) (by omega), Nat.mod_eq_of_lt (by omega)]
  omega

end Duration

namespace Environment

def configuration (env : Environment) : Except Builder.Error Config :=
  (Builder.ofEnvironment env).1.build

/-- A variable holds a word, whatever the case of its letters and the blanks around it. -/
def Says (env : Environment) (v : Variable) (word : String) : Prop :=
  exists raw, env.Holds v raw ∧ String.ofList (lowerCase (trim raw.toList)) = word

/-- A variable holds a numeral below its limit, whatever the blanks around it. -/
def Numeral (env : Environment) (v : Variable) (n : Nat) : Prop :=
  exists raw limit, env.Holds v raw ∧ v.limit? = some limit ∧ IsNumeral limit n (trim raw.toList)

/-!
## What does not matter
-/

theorem configuration_congr {env env' : Environment}
    (h : forall v, (env'.reading v).value = (env.reading v).value) :
    env'.configuration = env.configuration := by
  rw [configuration, configuration, Builder.ofEnvironment_fst, Builder.ofEnvironment_fst]
  simp only [h]

theorem bind_eq_of_rel {R : α -> α -> Prop} {f : α -> Option β}
    (hf : forall x y, R x y -> f x = f y) {x y : Option α} (h : Option.Rel R x y) :
    x.bind f = y.bind f := by
  cases h with
  | none => rfl
  | some hxy => exact hf _ _ hxy

theorem configuration_of_rel {env env' : Environment} {R : List UInt8 -> List UInt8 -> Prop}
    (hword : forall x y, R x y -> word? x = word? y)
    (h : forall name, Option.Rel R (env name) (env' name)) :
    env'.configuration = env.configuration := by
  apply configuration_congr
  intro v
  exact value_congr (bind_eq_of_rel hword (h v.name)).symm

theorem configuration_unset {env : Environment} {v : Variable} (h : ¬ env.Usable v) :
    (env.unset v.name).configuration = env.configuration := by
  apply configuration_congr
  intro w
  by_cases hw : w = v
  · subst hw
    rw [value_eq_none_iff.mpr h, value_reading, unset, if_pos rfl, Option.bind_none,
      Option.bind_none]
  · apply value_congr
    rw [unset, if_neg (fun hname => hw (Variable.name_injective hname))]

/-!
## What matters
-/

theorem ofKeyword_eq_block_iff {text : List Char} {wait : Duration} :
    OverflowPolicy.ofKeyword text = .ok (.block wait) ↔
      String.ofList (lowerCase text) = "block" ∧ OverflowPolicy.defaultLimit = wait := by
  rw [OverflowPolicy.ofKeyword_eq_ok_iff]
  simp [eq_comm]

theorem value_eq_block_iff {env : Environment} {wait : Duration} :
    (env.reading .overflow).value = some (.block wait) ↔
      env.Says .overflow "block" ∧ OverflowPolicy.defaultLimit = wait := by
  rw [value_eq_some_iff]
  simp only [Variable.parse, mapError_eq_ok_iff, ofKeyword_eq_block_iff, Says]
  constructor
  · rintro ⟨raw, hraw, hword, hwait⟩
    exact ⟨⟨raw, hraw, hword⟩, hwait⟩
  · rintro ⟨⟨raw, hraw, hword⟩, hwait⟩
    exact ⟨raw, hraw, hword, hwait⟩

theorem value_number_iff {env : Environment} {v : Variable} {limit : Nat} {f : Nat -> v.Value}
    {a : v.Value} (hpos : 0 < limit) (hlimit : v.limit? = some limit)
    (hparse : forall text, v.parse text = (number limit text).map f) :
    (env.reading v).value = some a ↔ exists n, env.Numeral v n ∧ f n = a := by
  simp only [value_eq_some_iff, hparse, map_eq_ok_iff, number_eq_ok_iff hpos, Numeral, hlimit,
    Option.some.injEq]
  constructor
  · rintro ⟨raw, hraw, n, hn, ha⟩
    exact ⟨n, ⟨raw, limit, hraw, rfl, hn⟩, ha⟩
  · rintro ⟨n, ⟨raw, _, hraw, rfl, hn⟩, ha⟩
    exact ⟨raw, hraw, n, hn, ha⟩

theorem not_isNumeral_unbounded {limit n : Nat} {text : List Char} (hpos : 0 < limit)
    (h : eqIgnoringCase text "unbounded".toList = true) : ¬ IsNumeral limit n text := by
  intro hn
  have hlower : lowerCase text = "unbounded".toList := by
    rw [← eqIgnoringCase_unbounded_iff.mp h, String.toList_ofList]
  rw [← readNumeral_eq_ok_iff hpos, ← readNumeral_lowerCase, hlower] at hn
  cases hn

theorem value_capacity_iff {env : Environment} {n : Nat} :
    (env.reading .capacity).value = some (.bounded n) ↔ env.Numeral .capacity n := by
  have hparse : forall text, Variable.parse .capacity text = .ok (.bounded n) ↔
      IsNumeral UInt64.size n text := by
    intro text
    have hpos : 0 < UInt64.size := by decide
    by_cases hword : eqIgnoringCase text "unbounded".toList = true
    · have hnone : ¬ IsNumeral UInt64.size n text := not_isNumeral_unbounded hpos hword
      simp only [Variable.parse, if_pos hword, Except.ok.injEq, reduceCtorEq, hnone]
    · simp only [Variable.parse, if_neg hword, map_eq_ok_iff, number_eq_ok_iff hpos,
        Capacity.bounded.injEq, exists_eq_right]
  rw [value_eq_some_iff]
  constructor
  · rintro ⟨raw, hraw, hn⟩
    exact ⟨raw, _, hraw, rfl, (hparse _).mp hn⟩
  · rintro ⟨raw, _, hraw, hlimit, hn⟩
    cases hlimit
    exact ⟨raw, hraw, (hparse _).mpr hn⟩

end Environment

/-- What a numeral in a variable makes of a configuration. -/
def Variable.Sets (n : Nat) (c : Config) : Variable -> Prop
  | .capacity => c.capacity = some n
  | .blockMillis => exists wait, c.overflow = .block wait ∧ wait.toNanos = n * 1000000
  | .pollMillis => c.pollInterval.toNanos = n * 1000000
  | .writeRetries => c.writeRetries.toNat = n
  | .retryBackoffMillis => c.retryBackoff.toNanos = n * 1000000
  | .overflow | .openMode | .drainMode => False

namespace Environment

theorem Numeral.lt {env : Environment} {v : Variable} {limit n : Nat} (h : env.Numeral v n)
    (hlimit : v.limit? = some limit) : n < limit := by
  rcases h with ⟨raw, limit', _, hlimit', digits, _, _, _, _, hlt⟩
  rw [hlimit] at hlimit'
  cases hlimit'
  exact hlt

theorem Numeral.usable {env : Environment} {v : Variable} {n : Nat} (h : env.Numeral v n) :
    env.Usable v := by
  rcases h with ⟨raw, limit, hraw, hlimit, hn⟩
  exact ⟨raw, hraw, Or.inr ⟨limit, n, hlimit, hn⟩⟩

theorem Numeral.value {env : Environment} {v : Variable} {limit n : Nat} {f : Nat -> v.Value}
    (h : env.Numeral v n) (hlimit : v.limit? = some limit)
    (hparse : forall text, v.parse text = (number limit text).map f) :
    (env.reading v).value = some (f n) := by
  have hpos : 0 < limit := Nat.lt_of_le_of_lt (Nat.zero_le n) (h.lt hlimit)
  exact (value_number_iff hpos hlimit hparse).mpr ⟨n, h, rfl⟩

theorem value_of_configuration {env : Environment} {c : Config} (h : env.configuration = .ok c)
    (f : Config.Field) :
    c.value f = ((Builder.Origin.environment env).value? f).getD (Config.default.value f) := by
  rw [Builder.build_eq_ok_iff.mp h f]
  exact Builder.Origin.final_builder (.environment env) f

theorem Usable.numeral {env : Environment} {v : Variable} (h : env.Usable v)
    (hlimit : v.limit?.isSome = true) :
    (exists n, env.Numeral v n) ∨ v = .capacity ∧ env.Says .capacity "unbounded" := by
  rcases h with ⟨raw, hraw, hword | ⟨limit, n, hsome, hn⟩⟩
  · right
    cases v with
    | capacity => exact ⟨rfl, raw, hraw, List.mem_singleton.mp hword⟩
    | blockMillis | pollMillis | writeRetries | retryBackoffMillis => cases hword
    | overflow | openMode | drainMode => cases hlimit
  · left
    exact ⟨n, raw, limit, hraw, hsome, hn⟩

theorem sets_of_numeral {env : Environment} {v : Variable} {n : Nat} {c : Config}
    (hn : env.Numeral v n) (hwait : v = .blockMillis -> env.Says .overflow "block")
    (hc : env.configuration = .ok c) : v.Sets n c := by
  have hvalue := value_of_configuration hc
  cases v with
  | capacity =>
      have hcapacity := hvalue .capacity
      rw [Builder.Origin.value?, value_capacity_iff.mpr hn] at hcapacity
      exact hcapacity
  | blockMillis =>
      have hlimit := hn.value rfl (fun _ => rfl)
      have hpolicy := value_eq_block_iff.mpr ⟨hwait rfl, rfl⟩
      have hoverflow := hvalue .overflow
      rw [Builder.Origin.value?, hpolicy, hlimit] at hoverflow
      exact ⟨_, hoverflow, Duration.toNanos_ofMillis (hn.lt rfl)⟩
  | pollMillis =>
      have hlimit := hn.value rfl (fun _ => rfl)
      have hpoll := hvalue .pollInterval
      rw [Builder.Origin.value?, hlimit] at hpoll
      rw [Variable.Sets, ← Duration.toNanos_ofMillis (hn.lt rfl)]
      exact congrArg Duration.toNanos hpoll
  | writeRetries =>
      have hlimit := hn.value rfl (fun _ => rfl)
      have hretries := hvalue .writeRetries
      rw [Builder.Origin.value?, hlimit] at hretries
      exact (congrArg UInt32.toNat hretries).trans (Nat.mod_eq_of_lt (hn.lt rfl))
  | retryBackoffMillis =>
      have hlimit := hn.value rfl (fun _ => rfl)
      have hbackoff := hvalue .retryBackoff
      rw [Builder.Origin.value?, hlimit] at hbackoff
      exact (congrArg Duration.toNanos hbackoff).trans (Duration.toNanos_ofMillis (hn.lt rfl))
  | overflow | openMode | drainMode =>
      rcases hn with ⟨_, _, _, hlimit, _⟩
      cases hlimit

theorem waiting_of_ne_block {policy : OverflowPolicy} (h : forall wait, policy ≠ .block wait)
    (limit limit' : Option Duration) : policy.waiting limit = policy.waiting limit' := by
  cases policy with
  | block wait => exact absurd rfl (h wait)
  | dropOldest | dropNewest => rfl

theorem configuration_of_not_block {env env' : Environment}
    (hpolicy : ¬ env.Says .overflow "block")
    (h : forall v : Variable, v ≠ .blockMillis -> env' v.name = env v.name) :
    env'.configuration = env.configuration := by
  have hvalue : forall v : Variable, v ≠ .blockMillis ->
      (env'.reading v).value = (env.reading v).value := by
    intro v hv
    apply value_congr
    rw [h v hv]
  -- Both environments have the same policy, and no wait can change it.
  have hoverflow :
      (env.reading .overflow).value.map (·.waiting (env'.reading .blockMillis).value) =
        (env.reading .overflow).value.map (·.waiting (env.reading .blockMillis).value) := by
    apply Option.map_congr
    intro policy hsome
    apply waiting_of_ne_block
    rintro wait rfl
    exact hpolicy (value_eq_block_iff.mp hsome).1
  rw [configuration, configuration, Builder.ofEnvironment_fst, Builder.ofEnvironment_fst,
    hvalue .openMode (by decide), hvalue .pollMillis (by decide), hvalue .capacity (by decide),
    hvalue .overflow (by decide), hoverflow, hvalue .drainMode (by decide),
    hvalue .writeRetries (by decide), hvalue .retryBackoffMillis (by decide)]

theorem final_capacity_iff {env : Environment} :
    (Builder.ofEnvironment env).1.final .capacity = some 0 ↔ env.Numeral .capacity 0 := by
  rw [← value_capacity_iff, Builder.ofEnvironment_fst]
  show (Option.getD (env.reading .capacity).value (.bounded 65536)).limit = some 0 ↔ _
  cases (env.reading .capacity).value with
  | none => simp [Capacity.limit]
  | some capacity => cases capacity <;> simp [Capacity.limit]

theorem final_pollInterval_iff {env : Environment} :
    ((Builder.ofEnvironment env).1.final .pollInterval).isZero = true ↔
      env.Numeral .pollMillis 0 := by
  rw [Builder.ofEnvironment_fst]
  show (Option.getD (env.reading .pollMillis).value Config.default.pollInterval).isZero = true ↔ _
  constructor
  · intro hzero
    cases hvalue : (env.reading .pollMillis).value with
    | none =>
        -- The default is not zero.
        rw [hvalue] at hzero
        cases hzero
    | some wait =>
        rcases (value_number_iff (by decide) rfl (fun _ => rfl)).mp hvalue with ⟨n, hn, rfl⟩
        rw [hvalue, Option.getD_some, Duration.isZero_iff, Duration.toNanos_ofMillis (hn.lt rfl)]
          at hzero
        have hn0 : n = 0 := by omega
        rwa [hn0] at hn
  · intro hn
    rw [hn.value rfl (fun _ => rfl)]
    rfl

end Environment

/-- Building from an environment takes no notice of a value that says nothing, of the case
of letters, of the blanks around a value, or of other variables.  Numerals take effect, and
besides the word for a queue without a limit nothing else in their place does; the wait
counts only for a policy that waits.  Nothing but a zero can make the build fail. -/
theorem environment_forgiving (env : Environment) :
    (forall v : Variable, ¬ env.Usable v ->
      (env.unset v.name).configuration = env.configuration) ∧
    (forall env' : Environment, (forall name, Option.Rel SameLetters (env name) (env' name)) ->
      env'.configuration = env.configuration) ∧
    (forall env' : Environment, (forall name, Option.Rel SameCore (env name) (env' name)) ->
      env'.configuration = env.configuration) ∧
    (forall env' : Environment, (forall v : Variable, env' v.name = env v.name) ->
      env'.configuration = env.configuration) ∧
    (forall (v : Variable) n c, env.Numeral v n ->
      (v = .blockMillis -> env.Says .overflow "block") -> env.configuration = .ok c ->
      v.Sets n c) ∧
    (forall v : Variable, v.limit?.isSome = true -> (forall n, ¬ env.Numeral v n) ->
      (v = .capacity -> ¬ env.Says .capacity "unbounded") ->
      (env.unset v.name).configuration = env.configuration) ∧
    (¬ env.Says .overflow "block" ->
      forall env' : Environment,
        (forall v : Variable, v ≠ .blockMillis -> env' v.name = env v.name) ->
        env'.configuration = env.configuration) ∧
    (env.configuration = .error .zeroCapacity ↔ env.Numeral .capacity 0) ∧
    (env.configuration = .error .zeroPollInterval ↔
      ¬ env.Numeral .capacity 0 ∧ env.Numeral .pollMillis 0) := by
  refine ⟨fun v => Environment.configuration_unset,
    fun env' => Environment.configuration_of_rel fun _ _ => word?_of_sameLetters,
    fun env' => Environment.configuration_of_rel fun _ _ => word?_of_sameCore,
    ?_, fun v n c => Environment.sets_of_numeral, ?_,
    fun hpolicy env' => Environment.configuration_of_not_block hpolicy, ?_, ?_⟩
  · intro env' hsame
    apply Environment.configuration_congr
    intro v
    apply Environment.value_congr
    rw [hsame v]
  · intro v hlimit hnone hword
    apply Environment.configuration_unset
    intro husable
    rcases husable.numeral hlimit with ⟨n, hn⟩ | ⟨hv, hunbounded⟩
    · exact hnone n hn
    · exact hword hv hunbounded
  · rw [Environment.configuration, Builder.build_eq_zeroCapacity_iff,
      Environment.final_capacity_iff]
  · rw [Environment.configuration, Builder.build_eq_zeroPollInterval_iff, ne_eq,
      Environment.final_capacity_iff, Environment.final_pollInterval_iff]

def motley : Environment :=
  ((((Environment.empty.set "BOTLOG_OVERFLOW" (Utf8.encode " Block\n".toList)).set
    "BOTLOG_BLOCK_MS" (Utf8.encode "+025".toList)).set
    "BOTLOG_MODE" (Utf8.encode "append".toList)).set
    "BOTLOG_WRITE_RETRIES" [0xFF]).set
    "BOTLOG_POLL_MS" (Utf8.encode "soon".toList)

theorem Environment.rel_set {R : List UInt8 -> List UInt8 -> Prop} (env : Environment)
    {key : String} {old new : List UInt8} (hrefl : forall x, R x x) (hold : env key = some old)
    (h : R old new) (name : String) : Option.Rel R (env name) (env.set key new name) := by
  unfold set
  by_cases hname : name = key
  · rw [if_pos hname, hname, hold]
    exact .some h
  · rw [if_neg hname]
    cases env name with
    | none => exact .none
    | some bytes => exact .some (hrefl bytes)

theorem environment_forgiving_motley :
    (motley.unset "BOTLOG_WRITE_RETRIES").configuration = motley.configuration ∧
    (motley.unset "BOTLOG_POLL_MS").configuration = motley.configuration ∧
    (motley.set "BOTLOG_MODE" (Utf8.encode "APPend".toList)).configuration =
      motley.configuration ∧
    (motley.set "BOTLOG_OVERFLOW" (Utf8.encode "\u3000Block".toList)).configuration =
      motley.configuration ∧
    (motley.set "PATH" []).configuration = motley.configuration ∧
    exists c, motley.configuration = .ok c ∧ Variable.Sets 25 c .blockMillis := by
  rcases environment_forgiving motley with
    ⟨hunusable, hletters, hcore, hother, hnumeral, hnone, _⟩
  refine ⟨?_, ?_, ?_, ?_, ?_, ?_⟩
  · exact hunusable .writeRetries (Environment.value_eq_none_iff.mp (by decide +kernel))
  · apply hnone .pollMillis rfl
    · intro n hn
      exact Environment.value_eq_none_iff.mp (by decide +kernel) hn.usable
    · intro h
      cases h
  · exact hletters _ (motley.rel_set (fun _ => rfl) rfl rfl)
  · apply hcore
    apply motley.rel_set (fun x => ⟨x, [], [], [], [], by simp⟩) rfl
    exact ⟨Utf8.encode "Block".toList, [' '], ['\n'], ['\u3000'], [],
      List.all_eq_true.mp rfl, rfl, rfl⟩
  · apply hother
    intro v
    cases v <;> rfl
  · have hok : motley.configuration.toOption.isSome = true := by decide +kernel
    cases hc : motley.configuration with
    | error cause =>
        rw [hc] at hok
        cases hok
    | ok c =>
        exists c
        refine ⟨rfl, hnumeral .blockMillis 25 c ?_ ?_ hc⟩
        · exact ⟨"+025", _, rfl, rfl, "025".toList, Or.inr rfl, by decide,
            List.all_eq_true.mp rfl, rfl, by decide⟩
        · exact fun _ => ⟨" Block\n", rfl, by decide⟩

end AsyncLog
