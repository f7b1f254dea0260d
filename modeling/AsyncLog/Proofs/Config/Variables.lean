import AsyncLog.Config.Environment
import AsyncLog.Proofs.Text.Numerals
import AsyncLog.Proofs.Text.Spelling
/-!
# The variables one by one

Every variable has one grammar: keywords in any case, or numerals below a limit.
Whatever is read of a variable is read by its grammar, even if the ways there
differ.  So a builder is put together from what each variable says for itself, and
the values that were ignored are those of the variables that were looked at.
-/

namespace AsyncLog

open Text

/-!
## Grammars
-/

namespace Variable

abbrev Value : Variable -> Type
  | .capacity => Capacity
  | .overflow => OverflowPolicy
  | .blockMillis | .pollMillis | .retryBackoffMillis => Duration
  | .openMode => OpenMode
  | .drainMode => DrainMode
  | .writeRetries => UInt32

def keywords : Variable -> List String
  | .capacity => ["unbounded"]
  | .overflow => ["drop-oldest", "drop_oldest", "drop-newest", "drop_newest", "block"]
  | .openMode => ["append", "truncate"]
  | .drainMode => ["batch", "per-entry", "per_entry"]
  | .blockMillis | .pollMillis | .writeRetries | .retryBackoffMillis => []

def limit? : Variable -> Option Nat
  | .capacity | .blockMillis | .pollMillis | .retryBackoffMillis => some UInt64.size
  | .writeRetries => some UInt32.size
  | .overflow | .openMode | .drainMode => none

/-- A text that a variable understands, without blanks around it. -/
def Accepts (v : Variable) (text : List Char) : Prop :=
  String.ofList (lowerCase text) ∈ v.keywords ∨
    exists limit n, v.limit? = some limit ∧ IsNumeral limit n text

def parse : (v : Variable) -> List Char -> Except ValueError v.Value
  | .capacity, text =>
      if eqIgnoringCase text "unbounded".toList then .ok .unbounded
      else (Environment.number UInt64.size text).map .bounded
  | .overflow, text => (OverflowPolicy.ofKeyword text).mapError .keyword
  | .openMode, text => (OpenMode.ofKeyword text).mapError .keyword
  | .drainMode, text => (DrainMode.ofKeyword text).mapError .keyword
  | .writeRetries, text => (Environment.number UInt32.size text).map UInt32.ofNat
  | .blockMillis, text | .pollMillis, text | .retryBackoffMillis, text =>
      (Environment.number UInt64.size text).map fun ms => .ofMillis (UInt64.ofNat ms)

theorem name_injective : Function.Injective name := by
  intro v w h
  cases v <;> cases w <;> first | rfl | exact absurd h (by decide)

end Variable

theorem mapError_eq_ok_iff {x : Except ε α} {f : ε -> ε'} {a : α} :
    x.mapError f = .ok a ↔ x = .ok a := by
  cases x with
  | error cause => simp [Except.mapError]
  | ok b => simp [Except.mapError]

theorem map_eq_ok_iff {x : Except ε α} {f : α -> β} {b : β} :
    x.map f = .ok b ↔ exists a, x = .ok a ∧ f a = b := by
  cases x with
  | error cause => simp [Except.map]
  | ok a => simp [Except.map]

theorem number_eq_ok_iff {limit n : Nat} {text : List Char} (hlimit : 0 < limit) :
    Environment.number limit text = .ok n ↔ IsNumeral limit n text := by
  rw [Environment.number, mapError_eq_ok_iff, readNumeral_eq_ok_iff hlimit]

theorem exists_number_iff {limit : Nat} {text : List Char} (hlimit : 0 < limit) (f : Nat -> α) :
    (exists a, (Environment.number limit text).map f = .ok a) ↔
      exists n, IsNumeral limit n text := by
  simp only [map_eq_ok_iff, number_eq_ok_iff hlimit]
  constructor
  · rintro ⟨_, n, hn, _⟩
    exact ⟨n, hn⟩
  · rintro ⟨n, hn⟩
    exact ⟨f n, n, hn, rfl⟩

theorem eqIgnoringCase_unbounded_iff {text : List Char} :
    eqIgnoringCase text "unbounded".toList = true ↔
      String.ofList (lowerCase text) = "unbounded" := by
  have hlower : String.ofList (lowerCase "unbounded".toList) = "unbounded" := by decide
  rw [eqIgnoringCase_iff]
  constructor
  · intro h
    rw [h, hlower]
  · intro h
    rw [← hlower, String.ofList_inj] at h
    exact h

theorem OpenMode.ofKeyword_eq_ok_iff {text : List Char} {mode : OpenMode} :
    OpenMode.ofKeyword text = .ok mode ↔
      (String.ofList (lowerCase text), mode) ∈
        [("append", OpenMode.append), ("truncate", .truncate)] := by
  unfold OpenMode.ofKeyword
  generalize String.ofList (lowerCase text) = word
  dsimp only
  split
  · simp_all [eq_comm]
  · split
    · simp_all [eq_comm]
    · simp_all

theorem DrainMode.ofKeyword_eq_ok_iff {text : List Char} {mode : DrainMode} :
    DrainMode.ofKeyword text = .ok mode ↔
      (String.ofList (lowerCase text), mode) ∈
        [("batch", DrainMode.batch), ("per-entry", .perEntry), ("per_entry", .perEntry)] := by
  unfold DrainMode.ofKeyword
  generalize String.ofList (lowerCase text) = word
  dsimp only
  split
  · simp_all [eq_comm]
  · split
    · rename_i h
      rcases h with rfl | rfl
      · simp [eq_comm]
      · simp [eq_comm]
    · simp_all

theorem OverflowPolicy.ofKeyword_eq_ok_iff {text : List Char} {policy : OverflowPolicy} :
    OverflowPolicy.ofKeyword text = .ok policy ↔
      (String.ofList (lowerCase text), policy) ∈
        [("drop-oldest", OverflowPolicy.dropOldest), ("drop_oldest", .dropOldest),
          ("drop-newest", .dropNewest), ("drop_newest", .dropNewest),
          ("block", .block OverflowPolicy.defaultLimit)] := by
  unfold OverflowPolicy.ofKeyword
  generalize String.ofList (lowerCase text) = word
  dsimp only
  split
  · rename_i h
    rcases h with rfl | rfl
    · simp [eq_comm]
    · simp [eq_comm]
  · split
    · rename_i h
      rcases h with rfl | rfl
      · simp [eq_comm]
      · simp [eq_comm]
    · split
      · simp_all [eq_comm]
      · simp_all
namespace Variable

/-- Exactly the texts of its grammar make a variable say something. -/
theorem accepts_iff {v : Variable} {text : List Char} :
    v.Accepts text ↔ exists a, v.parse text = .ok a := by
  cases v with
  | capacity =>
      have hgrammar : Accepts .capacity text ↔
          eqIgnoringCase text "unbounded".toList = true ∨
            exists n, IsNumeral UInt64.size n text := by
        rw [eqIgnoringCase_unbounded_iff]
        simp [Accepts, keywords, limit?]
      rw [hgrammar]
      by_cases hword : eqIgnoringCase text "unbounded".toList = true
      · simp only [parse, if_pos hword]
        exact ⟨fun _ => ⟨.unbounded, rfl⟩, fun _ => Or.inl hword⟩
      · simp only [parse, if_neg hword, exists_number_iff (by decide : 0 < UInt64.size)]
        exact or_iff_right hword
  | overflow =>
      simp only [parse, mapError_eq_ok_iff, OverflowPolicy.ofKeyword_eq_ok_iff]
      simp [Accepts, keywords, limit?, exists_or]
  | openMode =>
      simp only [parse, mapError_eq_ok_iff, OpenMode.ofKeyword_eq_ok_iff]
      simp [Accepts, keywords, limit?, exists_or]
  | drainMode =>
      simp only [parse, mapError_eq_ok_iff, DrainMode.ofKeyword_eq_ok_iff]
      simp [Accepts, keywords, limit?, exists_or]
  | writeRetries =>
      simp only [parse, exists_number_iff (by decide : 0 < UInt32.size)]
      simp [Accepts, keywords, limit?]
  | blockMillis | pollMillis | retryBackoffMillis =>
      simp only [parse, exists_number_iff (by decide : 0 < UInt64.size)]
      simp [Accepts, keywords, limit?]

theorem parse_lowerCase (v : Variable) (text : List Char) :
    v.parse (lowerCase text) = v.parse text := by
  have hnumber : forall limit, Environment.number limit (lowerCase text) =
      Environment.number limit text := by
    intro limit
    rw [Environment.number, Environment.number, readNumeral_lowerCase]
  cases v with
  | capacity =>
      have hword : eqIgnoringCase (lowerCase text) "unbounded".toList =
          eqIgnoringCase text "unbounded".toList := by
        rw [eqIgnoringCase, lowerCase_lowerCase, eqIgnoringCase]
      simp only [parse, hword, hnumber]
  | overflow => simp only [parse, OverflowPolicy.ofKeyword, lowerCase_lowerCase]
  | openMode => simp only [parse, OpenMode.ofKeyword, lowerCase_lowerCase]
  | drainMode => simp only [parse, DrainMode.ofKeyword, lowerCase_lowerCase]
  | writeRetries | blockMillis | pollMillis | retryBackoffMillis =>
      simp only [parse, hnumber]

end Variable

/-!
## Readings
-/

namespace Environment

def Holds (env : Environment) (v : Variable) (raw : String) : Prop :=
  env v.name = some (Utf8.encode raw.toList)

def Usable (env : Environment) (v : Variable) : Prop :=
  exists raw, env.Holds v raw ∧ v.Accepts (trim raw.toList)

def Unusable (env : Environment) (v : Variable) (raw : String) : Prop :=
  env.Holds v raw ∧ ¬ v.Accepts (trim raw.toList)

/-- What a variable says, and the value that was ignored if it says nothing. -/
def reading (env : Environment) (v : Variable) : Reading v.Value :=
  env.read v v.parse

theorem text?_eq_some_iff {env : Environment} {v : Variable} {raw : String} :
    env.text? v.name = some raw ↔ env.Holds v raw := by
  unfold text? Holds
  cases env v.name with
  | none => simp
  | some bytes => simp only [Utf8.fromUTF8?_eq_some_iff, Option.some.injEq]

theorem text?_eq_word? (env : Environment) (name : String) :
    (env.text? name).map (fun raw => lowerCase (trim raw.toList)) = (env name).bind word? := by
  unfold text?
  cases env name with
  | none => rfl
  | some bytes => rfl

theorem value_reading (env : Environment) (v : Variable) :
    (env.reading v).value =
      ((env v.name).bind word?).bind fun word => (v.parse word).toOption := by
  rw [← text?_eq_word?]
  unfold reading read
  cases env.text? v.name with
  | none => rfl
  | some raw =>
      rw [Option.map_some, Option.bind_some, Variable.parse_lowerCase]
      dsimp only
      cases v.parse (trim raw.toList) with
      | error cause => rfl
      | ok a => rfl

theorem value_congr {env env' : Environment} {v : Variable}
    (h : (env v.name).bind word? = (env' v.name).bind word?) :
    (env.reading v).value = (env'.reading v).value := by
  rw [value_reading, value_reading, h]

theorem value_eq_some_iff {env : Environment} {v : Variable} {a : v.Value} :
    (env.reading v).value = some a ↔
      exists raw, env.Holds v raw ∧ v.parse (trim raw.toList) = .ok a := by
  simp only [← text?_eq_some_iff]
  unfold reading read
  cases env.text? v.name with
  | none => simp
  | some raw => cases hparse : v.parse (trim raw.toList) <;> simp [hparse]

theorem mem_ignored_iff {env : Environment} {v : Variable} {w : IgnoredValue} :
    w ∈ (env.reading v).ignored ↔
      w.key = v ∧ env.Holds v w.raw ∧ v.parse (trim w.raw.toList) = .error w.cause := by
  rcases w with ⟨key, raw', cause'⟩
  simp only [← text?_eq_some_iff]
  unfold reading read
  cases env.text? v.name with
  | none => simp
  | some raw =>
      cases hparse : v.parse (trim raw.toList) with
      | ok a =>
          simp only [hparse, List.not_mem_nil, Option.some.injEq, false_iff]
          rintro ⟨_, rfl, hcause⟩
          rw [hparse] at hcause
          cases hcause
      | error cause =>
          simp only [hparse, List.mem_singleton, IgnoredValue.mk.injEq, Option.some.injEq]
          constructor
          · rintro ⟨rfl, rfl, rfl⟩
            exact ⟨rfl, rfl, hparse⟩
          · rintro ⟨rfl, rfl, hcause⟩
            rw [hparse] at hcause
            cases hcause
            exact ⟨rfl, rfl, rfl⟩

theorem value_isSome_iff {env : Environment} {v : Variable} :
    (env.reading v).value.isSome = true ↔ env.Usable v := by
  simp only [Option.isSome_iff_exists, value_eq_some_iff, Usable, Variable.accepts_iff]
  rw [exists_comm]
  simp only [exists_and_left]

theorem value_eq_none_iff {env : Environment} {v : Variable} :
    (env.reading v).value = none ↔ ¬ env.Usable v := by
  rw [← value_isSome_iff, Bool.not_eq_true, Option.isSome_eq_false_iff, Option.isNone_iff_eq_none]

theorem read_map (env : Environment) (v : Variable) (parse : List Char -> Except ValueError α)
    (f : α -> β) :
    (env.read v parse).map f = env.read v fun text => (parse text).map f := by
  unfold read
  cases env.text? v.name with
  | none => rfl
  | some raw =>
      dsimp only
      cases parse (trim raw.toList) with
      | error cause => rfl
      | ok a => rfl

theorem readMillis_eq (env : Environment) (v : Variable) :
    env.readMillis v = env.read v fun text =>
      (number UInt64.size text).map fun ms => Duration.ofMillis (UInt64.ofNat ms) :=
  env.read_map v _ _

theorem readCapacity_eq (env : Environment) : env.readCapacity = env.reading .capacity := by
  unfold readCapacity reading
  rw [read_map]
  unfold read
  cases env.text? Variable.capacity.name with
  | none => rfl
  | some raw =>
      dsimp only
      by_cases hword : eqIgnoringCase (trim raw.toList) "unbounded".toList = true
      · simp only [if_pos hword, Variable.parse]
      · simp only [if_neg hword, Variable.parse]

end Environment

/-!
## The builder of an environment
-/

/-- A policy whose wait, if it has one, is replaced. -/
def OverflowPolicy.waiting (limit : Option Duration) : OverflowPolicy -> OverflowPolicy
  | .block wait => .block (limit.getD wait)
  | .dropOldest => .dropOldest
  | .dropNewest => .dropNewest

theorem Environment.readOverflow_eq (env : Environment) :
    env.readOverflow =
      { value := (env.reading .overflow).value.map (·.waiting (env.reading .blockMillis).value)
        ignored := (env.reading .overflow).ignored ++
          if (env.reading .overflow).value.isSome then (env.reading .blockMillis).ignored
          else [] } := by
  have hpolicy : (env.read .overflow fun text =>
      (OverflowPolicy.ofKeyword text).mapError .keyword) = env.reading .overflow := rfl
  have hwait : env.readMillis .blockMillis = env.reading .blockMillis := env.readMillis_eq _
  rw [readOverflow, hpolicy, hwait]
  -- Only a policy that waits makes use of the other value, but any policy makes it be read.
  rcases env.reading .overflow with ⟨_ | chosen, ignored⟩
  · simp
  · rcases env.reading .blockMillis with ⟨limit, missed⟩
    cases chosen <;> cases limit <;> rfl

/-- Every field of the builder comes from a variable of its own, except that the wait
of the policy has one more. -/
theorem Builder.ofEnvironment_fst (env : Environment) :
    (ofEnvironment env).1 =
      { openMode := (env.reading .openMode).value
        pollInterval := (env.reading .pollMillis).value
        capacity := (env.reading .capacity).value.getD (.bounded 65536)
        overflow := (env.reading .overflow).value.map (·.waiting (env.reading .blockMillis).value)
        drainMode := (env.reading .drainMode).value
        writeRetries := (env.reading .writeRetries).value
        retryBackoff := (env.reading .retryBackoffMillis).value } := by
  unfold ofEnvironment
  rw [env.readCapacity_eq, env.readOverflow_eq, env.readMillis_eq, env.readMillis_eq, env.read_map]
  rfl

def Environment.inspected (env : Environment) : List Variable :=
  [.capacity, .overflow] ++
    (if (env.reading .overflow).value.isSome then [.blockMillis] else []) ++
    [.openMode, .pollMillis, .drainMode, .writeRetries, .retryBackoffMillis]

theorem Builder.ofEnvironment_snd (env : Environment) :
    (ofEnvironment env).2 = env.inspected.flatMap fun v => (env.reading v).ignored := by
  unfold ofEnvironment
  rw [env.readCapacity_eq, env.readOverflow_eq, env.readMillis_eq, env.readMillis_eq, env.read_map,
    Environment.inspected]
  split
  · simp [List.append_assoc]
    rfl
  · simp [List.append_assoc]
    rfl

end AsyncLog
