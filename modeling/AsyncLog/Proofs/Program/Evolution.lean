import AsyncLog.Program
import AsyncLog.Proofs.Writer.WholeCalls
/-!
# A program over time

A program calls its log files in any order, their threads go on in between, the
clock runs and other programs change files.  Through all this a log file stays
the log file of its number, and only an installation changes who listens.
-/

namespace AsyncLog

/-- What can happen in a program: calls, a step of the drain thread or of the owner of
a log file, another time on the clock, and other files. -/
inductive Operation where
  | install (directory : String) (level : Level) (config : Config)
  | openLog (path : String) (config : Config)
  | raise (event : Event)
  | append (number : Nat) (entry : Entry)
  | shutDown (number : Nat)
  | readEnvironment (env : Environment)
  | drain (number : Nat)
  | beginShutdown (number : Nat)
  | owner (number : Nat) (timedOut : Bool)
  | clock (now : Moment)
  | outside (files : Files.Tree)

namespace Program

def proceed (p : Program) (number : Nat) (step : Writer -> Option Writer) : Program :=
  match p.logs[number]? with
  | none => p
  | some log =>
      match step log.writer with
      | none => p
      | some next => p.work number log next

def perform (p : Program) : Operation -> Program
  | .install directory level config => (p.installListener directory level config).2
  | .openLog path config => (p.openLog path config).2
  | .raise event => p.raise event
  | .append number entry => p.append number entry
  | .shutDown number => (p.shutDown number).2
  | .readEnvironment env => (p.readEnvironment env).2
  | .drain number => p.proceed number Writer.drainStep
  | .beginShutdown number => p.proceed number Writer.beginShutdown
  | .owner number timedOut => p.proceed number fun w => w.ownerStep timedOut
  | .clock now => { p with now }
  | .outside files => { p with files }

def performAll (p : Program) (operations : List Operation) : Program :=
  operations.foldl perform p

end Program

/-!
## Log files keep their numbers
-/

/-- A log file later on: nothing that happened to it is forgotten, it listens as before,
and one that took no more entries still takes none. -/
structure LogFile.Continues (log log' : LogFile) : Prop where
  path : log'.path = log.path
  listener : log'.writer.listener = log.writer.listener
  closed : log.writer.queue.closed = true -> log'.writer.queue.closed = true
  trace : log.writer.trace <:+ log'.writer.trace

theorem LogFile.ready_of_opened {t t' : Files.Tree} {path : String} {config : Config}
    {log : LogFile} (h : LogFile.opened t path config 1 = .ok (log, t')) : log.writer.Ready := by
  rw [opened] at h
  split at h
  · cases h
  · cases h
    exact Writer.ready_start config _

theorem LogFile.Continues.refl (log : LogFile) : log.Continues log :=
  ⟨rfl, rfl, id, List.suffix_rfl⟩

theorem LogFile.Continues.trans {log log' log'' : LogFile} (h : log.Continues log')
    (h' : log'.Continues log'') : log.Continues log'' :=
  ⟨h'.path.trans h.path, h'.listener.trans h.listener, h'.closed ∘ h.closed,
    h.trace.trans h'.trace⟩

namespace Program

def AllReady (p : Program) : Prop :=
  forall log, log ∈ p.logs -> log.writer.Ready

/-- Every log file goes on under its number, and the same one listens. -/
structure Evolves (p p' : Program) : Prop where
  ready : p'.AllReady
  listener : p'.listener = p.listener
  logs : forall {number : Nat} {log : LogFile}, p.logs[number]? = some log ->
    exists log' : LogFile, p'.logs[number]? = some log' ∧ log.Continues log'

variable {p p' : Program}

theorem Evolves.trans {p'' : Program} (h : Evolves p p') (h' : Evolves p' p'') :
    Evolves p p'' where
  ready := h'.ready
  listener := h'.listener.trans h.listener
  logs hlog := by
    obtain ⟨log', hlog', hcontinues⟩ := h.logs hlog
    obtain ⟨log'', hlog'', hcontinues'⟩ := h'.logs hlog'
    exact ⟨log'', hlog'', hcontinues.trans hcontinues'⟩

theorem evolves_of_logs (hready : p.AllReady) (hlistener : p'.listener = p.listener)
    (hlogs : p'.logs = p.logs) : Evolves p p' where
  ready := by
    rw [AllReady, hlogs]
    exact hready
  listener := hlistener
  logs hlog := ⟨_, by rw [hlogs]; exact hlog, .refl _⟩

theorem evolves_advance {number : Nat} {log : LogFile} {next : Writer} (hready : p.AllReady)
    (hlog : p.logs[number]? = some log) (hkeep : log.writer.Upkeep next) :
    Evolves p (p.advance number log next) where
  ready := by
    intro other hother
    rcases List.mem_or_eq_of_mem_set hother with hold | rfl
    · exact hready other hold
    · exact hkeep.toReady
  listener := rfl
  logs {other found} hfound := by
    simp only [advance, List.getElem?_set]
    by_cases hsame : number = other
    · subst hsame
      obtain ⟨hlt, _⟩ := List.getElem?_eq_some_iff.mp hlog
      rw [hlog] at hfound
      cases hfound
      simp only [if_true, hlt]
      exact ⟨_, rfl, rfl, hkeep.listener, hkeep.closed, hkeep.trace⟩
    · simp only [hsame, if_false]
      exact ⟨found, hfound, .refl _⟩

theorem evolves_onListener {work : Writer -> Writer} (hready : p.AllReady)
    (hwork : forall {w : Writer}, w.Ready -> w.Upkeep (work w)) : Evolves p (p.onListener work) := by
  rw [onListener]
  split
  · exact evolves_of_logs hready rfl rfl
  · split
    · exact evolves_of_logs hready rfl rfl
    · rename_i log hlog
      exact evolves_advance hready hlog (hwork (hready log (List.mem_of_getElem? hlog)))

theorem evolves_raise (hready : p.AllReady) (e : Event) : Evolves p (p.raise e) :=
  evolves_onListener hready fun hw => Writer.upkeep_raise hw e

theorem evolves_forward (hready : p.AllReady) (d : Diagnostic) : Evolves p (p.forward d) := by
  rw [forward]
  split
  · exact evolves_onListener hready fun hw => Writer.upkeep_refuse hw d
  · exact evolves_raise hready d.event

theorem evolves_foldl {step : Program -> α -> Program} (hready : p.AllReady)
    (hstep : forall {p : Program}, p.AllReady -> forall a, Evolves p (step p a)) (all : List α) :
    Evolves p (all.foldl step p) := by
  induction all generalizing p with
  | nil => exact evolves_of_logs hready rfl rfl
  | cons a rest ih =>
      have hfirst := hstep hready a
      exact hfirst.trans (ih hfirst.ready)

theorem evolves_report (hready : p.AllReady) (d : Diagnostic) : Evolves p (p.report d) := by
  have hkept : Evolves p { p with reported := d :: p.reported } :=
    evolves_of_logs hready rfl rfl
  exact hkept.trans (evolves_forward hkept.ready d)

theorem evolves_work {number : Nat} {log : LogFile} {next : Writer} (hready : p.AllReady)
    (hlog : p.logs[number]? = some log) (hkeep : log.writer.Upkeep next) :
    Evolves p (p.work number log next) := by
  have hadvanced := evolves_advance hready hlog hkeep
  rw [work]
  dsimp only
  split
  · exact hadvanced
  · exact hadvanced.trans (evolves_foldl hadvanced.ready evolves_forward _)

theorem evolves_proceed {number : Nat} {step : Writer -> Option Writer} (hready : p.AllReady)
    (hstep : forall {w next : Writer}, w.Ready -> step w = some next -> w.Upkeep next) :
    Evolves p (p.proceed number step) := by
  rw [proceed]
  split
  · exact evolves_of_logs hready rfl rfl
  · rename_i log hlog
    split
    · exact evolves_of_logs hready rfl rfl
    · rename_i next hnext
      exact evolves_work hready hlog (hstep (hready log (List.mem_of_getElem? hlog)) hnext)

theorem evolves_append (hready : p.AllReady) (number : Nat) (e : Entry) :
    Evolves p (p.append number e) := by
  rw [append]
  split
  · exact evolves_of_logs hready rfl rfl
  · rename_i log hlog
    exact evolves_work hready hlog
      (Writer.upkeep_append (hready log (List.mem_of_getElem? hlog)) e)

theorem evolves_shutDown (hready : p.AllReady) (number : Nat) :
    Evolves p (p.shutDown number).2 := by
  rw [shutDown]
  split
  · exact evolves_of_logs hready rfl rfl
  · rename_i log hlog
    exact evolves_work hready hlog
      (Writer.upkeep_shutDown (hready log (List.mem_of_getElem? hlog)))

theorem evolves_openLog (hready : p.AllReady) (path : String) (config : Config) :
    Evolves p (p.openLog path config).2 := by
  have hreported := evolves_report hready (.openingOutput path config)
  simp only [openLog]
  split
  · exact hreported
  · rename_i opened files hopened
    refine ⟨?_, hreported.listener, ?_⟩
    · intro log hlog
      rcases List.mem_append.mp hlog with hold | hnew
      · exact hreported.ready log hold
      · rw [List.mem_singleton.mp hnew]
        exact LogFile.ready_of_opened hopened
    · intro number log hlog
      obtain ⟨log', hlog', hrest⟩ := hreported.logs hlog
      obtain ⟨hlt, _⟩ := List.getElem?_eq_some_iff.mp hlog'
      exact ⟨log', (List.getElem?_append_left hlt).trans hlog', hrest⟩

theorem evolves_perform (hready : p.AllReady) {operation : Operation}
    (h : forall directory level config, operation ≠ .install directory level config) :
    Evolves p (p.perform operation) := by
  cases operation with
  | install directory level config => exact absurd rfl (h directory level config)
  | openLog path config => exact evolves_openLog hready path config
  | raise event => exact evolves_raise hready event
  | append number entry => exact evolves_append hready number entry
  | shutDown number => exact evolves_shutDown hready number
  | readEnvironment env =>
      exact evolves_foldl hready (fun hready value => evolves_report hready (.valueIgnored value)) _
  | drain number => exact evolves_proceed hready Writer.upkeep_drainStep
  | beginShutdown number => exact evolves_proceed hready Writer.upkeep_beginShutdown
  | owner number timedOut => exact evolves_proceed hready Writer.upkeep_ownerStep
  | clock now => exact evolves_of_logs hready rfl rfl
  | outside files => exact evolves_of_logs hready rfl rfl

end Program

end AsyncLog
