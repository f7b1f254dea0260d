import AsyncLog.Proofs.Files.Places
import AsyncLog.Proofs.Program.Evolution
/-!
# Who listens in a whole run

The first installation that succeeds decides for ever who hears the events of a
program.  Before it nobody does, whatever failed, and after it every further call
is refused before it touches anything.
-/

namespace AsyncLog

open Files (Tree)

theorem LogFile.advance_of_quiet (log : LogFile) (t : Tree) {next : Writer}
    (hquiet : next.happenedSince log.writer = []) :
    exists t', t.Alike t' ∧ log.advance t next = ({ log with writer := next }, t') := by
  obtain ⟨hdescriptor, halike⟩ := t.write_nil log.descriptor
  refine ⟨_, halike, ?_⟩
  have hreceived : received (([] : List Happening).filterMap Happening.call?) = [] := rfl
  simp only [advance, hquiet, hreceived, hdescriptor]

namespace Program

variable {p : Program} {directory : String} {level : Level} {config : Config}

/-!
## One installation
-/

def logPath (p : Program) (directory : String) : String :=
  Files.Path.join directory (p.now.logName "bot")

/-- What an installation can come to if nobody listens yet. -/
inductive Installation (p : Program) (directory : String) (level : Level) (config : Config) :
    Except OpenError String × Program -> Prop where
  | noDirectory {cause : IoError} {files : Tree} :
      p.files.makeDirectoriesAt directory = (.error cause, files) ->
      Installation p directory level config (.error (.directory directory cause), { p with files })
  | noFile {cause : IoError} {files : Tree} :
      p.files.makeDirectoriesAt directory = (.ok (), files) ->
      files.openLog (p.logPath directory) config.openMode = .error cause ->
      Installation p directory level config
        (.error (.file (p.logPath directory) cause), { p with
          files := files
          reported := .openingOutput (p.logPath directory) config :: p.reported })
  | installed {files opened : Tree} {descriptor : Files.Descriptor} {listening : Program} :
      p.files.makeDirectoriesAt directory = (.ok (), files) ->
      files.openLog (p.logPath directory) config.openMode = .ok (descriptor, opened) ->
      listening.listener = some p.logs.length ->
      (exists log : LogFile, listening.logs = p.logs ++ [log] ∧
        log.path = p.logPath directory ∧
        log.writer = (Writer.start config (opened.script descriptor) 1).listen
          { level, stamp := p.now.lineStamp }) ->
      Installation p directory level config (.ok (p.logPath directory), listening)

theorem raise_of_silent (h : p.listener = none) (e : Event) : p.raise e = p := by
  simp only [raise, onListener, h]

theorem forward_of_silent (h : p.listener = none) (d : Diagnostic) : p.forward d = p := by
  rw [forward]
  split
  · simp only [onListener, h]
  · exact raise_of_silent h d.event

theorem report_of_silent (h : p.listener = none) (d : Diagnostic) :
    p.report d = { p with reported := d :: p.reported } :=
  forward_of_silent (p := { p with reported := d :: p.reported }) h d

theorem onListener_of_some {work : Writer -> Writer} {number : Nat} {log : LogFile}
    (h : p.listener = some number) (hlog : p.logs[number]? = some log) :
    p.onListener work = p.advance number log (work log.writer) := by
  simp only [onListener, h, hlog]

theorem installation_of_silent (h : p.listener = none) (directory : String) (level : Level)
    (config : Config) :
    Installation p directory level config (p.installListener directory level config) := by
  have hlistener : p.listener.isSome = false := by rw [h]; rfl
  rw [installListener, hlistener]
  simp only [Bool.false_eq_true, if_false]
  rcases hmade : p.files.makeDirectoriesAt directory with ⟨made, files⟩
  cases made with
  | error cause => exact .noDirectory hmade
  | ok _ =>
      simp only [openLog, LogFile.opened]
      rw [report_of_silent (p := { p with files := files }) h]
      simp only
      cases hopened : files.openLog (p.logPath directory) config.openMode with
      | error cause =>
          rw [logPath] at hopened
          simp only [hopened]
          exact .noFile hmade hopened
      | ok found =>
          rw [logPath] at hopened
          simp only [hopened]
          rw [onListener_of_some rfl List.getElem?_concat_length]
          have hlast : forall first log : LogFile,
              (p.logs ++ [first]).set p.logs.length log = p.logs ++ [log] := by simp
          exact .installed hmade hopened rfl ⟨_, hlast _ _, rfl, rfl⟩

/-!
## Before and after the first success
-/

structure Silent (p : Program) : Prop where
  ready : p.AllReady
  nobody : p.listener = none

structure HeardBy (p : Program) (number : Nat) (path : String) (level : Level) : Prop where
  ready : p.AllReady
  listener : p.listener = some number
  log : exists log : LogFile, p.logs[number]? = some log ∧ log.path = path ∧
    exists stamp, log.writer.listener = some { level, stamp }

variable {p' : Program} {number : Nat} {path : String}

theorem Silent.evolves (h : p.Silent) (hevolves : Evolves p p') : p'.Silent :=
  ⟨hevolves.ready, hevolves.listener.trans h.nobody⟩

theorem HeardBy.evolves (h : p.HeardBy number path level) (hevolves : Evolves p p') :
    p'.HeardBy number path level where
  ready := hevolves.ready
  listener := hevolves.listener.trans h.listener
  log := by
    obtain ⟨log, hlog, hpath, stamp, hstamp⟩ := h.log
    obtain ⟨log', hlog', hcontinues⟩ := hevolves.logs hlog
    exact ⟨log', hlog', hcontinues.path.trans hpath, stamp, hcontinues.listener.trans hstamp⟩

theorem Installation.heardBy {result : Except OpenError String × Program}
    (h : Installation p directory level config result) (hready : p.AllReady)
    (hok : result.1 = .ok path) : result.2.HeardBy p.logs.length path level := by
  cases h with
  | noDirectory _ | noFile _ _ => cases hok
  | installed _ _ hlistener hlog =>
      cases hok
      obtain ⟨log, hlogs, hpath, hwriter⟩ := hlog
      refine ⟨?_, hlistener, log, ?_, hpath, _, congrArg Writer.listener hwriter⟩
      · intro other hother
        rw [hlogs, List.mem_append, List.mem_singleton] at hother
        rcases hother with hold | rfl
        · exact hready other hold
        · rw [hwriter]
          exact ⟨rfl, (Writer.Discipline.start _ _ _).move (.pass (.listen _))⟩
      · rw [hlogs]
        exact List.getElem?_concat_length

theorem Installation.silent {result : Except OpenError String × Program}
    (h : Installation p directory level config result) (hsilent : p.Silent) {error : OpenError}
    (herror : result.1 = .error error) :
    result.2.Silent ∧ result.2.logs = p.logs ∧ error ≠ .alreadyListening := by
  cases h with
  | noDirectory _ | noFile _ _ =>
      cases herror
      exact ⟨⟨hsilent.ready, hsilent.nobody⟩, rfl, by simp⟩
  | installed _ _ _ _ => cases herror

theorem Installation.succeeds_iff {result : Except OpenError String × Program}
    (h : Installation p directory level config result) :
    result.1 = .ok path ↔ path = p.logPath directory ∧
      exists files found, p.files.makeDirectoriesAt directory = (.ok (), files) ∧
        files.openLog path config.openMode = .ok found := by
  cases h with
  | noDirectory hmade => simp [hmade]
  | noFile hmade hopened =>
      simp only [hmade, reduceCtorEq, Prod.mk.injEq, true_and, false_iff, not_and, not_exists]
      rintro rfl _ found rfl hfound
      cases hopened.symm.trans hfound
  | @installed files opened descriptor _ hmade hopened _ _ =>
      simp only [Except.ok.injEq]
      constructor
      · rintro rfl
        exact ⟨rfl, files, (descriptor, opened), hmade, hopened⟩
      · exact fun h => h.1.symm

theorem HeardBy.refused (h : p.HeardBy number path level) (directory : String) (other : Level)
    (config : Config) :
    p.installListener directory other config = (.error .alreadyListening, p) :=
  if_pos (by rw [h.listener]; rfl)

/-!
## Whole runs
-/

def outcome? (p : Program) : Operation -> Option (Except OpenError String)
  | .install directory level config => some (p.installListener directory level config).1
  | _ => none

def outcomes (p : Program) : List Operation -> List (Except OpenError String)
  | [] => []
  | operation :: rest => (p.outcome? operation).toList ++ (p.perform operation).outcomes rest

def successes (p : Program) (operations : List Operation) : Nat :=
  (p.outcomes operations).countP Except.isOk

theorem successes_cons (operation : Operation) (rest : List Operation) :
    p.successes (operation :: rest) =
      (p.outcome? operation).toList.countP Except.isOk + (p.perform operation).successes rest := by
  rw [successes, outcomes, List.countP_append, successes]

theorem HeardBy.perform (h : p.HeardBy number path level) (operation : Operation) :
    Evolves p (p.perform operation) ∧ (p.outcome? operation).toList.countP Except.isOk = 0 := by
  cases operation with
  | install directory other config =>
      simp only [Program.perform, outcome?, h.refused directory other config]
      exact ⟨evolves_of_logs h.ready rfl rfl, rfl⟩
  | _ => exact ⟨evolves_perform h.ready (by simp), rfl⟩

theorem HeardBy.performAll (h : p.HeardBy number path level) (operations : List Operation) :
    Evolves p (p.performAll operations) ∧ p.successes operations = 0 := by
  induction operations generalizing p with
  | nil => exact ⟨evolves_of_logs h.ready rfl rfl, rfl⟩
  | cons operation rest ih =>
      obtain ⟨hevolves, hfailed⟩ := h.perform operation
      obtain ⟨hlater, hnone⟩ := ih (h.evolves hevolves)
      refine ⟨hevolves.trans hlater, ?_⟩
      rw [successes_cons, hfailed, hnone]

theorem Silent.perform (h : p.Silent) (operation : Operation) :
    (p.perform operation).Silent ∧ (p.outcome? operation).toList.countP Except.isOk = 0 ∨
      (exists number path level, (p.perform operation).HeardBy number path level) ∧
        (p.outcome? operation).toList.countP Except.isOk = 1 := by
  cases operation with
  | install directory level config =>
      simp only [Program.perform, outcome?]
      have hinstallation := installation_of_silent h.nobody directory level config
      cases hanswer : (p.installListener directory level config).1 with
      | error error => exact Or.inl ⟨(hinstallation.silent h hanswer).1, rfl⟩
      | ok path => exact Or.inr ⟨⟨_, _, _, hinstallation.heardBy h.ready hanswer⟩, rfl⟩
  | _ => exact Or.inl ⟨h.evolves (evolves_perform h.ready (by simp)), rfl⟩

/-- Nobody listens until one installation succeeds, and no other one does. -/
theorem Silent.performAll (h : p.Silent) (operations : List Operation) :
    (p.performAll operations).Silent ∧ p.successes operations = 0 ∨
      (exists number path level, (p.performAll operations).HeardBy number path level) ∧
        p.successes operations = 1 := by
  induction operations generalizing p with
  | nil => exact Or.inl ⟨h, rfl⟩
  | cons operation rest ih =>
      rw [successes_cons]
      rcases h.perform operation with ⟨hsilent, hnone⟩ | ⟨⟨number, path, level, hheard⟩, hone⟩
      · rw [hnone, Nat.zero_add]
        exact ih hsilent
      · obtain ⟨hevolves, hnone⟩ := hheard.performAll rest
        exact Or.inr ⟨⟨number, path, level, hheard.evolves hevolves⟩, by rw [hone, hnone]⟩

/-!
## Events
-/

/-- Only the writer of this log file has gone on, and every file is as before. -/
def OnlyWriter (p p' : Program) (number : Nat) (went : Writer -> Writer -> Prop) : Prop :=
  exists (log : LogFile) (next : Writer) (files : Tree), p.logs[number]? = some log ∧
    went log.writer next ∧ p.files.Alike files ∧
    p' = { p with files, logs := p.logs.set number { log with writer := next } }

theorem onlyWriter_advance {log : LogFile} {next : Writer} {went : Writer -> Writer -> Prop}
    (hlog : p.logs[number]? = some log) (hwent : went log.writer next)
    (hquiet : next.happenedSince log.writer = []) :
    p.OnlyWriter (p.advance number log next) number went := by
  obtain ⟨files, halike, hadvance⟩ := log.advance_of_quiet p.files hquiet
  refine ⟨log, next, files, hlog, hwent, halike, ?_⟩
  rw [advance, hquiet, hadvance]
  rfl

theorem HeardBy.admitted (h : p.HeardBy number path level) :
    exists stamp, forall e : Event, level.admits e.level = true ->
      p.OnlyWriter (p.raise e) number (Writer.Offered (e.line stamp)) := by
  obtain ⟨log, hlog, _, stamp, hlistener⟩ := h.log
  refine ⟨stamp, fun e hadmits => ?_⟩
  have hraise : log.writer.raise mainThread e = log.writer.append 0 (e.line stamp) := by
    simp only [Writer.raise, hlistener, hadmits, if_true]
    rfl
  have hoffered := Writer.offered_append (h.ready log (List.mem_of_getElem? hlog)).idle
    (e.line stamp)
  rw [raise, onListener_of_some h.listener hlog, hraise]
  exact onlyWriter_advance hlog hoffered hoffered.happened

theorem HeardBy.ignored (h : p.HeardBy number path level) (e : Event)
    (hadmits : level.admits e.level = false) :
    p.OnlyWriter (p.raise e) number fun w next => next = w := by
  obtain ⟨log, hlog, _, stamp, hlistener⟩ := h.log
  have hraise : log.writer.raise mainThread e = log.writer := by
    simp only [Writer.raise, hlistener, hadmits, Bool.false_eq_true, if_false]
  rw [raise, onListener_of_some h.listener hlog, hraise]
  exact onlyWriter_advance hlog rfl (Writer.happenedSince_of_trace [] rfl)

theorem OnlyWriter.mono {went went' : Writer -> Writer -> Prop} {log : LogFile}
    (h : p.OnlyWriter p' number went) (hlog : p.logs[number]? = some log)
    (himp : forall next, went log.writer next -> went' log.writer next) :
    p.OnlyWriter p' number went' := by
  obtain ⟨found, next, files, hfound, hwent, halike, hp'⟩ := h
  cases hlog.symm.trans hfound
  exact ⟨log, next, files, hlog, himp next hwent, halike, hp'⟩

theorem HeardBy.rejected (h : p.HeardBy number path level) {log : LogFile}
    (hlog : p.logs[number]? = some log) (hclosed : log.writer.queue.closed = true) :
    exists stamp, forall e : Event, level.admits e.level = true ->
      p.OnlyWriter (p.raise e) number (Writer.Rejected (e.line stamp)) := by
  obtain ⟨stamp, hadmitted⟩ := h.admitted
  exact ⟨stamp, fun e hadmits =>
    (hadmitted e hadmits).mono hlog fun next hoffered => hoffered.rejected hclosed⟩

theorem HeardBy.shutDown (h : p.HeardBy number path level) {log : LogFile}
    (hlog : p.logs[number]? = some log) (hinUse : log.writer.owner = .inUse) :
    exists log' : LogFile, (p.shutDown number).2.logs[number]? = some log' ∧
      log'.writer.queue.closed = true := by
  obtain ⟨hlt, _⟩ := List.getElem?_eq_some_iff.mp hlog
  have hlogs : (p.shutDown number).2.logs =
      (p.advance number log log.writer.shutDown.2).logs := by
    simp only [Program.shutDown, hlog, work, h.listener, if_true]
  rw [hlogs]
  simp only [advance, List.getElem?_set, if_true, hlt]
  exact ⟨_, rfl, Writer.closed_shutDown (h.ready log (List.mem_of_getElem? hlog)) hinUse⟩

/-!
## What a program can rely on
-/

/-- Nobody has come to listen: an event goes nowhere, and so it does after an
installation that fails, but the next one succeeds if its directory can be made and its
file can be opened. -/
structure Unheard (p : Program) : Prop where
  silent : forall e, p.raise e = p
  installation : forall directory level config,
    Installation p directory level config (p.installListener directory level config)
  failing : forall directory level config error,
    (p.installListener directory level config).1 = .error error ->
      error ≠ .alreadyListening ∧
      (p.installListener directory level config).2.listener = none ∧
      (p.installListener directory level config).2.logs = p.logs ∧
      forall e, (p.installListener directory level config).2.raise e =
        (p.installListener directory level config).2
  succeeding : forall directory level config path,
    (p.installListener directory level config).1 = .ok path ↔
      path = p.logPath directory ∧
        exists files found, p.files.makeDirectoriesAt directory = (.ok (), files) ∧
          files.openLog path config.openMode = .ok found

/-- A log file has come to listen: every installation is refused and changes nothing, and
every event of its level or a weightier one is one more entry that is offered to its writer,
which goes on to be so, and is rejected, after the writer was shut down. -/
structure Settled (p : Program) (number : Nat) (path : String) (level : Level) : Prop where
  refused : forall directory other config,
    p.installListener directory other config = (.error .alreadyListening, p)
  offered : exists stamp, forall e : Event, level.admits e.level = true ->
    p.OnlyWriter (p.raise e) number (Writer.Offered (e.line stamp))
  ignored : forall e : Event, level.admits e.level = false ->
    p.OnlyWriter (p.raise e) number fun w next => next = w
  kept : forall later, exists log log' : LogFile, p.logs[number]? = some log ∧
    (p.performAll later).logs[number]? = some log' ∧ log.path = path ∧ log'.path = path ∧
    log.writer.handed <+: log'.writer.handed ∧ log.writer.answers <+: log'.writer.answers
  shut : forall log : LogFile, p.logs[number]? = some log -> log.writer.owner = .inUse ->
    forall later, exists stamp, forall e : Event, level.admits e.level = true ->
      ((p.shutDown number).2.performAll later).OnlyWriter
        (((p.shutDown number).2.performAll later).raise e) number
        (Writer.Rejected (e.line stamp))

theorem Silent.unheard (h : p.Silent) : p.Unheard where
  silent := raise_of_silent h.nobody
  installation := installation_of_silent h.nobody
  failing directory level config error herror := by
    obtain ⟨hsilent, hlogs, hcause⟩ :=
      (installation_of_silent h.nobody directory level config).silent h herror
    exact ⟨hcause, hsilent.nobody, hlogs, raise_of_silent hsilent.nobody⟩
  succeeding directory level config _ :=
    (installation_of_silent h.nobody directory level config).succeeds_iff

theorem HeardBy.settled (h : p.HeardBy number path level) : p.Settled number path level where
  refused := h.refused
  offered := h.admitted
  ignored := h.ignored
  kept later := by
    obtain ⟨log, hlog, hpath, _⟩ := h.log
    obtain ⟨log', hlog', hcontinues⟩ := (h.performAll later).1.logs hlog
    exact ⟨log, log', hlog, hlog', hpath, hcontinues.path.trans hpath,
      Writer.chronicle_extend hcontinues.trace _, Writer.chronicle_extend hcontinues.trace _⟩
  shut log hlog hinUse later := by
    obtain ⟨ended, hended, hclosed⟩ := h.shutDown hlog hinUse
    have hheard := h.evolves (evolves_shutDown h.ready number)
    have hlater := (hheard.performAll later).1
    obtain ⟨log', hlog', hcontinues⟩ := hlater.logs hended
    exact (hheard.evolves hlater).rejected hlog' (hcontinues.closed hclosed)

theorem silent_fresh (files : Tree) (now : Moment) :
    ({ files, now } : Program).Silent :=
  ⟨fun _ hlog => absurd hlog List.not_mem_nil, rfl⟩

theorem performAll_append (p : Program) (before after : List Operation) :
    p.performAll (before ++ after) = (p.performAll before).performAll after :=
  List.foldl_append

/-- Through a whole run of a program at most one installation succeeds.  Nobody hears
anything until one does, and from then on its log file does for good. -/
theorem install_over_runs (files : Tree) (now : Moment) (operations : List Operation) :
    let start : Program := { files, now }
    start.successes operations ≤ 1 ∧
      (start.successes operations = 0 -> (start.performAll operations).Unheard) ∧
      forall before directory level config after path,
        operations = before ++ .install directory level config :: after ->
        ((start.performAll before).installListener directory level config).1 = .ok path ->
        (start.performAll operations).Settled (start.performAll before).logs.length path level := by
  intro start
  have hsilent : start.Silent := silent_fresh files now
  refine ⟨?_, ?_, ?_⟩
  · rcases hsilent.performAll operations with ⟨_, hnone⟩ | ⟨_, hone⟩ <;> omega
  · intro hfailed
    rcases hsilent.performAll operations with ⟨hlast, _⟩ | ⟨_, hone⟩
    · exact hlast.unheard
    · omega
  · rintro before directory level config after path rfl hok
    -- If somebody had been listening, this installation would have been refused.
    have hbefore : (start.performAll before).Silent := by
      rcases hsilent.performAll before with ⟨hlast, _⟩ | ⟨⟨number, other, heard, hheard⟩, _⟩
      · exact hlast
      · rw [hheard.refused] at hok
        cases hok
    have hheard := (installation_of_silent hbefore.nobody directory level config).heardBy
      hbefore.ready hok
    rw [performAll_append]
    exact (hheard.evolves (hheard.performAll after).1).settled

def lateInstall : List Operation := [
  .install "\x00" .trace .default,
  .raise { level := .error, target := "early", message := "lost" },
  .install "" .info .default,
  .install "sub" .trace .default,
  .raise { level := .info, target := "late", message := "kept" },
  .shutDown 0]

def midwinter : Moment where
  year := 2024
  month := 1
  day := 2
  hour := 3
  minute := 4
  second := 5

theorem leadsTo_midwinter :
    Tree.fresh.LeadsTo "bot_1-2-2024_030405.log" ["bot_1-2-2024_030405.log", "", "tmp"] none := by
  have hsplit : "bot_1-2-2024_030405.log".splitOn "/" = ["bot_1-2-2024_030405.log"] := by
    rw [String.splitOn, if_neg (by decide)]
    iterate 23 rw [String.splitOnAux, if_neg (by decide), if_neg (by decide)]
    rw [String.splitOnAux, if_pos (by decide)]
    decide
  exact Tree.leadsTo_fresh hsplit (by decide) (by decide) (by decide) (by decide) (by decide)

theorem install_over_runs_late :
    let start : Program := { files := .fresh, now := midwinter }
    start.successes lateInstall ≤ 1 ∧ (start.performAll (lateInstall.take 2)).Unheard ∧
      (start.performAll lateInstall).Settled 0 "bot_1-2-2024_030405.log" .info := by
  intro start
  have hearly : start.performAll (lateInstall.take 2) = start := rfl
  have hfailed : start.successes (lateInstall.take 2) = 0 := rfl
  have hunheard := (install_over_runs .fresh midwinter (lateInstall.take 2)).2.1 hfailed
  have hpath : start.logPath "" = "bot_1-2-2024_030405.log" := by decide
  obtain ⟨opened, hopened, _⟩ := leadsTo_midwinter.openLog Config.default.openMode
  have hok : ((start.performAll (lateInstall.take 2)).installListener "" .info .default).1 =
      .ok "bot_1-2-2024_030405.log" := by
    rw [hunheard.succeeding, hearly]
    exact ⟨hpath.symm, .fresh, _, rfl, hopened⟩
  obtain ⟨hone, _, hsettled⟩ := install_over_runs .fresh midwinter lateInstall
  have hlast := hsettled (lateInstall.take 2) "" .info .default (lateInstall.drop 3) _ rfl hok
  exact ⟨hone, hunheard, hlast⟩

end Program

end AsyncLog
