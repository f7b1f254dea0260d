import AsyncLog.Program
import AsyncLog.Proofs.Files.Places
import AsyncLog.Proofs.Writer.Lossless
import AsyncLog.Proofs.Writer.Panics
/-!
# Sessions on a log file

A log file is opened, written and closed again in one session after the other.
Every session finds what the sessions before it left: it goes on behind it, or
begins anew.
-/

namespace AsyncLog

open Files (Tree Location Path)

/-!
## A log file at work

The steps of a writer, each with what a program makes of it in the file.
-/

namespace LogFile

def step (log : LogFile) (t : Tree) (a : Writer.Action) : Option (LogFile × Tree) :=
  (log.writer.step a).map (log.advance t)

def run (log : LogFile) (t : Tree) : List Writer.Action -> Option (LogFile × Tree)
  | [] => some (log, t)
  | a :: rest => (log.step t a).bind fun (log, t) => log.run t rest

end LogFile

/-!
## The file of a running session
-/

theorem Writer.written_since {w w' : Writer} (h : w.trace <:+ w'.trace) :
    w'.written = w.written ++ received ((w'.happenedSince w).filterMap Happening.call?) := by
  obtain ⟨later, hlater⟩ := h
  have hhappened : w'.happenings = w.happenings ++ w'.happenedSince w := by
    rw [happenedSince_of_trace later hlater, happenings, ← hlater, List.reverse_append,
      List.filterMap_append, happenings]
  rw [written, calls, hhappened, List.filterMap_append, received_append, written, calls]

namespace LogFile

/-- The file of a path holds what the writer wrote, behind what the file held before,
and the next write goes to its end. -/
structure Grown (path : String) (location : Location) (before : List UInt8) (log : LogFile)
    (t : Tree) : Prop where
  place : log.descriptor.location = location
  content : t.LeadsTo path location (some (before ++ log.writer.written))
  atEnd : log.descriptor.mode = .truncate ->
    log.descriptor.position = (before ++ log.writer.written).length

variable {path : String} {location : Location} {before : List UInt8} {log : LogFile} {t : Tree}

theorem Grown.advance (h : Grown path location before log t) {next : Writer}
    (htrace : log.writer.trace <:+ next.trace) :
    Grown path location before (log.advance t next).1 (log.advance t next).2 := by
  obtain ⟨rfl, hcontent, hatEnd⟩ := h
  obtain ⟨hplace, hlocation, hmode, hend⟩ := hcontent.write hatEnd
    (received ((next.happenedSince log.writer).filterMap Happening.call?))
  rw [List.append_assoc, ← Writer.written_since htrace] at hplace hend
  exact ⟨hlocation, hplace, fun htruncate => hend (hmode.symm.trans htruncate)⟩

theorem Grown.run (h : Grown path location before log t) {actions : List Writer.Action}
    {final : Writer} (hrun : log.writer.run actions = some final) :
    exists ended t', log.run t actions = some (ended, t') ∧ ended.writer = final ∧
      Grown path location before ended t' := by
  induction actions generalizing log t with
  | nil => exact ⟨log, t, rfl, Option.some.inj hrun, h⟩
  | cons a rest ih =>
      rw [Writer.run_cons, Option.bind_eq_some_iff] at hrun
      obtain ⟨next, hstep, hrest⟩ := hrun
      obtain ⟨ended, t', hended, hfinal⟩ :=
        ih (h.advance (Writer.move_of_step hstep).trace) hrest
      refine ⟨ended, t', ?_, hfinal⟩
      rw [LogFile.run, LogFile.step, hstep]
      exact hended

theorem grown_opened {content : Option (List UInt8)} (h : t.LeadsTo path location content)
    (config : Config) (producers : Nat) :
    exists log t', opened t path config producers = .ok (log, t') ∧
      log.writer = .start config .obliging producers ∧
      Grown path location (Tree.kept content config.openMode) log t' := by
  obtain ⟨t', hopen, hplace⟩ := h.openLog config.openMode
  have hscript : t'.script { location, mode := config.openMode } = .obliging :=
    Tree.LeadsTo.script (d := { location, mode := config.openMode }) hplace
  refine ⟨_, t', by rw [opened, hopen], congrArg (Writer.start config · producers) hscript,
    rfl, ?_, fun htruncate => ?_⟩
  · refine (List.append_nil _).symm ▸ hplace
  · rw [show config.openMode = .truncate from htruncate]
    rfl

end LogFile

/-!
## Sessions
-/

/-- A session with an unbounded queue: producers append, in any interleaving with each
other and with the drain thread; then the owner asks for the end, which it also does
when it drops the writer, and at last the shutdown is over. -/
structure Session where
  config : Config
  producers : Nat
  appends : List Writer.Action
  ending : List Writer.Action
  asked : Writer
  final : Writer
  unbounded : config.capacity = none
  appended : (Writer.start config .obliging producers).run appends = some asked
  inUse : asked.owner = .inUse
  quiet : asked.IsQuiet
  ended : asked.run ending = some final
  complete : exists stats, final.owner = .finished stats

namespace Session

def bytes (s : Session) : List UInt8 :=
  (s.final.accepted.map fun a => a.entry.bytes).flatten

def play (path : String) (t : Tree) (s : Session) : Option Tree :=
  match LogFile.opened t path s.config s.producers with
  | .error _ => none
  | .ok (log, t) => (log.run t (s.appends ++ s.ending)).map Prod.snd

def playAll (path : String) (t : Tree) (sessions : List Session) : Option Tree :=
  sessions.foldlM (play path) t

def leave (content : Option (List UInt8)) (s : Session) : Option (List UInt8) :=
  some (Tree.kept content s.config.openMode ++ s.bytes)

theorem ran (s : Session) :
    (Writer.start s.config .obliging s.producers).run (s.appends ++ s.ending) = some s.final := by
  rw [Writer.run_append, s.appended]
  exact s.ended

theorem written_final (s : Session) : s.final.written = s.bytes := by
  obtain ⟨stats, hcomplete⟩ := s.complete
  exact Writer.written_of_unbounded s.unbounded s.ran hcomplete

variable {path : String} {location : Location} {t : Tree} {content : Option (List UInt8)}

theorem play_of_leadsTo (s : Session) (h : t.LeadsTo path location content) :
    exists t', s.play path t = some t' ∧ t'.LeadsTo path location (s.leave content) := by
  obtain ⟨log, opened, hopened, hwriter, hgrown⟩ := LogFile.grown_opened h s.config s.producers
  obtain ⟨ended, t', hended, hfinal, hgrown'⟩ := hgrown.run (hwriter.symm ▸ s.ran)
  refine ⟨t', ?_, ?_⟩
  · simp only [play, hopened, hended, Option.map_some]
  · rw [leave, ← s.written_final, ← hfinal]
    exact hgrown'.content

theorem playAll_of_leadsTo (sessions : List Session) (h : t.LeadsTo path location content) :
    exists t', playAll path t sessions = some t' ∧
      t'.LeadsTo path location (sessions.foldl leave content) := by
  induction sessions generalizing t content with
  | nil => exact ⟨t, rfl, h⟩
  | cons s rest ih =>
      obtain ⟨next, hnext, hplace⟩ := s.play_of_leadsTo h
      obtain ⟨t', ht', hplace'⟩ := ih hplace
      refine ⟨t', ?_, hplace'⟩
      rw [playAll, List.foldlM_cons, hnext]
      exact ht'

theorem leave_appending {sessions : List Session}
    (h : forall s, s ∈ sessions -> s.config.openMode = .append)
    (hsome : content ≠ none ∨ sessions ≠ []) :
    sessions.foldl leave content = some (content.getD [] ++ sessions.flatMap bytes) := by
  induction sessions generalizing content with
  | nil =>
      cases content with
      | none => simp at hsome
      | some content => simp
  | cons s rest ih =>
      have hfirst : s.leave content = some (content.getD [] ++ s.bytes) := by
        rw [leave, h s List.mem_cons_self]
        rfl
      have hrest := ih (fun later hlater => h later (List.mem_cons_of_mem _ hlater))
        (Or.inl (Option.some_ne_none (content.getD [] ++ s.bytes)))
      rw [List.foldl_cons, hfirst, hrest, List.flatMap_cons, Option.getD_some, List.append_assoc]

end Session

/-- The file that a series of sessions leaves holds the entries of all sessions from the
last one on that truncated it; if none did, also what it held before. -/
theorem file_of_sessions {t : Tree} {path : String} {location : Location}
    {initial : Option (List UInt8)} (h : t.LeadsTo path location initial)
    (sessions : List Session) :
    exists t', Session.playAll path t sessions = some t' ∧
      (sessions = [] -> t' = t) ∧
      ((forall s, s ∈ sessions -> s.config.openMode = .append) ->
        initial ≠ none ∨ sessions ≠ [] ->
        t'.read path = .ok (initial.getD [] ++ sessions.flatMap Session.bytes)) ∧
      (forall before s after, sessions = before ++ s :: after ->
        s.config.openMode = .truncate ->
        (forall later, later ∈ after -> later.config.openMode = .append) ->
        t'.read path = .ok ((s :: after).flatMap Session.bytes)) ∧
      forall s, s ∈ sessions -> forall producer,
        (forall e, (.producer producer, e) ∉ s.asked.refusals) ->
        s.asked.handedBy (.producer producer) <+:
          (s.final.accepted.filter fun a => a.source = .producer producer).map Answer.entry := by
  obtain ⟨t', hplayed, hplace⟩ := Session.playAll_of_leadsTo sessions h
  refine ⟨t', hplayed, ?_, ?_, ?_, ?_⟩
  · rintro rfl
    exact (Option.some.inj hplayed).symm
  · intro happend hsome
    rw [Session.leave_appending happend hsome] at hplace
    exact hplace.read
  · rintro before s after rfl htruncate hafter
    have hcontent : (before ++ s :: after).foldl Session.leave initial =
        some ((s :: after).flatMap Session.bytes) := by
      rw [List.foldl_append, List.foldl_cons, Session.leave, htruncate,
        Session.leave_appending hafter (Or.inl (Option.some_ne_none _))]
      rfl
    rw [hcontent] at hplace
    exact hplace.read
  · intro s _ producer hrefusals
    exact Writer.handedBy_accepted s.unbounded s.appended s.inUse s.quiet s.ended hrefusals

/-!
A session that tells how it opened its file: the drain thread writes the entry of one
producer, and that of another one is left to the final pass.
-/

def OpenMode.note : OpenMode -> Entry
  | .append => "on"
  | .truncate => "off"

def notedConfig (mode : OpenMode) : Config :=
  { Config.default with openMode := mode, capacity := none, capacity_ne_zero := by decide }

def notedAppends (mode : OpenMode) : List Writer.Action :=
  [.hand 0 mode.note, .push 0 false, .push 0 false] ++ List.replicate 11 .drain ++
    [.hand 1 "!", .push 1 false, .push 1 false]

def notedEnding : List Writer.Action :=
  [.shutDown, .owner false] ++ List.replicate 2 .drain ++ List.replicate 11 (.owner false)

def notedAsked (mode : OpenMode) : Writer :=
  ((Writer.start (notedConfig mode) .obliging 2).run (notedAppends mode)).get
    (by cases mode <;> decide)

def notedFinal (mode : OpenMode) : Writer :=
  ((notedAsked mode).run notedEnding).get (by cases mode <;> decide)

def notedSession (mode : OpenMode) : Session where
  config := notedConfig mode
  producers := 2
  appends := notedAppends mode
  ending := notedEnding
  asked := notedAsked mode
  final := notedFinal mode
  unbounded := rfl
  appended := (Option.some_get _).symm
  inUse := by cases mode <;> decide
  quiet := by cases mode <;> decide
  ended := (Option.some_get _).symm
  complete := ⟨(notedFinal mode).stats, by cases mode <;> decide⟩

theorem leadsTo_log : Tree.fresh.LeadsTo "log" ["log", "", "tmp"] none := by
  have hsplit : "log".splitOn "/" = ["log"] := by
    rw [String.splitOn, if_neg (by decide)]
    iterate 3 rw [String.splitOnAux, if_neg (by decide), if_neg (by decide)]
    rw [String.splitOnAux, if_pos (by decide)]
    decide
  exact Tree.leadsTo_fresh hsplit (by decide) (by decide) (by decide) (by decide) (by decide)

theorem file_of_sessions_noted :
    (exists t', Session.playAll "log"
        (Tree.fresh.put ["log", "", "tmp"] (.file (Entry.bytes "old;")))
        [notedSession .append, notedSession .truncate, notedSession .append] = some t' ∧
      t'.read "log" = .ok (Entry.bytes "off!on!")) ∧
    exists t', Session.playAll "log"
        (Tree.fresh.put ["log", "", "tmp"] (.file (Entry.bytes "old;")))
        [notedSession .append, notedSession .append] = some t' ∧
      t'.read "log" = .ok (Entry.bytes "old;on!on!") := by
  have hold := leadsTo_log.put (Entry.bytes "old;")
  constructor
  · obtain ⟨t', hplayed, _, _, htruncated, _⟩ := file_of_sessions hold
      [notedSession .append, notedSession .truncate, notedSession .append]
    refine ⟨t', hplayed, ?_⟩
    rw [htruncated [notedSession .append] _ [notedSession .append] rfl rfl
      (by simp [notedSession, notedConfig])]
    decide
  · obtain ⟨t', hplayed, _, happended, _⟩ := file_of_sessions hold
      [notedSession .append, notedSession .append]
    refine ⟨t', hplayed, ?_⟩
    rw [happended (by simp [notedSession, notedConfig]) (Or.inr (by simp))]
    decide

end AsyncLog
