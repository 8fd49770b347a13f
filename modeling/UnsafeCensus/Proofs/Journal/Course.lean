import UnsafeCensus.Proofs.Journal.Emission
import UnsafeCensus.Proofs.Journal.SetUp

/-!
# Runs

Sequences of calls and messages, in any order, between which files may fill. Some of the calls fail.
How the tree is routed after a run depends on the last call that succeeded alone, as long as none
has stopped since at a handler that could not be closed.
-/

namespace UnsafeCensus.Journal

open Files (FileSystem Location)

/-- Every handler that belongs to a logger exists. -/
structure State.Sound (s : State) : Prop where
  logger (name : String) : ∀ number ∈ (s.logger name).handlers, number < s.pool.length
  outer : ∀ number ∈ s.outer.handlers, number < s.pool.length

inductive Event
  | call (call : Call)
  | message (r : Record)
  /-- A file takes no more bytes from now on. -/
  | fills (location : Location)

/-- The session once a file is full. -/
def Session.filled (s : Session) (location : Location) : Session :=
  { s with full := location :: s.full }

/-- A session, and the last call that has succeeded in it. -/
structure Course where
  session : Session
  call : Option Call
  /-- A later call has stopped at a handler that could not be closed. -/
  stopped : Bool

variable {start : Session} {c : Course} {call : Call} {r : Route} {s s' : State}
  {before rest : List Nat} {number : Nat}

namespace Course

def begin (s : Session) : Course := ⟨s, none, false⟩

/-- What a call makes of a course, by what it comes to. -/
def after (c : Course) (call : Call) : EStateM.Result Trouble Session Unit → Course
  | .ok _ s => ⟨s, some call, false⟩
  | .error .noSpace s => ⟨s, c.call, true⟩
  | .error (.access _) s => ⟨s, c.call, c.stopped⟩

def step (c : Course) : Event → Course
  | .call call => c.after call (setUp call.verbosity call.logFile c.session)
  | .message r => { c with session := c.session.log r }
  | .fills location => { c with session := c.session.filled location }

def run (c : Course) (events : List Event) : Course :=
  events.foldl step c

theorem step_of_gives (hgives : call.Gives c.session.files r)
    (hfree : ∀ number ∈ c.session.journal.top.handlers, number ∉ c.session.stuck) :
    c.step (.call call) = ⟨c.session.rerouted r, some call, false⟩ := by
  rw [step, setUp_of_gives hgives hfree]
  rfl

theorem exists_ends (c : Course) (call : Call) :
    ∃ result, call.Ends c.session result ∧ c.step (.call call) = c.after call result :=
  ⟨_, ends_setUp call c.session, rfl⟩

theorem step_of_not_gives (h : ∀ r, ¬ call.Gives c.session.files r) :
    c.step (.call call) = { c with session := c.session.refused } := by
  obtain ⟨result, hends, hstep⟩ := c.exists_ends call
  rw [hstep]
  cases hends with
  | refused _ => rfl
  | stopped hgives => exact absurd hgives (h _)
  | routed hgives => exact absurd hgives (h _)

/-- Whatever happens, a handler goes on to write where it did. -/
theorem sinks_step (c : Course) (event : Event) :
    c.session.journal.pool.map (·.sink) <+: (c.step event).session.journal.pool.map (·.sink) := by
  cases event with
  | message r =>
    have hsame := Session.sameButWritten_log c.session r
    show _ <+: (c.session.log r).journal.pool.map (·.sink)
    rw [hsame.journal]
    exact List.prefix_rfl
  | fills location => exact List.prefix_rfl
  | call call =>
    obtain ⟨result, hends, hstep⟩ := c.exists_ends call
    rw [hstep]
    cases hends with
    | refused _ => exact (List.prefix_append _ _).map _
    | stopped _ _ _ _ =>
      show _ <+: (Session.without _ _).journal.pool.map _
      rw [Session.sinks_without, Session.prepared, State.sinks_withHandlers]
      exact List.prefix_append _ _
    | @routed r _ _ =>
      show _ <+: (c.session.journal.rerouted r).pool.map _
      rw [State.sinks_rerouted]
      exact List.prefix_append _ _

theorem full_step (c : Course) (event : Event) :
    (c.step event).session.full =
      match event with
      | .fills location => location :: c.session.full
      | _ => c.session.full := by
  cases event with
  | message r => exact (Session.sameButWritten_log c.session r).full
  | fills location => rfl
  | call call =>
    obtain ⟨result, hends, hstep⟩ := c.exists_ends call
    rw [hstep]
    cases hends <;> rfl

end Course

-- ---------------------------------------------------------------------------
-- Routes and files
-- ---------------------------------------------------------------------------

/-- Which route a call gives does not depend on the files. -/
theorem Call.gives_iff {files files' : FileSystem} (h : FileSystem.SameBranches files files')
    (htop : files.top.branchAt? [] = some .directory) :
    call.Gives files' r ↔ call.Gives files r := by
  have hopens (name : String) (target : Location) :
      files'.Opens (files'.absolute (.ofString name)) target ↔
        files.Opens (files.absolute (.ofString name)) target := by
    rw [FileSystem.absolute_eq h]
    exact h.opens_iff htop (FileSystem.isAbsolute_absolute files _)
  constructor
  · intro hgives
    cases hgives with
    | console hname => exact .console hname
    | file hname hopen => exact .file hname ((hopens _ _).mp hopen)
  · intro hgives
    cases hgives with
    | console hname => exact .console hname
    | file hname hopen => exact .file hname ((hopens _ _).mpr hopen)

theorem Call.Gives.admits {files : FileSystem} {target : Location} (h : call.Gives files r)
    (htop : files.top.branchAt? [] = some .directory) (htarget : r.target = some target) :
    files.top.Admits target := by
  cases h with
  | console => cases htarget
  | file _ hopens =>
    cases htarget
    exact hopens.admits htop (FileSystem.isAbsolute_absolute files _)

theorem Call.Gives.sameBranches_opened {files : FileSystem} (h : call.Gives files r)
    (htop : files.top.branchAt? [] = some .directory) :
    FileSystem.SameBranches files (r.opened files) := by
  unfold Route.opened
  split
  · next target htarget => exact FileSystem.sameBranches_withFile (h.admits htop htarget)
  · exact .refl files

theorem Call.Gives.file?_opened {files : FileSystem} (h : call.Gives files r)
    (htop : files.top.branchAt? [] = some .directory) (location : Location) :
    (r.opened files).file? location =
      if r.target = some location then some ((files.file? location).getD [])
      else files.file? location := by
  unfold Route.opened
  split
  · next target htarget =>
    rw [FileSystem.file?_withFile (h.admits htop htarget), htarget]
    by_cases heq : location = target
    · rw [if_pos heq, if_pos (congrArg some heq.symm), heq]
    · rw [if_neg heq, if_neg fun hsome => heq (Option.some.inj hsome).symm]
  · next htarget =>
    rw [htarget]
    rfl

-- ---------------------------------------------------------------------------
-- What a run keeps
-- ---------------------------------------------------------------------------

/-- The last call that has succeeded gave this route. All of it is left unless a call has stopped
since, and nothing else is there. -/
structure Course.Follows (start : Session) (r : Route) (c : Course) : Prop where
  follows : c.session.journal.Follows r
  routed (h : c.stopped = false) : c.session.journal.Routed r
  fewer (h : c.stopped = true) : c.session.journal.top.handlers.length < r.sinks.length
  root : c.session.journal.loggers.has rootName = true
  file (target : Location) (h : r.target = some target) :
    (c.session.files.file? target).isSome = true
  new : ∀ number ∈ c.session.journal.top.handlers, start.journal.pool.length ≤ number

/-- What a course keeps of the session that it began with, and what its last call has made. -/
structure Continues (start : Session) (c : Course) : Prop where
  branches : FileSystem.SameBranches start.files c.session.files
  encode : c.session.encode = start.encode
  sinks : start.journal.pool.map (·.sink) <+: c.session.journal.pool.map (·.sink)
  sound : ∀ number ∈ c.session.journal.top.handlers, number < c.session.journal.pool.length
  loggers (name : String) (h : name ≠ rootName) :
    c.session.journal.logger name = start.journal.logger name
  outer : c.session.journal.outer = start.journal.outer
  unrouted (h : c.call = none) :
    ∀ number ∈ c.session.journal.top.handlers, number ∈ start.journal.top.handlers
  routed (call : Call) (h : c.call = some call) :
    ∃ r, call.Gives start.files r ∧ c.Follows start r

namespace Continues

theorem refl (h : start.journal.Sound) : Continues start (.begin start) where
  branches := .refl start.files
  encode := rfl
  sinks := List.prefix_rfl
  sound := h.logger rootName
  loggers _ _ := rfl
  outer := rfl
  unrouted _ _ h := h
  routed _ h := nomatch h

/-- The top of the tree is as it was, with the handlers that it has. Files may have been written
to, and other things may have come. -/
theorem keep (h : Continues start c) {s : Session}
    (hbranches : FileSystem.SameBranches c.session.files s.files)
    (hencode : s.encode = c.session.encode)
    (hpool : c.session.journal.pool <+: s.journal.pool)
    (hlogger : ∀ name, s.journal.logger name = c.session.journal.logger name)
    (hhas : c.session.journal.loggers.has rootName = true → s.journal.loggers.has rootName = true)
    (houter : s.journal.outer = c.session.journal.outer)
    (hfile : ∀ location, (c.session.files.file? location).isSome = true →
      (s.files.file? location).isSome = true) :
    Continues start { c with session := s } := by
  have htop : s.journal.top = c.session.journal.top := hlogger rootName
  have hsame : ∀ number ∈ c.session.journal.top.handlers,
      s.journal.pool[number]? = c.session.journal.pool[number]? := by
    obtain ⟨more, hmore⟩ := hpool
    intro number hnumber
    rw [← hmore, List.getElem?_append_left (h.sound number hnumber)]
  refine
    { branches := h.branches.trans hbranches
      encode := hencode.trans h.encode
      sinks := h.sinks.trans (hpool.map _)
      sound := fun number hnumber => ?_
      loggers := fun name hname => (hlogger name).trans (h.loggers name hname)
      outer := houter.trans h.outer
      unrouted := fun hnone number hnumber => h.unrouted hnone number (htop ▸ hnumber)
      routed := fun call hcall => ?_ }
  · rw [htop] at hnumber
    exact Nat.lt_of_lt_of_le (h.sound number hnumber) hpool.length_le
  · obtain ⟨r, hgives, hfollows⟩ := h.routed call hcall
    exact ⟨r, hgives,
      { follows := hfollows.follows.congr htop hsame
        routed := fun hstopped => (hfollows.routed hstopped).congr htop hsame
        fewer := fun hstopped => by
          rw [htop]
          exact hfollows.fewer hstopped
        root := hhas hfollows.root
        file := fun target htarget => hfile target (hfollows.file target htarget)
        new := fun number hnumber => hfollows.new number (htop ▸ hnumber) }⟩

/-- A message registers its logger, and writes. -/
theorem message (h : Continues start c) (r : Record) : Continues start (c.step (.message r)) := by
  have hsame := Session.sameButWritten_log c.session r
  refine h.keep hsame.branches hsame.encode ?_ (fun name => ?_) (fun hhas => ?_) ?_
    fun location hfile => (hsame.isSome_file? location).trans hfile
  · rw [hsame.journal]
    exact List.prefix_rfl
  · rw [hsame.journal]
    exact State.logger_register r.logger _ name
  · rw [hsame.journal, Session.registered, State.register, State.has_changeLogger, hhas,
      Bool.or_true]
  · rw [hsame.journal]
    rfl

theorem fills (h : Continues start c) (location : Location) :
    Continues start (c.step (.fills location)) :=
  h.keep (.refl c.session.files) rfl List.prefix_rfl (fun _ => rfl) id rfl fun _ => id

/-- A call that opens no file leaves a handler that belongs to no logger. -/
theorem refused (h : Continues start c) : Continues start { c with session := c.session.refused } :=
  h.keep (.refl c.session.files) rfl (List.prefix_append _ _) (fun _ => rfl) id rfl fun _ => id

/-- Some handlers of the top of the tree are gone, so there is less of the route than there was. -/
theorem cutShort (h : Continues start c) {s : Session} {gone : List Nat}
    (hcut : State.CutShort gone rest c.session.journal s.journal) (hgone : gone ≠ [])
    (hbranches : FileSystem.SameBranches c.session.files s.files)
    (hencode : s.encode = c.session.encode)
    (hsinks : c.session.journal.pool.map (·.sink) <+: s.journal.pool.map (·.sink))
    (hroot : s.journal.loggers.has rootName = true)
    (hfile : ∀ location, (c.session.files.file? location).isSome = true →
      (s.files.file? location).isSome = true) :
    Continues start ⟨s, c.call, true⟩ := by
  have hhandlers : s.journal.top.handlers = rest := by rw [hcut.top]
  have hleft {number : Nat} (hnumber : number ∈ s.journal.top.handlers) :
      number ∈ c.session.journal.top.handlers := by
    rw [hhandlers] at hnumber
    rw [hcut.handlers]
    exact List.mem_append_right gone hnumber
  have hlength : s.journal.top.handlers.length < c.session.journal.top.handlers.length := by
    rw [hhandlers, hcut.handlers, List.length_append]
    exact Nat.lt_add_of_pos_left (List.length_pos_iff.mpr hgone)
  have hpool : c.session.journal.pool.length ≤ s.journal.pool.length := by
    simpa using hsinks.length_le
  refine
    { branches := h.branches.trans hbranches
      encode := hencode.trans h.encode
      sinks := h.sinks.trans hsinks
      sound := fun number hnumber => Nat.lt_of_lt_of_le (h.sound number (hleft hnumber)) hpool
      loggers := fun name hname => (hcut.elsewhere.logger_eq hname).trans (h.loggers name hname)
      outer := hcut.elsewhere.outer.trans h.outer
      unrouted := fun hnone number hnumber => h.unrouted hnone number (hleft hnumber)
      routed := fun call hcall => ?_ }
  obtain ⟨r, hgives, hfollows⟩ := h.routed call hcall
  refine ⟨r, hgives,
    { follows := hfollows.follows.cutShort h.sound hcut
      routed := nofun
      fewer := fun _ => Nat.lt_of_lt_of_le hlength ?_
      root := hroot
      file := fun target htarget => hfile target (hfollows.file target htarget)
      new := fun number hnumber => hfollows.new number (hleft hnumber) }⟩
  cases hstopped : c.stopped with
  | false => exact Nat.le_of_eq ((hfollows.routed hstopped).length_handlers h.sound)
  | true => exact Nat.le_of_lt (hfollows.fewer hstopped)

/-- A call that stops has opened its file, and closed some handlers. -/
theorem stopped (h : Continues start c) (htop : start.files.top.branchAt? [] = some .directory)
    (hgives : call.Gives start.files r)
    (hhandlers : c.session.journal.top.handlers = before ++ number :: rest) :
    Continues start ⟨(c.session.prepared r).without (before ++ [number]), c.call, true⟩ := by
  have hnow := (Call.gives_iff h.branches htop).mpr hgives
  have htop' := (h.branches.branch []).trans htop
  have hgone : c.session.journal.top.handlers = (before ++ [number]) ++ rest := by simp [hhandlers]
  refine h.cutShort (State.cutShort_foldl_discard h.sound hgone r.sinks) (by simp)
    (hnow.sameBranches_opened htop') rfl ?_ ?_ (fun location hfile => ?_)
  · rw [Session.sinks_without, Session.prepared, State.sinks_withHandlers]
    exact List.prefix_append _ _
  · show ((before ++ [number]).foldl State.discard _).loggers.has rootName = true
    rw [List.foldl_append]
    exact State.has_discard _ number
  · show ((r.opened c.session.files).file? location).isSome = true
    rw [hnow.file?_opened htop']
    split
    · rfl
    · exact hfile

/-- A call that succeeds routes the tree anew. -/
theorem success (h : Continues start c) (htop : start.files.top.branchAt? [] = some .directory)
    (hgives : call.Gives start.files r) :
    Continues start ⟨c.session.rerouted r, some call, false⟩ := by
  have hnow := (Call.gives_iff h.branches htop).mpr hgives
  have htop' := (h.branches.branch []).trans htop
  have hreplaced := State.replaced_rerouted h.sound r
  have hrouted := State.routed_rerouted h.sound r
  have hsinks : (c.session.journal.rerouted r).pool.map (·.sink) =
      c.session.journal.pool.map (·.sink) ++ r.sinks := State.sinks_rerouted _ r
  have hsound : ∀ number ∈ (c.session.journal.rerouted r).top.handlers,
      number < (c.session.journal.rerouted r).pool.length := by
    intro number hnumber
    rw [State.top_rerouted] at hnumber
    have hlength := congrArg List.length hsinks
    rw [List.length_map, List.length_append, List.length_map] at hlength
    rw [hlength]
    exact (State.mem_newNumbers.mp hnumber).2
  refine
    { branches := h.branches.trans (hnow.sameBranches_opened htop')
      encode := h.encode
      sinks := h.sinks.trans (hsinks ▸ List.prefix_append _ _)
      sound := hsound
      loggers := fun name hname =>
        (hreplaced.elsewhere.logger_eq hname).trans (h.loggers name hname)
      outer := hreplaced.elsewhere.outer.trans h.outer
      unrouted := nofun
      routed := fun call' hcall => ?_ }
  cases hcall
  refine ⟨r, hgives,
    { follows := hrouted.follows hsound
      routed := fun _ => hrouted
      fewer := nofun
      root := State.has_reroute _ _ _
      file := fun target htarget => ?_
      new := fun number hnumber => ?_ }⟩
  · show ((r.opened c.session.files).file? target).isSome = true
    rw [hnow.file?_opened htop', if_pos htarget]
    rfl
  · have hlength : start.journal.pool.length ≤ c.session.journal.pool.length := by
      simpa using h.sinks.length_le
    exact Nat.le_trans hlength (hreplaced.new number hnumber)

theorem step (h : Continues start c) (htop : start.files.top.branchAt? [] = some .directory)
    (event : Event) : Continues start (c.step event) := by
  cases event with
  | message r => exact h.message r
  | fills location => exact h.fills location
  | call call =>
    obtain ⟨result, hends, hstep⟩ := c.exists_ends call
    rw [hstep]
    cases hends with
    | refused _ => exact h.refused
    | stopped hgives hhandlers _ _ =>
      exact h.stopped htop ((Call.gives_iff h.branches htop).mp hgives) hhandlers
    | routed hgives _ => exact h.success htop ((Call.gives_iff h.branches htop).mp hgives)

theorem run (h : Continues start c) (htop : start.files.top.branchAt? [] = some .directory)
    (events : List Event) : Continues start (c.run events) := by
  induction events generalizing c with
  | nil => exact h
  | cons event events ih => exact ih (h.step htop event)

end Continues

-- ---------------------------------------------------------------------------
-- Calls in a run
-- ---------------------------------------------------------------------------

/-- Wherever a call comes in a run, it comes to one of three ends. One that cannot open its file
leaves every logger and every handler as it was. One that finds a handler of the top of the tree
that cannot be closed takes it away with those before it, and leaves the others. Any other routes
the tree to new handlers and closes those of before. Between calls the tree is routed as the last
one that succeeded asks for, and its route depends on nothing else, if and only if no call has
stopped since at a handler. -/
theorem set_up_wholly_unless_stopped (hsound : start.journal.Sound)
    (hfiles : start.files.top.isDirectory = true) (events : List Event)
    (hc : (Course.begin start).run events = c) :
    (∀ (call : Call) fault after,
      setUp call.verbosity call.logFile c.session = .error (.access fault) after →
      (∀ r, ¬ call.Gives start.files r) ∧
        c.session.journal.Unchanged after.journal ∧ after.files = c.session.files) ∧
    (∀ (call : Call) after, setUp call.verbosity call.logFile c.session = .error .noSpace after →
      ∃ before number rest, number ∈ c.session.stuck ∧ (∀ other ∈ before, other ∉ c.session.stuck) ∧
        State.CutShort (before ++ [number]) rest c.session.journal after.journal ∧
        ¬ c.session.journal.Unchanged after.journal) ∧
    (∀ (call : Call) after, setUp call.verbosity call.logFile c.session = .ok () after →
      (∀ number ∈ c.session.journal.top.handlers, number ∉ c.session.stuck) ∧
        ∃ r, call.Gives start.files r ∧
          after.journal.Routed r ∧ c.session.journal.Replaced after.journal) ∧
    ∀ call, c.call = some call →
      ∃ r, (∀ r', call.Gives start.files r' ↔ r' = r) ∧
        (c.session.journal.Routed r ↔ c.stopped = false) := by
  have htop := Files.Item.branchAt?_of_isDirectory hfiles
  have hcourse : Continues start c := hc ▸ (Continues.refl hsound).run htop events
  refine ⟨fun call fault after hsetUp => ?_, fun call after hsetUp => ?_,
    fun call after hsetUp => ?_, fun call hcall => ?_⟩
  · have hends := hsetUp ▸ ends_setUp call c.session
    cases hends with
    | refused hnone =>
      refine ⟨fun r hgives => ?_, State.unchanged_withHandlers _ _, rfl⟩
      exact hnone r ((Call.gives_iff hcourse.branches htop).mpr hgives)
  · have hends := hsetUp ▸ ends_setUp call c.session
    cases hends with
    | @stopped r before rest number hgives hhandlers hbefore hstuck =>
      have hgone : c.session.journal.top.handlers = (before ++ [number]) ++ rest := by
        simp [hhandlers]
      have hcut := State.cutShort_foldl_discard hcourse.sound hgone r.sinks
      exact ⟨before, number, rest, hstuck, hbefore, hcut, hcut.not_unchanged (by simp)⟩
  · have hends := hsetUp ▸ ends_setUp call c.session
    cases hends with
    | routed hgives hfree =>
      exact ⟨hfree, _, (Call.gives_iff hcourse.branches htop).mp hgives,
        State.routed_rerouted hcourse.sound _, State.replaced_rerouted hcourse.sound _⟩
  · obtain ⟨r, hgives, hfollows⟩ := hcourse.routed call hcall
    refine ⟨r, fun r' => ⟨fun h => h.unique hgives, ?_⟩, fun hrouted => ?_, hfollows.routed⟩
    · rintro rfl
      exact hgives
    · cases hstopped : c.stopped with
      | false => rfl
      | true =>
        have hlength := hrouted.length_handlers hcourse.sound
        have hfewer := hfollows.fewer hstopped
        omega

-- ---------------------------------------------------------------------------
-- A call that is refused behind one that is not
-- ---------------------------------------------------------------------------

/-- A directory to work in, with nothing in it. -/
def emptyWork : FileSystem := ⟨.directory [("work", .directory [])], ["work"]⟩

theorem locate_emptyWork {names : List String} {target : Location}
    (hlength : (Files.Path.mk .root names).toString.utf8ByteSize ≤ Files.pathLimit)
    (hnul : '\x00' ∉ (Files.Path.mk .root names).toString.toList)
    (h : Files.Item.Leads emptyWork.top.branchAt? Files.linkLimit [] names target) :
    emptyWork.locate true ⟨.root, names⟩ = .ok target :=
  (FileSystem.locate_eq_ok rfl rfl).mpr ⟨hnul, hlength, h⟩

theorem gives_emptyWork (verbosity : Verbosity) :
    Call.Gives emptyWork ⟨verbosity, some "a.log"⟩
      ⟨.ofVerbosity verbosity, some ["work", "a.log"]⟩ := by
  refine .file (by decide) ⟨?_, by decide⟩
  have hpath : emptyWork.absolute (.ofString "a.log") = ⟨.root, ["work", "a.log"]⟩ := by
    decide +kernel
  rw [hpath]
  refine locate_emptyWork (by decide +kernel) (by decide +kernel) ?_
  exact .down ⟨by decide, by decide, by decide +kernel⟩ rfl
    (.file ⟨by decide, by decide, by decide +kernel⟩ rfl)

/-- The working directory is no file. -/
theorem not_gives_emptyWork (verbosity : Verbosity) (r : Route) :
    ¬ Call.Gives emptyWork ⟨verbosity, some "."⟩ r := by
  intro h
  have hpath : emptyWork.absolute (.ofString ".") = ⟨.root, ["work"]⟩ := by decide +kernel
  have hlocate : emptyWork.locate true ⟨.root, ["work"]⟩ = .ok ["work"] :=
    locate_emptyWork (by decide +kernel) (by decide +kernel)
      (.down ⟨by decide, by decide, by decide +kernel⟩ rfl .arrived)
  cases h with
  | console h => simp at h
  | file _ hopens =>
    rw [hpath, FileSystem.Opens, hlocate] at hopens
    obtain ⟨htarget, hbranch⟩ := hopens
    cases htarget
    exact hbranch rfl

/-- A session in the empty directory that logs in UTF-8. -/
def inEmptyWork (journal : State) (full : List Location) : Session where
  journal := journal
  files := emptyWork
  encode := fun s => s.chars?.map Text.Utf8.encode
  full := full
  stuck := []

/-- One handler, which the top of the tree shares with the logger above it. -/
def shared : Session :=
  inEmptyWork ⟨[⟨.console, .warning, true⟩], [("rustgeiger", ⟨[0], some .info, true⟩)],
    ⟨[0], some .warning, true⟩⟩ []

theorem sound_shared : shared.journal.Sound where
  logger name := by
    have hget : shared.journal.loggers.get? name =
        if "rustgeiger" = name then some ⟨[0], some .info, true⟩ else none := Table.get?_cons _ _ _
    rw [State.logger, hget]
    split
    · decide
    · intro number hmem
      cases hmem
  outer := by decide

def refusedSecond : List Event :=
  [.call ⟨.verbose, some "a.log"⟩, .call ⟨.quiet, some "."⟩]

theorem run_refusedSecond :
    ((Course.begin shared).run refusedSecond).call = some ⟨.verbose, some "a.log"⟩ ∧
      ((Course.begin shared).run refusedSecond).stopped = false := by
  have hgives : Call.Gives (Course.begin shared).session.files _ _ := gives_emptyWork .verbose
  have hfirst := Course.step_of_gives hgives nofun
  have hrun : (Course.begin shared).run refusedSecond =
      ((Course.begin shared).step (.call ⟨.verbose, some "a.log"⟩)).step
        (.call ⟨.quiet, some "."⟩) := rfl
  rw [hrun, hfirst, Course.step_of_not_gives]
  · exact ⟨rfl, rfl⟩
  · intro r hrefused
    exact not_gives_emptyWork .quiet r
      ((Call.gives_iff (hgives.sameBranches_opened rfl) rfl).mp hrefused)

theorem routed_until_a_directory_is_named :
    ((Course.begin shared).run refusedSecond).session.journal.Routed
      ⟨.debug, some ["work", "a.log"]⟩ := by
  obtain ⟨hcall, hstopped⟩ := run_refusedSecond
  obtain ⟨r, hgives, hrouted⟩ :=
    (set_up_wholly_unless_stopped sound_shared rfl refusedSecond rfl).2.2.2 _ hcall
  obtain rfl := (hgives _).mp (gives_emptyWork .verbose)
  exact hrouted.mpr hstopped

-- ---------------------------------------------------------------------------
-- A call that stops
-- ---------------------------------------------------------------------------

/-- The file that is named is full when a message comes. -/
def heldBack : Session :=
  ((Course.begin (inEmptyWork .initial [["work", "a.log"]])).run
    [.call ⟨.normal, some "a.log"⟩, .message ⟨"rustgeiger", .error, "m"⟩]).session

theorem heldBack_eq :
    heldBack = ((inEmptyWork .initial [["work", "a.log"]]).rerouted
      ⟨.warning, some ["work", "a.log"]⟩).log ⟨"rustgeiger", .error, "m"⟩ := by
  have hgives : Call.Gives emptyWork _ _ := gives_emptyWork .normal
  have hstep := Course.step_of_gives
    (c := Course.begin (inEmptyWork .initial [["work", "a.log"]])) hgives nofun
  show (((Course.begin _).step (.call ⟨.normal, some "a.log"⟩)).step (.message _)).session = _
  rw [hstep]
  rfl

/-- The handlers of the call before are gone, and there are no new ones. -/
theorem call_on_a_full_file_takes_handlers_away :
    ∃ after, setUp .normal none heldBack = .error .noSpace after ∧
      heldBack.journal.top.handlers = [0, 1] ∧ after.journal.top.handlers = [] ∧
      ¬ heldBack.journal.Unchanged after.journal := by
  have hhandlers : heldBack.journal.top.handlers = [0] ++ 1 :: [] := by
    rw [heldBack_eq]
    decide +kernel
  have hstuck : heldBack.stuck = [1] := by
    rw [heldBack_eq]
    decide +kernel
  have hsound : ∀ number ∈ heldBack.journal.top.handlers,
      number < heldBack.journal.pool.length := by
    rw [heldBack_eq]
    decide +kernel
  have hgives : Call.Gives heldBack.files ⟨.normal, none⟩ ⟨.warning, none⟩ := .console (Or.inl rfl)
  have hgone : heldBack.journal.top.handlers = ([0] ++ [1]) ++ [] := hhandlers
  have hcut := State.cutShort_foldl_discard hsound hgone [.console]
  refine ⟨_, setUp_of_stuck hgives hhandlers (by simp [hstuck]) (by simp [hstuck]), hhandlers, ?_,
    hcut.not_unchanged (by simp)⟩
  exact congrArg Logger.handlers hcut.top

end UnsafeCensus.Journal
