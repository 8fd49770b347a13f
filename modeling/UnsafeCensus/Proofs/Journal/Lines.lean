import UnsafeCensus.Proofs.Journal.Course
import UnsafeCensus.Proofs.Journal.Lineage

/-!
# Lines of a log file

A file that is logged to holds what it held before, and then a line for each message that came while
the file was in use and that mattered enough, in the order of the messages.
-/

namespace UnsafeCensus.Journal

open Files (FileSystem Location)

variable {start : Session} {c : Course} {call : Call} {r : Route} {record : Record}
  {location : Location} {s : State} {number : Nat}

-- ---------------------------------------------------------------------------
-- Which messages a file gets
-- ---------------------------------------------------------------------------

/-- What lies in a file, nothing if there is no file. -/
def contentAt (files : FileSystem) (location : Location) : List UInt8 :=
  (files.file? location).getD []

/-- Where the file lies that a call names. -/
def Call.target? (files : FileSystem) (call : Call) : Option Location :=
  (call.logFile.filter fun name => !name.isEmpty).bind fun name =>
    (files.locate true (files.absolute (.ofString name))).toOption

/-- After a call the file at a location gets a record. -/
def Call.takes (files : FileSystem) (location : Location) (record : Record) (call : Call) : Bool :=
  call.target? files == some location && record.level.reaches (.ofVerbosity call.verbosity)

/-- The record of an event, if the file at a location gets it by the last call that has succeeded.
-/
def Course.gets (files : FileSystem) (location : Location) (c : Course) : Event → List Record
  | .message record => if c.call.any (·.takes files location record) then [record] else []
  | _ => []

theorem Course.gets_call (files : FileSystem) (location : Location) (c : Course) (call : Call) :
    c.gets files location (.call call) = [] :=
  rfl

/-- The records that the file at a location gets in a course. -/
def Course.received (files : FileSystem) (location : Location) : Course → List Event → List Record
  | _, [] => []
  | c, event :: events =>
    c.gets files location event ++ (c.step event).received files location events

theorem Call.Gives.target?_eq {files : FileSystem} (h : call.Gives files r) :
    call.target? files = r.target := by
  cases h with
  | console hname => rcases hname with rfl | rfl <;> rfl
  | file hname hopens =>
    rw [target?, filter_of_ne_empty hname, Option.bind_some, hopens.1]
    rfl

theorem Level.ofVerbosity_pos (verbosity : Verbosity) : 0 < (ofVerbosity verbosity).weight := by
  cases verbosity <;> decide

-- ---------------------------------------------------------------------------
-- To whom a message is offered
-- ---------------------------------------------------------------------------

theorem State.exists_of_mem_offered {loggers : List Logger} {number : Nat}
    (h : number ∈ offered loggers) : ∃ l ∈ loggers, number ∈ l.handlers := by
  induction loggers with
  | nil => cases h
  | cons l loggers ih =>
    rw [offered, List.mem_append] at h
    rcases h with h | h
    · exact ⟨l, List.mem_cons_self, h⟩
    · split at h
      · obtain ⟨l', hmem, hnumber⟩ := ih h
        exact ⟨l', List.mem_cons_of_mem l hmem, hnumber⟩
      · cases h

/-- A record is offered to handlers of loggers on its way, and of the one outside. -/
theorem Session.exists_of_mem_recipients {s : Session} (h : number ∈ s.recipients record) :
    (∃ n ∈ (s.journal.register record.logger).lineage record.logger,
      number ∈ (s.journal.logger n).handlers) ∨ number ∈ s.journal.outer.handlers := by
  unfold recipients at h
  dsimp only at h
  split at h
  · obtain ⟨l, hl, hnumber⟩ := State.exists_of_mem_offered h
    rcases List.mem_append.mp hl with hl | hl
    · obtain ⟨n, hn, rfl⟩ := List.mem_map.mp hl
      rw [State.logger_register] at hnumber
      exact Or.inl ⟨n, hn, hnumber⟩
    · cases List.mem_singleton.mp hl
      exact Or.inr hnumber
  · cases h

/-- Loggers that leave a message to those above them add their own handlers and nothing else. -/
theorem State.offered_append {first : List Logger} (h : ∀ l ∈ first, l.propagates = true)
    (rest : List Logger) :
    offered (first ++ rest) = first.flatMap (·.handlers) ++ offered rest := by
  induction first with
  | nil => rfl
  | cons l first ih =>
    obtain ⟨hl, hfirst⟩ := List.forall_mem_cons.mp h
    rw [List.cons_append, offered, ih hfirst, if_pos hl, List.flatMap_cons, List.append_assoc]

theorem State.level_append {first : List Logger} (h : ∀ l ∈ first, l.level = none)
    (rest : List Logger) : (first ++ rest).findSome? (·.level) = rest.findSome? (·.level) := by
  rw [List.findSome?_append, List.findSome?_eq_none_iff.mpr h, Option.none_or]

/-- On the way to the top of the tree a record is offered to the handlers of the loggers below, and
then to those of the top. -/
theorem Session.recipients_of_follows {s : Session} (hfollows : s.journal.Follows r)
    (hlevel : 0 < r.level.weight) {below : List String}
    (hlineage : (s.journal.register record.logger).lineage record.logger = below ++ [rootName])
    (hbelow : ∀ n ∈ below,
      (s.journal.logger n).level = none ∧ (s.journal.logger n).propagates = true) :
    s.recipients record =
      if record.level.reaches r.level then
        below.flatMap (fun n => (s.journal.logger n).handlers) ++ s.journal.top.handlers
      else [] := by
  have hpassed : (s.journal.register record.logger).passed record.logger =
      below.map s.journal.logger ++ [s.journal.top, s.journal.outer] := by
    have hlogger : (s.journal.register record.logger).logger = s.journal.logger :=
      funext (State.logger_register _ _)
    rw [State.passed, hlineage, hlogger, List.map_append, List.append_assoc]
    rfl
  have hdefers {l : Logger} (hl : l ∈ below.map s.journal.logger) :
      l.level = none ∧ l.propagates = true := by
    obtain ⟨n, hn, rfl⟩ := List.mem_map.mp hl
    exact hbelow n hn
  have heffective : (s.journal.register record.logger).effectiveLevel record.logger = r.level := by
    rw [State.effectiveLevel, hpassed, State.level_append fun l hl => (hdefers hl).1,
      List.findSome?_cons, hfollows.level]
    rfl
  have hoffered : State.offered ((s.journal.register record.logger).passed record.logger) =
      below.flatMap (fun n => (s.journal.logger n).handlers) ++ s.journal.top.handlers := by
    rw [hpassed, State.offered_append fun l hl => (hdefers hl).2, State.offered,
      hfollows.propagates, if_neg Bool.false_ne_true, List.append_nil, List.flatMap_map]
  unfold recipients
  dsimp only
  rw [hoffered, State.enabled, heffective]
  by_cases hreaches : record.level.reaches r.level = true
  · have hpos : 0 < record.level.weight := by
      have := of_decide_eq_true hreaches
      omega
    rw [hreaches, decide_eq_true hpos]
    rfl
  · rw [Bool.not_eq_true] at hreaches
    rw [hreaches, Bool.and_false]

/-- What comes from a logger below that was never touched is offered to the top alone. -/
theorem Session.recipients_of_isBelow {s : Session} (hfollows : s.journal.Follows r)
    (hroot : s.journal.loggers.has rootName = true) (hlevel : 0 < r.level.weight)
    (hplain : ∀ name, IsBelow name → s.journal.logger name = .plain)
    (hname : record.logger = rootName ∨ IsBelow record.logger) :
    s.recipients record =
      if record.level.reaches r.level then s.journal.top.handlers else [] := by
  obtain ⟨below, hlineage, hbelow⟩ : ∃ below,
      (s.journal.register record.logger).lineage record.logger = below ++ [rootName] ∧
        ∀ n ∈ below, IsBelow n := by
    rcases hname with hname | hname
    · exact ⟨[], by rw [hname, State.lineage_rootName]; rfl, nofun⟩
    · refine State.lineage_of_isBelow ?_ hname
      rw [State.register, State.has_changeLogger, hroot, Bool.or_true]
  have hempty : below.flatMap (fun n => (s.journal.logger n).handlers) = [] := by
    rw [List.flatMap_eq_nil_iff]
    intro n hn
    rw [hplain n (hbelow n hn)]
    rfl
  rw [s.recipients_of_follows hfollows hlevel hlineage, hempty, List.nil_append]
  intro n hn
  rw [hplain n (hbelow n hn)]
  exact ⟨rfl, rfl⟩

namespace Continues

/-- As long as no call has succeeded, messages are offered to handlers that were there before. -/
theorem lt_of_mem_recipients (h : Continues start c) (hsound : start.journal.Sound)
    (hcall : c.call = none) (hmem : number ∈ c.session.recipients record) :
    number < start.journal.pool.length := by
  rcases Session.exists_of_mem_recipients hmem with ⟨name, -, hnumber⟩ | hnumber
  · by_cases hname : name = rootName
    · subst hname
      exact hsound.logger rootName number (h.unrouted hcall number hnumber)
    · exact hsound.logger name number (h.loggers name hname ▸ hnumber)
  · exact hsound.outer number (h.outer ▸ hnumber)

/-- A handler that was there before writes where it did. -/
theorem sink_of_lt (h : Continues start c) (hlt : number < start.journal.pool.length)
    {handler : Handler} (hhandler : c.session.journal.pool[number]? = some handler) :
    ∃ old ∈ start.journal.pool, handler.sink = old.sink := by
  obtain ⟨sinks, hsinks⟩ := h.sinks
  have hsink := congrArg (·[number]?) hsinks
  rw [List.getElem?_append_left (by simpa using hlt), List.getElem?_map, List.getElem?_map,
    List.getElem?_eq_getElem hlt, hhandler] at hsink
  exact ⟨_, List.getElem_mem hlt, (Option.some.inj hsink).symm⟩

end Continues

-- ---------------------------------------------------------------------------
-- Handlers that hold what they could not write
-- ---------------------------------------------------------------------------

/-- Only handlers that were there at first hold something, and those of full files. So if a call has
stopped since the last that has succeeded, the file of the latter is full. -/
structure StuckWhereFull (start : Session) (c : Course) : Prop where
  clogged (number : Nat) (h : number ∈ c.session.stuck) :
    number < start.journal.pool.length ∨ c.session.Clogged number
  stopped (call : Call) (h : c.call = some call) (hstopped : c.stopped = true) :
    ∃ target ∈ c.session.full, call.target? start.files = some target

namespace StuckWhereFull

theorem refl (h : ∀ number ∈ start.stuck, number < start.journal.pool.length) :
    StuckWhereFull start (.begin start) where
  clogged number hnumber := Or.inl (h number hnumber)
  stopped _ h := nomatch h

/-- A handler at the top of the tree that holds something belongs to the route of the last call that
has succeeded, so the file of this call is full. -/
theorem exists_target (hcourse : Continues start c) (h : StuckWhereFull start c)
    (hcall : c.call = some call) (hnumber : number ∈ c.session.journal.top.handlers)
    (hstuck : number ∈ c.session.stuck) :
    ∃ target ∈ c.session.full, call.target? start.files = some target := by
  obtain ⟨r, hgives, hfollows⟩ := hcourse.routed call hcall
  have hnew := hfollows.new number hnumber
  obtain ⟨handler, target, hhandler, hsink, htarget⟩ :=
    (h.clogged number hstuck).resolve_left (Nat.not_lt.mpr hnew)
  obtain ⟨handler', hhandler', hsink', -⟩ := hfollows.follows.handler number hnumber
  cases Option.some.inj (hhandler.symm.trans hhandler')
  refine ⟨target, htarget, ?_⟩
  rw [hgives.target?_eq]
  rw [hsink] at hsink'
  exact Route.file_mem_sinks.mp hsink'

theorem step (hcourse : Continues start c) (h : StuckWhereFull start c) (event : Event) :
    StuckWhereFull start (c.step event) := by
  have hfull {l : Location} (hl : l ∈ c.session.full) : l ∈ (c.step event).session.full := by
    rw [c.full_step event]
    cases event with
    | fills location => exact List.mem_cons_of_mem location hl
    | call call => exact hl
    | message record => exact hl
  have hkept {n : Nat} (hn : n ∈ c.session.stuck) :
      n < start.journal.pool.length ∨ (c.step event).session.Clogged n :=
    (h.clogged n hn).imp_right fun hn => hn.mono (c.sinks_step event) fun _ => hfull
  cases event with
  | message record =>
    refine ⟨fun n hn => ?_, fun call hcall hstopped => ?_⟩
    · rcases Session.stuck_log hn with hn | hn
      · exact hkept hn
      · exact Or.inr (hn.mono (c.sinks_step (.message record)) fun _ => hfull)
    · obtain ⟨target, htarget, heq⟩ := h.stopped call hcall hstopped
      exact ⟨target, hfull htarget, heq⟩
  | fills location =>
    refine ⟨fun n hn => hkept hn, fun call hcall hstopped => ?_⟩
    obtain ⟨target, htarget, heq⟩ := h.stopped call hcall hstopped
    exact ⟨target, hfull htarget, heq⟩
  | call call =>
    obtain ⟨result, hends, hstep⟩ := c.exists_ends call
    rw [hstep] at hfull hkept ⊢
    cases hends with
    | refused _ => exact ⟨fun n hn => hkept hn, h.stopped⟩
    | routed _ _ => exact ⟨fun n hn => hkept hn, fun _ _ => nofun⟩
    | @stopped r before rest number _ hhandlers _ hstuck =>
      have hnumber : number ∈ c.session.journal.top.handlers := by simp [hhandlers]
      refine ⟨fun n hn => hkept (List.mem_filter.mp hn).1, fun call' hcall _ => ?_⟩
      obtain ⟨target, htarget, heq⟩ := h.exists_target hcourse hcall hnumber hstuck
      exact ⟨target, htarget, heq⟩

end StuckWhereFull

-- ---------------------------------------------------------------------------
-- What a file holds after a step
-- ---------------------------------------------------------------------------

theorem contentAt_opened (h : Continues start c)
    (htop : start.files.top.branchAt? [] = some .directory)
    (hgives : call.Gives c.session.files r) (location : Location) :
    contentAt (r.opened c.session.files) location = contentAt c.session.files location := by
  rw [contentAt, hgives.file?_opened ((h.branches.branch []).trans htop)]
  split <;> rfl

theorem contentAt_call (h : Continues start c)
    (htop : start.files.top.branchAt? [] = some .directory) (call : Call) (location : Location) :
    contentAt (c.step (.call call)).session.files location =
      contentAt c.session.files location := by
  obtain ⟨result, hends, hstep⟩ := c.exists_ends call
  rw [hstep]
  cases hends with
  | refused _ => rfl
  | stopped hgives _ _ _ => exact contentAt_opened h htop hgives location
  | routed hgives _ => exact contentAt_opened h htop hgives location

/-- Handlers that write elsewhere write nothing. -/
theorem flatMap_written_eq_nil {handlers : List Handler} (bytes : List UInt8)
    (h : ∀ handler ∈ handlers, handler.sink ≠ .file location) :
    handlers.flatMap (·.written record bytes location) = [] := by
  rw [List.flatMap_eq_nil_iff]
  intro handler hmem
  exact if_neg fun hboth => h handler hmem hboth.1

/-- What is left of a route writes a record once if the route leads to the file, and not at all
otherwise. -/
theorem flatMap_written_handlers (hfollows : c.Follows start r)
    (hwhole : r.target = some location → c.stopped = false)
    (hreaches : record.level.reaches r.level = true) (bytes : List UInt8) :
    c.session.journal.handlers.flatMap (·.written record bytes location) =
      if r.target = some location then bytes else [] := by
  by_cases htarget : r.target = some location
  · rw [(hfollows.routed (hwhole htarget)).handlers, if_pos htarget, Route.sinks, htarget]
    simp [Handler.written, hreaches]
  · rw [if_neg htarget]
    apply flatMap_written_eq_nil
    intro handler hmem hsink
    obtain ⟨number, hnumber, hhandler⟩ := List.mem_filterMap.mp hmem
    obtain ⟨handler', hhandler', hsink', -⟩ := hfollows.follows.handler number hnumber
    cases Option.some.inj (hhandler.symm.trans hhandler')
    rw [hsink] at hsink'
    exact htarget (Route.file_mem_sinks.mp hsink')

theorem contentAt_message (h : Continues start c) (hstuck : StuckWhereFull start c)
    (hsound : start.journal.Sound)
    (hplain : ∀ name, IsBelow name → start.journal.logger name = .plain)
    (helsewhere : ∀ handler ∈ start.journal.pool, handler.sink ≠ .file location)
    (hroom : location ∉ c.session.full)
    (hname : record.logger = rootName ∨ IsBelow record.logger) :
    contentAt (c.step (.message record)).session.files location =
      contentAt c.session.files location ++
        (c.gets start.files location (.message record)).flatMap start.bytes := by
  have hbytes : c.session.bytes record = start.bytes record := by
    rw [Session.bytes, h.encode, Session.bytes]
  show contentAt (c.session.log record).files location = _
  rw [contentAt, Session.file?_log hroom, hbytes, Session.audience]
  cases hcall : c.call with
  | none =>
    rw [flatMap_written_eq_nil, Course.gets, hcall]
    · simp [contentAt]
    · intro handler hmem
      obtain ⟨number, hnumber, hhandler⟩ := List.mem_filterMap.mp hmem
      have hlt := h.lt_of_mem_recipients hsound hcall hnumber
      obtain ⟨old, hold, hsink⟩ := h.sink_of_lt hlt hhandler
      rw [hsink]
      exact helsewhere old hold
  | some call =>
    obtain ⟨r, hgives, hfollows⟩ := h.routed call hcall
    have hbelow (name : String) (hbelow : IsBelow name) :
        c.session.journal.logger name = .plain := by
      rw [h.loggers name (ne_rootName_of_isBelow hbelow)]
      exact hplain name hbelow
    have hwhole (htarget : r.target = some location) : c.stopped = false := by
      rw [Bool.eq_false_iff]
      intro hstopped
      obtain ⟨target, hfull, heq⟩ := hstuck.stopped call hcall hstopped
      rw [hgives.target?_eq, htarget] at heq
      exact hroom (Option.some.inj heq ▸ hfull)
    have hlevel : 0 < r.level.weight := hgives.level_eq ▸ Level.ofVerbosity_pos call.verbosity
    rw [Session.recipients_of_isBelow hfollows.follows hfollows.root hlevel hbelow hname,
      Course.gets, hcall, Option.any_some, Call.takes, hgives.target?_eq, ← hgives.level_eq]
    by_cases hreaches : record.level.reaches r.level = true
    · rw [if_pos hreaches, hreaches, Bool.and_true]
      have hwritten := flatMap_written_handlers hfollows hwhole hreaches (start.bytes record)
      rw [State.handlers] at hwritten
      rw [hwritten]
      by_cases htarget : r.target = some location
      · obtain ⟨bytes, hbytes⟩ := Option.isSome_iff_exists.mp (hfollows.file location htarget)
        simp [contentAt, htarget, hbytes]
      · simp [contentAt, htarget]
    · simp [contentAt, hreaches]

theorem contentAt_run (h : Continues start c) (hstuck : StuckWhereFull start c)
    (hsound : start.journal.Sound) (htop : start.files.top.branchAt? [] = some .directory)
    (hplain : ∀ name, IsBelow name → start.journal.logger name = .plain)
    (helsewhere : ∀ handler ∈ start.journal.pool, handler.sink ≠ .file location)
    (hroom : location ∉ c.session.full) (events : List Event)
    (hfills : .fills location ∉ events)
    (hnames : ∀ record, .message record ∈ events →
      record.logger = rootName ∨ IsBelow record.logger) :
    contentAt (c.run events).session.files location =
      contentAt c.session.files location ++
        (c.received start.files location events).flatMap start.bytes := by
  induction events generalizing c with
  | nil => rw [Course.received, List.flatMap_nil, List.append_nil]; rfl
  | cons event events ih =>
    obtain ⟨hfirst, hrest⟩ := not_or.mp (List.mem_cons.not.mp hfills)
    have hroom' : location ∉ (c.step event).session.full := by
      rw [c.full_step event]
      cases event with
      | fills other =>
        have hother : location ≠ other := fun heq => hfirst (heq ▸ rfl)
        exact List.not_mem_cons_of_ne_of_not_mem hother hroom
      | call call => exact hroom
      | message record => exact hroom
    have hcontent : contentAt (c.step event).session.files location =
        contentAt c.session.files location ++
          (c.gets start.files location event).flatMap start.bytes := by
      cases event with
      | call call => rw [contentAt_call h htop, Course.gets_call]; simp
      | fills other => simp [Course.gets]; rfl
      | message record =>
        exact contentAt_message h hstuck hsound hplain helsewhere hroom
          (hnames record List.mem_cons_self)
    show contentAt ((c.step event).run events).session.files location = _
    rw [ih (h.step htop event) (hstuck.step h event) hroom' hrest
      fun record hmem => hnames record (List.mem_cons_of_mem _ hmem), hcontent, Course.received,
      List.flatMap_append, List.append_assoc]

-- ---------------------------------------------------------------------------
-- Whole runs
-- ---------------------------------------------------------------------------

/-- A file that nothing writes to at first, and that never fills, ends up with what it held, and one
line for each message that came through the top of the tree or a logger below while the last call
that had succeeded named the file, and that had at least the level of this call. Of a message that
cannot be encoded there is no line. -/
theorem file_holds_what_was_logged (hsound : start.journal.Sound)
    (hstuck : ∀ number ∈ start.stuck, number < start.journal.pool.length)
    (hfiles : start.files.top.isDirectory = true)
    (hplain : ∀ name, IsBelow name → start.journal.logger name = .plain)
    (helsewhere : ∀ handler ∈ start.journal.pool, handler.sink ≠ .file location)
    (hroom : location ∉ start.full) (events : List Event) (hfills : .fills location ∉ events)
    (hnames : ∀ record, .message record ∈ events →
      record.logger = rootName ∨ IsBelow record.logger) :
    contentAt ((Course.begin start).run events).session.files location =
      contentAt start.files location ++
        ((Course.begin start).received start.files location events).flatMap fun record =>
          (start.encode record.line).getD [] :=
  contentAt_run (.refl hsound) (.refl hstuck) hsound (Files.Item.branchAt?_of_isDirectory hfiles)
    hplain helsewhere hroom events hfills hnames

/-- A journal with no handlers yet. -/
def fresh : Session := inEmptyWork .initial []

/-- A file is named, and then a message comes. -/
def namedFirst (record : Record) : List Event :=
  [.call ⟨.normal, some "a.log"⟩, .message record]

theorem step_fresh :
    (Course.begin fresh).step (.call ⟨.normal, some "a.log"⟩) =
      ⟨fresh.rerouted ⟨.warning, some ["work", "a.log"]⟩, some ⟨.normal, some "a.log"⟩, false⟩ := by
  have hgives : Call.Gives (Course.begin fresh).session.files _ _ := gives_emptyWork .normal
  exact Course.step_of_gives hgives nofun

theorem received_fresh (record : Record) :
    (Course.begin fresh).received fresh.files ["work", "a.log"] (namedFirst record) =
      if record.level.reaches .warning then [record] else [] := by
  have htarget : Call.target? fresh.files ⟨.normal, some "a.log"⟩ = some ["work", "a.log"] :=
    (gives_emptyWork .normal).target?_eq
  rw [namedFirst, Course.received, Course.received, Course.received, Course.gets_call, step_fresh,
    Course.gets, Option.any_some, Call.takes, htarget, beq_self_eq_true, Bool.true_and,
    List.append_nil]
  rfl

theorem a_line_behind_one_dot :
    contentAt ((Course.begin fresh).run (namedFirst ⟨"rustgeiger.api", .error, "m"⟩)).session.files
        ["work", "a.log"] =
      Text.Utf8.encode "<time> - rustgeiger.api - ERROR - m\n".toList := by
  have hsound : fresh.journal.Sound := ⟨fun _ => nofun, nofun⟩
  have hbelow : IsBelow "rustgeiger.api" := ⟨"api".toList, by decide +kernel, by decide +kernel⟩
  rw [file_holds_what_was_logged hsound nofun rfl (fun _ _ => rfl) nofun nofun, received_fresh]
  · decide +kernel
  · simp [namedFirst]
  · intro record hmem
    simp only [namedFirst, List.mem_cons, Event.message.injEq, reduceCtorEq, List.not_mem_nil,
      false_or, or_false] at hmem
    exact Or.inr (hmem ▸ hbelow)

/-- The first message matters and its logger was never touched, but its parent is outside of the
tree. The second comes through a logger of the tree, but is no text that could be written. -/
theorem lines_are_missing :
    (rootName ++ ".").toList <+: "rustgeiger..x".toList ∧
      fresh.journal.logger "rustgeiger..x" = .plain ∧
      IsBelow "rustgeiger.api" ∧ fresh.journal.logger "rustgeiger.api" = .plain ∧
      ∀ record ∈ [Record.mk "rustgeiger..x" .error "m",
          Record.mk "rustgeiger.api" .error [.surrogate 0]],
        (Course.begin fresh).received fresh.files ["work", "a.log"] (namedFirst record) = [record] ∧
          contentAt ((Course.begin fresh).run (namedFirst record)).session.files
            ["work", "a.log"] = [] := by
  have hbelow : IsBelow "rustgeiger.api" := ⟨"api".toList, by decide +kernel, by decide +kernel⟩
  refine ⟨by decide +kernel, rfl, hbelow, rfl, fun record hmem => ⟨?_, ?_⟩⟩
  · rw [received_fresh, if_pos]
    rcases List.mem_pair.mp hmem with rfl | rfl <;> decide +kernel
  · show contentAt (((Course.begin fresh).step (.call ⟨.normal, some "a.log"⟩)).session.log
      record).files _ = _
    rw [step_fresh, contentAt, Session.file?_log (by decide)]
    rcases List.mem_pair.mp hmem with rfl | rfl <;> decide +kernel

end UnsafeCensus.Journal
