import UnsafeCensus.Journal.Session
import UnsafeCensus.Proofs.Files.Opening
import UnsafeCensus.Proofs.Journal.Changes

/-!
# Setting up

A call that cannot open its file fails before it touches a logger. Any other takes the handlers of
the top of the tree away, one after the other. It stops at the first that cannot be closed, with the
handlers behind it left; if there is none, it gives the top its own handlers. The other loggers it
leaves as they are.
-/

namespace UnsafeCensus.Journal

-- ---------------------------------------------------------------------------
-- Calls and routes
-- ---------------------------------------------------------------------------

/-- What a call of `setUp` asks for. -/
structure Call where
  verbosity : Verbosity
  logFile : Option String
deriving DecidableEq

/-- Where the tree is routed: at a level, to the console and perhaps to a file. -/
structure Route where
  level : Level
  target : Option Files.Location
deriving DecidableEq

namespace Route

def sinks (r : Route) : List Sink :=
  .console :: r.target.toList.map .file

theorem file_mem_sinks {r : Route} {target : Files.Location} :
    .file target ∈ r.sinks ↔ r.target = some target := by
  simp [sinks, eq_comm]

/-- The files once the file of the route is there. -/
def opened (r : Route) (files : Files.FileSystem) : Files.FileSystem :=
  match r.target with
  | some target => files.withFile target
  | none => files

end Route

/-- The route that a call gives, where the file that it names can be opened. An empty name is no
name. -/
inductive Call.Gives (files : Files.FileSystem) : Call → Route → Prop
  | console {verbosity : Verbosity} {logFile : Option String}
      (h : logFile = none ∨ logFile = some "") :
      Gives files ⟨verbosity, logFile⟩ ⟨.ofVerbosity verbosity, none⟩
  | file {verbosity : Verbosity} {name : String} {target : Files.Location} (h : name ≠ "")
      (hopens : files.Opens (files.absolute (.ofString name)) target) :
      Gives files ⟨verbosity, some name⟩ ⟨.ofVerbosity verbosity, some target⟩

theorem Call.Gives.level_eq {files : Files.FileSystem} {call : Call} {r : Route}
    (h : call.Gives files r) : r.level = .ofVerbosity call.verbosity := by
  cases h <;> rfl

theorem Call.Gives.unique {files : Files.FileSystem} {call : Call} {r r' : Route}
    (h : call.Gives files r) (h' : call.Gives files r') : r = r' := by
  cases h with
  | console hname =>
    cases h' with
    | console _ => rfl
    | file hne _ =>
      rcases hname with hname | hname
      · cases hname
      · exact absurd (Option.some.inj hname) hne
  | file hne hopens =>
    cases h' with
    | console hname =>
      rcases hname with hname | hname
      · cases hname
      · exact absurd (Option.some.inj hname) hne
    | file _ hopens' =>
      have htarget := hopens.1.symm.trans hopens'.1
      rw [Except.ok.inj htarget]

-- ---------------------------------------------------------------------------
-- What a call leaves
-- ---------------------------------------------------------------------------

namespace State

variable {s : State} {number : Nat}

/-- No logger has changed, and no handler that there was. -/
structure Unchanged (s s' : State) : Prop where
  loggers : s'.loggers = s.loggers
  outer : s'.outer = s.outer
  pool (number : Nat) (h : number < s.pool.length) : s'.pool[number]? = s.pool[number]?

/-- The handlers of the top of the tree are new, those that it had are closed, and neither another
logger nor another handler has changed. -/
structure Replaced (s s' : State) : Prop where
  new (number : Nat) (h : number ∈ s'.top.handlers) : s.pool.length ≤ number
  closed (number : Nat) (h : number ∈ s.top.handlers) :
    s'.pool[number]? = s.pool[number]?.map Handler.closed
  kept (number : Nat) (h : number < s.pool.length) (hother : number ∉ s.top.handlers) :
    s'.pool[number]? = s.pool[number]?
  elsewhere : SameElsewhere s s'

/-- The first handlers of the top of the tree are gone and closed, those behind them are left, and
neither another logger nor another handler has changed. -/
structure CutShort (gone rest : List Nat) (s s' : State) : Prop where
  handlers : s.top.handlers = gone ++ rest
  top : s'.top = { s.top with handlers := rest }
  closed (number : Nat) (h : number ∈ gone) :
    s'.pool[number]? = s.pool[number]?.map Handler.closed
  kept (number : Nat) (h : number < s.pool.length) (hother : number ∉ gone) :
    s'.pool[number]? = s.pool[number]?
  elsewhere : SameElsewhere s s'

/-- The tree is routed so, and not further. -/
structure Routed (r : Route) (s : State) : Prop where
  handlers : s.handlers = r.sinks.map fun sink => ⟨sink, r.level, true⟩
  level : s.top.level = some r.level
  propagates : s.top.propagates = false

/-- The tree is routed to nothing but this, perhaps to less. -/
structure Follows (r : Route) (s : State) : Prop where
  handler (number : Nat) (h : number ∈ s.top.handlers) :
    ∃ h, s.pool[number]? = some h ∧ h.sink ∈ r.sinks ∧ h.level = r.level
  level : s.top.level = some r.level
  propagates : s.top.propagates = false

theorem unchanged_withHandlers (s : State) (sinks : List Sink) :
    Unchanged s (s.withHandlers sinks) where
  loggers := rfl
  outer := rfl
  pool _ h := List.getElem?_append_left h

theorem CutShort.not_unchanged {gone rest : List Nat} {s' : State} (h : CutShort gone rest s s')
    (hgone : gone ≠ []) : ¬ Unchanged s s' := by
  intro hsame
  have htop : s'.top = s.top := by rw [State.top, logger, hsame.loggers, State.top, logger]
  have hhandlers := congrArg Logger.handlers (h.top.symm.trans htop)
  rw [h.handlers] at hhandlers
  exact hgone (List.self_eq_append_left.mp hhandlers)

theorem Routed.follows {r : Route} (h : s.Routed r)
    (hsound : ∀ number ∈ s.top.handlers, number < s.pool.length) : s.Follows r where
  handler number hnumber := by
    obtain ⟨handler, hhandler⟩ : ∃ handler, s.pool[number]? = some handler :=
      ⟨_, List.getElem?_eq_getElem (hsound number hnumber)⟩
    have hmem : handler ∈ s.handlers := List.mem_filterMap.mpr ⟨number, hnumber, hhandler⟩
    rw [h.handlers] at hmem
    obtain ⟨sink, hsink, heq⟩ := List.mem_map.mp hmem
    exact ⟨_, hhandler, heq ▸ hsink, heq ▸ rfl⟩
  level := h.level
  propagates := h.propagates

theorem Routed.length_handlers {r : Route} (h : s.Routed r)
    (hsound : ∀ number ∈ s.top.handlers, number < s.pool.length) :
    s.top.handlers.length = r.sinks.length := by
  have hlength : s.handlers.length = s.top.handlers.length :=
    List.filterMap_length_eq_length.mpr fun number hnumber => by simpa using hsound number hnumber
  rw [← hlength, h.handlers, List.length_map]

theorem Follows.cutShort {r : Route} {gone rest : List Nat} {s' : State} (h : s.Follows r)
    (hsound : ∀ number ∈ s.top.handlers, number < s.pool.length) (hcut : CutShort gone rest s s') :
    s'.Follows r where
  handler number hnumber := by
    rw [hcut.top] at hnumber
    have hold : number ∈ s.top.handlers := hcut.handlers ▸ List.mem_append_right gone hnumber
    obtain ⟨handler, hhandler, hsink, hlevel⟩ := h.handler number hold
    by_cases hgone : number ∈ gone
    · refine ⟨handler.closed, ?_, hsink, hlevel⟩
      rw [hcut.closed number hgone, hhandler]
      rfl
    · refine ⟨handler, ?_, hsink, hlevel⟩
      rw [hcut.kept number (hsound number hold) hgone, hhandler]
  level := by rw [hcut.top]; exact h.level
  propagates := by rw [hcut.top]; exact h.propagates

/-- A route is a matter of the top of the tree and of its handlers. -/
theorem Routed.congr {r : Route} {s' : State} (h : s.Routed r) (htop : s'.top = s.top)
    (hpool : ∀ number ∈ s.top.handlers, s'.pool[number]? = s.pool[number]?) : s'.Routed r where
  handlers := by
    rw [State.handlers, htop, ← h.handlers]
    exact List.filterMap_congr hpool
  level := htop ▸ h.level
  propagates := htop ▸ h.propagates

theorem Follows.congr {r : Route} {s' : State} (h : s.Follows r) (htop : s'.top = s.top)
    (hpool : ∀ number ∈ s.top.handlers, s'.pool[number]? = s.pool[number]?) : s'.Follows r where
  handler number hnumber := by
    rw [htop] at hnumber
    rw [hpool number hnumber]
    exact h.handler number hnumber
  level := htop ▸ h.level
  propagates := htop ▸ h.propagates

/-- The state with the tree on a route, to handlers that are made for it. -/
def rerouted (s : State) (r : Route) : State :=
  (s.withHandlers r.sinks).reroute r.level (s.newNumbers r.sinks)

theorem top_rerouted (s : State) (r : Route) :
    (s.rerouted r).top = ⟨s.newNumbers r.sinks, some r.level, false⟩ :=
  top_reroute r.level (nodup_newNumbers s r.sinks) _

theorem sinks_rerouted (s : State) (r : Route) :
    (s.rerouted r).pool.map (·.sink) = s.pool.map (·.sink) ++ r.sinks := by
  rw [rerouted, sinks_reroute, sinks_withHandlers]

theorem pool_rerouted_old (r : Route) (h : number < s.pool.length) :
    (s.rerouted r).pool[number]? =
      s.pool[number]?.map fun h => if number ∈ s.top.handlers then h.closed else h := by
  have hold : number ∉ s.newNumbers r.sinks := fun hmem => by
    have := (mem_newNumbers.mp hmem).1
    omega
  rw [rerouted, pool_reroute, (unchanged_withHandlers s r.sinks).pool number h]
  simp only [if_neg hold]
  rfl

theorem pool_rerouted_new (hsound : ∀ number ∈ s.top.handlers, number < s.pool.length)
    (r : Route) {i : Nat} (h : i < r.sinks.length) :
    (s.rerouted r).pool[s.pool.length + i]? =
      r.sinks[i]?.map fun sink => ⟨sink, r.level, true⟩ := by
  have hnew : s.pool.length + i ∈ s.newNumbers r.sinks :=
    mem_newNumbers.mpr ⟨Nat.le_add_right _ _, Nat.add_lt_add_left h _⟩
  have hold : s.pool.length + i ∉ (s.withHandlers r.sinks).top.handlers := by
    intro hmem
    have := hsound _ hmem
    omega
  rw [rerouted, pool_reroute, pool_withHandlers, Option.map_map]
  simp only [if_pos hnew, if_neg hold]
  rfl

theorem replaced_rerouted (hsound : ∀ number ∈ s.top.handlers, number < s.pool.length)
    (r : Route) : Replaced s (s.rerouted r) where
  new number h := by
    rw [top_rerouted] at h
    exact (mem_newNumbers.mp h).1
  closed number h := by
    rw [pool_rerouted_old r (hsound number h)]
    simp only [if_pos h]
  kept number h hother := by
    rw [pool_rerouted_old r h]
    simp only [if_neg hother, Option.map_id']
  elsewhere :=
    have h := sameElsewhere_reroute r.level (s.newNumbers r.sinks) (s.withHandlers r.sinks)
    ⟨h.loggers, h.outer⟩

theorem routed_rerouted (hsound : ∀ number ∈ s.top.handlers, number < s.pool.length)
    (r : Route) : (s.rerouted r).Routed r where
  handlers := by
    have hlength : r.sinks.length = (r.sinks.map fun sink => Handler.mk sink r.level true).length :=
      (List.length_map _).symm
    rw [handlers, top_rerouted]
    show (List.range' s.pool.length r.sinks.length).filterMap _ = _
    rw [hlength]
    refine filterMap_range' fun i hi => ?_
    rw [List.length_map] at hi
    rw [pool_rerouted_new hsound r hi, List.getElem?_map]
  level := by rw [top_rerouted]
  propagates := by rw [top_rerouted]

theorem cutShort_foldl_discard (hsound : ∀ number ∈ s.top.handlers, number < s.pool.length)
    {gone rest : List Nat} (h : s.top.handlers = gone ++ rest) (sinks : List Sink) :
    CutShort gone rest s (gone.foldl discard (s.withHandlers sinks)) where
  handlers := h
  top := top_foldl_discard gone (s.withHandlers sinks) h
  closed number hgone := by
    have hlt := hsound number (h ▸ List.mem_append_left rest hgone)
    rw [pool_foldl_discard, (unchanged_withHandlers s sinks).pool number hlt]
    simp only [if_pos hgone]
  kept number hlt hother := by
    rw [pool_foldl_discard, (unchanged_withHandlers s sinks).pool number hlt]
    simp only [if_neg hother, Option.map_id']
  elsewhere :=
    have h := SameElsewhere.foldl sameElsewhere_discard gone (s.withHandlers sinks)
    ⟨h.loggers, h.outer⟩

end State

namespace Session

/-- The session with handlers made for a route, which belong to no logger yet. -/
def prepared (s : Session) (r : Route) : Session :=
  { s with journal := s.journal.withHandlers r.sinks, files := r.opened s.files }

/-- What a call leaves that gives a route and closes all handlers. -/
def rerouted (s : Session) (r : Route) : Session :=
  { s with journal := s.journal.rerouted r, files := r.opened s.files }

/-- What a call leaves that opens no file: a handler that belongs to no logger. -/
def refused (s : Session) : Session :=
  { s with journal := s.journal.withHandlers [.console] }

/-- What is left when handlers have been taken from the top of the tree. -/
def without (s : Session) (numbers : List Nat) : Session :=
  { s with
    journal := numbers.foldl State.discard s.journal
    stuck := s.stuck.filter (· ∉ numbers) }

theorem without_cons (s : Session) (number : Nat) (numbers : List Nat) :
    s.without (number :: numbers) = (s.without [number]).without numbers := by
  simp [without, Bool.and_comm]

theorem sinks_without (s : Session) (numbers : List Nat) :
    (s.without numbers).journal.pool.map (·.sink) = s.journal.pool.map (·.sink) :=
  State.sinks_foldl_discard numbers s.journal

theorem without_of_free {s : Session} {numbers : List Nat}
    (h : ∀ number ∈ numbers, number ∉ s.stuck) :
    s.without numbers = { s with journal := numbers.foldl State.discard s.journal } := by
  have hstuck : s.stuck.filter (· ∉ numbers) = s.stuck := by
    rw [List.filter_eq_self]
    intro number hnumber
    exact decide_eq_true fun hmem => h number hmem hnumber
  rw [without, hstuck]

end Session

-- ---------------------------------------------------------------------------
-- Both ends of a call
-- ---------------------------------------------------------------------------

variable {α β : Type} {s s' after : Session} {x : Action α} {f : α → Action β} {a : α}
  {e : Trouble} {verbosity : Verbosity} {logFile : Option String} {name : String} {r : Route}
  {number : Nat} {before numbers rest : List Nat}

theorem bind_of_ok (h : x s = .ok a s') : (x >>= f) s = f a s' := by
  show EStateM.bind x f s = _
  unfold EStateM.bind
  simp only [h]

theorem bind_of_error (h : x s = .error e s') : (x >>= f) s = .error e s' := by
  show EStateM.bind x f s = _
  unfold EStateM.bind
  simp only [h]

theorem make_eq (sink : Sink) (s : Session) :
    make sink s = .ok s.journal.pool.length { s with journal := s.journal.withHandlers [sink] } :=
  rfl

theorem openLog_eq (name : String) (s : Session) :
    openLog name s =
      match s.files.openForAppend (s.files.absolute (.ofString name)) with
      | .ok opened => .ok opened.2 { s with files := opened.1 }
      | .error e => .error (.access e) s := by
  unfold openLog
  cases s.files.openForAppend (s.files.absolute (.ofString name)) <;> rfl

theorem filter_of_ne_empty (h : name ≠ "") :
    (some name).filter (fun name => !name.isEmpty) = some name := by
  have hempty : name.isEmpty = false :=
    Bool.eq_false_iff.mpr fun hempty => h (String.isEmpty_iff.mp hempty)
  rw [Option.filter_some, hempty]
  rfl

/-- The file is opened once there is a handler for the console. -/
theorem makeHandlers_named (h : name ≠ "") (s : Session) :
    makeHandlers (some name) s =
      match s.files.openForAppend (s.files.absolute (.ofString name)) with
      | .ok opened =>
        .ok (s.journal.newNumbers [.console, .file opened.2])
          { s with
            journal := s.journal.withHandlers [.console, .file opened.2]
            files := opened.1 }
      | .error e => .error (.access e) s.refused := by
  unfold makeHandlers
  rw [filter_of_ne_empty h, bind_of_ok (make_eq .console s)]
  show (openLog name >>= _) _ = _
  have hopen := openLog_eq name { s with journal := s.journal.withHandlers [.console] }
  dsimp only at hopen
  cases hopened : s.files.openForAppend (s.files.absolute (.ofString name)) with
  | error e =>
    simp only [hopened] at hopen
    rw [bind_of_error hopen]
    rfl
  | ok opened =>
    simp only [hopened] at hopen
    rw [bind_of_ok hopen, bind_of_ok (make_eq (.file opened.2) _)]
    have hboth : (s.journal.withHandlers [.console]).withHandlers [.file opened.2] =
        s.journal.withHandlers [.console, .file opened.2] :=
      s.journal.withHandlers_append [.console] [.file opened.2]
    have hnumber : (s.journal.withHandlers [.console]).pool.length = s.journal.pool.length + 1 :=
      List.length_append
    show EStateM.Result.ok [_, (s.journal.withHandlers [.console]).pool.length] _ = _
    rw [hboth, hnumber]
    rfl

theorem makeHandlers_unnamed (h : logFile = none ∨ logFile = some "") (s : Session) :
    makeHandlers logFile s =
      .ok (s.journal.newNumbers [.console])
        { s with journal := s.journal.withHandlers [.console] } := by
  rcases h with rfl | rfl <;> rfl

theorem makeHandlers_of_gives (h : Call.Gives s.files ⟨verbosity, logFile⟩ r) :
    makeHandlers logFile s = .ok (s.journal.newNumbers r.sinks) (s.prepared r) := by
  cases h with
  | console h => exact makeHandlers_unnamed h s
  | file h hopens =>
    rw [makeHandlers_named h, Files.FileSystem.openForAppend_eq_ok.mpr ⟨hopens, rfl⟩]
    rfl

/-- A call that gives no route fails before it has changed more than that there is a handler. -/
theorem gives_or_makeHandlers_eq_error (s : Session) (verbosity : Verbosity)
    (logFile : Option String) :
    (∃ r, Call.Gives s.files ⟨verbosity, logFile⟩ r) ∨
      ∃ e, makeHandlers logFile s = .error (.access e) s.refused := by
  by_cases hnone : logFile = none ∨ logFile = some ""
  · exact Or.inl ⟨_, .console hnone⟩
  obtain ⟨name, rfl⟩ := Option.ne_none_iff_exists'.mp fun h => hnone (Or.inl h)
  have hname : name ≠ "" := fun h => hnone (Or.inr (congrArg some h))
  have hmake := makeHandlers_named hname s
  cases hopened : s.files.openForAppend (s.files.absolute (.ofString name)) with
  | error e =>
    rw [hopened] at hmake
    exact Or.inr ⟨e, hmake⟩
  | ok opened =>
    exact Or.inl ⟨_, .file hname (Files.FileSystem.openForAppend_eq_ok.mp hopened).1⟩

theorem discard_of_free (h : number ∉ s.stuck) :
    discard number s = .ok () (s.without [number]) := by
  have hcontains : s.stuck.contains number = false := by simpa using h
  unfold discard
  rw [hcontains]
  simp [Session.without]
  rfl

theorem discard_of_stuck (h : number ∈ s.stuck) :
    discard number s = .error .noSpace (s.without [number]) := by
  have hcontains : s.stuck.contains number = true := by simpa using h
  unfold discard
  rw [hcontains]
  simp [Session.without]
  rfl

theorem forM_discard_cons (number : Nat) (numbers : List Nat) (s : Session) :
    (number :: numbers).forM discard s = (discard number >>= fun _ => numbers.forM discard) s :=
  rfl

theorem forM_discard_of_free (h : ∀ number ∈ numbers, number ∉ s.stuck) :
    numbers.forM discard s = .ok () (s.without numbers) := by
  induction numbers generalizing s with
  | nil => simp [Session.without]; rfl
  | cons number numbers ih =>
    obtain ⟨hfirst, hrest⟩ := List.forall_mem_cons.mp h
    rw [forM_discard_cons, bind_of_ok (discard_of_free hfirst), ih, ← Session.without_cons]
    intro other hother hstuck
    exact hrest other hother (List.mem_filter.mp hstuck).1

/-- The handlers before the first that cannot be closed are gone with it. -/
theorem forM_discard_of_stuck (hbefore : ∀ other ∈ before, other ∉ s.stuck)
    (h : number ∈ s.stuck) :
    (before ++ number :: rest).forM discard s =
      .error .noSpace (s.without (before ++ [number])) := by
  induction before generalizing s with
  | nil => rw [List.nil_append, forM_discard_cons, bind_of_error (discard_of_stuck h)]; rfl
  | cons first before ih =>
    obtain ⟨hfirst, hbefore⟩ := List.forall_mem_cons.mp hbefore
    rw [List.cons_append, forM_discard_cons, bind_of_ok (discard_of_free hfirst), ih,
      List.cons_append, s.without_cons first (before ++ [number])]
    · intro other hother hstuck
      exact hbefore other hother (List.mem_filter.mp hstuck).1
    · refine List.mem_filter.mpr ⟨h, ?_⟩
      have hne : number ≠ first := by
        rintro rfl
        exact hfirst h
      simpa using hne

/-- What a call comes to. Its file cannot be opened, or one of the handlers before it cannot be
closed, or it routes the tree anew. -/
inductive Call.Ends (call : Call) (s : Session) : EStateM.Result Trouble Session Unit → Prop
  | refused {fault : Files.AccessFault} (h : ∀ r, ¬ call.Gives s.files r) :
      Ends call s (.error (.access fault) s.refused)
  | stopped {r : Route} {before rest : List Nat} {number : Nat} (hgives : call.Gives s.files r)
      (hhandlers : s.journal.top.handlers = before ++ number :: rest)
      (hbefore : ∀ other ∈ before, other ∉ s.stuck) (hstuck : number ∈ s.stuck) :
      Ends call s (.error .noSpace ((s.prepared r).without (before ++ [number])))
  | routed {r : Route} (hgives : call.Gives s.files r)
      (hfree : ∀ number ∈ s.journal.top.handlers, number ∉ s.stuck) :
      Ends call s (.ok () (s.rerouted r))

theorem setUp_of_gives (hgives : Call.Gives s.files ⟨verbosity, logFile⟩ r)
    (hfree : ∀ number ∈ s.journal.top.handlers, number ∉ s.stuck) :
    setUp verbosity logFile s = .ok () (s.rerouted r) := by
  have hclosed : (s.journal.top.handlers.forM discard) (s.prepared r) =
      .ok () ((s.prepared r).without s.journal.top.handlers) := forM_discard_of_free hfree
  have hwithout := Session.without_of_free (s := s.prepared r) hfree
  unfold setUp
  rw [bind_of_ok (makeHandlers_of_gives hgives)]
  show ((s.journal.top.handlers.forM discard) >>= _) (s.prepared r) = _
  rw [bind_of_ok hclosed, hwithout, Session.rerouted, State.rerouted, hgives.level_eq]
  rfl

theorem setUp_of_stuck (hgives : Call.Gives s.files ⟨verbosity, logFile⟩ r)
    (hhandlers : s.journal.top.handlers = before ++ number :: rest)
    (hbefore : ∀ other ∈ before, other ∉ s.stuck) (hstuck : number ∈ s.stuck) :
    setUp verbosity logFile s = .error .noSpace ((s.prepared r).without (before ++ [number])) := by
  have hstop : (s.journal.top.handlers.forM discard) (s.prepared r) =
      .error .noSpace ((s.prepared r).without (before ++ [number])) := by
    rw [hhandlers]
    exact forM_discard_of_stuck hbefore hstuck
  unfold setUp
  rw [bind_of_ok (makeHandlers_of_gives hgives)]
  show ((s.journal.top.handlers.forM discard) >>= _) (s.prepared r) = _
  exact bind_of_error hstop

theorem ends_setUp (call : Call) (s : Session) :
    call.Ends s (setUp call.verbosity call.logFile s) := by
  rcases gives_or_makeHandlers_eq_error s call.verbosity call.logFile with ⟨r, hgives⟩ | ⟨e, hmake⟩
  · cases hfound : s.journal.top.handlers.find? (· ∈ s.stuck) with
    | none =>
      have hfree : ∀ number ∈ s.journal.top.handlers, number ∉ s.stuck := by
        simpa using hfound
      rw [setUp_of_gives hgives hfree]
      exact .routed hgives hfree
    | some number =>
      obtain ⟨hstuck, before, rest, hhandlers, hbefore⟩ := List.find?_eq_some_iff_append.mp hfound
      have hstuck : number ∈ s.stuck := by simpa using hstuck
      have hbefore : ∀ other ∈ before, other ∉ s.stuck := by simpa using hbefore
      rw [setUp_of_stuck hgives hhandlers hbefore hstuck]
      exact .stopped hgives hhandlers hbefore hstuck
  · have hsetUp : setUp call.verbosity call.logFile s = .error (.access e) s.refused := by
      unfold setUp
      exact bind_of_error hmake
    rw [hsetUp]
    refine .refused fun r hgives => ?_
    rw [makeHandlers_of_gives hgives] at hmake
    cases hmake

end UnsafeCensus.Journal
