import UnsafeCensus.Proofs.Journal.Lines

/-!
# Which loggers are routed

What is logged through a name comes to the handlers of the top of the tree if the loggers above the
name lead there. For which names they always do, whatever other loggers there are, is said of the
name that was asked for: `Fits`.
-/

namespace UnsafeCensus.Journal

variable {start : Session} {c : Course} {call : Call} {r : Route} {s : State} {name above : String}
  {number : Nat}

-- ---------------------------------------------------------------------------
-- Names in the tree
-- ---------------------------------------------------------------------------

/-- The name at the top of the tree, or one that goes on from it with a dot. -/
def InTree (name : String) : Prop :=
  name = rootName ∨ ∃ rest : List Char, name.toList = rootName.toList ++ '.' :: rest

/-- Names of which the logger always stands in the tree. One that begins like the top has to go on
with a dot, but not with two of them; any other must not begin with a dot. -/
def Fits : Option String → Prop
  | none => True
  | some name =>
    name = rootName ∨ IsBelow name ∨
      ¬ rootName.toList <+: name.toList ∧ name.toList.head? ≠ some '.'

theorem IsBelow.inTree (h : IsBelow name) : InTree name := by
  obtain ⟨rest, hname, -⟩ := h
  exact Or.inr ⟨rest, hname⟩

theorem InTree.isPrefix (h : InTree name) : rootName.toList <+: name.toList := by
  rcases h with rfl | ⟨rest, hname⟩
  · exact List.prefix_rfl
  · simp [hname]

theorem fullName_of_isPrefix (h : rootName.toList <+: name.toList) :
    fullName (some name) = name := by
  simp [fullName, h]

theorem toList_fullName_of_not_isPrefix (h : ¬ rootName.toList <+: name.toList) :
    (fullName (some name)).toList = rootName.toList ++ '.' :: name.toList := by
  simp [fullName, h]

theorem ne_rootName_of_toList_eq {rest : List Char}
    (h : name.toList = rootName.toList ++ '.' :: rest) : name ≠ rootName := by
  rintro rfl
  simp at h

theorem isBelow_iff {rest : List Char} (h : name.toList = rootName.toList ++ '.' :: rest) :
    IsBelow name ↔ rest.head? ≠ some '.' := by
  constructor
  · rintro ⟨rest', hname, hhead⟩
    rw [h, List.append_cancel_left_eq, List.cons.injEq] at hname
    exact hname.2 ▸ hhead
  · exact fun hhead => ⟨rest, h, hhead⟩

/-- A name is put into the tree unless it begins like the top and does not go on with a dot. -/
theorem inTree_fullName_iff (name : Option String) :
    InTree (fullName name) ↔ ∀ n, name = some n → rootName.toList <+: n.toList → InTree n := by
  cases name with
  | none => simp [fullName, InTree]
  | some n =>
    by_cases hprefix : rootName.toList <+: n.toList
    · simp [fullName_of_isPrefix hprefix, hprefix]
    · have hin : InTree (fullName (some n)) :=
        Or.inr ⟨n.toList, toList_fullName_of_not_isPrefix hprefix⟩
      simp [hin, hprefix]

theorem fits_iff (name : Option String) :
    Fits name ↔ fullName name = rootName ∨ IsBelow (fullName name) := by
  cases name with
  | none => simp [Fits, fullName]
  | some n =>
    by_cases hprefix : rootName.toList <+: n.toList
    · simp [Fits, fullName_of_isPrefix hprefix, hprefix]
    · have hfull := toList_fullName_of_not_isPrefix hprefix
      have hne : n ≠ rootName := fun h => hprefix (h ▸ List.prefix_rfl)
      have hbelow : ¬ IsBelow n := fun h => hprefix h.inTree.isPrefix
      simp [Fits, hprefix, hne, hbelow, ne_rootName_of_toList_eq hfull, isBelow_iff hfull]

-- ---------------------------------------------------------------------------
-- Names above
-- ---------------------------------------------------------------------------

theorem exists_of_mem_cuts {l m : List Char} (h : m ∈ cuts l) : ∃ front, l = front ++ '.' :: m := by
  induction l using cuts.induct with
  | case1 c rest ih =>
    rw [cuts] at h
    rcases List.mem_cons.mp h with rfl | h
    · exact ⟨[], rfl⟩
    · obtain ⟨front, rfl⟩ := ih h
      exact ⟨'.' :: c :: front, rfl⟩
  | case2 c rest hdot ih =>
    rw [cuts] at h
    · obtain ⟨front, rfl⟩ := ih h
      exact ⟨c :: front, rfl⟩
    · exact hdot
  | case3 => cases h

/-- What stands above a name, a dot, and more. -/
theorem exists_of_mem_namesAbove (h : above ∈ namesAbove name) :
    ∃ rest, name.toList = above.toList ++ '.' :: rest := by
  obtain ⟨c, hc, rfl⟩ := List.mem_map.mp h
  obtain ⟨front, hfront⟩ := exists_of_mem_cuts hc
  refine ⟨front.reverse, ?_⟩
  have hname := congrArg List.reverse hfront
  simpa using hname

theorem InTree.of_mem_namesAbove (hin : InTree above) (h : above ∈ namesAbove name) :
    InTree name := by
  obtain ⟨rest, hname⟩ := exists_of_mem_namesAbove h
  rcases hin with rfl | ⟨rest', habove⟩
  · exact Or.inr ⟨rest, hname⟩
  · refine Or.inr ⟨rest' ++ '.' :: rest, ?_⟩
    simp [hname, habove]

/-- Behind two dots that follow a last name, one of them or both belong to what stands above, and
the last name stands above only behind what ends with both. -/
theorem cuts_of_two_dots {top : List Char} (htop : '.' ∉ top) (hne : top ≠ [])
    (front : List Char) :
    ∃ longer, (∀ c ∈ longer, ('.' :: '.' :: top).length < c.length) ∧
      (cuts (front ++ '.' :: '.' :: top) = longer ++ ['.' :: top] ∨
        cuts (front ++ '.' :: '.' :: top) = longer ++ ['.' :: '.' :: top, top]) := by
  induction front using cuts.induct with
  | case1 c rest ih =>
    obtain ⟨longer, hlonger, hcuts⟩ := ih
    refine ⟨(c :: rest ++ '.' :: '.' :: top) :: longer, ?_, ?_⟩
    · intro d hd
      rcases List.mem_cons.mp hd with rfl | hd
      · simp only [List.length_append, List.length_cons]
        omega
      · exact hlonger d hd
    · rw [List.cons_append, List.cons_append, cuts]
      rcases hcuts with hcuts | hcuts
      · exact Or.inl (by simp [hcuts])
      · exact Or.inr (by simp [hcuts])
  | case2 c rest hdot ih =>
    by_cases hc : c = '.'
    · -- The last dot of what stands in front takes the first of the two with it.
      have hrest : rest = [] := by
        cases rest with
        | nil => rfl
        | cons d rest => exact absurd rfl (hdot d rest hc)
      obtain ⟨d, last, rfl⟩ := List.exists_cons_of_ne_nil hne
      refine ⟨[], List.forall_mem_nil _, Or.inr ?_⟩
      rw [hc, hrest, List.singleton_append, cuts, cuts,
        cuts_eq_nil fun hmem => htop (List.mem_cons_of_mem d hmem)]
      rfl
    · rw [List.cons_append, cuts]
      · exact ih
      · exact fun _ _ hdot => absurd hdot hc
  | case3 =>
    refine ⟨[], List.forall_mem_nil _, Or.inl ?_⟩
    rw [List.nil_append, cuts, cuts_eq_nil htop]
    rfl

namespace State

theorem inTree_of_mem_lineage {n : String} (h : n ∈ s.lineage name) (hn : InTree n) :
    InTree name := by
  induction name using State.lineage.induct s with
  | case1 name ih =>
    cases hfound : s.above? name with
    | none =>
      rw [lineage_of_not_above hfound, List.mem_singleton] at h
      exact h ▸ hn
    | some above =>
      rw [lineage_of_above hfound] at h
      rcases List.mem_cons.mp h with rfl | h
      · exact hn
      · exact (ih above hfound h).of_mem_namesAbove (List.mem_of_find?_eq_some hfound)

/-- The top of the tree is the last on the way of a message that passes it. -/
theorem exists_of_rootName_mem_lineage (h : rootName ∈ s.lineage name) :
    ∃ below, s.lineage name = below ++ [rootName] ∧ rootName ∉ below := by
  induction name using State.lineage.induct s with
  | case1 name ih =>
    cases hfound : s.above? name with
    | none =>
      rw [lineage_of_not_above hfound, List.mem_singleton] at h
      exact ⟨[], by rw [lineage_of_not_above hfound, h]; rfl, List.not_mem_nil⟩
    | some above =>
      by_cases hname : name = rootName
      · exact ⟨[], hname ▸ lineage_rootName s, List.not_mem_nil⟩
      · rw [lineage_of_above hfound] at h ⊢
        obtain ⟨below, hlineage, hbelow⟩ :=
          ih above hfound ((List.mem_cons.mp h).resolve_left (Ne.symm hname))
        refine ⟨name :: below, by rw [hlineage]; rfl, ?_⟩
        simp [hbelow, Ne.symm hname]

end State

-- ---------------------------------------------------------------------------
-- Handlers that a record comes to
-- ---------------------------------------------------------------------------

namespace State

/-- The loggers other than the top of the tree leave all messages to those above them, and have no
handler in common with the logger outside. -/
structure Defers (s : State) : Prop where
  level (name : String) (h : name ≠ rootName) : (s.logger name).level = none
  propagates (name : String) (h : name ≠ rootName) : (s.logger name).propagates = true
  apart (name : String) (h : name ≠ rootName) :
    ∀ number ∈ (s.logger name).handlers, number ∉ s.outer.handlers

end State

namespace Session

/-- A handler is offered a record that has the level it asks for. -/
def Reaches (s : Session) (r : Record) (number : Nat) : Prop :=
  number ∈ s.recipients r ∧
    ∃ h, s.journal.pool[number]? = some h ∧ r.level.reaches h.level = true

/-- What is logged through a name, at a level or above it, comes to all handlers of the top of the
tree and to none of the logger outside. -/
def Routes (s : Session) (level : Level) (name : String) : Prop :=
  ∀ r : Record, r.logger = name → r.level.reaches level = true →
    (∀ number ∈ s.journal.top.handlers, s.Reaches r number) ∧
      ∀ number ∈ s.journal.outer.handlers, number ∉ s.recipients r

end Session

-- ---------------------------------------------------------------------------
-- Whether a name is routed
-- ---------------------------------------------------------------------------

namespace Continues

/-- Where no logger on the way is the top of the tree, its handlers get nothing. -/
theorem not_mem_recipients (h : Continues start c) (hsound : start.journal.Sound)
    (hfollows : c.Follows start r) {record : Record}
    (haway : rootName ∉ (c.session.journal.register record.logger).lineage record.logger)
    (hnumber : number ∈ c.session.journal.top.handlers) :
    number ∉ c.session.recipients record := by
  intro hmem
  have hlow : number < start.journal.pool.length := by
    rcases Session.exists_of_mem_recipients hmem with ⟨n, hn, hnumber⟩ | hnumber
    · have hne : n ≠ rootName := fun heq => haway (heq ▸ hn)
      exact hsound.logger n number (h.loggers n hne ▸ hnumber)
    · exact hsound.outer number (h.outer ▸ hnumber)
  exact Nat.not_lt.mpr (hfollows.new number hnumber) hlow

/-- After a call that has succeeded, what is logged through a name is routed if the top of the tree
is on its way. -/
theorem routes (h : Continues start c) (hsound : start.journal.Sound)
    (hdefers : start.journal.Defers) (hcall : c.call = some call)
    (hmem : rootName ∈ (c.session.journal.register name).lineage name) :
    c.session.Routes (.ofVerbosity call.verbosity) name := by
  obtain ⟨r, hgives, hfollows⟩ := h.routed call hcall
  rintro record rfl hlevel
  rw [← hgives.level_eq] at hlevel
  obtain ⟨below, hlineage, hbelow⟩ := State.exists_of_rootName_mem_lineage hmem
  have hlogger {n : String} (hn : n ∈ below) : n ≠ rootName := fun heq => hbelow (heq ▸ hn)
  have hpos : 0 < r.level.weight := hgives.level_eq ▸ Level.ofVerbosity_pos call.verbosity
  have hrecipients : c.session.recipients record =
      below.flatMap (fun n => (c.session.journal.logger n).handlers) ++
        c.session.journal.top.handlers := by
    rw [c.session.recipients_of_follows hfollows.follows hpos hlineage, if_pos hlevel]
    intro n hn
    rw [h.loggers n (hlogger hn)]
    exact ⟨hdefers.level n (hlogger hn), hdefers.propagates n (hlogger hn)⟩
  constructor
  · intro number hnumber
    obtain ⟨handler, hhandler, -, hhandlerLevel⟩ := hfollows.follows.handler number hnumber
    refine ⟨?_, handler, hhandler, ?_⟩
    · rw [hrecipients]
      exact List.mem_append_right _ hnumber
    · rw [hhandlerLevel]
      exact hlevel
  · intro number houter hmem
    rw [h.outer] at houter
    rw [hrecipients] at hmem
    rcases List.mem_append.mp hmem with hmem | hmem
    · obtain ⟨n, hn, hmem⟩ := List.mem_flatMap.mp hmem
      rw [h.loggers n (hlogger hn)] at hmem
      exact hdefers.apart n (hlogger hn) number hmem houter
    · exact Nat.not_lt.mpr (hfollows.new number hmem) (hsound.outer number houter)

/-- Nothing else is routed, where there are handlers left. -/
theorem rootName_mem_lineage_of_routes (h : Continues start c) (hsound : start.journal.Sound)
    (hcall : c.call = some call) (hstopped : c.stopped = false)
    (hroutes : c.session.Routes (.ofVerbosity call.verbosity) name) :
    rootName ∈ (c.session.journal.register name).lineage name := by
  obtain ⟨r, hgives, hfollows⟩ := h.routed call hcall
  by_contra haway
  obtain ⟨number, hnumber⟩ : ∃ number, number ∈ c.session.journal.top.handlers := by
    apply List.exists_mem_of_length_pos
    rw [(hfollows.routed hstopped).length_handlers h.sound]
    exact Nat.succ_pos _
  let record : Record := ⟨name, .ofVerbosity call.verbosity, ""⟩
  have hreached := (hroutes record rfl (by simp [record, Level.reaches])).1 number hnumber
  exact h.not_mem_recipients hsound hfollows haway hnumber hreached.1

end Continues

/-- Once there is a logger at the top, it is on the way of what is logged through a name that
fits. -/
theorem Fits.rootName_mem_lineage {name : Option String} (h : Fits name)
    (hroot : s.loggers.has rootName = true) : rootName ∈ s.lineage (fullName name) := by
  rcases (fits_iff name).mp h with hname | hbelow
  · simp [hname, State.lineage_rootName]
  · obtain ⟨below, hlineage, -⟩ := State.lineage_of_isBelow hroot hbelow
    simp [hlineage]

-- ---------------------------------------------------------------------------
-- Names that do not fit
-- ---------------------------------------------------------------------------

/-- The name of the top with two dots behind it. -/
def dottedTwice : String := "rustgeiger.."

/-- With a logger under this name, none that begins with it finds the top of the tree. -/
theorem State.rootName_not_mem_lineage {rest : List Char}
    (hname : name.toList = rootName.toList ++ '.' :: '.' :: rest)
    (hdotted : s.loggers.has dottedTwice = true)
    (hhas : ∀ n, s.loggers.has n = true → n = name ∨ n = rootName ∨ n = dottedTwice) :
    rootName ∉ s.lineage name := by
  have hne : rootName ≠ name := Ne.symm (ne_rootName_of_toList_eq hname)
  -- The name with one dot is missing.
  have hone : s.loggers.has "rustgeiger." = false := by
    rw [Bool.eq_false_iff]
    intro h
    rcases hhas _ h with rfl | h | h
    · have hlength := congrArg List.length hname
      simp [rootName] at hlength
    · exact absurd h (by decide)
    · exact absurd h (by decide)
  have hdots : '.' ∉ rootName.toList.reverse := by decide +kernel
  obtain ⟨longer, hlonger, hcuts⟩ := cuts_of_two_dots hdots (by decide +kernel) rest.reverse
  have hreverse : name.toList.reverse =
      rest.reverse ++ '.' :: '.' :: rootName.toList.reverse := by
    simp [hname]
  -- What is longer is not there either.
  have hmissing : (longer.map fun c => String.ofList c.reverse).find? s.loggers.has = none := by
    rw [List.find?_eq_none]
    intro n hn h
    obtain ⟨c, hc, rfl⟩ := List.mem_map.mp hn
    have hlength := hlonger c hc
    have hshorter : (String.ofList c.reverse).toList.length < name.toList.length := by
      apply length_lt_of_mem_namesAbove
      rw [namesAbove, hreverse]
      apply List.mem_map_of_mem
      rcases hcuts with hcuts | hcuts <;> simp [hcuts, hc]
    rcases hhas _ h with h | h | h
    · exact absurd (h ▸ hshorter) (Nat.lt_irrefl _)
    · have hsame := congrArg (·.toList.length) h
      simp [rootName] at hsame hlength
      omega
    · have hsame := congrArg (·.toList.length) h
      simp [dottedTwice, rootName] at hsame hlength
      omega
  rcases hcuts with hcuts | hcuts
  · have hnone : s.above? name = none := by
      rw [above?, namesAbove, hreverse, hcuts, List.map_append, List.find?_append, hmissing]
      simp [rootName, hone]
    simp [lineage_of_not_above hnone, hne]
  · have hsome : s.above? name = some dottedTwice := by
      rw [above?, namesAbove, hreverse, hcuts, List.map_append, List.find?_append, hmissing]
      simpa [rootName, dottedTwice] using hdotted
    have hnone : s.above? dottedTwice = none := by
      have habove : namesAbove dottedTwice = ["rustgeiger."] := by decide +kernel
      simp [above?, habove, hone]
    have hdifferent : rootName ≠ dottedTwice := by decide
    simp [lineage_of_above hsome, lineage_of_not_above hnone, hne, hdifferent]

/-- A journal in which there is a logger under this name, and no other. -/
def dotted : Session := inEmptyWork (State.initial.register dottedTwice) []

theorem logger_dotted (name : String) : dotted.journal.logger name = .plain :=
  State.logger_register _ _ _

theorem sound_dotted : dotted.journal.Sound where
  logger name := by simp [logger_dotted, Logger.plain]
  outer := by decide

theorem defers_dotted : dotted.journal.Defers where
  level name _ := by simp [logger_dotted, Logger.plain]
  propagates name _ := by simp [logger_dotted, Logger.plain]
  apart name _ := by simp [logger_dotted, Logger.plain]

theorem step_dotted :
    (Course.begin dotted).step (.call ⟨.normal, none⟩) =
      ⟨dotted.rerouted ⟨.warning, none⟩, some ⟨.normal, none⟩, false⟩ :=
  Course.step_of_gives (.console (Or.inl rfl)) nofun

theorem has_dotted (r : Route) (n : String) :
    (dotted.rerouted r).journal.loggers.has n = true ↔ n = rootName ∨ n = dottedTwice := by
  by_cases hroot : n = rootName
  · simp [hroot, Session.rerouted, State.rerouted, State.has_reroute]
  · have helsewhere := (State.replaced_rerouted (sound_dotted.logger rootName) r).elsewhere
    have hget : (dotted.rerouted r).journal.loggers.get? n = dotted.journal.loggers.get? n :=
      helsewhere.loggers n hroot
    rw [Table.has_eq, hget, ← Table.has_eq, dotted, inEmptyWork, State.register,
      State.has_changeLogger]
    simp [hroot, State.initial, Table.has, eq_comm]

theorem not_mem_lineage_dotted {name : Option String} (h : ¬ Fits name) (r : Route) :
    rootName ∉ ((dotted.rerouted r).journal.register (fullName name)).lineage (fullName name) := by
  rw [fits_iff, not_or] at h
  obtain ⟨hne, hbelow⟩ := h
  intro hmem
  rcases State.inTree_of_mem_lineage hmem (Or.inl rfl) with hroot | ⟨rest, hrest⟩
  · exact hne hroot
  · rw [isBelow_iff hrest, not_not, List.head?_eq_some_iff] at hbelow
    obtain ⟨rest, rfl⟩ := hbelow
    refine State.rootName_not_mem_lineage hrest ?_ (fun n hn => ?_) hmem
    · rw [State.register, State.has_changeLogger, (has_dotted r _).mpr (Or.inr rfl), Bool.or_true]
    · rw [State.register, State.has_changeLogger, Bool.or_eq_true, decide_eq_true_eq,
        has_dotted] at hn
      exact hn.imp_left Eq.symm

-- ---------------------------------------------------------------------------
-- Names that are routed
-- ---------------------------------------------------------------------------

/-- Asked for a logger, the journal gives one of the tree unless the name begins like the top and
does not go on with a dot. And after a call that has succeeded, whatever was there before and has
come since, what is logged through it comes to all handlers that the tree has from that call, and to
none outside: this is so if and only if the name fits. -/
theorem routed_in_every_course_iff (name : Option String) :
    (InTree (fullName name) ↔ ∀ n, name = some n → rootName.toList <+: n.toList → InTree n) ∧
      ((∀ (start : Session) (events : List Event) (call : Call), start.journal.Sound →
          start.journal.Defers → start.files.top.isDirectory = true →
          ((Course.begin start).run events).call = some call →
          ((Course.begin start).run events).session.Routes (.ofVerbosity call.verbosity)
            (fullName name)) ↔
        Fits name) := by
  refine ⟨inTree_fullName_iff name, ?_, ?_⟩
  · intro hall
    by_contra hfits
    have hcall : ((Course.begin dotted).run [.call ⟨.normal, none⟩]).call = some ⟨.normal, none⟩ :=
      congrArg Course.call step_dotted
    have hcourse : Continues dotted ((Course.begin dotted).run [.call ⟨.normal, none⟩]) :=
      (Continues.refl sound_dotted).run rfl _
    have hstopped : ((Course.begin dotted).run [.call ⟨.normal, none⟩]).stopped = false :=
      congrArg Course.stopped step_dotted
    have hroutes := hall dotted _ _ sound_dotted defers_dotted rfl hcall
    have hmem := hcourse.rootName_mem_lineage_of_routes sound_dotted hcall hstopped hroutes
    have hsession : ((Course.begin dotted).run [.call ⟨.normal, none⟩]).session =
        dotted.rerouted ⟨.warning, none⟩ := congrArg Course.session step_dotted
    rw [hsession] at hmem
    exact not_mem_lineage_dotted hfits _ hmem
  · intro hfits start events call hsound hdefers hfiles hcall
    have htop := Files.Item.branchAt?_of_isDirectory hfiles
    have hcourse := (Continues.refl hsound).run htop events
    obtain ⟨r, -, hfollows⟩ := hcourse.routed call hcall
    apply hcourse.routes hsound hdefers hcall
    apply hfits.rootName_mem_lineage
    rw [State.register, State.has_changeLogger, hfollows.root, Bool.or_true]

/-- A name that only begins like the top is left as it is, and a dot at the beginning of another is
one too many: of both loggers the messages pass the handlers by. -/
theorem like_named_logger_is_outside :
    fullName (some "rustgeiger_cli") = "rustgeiger_cli" ∧ ¬ InTree "rustgeiger_cli" ∧
      ∀ name ∈ ["rustgeiger_cli", ".x"],
        ¬ ((Course.begin fresh).step (.call ⟨.normal, some "a.log"⟩)).session.Routes .warning
          (fullName (some name)) := by
  refine ⟨by decide +kernel, ?_, ?_⟩
  · rintro (h | ⟨rest, h⟩)
    · exact absurd h (by decide)
    · simp [rootName] at h
  · intro name hname hroutes
    have hlevel : Level.error.reaches .warning = true := by decide
    have hreached := (hroutes ⟨fullName (some name), .error, "m"⟩ rfl hlevel).1 0
    rw [step_fresh] at hreached
    have hrecipients : (fresh.rerouted ⟨.warning, some ["work", "a.log"]⟩).recipients
        ⟨fullName (some name), .error, "m"⟩ = [] := by
      rcases List.mem_pair.mp hname with rfl | rfl <;> decide +kernel
    have hmem := (hreached (by decide +kernel)).1
    rw [hrecipients] at hmem
    cases hmem

end UnsafeCensus.Journal
