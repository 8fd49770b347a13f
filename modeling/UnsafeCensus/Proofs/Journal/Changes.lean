import UnsafeCensus.Journal.Logger
import UnsafeCensus.Proofs.Value.Table

/-!
# Changes of the journal

What one change leaves of the loggers and of the handlers, and what many of them leave. All changes
that are made when the tree is routed are to the top of the tree and to the handlers, so the other
loggers stay as they are.
-/

namespace UnsafeCensus.Journal

/-- Positions that are looked up one after the other give back a list. -/
theorem filterMap_range' {α : Type} {f : Nat → Option α} {l : List α} {n : Nat}
    (h : ∀ i < l.length, f (n + i) = l[i]?) : (List.range' n l.length).filterMap f = l := by
  induction l generalizing n with
  | nil => rfl
  | cons a l ih =>
    have hhead : f n = some a := h 0 (by simp)
    rw [List.length_cons, List.range'_succ, List.filterMap_cons, hhead]
    refine congrArg (a :: ·) (ih fun i hi => ?_)
    have htail := h (i + 1) (by simpa using hi)
    rwa [List.getElem?_cons_succ, Nat.add_comm i, ← Nat.add_assoc] at htail

def Handler.closed (h : Handler) : Handler := { h with isOpen := false }

namespace State

variable {s s' s'' : State} {level : Level} {numbers : List Nat} {number : Nat} {name : String}

-- ---------------------------------------------------------------------------
-- Loggers after a change
-- ---------------------------------------------------------------------------

theorem logger_changeLogger (name : String) (change : Logger → Logger) (s : State)
    (other : String) :
    (s.changeLogger name change).logger other =
      if name = other then change (s.logger name) else s.logger other := by
  unfold logger changeLogger
  rw [Table.get?_put]
  split <;> rfl

theorem top_changeLogger (change : Logger → Logger) (s : State) :
    (s.changeLogger rootName change).top = change s.top := by
  rw [top, logger_changeLogger, if_pos rfl]
  rfl

theorem logger_register (name : String) (s : State) (other : String) :
    (s.register name).logger other = s.logger other := by
  rw [register, logger_changeLogger]
  split
  · next h => rw [h]; rfl
  · rfl

theorem top_register (name : String) (s : State) : (s.register name).top = s.top :=
  logger_register name s rootName

/-- All loggers are the same, the top of the tree apart. -/
structure SameElsewhere (s s' : State) : Prop where
  loggers (name : String) (h : name ≠ rootName) : s'.loggers.get? name = s.loggers.get? name
  outer : s'.outer = s.outer

namespace SameElsewhere

theorem refl (s : State) : SameElsewhere s s := ⟨fun _ _ => rfl, rfl⟩

theorem trans (h : SameElsewhere s s') (h' : SameElsewhere s' s'') : SameElsewhere s s'' :=
  ⟨fun name hname => (h'.loggers name hname).trans (h.loggers name hname),
    h'.outer.trans h.outer⟩

theorem changeLogger (change : Logger → Logger) (s : State) :
    SameElsewhere s (s.changeLogger rootName change) :=
  ⟨fun _ hname => Table.get?_put_of_ne _ _ hname.symm, rfl⟩

theorem logger_eq (h : SameElsewhere s s') (hname : name ≠ rootName) :
    s'.logger name = s.logger name := by
  rw [logger, logger, h.loggers name hname]

theorem foldl {step : State → Nat → State} (hstep : ∀ s number, SameElsewhere s (step s number))
    (numbers : List Nat) (s : State) : SameElsewhere s (numbers.foldl step s) := by
  induction numbers generalizing s with
  | nil => exact .refl s
  | cons number numbers ih => exact (hstep s number).trans (ih (step s number))

end SameElsewhere

-- ---------------------------------------------------------------------------
-- Handlers after a change
-- ---------------------------------------------------------------------------

/-- A change that is made for each of some handlers, and that it does no harm to repeat. -/
theorem pool_foldl {step : State → Nat → State} (change : Handler → Handler)
    (hstep : ∀ s number, (step s number).pool = s.pool.modify number change)
    (hagain : ∀ h, change (change h) = change h) (numbers : List Nat) (s : State) (number : Nat) :
    (numbers.foldl step s).pool[number]? =
      s.pool[number]?.map fun h => if number ∈ numbers then change h else h := by
  induction numbers generalizing s with
  | nil => simp
  | cons first numbers ih =>
    rw [List.foldl_cons, ih, hstep, List.getElem?_modify, Option.map_eq_map, Option.map_map]
    congr 1
    funext h
    by_cases hfirst : first = number
    · subst hfirst
      by_cases hmem : first ∈ numbers <;> simp [hmem, hagain]
    · by_cases hmem : number ∈ numbers <;> simp [hmem, hfirst, Ne.symm hfirst]

theorem pool_foldl_discard (numbers : List Nat) (s : State) (number : Nat) :
    (numbers.foldl discard s).pool[number]? =
      s.pool[number]?.map fun h => if number ∈ numbers then h.closed else h :=
  pool_foldl Handler.closed (fun _ _ => rfl) (fun _ => rfl) numbers s number

theorem pool_foldl_install (level : Level) (numbers : List Nat) (s : State) (number : Nat) :
    (numbers.foldl (install level) s).pool[number]? =
      s.pool[number]?.map fun h => if number ∈ numbers then { h with level } else h :=
  pool_foldl (fun h => { h with level }) (fun _ _ => rfl) (fun _ => rfl) numbers s number

theorem top_discard (s : State) (number : Nat) :
    (s.discard number).top = { s.top with handlers := s.top.handlers.erase number } :=
  top_changeLogger (fun l => { l with handlers := l.handlers.erase number }) s

theorem top_foldl_discard {rest : List Nat} (numbers : List Nat) (s : State)
    (h : s.top.handlers = numbers ++ rest) :
    (numbers.foldl discard s).top = { s.top with handlers := rest } := by
  induction numbers generalizing s with
  | nil =>
    rw [List.nil_append] at h
    rw [List.foldl_nil, ← h]
  | cons number numbers ih =>
    have hrest : (s.discard number).top.handlers = numbers ++ rest := by
      rw [top_discard, h]
      exact List.erase_cons_head number (numbers ++ rest)
    rw [List.foldl_cons, ih _ hrest, top_discard]

theorem top_install (level : Level) (s : State) (h : number ∉ s.top.handlers) :
    (s.install level number).top = { s.top with handlers := s.top.handlers ++ [number] } := by
  rw [install, top_changeLogger]
  exact if_neg h

theorem top_foldl_install (level : Level) (numbers : List Nat) (s : State)
    (hnodup : numbers.Nodup) (hnew : ∀ number ∈ numbers, number ∉ s.top.handlers) :
    (numbers.foldl (install level) s).top =
      { s.top with handlers := s.top.handlers ++ numbers } := by
  induction numbers generalizing s with
  | nil => rw [List.foldl_nil, List.append_nil]
  | cons number numbers ih =>
    obtain ⟨hfresh, hnodup⟩ := List.nodup_cons.mp hnodup
    have htop := top_install level s (hnew number List.mem_cons_self)
    rw [List.foldl_cons, ih _ hnodup, htop]
    · simp
    · intro other hother
      rw [htop, List.mem_append, List.mem_singleton, not_or]
      exact ⟨hnew other (List.mem_cons_of_mem _ hother), fun heq => hfresh (heq ▸ hother)⟩

theorem sameElsewhere_discard (s : State) (number : Nat) : SameElsewhere s (s.discard number) :=
  ⟨fun _ hname => Table.get?_put_of_ne _ _ hname.symm, rfl⟩

theorem sameElsewhere_install (level : Level) (s : State) (number : Nat) :
    SameElsewhere s (s.install level number) :=
  ⟨fun _ hname => Table.get?_put_of_ne _ _ hname.symm, rfl⟩

-- ---------------------------------------------------------------------------
-- Rerouting
-- ---------------------------------------------------------------------------

/-- The state with the tree routed to other handlers, and those that it had closed. -/
def reroute (level : Level) (numbers : List Nat) (s : State) : State :=
  (s.top.handlers.foldl discard s).route level numbers

theorem top_reroute (level : Level) (hnodup : numbers.Nodup) (s : State) :
    (s.reroute level numbers).top = ⟨numbers, some level, false⟩ := by
  have hcleared := top_foldl_discard _ s (List.append_nil _).symm
  rw [reroute, route, top_changeLogger, top_foldl_install level numbers _ hnodup, hcleared]
  · rfl
  · intro number _
    rw [hcleared]
    exact List.not_mem_nil

theorem sameElsewhere_reroute (level : Level) (numbers : List Nat) (s : State) :
    SameElsewhere s (s.reroute level numbers) := by
  have hcleared : SameElsewhere s (s.top.handlers.foldl discard s) :=
    .foldl sameElsewhere_discard s.top.handlers s
  refine (hcleared.trans (.foldl (sameElsewhere_install level) numbers _)).trans ?_
  exact .changeLogger (fun l => { l with level := some level, propagates := false }) _

theorem pool_reroute (level : Level) (numbers : List Nat) (s : State) (number : Nat) :
    (s.reroute level numbers).pool[number]? =
      s.pool[number]?.map fun h =>
        let h := if number ∈ s.top.handlers then h.closed else h
        if number ∈ numbers then { h with level } else h := by
  show (numbers.foldl (install level) _).pool[number]? = _
  rw [pool_foldl_install, pool_foldl_discard, Option.map_map]
  rfl

/-- Changes to each handler that leave where it writes. -/
theorem sinks_eq_of_pool (change : Nat → Handler → Handler)
    (hpool : ∀ number : Nat, s'.pool[number]? = s.pool[number]?.map (change number))
    (hsink : ∀ number h, (change number h).sink = h.sink) :
    s'.pool.map (·.sink) = s.pool.map (·.sink) := by
  refine List.ext_getElem? fun number => ?_
  rw [List.getElem?_map, List.getElem?_map, hpool, Option.map_map]
  exact congrArg (Option.map · _) (funext (hsink number))

theorem sinks_foldl_discard (numbers : List Nat) (s : State) :
    (numbers.foldl discard s).pool.map (·.sink) = s.pool.map (·.sink) := by
  refine sinks_eq_of_pool _ (pool_foldl_discard numbers s) fun number h => ?_
  split <;> rfl

theorem sinks_reroute (level : Level) (numbers : List Nat) (s : State) :
    (s.reroute level numbers).pool.map (·.sink) = s.pool.map (·.sink) := by
  refine sinks_eq_of_pool _ (pool_reroute level numbers s) fun number h => ?_
  by_cases hnew : number ∈ numbers <;> by_cases hold : number ∈ s.top.handlers <;>
    simp [hnew, hold, Handler.closed]

theorem has_changeLogger (name : String) (change : Logger → Logger) (s : State) (other : String) :
    (s.changeLogger name change).loggers.has other =
      (decide (name = other) || s.loggers.has other) := by
  rw [Table.has_eq, Table.has_eq, changeLogger, Table.get?_put]
  by_cases h : name = other <;> simp [h]

theorem has_discard (s : State) (number : Nat) :
    (s.discard number).loggers.has rootName = true := by
  have hhas := has_changeLogger rootName
    (fun l => { l with handlers := l.handlers.erase number }) s rootName
  rw [decide_eq_true rfl, Bool.true_or] at hhas
  exact hhas

theorem has_reroute (level : Level) (numbers : List Nat) (s : State) :
    (s.reroute level numbers).loggers.has rootName = true := by
  rw [reroute, route, has_changeLogger, decide_eq_true rfl, Bool.true_or]

-- ---------------------------------------------------------------------------
-- New handlers
-- ---------------------------------------------------------------------------

/-- The state with new handlers, which belong to no logger yet. -/
def withHandlers (s : State) (sinks : List Sink) : State :=
  { s with pool := s.pool ++ sinks.map fun sink => ⟨sink, .unset, true⟩ }

/-- The numbers that so many new handlers get. -/
def newNumbers (s : State) (sinks : List Sink) : List Nat :=
  List.range' s.pool.length sinks.length

theorem withHandlers_append (s : State) (first second : List Sink) :
    (s.withHandlers first).withHandlers second = s.withHandlers (first ++ second) := by
  simp [withHandlers]

theorem pool_withHandlers (s : State) (sinks : List Sink) (i : Nat) :
    (s.withHandlers sinks).pool[s.pool.length + i]? =
      sinks[i]?.map fun sink => ⟨sink, .unset, true⟩ := by
  show (s.pool ++ _)[s.pool.length + i]? = _
  rw [List.getElem?_append_right (Nat.le_add_right _ _), Nat.add_sub_cancel_left,
    List.getElem?_map]

theorem sinks_withHandlers (s : State) (sinks : List Sink) :
    (s.withHandlers sinks).pool.map (·.sink) = s.pool.map (·.sink) ++ sinks := by
  show (s.pool ++ sinks.map _).map _ = _
  rw [List.map_append, List.map_map]
  exact congrArg _ (List.map_id'' (fun _ => rfl) sinks)

theorem nodup_newNumbers (s : State) (sinks : List Sink) : (s.newNumbers sinks).Nodup :=
  List.nodup_range'

theorem mem_newNumbers {sinks : List Sink} :
    number ∈ s.newNumbers sinks ↔
      s.pool.length ≤ number ∧ number < s.pool.length + sinks.length :=
  List.mem_range'_1

end State

end UnsafeCensus.Journal
