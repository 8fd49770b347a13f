import UnsafeCensus.Proofs.Fault.Sequence
import UnsafeCensus.Proofs.Value.Table
import UnsafeCensus.Toml.Document

/-!
# Names in a document

A document sets a name once. In the table that it describes, and in every table inside it, no name
stands twice: a key is only set where it is new, and opening a table again extends the one that is
there.
-/

namespace UnsafeCensus

-- ---------------------------------------------------------------------------
-- Orderly values
-- ---------------------------------------------------------------------------

/-- In no table inside the value does a name stand twice. -/
inductive Value.Orderly : Value → Prop
  | plain {v : Value} (h : Toml.isNest v = false) : Orderly v
  | list {items : List Value} (h : ∀ v ∈ items, Orderly v) : Orderly (.list items)
  | table {entries : List (String × Value)} (hnames : Table.NamesDistinct entries)
      (h : ∀ e ∈ entries, Orderly e.2) : Orderly (.table entries)

/-- No name stands twice in the table, nor in a table inside it. -/
structure Table.Orderly (t : Table Value) : Prop where
  names : t.NamesDistinct
  within : ∀ e ∈ t, e.2.Orderly

namespace Value

variable {items : List Value} {entries : List (String × Value)}

theorem orderly_table : (Value.table entries).Orderly ↔ Table.Orderly entries := by
  constructor
  · intro h
    cases h with
    | plain h => cases h
    | table hnames hwithin => exact ⟨hnames, hwithin⟩
  · intro h
    exact .table h.names h.within

theorem orderly_list : (Value.list items).Orderly ↔ ∀ v ∈ items, v.Orderly := by
  constructor
  · intro h
    cases h with
    | plain h => cases h
    | list h => exact h
  · exact .list

end Value

namespace Table

variable {t : Table Value} {key : String} {v : Value}

theorem orderly_nil : Orderly [] := ⟨namesDistinct_nil, nofun⟩

theorem Orderly.get? (h : t.Orderly) (hget : t.get? key = some v) : v.Orderly :=
  h.within _ (mem_of_get?_eq_some hget)

theorem Orderly.put (h : t.Orderly) (hv : v.Orderly) : (t.put key v).Orderly where
  names := h.names.put key v
  within e he := by
    rcases mem_put he with rfl | he
    · exact hv
    · exact h.within e he

end Table

namespace Toml

-- ---------------------------------------------------------------------------
-- Places
-- ---------------------------------------------------------------------------

variable {t t' : Entries} {key : String} {v : Value}

/-- What keeps tables orderly does so at every place in them. -/
theorem orderly_changeAt {change : Entries → Option Entries}
    (hchange : ∀ t t', Table.Orderly t → change t = some t' → Table.Orderly t') {intoLists : Bool}
    {path : List String} (ht : Table.Orderly t) (h : changeAt intoLists change path t = some t') :
    Table.Orderly t' := by
  induction path generalizing t t' with
  | nil => exact hchange t t' ht h
  | cons k path ih =>
    rw [changeAt] at h
    split at h
    · -- nothing there yet
      obtain ⟨s, hs, rfl⟩ := Option.map_eq_some_iff.mp h
      exact ht.put (Value.orderly_table.mpr (ih Table.orderly_nil hs))
    · next sub hget =>
      obtain ⟨s, hs, rfl⟩ := Option.map_eq_some_iff.mp h
      have hsub : Table.Orderly sub := Value.orderly_table.mp (ht.get? hget)
      exact ht.put (Value.orderly_table.mpr (ih hsub hs))
    · next items hget =>
      have hitems : ∀ v ∈ items, v.Orderly := Value.orderly_list.mp (ht.get? hget)
      split at h
      · next sub before hreverse =>
        obtain ⟨s, hs, rfl⟩ := Option.map_eq_some_iff.mp h
        have hlast : items = before.reverse ++ [.table sub] := by
          rw [← List.reverse_cons, ← hreverse, List.reverse_reverse]
        subst hlast
        have hsub : Table.Orderly sub := Value.orderly_table.mp (hitems _ (by simp))
        refine ht.put (Value.orderly_list.mpr ?_)
        intro v hv
        rcases List.mem_append.mp hv with hv | hv
        · exact hitems v (List.mem_append_left _ hv)
        · rw [List.mem_singleton.mp hv]
          exact Value.orderly_table.mpr (ih hsub hs)
      · cases h
    · cases h

theorem orderly_addNew (hv : v.Orderly) (ht : Table.Orderly t) (h : addNew key v t = some t') :
    Table.Orderly t' := by
  rw [addNew] at h
  split at h
  · cases h
  · cases h
    exact ht.put hv

theorem orderly_addElement (ht : Table.Orderly t) (h : addElement key t = some t') :
    Table.Orderly t' := by
  have hempty : (Value.table []).Orderly := Value.orderly_table.mpr Table.orderly_nil
  rw [addElement] at h
  split at h
  · cases h
    exact ht.put (.list (by simpa using hempty))
  · next items hget =>
    cases h
    refine ht.put (.list ?_)
    intro v hv
    rcases List.mem_append.mp hv with hv | hv
    · exact Value.orderly_list.mp (ht.get? hget) v hv
    · exact List.mem_singleton.mp hv ▸ hempty
  · cases h

-- ---------------------------------------------------------------------------
-- Values
-- ---------------------------------------------------------------------------

theorem require_eq_ok {α : Type} {r : Option α} {x : α} : require r = .ok x ↔ r = some x := by
  cases r <;> simp [require]

/-- What is written in digits is a number. -/
theorem isNest_decimalNumber {s rest : List Char} (h : decimalNumber s = .ok (some (v, rest))) :
    isNest v = false := by
  simp only [decimalNumber] at h
  split at h
  · cases h
  · split at h
    · cases h
      rfl
    · split at h
      · cases h
      · cases h
        rfl

theorem isNest_scalar {s rest : List Char} (h : scalar s = .ok (v, rest)) : isNest v = false := by
  unfold scalar at h
  split at h
  · cases h
    rfl
  · cases h
    rfl
  · obtain ⟨m, -, h⟩ := bind_eq_ok.mp h
    split at h
    · cases h
      rfl
    · split at h
      · cases h
        rfl
      · obtain ⟨n, hn, h⟩ := bind_eq_ok.mp h
        split at h
        · cases h
          exact isNest_decimalNumber hn
        · split at h
          · cases h
            rfl
          · cases h

/-- Values of a given depth of reading, lists of them and inline tables of them: one induction,
since each is read through the others. -/
theorem orderly_read (room : Room) (fuel : Nat) :
    (∀ inside s v rest, value room inside fuel s = .ok (v, rest) → v.Orderly) ∧
    (∀ inside s items rest, listItems room inside fuel s = .ok (items, rest) →
      ∀ v ∈ items, v.Orderly) ∧
    (∀ inside t frozen s t' rest, Table.Orderly t →
      inlineEntries room inside fuel t frozen s = .ok (t', rest) → Table.Orderly t') := by
  induction fuel with
  | zero =>
    refine ⟨?_, ?_, ?_⟩
    · intro inside s v rest h
      cases h
    · intro inside s items rest h
      cases h
    · intro inside t frozen s t' rest _ h
      cases h
  | succ fuel ih =>
    obtain ⟨ihvalue, ihitems, ihentries⟩ := ih
    refine ⟨?_, ?_, ?_⟩
    · intro inside s v rest h
      unfold value at h
      split at h
      · cases h
      split at h
      · obtain ⟨_, -, h⟩ := bind_eq_ok.mp h
        cases h
        exact .plain rfl
      · obtain ⟨_, -, h⟩ := bind_eq_ok.mp h
        cases h
        exact .plain rfl
      · obtain ⟨_, hitems, h⟩ := bind_eq_ok.mp h
        cases h
        exact .list (ihitems _ _ _ _ hitems)
      · split at h
        · cases h
          exact Value.orderly_table.mpr Table.orderly_nil
        · obtain ⟨_, hentries, h⟩ := bind_eq_ok.mp h
          cases h
          exact Value.orderly_table.mpr (ihentries _ _ _ _ _ _ Table.orderly_nil hentries)
      · exact .plain (isNest_scalar h)
    · intro inside s items rest h
      unfold listItems at h
      obtain ⟨_, -, h⟩ := bind_eq_ok.mp h
      split at h
      · cases h
        exact nofun
      · obtain ⟨_, hvalue, h⟩ := bind_eq_ok.mp h
        obtain ⟨_, -, h⟩ := bind_eq_ok.mp h
        split at h
        · cases h
          exact List.forall_mem_singleton.mpr (ihvalue _ _ _ _ hvalue)
        · obtain ⟨_, hitems, h⟩ := bind_eq_ok.mp h
          cases h
          exact List.forall_mem_cons.mpr ⟨ihvalue _ _ _ _ hvalue, ihitems _ _ _ _ hitems⟩
        · cases h
    · intro inside t frozen s t' rest ht h
      unfold inlineEntries at h
      obtain ⟨_, -, h⟩ := bind_eq_ok.mp h
      obtain ⟨_, -, h⟩ := bind_eq_ok.mp h
      obtain ⟨_, hvalue, h⟩ := bind_eq_ok.mp h
      dsimp only at h
      split at h
      · cases h
      · obtain ⟨_, hchange, h⟩ := bind_eq_ok.mp h
        have ht' := orderly_changeAt (fun _ _ => orderly_addNew (ihvalue _ _ _ _ hvalue)) ht
          (require_eq_ok.mp hchange)
        split at h
        · cases h
          exact ht'
        · exact ihentries _ _ _ _ _ _ ht' h
        · cases h

-- ---------------------------------------------------------------------------
-- Statements
-- ---------------------------------------------------------------------------

namespace Draft

variable {room : Room} {d d' : Draft} {s rest : List Char}

theorem orderly_setKey (hd : Table.Orderly d.table) (h : d.setKey room s = .ok (d', rest)) :
    Table.Orderly d'.table := by
  unfold setKey at h
  obtain ⟨_, -, h⟩ := bind_eq_ok.mp h
  obtain ⟨_, -, h⟩ := bind_eq_ok.mp h
  obtain ⟨⟨v, _⟩, hvalue, h⟩ := bind_eq_ok.mp h
  dsimp only at h
  split at h
  · cases h
  · split at h
    · cases h
    · obtain ⟨_, hchange, h⟩ := bind_eq_ok.mp h
      cases h
      have hv : v.Orderly := (orderly_read room _).1 _ _ _ _ hvalue
      exact orderly_changeAt (fun _ _ => orderly_addNew hv) hd (require_eq_ok.mp hchange)

theorem orderly_openTable (hd : Table.Orderly d.table) (h : d.openTable s = .ok (d', rest)) :
    Table.Orderly d'.table := by
  unfold openTable at h
  obtain ⟨_, -, h⟩ := bind_eq_ok.mp h
  dsimp only at h
  split at h
  · cases h
  · obtain ⟨_, hchange, h⟩ := bind_eq_ok.mp h
    obtain ⟨_, -, h⟩ := bind_eq_ok.mp h
    cases h
    refine orderly_changeAt ?_ hd (require_eq_ok.mp hchange)
    intro t t' ht hsame
    cases hsame
    exact ht

theorem orderly_openElement (hd : Table.Orderly d.table) (h : d.openElement s = .ok (d', rest)) :
    Table.Orderly d'.table := by
  unfold openElement at h
  obtain ⟨_, -, h⟩ := bind_eq_ok.mp h
  dsimp only at h
  split at h
  · cases h
  · obtain ⟨_, hchange, h⟩ := bind_eq_ok.mp h
    obtain ⟨_, -, h⟩ := bind_eq_ok.mp h
    obtain ⟨_, -, h⟩ := bind_eq_ok.mp h
    cases h
    exact orderly_changeAt (fun _ _ => orderly_addElement) hd (require_eq_ok.mp hchange)

@[simp] theorem table_settle (d : Draft) : d.settle.table = d.table := rfl

theorem orderly_statement (hd : Table.Orderly d.table) (h : d.statement room s = .ok (d', rest)) :
    Table.Orderly d'.table := by
  unfold statement at h
  split at h
  · exact orderly_openElement (by simpa using hd) h
  · exact orderly_openTable (by simpa using hd) h
  · cases h
    exact hd
  · exact orderly_setKey hd h

theorem orderly_statements {fuel : Nat} (hd : Table.Orderly d.table)
    (h : statements room fuel d s = .ok d') : Table.Orderly d'.table := by
  induction fuel generalizing d s with
  | zero => cases h
  | succ fuel ih =>
    unfold statements at h
    split at h
    · cases h
      exact hd
    · exact ih hd h
    · obtain ⟨⟨d₁, _⟩, hstatement, h⟩ := bind_eq_ok.mp h
      have hd₁ : Table.Orderly d₁.table := orderly_statement hd hstatement
      obtain ⟨_, -, h⟩ := bind_eq_ok.mp h
      split at h
      · cases h
        exact hd₁
      · exact ih hd₁ h
      · cases h

end Draft

/-- In no table of a document does a name stand twice. -/
theorem orderly_of_read {room : Room} {text : List Char} {document : Table Value}
    (h : read room text = .ok document) : document.Orderly := by
  obtain ⟨d, hd, rfl⟩ := map_eq_ok.mp h
  exact Draft.orderly_statements Table.orderly_nil hd

end Toml

end UnsafeCensus
