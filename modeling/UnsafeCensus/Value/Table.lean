/-!
# Tables

Values under names, in the order in which the names were first written. Writing a name again
replaces its value and keeps its place.
-/

namespace UnsafeCensus

abbrev Table (α : Type) := List (String × α)

namespace Table

variable {α : Type}

def get? (t : Table α) (key : String) : Option α :=
  (t.find? fun e => e.1 == key).map (·.2)

def has (t : Table α) (key : String) : Bool :=
  t.any fun e => e.1 == key

def put (key : String) (value : α) : Table α → Table α
  | [] => [(key, value)]
  | e :: rest => if e.1 == key then (key, value) :: rest else e :: put key value rest

def erase (key : String) (t : Table α) : Table α :=
  t.filter fun e => e.1 != key

/-- Write every entry of the second table into the first. -/
def update (t : Table α) (entries : Table α) : Table α :=
  entries.foldl (fun acc e => acc.put e.1 e.2) t

def ofEntries (entries : List (String × α)) : Table α :=
  update [] entries

theorem get?_put_self (key : String) (value : α) (t : Table α) :
    (t.put key value).get? key = some value := by
  induction t with
  | nil => simp [put, get?]
  | cons e rest ih =>
    simp only [put]
    split
    · simp [get?]
    · next h => simp_all [get?]

theorem get?_put_of_ne {key other : String} (value : α) (t : Table α) (h : key ≠ other) :
    (t.put key value).get? other = t.get? other := by
  induction t with
  | nil => simp [put, get?, h]
  | cons e rest ih =>
    simp only [put]
    split
    · next he => simp_all [get?]
    · simp only [get?, List.find?_cons] at ih ⊢
      split <;> simp_all

end Table

end UnsafeCensus
