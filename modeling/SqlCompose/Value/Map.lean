import SqlCompose.Value.Basic

/-!
# Values by key

Dynamic rows: values by key, each key at most once. Putting a value under a key that is there
already replaces the value.
-/

namespace SqlCompose

abbrev ValueMap := List (String × Value)

namespace ValueMap

def keys (m : ValueMap) : List String :=
  m.map Prod.fst

/-- The keys in ascending order. -/
def sortedKeys (m : ValueMap) : List String :=
  m.keys.mergeSort fun a b => decide (a ≤ b)

/-- Whether a map has as many keys as there are columns, and each of the columns among them. -/
def hasKeys (m : ValueMap) (columns : List String) : Bool :=
  m.length = columns.length && columns.all fun c => (m.lookup c).isSome

/-- The value of a key; null where there is none. -/
def get (m : ValueMap) (key : String) : Value :=
  (m.lookup key).getD .null

def insert (m : ValueMap) (key : String) (value : Value) : ValueMap :=
  match m with
  | [] => [(key, value)]
  | (k, v) :: rest => if k = key then (key, value) :: rest else (k, v) :: insert rest key value

/-- The map of pairs, of which the last one of a key counts. -/
def ofPairs (pairs : List (String × Value)) : ValueMap :=
  pairs.foldl (fun m (k, v) => m.insert k v) []

theorem lookup_insert (m : ValueMap) (key k : String) (value : Value) :
    (m.insert key value).lookup k = if k = key then some value else m.lookup k := by
  induction m with
  | nil =>
    simp only [insert, List.lookup_cons, List.lookup_nil]
    by_cases h : k = key
    · simp [h]
    · have : (k == key) = false := by simpa using h
      simp [h, this]
  | cons head rest ih =>
    obtain ⟨k', v'⟩ := head
    simp only [insert]
    split
    · rename_i heq
      simp only [List.lookup_cons, heq]
      by_cases h : k = key
      · simp [h]
      · have : (k == key) = false := by simpa using h
        simp [h, this]
    · rename_i hne
      simp only [List.lookup_cons, ih]
      by_cases h : k = k'
      · subst h
        simp [hne]
      · have : (k == k') = false := by simpa using h
        simp [this]

end ValueMap

end SqlCompose
