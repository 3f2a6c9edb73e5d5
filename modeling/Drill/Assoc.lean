/-!
# Association lists in order of insertion

A key that is put again keeps its place and takes the new value; `get?` reads. Main statements:
`get?_put_self` and `get?_put_ne`, which say what a put changes, and `get?_ofPairs`, of several
pairs of one key the last counts.
-/

namespace Drill

/-- Pairs of keys and values, oldest key first, each key once. -/
abbrev Assoc (α β : Type) := List (α × β)

namespace Assoc

variable {α β : Type} [DecidableEq α]

/-- The value of a key. -/
def get? : Assoc α β → α → Option β
  | [], _ => none
  | (k, v) :: rest, key => if k = key then some v else get? rest key

/-- Gives a key a value: in its old place, or at the end if the key is new. -/
def put : Assoc α β → α → β → Assoc α β
  | [], key, value => [(key, value)]
  | (k, v) :: rest, key, value =>
    if k = key then (k, value) :: rest else (k, v) :: put rest key value

/-- Drops a key. -/
def erase (entries : Assoc α β) (key : α) : Assoc α β := entries.filter fun e => e.1 ≠ key

/-- The map of a list of pairs, in which a later pair overrules an earlier one of the same key. -/
def ofPairs (pairs : List (α × β)) : Assoc α β :=
  pairs.foldl (fun entries e => put entries e.1 e.2) []

/-- The keys, oldest first. -/
def keys (entries : Assoc α β) : List α := entries.map (·.1)

/-- What was put under a key is found there. -/
@[simp] theorem get?_put_self (entries : Assoc α β) (key : α) (value : β) :
    (entries.put key value).get? key = some value := by
  induction entries with
  | nil => simp [put, get?]
  | cons e rest ih => by_cases h : e.1 = key <;> simp [put, get?, h, ih]

/-- A put changes nothing under the other keys. -/
theorem get?_put_ne (entries : Assoc α β) {key other : α} (value : β) (ne : other ≠ key) :
    (entries.put key value).get? other = entries.get? other := by
  induction entries with
  | nil => simp [put, get?, ne.symm]
  | cons e rest ih =>
    by_cases h : e.1 = key
    · subst h; simp [put, get?, ne.symm]
    · by_cases h' : e.1 = other
      · simp [put, get?, h', ne]
      · simp [put, get?, h, h', ih]

/-- The first entry of a key counts. -/
theorem get?_eq_find? (entries : Assoc α β) (key : α) :
    entries.get? key = (entries.find? fun e => e.1 = key).map (·.2) := by
  induction entries with
  | nil => rfl
  | cons e rest ih =>
    by_cases same : e.1 = key
    · simp [get?, same]
    · simp [get?, same, ih]

/-- Entries that are left out under other keys do not matter to a key. -/
theorem get?_filter {p : α → Bool} {key : α} (kept : p key) (entries : Assoc α β) :
    get? (entries.filter fun e => p e.1) key = get? entries key := by
  rw [get?_eq_find?, get?_eq_find?, List.find?_filter]
  congr 2
  funext e
  by_cases same : e.1 = key
  · simp [same, kept]
  · simp [same]

/-- Whatever is found is an entry. -/
theorem mem_of_get? {entries : Assoc α β} {key : α} {value : β}
    (found : entries.get? key = some value) :
    (key, value) ∈ entries := by
  induction entries with
  | nil => cases found
  | cons e rest ih =>
    unfold get? at found
    split at found
    next same =>
      cases found
      exact same ▸ List.mem_cons_self
    next => exact List.mem_cons_of_mem _ (ih found)

/-- If the keys differ, every entry is found under its key. -/
theorem get?_of_mem {entries : Assoc α β} (distinct : entries.keys.Nodup) {key : α} {value : β}
    (mem : (key, value) ∈ entries) : entries.get? key = some value := by
  induction entries with
  | nil => cases mem
  | cons e rest ih =>
    obtain ⟨new, distinct⟩ := List.nodup_cons.mp distinct
    rcases List.mem_cons.mp mem with rfl | mem
    · exact if_pos rfl
    · have ne : e.1 ≠ key := fun same => new (List.mem_map.mpr ⟨_, mem, same.symm⟩)
      exact (if_neg ne).trans (ih distinct mem)

/-- A put brings in no entry but its own. -/
theorem mem_of_mem_put {entries : Assoc α β} {key : α} {value : β} {e : α × β}
    (mem : e ∈ entries.put key value) : e ∈ entries ∨ e = (key, value) := by
  induction entries with
  | nil => exact .inr (List.mem_singleton.mp mem)
  | cons d rest ih =>
    unfold put at mem
    split at mem
    next same =>
      rcases List.mem_cons.mp mem with rfl | mem
      · exact .inr (by rw [same])
      · exact .inl (List.mem_cons_of_mem _ mem)
    next =>
      rcases List.mem_cons.mp mem with rfl | mem
      · exact .inl List.mem_cons_self
      · exact (ih mem).imp_left (List.mem_cons_of_mem _)

/-- The last pair is put last. -/
theorem ofPairs_concat (pairs : List (α × β)) (e : α × β) :
    ofPairs (pairs ++ [e]) = (ofPairs pairs).put e.1 e.2 := by
  simp only [ofPairs, List.foldl_append, List.foldl_cons, List.foldl_nil]

/-- Of several pairs of one key the last counts. -/
theorem get?_ofPairs (pairs : List (α × β)) (key : α) :
    (ofPairs pairs).get? key = get? pairs.reverse key := by
  rw [← List.reverse_reverse pairs]
  induction pairs.reverse with
  | nil => rfl
  | cons e rest ih =>
    rw [List.reverse_cons, ofPairs_concat, List.reverse_append]
    by_cases same : e.1 = key
    · subst same
      simp [get?]
    · simp [get?, get?_put_ne _ _ (Ne.symm same), same, ih]

/-- Every entry was one of the pairs. -/
theorem mem_of_mem_ofPairs {pairs : List (α × β)} {e : α × β} (mem : e ∈ ofPairs pairs) :
    e ∈ pairs := by
  rw [← List.reverse_reverse pairs] at mem ⊢
  generalize pairs.reverse = backward at mem ⊢
  induction backward with
  | nil => cases mem
  | cons d rest ih =>
    rw [List.reverse_cons, ofPairs_concat] at mem
    rw [List.reverse_cons]
    rcases mem_of_mem_put mem with mem | rfl
    · exact List.mem_append_left _ (ih mem)
    · exact List.mem_append_right _ List.mem_cons_self

end Assoc

end Drill
