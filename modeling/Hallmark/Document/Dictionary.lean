/-
# Hallmark.Document.Dictionary -- entries in the order of their keys' arrival

A dictionary is a list of entries.  Putting a key that is already present keeps the
place of its first arrival and replaces the value, so among repeated keys the first
decides the place and the last decides the value.
-/

namespace Hallmark

set_option autoImplicit false

universe u v

abbrev Dictionary (κ : Type u) (β : Type v) := List (κ × β)

namespace Dictionary

variable {κ : Type u} {β : Type v} [BEq κ]

def get? (d : Dictionary κ β) (key : κ) : Option β :=
  (d.find? (·.1 == key)).map (·.2)

def put : Dictionary κ β → κ → β → Dictionary κ β
  | [], key, value => [(key, value)]
  | (k, v) :: rest, key, value =>
    if k == key then (k, value) :: rest else (k, v) :: put rest key value

/-- The entries of `added` put one by one onto `base`. -/
def merge (base added : Dictionary κ β) : Dictionary κ β :=
  added.foldl (fun d e => d.put e.1 e.2) base

def ofEntries (entries : List (κ × β)) : Dictionary κ β := merge [] entries

/-! ## What a dictionary holds

Keys may be equal to others, as numbers of different kinds are; one that is equal to
nothing but itself is `Sharp`, and of such keys alone it is said what is found under them. -/

/-- A key that only itself is equal to. -/
structure Sharp (key : κ) : Prop where
  beq_iff : ∀ other, (other == key) = true ↔ other = key
  beq_self_iff : ∀ other, (key == other) = true ↔ other = key

theorem sharp_of_lawful [LawfulBEq κ] (key : κ) : Sharp key where
  beq_iff other := by simp
  beq_self_iff other := by
    rw [beq_iff_eq]
    exact eq_comm

theorem get?_cons (k : κ) (v : β) (rest : Dictionary κ β) (key : κ) :
    get? ((k, v) :: rest) key = if k == key then some v else get? rest key := by
  cases here : k == key with
  | true => simp [get?, here]
  | false => simp [get?, here]

theorem get?_put_of_sharp {other : κ} (sharp : Sharp other) (d : Dictionary κ β) (key : κ)
    (value : β) : (d.put key value).get? other = if key == other then some value else d.get? other := by
  induction d with
  | nil => rw [put, get?_cons]
  | cons e rest ih =>
    obtain ⟨k, v⟩ := e
    rw [put, get?_cons]
    by_cases same : (key == other) = true
    · obtain rfl := (sharp.beq_iff key).1 same
      cases here : k == key with
      | true => simp [get?_cons, here, same]
      | false => simp [get?_cons, here, ih]
    · cases here : k == key with
      | false => simp [get?_cons, ih, same]
      | true =>
        have different : (k == other) = false := by
          rw [Bool.eq_false_iff]
          intro found
          obtain rfl := (sharp.beq_iff k).1 found
          exact same (((sharp.beq_self_iff key).1 here) ▸ (sharp.beq_iff _).2 rfl)
        simp [get?_cons, same, different]

theorem get?_put_sharp {key : κ} (sharp : Sharp key) (d : Dictionary κ β) (other : κ) (value : β) :
    (d.put key value).get? other = if key == other then some value else d.get? other := by
  induction d with
  | nil => rw [put, get?_cons]
  | cons e rest ih =>
    obtain ⟨k, v⟩ := e
    rw [put]
    cases here : k == key with
    | true =>
      obtain rfl := (sharp.beq_iff k).1 here
      rw [if_pos rfl, get?_cons, get?_cons]
      split <;> rfl
    | false =>
      rw [if_neg Bool.false_ne_true, get?_cons, get?_cons, ih]
      cases same : key == other with
      | false => rfl
      | true =>
        -- then the key that is passed over is not the one that is looked for
        rw [(sharp.beq_self_iff other).1 same, here]
        rfl

theorem get?_put [LawfulBEq κ] [DecidableEq κ] (d : Dictionary κ β) (key other : κ) (value : β) :
    (d.put key value).get? other = if other = key then some value else d.get? other := by
  rw [get?_put_of_sharp (sharp_of_lawful other)]
  by_cases same : other = key
  · simp [same]
  · have different : (key == other) = false := by simpa using Ne.symm same
    simp [same, different]

/-- Whatever keys are equal, under a key stands what stood there, or the value that was put
for what stood there as well as under the key that was put. -/
theorem get?_put_cases (d : Dictionary κ β) (key other : κ) (value : β) :
    (d.put key value).get? other = d.get? other ∨
      ((d.put key value).get? other = some value ∧ d.get? other = d.get? key) := by
  induction d with
  | nil =>
    rw [put, get?_cons]
    split
    · exact .inr ⟨rfl, rfl⟩
    · exact .inl rfl
  | cons e rest ih =>
    obtain ⟨k, v⟩ := e
    rw [put]
    cases here : k == key with
    | true =>
      rw [if_pos rfl, get?_cons, get?_cons, get?_cons, if_pos here]
      split
      · exact .inr ⟨rfl, rfl⟩
      · exact .inl rfl
    | false =>
      rw [if_neg Bool.false_ne_true, get?_cons, get?_cons, get?_cons, here]
      split
      · exact .inl rfl
      · exact ih

/-- Of the entries that are merged in, the last one of a key decides. -/
theorem get?_merge {key : κ} (sharp : Sharp key) (base added : Dictionary κ β) :
    (base.merge added).get? key
      = ((added.filter (·.1 == key)).getLast?.map (·.2)).or (base.get? key) := by
  induction added generalizing base with
  | nil => rfl
  | cons e rest ih =>
    have step : base.merge (e :: rest) = (base.put e.1 e.2).merge rest := rfl
    rw [step, ih, get?_put_of_sharp sharp]
    cases here : e.1 == key with
    | false => simp [here]
    | true =>
      cases later : (rest.filter (·.1 == key)).getLast? with
      | none => simp [here, List.getLast?_cons, later]
      | some last => simp [here, List.getLast?_cons, later]

theorem get?_map {γ : Type v} (f : β → γ) (d : Dictionary κ β) (key : κ) :
    get? (d.map fun e => (e.1, f e.2)) key = (d.get? key).map f := by
  induction d with
  | nil => rfl
  | cons e rest ih =>
    rw [List.map_cons, get?_cons, ih]
    obtain ⟨k, v⟩ := e
    rw [get?_cons]
    split <;> rfl

/-- Leaving out entries of other keys does not change what is found under a key. -/
theorem get?_filter {p : κ × β → Bool} {key : κ} (d : Dictionary κ β)
    (kept : ∀ e ∈ d, (e.1 == key) = true → p e = true) :
    get? (d.filter p) key = get? d key := by
  induction d with
  | nil => rfl
  | cons e rest ih =>
    have later := ih fun f member => kept f (List.mem_cons_of_mem _ member)
    obtain ⟨k, v⟩ := e
    rw [get?_cons]
    cases here : k == key with
    | true => simp [kept _ List.mem_cons_self here, get?_cons, here]
    | false =>
      rw [List.filter_cons]
      split
      · simp [get?_cons, here, later]
      · simpa using later

omit [BEq κ] in
def keys (d : Dictionary κ β) : List κ := d.map (·.1)

/-! ## Dictionaries that were put together -/

/-- No key is equal to one behind it, as in a dictionary that was put together from nothing. -/
def Distinct (d : Dictionary κ β) : Prop := d.keys.Pairwise fun k l => (k == l) = false

omit [BEq κ] in
theorem keys_cons (k : κ) (v : β) (rest : Dictionary κ β) :
    keys ((k, v) :: rest) = k :: keys rest := rfl

theorem keys_put (d : Dictionary κ β) (key : κ) (value : β) :
    (d.put key value).keys = if d.keys.any (· == key) then d.keys else d.keys ++ [key] := by
  induction d with
  | nil => rfl
  | cons e rest ih =>
    obtain ⟨k, v⟩ := e
    rw [put, keys_cons, List.any_cons]
    cases here : k == key with
    | true => simp [keys_cons]
    | false =>
      simp only [Bool.false_eq_true, ↓reduceIte, Bool.false_or, keys_cons, ih]
      split <;> rfl

instance (d : Dictionary κ β) : Decidable (Distinct d) :=
  inferInstanceAs (Decidable (d.keys.Pairwise fun k l => (k == l) = false))

theorem distinct_nil : Distinct ([] : Dictionary κ β) := List.Pairwise.nil

variable {d base added : Dictionary κ β} {key : κ}

theorem Distinct.put (distinct : Distinct d) (key : κ) (value : β) :
    Distinct (d.put key value) := by
  rw [Distinct, keys_put]
  split
  · exact distinct
  · rename_i absent
    refine List.pairwise_append.2 ⟨distinct, List.pairwise_singleton _ _, fun k here l last => ?_⟩
    rw [List.mem_singleton.1 last]
    exact Bool.eq_false_iff.2 fun same => absent (List.any_eq_true.2 ⟨k, here, same⟩)

theorem Distinct.merge (distinct : Distinct base) (added : Dictionary κ β) :
    Distinct (base.merge added) := by
  induction added generalizing base with
  | nil => exact distinct
  | cons e rest ih => exact ih (distinct.put e.1 e.2)

/-- Under a sharp key a dictionary with distinct keys holds one entry at most. -/
theorem Distinct.getLast?_filter (distinct : Distinct d) (sharp : Sharp key) :
    (d.filter (·.1 == key)).getLast?.map (·.2) = d.get? key := by
  induction d with
  | nil => rfl
  | cons e rest ih =>
    obtain ⟨k, v⟩ := e
    obtain ⟨apart, others⟩ := List.pairwise_cons.1 distinct
    rw [get?_cons]
    cases here : k == key with
    | false => simpa [here] using ih others
    | true =>
      have gone : rest.filter (·.1 == key) = [] := by
        refine List.filter_eq_nil_iff.2 fun e member again => ?_
        have same : (k == e.1) = true := by
          rw [(sharp.beq_iff _).1 here, (sharp.beq_iff _).1 again]
          exact (sharp.beq_iff key).2 rfl
        rw [apart e.1 (List.mem_map_of_mem member)] at same
        cases same
      simp [here, gone]

/-- What is merged in decides, and what it leaves out is as it was. -/
theorem get?_merge_of_distinct (sharp : Sharp key) (distinct : Distinct added) :
    (base.merge added).get? key = (added.get? key).or (base.get? key) := by
  rw [get?_merge sharp, distinct.getLast?_filter sharp]

end Dictionary

end Hallmark
