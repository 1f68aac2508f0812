namespace Rubric

/-- A finite map from texts, as entries in strictly ascending order of keys. -/
structure Dictionary (α : Type) where
  entries : List (String × α)
  ascending : entries.Pairwise (fun a b => a.1 < b.1)

namespace Dictionary

variable {α : Type}

instance : EmptyCollection (Dictionary α) := ⟨⟨[], .nil⟩⟩

instance : Inhabited (Dictionary α) := ⟨{}⟩

@[simp]
theorem entries_empty : (∅ : Dictionary α).entries = [] := rfl

/-- Puts an entry into its place among ascending entries, in place of one with the same key. -/
def insertEntry (key : String) (value : α) : List (String × α) → List (String × α)
  | [] => [(key, value)]
  | e :: rest =>
    if key < e.1 then (key, value) :: e :: rest
    else if e.1 < key then e :: insertEntry key value rest
    else (key, value) :: rest

theorem mem_insertEntry {key : String} {value : α} {es : List (String × α)} {e : String × α}
    (h : e ∈ insertEntry key value es) : e = (key, value) ∨ e ∈ es := by
  induction es with
  | nil => simpa [insertEntry] using h
  | cons d ds ih =>
    unfold insertEntry at h
    split at h
    · simpa using h
    · split at h
      · rcases List.mem_cons.1 h with rfl | h
        · simp
        · rcases ih h with rfl | h <;> simp_all
      · rcases List.mem_cons.1 h with rfl | h <;> simp_all

theorem pairwise_insertEntry {key : String} {value : α} {es : List (String × α)}
    (h : es.Pairwise fun a b => a.1 < b.1) :
    (insertEntry key value es).Pairwise fun a b => a.1 < b.1 := by
  induction es with
  | nil => simp [insertEntry]
  | cons d ds ih =>
    have hd := List.pairwise_cons.1 h
    unfold insertEntry
    split
    · rename_i hlt
      refine List.pairwise_cons.2 ⟨fun e he => ?_, h⟩
      rcases List.mem_cons.1 he with rfl | he
      · exact hlt
      · exact String.lt_trans hlt (hd.1 e he)
    · split
      · rename_i hgt
        refine List.pairwise_cons.2 ⟨fun e he => ?_, ih hd.2⟩
        rcases mem_insertEntry he with rfl | he
        · exact hgt
        · exact hd.1 e he
      · rename_i h1 h2
        have : d.1 = key := String.le_antisymm (String.not_lt.1 h1) (String.not_lt.1 h2)
        exact List.pairwise_cons.2 ⟨fun e he => this ▸ hd.1 e he, hd.2⟩

theorem mem_keys_insertEntry {key : String} {value : α} {es : List (String × α)} {k : String} :
    k ∈ (insertEntry key value es).map Prod.fst ↔ k = key ∨ k ∈ es.map Prod.fst := by
  induction es with
  | nil => simp [insertEntry]
  | cons e es ih =>
    unfold insertEntry
    split
    · simp
    · split
      · rw [List.map_cons, List.mem_cons, ih, List.map_cons, List.mem_cons]
        exact or_left_comm
      · rename_i h1 h2
        have hk : e.1 = key := String.le_antisymm (String.not_lt.1 h1) (String.not_lt.1 h2)
        simp [hk]

/-- The dictionary with an entry added, or replaced when its key is there already. -/
def insert (d : Dictionary α) (key : String) (value : α) : Dictionary α :=
  ⟨insertEntry key value d.entries, pairwise_insertEntry d.ascending⟩

/-- The dictionary of a list of entries; of several with one key the last counts. -/
def ofList (es : List (String × α)) : Dictionary α :=
  es.foldl (fun d e => d.insert e.1 e.2) {}

def get? (d : Dictionary α) (key : String) : Option α :=
  (d.entries.find? fun e => e.1 == key).map Prod.snd

def isEmpty (d : Dictionary α) : Bool :=
  d.entries.isEmpty

@[ext]
theorem ext {a b : Dictionary α} (h : a.entries = b.entries) : a = b := by
  cases a
  cases b
  simp_all

instance [DecidableEq α] : DecidableEq (Dictionary α) := fun a b =>
  decidable_of_iff (a.entries = b.entries) ⟨Dictionary.ext, fun h => h ▸ rfl⟩

theorem get?_insert_self (d : Dictionary α) (key : String) (value : α) :
    (d.insert key value).get? key = some value := by
  obtain ⟨es, h⟩ := d
  simp only [get?, insert]
  induction es with
  | nil => simp [insertEntry]
  | cons e es ih =>
    unfold insertEntry
    split
    · simp
    · split
      · rename_i hlt
        have hne : (e.1 == key) = false := by
          simpa using fun he : e.1 = key => String.lt_irrefl key (he ▸ hlt)
        rw [List.find?_cons_of_neg (by simp [hne])]
        exact ih (List.pairwise_cons.1 h).2
      · simp

theorem get?_insert_of_ne (d : Dictionary α) {key other : String} (value : α)
    (hne : key ≠ other) : (d.insert key value).get? other = d.get? other := by
  obtain ⟨es, h⟩ := d
  simp only [get?, insert]
  induction es with
  | nil => simp [insertEntry, hne]
  | cons e es ih =>
    unfold insertEntry
    split
    · rw [List.find?_cons_of_neg (by simpa using hne)]
    · split
      · simp only [List.find?_cons]
        split
        · rfl
        · exact ih (List.pairwise_cons.1 h).2
      · rename_i h1 h2
        have hk : e.1 = key := String.le_antisymm (String.not_lt.1 h1) (String.not_lt.1 h2)
        rw [List.find?_cons_of_neg (by simpa using hne),
          List.find?_cons_of_neg (by simpa [hk] using hne)]

end Dictionary

structure TextSet where
  elements : List String
  ascending : elements.Pairwise (· < ·)

namespace TextSet

instance : EmptyCollection TextSet := ⟨⟨[], .nil⟩⟩

instance : Inhabited TextSet := ⟨{}⟩

@[simp]
theorem elements_empty : (∅ : TextSet).elements = [] := rfl

def ofList (xs : List String) : TextSet :=
  let d := Dictionary.ofList (xs.map fun x => (x, ()))
  ⟨d.entries.map Prod.fst, List.pairwise_map.2 d.ascending⟩

def contains (s : TextSet) (x : String) : Bool :=
  s.elements.contains x

@[simp]
theorem contains_iff_mem {s : TextSet} {x : String} : s.contains x = true ↔ x ∈ s.elements :=
  List.contains_iff_mem

@[simp]
theorem mem_ofList {xs : List String} {x : String} : x ∈ (ofList xs).elements ↔ x ∈ xs := by
  have hkeys (es : List (String × Unit)) (d : Dictionary Unit) :
      x ∈ (es.foldl (fun d e => d.insert e.1 e.2) d).entries.map Prod.fst ↔
        x ∈ es.map Prod.fst ∨ x ∈ d.entries.map Prod.fst := by
    induction es generalizing d with
    | nil => simp
    | cons e es ih =>
      rw [List.foldl_cons, ih, Dictionary.insert, Dictionary.mem_keys_insertEntry, List.map_cons,
        List.mem_cons, or_assoc, or_left_comm]
  have hlist : (xs.map fun x => (x, ())).map Prod.fst = xs := by
    rw [List.map_map]
    exact List.map_id xs
  have hx := hkeys (xs.map fun x => (x, ())) {}
  rw [hlist] at hx
  simpa [ofList, Dictionary.ofList] using hx

theorem nodup_elements (s : TextSet) : s.elements.Nodup :=
  s.ascending.imp fun h => String.ne_of_lt h

@[ext]
theorem ext {a b : TextSet} (h : a.elements = b.elements) : a = b := by
  cases a
  cases b
  simp_all

instance : DecidableEq TextSet := fun a b =>
  decidable_of_iff (a.elements = b.elements) ⟨TextSet.ext, fun h => h ▸ rfl⟩

end TextSet

end Rubric
