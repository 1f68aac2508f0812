import Mathlib.Data.Set.Function
import Rubric.Proofs.Store

namespace Rubric

structure Write where
  declaration : OutcomeDeclaration
  value : Value

def Write.target (w : Write) : String :=
  w.declaration.identifier

namespace Store

variable {store : Store} {d e : OutcomeDeclaration} {f g : Variable → Variable}

def writeAll (store : Store) (ws : List Write) : Store :=
  ws.foldl (fun store w => store.write w.declaration w.value) store

theorem writeAll_cons (store : Store) (w : Write) (ws : List Write) :
    store.writeAll (w :: ws) = (store.write w.declaration w.value).writeAll ws := rfl

theorem writeAll_append (store : Store) (us ws : List Write) :
    store.writeAll (us ++ ws) = (store.writeAll us).writeAll ws :=
  List.foldl_append

section eqOn

variable {A : Set String} {store' : Store}

theorem eqOn_write (h : Set.EqOn (Variable.find? store) (Variable.find? store') A)
    (d : OutcomeDeclaration) (value : Value) :
    Set.EqOn (Variable.find? (store.write d value)) (Variable.find? (store'.write d value)) A := by
  intro x hx
  rw [find?_write, find?_write]
  split
  · next hd => rw [variableOf, variableOf, hd, h hx]
  · exact h hx

theorem eqOn_writeAll (h : Set.EqOn (Variable.find? store) (Variable.find? store') A)
    (ws : List Write) :
    Set.EqOn (Variable.find? (store.writeAll ws)) (Variable.find? (store'.writeAll ws)) A := by
  induction ws generalizing store store' with
  | nil => exact h
  | cons w ws ih => exact ih (eqOn_write h w.declaration w.value)

theorem find?_writeAll_of_not_mem {ws : List Write} {x : String} (h : ∀ w ∈ ws, w.target ≠ x)
    (store : Store) : Variable.find? (store.writeAll ws) x = Variable.find? store x := by
  induction ws generalizing store with
  | nil => rfl
  | cons w ws ih =>
    rw [writeAll_cons, ih fun u hu => h u (.tail _ hu), find?_write, if_neg]
    exact h w (.head _)

end eqOn

theorem isSome_of_ne_head {v : Variable} {vs : List Variable} {identifier : String}
    (h : (Variable.find? (v :: vs) identifier).isSome = true) (hv : v.identifier ≠ identifier) :
    (Variable.find? vs identifier).isSome = true := by
  rwa [Variable.find?_cons, if_neg hv] at h

theorem update_congr (hd : (Variable.find? store d.identifier).isSome = true)
    (h : d.identifier = e.identifier) (f : Variable → Variable) :
    store.update d f = store.update e f := by
  induction store with
  | nil => cases hd
  | cons v vs ih =>
    by_cases hv : v.identifier = d.identifier
    · simp only [update, hv, h, ↓reduceIte]
    · have hve : v.identifier ≠ e.identifier := h ▸ hv
      simp only [update, hv, hve, ↓reduceIte, ih (isSome_of_ne_head hd hv)]

theorem update_update (hf : ∀ v, (f v).identifier = v.identifier) (store : Store)
    (d : OutcomeDeclaration) : (store.update d f).update d g = store.update d (g ∘ f) := by
  induction store with
  | nil =>
    have hd : (f d.toVariable).identifier = d.identifier := hf _
    simp only [update, hd, ↓reduceIte, Function.comp_apply]
  | cons v vs ih =>
    by_cases hv : v.identifier = d.identifier
    · simp only [update, hf, hv, ↓reduceIte, Function.comp_apply]
    · simp only [update, hv, ↓reduceIte, ih]

/-- Updates of different variables commute unless both create their variable. -/
theorem update_comm (hf : ∀ v, (f v).identifier = v.identifier)
    (hg : ∀ v, (g v).identifier = v.identifier) (h : d.identifier ≠ e.identifier)
    (hd : (Variable.find? store d.identifier).isSome = true) :
    (store.update d f).update e g = (store.update e g).update d f := by
  induction store with
  | nil => cases hd
  | cons v vs ih =>
    by_cases hvd : v.identifier = d.identifier
    · simp only [update, hvd, h, hf, ↓reduceIte]
    · have hrest := ih (isSome_of_ne_head hd hvd)
      by_cases hve : v.identifier = e.identifier
      · have hed : e.identifier ≠ d.identifier := h.symm
        simp only [update, hve, hed, hg, ↓reduceIte]
      · simp only [update, hvd, hve, ↓reduceIte, hrest]

theorem write_write_self (store : Store) (d : OutcomeDeclaration) (a b : Value) :
    (store.write d a).write d b = store.write d b := by
  have hassign : (fun v : Variable => v.assign b) ∘ (fun v : Variable => v.assign a) =
      fun v => v.assign b := by
    funext v
    exact v.assign_assign a b
  unfold write
  rw [update_update fun v => v.identifier_assign a, hassign]

/-- So it does when the declarations differ, as long as neither creates the variable. -/
theorem write_write (hd : (Variable.find? store d.identifier).isSome = true)
    (h : d.identifier = e.identifier) (a b : Value) :
    (store.write d a).write e b = store.write e b := by
  have hsame : store.write d a = store.write e a := update_congr hd h _
  rw [hsame, write_write_self]

theorem write_comm (h : d.identifier ≠ e.identifier)
    (hd : (Variable.find? store d.identifier).isSome = true) (a b : Value) :
    (store.write d a).write e b = (store.write e b).write d a :=
  update_comm (fun v => v.identifier_assign a) (fun v => v.identifier_assign b) h hd

theorem writeAll_write_comm {u : Write} {ws : List Write}
    (hu : (Variable.find? store u.target).isSome = true) (h : ∀ w ∈ ws, u.target ≠ w.target) :
    (store.write u.declaration u.value).writeAll ws =
      (store.writeAll ws).write u.declaration u.value := by
  induction ws generalizing store with
  | nil => rfl
  | cons w ws ih =>
    have hw : u.target ≠ w.target := h w (.head _)
    rw [writeAll_cons, writeAll_cons, write_comm hw hu]
    exact ih (isSome_find?_write w.declaration w.value hu) fun v hv => h v (.tail _ hv)

theorem writeAll_comm {us ws : List Write}
    (hus : ∀ u ∈ us, (Variable.find? store u.target).isSome = true)
    (h : ∀ u ∈ us, ∀ w ∈ ws, u.target ≠ w.target) :
    (store.writeAll us).writeAll ws = (store.writeAll ws).writeAll us := by
  induction us generalizing store with
  | nil => rfl
  | cons u us ih =>
    have hrest : ∀ v ∈ us,
        (Variable.find? (store.write u.declaration u.value) v.target).isSome = true :=
      fun v hv => isSome_find?_write u.declaration u.value (hus v (.tail _ hv))
    calc (store.writeAll (u :: us)).writeAll ws
        = ((store.write u.declaration u.value).writeAll ws).writeAll us :=
          ih hrest fun v hv => h v (.tail _ hv)
      _ = ((store.writeAll ws).write u.declaration u.value).writeAll us := by
          rw [writeAll_write_comm (hus u (.head _)) (h u (.head _))]

theorem writeAll_write_of_mem {u : Write} {ws : List Write}
    (hu : (Variable.find? store u.target).isSome = true) (hmem : u.target ∈ ws.map Write.target) :
    (store.write u.declaration u.value).writeAll ws = store.writeAll ws := by
  -- The write is moved towards the later one past writes to other variables.
  induction ws generalizing store with
  | nil => cases hmem
  | cons w ws ih =>
    rw [writeAll_cons, writeAll_cons]
    by_cases hw : u.target = w.target
    · rw [write_write hu hw]
    · have hrest : u.target ∈ ws.map Write.target := (List.mem_cons.1 hmem).resolve_left hw
      rw [write_comm hw hu, ih (isSome_find?_write w.declaration w.value hu) hrest]

theorem writeAll_writeAll_of_subset {us ws : List Write}
    (hpresent : ∀ u ∈ us, (Variable.find? store u.target).isSome = true)
    (hsubset : ∀ u ∈ us, u.target ∈ ws.map Write.target) :
    (store.writeAll us).writeAll ws = store.writeAll ws := by
  induction us generalizing store with
  | nil => rfl
  | cons u us ih =>
    have hrest : ∀ v ∈ us,
        (Variable.find? (store.write u.declaration u.value) v.target).isSome = true :=
      fun v hv => isSome_find?_write u.declaration u.value (hpresent v (.tail _ hv))
    rw [writeAll_cons, ih hrest fun v hv => hsubset v (.tail _ hv)]
    exact writeAll_write_of_mem (hpresent u (.head _)) (hsubset u (.head _))

/-- The same writes made a second time change nothing. -/
theorem writeAll_writeAll_self {ws : List Write}
    (h : ∀ w ∈ ws, (Variable.find? store w.target).isSome = true) :
    (store.writeAll ws).writeAll ws = store.writeAll ws :=
  writeAll_writeAll_of_subset h fun _ hu => List.mem_map_of_mem hu

/-- The variables that have none of the given names, in their order. -/
def without (names : List String) (store : Store) : Store :=
  store.filter fun v => v.identifier ∉ names

section without

variable {names : List String}

theorem without_cons (v : Variable) (vs : Store) :
    without names (v :: vs) =
      if v.identifier ∈ names then without names vs else v :: without names vs := by
  by_cases hv : v.identifier ∈ names <;> simp [without, hv]

theorem without_update_of_mem (hf : ∀ v, (f v).identifier = v.identifier)
    (hd : d.identifier ∈ names) (store : Store) :
    without names (store.update d f) = without names store := by
  induction store with
  | nil =>
    have hcreated : (f d.toVariable).identifier = d.identifier := hf _
    rw [update, without_cons, hcreated, if_pos hd]
  | cons v vs ih =>
    by_cases hv : v.identifier = d.identifier
    · simp only [update, without_cons, hf, hv, hd, ↓reduceIte]
    · simp only [update, hv, without_cons, ih, ↓reduceIte]

theorem without_update_of_not_mem (hf : ∀ v, (f v).identifier = v.identifier)
    (hd : d.identifier ∉ names) (store : Store) :
    without names (store.update d f) = (without names store).update d f := by
  induction store with
  | nil =>
    have hcreated : (f d.toVariable).identifier = d.identifier := hf _
    rw [update, without_cons, hcreated, if_neg hd]
    rfl
  | cons v vs ih =>
    by_cases hv : v.identifier = d.identifier
    · simp only [update, without_cons, hf, hv, hd, ↓reduceIte]
    · simp only [update, hv, without_cons, ih, ↓reduceIte]
      split
      · rfl
      · simp only [update, hv, ↓reduceIte]

theorem without_writeAll_of_mem {ws : List Write} (h : ∀ w ∈ ws, w.target ∈ names)
    (store : Store) : without names (store.writeAll ws) = without names store := by
  induction ws generalizing store with
  | nil => rfl
  | cons w ws ih =>
    rw [writeAll_cons, ih fun u hu => h u (.tail _ hu)]
    exact without_update_of_mem (fun v => v.identifier_assign w.value) (h w (.head _)) store

theorem without_writeAll_of_not_mem {ws : List Write} (h : ∀ w ∈ ws, w.target ∉ names)
    (store : Store) : without names (store.writeAll ws) = (without names store).writeAll ws := by
  induction ws generalizing store with
  | nil => rfl
  | cons w ws ih =>
    rw [writeAll_cons, ih fun u hu => h u (.tail _ hu), writeAll_cons]
    congr 1
    exact without_update_of_not_mem (fun v => v.identifier_assign w.value) (h w (.head _)) store

/-- Variables without some names are created from the declarations without them. -/
theorem without_ensureAll (store : Store) (ds : List OutcomeDeclaration) :
    without names (store.ensureAll ds) =
      (without names store).ensureAll (ds.filter fun d => d.identifier ∉ names) := by
  induction ds generalizing store with
  | nil => rfl
  | cons d ds ih =>
    have hstep : store.ensureAll (d :: ds) = (store.ensure d).ensureAll ds := rfl
    rw [hstep, ih]
    by_cases hd : d.identifier ∈ names
    · have hensure : without names (store.ensure d) = without names store :=
        without_update_of_mem (fun _ => rfl) hd store
      simp [hensure, hd]
    · have hensure : without names (store.ensure d) = (without names store).ensure d :=
        without_update_of_not_mem (fun _ => rfl) hd store
      simp [hensure, hd, ensureAll]

end without

end Store

end Rubric
