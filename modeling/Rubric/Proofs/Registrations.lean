import Mathlib.Data.List.Induction
import Rubric.Proofs.Placement
import Rubric.Proofs.Sorting
import Rubric.Proofs.Tags

namespace Rubric

namespace Text

theorem afterLast_lowerAscii (s : String) :
    afterLast ':' (lowerAscii s) = lowerAscii (afterLast ':' s) := by
  have hcolon : ((· != ':') ∘ Char.toLower) = (· != ':') := by
    funext c
    rw [Function.comp_apply, Bool.eq_iff_iff, bne_iff_ne, bne_iff_ne, Ne, toLower_eq_iff rfl]
  rw [afterLast, lowerAscii, lowerAscii, afterLast, String.toList_ofList, String.toList_ofList,
    afterLastChars, afterLastChars, ← List.map_reverse, List.takeWhile_map, hcolon,
    List.map_reverse]

def SameButCase (a b : String) : Prop :=
  lowerAscii a = lowerAscii b

instance (a b : String) : Decidable (SameButCase a b) :=
  inferInstanceAs (Decidable (lowerAscii a = lowerAscii b))

end Text

namespace CustomOperator

def key (o : CustomOperator) : String :=
  Text.lowerAscii o.name

/-- The operator was registered, and none of the same name after it. -/
def Current (history : List CustomOperator) (o : CustomOperator) : Prop :=
  ∃ before after, history = before ++ o :: after ∧ ∀ p ∈ after, p.key ≠ o.key

def Named (o : CustomOperator) (name : String) : Prop :=
  Text.SameButCase o.name (Text.trim name)

/-- The parts after the last colon differ at most in case. -/
def LocallyNamed (o : CustomOperator) (name : String) : Prop :=
  Text.SameButCase (Text.afterLast ':' o.name) (Text.afterLast ':' (Text.trim name))

variable {history : List CustomOperator} {o p : CustomOperator}

theorem not_current_nil : ¬Current [] o := by
  rintro ⟨before, after, h, -⟩
  cases before <;> cases h

theorem Current.mem (h : Current history o) : o ∈ history := by
  obtain ⟨before, after, rfl, -⟩ := h
  exact List.mem_append_right before List.mem_cons_self

theorem current_append_iff :
    Current (history ++ [o]) p ↔ p = o ∨ Current history p ∧ p.key ≠ o.key := by
  constructor
  · rintro ⟨before, after, h, hlast⟩
    obtain rfl | ⟨after, q, rfl⟩ := List.eq_nil_or_concat after
    · obtain ⟨-, heq⟩ := List.append_inj' h rfl
      cases heq
      exact .inl rfl
    · rw [List.concat_eq_append, ← List.cons_append, ← List.append_assoc] at h
      obtain ⟨rfl, heq⟩ := List.append_inj' h rfl
      cases heq
      have hne := hlast o (by simp)
      refine .inr ⟨⟨before, after, rfl, ?_⟩, hne.symm⟩
      intro q hq
      exact hlast q (by simp [hq])
  · rintro (rfl | ⟨⟨before, after, rfl, hlast⟩, hne⟩)
    · exact ⟨history, [], rfl, by simp⟩
    · refine ⟨before, after ++ [o], by simp, ?_⟩
      intro q hq
      obtain hq | hq := List.mem_append.1 hq
      · exact hlast q hq
      · cases List.mem_singleton.1 hq
        exact hne.symm

theorem exists_current (h : o ∈ history) : ∃ p, Current history p ∧ p.key = o.key := by
  induction history using List.reverseRecOn with
  | nil => cases h
  | append_singleton history q ih =>
    by_cases hkey : q.key = o.key
    · exact ⟨q, current_append_iff.2 (.inl rfl), hkey⟩
    · obtain hold | hnew := List.mem_append.1 h
      · obtain ⟨p, hp, hpo⟩ := ih hold
        refine ⟨p, current_append_iff.2 (.inr ⟨hp, ?_⟩), hpo⟩
        rw [hpo]
        exact Ne.symm hkey
      · cases List.mem_singleton.1 hnew
        exact absurd rfl hkey

end CustomOperator

namespace Registry

open CustomOperator

/-- The registries that come about by registering, each with all registrations so far. -/
inductive Registered : Registry → List CustomOperator → Prop
  | empty (arrangement : Arrangement) : Registered { arrangement } []
  | standard (checker : EquivalenceChecker) (arrangement : Arrangement) :
    Registered ((standard checker).arranged arrangement) [.trim, .mathEqual checker]
  | register {r : Registry} {history : List CustomOperator} (h : Registered r history)
    (o : CustomOperator) : Registered (r.register o) (history ++ [o])

variable {r : Registry} {history operators : List CustomOperator} {o p : CustomOperator}
  {entries : List (String × CustomOperator)} {e : String × CustomOperator} {key name : String}

theorem Registered.registerAll (h : Registered r history) (operators : List CustomOperator) :
    Registered (r.registerAll operators) (history ++ operators) := by
  induction operators generalizing r history with
  | nil =>
    rw [List.append_nil]
    exact h
  | cons o rest ih =>
    have hrest := ih (h.register o)
    rwa [List.append_assoc, List.singleton_append] at hrest

theorem mem_keys_put {k : String} :
    k ∈ (put key o entries).map Prod.fst ↔ k = key ∨ k ∈ entries.map Prod.fst := by
  induction entries with
  | nil => simp [put]
  | cons e rest ih =>
    rw [put]
    split
    · next he => simp [he]
    · simp only [List.map_cons, List.mem_cons, ih]
      exact or_left_comm

theorem nodup_keys_put (h : (entries.map Prod.fst).Nodup) :
    ((put key o entries).map Prod.fst).Nodup := by
  induction entries with
  | nil => simp [put]
  | cons e rest ih =>
    rw [List.map_cons, List.nodup_cons] at h
    rw [put]
    split
    · next he =>
      rw [List.map_cons, List.nodup_cons, ← he]
      exact h
    · next he =>
      rw [List.map_cons, List.nodup_cons, mem_keys_put]
      exact ⟨not_or_intro he h.1, ih h.2⟩

theorem mem_put_iff (h : (entries.map Prod.fst).Nodup) :
    e ∈ put key o entries ↔ e = (key, o) ∨ e ∈ entries ∧ e.1 ≠ key := by
  induction entries with
  | nil => simp [put]
  | cons d rest ih =>
    rw [List.map_cons, List.nodup_cons] at h
    rw [put]
    split
    · next hd =>
      have hrest : e ∈ rest → e.1 ≠ key := by
        rintro he rfl
        exact h.1 (hd ▸ List.mem_map_of_mem he)
      rw [List.mem_cons, List.mem_cons]
      constructor
      · rintro (heq | he)
        · exact .inl heq
        · exact .inr ⟨.inr he, hrest he⟩
      · rintro (heq | ⟨rfl | he, hne⟩)
        · exact .inl heq
        · exact absurd hd hne
        · exact .inr he
    · next hd =>
      rw [List.mem_cons, List.mem_cons, ih h.2]
      constructor
      · rintro (rfl | heq | ⟨he, hne⟩)
        · exact .inr ⟨.inl rfl, hd⟩
        · exact .inl heq
        · exact .inr ⟨.inr he, hne⟩
      · rintro (heq | ⟨rfl | he, hne⟩)
        · exact .inr (.inl heq)
        · exact .inl rfl
        · exact .inr (.inr ⟨he, hne⟩)

/-- A registry holds the current operators of a history, each once and under its key. -/
structure Holds (r : Registry) (history : List CustomOperator) : Prop where
  nodup : (r.entries.map Prod.fst).Nodup
  mem_iff : ∀ e, e ∈ r.entries ↔ e.1 = e.2.key ∧ Current history e.2

theorem holds_empty (arrangement : Arrangement) : Holds { arrangement } [] where
  nodup := List.nodup_nil
  mem_iff e := by simp [not_current_nil]

theorem Holds.register (h : Holds r history) (o : CustomOperator) :
    Holds (r.register o) (history ++ [o]) where
  nodup := nodup_keys_put h.nodup
  mem_iff e := by
    change e ∈ put o.key o r.entries ↔ _
    rw [mem_put_iff h.nodup, h.mem_iff, current_append_iff]
    obtain ⟨k, p⟩ := e
    constructor
    · rintro (heq | ⟨⟨hkey, hp⟩, hne⟩)
      · cases heq
        exact ⟨rfl, .inl rfl⟩
      · exact ⟨hkey, .inr ⟨hp, hkey ▸ hne⟩⟩
    · rintro ⟨hkey, rfl | ⟨hp, hne⟩⟩
      · exact .inl (congrArg (·, p) hkey)
      · exact .inr ⟨⟨hkey, hp⟩, hkey ▸ hne⟩

theorem Registered.holds (h : Registered r history) : Holds r history := by
  induction h with
  | empty arrangement => exact holds_empty arrangement
  | standard checker arrangement =>
    exact ((holds_empty arrangement).register .trim).register (.mathEqual checker)
  | register _ o ih => exact ih.register o

theorem Holds.mem_entries (h : Holds r history) (ho : Current history o) :
    (o.key, o) ∈ r.entries :=
  (h.mem_iff _).2 ⟨rfl, ho⟩

theorem Holds.mem_arranged_iff (h : Holds r history) :
    e ∈ r.arrangement.arrange r.entries ↔ e.1 = e.2.key ∧ Current history e.2 := by
  rw [(r.arrangement.perm r.entries).mem_iff, h.mem_iff]

theorem Holds.find?_of_named (h : Holds r history) (ho : Current history o) (hname : o.Named name) :
    r.find? name = some o := by
  have hexact : (r.entries.find? fun e => e.1 == Text.lowerAscii (Text.trim name)) =
      some (o.key, o) :=
    (find?_key_eq_some_iff h.nodup).2 ⟨h.mem_entries ho, hname⟩
  simp only [find?, hexact, Option.some_or, Option.map_some]

/-- Without an operator of the name itself the local names decide. -/
theorem Holds.find?_of_not_named (h : Holds r history)
    (hnone : ∀ o, Current history o → ¬o.Named name) :
    r.find? name = ((r.arrangement.arrange r.entries).find? fun e =>
      Text.afterLast ':' e.1 == Text.afterLast ':' (Text.lowerAscii (Text.trim name))).map
        Prod.snd := by
  have hexact : (r.entries.find? fun e => e.1 == Text.lowerAscii (Text.trim name)) = none := by
    rw [List.find?_eq_none]
    intro e he hname
    obtain ⟨hkey, ho⟩ := (h.mem_iff e).1 he
    apply hnone e.2 ho
    rw [beq_iff_eq, hkey] at hname
    exact hname
  simp only [find?, hexact, Option.none_or]

theorem locallyNamed_iff : Text.afterLast ':' o.key = Text.afterLast ':' (Text.lowerAscii
    (Text.trim name)) ↔ o.LocallyNamed name := by
  rw [CustomOperator.key, Text.afterLast_lowerAscii, Text.afterLast_lowerAscii]
  rfl

theorem Holds.find?_of_locallyNamed (h : Holds r history)
    (hnone : ∀ o, Current history o → ¬o.Named name)
    (hlocal : ∃ o, Current history o ∧ o.LocallyNamed name) :
    ∃ o, r.find? name = some o ∧ Current history o ∧ o.LocallyNamed name := by
  obtain ⟨o, ho, hname⟩ := hlocal
  rw [h.find?_of_not_named hnone]
  cases hfind : (r.arrangement.arrange r.entries).find? fun e =>
      Text.afterLast ':' e.1 == Text.afterLast ':' (Text.lowerAscii (Text.trim name)) with
  | none =>
    rw [List.find?_eq_none] at hfind
    have hmem : (o.key, o) ∈ r.arrangement.arrange r.entries := h.mem_arranged_iff.2 ⟨rfl, ho⟩
    have hdiffers := hfind _ hmem
    rw [beq_iff_eq, locallyNamed_iff] at hdiffers
    exact absurd hname hdiffers
  | some e =>
    obtain ⟨hkey, he⟩ := h.mem_arranged_iff.1 (List.mem_of_find?_eq_some hfind)
    have hsame := List.find?_some hfind
    rw [beq_iff_eq, hkey, locallyNamed_iff] at hsame
    exact ⟨e.2, rfl, he, hsame⟩

theorem Holds.find?_eq_none (h : Holds r history)
    (hnone : ∀ o, Current history o → ¬o.Named name)
    (hlocal : ∀ o, Current history o → ¬o.LocallyNamed name) : r.find? name = none := by
  rw [h.find?_of_not_named hnone, Option.map_eq_none_iff, List.find?_eq_none]
  intro e he hsame
  obtain ⟨hkey, ho⟩ := h.mem_arranged_iff.1 he
  rw [beq_iff_eq, hkey, locallyNamed_iff] at hsame
  exact hlocal e.2 ho hsame

theorem Holds.mem_names_iff (h : Holds r history) :
    name ∈ r.names ↔ ∃ o, Current history o ∧ o.name = name := by
  rw [names, List.mem_mergeSort, List.mem_map]
  constructor
  · rintro ⟨e, he, rfl⟩
    exact ⟨e.2, ((h.mem_iff e).1 he).2, rfl⟩
  · rintro ⟨o, ho, rfl⟩
    exact ⟨_, h.mem_entries ho, rfl⟩

theorem Holds.nodup_names (h : Holds r history) : (r.names.map Text.lowerAscii).Nodup := by
  have hkeys : (r.entries.map fun e => e.2.name).map Text.lowerAscii = r.entries.map Prod.fst := by
    rw [List.map_map]
    apply List.map_congr_left
    intro e he
    exact ((h.mem_iff e).1 he).1.symm
  have hperm := (List.mergeSort_perm (r.entries.map fun e => e.2.name)
    fun a b => decide (a ≤ b)).map Text.lowerAscii
  rw [hkeys] at hperm
  exact hperm.nodup_iff.2 h.nodup

theorem Holds.pairwise_names (h : Holds r history) : r.names.Pairwise (· < ·) := by
  have hsorted : r.names.Pairwise (· ≤ ·) := pairwise_mergeSort_key id _
  have hdistinct : r.names.Pairwise (· ≠ ·) := h.nodup_names.of_map _
  refine (hsorted.and hdistinct).imp ?_
  rintro a b ⟨hle, hne⟩
  rw [← String.not_le]
  intro hge
  exact hne (String.le_antisymm hle hge)

/-- After any registrations: the operator last registered under a name is found by it. Failing
that, some operator with the same local name is found that has not been replaced, and failing that
none. The names listed ascend; they are those of the operators not replaced, one for each name ever
registered. -/
theorem lookup_after_registrations (h : Registered r history) (name : String) :
    (∀ o, Current history o → o.Named name → r.find? name = some o) ∧
    ((∀ o, Current history o → ¬o.Named name) →
      (∃ o, Current history o ∧ o.LocallyNamed name) →
      ∃ o, r.find? name = some o ∧ Current history o ∧ o.LocallyNamed name) ∧
    ((∀ o, Current history o → ¬o.Named name) →
      (∀ o, Current history o → ¬o.LocallyNamed name) → r.find? name = none) ∧
    r.names.Pairwise (· < ·) ∧
    (∀ listed, listed ∈ r.names ↔ ∃ o, Current history o ∧ o.name = listed) ∧
    ∀ o ∈ history, ∃! listed, listed ∈ r.names ∧ Text.SameButCase listed o.name := by
  have hholds := h.holds
  refine ⟨?_, hholds.find?_of_locallyNamed, hholds.find?_eq_none, hholds.pairwise_names, ?_, ?_⟩
  · intro o
    exact hholds.find?_of_named
  · intro listed
    exact hholds.mem_names_iff
  · intro o ho
    obtain ⟨p, hp, hkey⟩ := exists_current ho
    have hmem := hholds.mem_names_iff.2 ⟨p, hp, rfl⟩
    refine ⟨p.name, ⟨hmem, hkey⟩, ?_⟩
    rintro listed ⟨hlisted, hsame⟩
    exact List.inj_on_of_nodup_map hholds.nodup_names hlisted hmem (hsame.trans hkey.symm)

/-- An operator that takes the place of the one that trims, which is then found in its stead. -/
theorem replaced_operator_found :
    let shout : CustomOperator := { name := "DEPCP:TRIM", apply := fun _ => pure (.string "") }
    let r := (standard .textual).register shout
    Registered r [.trim, .mathEqual .textual, shout] ∧ r.find? " depcp:Trim " = some shout ∧
      "depcp:Trim" ∉ r.names := by
  intro shout r
  have h : Registered r [.trim, .mathEqual .textual, shout] :=
    (Registered.standard .textual .registered).register shout
  have hcurrent : Current [.trim, .mathEqual .textual, shout] shout :=
    ⟨[.trim, .mathEqual .textual], [], rfl, by simp⟩
  have hnamed : shout.Named " depcp:Trim " :=
    show Text.SameButCase "DEPCP:TRIM" (Text.trim " depcp:Trim ") by decide
  obtain ⟨hfound, -, -, -, hlisted, hone⟩ := lookup_after_registrations h " depcp:Trim "
  refine ⟨h, hfound shout hcurrent hnamed, ?_⟩
  intro hold
  obtain ⟨listed, -, hunique⟩ := hone shout hcurrent.mem
  have hnew : "DEPCP:TRIM" ∈ r.names := (hlisted _).2 ⟨shout, hcurrent, rfl⟩
  have hsame : Text.SameButCase "depcp:Trim" "DEPCP:TRIM" := by decide
  have heq := (hunique _ ⟨hold, hsame⟩).trans (hunique _ ⟨hnew, rfl⟩).symm
  revert heq
  decide

end Registry

end Rubric
