import Mathlib.Data.List.Count
import Rubric.Text.Case
import Rubric.Text.Search

namespace Rubric.Text

/-- Whether the first character of a list that is not case-ignorable has a case, if there is one. -/
def nearestCased? (cs : List Char) : Option Bool :=
  (cs.find? fun c => !isCaseIgnorable c).map isCased

theorem reachesCased_append (xs ys : List Char) :
    reachesCased (xs ++ ys) = (nearestCased? xs).getD (reachesCased ys) := by
  induction xs with
  | nil => rfl
  | cons x xs ih =>
    rw [reachesCased, nearestCased?, List.cons_append, List.dropWhile_cons, List.find?_cons]
    cases isCaseIgnorable x with
    | true => exact ih
    | false => rfl

theorem reachesCased_eq (xs : List Char) : reachesCased xs = (nearestCased? xs).getD false := by
  have h := reachesCased_append xs []
  rwa [List.append_nil] at h

/-- The lower case of a capital sigma between `before`, last character first, and `after`. -/
def sigmaBetween (before after : List Char) : Char :=
  if reachesCased before && !reachesCased after then Char.ofNat 0x3C2 else Char.ofNat 0x3C3

/-- The lower case of a list of characters between `before`, last character first, and `after`. -/
def lowerBetween (before after : List Char) : List Char → List Char
  | [] => []
  | c :: cs =>
    (if c.toNat = 0x3A3 then [sigmaBetween before (cs ++ after)] else lowerChar c) ++
      lowerBetween (c :: before) after cs

theorem lowerFrom_append (before cs after : List Char) :
    lowerFrom before (cs ++ after) =
      lowerBetween before after cs ++ lowerFrom (cs.reverse ++ before) after := by
  induction cs generalizing before with
  | nil => rfl
  | cons c cs ih =>
    rw [List.cons_append, lowerFrom, lowerBetween, ih (c :: before), List.reverse_cons,
      List.append_assoc]
    by_cases h : c.toNat = 0x3A3
    · simp [h, sigmaBetween]
    · simp [h]

theorem lowerFrom_eq (before cs : List Char) :
    lowerFrom before cs = lowerBetween before [] cs := by
  simpa [lowerFrom] using lowerFrom_append before cs []

theorem lowerBetween_append (before xs ys after : List Char) :
    lowerBetween before after (xs ++ ys) =
      lowerBetween before (ys ++ after) xs ++ lowerBetween (xs.reverse ++ before) after ys := by
  induction xs generalizing before with
  | nil => rfl
  | cons x xs ih =>
    rw [List.cons_append, lowerBetween, lowerBetween, ih (x :: before), List.reverse_cons]
    simp only [List.append_assoc, List.singleton_append]

/-- A capital sigma whose lower case is settled by what stands directly before and after it. -/
def SigmaSettled (before after : List Char) : Prop :=
  nearestCased? before = some false ∨ nearestCased? after = some true ∨
    ((nearestCased? before).isSome = true ∧ (nearestCased? after).isSome = true)

instance (before after : List Char) : Decidable (SigmaSettled before after) :=
  inferInstanceAs (Decidable (_ ∨ _))

theorem sigmaBetween_append {p q : List Char} (h : SigmaSettled p q) (before after : List Char) :
    sigmaBetween (p ++ before) (q ++ after) = sigmaBetween p q := by
  simp only [sigmaBetween, reachesCased_append, reachesCased_eq p, reachesCased_eq q]
  rcases h with hp | hq | ⟨hp, hq⟩
  · simp [hp]
  · simp [hq]
  · obtain ⟨x, hx⟩ := Option.isSome_iff_exists.1 hp
    obtain ⟨y, hy⟩ := Option.isSome_iff_exists.1 hq
    simp [hx, hy]

/-- A text in which the lower case of every capital sigma is settled, whatever it stands in. -/
def CaseSettled (cs : List Char) : Prop :=
  ∀ p c q, cs = p ++ c :: q → c.toNat = 0x3A3 → SigmaSettled p.reverse q

theorem lowerBetween_of_settled {cs : List Char} (h : CaseSettled cs) (before after : List Char) :
    lowerBetween before after cs = lowerFrom [] cs := by
  -- The induction goes along the text, whose characters before the current one are `p`.
  have hrest : ∀ p rest, cs = p ++ rest →
      lowerBetween (p.reverse ++ before) after rest = lowerBetween p.reverse [] rest := by
    intro p rest
    induction rest generalizing p with
    | nil => exact fun _ => rfl
    | cons c rest ih =>
      intro hcs
      have htail := ih (p ++ [c]) (by simpa using hcs)
      rw [List.reverse_append, List.reverse_singleton, List.singleton_append] at htail
      rw [lowerBetween, lowerBetween, List.append_nil, ← htail]
      by_cases hc : c.toNat = 0x3A3
      · rw [if_pos hc, if_pos hc, sigmaBetween_append (h p c rest hcs hc)]
        rfl
      · rw [if_neg hc, if_neg hc]
        rfl
  rw [lowerFrom_eq]
  exact hrest [] cs rfl

theorem containsChars_lowerFrom {cs haystack : List Char} (h : CaseSettled cs)
    (hcontains : containsChars cs haystack = true) :
    containsChars (lowerFrom [] cs) (lowerFrom [] haystack) = true := by
  obtain ⟨before, after, rfl⟩ := containsChars_iff.1 hcontains
  rw [containsChars_iff, List.append_assoc, lowerFrom_append, lowerFrom_append,
    lowerBetween_of_settled h, ← List.append_assoc]
  exact ⟨_, _, rfl⟩

theorem reachesCased_append_of_imp {ys ys' : List Char}
    (h : reachesCased ys = true → reachesCased ys' = true) (xs : List Char) :
    reachesCased (xs ++ ys) = true → reachesCased (xs ++ ys') = true := by
  rw [reachesCased_append, reachesCased_append]
  cases nearestCased? xs with
  | none => exact h
  | some _ => exact id

section count

variable {before after before' after' : List Char}

theorem count_sigmaBetween (before after : List Char) :
    [sigmaBetween before after].count (Char.ofNat 0x3C2) =
        (if reachesCased before && !reachesCased after then 1 else 0) ∧
      [sigmaBetween before after].count (Char.ofNat 0x3C3) =
        (if reachesCased before && !reachesCased after then 0 else 1) := by
  rw [sigmaBetween]
  split
  · decide
  · decide

theorem count_sigmaBetween_le (hbefore : reachesCased before = true → reachesCased before' = true)
    (hafter : reachesCased after' = true → reachesCased after = true) :
    [sigmaBetween before after].count (Char.ofNat 0x3C2) ≤
        [sigmaBetween before' after'].count (Char.ofNat 0x3C2) ∧
      [sigmaBetween before' after'].count (Char.ofNat 0x3C3) ≤
        [sigmaBetween before after].count (Char.ofNat 0x3C3) := by
  simp only [count_sigmaBetween]
  cases hb : reachesCased before <;> cases ha : reachesCased after <;>
    cases hb' : reachesCased before' <;> cases ha' : reachesCased after' <;> simp_all

/-- More with a case before a text and less of it behind make final sigmas of others. -/
theorem count_lowerBetween_le (hbefore : reachesCased before = true → reachesCased before' = true)
    (hafter : reachesCased after' = true → reachesCased after = true) (cs : List Char) :
    (lowerBetween before after cs).count (Char.ofNat 0x3C2) ≤
        (lowerBetween before' after' cs).count (Char.ofNat 0x3C2) ∧
      (lowerBetween before' after' cs).count (Char.ofNat 0x3C3) ≤
        (lowerBetween before after cs).count (Char.ofNat 0x3C3) := by
  induction cs generalizing before before' with
  | nil => exact ⟨Nat.le_refl _, Nat.le_refl _⟩
  | cons c cs ih =>
    obtain ⟨hfinal, hother⟩ := ih (reachesCased_append_of_imp hbefore [c])
    obtain ⟨hfinal', hother'⟩ :=
      count_sigmaBetween_le hbefore (reachesCased_append_of_imp hafter cs)
    simp only [List.singleton_append] at hfinal hother
    simp only [lowerBetween, List.count_append]
    split
    · omega
    · omega

theorem count_lowerBetween_lt (hbefore : reachesCased before = true → reachesCased before' = true)
    (hafter : reachesCased after' = true → reachesCased after = true) {p q : List Char} {c : Char}
    (hc : c.toNat = 0x3A3)
    (hother : (reachesCased (p.reverse ++ before) && !reachesCased (q ++ after)) = false)
    (hfinal : (reachesCased (p.reverse ++ before') && !reachesCased (q ++ after')) = true) :
    (lowerBetween before after (p ++ c :: q)).count (Char.ofNat 0x3C2) <
        (lowerBetween before' after' (p ++ c :: q)).count (Char.ofNat 0x3C2) ∧
      (lowerBetween before' after' (p ++ c :: q)).count (Char.ofNat 0x3C3) <
        (lowerBetween before after (p ++ c :: q)).count (Char.ofNat 0x3C3) := by
  have hp := count_lowerBetween_le hbefore (reachesCased_append_of_imp hafter (c :: q)) p
  have hq := count_lowerBetween_le
    (reachesCased_append_of_imp (reachesCased_append_of_imp hbefore p.reverse) [c]) hafter q
  have hsigma := count_sigmaBetween (p.reverse ++ before) (q ++ after)
  have hsigma' := count_sigmaBetween (p.reverse ++ before') (q ++ after')
  rw [hother] at hsigma
  rw [hfinal] at hsigma'
  simp only [List.singleton_append] at hq
  simp only [lowerBetween_append, lowerBetween, if_pos hc, List.count_append, hsigma, hsigma',
    Bool.false_eq_true, reduceIte]
  omega

end count

theorem count_le_of_containsChars {xs ys : List Char} (h : containsChars xs ys = true) (c : Char) :
    xs.count c ≤ ys.count c := by
  obtain ⟨before, after, rfl⟩ := containsChars_iff.1 h
  simp only [List.count_append]
  omega

theorem reachesCased_letter : reachesCased ['a'] = true := by
  decide +kernel

section letter

variable {p q : List Char} {c : Char}

theorem lowerFrom_append_letter (hc : c.toNat = 0x3A3) (hp : nearestCased? p.reverse = some true)
    (hq : nearestCased? q = none) :
    containsChars (lowerFrom [] (p ++ c :: q)) (lowerFrom [] ((p ++ c :: q) ++ ['a'])) = false := by
  have hhaystack : lowerFrom [] ((p ++ c :: q) ++ ['a']) =
      lowerBetween [] ['a'] (p ++ c :: q) ++ ['a'] := lowerFrom_append [] (p ++ c :: q) ['a']
  have hother : (reachesCased (p.reverse ++ []) && !reachesCased (q ++ ['a'])) = false := by
    simp [reachesCased_append, hq, reachesCased_letter]
  have hfinal : (reachesCased (p.reverse ++ []) && !reachesCased (q ++ [])) = true := by
    simp [reachesCased_eq, hp, hq]
  obtain ⟨hlt, -⟩ := count_lowerBetween_lt id (fun h => Bool.noConfusion h) hc hother hfinal
  rw [Bool.eq_false_iff]
  intro hcontains
  have hle := count_le_of_containsChars hcontains (Char.ofNat 0x3C2)
  rw [hhaystack, lowerFrom_eq, List.count_append] at hle
  have hnone : ['a'].count (Char.ofNat 0x3C2) = 0 := by decide
  omega

/-- With a letter before it the text gains a final sigma in the place of another. -/
theorem lowerFrom_letter_append (hc : c.toNat = 0x3A3) (hp : nearestCased? p.reverse = none)
    (hq : nearestCased? q ≠ some true) :
    containsChars (lowerFrom [] (p ++ c :: q)) (lowerFrom [] (['a'] ++ (p ++ c :: q))) = false := by
  have hhaystack : lowerFrom [] (['a'] ++ (p ++ c :: q)) =
      ['a'] ++ lowerBetween ['a'] [] (p ++ c :: q) := by
    rw [lowerFrom_append [] ['a'], lowerFrom_eq]
    rfl
  have hq' : reachesCased q = false := by
    rw [reachesCased_eq]
    cases h : nearestCased? q with
    | none => rfl
    | some y => cases y with
      | false => rfl
      | true => exact absurd h hq
  have hother : (reachesCased (p.reverse ++ []) && !reachesCased (q ++ [])) = false := by
    simp [reachesCased_eq, hp]
  have hfinal : (reachesCased (p.reverse ++ ['a']) && !reachesCased (q ++ [])) = true := by
    simp [reachesCased_append, hp, hq', reachesCased_letter]
  obtain ⟨-, hlt⟩ := count_lowerBetween_lt (fun h => Bool.noConfusion h) id hc hother hfinal
  rw [Bool.eq_false_iff]
  intro hcontains
  have hle := count_le_of_containsChars hcontains (Char.ofNat 0x3C3)
  rw [hhaystack, lowerFrom_eq, List.count_append] at hle
  have hnone : ['a'].count (Char.ofNat 0x3C3) = 0 := by decide
  omega

end letter

/-- The lower case of a text occurs in that of every text around it exactly when it is settled. -/
theorem caseSettled_iff {cs : List Char} :
    CaseSettled cs ↔ ∀ haystack, containsChars cs haystack = true →
      containsChars (lowerFrom [] cs) (lowerFrom [] haystack) = true := by
  refine ⟨fun h haystack => containsChars_lowerFrom h, fun h p c q hcs hc => ?_⟩
  subst hcs
  have hafter := h _ (containsChars_iff.2 ⟨[], ['a'], rfl⟩)
  have hbefore := h _ (containsChars_iff.2 ⟨['a'], [], (List.append_nil _).symm⟩)
  -- A letter on the open side changes how many of the small sigmas are final ones.
  by_contra hopen
  obtain ⟨hp, hq, hsides⟩ : nearestCased? p.reverse ≠ some false ∧ nearestCased? q ≠ some true ∧
      ¬((nearestCased? p.reverse).isSome = true ∧ (nearestCased? q).isSome = true) := by
    simpa [SigmaSettled, not_or] using hopen
  cases hp' : nearestCased? p.reverse with
  | none =>
    rw [lowerFrom_letter_append hc hp' hq] at hbefore
    cases hbefore
  | some x =>
    cases x with
    | false => exact hp hp'
    | true =>
      have hq' : nearestCased? q = none := by
        rw [← Option.not_isSome_iff_eq_none]
        exact fun h => hsides ⟨hp' ▸ rfl, h⟩
      rw [List.nil_append, lowerFrom_append_letter hc hp' hq'] at hafter
      cases hafter

end Rubric.Text
