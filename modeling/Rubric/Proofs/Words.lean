import Mathlib.Data.List.TakeWhile
import Rubric.Text.Blank

namespace Rubric.Text

def firstWord (s : String) : String :=
  String.ofList (s.toList.takeWhile fun c => !isBlank c)

theorem dropWhile_eq_nil {cs : List Char} : cs.dropWhile isBlank = [] ↔ cs.all isBlank = true := by
  rw [List.dropWhile_eq_nil_iff, List.all_eq_true]

theorem trimChars_eq_nil {cs : List Char} : trimChars cs = [] ↔ cs.all isBlank = true := by
  have hback : trimChars cs = [] ↔ (cs.dropWhile isBlank).all isBlank = true := by
    rw [trimChars, List.reverse_eq_nil_iff, dropWhile_eq_nil, List.all_reverse]
  rw [hback]
  constructor
  · intro h
    cases hd : cs.dropWhile isBlank with
    | nil => exact dropWhile_eq_nil.1 hd
    | cons c rest =>
      have hc : isBlank c = false := by
        have hhead := List.head?_dropWhile_not isBlank cs
        simpa [hd] using hhead
      rw [hd, List.all_cons, hc] at h
      cases h
  · intro h
    rw [dropWhile_eq_nil.2 h]
    rfl

theorem isEmpty_trim (s : String) : (trim s).isEmpty = allBlank s := by
  rw [Bool.eq_iff_iff, String.isEmpty_iff, trim, allBlank, ← trimChars_eq_nil]
  exact String.ofList_eq_empty_iff

theorem isBlank_of_trimChars {cs rest : List Char} {c : Char} (h : trimChars cs = c :: rest) :
    isBlank c = false := by
  have hfront : trimChars cs <+: cs.dropWhile isBlank := by
    rw [trimChars, ← List.reverse_suffix, List.reverse_reverse]
    exact List.dropWhile_suffix isBlank
  obtain ⟨more, hmore⟩ := hfront
  have hhead := List.head?_dropWhile_not isBlank cs
  rw [← hmore, h] at hhead
  simpa using hhead

theorem wordsFrom_of_ne_nil {word : List Char} (hw : word ≠ []) (cs : List Char) :
    ∃ others, wordsFrom word cs = (word.reverse ++ cs.takeWhile fun c => !isBlank c) :: others := by
  induction cs generalizing word with
  | nil => exact ⟨[], by simp [wordsFrom, hw]⟩
  | cons c cs ih =>
    by_cases hc : isBlank c = true
    · exact ⟨wordsFrom [] cs, by simp [wordsFrom, hc, hw]⟩
    · obtain ⟨others, ho⟩ := ih (List.cons_ne_nil c word)
      exact ⟨others, by simp [wordsFrom, hc, ho]⟩

theorem head?_words {s : String} {c : Char} {rest : List Char} (hs : s.toList = c :: rest)
    (hc : isBlank c = false) : (words s).head? = some (firstWord s) := by
  obtain ⟨others, ho⟩ := wordsFrom_of_ne_nil (List.cons_ne_nil c []) rest
  simp [words, firstWord, hs, wordsFrom, hc, ho]

theorem head?_words_trim {s : String} (hs : allBlank s = false) :
    (words (trim s)).head? = some (firstWord (trim s)) := by
  cases ht : trimChars s.toList with
  | nil =>
    have hb : allBlank s = true := trimChars_eq_nil.1 ht
    rw [hb] at hs
    cases hs
  | cons c rest =>
    have hlist : (trim s).toList = c :: rest := by rw [trim, String.toList_ofList, ht]
    exact head?_words hlist (isBlank_of_trimChars ht)

end Rubric.Text
