import Mathlib
import Rubric.Node
import Rubric.Text.Case

namespace Rubric

namespace Text

theorem toLower_eq_iff {c d : Char} (hd : d.isAlpha = false) : c.toLower = d ↔ c = d := by
  constructor
  · rintro rfl
    have hc : c.isUpper = false := by
      rw [Char.isAlpha_toLower_eq_isAlpha, Char.isAlpha, Bool.or_eq_false_iff] at hd
      exact hd.1
    exact (Char.toLower_eq_of_not_isUpper (by simp [hc])).symm
  · rintro rfl
    rw [Char.isAlpha, Bool.or_eq_false_iff] at hd
    exact Char.toLower_eq_of_not_isUpper (by simp [hd.1])

section afterLast

variable {sep : Char} {cs : List Char}

theorem not_mem_afterLastChars (sep : Char) (cs : List Char) : sep ∉ afterLastChars sep cs := by
  intro h
  rw [afterLastChars, List.mem_reverse] at h
  simpa using List.mem_takeWhile_imp h

theorem afterLastChars_of_not_mem (h : sep ∉ cs) : afterLastChars sep cs = cs := by
  have hother : ∀ c ∈ cs.reverse, (c != sep) = true := by
    intro c hc
    rw [bne_iff_ne]
    rintro rfl
    exact h (List.mem_reverse.1 hc)
  rw [afterLastChars, List.takeWhile_eq_self_iff.2 hother, List.reverse_reverse]

theorem afterLastChars_append (sep : Char) (before after : List Char) :
    afterLastChars sep (before ++ sep :: after) = afterLastChars sep after := by
  have hsep : (sep :: before.reverse).takeWhile (· != sep) = [] := by simp
  rw [afterLastChars, afterLastChars, List.reverse_append, List.reverse_cons, List.append_assoc,
    List.singleton_append, List.takeWhile_append, hsep, List.append_nil]
  split
  · next h => rw [(List.takeWhile_prefix _).eq_of_length h]
  · rfl

end afterLast

theorem filter_intercalate {p : Char → Bool} {sep : List Char} (hsep : sep.filter p = [])
    (pieces : List (List Char)) :
    (sep.intercalate pieces).filter p = pieces.flatMap fun piece => piece.filter p := by
  induction pieces with
  | nil => rfl
  | cons piece rest ih =>
    cases rest with
    | nil => simp
    | cons next more =>
      simp only [List.intercalate_cons_cons, List.filter_append, hsep, ih, List.append_nil,
        List.flatMap_cons]

theorem lowerAscii_append (s t : String) : lowerAscii (s ++ t) = lowerAscii s ++ lowerAscii t := by
  rw [lowerAscii, String.toList_append, List.map_append, String.ofList_append, lowerAscii,
    lowerAscii]

theorem lowerAscii_join (words : List String) :
    lowerAscii (String.join words) = String.join (words.map lowerAscii) := by
  induction words with
  | nil => rfl
  | cons word rest ih =>
    rw [String.join_cons, lowerAscii_append, ih, List.map_cons, String.join_cons]

end Text

section normalForm

variable {tag : String}

/-- A tag that cannot be normalised further. -/
structure IsNormalTag (tag : String) : Prop where
  colonless : ':' ∉ tag.toList
  dashless : '-' ∉ tag.toList
  lowered : Text.lowerAscii tag = tag

theorem normalTag_namespaced (space tag : String) :
    normalTag (space ++ ":" ++ tag) = normalTag tag := by
  have hlist : (space ++ ":" ++ tag).toList = space.toList ++ ':' :: tag.toList := by simp
  rw [normalTag, normalTag, hlist, Text.afterLastChars_append]

theorem normalTag_of_dashless (hcolon : ':' ∉ tag.toList) (hdash : '-' ∉ tag.toList) :
    normalTag tag = Text.lowerAscii tag := by
  have hlowered : '-' ∉ tag.toList.map Char.toLower := by
    intro h
    obtain ⟨c, hc, hlower⟩ := List.mem_map.1 h
    exact hdash ((Text.toLower_eq_iff rfl).1 hlower ▸ hc)
  have hplain : ¬ "qti-".toList.isPrefixOf (tag.toList.map Char.toLower) = true := by
    intro h
    have hmem : '-' ∈ "qti-".toList := by decide
    exact hlowered ((List.isPrefixOf_iff_prefix.1 h).subset hmem)
  have hkept : (tag.toList.map Char.toLower).filter (· != '-') = tag.toList.map Char.toLower := by
    rw [List.filter_eq_self]
    intro c hc
    rw [bne_iff_ne]
    rintro rfl
    exact hlowered hc
  rw [normalTag, Text.afterLastChars_of_not_mem hcolon, if_neg hplain, hkept, Text.lowerAscii]

/-- Behind `qti-` only the dashes go, even where the words start with `qti` again. -/
theorem normalTag_prefixed (hcolon : ':' ∉ tag.toList) :
    normalTag ("qti-" ++ tag) =
      Text.lowerAscii (String.ofList (tag.toList.filter (· != '-'))) := by
  have hcolon' : ':' ∉ "qti-".toList ++ tag.toList := by
    rw [List.mem_append]
    exact fun h => h.elim (by decide) hcolon
  have hlowered : ("qti-".toList ++ tag.toList).map Char.toLower =
      "qti-".toList ++ tag.toList.map Char.toLower := by
    rw [List.map_append]
    rfl
  have hprefix : "qti-".toList.isPrefixOf ("qti-".toList ++ tag.toList.map Char.toLower) = true :=
    List.isPrefixOf_iff_prefix.2 (List.prefix_append _ _)
  have hdrop (cs : List Char) : ("qti-".toList ++ cs).drop 4 = cs := List.drop_left' rfl
  have hdash : ((· != '-') ∘ Char.toLower) = (· != '-') := by
    funext c
    rw [Function.comp_apply, Bool.eq_iff_iff, bne_iff_ne, bne_iff_ne, Ne, Text.toLower_eq_iff rfl]
  rw [normalTag, String.toList_append, Text.afterLastChars_of_not_mem hcolon', hlowered,
    if_pos hprefix, hdrop, List.filter_map, hdash, Text.lowerAscii, String.toList_ofList]

theorem isNormalTag_normalTag (tag : String) : IsNormalTag (normalTag tag) := by
  have hmem {d : Char} (h : d ∈ (normalTag tag).toList) :
      d ≠ '-' ∧ ∃ c ∈ Text.afterLastChars ':' tag.toList, c.toLower = d := by
    rw [normalTag, String.toList_ofList, List.mem_filter, bne_iff_ne] at h
    refine ⟨h.2, List.mem_map.1 ?_⟩
    have hd := h.1
    split at hd
    · exact List.mem_of_mem_drop hd
    · exact hd
  refine ⟨fun h => ?_, fun h => (hmem h).1 rfl, ?_⟩
  · obtain ⟨-, c, hc, hlower⟩ := hmem h
    obtain rfl := (Text.toLower_eq_iff rfl).1 hlower
    exact Text.not_mem_afterLastChars ':' tag.toList hc
  · have hfixed : ∀ d ∈ (normalTag tag).toList, d.toLower = d := by
      intro d hd
      obtain ⟨-, c, -, rfl⟩ := hmem hd
      exact Char.toLower_toLower_eq_toLower c
    rw [Text.lowerAscii, List.map_congr_left hfixed, List.map_id', String.ofList_toList]

theorem IsNormalTag.normalTag_eq (h : IsNormalTag tag) : normalTag tag = tag := by
  rw [normalTag_of_dashless h.colonless h.dashless, h.lowered]

end normalForm

section words

/-- Whether a text is a word of tags: small letters and digits. -/
def isTagWord (word : String) : Bool :=
  word.toList.all fun c => c.isLower || c.isDigit

def capitalized (word : String) : String :=
  match word.toList with
  | [] => ""
  | c :: cs => String.ofList (c.toUpper :: cs)

/-- Words as a tag in dashes, such as `qti-response-condition`. -/
def dashedTag (words : List String) : String :=
  "qti-" ++ "-".intercalate words

/-- Words as a tag in capitals, such as `responseCondition`. -/
def capitalTag : List String → String
  | [] => ""
  | first :: rest => first ++ String.join (rest.map capitalized)

variable {word : String} {words : List String}

theorem lowerAscii_capitalized (word : String) :
    Text.lowerAscii (capitalized word) = Text.lowerAscii word := by
  rw [capitalized]
  split
  · next h => rw [String.toList_eq_nil_iff.1 h]
  · next c cs h =>
    rw [Text.lowerAscii, Text.lowerAscii, h, String.toList_ofList, List.map_cons, List.map_cons,
      Char.toLower_toUpper_eq_toLower]

theorem lowerAscii_of_isTagWord (h : isTagWord word = true) : Text.lowerAscii word = word := by
  have hfixed : ∀ c ∈ word.toList, c.toLower = c := by
    intro c hc
    have hupper : ¬ c.isUpper = true := by
      have hletter := List.all_eq_true.1 h c hc
      grind [Char.isDigit, Char.isUpper, Char.isLower]
    exact Char.toLower_eq_of_not_isUpper hupper
  rw [Text.lowerAscii, List.map_congr_left hfixed, List.map_id', String.ofList_toList]

theorem not_mem_join_of_isTagWord (h : ∀ w ∈ words, isTagWord w = true) {c : Char}
    (hc : (c.isLower || c.isDigit) = false) : c ∉ (String.join words).toList := by
  rw [String.toList_join, List.mem_flatMap]
  rintro ⟨w, hw, hmem⟩
  have hletter := List.all_eq_true.1 (h w hw) c hmem
  rw [hc] at hletter
  cases hletter

theorem lowerAscii_join_of_isTagWord (h : ∀ w ∈ words, isTagWord w = true) :
    Text.lowerAscii (String.join words) = String.join words := by
  have hword : ∀ w ∈ words, Text.lowerAscii w = w := fun w hw => lowerAscii_of_isTagWord (h w hw)
  rw [Text.lowerAscii_join, List.map_congr_left hword, List.map_id']

theorem lowerAscii_capitalTag (h : ∀ w ∈ words, isTagWord w = true) :
    Text.lowerAscii (capitalTag words) = String.join words := by
  cases words with
  | nil => rfl
  | cons first rest =>
    have hword : ∀ w ∈ rest, (Text.lowerAscii ∘ capitalized) w = w :=
      fun w hw => (lowerAscii_capitalized w).trans (lowerAscii_of_isTagWord (h w (.tail _ hw)))
    have hrest : (rest.map capitalized).map Text.lowerAscii = rest := by
      rw [List.map_map, List.map_congr_left hword, List.map_id']
    rw [capitalTag, Text.lowerAscii_append, lowerAscii_of_isTagWord (h first (.head _)),
      Text.lowerAscii_join, hrest, String.join_cons]

theorem normalTag_capitalTag (h : ∀ w ∈ words, isTagWord w = true) :
    normalTag (capitalTag words) = String.join words := by
  have hother {c : Char} (hc : c.isAlpha = false) (hletter : (c.isLower || c.isDigit) = false) :
      c ∉ (capitalTag words).toList := by
    intro hmem
    have hlower : c.toLower ∈ (Text.lowerAscii (capitalTag words)).toList := by
      rw [Text.lowerAscii, String.toList_ofList]
      exact List.mem_map_of_mem hmem
    rw [lowerAscii_capitalTag h, (Text.toLower_eq_iff hc).2 rfl] at hlower
    exact not_mem_join_of_isTagWord h hletter hlower
  rw [normalTag_of_dashless (hother rfl rfl) (hother rfl rfl), lowerAscii_capitalTag h]

theorem filter_dashes (h : ∀ w ∈ words, isTagWord w = true) :
    ("-".intercalate words).toList.filter (· != '-') = (String.join words).toList := by
  have hword : ∀ w ∈ words, w.toList.filter (· != '-') = w.toList := by
    intro w hw
    rw [List.filter_eq_self]
    intro c hc
    rw [bne_iff_ne]
    rintro rfl
    exact absurd (List.all_eq_true.1 (h w hw) _ hc) (by decide)
  rw [String.toList_intercalate, Text.filter_intercalate rfl, List.flatMap_map, String.toList_join]
  exact List.flatMap_congr hword

theorem normalTag_dashedTag (h : ∀ w ∈ words, isTagWord w = true) :
    normalTag (dashedTag words) = String.join words := by
  have hcolon : ':' ∉ ("-".intercalate words).toList := by
    intro hmem
    have hkept : ':' ∈ ("-".intercalate words).toList.filter (· != '-') :=
      List.mem_filter.2 ⟨hmem, rfl⟩
    rw [filter_dashes h] at hkept
    exact not_mem_join_of_isTagWord h rfl hkept
  rw [dashedTag, normalTag_prefixed hcolon, filter_dashes h, String.ofList_toList,
    lowerAscii_join_of_isTagWord h]

/-- Words in either dialect, behind any namespace, have the words as their normal form. There may be
none, and one of them may be `qti`, since its prefix is taken off once only. A normal form stays as
it is when it is normalised again. -/
theorem normalTag_of_dialects :
    (∀ (space : String) (words : List String), (space = "" ∨ ∃ name, space = name ++ ":") →
      (∀ w ∈ words, isTagWord w = true) →
      normalTag (space ++ dashedTag words) = String.join words ∧
        normalTag (space ++ capitalTag words) = String.join words) ∧
    ∀ tag, normalTag (normalTag tag) = normalTag tag := by
  refine ⟨?_, fun tag => (isNormalTag_normalTag tag).normalTag_eq⟩
  intro space words hspace hwords
  have hlocal (tag : String) : normalTag (space ++ tag) = normalTag tag := by
    obtain rfl | ⟨name, rfl⟩ := hspace
    · rw [String.empty_append]
    · exact normalTag_namespaced name tag
  rw [hlocal, hlocal]
  exact ⟨normalTag_dashedTag hwords, normalTag_capitalTag hwords⟩

/-- A namespace of two parts, and a first word that looks like the prefix. -/
theorem normalTag_of_repeated_prefix :
    (∀ w ∈ ["qti", "2", "set"], isTagWord w = true) ∧ normalTag "x:qti:qti-qti-2-set" = "qti2set" ∧
      normalTag "x:qti:qti2Set" = "qti2set" ∧ normalTag "qti2set" = "qti2set" := by
  have hwords : ∀ w ∈ ["qti", "2", "set"], isTagWord w = true := by decide +kernel
  have hdashes : "x:qti:qti-qti-2-set" = "x:qti:" ++ dashedTag ["qti", "2", "set"] := by
    decide +kernel
  have hcapitals : "x:qti:qti2Set" = "x:qti:" ++ capitalTag ["qti", "2", "set"] := by
    decide +kernel
  have hspace : "x:qti:" = "" ∨ ∃ name, "x:qti:" = name ++ ":" :=
    .inr ⟨"x:qti", by decide +kernel⟩
  have hjoin : "qti2set" = String.join ["qti", "2", "set"] := by decide +kernel
  obtain ⟨hdialects, hagain⟩ := normalTag_of_dialects
  obtain ⟨hdashed, hcapital⟩ := hdialects "x:qti:" _ hspace hwords
  rw [← hdashes, ← hjoin] at hdashed
  rw [← hcapitals, ← hjoin] at hcapital
  have hnormal := hagain "x:qti:qti2Set"
  rw [hcapital] at hnormal
  exact ⟨hwords, hdashed, hcapital, hnormal⟩

end words

end Rubric
