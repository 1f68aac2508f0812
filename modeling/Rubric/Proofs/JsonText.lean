import Mathlib.Tactic.SplitIfs
import Rubric.Json.Reader
import Rubric.Json.Writer

namespace Rubric.Json

/-- A value without numbers whose arrays and objects are nested at most so many levels deep. -/
inductive Plain : Nat → Json → Prop
  | null {levels : Nat} : Plain levels .null
  | boolean {levels : Nat} (b : Bool) : Plain levels (.boolean b)
  | string {levels : Nat} (s : String) : Plain levels (.string s)
  | array {levels : Nat} {js : List Json} (h : ∀ j ∈ js, Plain levels j) :
    Plain (levels + 1) (.array js)
  | object {levels : Nat} {ms : List (String × Json)} (h : ∀ m ∈ ms, Plain levels m.2) :
    Plain (levels + 1) (.object ms)

section space

theorem skipSpace_cons_of_space {c : Char} (h : isSpace c = true) (cs : List Char) :
    skipSpace (c :: cs) = skipSpace cs := by
  rw [skipSpace, List.dropWhile_cons_of_pos h]
  rfl

theorem skipSpace_cons_of_not_space {c : Char} (h : isSpace c = false) (cs : List Char) :
    skipSpace (c :: cs) = c :: cs := by
  rw [skipSpace, List.dropWhile_cons_of_neg (by simp [h])]

@[simp]
theorem skipSpace_newline (level : Nat) (cs : List Char) :
    skipSpace (newline level ++ cs) = skipSpace cs := by
  have hspaces (n : Nat) : skipSpace (List.replicate n ' ' ++ cs) = skipSpace cs := by
    induction n with
    | zero => rfl
    | succ n ih => exact (skipSpace_cons_of_space rfl _).trans ih
  exact (skipSpace_cons_of_space rfl _).trans (hspaces _)

end space

section text

theorem not_surrogate (c : Char) : isLow c.toNat = false ∧ isHigh c.toNat = false := by
  have hvalid : c.toNat < 0xD800 ∨ 0xDFFF < c.toNat ∧ c.toNat < 0x110000 := c.valid
  simp only [isLow, isHigh, Bool.and_eq_false_iff, decide_eq_false_iff_not]
  omega

theorem joinUnits_map_toNat (cs : List Char) : joinUnits (cs.map Char.toNat) = some cs := by
  induction cs with
  | nil => rfl
  | cons c cs ih =>
    obtain ⟨hlow, hhigh⟩ := not_surrogate c
    rw [List.map_cons, joinUnits.eq_def]
    simp [hlow, hhigh, ih]

theorem hexValue?_controlChar {n : Nat} (h : n < 0x20) :
    Text.hexValue? ['0', '0', Text.hexChar (n / 16), Text.hexChar (n % 16)] = some n := by
  have hhigh := Text.hexDigit?_hexChar (n := n / 16) (by omega)
  have hlow := Text.hexDigit?_hexChar (n := n % 16) (by omega)
  have hzero : Text.hexDigit? '0' = some 0 := by decide
  simp only [Text.hexValue?, List.mapM_cons, List.mapM_nil, hhigh, hlow, hzero]
  simp
  omega

theorem readUnits_escaped {letter c : Char} {cs rest : List Char} {units : List Nat}
    (hletter : letter ≠ 'u') (hc : escaped? letter = some c)
    (h : readUnits cs = some (units, rest)) :
    readUnits ('\\' :: letter :: cs) = some (c.toNat :: units, rest) := by
  simp [readUnits, hletter, hc, h]

theorem readUnits_escapeChar (c : Char) {cs rest : List Char} {units : List Nat}
    (h : readUnits cs = some (units, rest)) :
    readUnits (escapeChar c ++ cs) = some (c.toNat :: units, rest) := by
  unfold escapeChar
  split_ifs with hquote hslash hb ht hn hf hr hcontrol
  · exact readUnits_escaped (by decide) (by subst hquote; rfl) h
  · exact readUnits_escaped (by decide) (by subst hslash; rfl) h
  · exact readUnits_escaped (by decide) (hb ▸ rfl) h
  · exact readUnits_escaped (by decide) (ht ▸ rfl) h
  · exact readUnits_escaped (by decide) (hn ▸ rfl) h
  · exact readUnits_escaped (by decide) (hf ▸ rfl) h
  · exact readUnits_escaped (by decide) (hr ▸ rfl) h
  · simp [readUnits, hexValue?_controlChar hcontrol, h]
  · simp [readUnits, hslash, hcontrol, h]

theorem readUnits_flatMap_escapeChar (cs rest : List Char) :
    readUnits (cs.flatMap escapeChar ++ '"' :: rest) = some (cs.map Char.toNat, rest) := by
  induction cs with
  | nil => rfl
  | cons c cs ih =>
    rw [List.flatMap_cons, List.append_assoc]
    exact readUnits_escapeChar c ih

theorem readText_quote (s : String) (rest : List Char) :
    readText (s.toList.flatMap escapeChar ++ '"' :: rest) = some (some s, rest) := by
  rw [readText, readUnits_flatMap_escapeChar]
  simp [joinUnits_map_toNat]

end text

section values

variable {steps levels level : Nat}

theorem Plain.exists_head {j : Json} (h : Plain levels j) (level : Nat) :
    ∃ c cs, j.prettyChars level = c :: cs ∧ isSpace c = false ∧ c ≠ ']' := by
  cases h with
  | null => exact ⟨_, _, rfl, by decide, by decide⟩
  | boolean b => cases b <;> exact ⟨_, _, rfl, by decide, by decide⟩
  | string s => exact ⟨_, _, rfl, by decide, by decide⟩
  | @array _ js h => cases js <;> exact ⟨_, _, rfl, by decide, by decide⟩
  | @object _ ms h => cases ms <;> exact ⟨_, _, rfl, by decide, by decide⟩

theorem readValue_newline (cs : List Char) :
    readValue steps levels (newline level ++ cs) = readValue steps levels cs := by
  cases steps with
  | zero => rfl
  | succ steps => rw [readValue, readValue, skipSpace_newline]

theorem readValue_space (cs : List Char) :
    readValue steps levels (' ' :: cs) = readValue steps levels cs := by
  cases steps with
  | zero => rfl
  | succ steps => rw [readValue, readValue, skipSpace_cons_of_space rfl]

theorem readElements_newline (cs : List Char) :
    readElements steps levels (newline level ++ cs) = readElements steps levels cs := by
  cases steps with
  | zero => rfl
  | succ steps => rw [readElements, readElements, readValue_newline]

theorem readMembers_newline (cs : List Char) :
    readMembers steps levels (newline level ++ cs) = readMembers steps levels cs := by
  cases steps with
  | zero => rfl
  | succ steps => rw [readMembers, readMembers, skipSpace_newline]

/-- A value is read back from the text that it is written as, whatever follows. -/
def ReadsBack (levels : Nat) (j : Json) : Prop :=
  ∀ level steps rest, (j.prettyChars level).length ≤ steps →
    readValue steps levels (j.prettyChars level ++ rest) = some (j, rest)

theorem prettyElements_cons_cons (level : Nat) (j k : Json) (js : List Json) :
    prettyElements level (j :: k :: js) =
      j.prettyChars level ++ ',' :: (newline level ++ prettyElements level (k :: js)) := by
  rw [prettyElements]
  exact List.cons_ne_nil _ _

theorem prettyMembers_cons_cons (level : Nat) (key : String) (j : Json) (m : String × Json)
    (ms : List (String × Json)) :
    prettyMembers level ((key, j) :: m :: ms) =
      quote key ++ ':' :: ' ' ::
        (j.prettyChars level ++ ',' :: (newline level ++ prettyMembers level (m :: ms))) := by
  rw [prettyMembers]
  exact List.cons_ne_nil _ _

theorem readElements_prettyElements {js : List Json} (hne : js ≠ [])
    (h : ∀ j ∈ js, ReadsBack levels j) (level outer steps : Nat) (rest : List Char)
    (hsteps : (prettyElements level js).length < steps) :
    readElements steps levels (prettyElements level js ++ (newline outer ++ ']' :: rest)) =
      some (js, rest) := by
  induction js generalizing steps with
  | nil => exact absurd rfl hne
  | cons j js ih =>
    obtain ⟨steps, rfl⟩ := Nat.exists_eq_succ_of_ne_zero (Nat.ne_zero_of_lt hsteps)
    cases js with
    | nil =>
      rw [prettyElements] at hsteps ⊢
      rw [readElements, h j (.head _) level steps _ (by omega)]
      simp [skipSpace_cons_of_not_space (c := ']') rfl]
    | cons k js =>
      rw [prettyElements_cons_cons, List.length_append, List.length_cons,
        List.length_append] at hsteps
      have hrest := ih (List.cons_ne_nil _ _) (fun i hi => h i (.tail _ hi)) steps (by omega)
      rw [prettyElements_cons_cons, List.append_assoc, List.cons_append, List.append_assoc,
        readElements, h j (.head _) level steps _ (by omega)]
      simp [skipSpace_cons_of_not_space (c := ',') rfl, readElements_newline, hrest]

theorem readMembers_quote {key : String} {j : Json} {cs rest : List Char}
    (h : readValue steps levels cs = some (j, rest)) :
    readMembers (steps + 1) levels (quote key ++ ':' :: ' ' :: cs) =
      match skipSpace rest with
      | '}' :: rest => some ([(some key, j)], rest)
      | ',' :: rest =>
        (readMembers steps levels rest).bind fun r => some ((some key, j) :: r.1, r.2)
      | _ => none := by
  have hquote : quote key ++ ':' :: ' ' :: cs =
      '"' :: (key.toList.flatMap escapeChar ++ '"' :: ':' :: ' ' :: cs) := by
    simp [quote]
  rw [readMembers, hquote, skipSpace_cons_of_not_space rfl]
  simp only [readText_quote, Option.bind_eq_bind, Option.bind_some]
  rw [skipSpace_cons_of_not_space rfl]
  simp only [readValue_space, h, Option.bind_some]
  rfl

theorem readMembers_prettyMembers {ms : List (String × Json)} (hne : ms ≠ [])
    (h : ∀ m ∈ ms, ReadsBack levels m.2) (level outer steps : Nat) (rest : List Char)
    (hsteps : (prettyMembers level ms).length < steps) :
    readMembers steps levels (prettyMembers level ms ++ (newline outer ++ '}' :: rest)) =
      some (ms.map fun m => (some m.1, m.2), rest) := by
  induction ms generalizing steps with
  | nil => exact absurd rfl hne
  | cons m ms ih =>
    obtain ⟨key, j⟩ := m
    obtain ⟨steps, rfl⟩ := Nat.exists_eq_succ_of_ne_zero (Nat.ne_zero_of_lt hsteps)
    have hj : ReadsBack levels j := h _ (.head _)
    cases ms with
    | nil =>
      rw [prettyMembers] at hsteps ⊢
      simp only [List.length_append, List.length_cons] at hsteps
      rw [List.append_assoc, List.cons_append, List.cons_append,
        readMembers_quote (hj level steps _ (by omega))]
      simp [skipSpace_cons_of_not_space (c := '}') rfl]
    | cons d ms =>
      rw [prettyMembers_cons_cons] at hsteps ⊢
      simp only [List.length_append, List.length_cons] at hsteps
      have hrest := ih (List.cons_ne_nil _ _) (fun m hm => h m (.tail _ hm)) steps (by omega)
      rw [List.append_assoc, List.cons_append, List.cons_append, List.append_assoc,
        readMembers_quote (hj level steps _ (by omega))]
      simp [skipSpace_cons_of_not_space (c := ',') rfl, readMembers_newline, hrest]

theorem ofMembers_map_some (ms : List (String × Json)) :
    ofMembers (ms.map fun m => (some m.1, m.2)) = .object ms := by
  have hmembers : (ms.map fun m => (some m.1, m.2)).mapM
      (fun m : Option String × Json => m.1.map fun key => (key, m.2)) = some ms := by
    induction ms with
    | nil => rfl
    | cons m ms ih =>
      rw [List.map_cons, List.mapM_cons, ih]
      rfl
  rw [ofMembers, hmembers]

theorem Plain.exists_head_prettyElements {j : Json} (h : Plain levels j) (level : Nat)
    (js : List Json) :
    ∃ c cs, prettyElements level (j :: js) = c :: cs ∧ isSpace c = false ∧ c ≠ ']' := by
  obtain ⟨c, cs, hcs, hc⟩ := h.exists_head level
  cases js with
  | nil => exact ⟨c, cs, hcs, hc⟩
  | cons k js =>
    rw [prettyElements_cons_cons, hcs]
    exact ⟨c, _, rfl, hc⟩

theorem exists_head_prettyMembers (level : Nat) (m : String × Json) (ms : List (String × Json)) :
    ∃ cs, prettyMembers level (m :: ms) = '"' :: cs := by
  obtain ⟨key, j⟩ := m
  cases ms with
  | nil => exact ⟨_, rfl⟩
  | cons d ms =>
    rw [prettyMembers_cons_cons]
    exact ⟨_, rfl⟩

theorem ReadsBack.of_succ {j : Json} (hj : Plain levels j)
    (h : ∀ level steps rest, (j.prettyChars level).length ≤ steps + 1 →
      readValue (steps + 1) levels (j.prettyChars level ++ rest) = some (j, rest)) :
    ReadsBack levels j := by
  intro level steps rest hsteps
  cases steps with
  | zero =>
    obtain ⟨c, cs, hcs, -⟩ := hj.exists_head level
    rw [hcs] at hsteps
    exact absurd hsteps (Nat.not_succ_le_zero _)
  | succ steps => exact h level steps rest hsteps

theorem Plain.readsBack_array {js : List Json} (hjs : ∀ j ∈ js, Plain levels j)
    (h : ∀ j ∈ js, ReadsBack levels j) : ReadsBack (levels + 1) (.array js) := by
  apply ReadsBack.of_succ (.array hjs)
  intro level steps rest hsteps
  cases js with
  | nil => rfl
  | cons j js =>
    rw [prettyChars] at hsteps ⊢
    simp only [List.length_append, List.length_cons, newline] at hsteps
    obtain ⟨c, cs, hcs, hspace, hc⟩ :=
      (hjs j (.head _)).exists_head_prettyElements (level + 1) js
    have helements := readElements_prettyElements (List.cons_ne_nil j js) h (level + 1) level steps
      rest (by omega)
    rw [hcs, List.cons_append] at helements
    rw [readValue, List.cons_append, skipSpace_cons_of_not_space rfl, hcs]
    simp only [List.append_assoc, skipSpace_newline, List.cons_append,
      skipSpace_cons_of_not_space hspace]
    split
    · next heq => exact absurd (List.cons.inj heq).1 hc
    · simp [helements, nested]

theorem Plain.readsBack_object {ms : List (String × Json)} (hms : ∀ m ∈ ms, Plain levels m.2)
    (h : ∀ m ∈ ms, ReadsBack levels m.2) : ReadsBack (levels + 1) (.object ms) := by
  apply ReadsBack.of_succ (.object hms)
  intro level steps rest hsteps
  cases ms with
  | nil => rfl
  | cons m ms =>
    rw [prettyChars] at hsteps ⊢
    simp only [List.length_append, List.length_cons, newline] at hsteps
    obtain ⟨cs, hcs⟩ := exists_head_prettyMembers (level + 1) m ms
    have hmembers := readMembers_prettyMembers (List.cons_ne_nil m ms) h (level + 1) level steps
      rest (by omega)
    rw [hcs, List.cons_append] at hmembers
    rw [readValue, List.cons_append, skipSpace_cons_of_not_space rfl, hcs]
    simp only [List.append_assoc, skipSpace_newline, List.cons_append,
      skipSpace_cons_of_not_space (c := '"') rfl]
    simp [hmembers, nested, ofMembers_map_some, -List.map_cons]

/-- Plain values are read back, by induction on how they are nested: a value takes no more steps
than its text has characters. -/
theorem Plain.readsBack {j : Json} (h : Plain levels j) : ReadsBack levels j := by
  induction h with
  | null => exact .of_succ .null fun _ _ _ _ => rfl
  | boolean b =>
    apply ReadsBack.of_succ (.boolean b)
    intro level steps rest _
    cases b <;> rfl
  | string s =>
    apply ReadsBack.of_succ (.string s)
    intro level steps rest _
    rw [prettyChars, quote, readValue, List.cons_append, skipSpace_cons_of_not_space rfl]
    simp [readText_quote]
  | array hjs ih => exact readsBack_array hjs ih
  | object hms ih => exact readsBack_object hms ih

theorem ofText?_pretty {j : Json} (h : Plain maxLevels j) : ofText? j.pretty = some j := by
  have hread := h.readsBack 0 (2 * (j.prettyChars 0).length + 2) [] (by omega)
  rw [List.append_nil] at hread
  rw [ofText?, pretty, String.toList_ofList]
  simp only [hread, Option.bind_eq_bind, Option.bind_some]
  rfl

end values

end Rubric.Json
